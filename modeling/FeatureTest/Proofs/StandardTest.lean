import FeatureTest.Proofs.FirstMatch
import FeatureTest.Proofs.TimelineOrder
import FeatureTest.Proofs.WellFormed

/-!
What a test for `since` asks, and where a timeline puts the same number: a compiler is past the
watermark before a standard just when its `__cplusplus` belongs to that standard or a later one.
-/
namespace FeatureTest
open Success

namespace Ladder

variable {ladder : Ladder}

theorem getElem_names (rung : ladder.Rung) :
    ladder.names[rung.val]? = some (ladder.standard rung).name := by
  have hnames : ladder.standards.map (·.name) = ladder.names := by
    simp [standards, names, Function.comp_def]
  rw [← hnames, List.getElem?_map, getElem_standards]
  rfl

/-- Looking up a standard's own name gives the standard back. -/
theorem rung_of_standard (rung : ladder.Rung) :
    ladder.rung? (ladder.standard rung).name = some rung := by
  obtain ⟨hlt, hget⟩ := List.getElem?_eq_some_iff.mp (getElem_names rung)
  have hidx : ladder.names.idxOf (ladder.standard rung).name = rung.val := by
    rw [← hget]
    exact List.Nodup.idxOf_getElem ladder.distinct rung.val hlt
  unfold rung?
  simp only [hidx, rung.isLt, ↓reduceDIte]

/-- The standard that is found by a name has that name. -/
theorem standard_of_rung {name : String} {rung : ladder.Rung} (h : ladder.rung? name = some rung) :
    (ladder.standard rung).name = name := by
  have hfound : ladder.names[ladder.names.idxOf name]? = some name :=
    List.getElem?_idxOf (rung_isSome.mp (by rw [h]; rfl))
  unfold rung? at h
  split at h
  · obtain rfl := Option.some.inj h
    exact Option.some.inj ((getElem_names _).symm.trans hfound)
  · cases h

theorem previous_watermark_zero {rung : ladder.Rung} (h : rung.val = 0) :
    ladder.previousWatermark rung = none := by
  unfold previousWatermark
  rw [h]

/-- Every standard but the first has a published one before it, whose watermark it is tested by. -/
theorem watermark_before {n : Nat} (h : n + 1 < ladder.size) :
    ∃ hn : n < ladder.published.length,
      ladder.watermark ⟨n, Nat.lt_of_succ_lt h⟩ = some ladder.published[n].watermark ∧
      ladder.previousWatermark ⟨n + 1, h⟩ = some ladder.published[n].watermark := by
  have hn : n < ladder.published.length := Nat.succ_lt_succ_iff.mp h
  refine ⟨hn, watermark_published hn, ?_⟩
  unfold previousWatermark
  simp [List.getElem?_eq_getElem hn]

/-- Being past the watermark before a standard is belonging to it or to a later one. -/
theorem past_previous_iff {rung : ladder.Rung} {value : Nat} :
    (ladder.previousWatermark rung).all (· < value) = true ↔ rung ≤ ladder.narrowestFor value := by
  obtain ⟨n, hn⟩ := rung
  cases n with
  | zero =>
    rw [previous_watermark_zero rfl]
    exact iff_of_true rfl (Nat.zero_le _)
  | succ n =>
    obtain ⟨hlt, hw, hprevious⟩ := watermark_before hn
    rw [hprevious]
    calc
      Option.all (· < value) (some ladder.published[n].watermark) = true
        ↔ ¬ value ≤ ladder.published[n].watermark := by simp
      _ ↔ ¬ ladder.narrowestFor value ≤ ⟨n, Nat.lt_of_succ_lt hn⟩ := by
        rw [narrowest_le, hw]
        simp
      _ ↔ ⟨n + 1, hn⟩ ≤ ladder.narrowestFor value := Fin.not_le

/-- A watermark belongs to its own standard. -/
theorem narrowest_of_watermark {rung : ladder.Rung} {w : Nat}
    (h : ladder.watermark rung = some w) : ladder.narrowestFor w = rung := by
  apply Fin.le_antisymm
  · rw [narrowest_le, h]
    simp
  · rw [← past_previous_iff]
    obtain ⟨n, hn⟩ := rung
    cases n with
    | zero =>
      rw [previous_watermark_zero rfl]
      rfl
    | succ n =>
      rcases published_or_final (⟨n + 1, hn⟩ : ladder.Rung) with hlt | hfinal
      · obtain ⟨hbefore, -, hprevious⟩ := watermark_before hn
        have hrise := List.pairwise_iff_getElem.mp ladder.increasing n (n + 1) hbefore hlt
          (Nat.lt_succ_self n)
        rw [watermark_published hlt, Option.some.injEq] at h
        rw [hprevious]
        simpa [← h] using hrise
      · rw [hfinal, watermark_final] at h
        cases h

theorem watermark_le_last {last : Revision} (h : last ∈ ladder.published.getLast?) :
    ∀ r ∈ ladder.published, r.watermark ≤ last.watermark := by
  have hsplit := List.dropLast_append_getLast? last h
  have hrise := ladder.increasing
  rw [← hsplit, List.pairwise_append] at hrise
  intro r hr
  rw [← hsplit] at hr
  rcases List.mem_append.mp hr with hr | hr
  · exact Nat.le_of_lt (hrise.2.2 r hr last (List.mem_singleton_self last))
  · exact Nat.le_of_eq (congrArg _ (List.mem_singleton.mp hr))

/-- Whatever lies past the last watermark belongs to the working draft. -/
theorem narrowest_past_last {value : Nat}
    (h : ∀ last ∈ ladder.published.getLast?, last.watermark < value) :
    ladder.narrowestFor value = ladder.final := by
  rcases published_or_final (ladder.narrowestFor value) with hlt | hfinal
  · exfalso
    have hcovers := narrowest_le.mp (Fin.le_refl (ladder.narrowestFor value)) _
      (watermark_published hlt)
    have hmem := List.getElem_mem hlt
    have hlast := List.getLast?_eq_some_getLast (List.ne_nil_of_mem hmem)
    have hbound := watermark_le_last hlast _ hmem
    have hpast := h _ hlast
    omega
  · exact hfinal

end Ladder

/-- Nothing but `since` restricts when the fact applies. -/
structure Fact.SinceOnly (fact : Fact) : Prop where
  toggles : fact.toggles = []
  enabledBy : fact.enabledBy = []
  disabledBy : fact.disabledBy = []
  depends : fact.depends = none
  strict : fact.strictSensitive = false

section Tests

variable {ladder : Ladder} {fact : Fact} {rung : ladder.Rung}

theorem since_guard_of_standard (hs : fact.since = some (ladder.standard rung).name) :
    fact.sinceGuard ladder = ((ladder.previousWatermark rung).map Conjunct.past).toList := by
  unfold Fact.sinceGuard
  rw [hs, Option.bind_some, Ladder.rung_of_standard, Option.bind_some]

/-- Read as text, the test for a standard asks whether a timeline puts `__cplusplus` at or after
it. -/
theorem since_guard_reads (hs : fact.since = some (ladder.standard rung).name) (env : Environment) :
    (fact.sinceGuard ladder).all (env.reads ·.text) = true ↔
      rung ≤ ladder.narrowestFor env.cplusplus := by
  have hread : ∀ w, env.reads (Conjunct.past w).text = decide (w < env.cplusplus) :=
    fun w => Environment.reads_legible (c := .past w) trivial
  rw [since_guard_of_standard hs, ← Ladder.past_previous_iff]
  cases ladder.previousWatermark rung with
  | none => simp
  | some w => simp [hread]

theorem guard_since_only (h : fact.SinceOnly) :
    (fact.guard ladder).condition.conjuncts = fact.sinceGuard ladder := by
  simp [Fact.guard, Fact.switchTests, h.enabledBy, h.disabledBy, h.depends, h.strict]

end Tests

/-- The test for `since` and the timeline read a standard in the same way. The test holds just where
the timeline puts `__cplusplus` at the named standard or later; the first standard needs no test. So
a fact that only `since` restricts is asserted by the published standards from the named one on, and
by every compiler past the last watermark. -/
theorem since_test_agrees_with_timeline {ladder : Ladder} {rung : ladder.Rung} {fact : Fact}
    (hs : fact.since = some (ladder.standard rung).name) :
    ∃ tests guarded tree, fact.guarded ladder = .ok guarded ∧
      guarded.condition.conjuncts = tests ++ fact.switchTests ∧
      (rung.val = 0 → tests = []) ∧ (rung.val ≠ 0 → ∃ w, tests = [.past w]) ∧
      (∀ env : Environment, tests.all (env.reads ·.text) = true ↔
        rung ≤ ladder.narrowestFor env.cplusplus) ∧
      DecisionTree.ofFacts ladder [fact] = .ok tree ∧
      (fact.SinceOnly → ∀ (env : Environment) (s : ladder.Rung),
        ladder.watermark s = some env.cplusplus →
        tree.evaluate (env.reads ·.text) = if rung ≤ s then some fact.value else none) ∧
      ∀ env : Environment, (∀ last ∈ ladder.published.getLast?, last.watermark < env.cplusplus) →
        tests.all (env.reads ·.text) = true := by
  have hknown : ∀ name ∈ fact.since, name ∈ ladder.names := by
    intro name hn
    rw [hs, Option.mem_some_iff] at hn
    exact Ladder.rung_isSome.mp (hn ▸ by rw [Ladder.rung_of_standard]; rfl)
  have honce : [fact].Pairwise fun f _ => f.hasCondition ladder = true :=
    List.pairwise_singleton _ fact
  obtain ⟨tree, htree, hdecides⟩ :=
    of_facts_decides (List.forall_mem_singleton.mpr hknown) honce
  refine ⟨fact.sinceGuard ladder, _, tree, Fact.guarded_known hknown, rfl, ?_, ?_,
    since_guard_reads hs, htree, ?_, ?_⟩
  · intro hfirst
    rw [since_guard_of_standard hs, Ladder.previous_watermark_zero hfirst]
    rfl
  · intro hlater
    obtain ⟨w, hw⟩ := Option.isSome_iff_exists.mp (Ladder.previous_watermark_isSome.mpr hlater)
    exact ⟨w, by rw [since_guard_of_standard hs, hw]; rfl⟩
  · intro honly env s hw
    have hr : Reading env.settled fun c => env.reads c.text :=
      fun _ hl => Environment.reads_legible hl
    have happlies : fact.applies ladder env.settled = decide (rung ≤ s) := by
      rw [← guard_reading hr, guard_since_only honly, Bool.eq_iff_iff, since_guard_reads hs,
        Ladder.narrowest_of_watermark hw, decide_eq_true_iff]
    rw [hdecides _ _ hr]
    by_cases hle : rung ≤ s <;> simp [firstMatch, happlies, hle, honly.toggles]
  · intro env hpast
    rw [since_guard_reads hs, Ladder.narrowest_past_last hpast]
    exact Fin.le_last rung

def genericLambdas : Fact := { value := 201304, since := some "C++14" }

/-- A compiler that defines nothing but `__cplusplus`. -/
def bareCompiler (cplusplus : Nat) : Environment where
  cplusplus
  defined := fun _ => false
  truth := fun _ => false
  strict := true

/-- Just below the named standard, at its watermark, and past the last one. -/
theorem generic_lambdas_since_test :
    genericLambdas.since = some (Ladder.cpp.standard ⟨2, by decide⟩).name ∧
      genericLambdas.SinceOnly ∧
      ∃ tests tree, genericLambdas.guarded .cpp = .ok ⟨201304, ⟨tests⟩, none⟩ ∧
        DecisionTree.ofFacts .cpp [genericLambdas] = .ok tree ∧
        tree.evaluate ((bareCompiler 201103).reads ·.text) = none ∧
        tree.evaluate ((bareCompiler 201402).reads ·.text) = some 201304 ∧
        tests.all ((bareCompiler 202400).reads ·.text) = true := by
  have hs : genericLambdas.since = some (Ladder.cpp.standard ⟨2, by decide⟩).name := rfl
  have honly : genericLambdas.SinceOnly := ⟨rfl, rfl, rfl, rfl, rfl⟩
  obtain ⟨tests, guarded, tree, hguarded, hconjuncts, -, -, -, htree, heval, hpast⟩ :=
    since_test_agrees_with_timeline hs
  refine ⟨hs, honly, tests, tree, ?_, htree, ?_, ?_, hpast _ ?_⟩
  · cases hguarded
    rw [← hconjuncts.trans (List.append_nil tests)]
    rfl
  · exact heval honly (bareCompiler 201103) ⟨1, by decide⟩ rfl
  · exact heval honly (bareCompiler 201402) ⟨2, by decide⟩ rfl
  · decide

end FeatureTest
