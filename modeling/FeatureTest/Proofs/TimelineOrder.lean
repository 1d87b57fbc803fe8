import FeatureTest.Proofs.Acceptance
import FeatureTest.Timeline

/-!
A timeline without warnings is consistent. Warnings compare a value with the one right before it
only; that the whole list is in order comes from the order of the values and of the watermarks.
-/
namespace FeatureTest
open Success

namespace Ladder

variable {ladder : Ladder}

theorem getElem_standards (rung : ladder.Rung) :
    ladder.standards[rung.val]? = some (ladder.standard rung) :=
  List.getElem?_eq_getElem (by rw [ladder.length_standards]; exact rung.isLt)

theorem watermark_published {rung : ladder.Rung} (h : rung.val < ladder.published.length) :
    ladder.watermark rung = some ladder.published[rung.val].watermark := by
  have hs := getElem_standards rung
  rw [standards, List.getElem?_append_left (by simpa using h)] at hs
  simp only [List.getElem?_map, List.getElem?_eq_getElem h, Option.map_some,
    Option.some.injEq] at hs
  rw [watermark, ← hs]

theorem watermark_final : ladder.watermark ladder.final = none := by
  have hs := getElem_standards ladder.final
  rw [standards, List.getElem?_append_right (by simp [final])] at hs
  simp only [final, Fin.val_last, List.length_map, Nat.sub_self, List.getElem?_cons_zero,
    Option.some.injEq] at hs
  rw [watermark, final, ← hs]

theorem published_or_final (rung : ladder.Rung) :
    rung.val < ladder.published.length ∨ rung = ladder.final := by
  obtain ⟨n, hn⟩ := rung
  unfold size at hn
  rcases Nat.lt_or_ge n ladder.published.length with hlt | hge
  · exact .inl hlt
  · right
    apply Fin.ext
    change n = ladder.published.length
    omega

/-- A value belongs at or below a rung exactly when no watermark of that rung stops it. -/
theorem narrowest_le {value : Nat} {rung : ladder.Rung} :
    ladder.narrowestFor value ≤ rung ↔ ∀ w ∈ ladder.watermark rung, value ≤ w := by
  rcases published_or_final rung with hlt | rfl
  · rw [watermark_published hlt]
    simp only [Option.mem_some_iff, forall_eq']
    change ladder.published.findIdx (value ≤ ·.watermark) ≤ rung.val ↔ _
    constructor
    · intro h
      have hi : ladder.published.findIdx (value ≤ ·.watermark) < ladder.published.length := by omega
      have hcovers : value ≤ (ladder.published[ladder.published.findIdx
          (value ≤ ·.watermark)]).watermark := by
        simpa using List.findIdx_getElem (w := hi)
      rcases Nat.eq_or_lt_of_le h with he | hbelow
      · simpa only [he] using hcovers
      · have := List.pairwise_iff_getElem.mp ladder.increasing _ _ hi hlt hbelow
        omega
    · intro h
      by_contra hn
      have := List.not_of_lt_findIdx (Nat.lt_of_not_le hn)
      simp only [decide_eq_false_iff_not] at this
      exact this h
  · rw [watermark_final]
    exact iff_of_true (Fin.le_last _) (by simp)

/-- A larger value never belongs to an earlier standard. -/
theorem narrowest_mono {v w : Nat} (h : v ≤ w) : ladder.narrowestFor v ≤ ladder.narrowestFor w := by
  apply narrowest_le.mpr
  intro bound hb
  exact Nat.le_trans h (narrowest_le.mp (Nat.le_refl _) bound hb)

end Ladder

namespace Assignment

variable {ladder : Ladder}

/-- Nothing looks wrong about a value that follows `previous`. -/
structure Clean (previous : Option (Assignment ladder)) (a : Assignment ladder) : Prop where
  past_target : a.defectReport = true → ∃ w ∈ ladder.watermark a.rung, w < a.value
  in_order : a.defectReport = true → ∀ p ∈ previous, p.rung ≤ a.rung
  fresh : a.defectReport = false → ∀ p ∈ previous, p.rung = a.rung → ladder.isFinal a.rung = true

theorem warnings_eq_nil {feature : String} {previous : Option (Assignment ladder)}
    {a : Assignment ladder} (h : a.warnings feature previous = []) : Clean previous a := by
  have hkinds : a.warningKinds previous = [] := List.map_eq_nil_iff.mp h
  unfold warningKinds at hkinds
  cases hd : a.defectReport with
  | true =>
    simp only [hd, ↓reduceIte, List.append_eq_nil_iff, ite_eq_right_iff, List.cons_ne_nil,
      imp_false, List.map_eq_nil_iff, Option.toList_eq_nil_iff, Option.filter_eq_none_iff] at hkinds
    obtain ⟨hpast, horder⟩ := hkinds
    refine ⟨?_, ?_, by simp [hd]⟩
    · intro _
      cases hw : ladder.watermark a.rung with
      | none => simp [hw] at hpast
      | some w => exact ⟨w, rfl, by simpa [hw] using hpast⟩
    · intro _ p hp
      exact Fin.not_lt.mp (by simpa using horder p hp)
  | false =>
    simp only [hd, Bool.false_eq_true, ↓reduceIte, List.map_eq_nil_iff,
      Option.toList_eq_nil_iff, Option.filter_eq_none_iff] at hkinds
    refine ⟨by simp [hd], by simp [hd], ?_⟩
    intro _ p hp he
    simpa [he] using hkinds p hp

/-- A plain value stands where its size puts it. -/
def Settled (a : Assignment ladder) : Prop :=
  a.defectReport = false → a.rung = ladder.narrowestFor a.value

/-- What a value owes to one before it: it is never on an earlier rung, and a plain value is on a
later one as long as there are later ones. -/
structure Follows (p a : Assignment ladder) : Prop where
  rises : p.rung ≤ a.rung
  advances : a.defectReport = false → p.rung < a.rung ∨ ladder.isFinal a.rung = true

theorem Follows.trans {a b c : Assignment ladder} (hab : Follows a b) (hbc : Follows b c) :
    Follows a c := by
  refine ⟨Fin.le_trans hab.rises hbc.rises, ?_⟩
  intro hc
  rcases hbc.advances hc with hlt | hfinal
  · exact .inl (Fin.lt_of_le_of_lt hab.rises hlt)
  · exact .inr hfinal

/-- A defect report moves a value down from where its size would put it. -/
theorem Clean.rung_le {previous : Option (Assignment ladder)} {a : Assignment ladder}
    (h : Clean previous a) (hs : a.Settled) : a.rung ≤ ladder.narrowestFor a.value := by
  cases hd : a.defectReport with
  | false => exact Fin.le_of_eq (hs hd)
  | true =>
    obtain ⟨w, hw, hlt⟩ := h.past_target hd
    have hn : ¬ ladder.narrowestFor a.value ≤ a.rung := by
      intro hle
      have := Ladder.narrowest_le.mp hle w hw
      omega
    exact Fin.le_of_lt (Fin.not_le.mp hn)

theorem Clean.follows {p a : Assignment ladder} {before : Option (Assignment ladder)}
    (hp : Clean before p) (ha : Clean (some p) a) (hps : p.Settled) (has : a.Settled)
    (hv : p.value ≤ a.value) : Follows p a := by
  cases hd : a.defectReport with
  | true => exact ⟨ha.in_order hd p rfl, by simp [hd]⟩
  | false =>
    have hrise : p.rung ≤ a.rung := by
      rw [has hd]
      exact Fin.le_trans (hp.rung_le hps) (Ladder.narrowest_mono hv)
    refine ⟨hrise, fun _ => ?_⟩
    rcases Nat.eq_or_lt_of_le hrise with he | hlt
    · exact .inr (ha.fresh hd p rfl (Fin.ext he))
    · exact .inl hlt

end Assignment

namespace Timeline

variable {ladder : Ladder}

open Assignment

/-- Each value of a run without warnings follows the one before it. -/
theorem chain_of_clean {feature : String} {assignments : List (Assignment ladder)}
    {previous : Option (Assignment ladder)}
    (hw : warningsAfter feature previous assignments = [])
    (hs : ∀ a ∈ assignments, a.Settled)
    (hv : (assignments.map (·.value)).Pairwise (· ≤ ·)) : assignments.IsChain Follows := by
  induction assignments generalizing previous with
  | nil => exact .nil
  | cons a rest ih =>
    obtain ⟨ha, hrest⟩ := List.append_eq_nil_iff.mp hw
    cases rest with
    | nil => exact .singleton a
    | cons b tail =>
      have hb : Clean (some a) b := warnings_eq_nil (List.append_eq_nil_iff.mp hrest).1
      have hab : a.value ≤ b.value := (List.pairwise_cons.mp hv).1 b.value (by simp)
      have hfollows : Follows a b :=
        (warnings_eq_nil ha).follows hb (hs a (by simp)) (hs b (by simp)) hab
      refine .cons_cons hfollows (ih hrest ?_ (List.pairwise_cons.mp hv).2)
      intro c hc
      exact hs c (List.mem_cons_of_mem a hc)

/-- The values of a timeline and where they stand are in order. -/
structure Consistent (timeline : Timeline ladder) : Prop where
  rising : timeline.assignments.Pairwise fun a b => a.rung ≤ b.rung
  /-- A plain value lies past the one right before it. -/
  advancing : timeline.assignments.IsChain fun a b =>
    b.defectReport = false → a.rung < b.rung ∨ ladder.isFinal b.rung = true
  /-- No two plain values share a published standard. -/
  apart : timeline.assignments.Pairwise fun a b =>
    a.defectReport = false → b.defectReport = false → a.rung = b.rung → ladder.isFinal b.rung = true

theorem consistent_of_chain {timeline : Timeline ladder}
    (h : timeline.assignments.IsChain Follows) : timeline.Consistent := by
  have : Trans (@Follows ladder) Follows Follows := ⟨Follows.trans⟩
  have hall : timeline.assignments.Pairwise Follows := List.isChain_iff_pairwise.mp h
  refine ⟨hall.imp fun hf => hf.rises, h.imp fun _ _ hf => hf.advances, hall.imp ?_⟩
  intro a b hf _ hb he
  rcases hf.advances hb with hlt | hfinal
  · rw [he] at hlt
    exact absurd hlt (Fin.lt_irrefl _)
  · exact hfinal

end Timeline

namespace Dated

variable {ladder : Ladder} {item : Dated} {a : Assignment ladder}

/-- An assignment that places this value, by its defect report where it has one. -/
structure PlacedAt (item : Dated) (a : Assignment ladder) : Prop where
  value : a.value = item.value
  defect_report : a.defectReport = item.drAgainst.isSome

theorem placed_of_assign (h : item.assign = .ok a) : item.PlacedAt a ∧ a.Settled := by
  unfold assign at h
  cases hd : item.drAgainst with
  | none =>
    simp only [hd, Except.ok.injEq] at h
    subst h
    exact ⟨⟨rfl, by simp [hd]⟩, fun _ => rfl⟩
  | some target =>
    simp only [hd, bind_eq_ok, pure_eq_ok] at h
    obtain ⟨rung, -, rfl⟩ := h
    exact ⟨⟨rfl, by simp [hd]⟩, by simp [Assignment.Settled]⟩

theorem values_of_placed {items : List Dated} {assignments : List (Assignment ladder)}
    (h : List.Forall₂ PlacedAt items assignments) :
    assignments.map (·.value) = items.map (·.value) := by
  induction h with
  | nil => rfl
  | cons hx _ ih => rw [List.map_cons, List.map_cons, hx.value, ih]

end Dated

namespace Timeline

variable {ladder : Ladder} {feature : String} {items : List Dated} {timeline : Timeline ladder}

theorem of_items_eq_ok (h : ofItems feature items ladder = .ok timeline) :
    (items.map (·.value)).Pairwise (· ≤ ·) ∧
      List.Forall₂ (fun item a => item.assign = .ok a) items timeline.assignments ∧
      timeline.warnings = warningsAfter feature none timeline.assignments := by
  unfold ofItems at h
  cases hd : firstDescent? (items.map (·.value)) with
  | some pair => simp [hd, bind_eq_ok, throw_ne_ok] at h
  | none =>
    cases hm : (items.mapM Dated.assign : Except Violation (List (Assignment ladder))) with
    | error v => simp [hd, hm, throw_ne_ok] at h
    | ok assignments =>
      have he : ⟨assignments, warningsAfter feature none assignments⟩ = timeline := by
        simpa [hd, hm, pure_eq_ok] using h
      subst he
      exact ⟨first_descent_none.mp hd, mapM_eq_ok.mp hm, rfl⟩

/-- A timeline without warnings places every value, and is consistent. -/
theorem clean_timeline_consistent (h : ofItems feature items ladder = .ok timeline)
    (hclean : timeline.warnings = []) :
    List.Forall₂ Dated.PlacedAt items timeline.assignments ∧ timeline.Consistent := by
  obtain ⟨hsorted, hassigned, hwarnings⟩ := of_items_eq_ok h
  have hplaced : List.Forall₂ Dated.PlacedAt items timeline.assignments :=
    hassigned.imp fun _ _ ha => (Dated.placed_of_assign ha).1
  have hsettled : ∀ a ∈ timeline.assignments, a.Settled := by
    intro a ha
    obtain ⟨item, -, hitem⟩ := mapM_origin (mapM_eq_ok.mpr hassigned) a ha
    exact (Dated.placed_of_assign hitem).2
  refine ⟨hplaced, consistent_of_chain (chain_of_clean (hwarnings ▸ hclean) hsettled ?_)⟩
  rw [Dated.values_of_placed hplaced]
  exact hsorted

/-- A defect report between two plain values, and two values of the working draft. -/
def coroutineItems : List Dated :=
  [⟨201103, none⟩, ⟨201902, some "C++14"⟩, ⟨201902, none⟩, ⟨202400, none⟩, ⟨202500, none⟩]

theorem coroutine_items_consistent :
    ∃ timeline : Timeline .cpp, ofItems "__cpp_coroutines" coroutineItems .cpp = .ok timeline ∧
      timeline.warnings = [] ∧ List.Forall₂ Dated.PlacedAt coroutineItems timeline.assignments ∧
      timeline.Consistent := by
  have h : ∃ timeline : Timeline .cpp,
      ofItems "__cpp_coroutines" coroutineItems .cpp = .ok timeline ∧ timeline.warnings = [] :=
    ⟨_, rfl, rfl⟩
  obtain ⟨timeline, hok, hclean⟩ := h
  obtain ⟨hplaced, hconsistent⟩ := clean_timeline_consistent hok hclean
  exact ⟨timeline, hok, hclean, hplaced, hconsistent⟩

end Timeline
end FeatureTest
