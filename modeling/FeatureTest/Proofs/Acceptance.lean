import FeatureTest.Fact
import FeatureTest.Proofs.Success

/-!
Which lists of facts are accepted, said without the checks that decide it.
-/
namespace FeatureTest
open Success

namespace Ladder

variable {ladder : Ladder} {name : String}

theorem rung_isSome : (ladder.rung? name).isSome = true ↔ name ∈ ladder.names := by
  have hl := ladder.length_names
  rw [← List.idxOf_lt_length_iff, hl]
  unfold rung?
  split <;> simp_all

theorem rung_of_mem (h : name ∈ ladder.names) : ∃ rung, ladder.rung? name = some rung :=
  Option.isSome_iff_exists.mp (rung_isSome.mpr h)

theorem require_eq_ok {rung : ladder.Rung} :
    ladder.require name = .ok rung ↔ ladder.rung? name = some rung := by
  unfold require
  cases ladder.rung? name <;> simp

theorem require_succeeds : (∃ rung, ladder.require name = .ok rung) ↔ name ∈ ladder.names := by
  simp only [require_eq_ok, ← rung_isSome, Option.isSome_iff_exists]

/-- Checking a name leaves no trace but whether the name is known. -/
theorem discard_require_eq_ok : discard (ladder.require name) = .ok () ↔ name ∈ ladder.names := by
  rw [← require_succeeds]
  cases ladder.require name <;> simp [discard, Functor.discard, Functor.mapConst, Except.map]

end Ladder

theorem first_descent_none {values : List Nat} :
    firstDescent? values = none ↔ values.Pairwise (· ≤ ·) := by
  induction values using firstDescent?.induct with
  | case1 => simp [firstDescent?]
  | case2 => simp [firstDescent?]
  | case3 a b rest hlt =>
    simp only [firstDescent?, hlt, ↓reduceIte, reduceCtorEq, false_iff]
    intro h
    have := List.rel_of_pairwise_cons h (List.mem_cons_self)
    omega
  | case4 a b rest hlt ih =>
    simp only [firstDescent?, hlt, ↓reduceIte, ih]
    constructor
    · intro h
      refine List.pairwise_cons.mpr ⟨?_, h⟩
      intro c hc
      rcases List.mem_cons.mp hc with rfl | hc
      · omega
      · have := List.rel_of_pairwise_cons h hc
        omega
    · exact List.Pairwise.of_cons

/-- A fact names one standard at most, and only standards of the ladder. -/
structure Fact.Placed (fact : Fact) (ladder : Ladder) : Prop where
  single : fact.since = none ∨ fact.drAgainst = none
  since_known : ∀ name ∈ fact.since, name ∈ ladder.names
  target_known : ∀ name ∈ fact.drAgainst, name ∈ ladder.names

theorem Fact.check_eq_ok {fact : Fact} {ladder : Ladder} :
    fact.check ladder = .ok () ↔ fact.Placed ladder := by
  unfold Fact.check
  constructor
  · intro h
    split at h
    · cases h
    · rename_i name hs hd
      exact ⟨.inr hd, by simpa [hs] using Ladder.discard_require_eq_ok.mp h, by simp [hd]⟩
    · rename_i name hs hd
      exact ⟨.inl hs, by simp [hs], by simpa [hd] using Ladder.discard_require_eq_ok.mp h⟩
    · rename_i hs hd
      exact ⟨.inl hs, by simp [hs], by simp [hd]⟩
  · intro h
    split
    · rename_i hs hd
      exact absurd h.single (by simp [hs, hd])
    · rename_i name hs hd
      exact Ladder.discard_require_eq_ok.mpr (h.since_known name hs)
    · rename_i name hs hd
      exact Ladder.discard_require_eq_ok.mpr (h.target_known name hd)
    · rfl

/-- Facts that make a support list: placed on the ladder, with values that never fall, and with a
condition on each but the lowest. -/
structure AcceptedFacts (facts : List Fact) (ladder : Ladder) : Prop where
  placed : ∀ fact ∈ facts, fact.Placed ladder
  ascending : (facts.map (·.value)).Pairwise (· ≤ ·)
  conditional : ∀ fact ∈ facts.tail, fact.hasCondition ladder = true

theorem AcceptedFacts.known_reverse {facts : List Fact} {ladder : Ladder}
    (h : AcceptedFacts facts ladder) :
    ∀ fact ∈ facts.reverse, ∀ name ∈ fact.since, name ∈ ladder.names := by
  intro fact hf
  exact (h.placed fact (List.mem_reverse.mp hf)).since_known

theorem SupportList.of_facts_eq_ok {facts : List Fact} {removed : Bool} {ladder : Ladder}
    {support : SupportList} :
    SupportList.ofFacts facts removed ladder = .ok support ↔
      AcceptedFacts facts ladder ∧ support = ⟨facts, removed⟩ := by
  have hfind : facts.tail.find? (!·.hasCondition ladder) = none ↔
      ∀ fact ∈ facts.tail, fact.hasCondition ladder = true := by
    simp [List.find?_eq_none]
  unfold SupportList.ofFacts
  rw [bind_eq_ok]
  constructor
  · intro h
    obtain ⟨_, hplaced, h⟩ := h
    cases hd : firstDescent? (facts.map (·.value)) with
    | some pair => simp [hd, bind_eq_ok, throw_ne_ok] at h
    | none =>
      cases hf : facts.tail.find? (!·.hasCondition ladder) with
      | some fact => simp [hd, hf, map_eq_ok, throw_ne_ok] at h
      | none =>
        have he : ⟨facts, removed⟩ = support := by simpa [hd, hf, pure_eq_ok] using h
        refine ⟨⟨?_, first_descent_none.mp hd, hfind.mp hf⟩, he.symm⟩
        intro fact hm
        exact Fact.check_eq_ok.mp (forM_eq_ok.mp hplaced fact hm)
  · intro h
    obtain ⟨h, rfl⟩ := h
    refine ⟨(), forM_eq_ok.mpr fun fact hf => Fact.check_eq_ok.mpr (h.placed fact hf), ?_⟩
    rw [first_descent_none.mpr h.ascending, hfind.mpr h.conditional]
    rfl

end FeatureTest
