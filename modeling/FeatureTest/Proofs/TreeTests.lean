import FeatureTest.Proofs.FirstMatch
import FeatureTest.Proofs.RenderedLines

/-!
The tests that the blocks of a decision tree ask, and the facts they come from.
-/
namespace FeatureTest
open Success

/-- Every test that a fact can add to a tree: those of its guard, and the two of its toggle. -/
def Fact.tests (fact : Fact) (ladder : Ladder) : List Conjunct :=
  (fact.guard ladder).condition.conjuncts ++
    fact.toggleGuard.toList.flatMap fun toggle => [toggle.enabled, toggle.disabled]

section Growth

variable {ladder : Ladder} {fact : Fact} {rest : List Fact} {tree : DecisionTree}

/-- What the first of some facts adds to their tree: a choice between its toggle's switches, a
block of its own, or all there is when nothing restricts it. -/
theorem of_facts_cons (hk : ∀ name ∈ fact.since, name ∈ ladder.names)
    (h : DecisionTree.ofFacts ladder (fact :: rest) = .ok tree) :
    (∃ toggle later, fact.toggleGuard = some toggle ∧
      DecisionTree.ofFacts ladder rest = .ok later ∧
      tree = .branch ((fact.guard ladder).condition.and toggle.enabled) (.value fact.value)
        (.arm ((fact.guard ladder).condition.and toggle.disabled) .absent (.otherwise later))) ∨
    (fact.toggleGuard = none ∧ (fact.guard ladder).condition.isAlways = false ∧
      ∃ later, DecisionTree.ofFacts ladder rest = .ok later ∧
        tree = .branch (fact.guard ladder).condition (.value fact.value) (.otherwise later)) ∨
    (fact.toggleGuard = none ∧ (fact.guard ladder).condition.isAlways = true ∧ rest = [] ∧
      tree = .value fact.value) := by
  have htoggle : (fact.guard ladder).toggle = fact.toggleGuard := rfl
  have hvalue : (fact.guard ladder).value = fact.value := rfl
  simp only [DecisionTree.ofFacts, Fact.guarded_known hk, bind_eq_ok, Except.ok.injEq,
    exists_eq_left', htoggle, hvalue] at h
  cases htests : fact.toggleGuard with
  | some toggle =>
    simp only [htests, bind_eq_ok, pure_eq_ok] at h
    obtain ⟨later, hlater, rfl⟩ := h
    exact .inl ⟨toggle, later, rfl, hlater, rfl⟩
  | none =>
    right
    simp only [htests] at h
    split at h
    · rename_i halways
      split at h
      · rename_i hlast
        cases h
        exact .inr ⟨rfl, halways, List.isEmpty_iff.mp hlast, rfl⟩
      · cases h
    · rename_i hguarded
      obtain ⟨later, hlater, h⟩ := bind_eq_ok.mp h
      cases h
      exact .inl ⟨rfl, by simpa using hguarded, later, hlater, rfl⟩

theorem guard_tests {c : Conjunct} (h : c ∈ (fact.guard ladder).condition.conjuncts) :
    c ∈ fact.tests ladder :=
  List.mem_append_left _ h

theorem toggled_tests {toggle : ToggleTests} {c : Conjunct} (h : fact.toggleGuard = some toggle)
    (hc : c ∈ ((fact.guard ladder).condition.and toggle.enabled).conjuncts ∨
      c ∈ ((fact.guard ladder).condition.and toggle.disabled).conjuncts) :
    c ∈ fact.tests ladder := by
  simp only [Condition.and, List.mem_append, List.mem_singleton] at hc
  simp only [Fact.tests, h, List.mem_append, Option.toList_some, List.flatMap_cons,
    List.flatMap_nil, List.append_nil, List.mem_pair]
  tauto

/-- A tree asks nothing but what its facts do. -/
theorem of_facts_tests {facts : List Fact}
    (hk : ∀ fact ∈ facts, ∀ name ∈ fact.since, name ∈ ladder.names)
    (h : DecisionTree.ofFacts ladder facts = .ok tree) :
    ∀ condition ∈ tree.conditions, ∀ c ∈ condition.conjuncts,
      ∃ fact ∈ facts, c ∈ fact.tests ladder := by
  induction facts generalizing tree with
  | nil =>
    cases h
    simp [DecisionTree.conditions]
  | cons fact rest ih =>
    have hlater : ∀ {later : DecisionTree}, DecisionTree.ofFacts ladder rest = .ok later →
        ∀ condition ∈ later.conditions, ∀ c ∈ condition.conjuncts,
          ∃ f ∈ fact :: rest, c ∈ f.tests ladder := by
      intro later hl condition hm c hc
      have hknown := fun f hf => hk f (List.mem_cons_of_mem fact hf)
      obtain ⟨f, hf, ht⟩ := ih hknown hl condition hm c hc
      exact ⟨f, List.mem_cons_of_mem fact hf, ht⟩
    intro condition hm c hc
    rcases of_facts_cons (hk fact List.mem_cons_self) h with
      ⟨toggle, later, htoggle, hl, rfl⟩ | ⟨-, -, later, hl, rfl⟩ | ⟨-, -, -, rfl⟩
    · simp only [DecisionTree.conditions, Alternatives.conditions, List.nil_append,
        List.mem_cons] at hm
      rcases hm with rfl | rfl | hm
      · exact ⟨fact, List.mem_cons_self, toggled_tests htoggle (.inl hc)⟩
      · exact ⟨fact, List.mem_cons_self, toggled_tests htoggle (.inr hc)⟩
      · exact hlater hl condition hm c hc
    · simp only [DecisionTree.conditions, Alternatives.conditions, List.nil_append,
        List.mem_cons] at hm
      rcases hm with rfl | hm
      · exact ⟨fact, List.mem_cons_self, guard_tests hc⟩
      · exact hlater hl condition hm c hc
    · cases hm

/-- The tree of accepted facts asks nothing but what they do. -/
theorem AcceptedFacts.tree_tests {facts : List Fact} (h : AcceptedFacts facts ladder)
    (ht : DecisionTree.ofFacts ladder facts.reverse = .ok tree) :
    ∀ condition ∈ tree.conditions, ∀ c ∈ condition.conjuncts,
      ∃ fact ∈ facts, c ∈ fact.tests ladder := by
  intro condition hm c hc
  obtain ⟨fact, hf, htests⟩ := of_facts_tests h.known_reverse ht condition hm c hc
  exact ⟨fact, List.mem_reverse.mp hf, htests⟩

end Growth
end FeatureTest
