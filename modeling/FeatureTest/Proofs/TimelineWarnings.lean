import Mathlib.Data.List.Chain
import FeatureTest.Proofs.Gate
import FeatureTest.Proofs.StandardTest

/-!
When a timeline exists, and all that it says: where each value stands, which depends on nothing but
that value, and which warnings are due to it. A warning looks no further back than to the value
right before.
-/
namespace FeatureTest
open Success

/-- Where a value stands: at the target of its defect report, else at the narrowest standard that
covers it. -/
def Dated.settled (item : Dated) (ladder : Ladder) : Assignment ladder where
  value := item.value
  rung := (item.drAgainst.bind ladder.rung?).getD (ladder.narrowestFor item.value)
  defectReport := item.drAgainst.isSome

namespace WarningKind

variable {ladder : Ladder}

/-- Whether a warning of this kind is due to a value that follows `previous`. A defect report has to
move its value to an earlier standard than the one that covers it. -/
def Due (previous : Option (Assignment ladder)) (a : Assignment ladder) : WarningKind → Prop
  | invalidDefectReport => a.defectReport = true ∧ ladder.narrowestFor a.value ≤ a.rung
  | defectReportOutOfOrder => a.defectReport = true ∧ ∃ p ∈ previous, a.rung < p.rung
  | staleValue => a.defectReport = false ∧ ∃ p ∈ previous, p.rung = a.rung ∧ a.rung ≠ ladder.final

instance (previous : Option (Assignment ladder)) (a : Assignment ladder) :
    DecidablePred (Due previous a)
  | invalidDefectReport => inferInstanceAs (Decidable (_ ∧ _))
  | defectReportOutOfOrder => inferInstanceAs (Decidable (_ ∧ _))
  | staleValue => inferInstanceAs (Decidable (_ ∧ _))

/-- Whether warnings of this kind compare a value with the one before it. -/
def compares : WarningKind → Bool
  | invalidDefectReport => false
  | defectReportOutOfOrder | staleValue => true

/-- The warning of a kind, which names a value and its standard, and where it compares two values
also those of the one before. -/
def warning (feature : String) (previous : Option (Assignment ladder)) (a : Assignment ladder)
    (kind : WarningKind) : Warning where
  feature
  kind
  placed := ⟨(ladder.standard a.rung).name, a.value⟩
  previous :=
    if kind.compares then previous.map fun p => ⟨(ladder.standard p.rung).name, p.value⟩ else none

end WarningKind

namespace Assignment

variable {ladder : Ladder}

/-- The warnings that are due to one value. -/
def dueWarnings (feature : String) (previous : Option (Assignment ladder))
    (a : Assignment ladder) : List Warning :=
  (WarningKind.all.filter (·.Due previous a)).map (·.warning feature previous a)

/-- A watermark stops a defect report just where the value belongs past its target. -/
theorem covered_iff_narrowest (a : Assignment ladder) :
    (ladder.watermark a.rung).all (a.value ≤ ·) = true ↔
      ladder.narrowestFor a.value ≤ a.rung := by
  rw [Ladder.narrowest_le]
  cases ladder.watermark a.rung <;> simp

/-- The warnings that are raised are of the kinds that are due, and compare what these compare. -/
theorem warning_kinds_due (previous : Option (Assignment ladder)) (a : Assignment ladder) :
    a.warningKinds previous = (WarningKind.all.filter (·.Due previous a)).map fun kind =>
      (kind, if kind.compares then previous else none) := by
  have hcovered := covered_iff_narrowest a
  simp only [warningKinds, WarningKind.all, List.filter_cons, List.filter_nil, WarningKind.Due]
  rcases Bool.eq_false_or_eq_true a.defectReport with hd | hd
  · simp only [hd, hcovered]
    by_cases hc : ladder.narrowestFor a.value ≤ a.rung <;> cases previous with
    | none => simp [hc, WarningKind.compares]
    | some p =>
      by_cases hlater : a.rung < p.rung <;>
        simp [hc, hlater, WarningKind.compares, Option.filter_some]
  · simp only [hd, Ladder.isFinal]
    cases previous with
    | none => simp
    | some p =>
      by_cases hs : p.rung = a.rung ∧ a.rung ≠ ladder.final <;>
        simp [hs, WarningKind.compares, Option.filter_some]

theorem warnings_eq_due (feature : String) (previous : Option (Assignment ladder))
    (a : Assignment ladder) : a.warnings feature previous = a.dueWarnings feature previous := by
  unfold warnings dueWarnings
  rw [warning_kinds_due, List.map_map]
  apply List.map_congr_left
  intro kind _
  cases kind <;> rfl

end Assignment

/-- A value that is placed is placed where it settles, by its own defect report where it has one. -/
theorem Dated.settled_of_assign {ladder : Ladder} {item : Dated} {a : Assignment ladder}
    (h : item.assign = .ok a) :
    a = item.settled ladder ∧
      ∀ target ∈ item.drAgainst, (ladder.standard a.rung).name = target := by
  unfold assign at h
  unfold settled
  cases hd : item.drAgainst with
  | none =>
    rw [hd, Except.ok.injEq] at h
    exact ⟨h.symm, by simp⟩
  | some target =>
    simp only [hd, bind_eq_ok, pure_eq_ok, Ladder.require_eq_ok] at h
    obtain ⟨rung, hrung, rfl⟩ := h
    simp [hrung, Ladder.standard_of_rung hrung]

namespace Timeline

variable {ladder : Ladder} {feature : String} {items : List Dated} {timeline : Timeline ladder}

/-- Values never fall, unless one is smaller than the value right before it. -/
theorem ascending_iff : (items.map (·.value)).Pairwise (· ≤ ·) ↔
    ¬ ∃ before a b after, items = before ++ a :: b :: after ∧ b.value < a.value := by
  rw [← List.isChain_iff_pairwise, List.isChain_map,
    List.isChain_iff_forall_rel_of_append_cons_cons]
  constructor
  · intro h hdescent
    obtain ⟨before, a, b, after, hitems, hlt⟩ := hdescent
    exact Nat.not_lt.mpr (h hitems) hlt
  · intro h a b before after hitems
    exact Nat.not_lt.mp fun hlt => h ⟨before, a, b, after, hitems, hlt⟩

theorem fails_iff : (∃ e, ofItems feature items ladder = .error e) ↔
    (∃ before a b after, items = before ++ a :: b :: after ∧ b.value < a.value) ∨
      ∃ item ∈ items, ∃ target ∈ item.drAgainst, target ∉ ladder.names := by
  have hsucceeds := @of_items_succeeds feature items ladder
  have hfails : (∃ e, ofItems feature items ladder = .error e) ↔
      ¬ ∃ timeline, ofItems feature items ladder = .ok timeline := by
    cases ofItems feature items ladder <;> simp
  rw [hfails, hsucceeds, ascending_iff, not_and_or, not_not]
  simp only [not_forall, exists_prop]

/-- Every value but the first is compared with the one right before it. -/
theorem warnings_after_due (feature : String) (previous : Option (Assignment ladder))
    (assignments : List (Assignment ladder)) :
    warningsAfter feature previous assignments =
      (List.zipWith (Assignment.dueWarnings feature) (previous :: assignments.map some)
        assignments).flatten := by
  induction assignments generalizing previous with
  | nil => rfl
  | cons a rest ih => rw [warningsAfter, ih, Assignment.warnings_eq_due]; rfl

/-- A timeline exists unless a value is smaller than the one before it or a target is no standard of
the ladder. It then places every value where the value settles on its own, by the target's name
where it has one, and warns of nothing but what is due to each value after the one before it. -/
theorem timeline_exact (feature : String) (items : List Dated) (ladder : Ladder) :
    ((∃ e, ofItems feature items ladder = .error e) ↔
      (∃ before a b after, items = before ++ a :: b :: after ∧ b.value < a.value) ∨
        ∃ item ∈ items, ∃ target ∈ item.drAgainst, target ∉ ladder.names) ∧
    ∀ timeline, ofItems feature items ladder = .ok timeline →
      timeline.assignments = items.map (·.settled ladder) ∧
      (∀ item ∈ items, ∀ target ∈ item.drAgainst,
        (ladder.standard (item.settled ladder).rung).name = target) ∧
      timeline.warnings = (List.zipWith (Assignment.dueWarnings feature)
        (none :: timeline.assignments.map some) timeline.assignments).flatten := by
  refine ⟨fails_iff, fun timeline h => ?_⟩
  obtain ⟨-, hassigned, hwarnings⟩ := of_items_eq_ok h
  refine ⟨?_, ?_, by rw [hwarnings, warnings_after_due]⟩
  · have hsettled : List.Forall₂ (· = ·) (items.map (·.settled ladder)) timeline.assignments :=
      List.forall₂_map_left_iff.mpr
        (hassigned.imp fun _ _ ha => (Dated.settled_of_assign ha).1.symm)
    rw [List.forall₂_eq_eq_eq] at hsettled
    exact hsettled.symm
  · intro item hitem
    obtain ⟨a, ha⟩ := mapM_succeeds.mp ⟨_, mapM_eq_ok.mpr hassigned⟩ item hitem
    obtain ⟨rfl, hnames⟩ := Dated.settled_of_assign ha
    exact hnames

/-- One value applied to two standards by defect reports, the second time to an earlier one, and
then recorded by itself. -/
def retargetedItems : List Dated :=
  [⟨201703, some "C++23"⟩, ⟨201703, some "C++17"⟩, ⟨201703, none⟩]

theorem retargeted_items_warned :
    (∃ timeline : Timeline .cpp,
      ofItems "__cpp_deduction_guides" retargetedItems .cpp = .ok timeline ∧
      timeline.assignments = retargetedItems.map (·.settled .cpp) ∧
      timeline.warnings = (List.zipWith (Assignment.dueWarnings "__cpp_deduction_guides")
        (none :: timeline.assignments.map some) timeline.assignments).flatten ∧
      timeline.warnings.map (·.kind) =
        [.invalidDefectReport, .invalidDefectReport, .defectReportOutOfOrder, .staleValue]) ∧
    ∃ e, ofItems "__cpp_deduction_guides" (retargetedItems ++ [⟨201702, none⟩]) .cpp =
      .error e := by
  constructor
  · have h : ∃ timeline : Timeline .cpp,
        ofItems "__cpp_deduction_guides" retargetedItems .cpp = .ok timeline ∧
          timeline.warnings.map (·.kind) =
            [.invalidDefectReport, .invalidDefectReport, .defectReportOutOfOrder, .staleValue] :=
      ⟨_, rfl, rfl⟩
    obtain ⟨timeline, hok, hkinds⟩ := h
    obtain ⟨hassigned, -, hwarnings⟩ := (timeline_exact _ _ _).2 timeline hok
    exact ⟨timeline, hok, hassigned, hwarnings, hkinds⟩
  · refine (timeline_exact _ _ _).1.mpr (.inl ?_)
    exact ⟨retargetedItems.take 2, ⟨201703, none⟩, ⟨201702, none⟩, [], rfl, by decide⟩

end Timeline
end FeatureTest
