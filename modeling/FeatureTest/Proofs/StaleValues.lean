import Mathlib.Algebra.Order.BigOperators.Group.Finset
import FeatureTest.Proofs.TimelineWarnings

/-!
How many warnings plain values get, those that no defect report places. A timeline compares
neighbours only, but values that never fall stand on rungs that never fall, so equal rungs are
neighbours: each published standard is warned about once for every value beyond its first.
-/
namespace FeatureTest

namespace Ladder

variable {ladder : Ladder} {rung : ladder.Rung} {rungs : List ladder.Rung}

/-- The published standards among some rungs, each once. -/
def publishedAmong (rungs : List ladder.Rung) : Finset ladder.Rung :=
  rungs.toFinset.erase ladder.final

theorem mem_published_among : rung ∈ publishedAmong rungs ↔ rung ≠ ladder.final ∧ rung ∈ rungs := by
  simp [publishedAmong]

/-- One more rung is one more published standard, or one more on the final rung, unless it repeats
a published one. -/
theorem published_among_cons (rung : ladder.Rung) (rungs : List ladder.Rung) :
    (publishedAmong (rung :: rungs)).card + (rung :: rungs).count ladder.final +
        (if rung ∈ rungs ∧ rung ≠ ladder.final then 1 else 0) =
      (publishedAmong rungs).card + rungs.count ladder.final + 1 := by
  unfold publishedAmong
  rw [List.toFinset_cons]
  by_cases hfinal : rung = ladder.final
  · subst hfinal
    simp [Finset.erase_insert_eq_erase, Nat.add_assoc]
  · rw [Finset.erase_insert_of_ne hfinal, List.count_cons_of_ne hfinal]
    by_cases hm : rung ∈ rungs
    · have hpresent : rung ∈ rungs.toFinset.erase ladder.final :=
        Finset.mem_erase.mpr ⟨hfinal, List.mem_toFinset.mpr hm⟩
      rw [Finset.insert_eq_of_mem hpresent, if_pos ⟨hm, hfinal⟩]
    · have habsent : rung ∉ rungs.toFinset.erase ladder.final := by simp [hm]
      rw [Finset.card_insert_of_notMem habsent, if_neg (by simp [hm])]
      omega

/-- Rungs are those of published standards, each as often as it is there, and the final one. -/
theorem sum_published_among (rungs : List ladder.Rung) :
    (publishedAmong rungs).sum (rungs.count ·) + rungs.count ladder.final = rungs.length := by
  have htotal := List.sum_toFinset_count_eq_length rungs
  by_cases hm : ladder.final ∈ rungs
  · rw [← htotal]
    exact Finset.sum_erase_add _ _ (List.mem_toFinset.mpr hm)
  · rw [publishedAmong, Finset.erase_eq_of_notMem (by simpa using hm), htotal,
      List.count_eq_zero.mpr hm, Nat.add_zero]

/-- There are as many rungs as published standards among them and final ones just where no published
standard is there twice. -/
theorem published_once_iff :
    (publishedAmong rungs).card + rungs.count ladder.final = rungs.length ↔
      ∀ rung ≠ ladder.final, rungs.count rung ≤ 1 := by
  have honce : ∀ rung ∈ publishedAmong rungs, 1 ≤ rungs.count rung := by
    intro rung hm
    exact List.one_le_count_iff.mpr (mem_published_among.mp hm).2
  calc
    (publishedAmong rungs).card + rungs.count ladder.final = rungs.length
      ↔ (publishedAmong rungs).sum (fun _ => 1) = (publishedAmong rungs).sum (rungs.count ·) := by
        rw [← sum_published_among, Nat.add_right_cancel_iff, Finset.card_eq_sum_ones]
    _ ↔ ∀ rung ∈ publishedAmong rungs, 1 = rungs.count rung :=
      Finset.sum_eq_sum_iff_of_le honce
    _ ↔ ∀ rung ≠ ladder.final, rungs.count rung ≤ 1 := by
      constructor
      · intro h rung hpublished
        by_cases hm : rung ∈ rungs
        · exact Nat.le_of_eq (h rung (mem_published_among.mpr ⟨hpublished, hm⟩)).symm
        · rw [List.count_eq_zero.mpr hm]
          exact Nat.zero_le 1
      · intro h rung hm
        exact Nat.le_antisymm (honce rung hm) (h rung (mem_published_among.mp hm).1)

/-- Among rungs that never fall, the first is there again just when the next repeats it. -/
theorem head_repeated {next : ladder.Rung} (h : (rung :: next :: rungs).Pairwise (· ≤ ·)) :
    rung ∈ next :: rungs ↔ rung = next := by
  obtain ⟨hfirst, hlater⟩ := List.pairwise_cons.mp h
  constructor
  · intro hm
    apply Fin.le_antisymm (hfirst next List.mem_cons_self)
    rcases List.mem_cons.mp hm with rfl | hm
    · exact Fin.le_refl _
    · exact (List.pairwise_cons.mp hlater).1 rung hm
  · rintro rfl
    exact List.mem_cons_self

/-- The rungs of the narrowest standards that cover some values. -/
def rungsOf (ladder : Ladder) (items : List Dated) : List ladder.Rung :=
  items.map fun item => ladder.narrowestFor item.value

theorem rungs_rise {items : List Dated} (h : (items.map (·.value)).Pairwise (· ≤ ·)) :
    (ladder.rungsOf items).Pairwise (· ≤ ·) := by
  rw [List.pairwise_map] at h
  exact List.pairwise_map.mpr (h.imp narrowest_mono)

theorem rungs_final {items : List Dated}
    (h : ∀ item ∈ items, ∀ last ∈ ladder.published.getLast?, last.watermark < item.value) :
    ∀ rung ∈ ladder.rungsOf items, rung = ladder.final := by
  intro rung hm
  obtain ⟨item, hitem, rfl⟩ := List.mem_map.mp hm
  exact narrowest_past_last (h item hitem)

end Ladder

section Warnings

variable {ladder : Ladder} {feature : String} {previous : Option (Assignment ladder)}
  {a p : Assignment ladder} {assignments : List (Assignment ladder)}

namespace Assignment

theorem plain_warning_stale (hplain : a.defectReport = false) :
    ∀ w ∈ a.warnings feature previous, w.kind = .staleValue := by
  intro w hw
  rw [warnings_eq_due] at hw
  obtain ⟨kind, hkind, rfl⟩ := List.mem_map.mp hw
  have hdue : kind.Due previous a := by simpa using (List.mem_filter.mp hkind).2
  cases kind with
  | invalidDefectReport => exact absurd hdue.1 (by simp [hplain])
  | defectReportOutOfOrder => exact absurd hdue.1 (by simp [hplain])
  | staleValue => rfl

/-- A plain value is warned about once, when it repeats a published standard. -/
theorem plain_warnings_length (hplain : a.defectReport = false) :
    (a.warnings feature (some p)).length =
      if p.rung = a.rung ∧ p.rung ≠ ladder.final then 1 else 0 := by
  have hlater : p.rung = a.rung ∧ p.rung ≠ ladder.final ↔
      p.rung = a.rung ∧ a.rung ≠ ladder.final := and_congr_right fun h => by rw [h]
  rw [if_congr hlater rfl rfl]
  by_cases hrepeats : p.rung = a.rung ∧ a.rung ≠ ladder.final <;>
    simp [warnings, warningKinds, hplain, Ladder.isFinal, Option.filter_some, hrepeats]

theorem first_plain_warnings (hplain : a.defectReport = false) : a.warnings feature none = [] := by
  simp [warnings, warningKinds, hplain]

end Assignment

namespace Timeline

theorem warning_origin {w : Warning} (h : w ∈ warningsAfter feature previous assignments) :
    ∃ a ∈ assignments, ∃ before, w ∈ a.warnings feature before := by
  induction assignments generalizing previous with
  | nil => cases h
  | cons a rest ih =>
    rcases List.mem_append.mp h with h | h
    · exact ⟨a, List.mem_cons_self, previous, h⟩
    · obtain ⟨b, hb, horigin⟩ := ih h
      exact ⟨b, List.mem_cons_of_mem a hb, horigin⟩

/-- Along rungs that never fall, each value is warned about, is the first of its published standard,
or stands on the final rung. -/
theorem warnings_after_counted (hplain : ∀ a ∈ assignments, a.defectReport = false)
    (hrise : ((p :: assignments).map (·.rung)).Pairwise (· ≤ ·)) :
    (warningsAfter feature (some p) assignments).length +
        (Ladder.publishedAmong ((p :: assignments).map (·.rung))).card +
        ((p :: assignments).map (·.rung)).count ladder.final =
      (p :: assignments).length := by
  induction assignments generalizing p with
  | nil =>
    have hcons := Ladder.published_among_cons p.rung []
    rw [if_neg (by simp)] at hcons
    simpa [warningsAfter, Ladder.publishedAmong] using hcons
  | cons a rest ih =>
    rw [List.map_cons] at hrise
    have hrest := ih (fun b hb => hplain b (List.mem_cons_of_mem a hb)) hrise.of_cons
    -- the first rung is there again just where the value after it is warned about
    have hrepeats := Ladder.head_repeated hrise
    have hcons := Ladder.published_among_cons p.rung ((a :: rest).map (·.rung))
    rw [List.map_cons, if_congr (and_congr_left' hrepeats) rfl rfl] at hcons
    rw [warningsAfter, List.length_append,
      Assignment.plain_warnings_length (hplain a List.mem_cons_self)]
    simp only [List.map_cons, List.length_cons] at hcons hrest ⊢
    omega

theorem plain_warnings_counted (feature : String)
    (hplain : ∀ a ∈ assignments, a.defectReport = false)
    (hrise : (assignments.map (·.rung)).Pairwise (· ≤ ·)) :
    (warningsAfter feature none assignments).length +
        (Ladder.publishedAmong (assignments.map (·.rung))).card +
        (assignments.map (·.rung)).count ladder.final = assignments.length := by
  cases assignments with
  | nil => rfl
  | cons a rest =>
    obtain ⟨ha, hrest⟩ := List.forall_mem_cons.mp hplain
    rw [warningsAfter, Assignment.first_plain_warnings ha, List.nil_append]
    exact warnings_after_counted hrest hrise

variable {items : List Dated}

/-- Values that no defect report places stand where they settle. -/
theorem of_items_plain (hplain : ∀ item ∈ items, item.drAgainst = none)
    (hascending : (items.map (·.value)).Pairwise (· ≤ ·)) :
    ofItems feature items ladder = .ok ⟨items.map (·.settled ladder),
      warningsAfter feature none (items.map (·.settled ladder))⟩ := by
  have hassigned : (items.mapM Dated.assign : Except Violation (List (Assignment ladder))) =
      .ok (items.map (·.settled ladder)) := by
    rw [Success.mapM_eq_ok, List.forall₂_map_right_iff, List.forall₂_same]
    intro item hitem
    simp [Dated.assign, Dated.settled, hplain item hitem]
  unfold ofItems
  rw [first_descent_none.mpr hascending, hassigned]
  rfl

theorem settled_rungs (hplain : ∀ item ∈ items, item.drAgainst = none) :
    (items.map (·.settled ladder)).map (·.rung) = ladder.rungsOf items := by
  rw [List.map_map]
  apply List.map_congr_left
  intro item hitem
  simp [Dated.settled, hplain item hitem]

/-- A timeline of values that never fall and that no defect report places exists, on rungs that
never fall. It warns of stale values only: of each value but the first on its published standard,
and of none on the final rung. So nothing is warned about just where no published standard holds two
of the values, and never where all of them lie past the last watermark. -/
theorem stale_values_counted (feature : String) {items : List Dated} {ladder : Ladder}
    (hplain : ∀ item ∈ items, item.drAgainst = none)
    (hascending : (items.map (·.value)).Pairwise (· ≤ ·)) :
    ∃ timeline, ofItems feature items ladder = .ok timeline ∧
      timeline.assignments.map (·.rung) = ladder.rungsOf items ∧
      (timeline.assignments.map (·.rung)).Pairwise (· ≤ ·) ∧
      (∀ w ∈ timeline.warnings, w.kind = .staleValue) ∧
      timeline.warnings.length + (Ladder.publishedAmong (ladder.rungsOf items)).card +
        (ladder.rungsOf items).count ladder.final = items.length ∧
      (timeline.warnings = [] ↔
        ∀ rung ≠ ladder.final, (ladder.rungsOf items).count rung ≤ 1) ∧
      ((∀ item ∈ items, ∀ last ∈ ladder.published.getLast?, last.watermark < item.value) →
        timeline.warnings = []) := by
  have hrungs : (items.map (·.settled ladder)).map (·.rung) = ladder.rungsOf items :=
    settled_rungs hplain
  have hrise : (ladder.rungsOf items).Pairwise (· ≤ ·) := Ladder.rungs_rise hascending
  have hlength : (ladder.rungsOf items).length = items.length := List.length_map _
  have hunmoved : ∀ a ∈ items.map (·.settled ladder), a.defectReport = false := by
    intro a ha
    obtain ⟨item, hitem, rfl⟩ := List.mem_map.mp ha
    simp [Dated.settled, hplain item hitem]
  have hcount : (warningsAfter feature none (items.map (·.settled ladder))).length +
      (Ladder.publishedAmong (ladder.rungsOf items)).card +
      (ladder.rungsOf items).count ladder.final = items.length := by
    have h := plain_warnings_counted feature hunmoved (hrungs ▸ hrise)
    rwa [hrungs, List.length_map] at h
  have hquiet : warningsAfter feature none (items.map (·.settled ladder)) = [] ↔
      ∀ rung ≠ ladder.final, (ladder.rungsOf items).count rung ≤ 1 := by
    rw [← Ladder.published_once_iff, hlength, ← List.length_eq_zero_iff]
    omega
  refine ⟨_, of_items_plain hplain hascending, hrungs, hrungs ▸ hrise, ?_, hcount, hquiet, ?_⟩
  · intro w hw
    obtain ⟨a, ha, before, hw⟩ := warning_origin hw
    exact Assignment.plain_warning_stale (hunmoved a ha) w hw
  · intro hpast
    rw [hquiet]
    intro rung hpublished
    have habsent : rung ∉ ladder.rungsOf items :=
      fun hm => hpublished (Ladder.rungs_final hpast rung hm)
    rw [List.count_eq_zero.mpr habsent]
    exact Nat.zero_le 1

/-- A value on a watermark and its repetition, one past that watermark, and two of the working
draft. -/
def lambdaItems : List Dated :=
  [⟨201103, none⟩, ⟨201103, none⟩, ⟨201104, none⟩, ⟨202303, none⟩, ⟨202303, none⟩]

theorem lambda_items_warned_once :
    (∀ item ∈ lambdaItems, item.drAgainst = none) ∧
      (lambdaItems.map (·.value)).Pairwise (· ≤ ·) ∧
      ∃ timeline, ofItems "__cpp_lambdas" lambdaItems .cpp = .ok timeline ∧
        timeline.warnings.length + 2 + 2 = 5 ∧ timeline.warnings ≠ [] := by
  have hplain : ∀ item ∈ lambdaItems, item.drAgainst = none := by decide
  have hascending : (lambdaItems.map (·.value)).Pairwise (· ≤ ·) := by decide
  obtain ⟨timeline, hok, -, -, -, hcount, hquiet, -⟩ :=
    stale_values_counted "__cpp_lambdas" hplain hascending
  refine ⟨hplain, hascending, timeline, hok, hcount, ?_⟩
  rw [ne_eq, hquiet]
  intro h
  exact absurd (h ⟨1, by decide⟩ (by decide)) (by decide)

end Timeline
end Warnings
end FeatureTest
