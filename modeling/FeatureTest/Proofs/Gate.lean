import FeatureTest.SummaryTable
import FeatureTest.TestFile
import FeatureTest.Proofs.Admission
import FeatureTest.Proofs.FirstMatch
import FeatureTest.Proofs.RenderedLines

/-!
Ingestion as a gate: nothing that works on an ingested registry can fail.
-/
namespace FeatureTest
open Success

/-- What ingestion leaves true of a feature. -/
structure Feature.Admitted (feature : Feature) (ladder : Ladder) : Prop where
  ascending : (feature.rows.map (·.value)).Pairwise (· ≤ ·)
  targets_known : ∀ row ∈ feature.rows, ∀ name ∈ row.drAgainst, name ∈ ladder.names
  support : ∀ i, AcceptedFacts (feature.supportFor i).facts ladder

theorem accepted_facts_nil (ladder : Ladder) : AcceptedFacts [] ladder := by
  refine ⟨?_, .nil, ?_⟩ <;> simp

theorem Feature.admitted_of_record {r : FeatureRecord} {kind : Kind} {ladder : Ladder}
    {feature : Feature} (h : ofRecord r kind ladder = .ok feature) : feature.Admitted ladder := by
  obtain ⟨hhistory, hsupport⟩ := of_record_eq_ok.mp h
  obtain ⟨history, -, ⟨hsorted, hknown⟩, hf⟩ := of_history_eq_ok.mp hhistory
  have hrows : feature.rows = history.rows := congrArg Feature.rows hf
  refine ⟨by rwa [hrows], by rwa [hrows], ?_⟩
  intro i
  have hread := hsupport i
  unfold readSupport at hread
  unfold supportFor
  cases hr : r.support i with
  | none =>
    simp only [hr, Except.ok.injEq] at hread
    rw [← hread]
    exact accepted_facts_nil ladder
  | some records =>
    simp only [hr, map_eq_ok] at hread
    obtain ⟨support, hs, hsome⟩ := hread
    rw [← hsome]
    exact (SupportList.of_records_eq_ok.mp hs).2

theorem Registry.admitted_of_record {r : RegistryRecord} {ladder : Ladder} {registry : Registry}
    (h : Registry.ofRecord r ladder = .ok registry) :
    ∀ feature ∈ registry.entries, feature.Admitted ladder := by
  intro feature hm
  simp only [Registry.ofRecord, bind_eq_ok, pure_eq_ok] at h
  obtain ⟨features, hkinds, rfl⟩ := h
  obtain ⟨group, hgroup, hm⟩ := List.mem_flatten.mp hm
  obtain ⟨kind, -, hrecords⟩ := mapM_origin hkinds group hgroup
  obtain ⟨record, -, hrecord⟩ := mapM_origin hrecords feature hm
  exact Feature.admitted_of_record hrecord

theorem Timeline.of_items_succeeds {feature : String} {items : List Dated} {ladder : Ladder} :
    (∃ timeline, Timeline.ofItems feature items ladder = .ok timeline) ↔
      (items.map (·.value)).Pairwise (· ≤ ·) ∧
        ∀ item ∈ items, ∀ name ∈ item.drAgainst, name ∈ ladder.names := by
  have hassign : ∀ item : Dated,
      (∃ a, (item.assign : Except Violation (Assignment ladder)) = .ok a) ↔
        ∀ name ∈ item.drAgainst, name ∈ ladder.names := by
    intro item
    unfold Dated.assign
    cases item.drAgainst with
    | none => simp
    | some target =>
      simp only [bind_eq_ok, pure_eq_ok, Option.mem_some_iff, forall_eq',
        ← Ladder.require_succeeds]
      constructor
      · intro h
        obtain ⟨_, rung, hr, -⟩ := h
        exact ⟨rung, hr⟩
      · intro h
        obtain ⟨rung, hr⟩ := h
        exact ⟨_, rung, hr, rfl⟩
  unfold Timeline.ofItems
  rw [← first_descent_none]
  simp only [← hassign, ← mapM_succeeds]
  cases hd : firstDescent? (items.map (·.value)) with
  | some pair => simp [bind_eq_ok, throw_ne_ok]
  | none =>
    cases hm : (items.mapM Dated.assign : Except Violation (List (Assignment ladder))) with
    | error v => simp [throw_ne_ok]
    | ok assignments => simp [pure_eq_ok]

namespace Feature

variable {feature : Feature} {ladder : Ladder}

/-- The lines that a feature's tree is written as, under a blank line and the feature's name. -/
theorem block_lines {i : Implementation} {tree : DecisionTree}
    (h : feature.decisionTree i ladder = .ok tree) :
    feature.block i ladder = .ok (String.join
      (("" :: ("// " ++ feature.name) :: tree.lines feature.kind feature.name 0).map
        (· ++ "\n"))) := by
  unfold block
  rw [h]
  simp only [Except.bind, render_lines]
  refine congrArg Except.ok (String.toList_inj.mp ?_)
  simp [toString]

theorem block_succeeds {i : Implementation}
    (h : AcceptedFacts (feature.supportFor i).facts ladder) :
    ∃ text, feature.block i ladder = .ok text := by
  obtain ⟨tree, ht, -⟩ := h.tree_decides
  exact ⟨_, block_lines ht⟩

theorem test_file_succeeds {i : Implementation}
    (h : AcceptedFacts (feature.supportFor i).facts ladder) :
    ∃ file, feature.testFile i ladder = .ok file := by
  unfold testFile
  exact bind_succeeds (block_succeeds h) fun text _ => ⟨_, rfl⟩

/-- Whatever rows are chosen, their timeline exists. -/
theorem Admitted.rows_placed (h : feature.Admitted ladder) {rows : List HistoryRow}
    (hs : rows.Sublist feature.rows) :
    ∃ timeline, Timeline.ofItems feature.name (rows.map (·.dated)) ladder = .ok timeline := by
  refine Timeline.of_items_succeeds.mpr ⟨?_, ?_⟩
  · rw [List.map_map]
    exact h.ascending.sublist (hs.map _)
  · intro item hi
    obtain ⟨row, hr, rfl⟩ := List.mem_map.mp hi
    exact h.targets_known row (hs.subset hr)

theorem Admitted.history_warnings_succeed (h : feature.Admitted ladder) :
    ∃ warnings, feature.historyWarnings ladder = .ok warnings :=
  map_succeeds _ (h.rows_placed List.filter_sublist)

theorem Admitted.support_warnings_succeed (h : feature.Admitted ladder) (i : Implementation) :
    ∃ warnings, feature.supportWarnings i ladder = .ok warnings := by
  refine map_succeeds _ (Timeline.of_items_succeeds.mpr ⟨?_, ?_⟩)
  · rw [List.map_map]
    exact (h.support i).ascending
  · intro item hi
    obtain ⟨fact, hf, rfl⟩ := List.mem_map.mp hi
    exact ((h.support i).placed fact hf).target_known

/-- A table shows the rows that the lint looks at. -/
theorem with_papers_rows (pending : List String) (rows : List HistoryRow) :
    (SummaryTable.withPapers pending rows).map (·.1) = rows.filter (·.description.isSome) := by
  induction rows generalizing pending with
  | nil => rfl
  | cons row rest ih =>
    rw [SummaryTable.withPapers, List.filter_cons]
    split
    · rw [List.map_cons, ih]
    · exact ih _

theorem with_papers_dated (feature : Feature) :
    (SummaryTable.withPapers [] feature.rows).map (·.1.dated) =
      feature.describedRows.map (·.dated) := by
  rw [describedRows, ← with_papers_rows [], List.map_map]
  rfl

theorem Admitted.table_rows_succeed (h : feature.Admitted ladder) :
    ∃ rows, SummaryTable.rowsOf feature ladder = .ok rows := by
  unfold SummaryTable.rowsOf
  simp only [with_papers_dated]
  exact bind_succeeds (h.rows_placed List.filter_sublist) fun timeline _ => ⟨_, rfl⟩

end Feature

namespace Registry

variable {registry : Registry} {ladder : Ladder}

theorem mem_of_active {kind : Kind} {i : Implementation} {feature : Feature}
    (h : feature ∈ registry.active kind i) : feature ∈ registry.entries :=
  List.mem_of_mem_filter (List.mem_of_mem_filter h)

theorem mem_of_published {kind : Kind} {feature : Feature} (h : feature ∈ registry.published kind) :
    feature ∈ registry.entries :=
  List.mem_of_mem_filter (List.mem_of_mem_filter h)

theorem test_file_succeeds (h : ∀ feature ∈ registry.entries, feature.Admitted ladder)
    (kind : Kind) (i : Implementation) : ∃ text, registry.testFile kind i ladder = .ok text := by
  refine bind_succeeds (mapM_succeeds.mpr ?_) fun blocks _ => ⟨_, rfl⟩
  intro feature hf
  exact Feature.block_succeeds ((h feature (mem_of_active hf)).support i)

theorem history_report_succeeds (h : ∀ feature ∈ registry.entries, feature.Admitted ladder)
    (kind : Kind) : ∃ report, registry.historyReport kind ladder = .ok report := by
  refine bind_succeeds (mapM_succeeds.mpr ?_) fun warnings _ => ⟨_, rfl⟩
  intro feature hf
  exact (h feature (mem_of_published hf)).history_warnings_succeed

theorem support_report_succeeds (h : ∀ feature ∈ registry.entries, feature.Admitted ladder)
    (kind : Kind) (i : Implementation) :
    ∃ report, registry.supportReport kind i ladder = .ok report := by
  refine bind_succeeds (mapM_succeeds.mpr ?_) fun warnings _ => ⟨_, rfl⟩
  intro feature hf
  exact (h feature (mem_of_active hf)).support_warnings_succeed i

theorem lint_succeeds (h : ∀ feature ∈ registry.entries, feature.Admitted ladder) :
    ∃ reports, registry.lint ladder = .ok reports := by
  refine bind_succeeds (mapM_succeeds.mpr ?_) fun reports _ => ⟨_, rfl⟩
  intro kind _
  apply bind_succeeds (history_report_succeeds h kind)
  intro history _
  refine bind_succeeds (mapM_succeeds.mpr ?_) fun support _ => ⟨_, rfl⟩
  intro i _
  exact support_report_succeeds h kind i

theorem summary_table_succeeds (h : ∀ feature ∈ registry.entries, feature.Admitted ladder)
    {kind : Kind} (hk : kind ≠ .attributes) :
    ∃ table, registry.summaryTable kind ladder = .ok table := by
  unfold summaryTable
  rw [if_neg hk]
  refine bind_succeeds (mapM_succeeds.mpr ?_) fun features _ => ⟨_, rfl⟩
  intro feature hf
  obtain ⟨rows, hr⟩ := (h feature (mem_of_published hf)).table_rows_succeed
  simp only [hr]
  exact ⟨_, rfl⟩

end Registry

/-- Of an ingested registry every test file, every lint report and both tables can be made, and for
each of its features, withdrawn or not, every test and every list of warnings. -/
theorem ingested_registry_never_fails {r : RegistryRecord} {ladder : Ladder} {registry : Registry}
    (h : Registry.ofRecord r ladder = .ok registry) :
    (∀ kind i, ∃ text, registry.testFile kind i ladder = .ok text) ∧
      (∀ feature ∈ registry.entries,
        (∀ i, ∃ text, feature.block i ladder = .ok text) ∧
        (∀ i, ∃ file, feature.testFile i ladder = .ok file) ∧
        (∃ warnings, feature.historyWarnings ladder = .ok warnings) ∧
        ∀ i, ∃ warnings, feature.supportWarnings i ladder = .ok warnings) ∧
      (∃ reports, registry.lint ladder = .ok reports) ∧
      ∀ kind ≠ .attributes, ∃ table, registry.summaryTable kind ladder = .ok table := by
  have ha := Registry.admitted_of_record h
  refine ⟨Registry.test_file_succeeds ha, ?_, Registry.lint_succeeds ha, ?_⟩
  · intro feature hf
    have hfeature := ha feature hf
    exact ⟨fun i => Feature.block_succeeds (hfeature.support i),
      fun i => Feature.test_file_succeeds (hfeature.support i),
      hfeature.history_warnings_succeed, hfeature.support_warnings_succeed⟩
  · intro kind hk
    exact Registry.summary_table_succeeds ha hk

/-- A value since the first standard, above it one that a switch toggles, and features withdrawn
from one implementation or from all. -/
def sampleRecord : RegistryRecord where
  attributes := []
  language := [
    { name := "__cpp_impl_coroutine"
      rows := [
        { value := some 201902, papers := some "P0912R5", description := some "Coroutines" },
        { papers := some "P2300" },
        { value := some 202302, drAgainst := some "C++20" }]
      support := fun
        | .clang => some [
          { value := some 201902, since := some "C++98" },
          { value := some 202302, since := some "C++20", option := some "-fcoroutines" }]
        | .gcc => some [{ removed := true }]
        | .msvc => none }]
  library := [{ name := "__cpp_lib_experimental", rows := [{ removed := true }] }]

theorem sample_registry_never_fails :
    ∃ registry, Registry.ofRecord sampleRecord .cpp = .ok registry ∧
      (∃ text, registry.testFile .language .clang .cpp = .ok text) ∧
      (∃ reports, registry.lint .cpp = .ok reports) ∧
      ∃ table, registry.summaryTable .language .cpp = .ok table := by
  have h : ∃ registry, Registry.ofRecord sampleRecord .cpp = .ok registry := ⟨_, rfl⟩
  obtain ⟨registry, hr⟩ := h
  obtain ⟨hfiles, -, hlint, htable⟩ := ingested_registry_never_fails hr
  exact ⟨registry, hr, hfiles .language .clang, hlint, htable .language (by decide)⟩

end FeatureTest
