import FeatureTest.Proofs.Gate
import FeatureTest.Proofs.LintReports
import FeatureTest.Proofs.TimelineOrder

/-!
The summary table and the lint place the same rows in the same way: the table warns as the report
about the history does, and marks each row with the standard that its value was assigned.
-/
namespace FeatureTest
open Success SummaryTable

/-- What a row shows of an assignment: its standard, and whether a defect report placed it there. -/
def Assignment.standardCell {ladder : Ladder} (a : Assignment ladder) : String :=
  markup "mark " (Text.lowercase (ladder.standard a.rung).name) ++
    if a.defectReport then "<br>" ++ markup "mark|" "DR" else ""

namespace SummaryTable

/-- The text of a row up to its value and headers. -/
def Layout.valueCells (layout : Layout) (isFirst : Bool) (row : HistoryRow) : String :=
  layout.rowStart isFirst ++ "| " ++ row.description.getD "" ++
    " || " ++ markup "c|" (toString row.value ++ "L") ++ layout.headerCell isFirst row

def paperCell (papers : List String) : String :=
  "<br>".intercalate (papers.map fun paper => "\x7b\x7bstddoc|" ++ paper ++ "\x7d\x7d")

theorem paper_cell_eq (papers : List String) :
    "<br>".intercalate (papers.map (markup "stddoc|")) = paperCell papers := rfl

/-- The text of each row in turn. The first one carries the name of the feature. -/
def rowsText (feature : Feature) (rows : List TableRow) : String :=
  String.join (rows.mapIdx fun i r => (Layout.ofRows feature rows).rowText (i == 0) r)

theorem feature_text_eq (feature : Feature) (rows : List TableRow) :
    featureText feature rows = rowsText feature rows := by
  unfold featureText rowsText
  cases rows with
  | nil => rfl
  | cons r rest =>
    have hlater : (rest.mapIdx fun i => (Layout.ofRows feature (r :: rest)).rowText (i + 1 == 0)) =
        rest.map ((Layout.ofRows feature (r :: rest)).rowText false) :=
      List.ext_getElem (by simp) (by simp)
    rw [List.mapIdx_cons, String.join_cons, hlater]
    rfl

end SummaryTable

/-- A row shows an assignment: its standard in lowercase, and the mark of a defect report just where
it is one, wherever in the table the row stands. -/
structure TableRow.MarkedBy {ladder : Ladder} (r : TableRow) (a : Assignment ladder) : Prop where
  value : a.value = r.row.value
  mark : r.mark = Text.lowercase (ladder.standard a.rung).name
  defect_report : a.defectReport = r.row.drAgainst.isSome
  text : ∀ (layout : Layout) (isFirst : Bool), layout.rowText isFirst r =
    layout.valueCells isFirst r.row ++ " || " ++ a.standardCell ++ " || " ++ paperCell r.papers ++
      "\n"

/-- The rows of a feature are those with a description, each marked by the assignment that their
timeline has for it. -/
structure Feature.ShownAs {ladder : Ladder} (feature : Feature) (rows : List TableRow)
    (timeline : Timeline ladder) : Prop where
  placed : Timeline.ofItems feature.name (feature.describedRows.map (·.dated)) ladder = .ok timeline
  described : rows.map (·.row) = feature.describedRows
  marked : List.Forall₂ TableRow.MarkedBy rows timeline.assignments

/-- The table of a kind consists of every published feature, each with its rows and with the
warnings of the timeline that marks them. -/
structure RenderedTable.Shows {ladder : Ladder} (table : RenderedTable) (registry : Registry)
    (kind : Kind) (shown : List (List TableRow × Timeline ladder)) : Prop where
  features : List.Forall₂ (fun feature s => feature.ShownAs s.1 s.2) (registry.published kind) shown
  warnings : table.warnings = shown.flatMap (·.2.warnings)
  text : table.text = heading kind ++
    String.join (List.zipWith (fun feature s => rowsText feature s.1)
      (registry.published kind) shown) ++ footing kind table.featureCount

section Rows

variable {ladder : Ladder} {feature : Feature}

theorem marked_by_placed {row : HistoryRow} {papers : List String} {a : Assignment ladder}
    (h : row.dated.PlacedAt a) :
    TableRow.MarkedBy ⟨row, papers, (ladder.standard a.rung).switchName⟩ a := by
  have hreport : a.defectReport = row.drAgainst.isSome := h.defect_report
  refine ⟨h.value, rfl, hreport, ?_⟩
  intro layout isFirst
  simp only [Layout.rowText, Layout.valueCells, Assignment.standardCell, paper_cell_eq,
    Standard.switchName, hreport, String.append_assoc]

/-- Each described row keeps its own assignment. -/
theorem marked_rows {described : List (HistoryRow × List String)}
    {assignments : List (Assignment ladder)}
    (h : List.Forall₂ (fun d a => d.1.dated.PlacedAt a) described assignments) :
    ((described.zip assignments).map fun ((row, papers), a) =>
        (⟨row, papers, (ladder.standard a.rung).switchName⟩ : TableRow)).map (·.row) =
      described.map (·.1) ∧
    List.Forall₂ TableRow.MarkedBy ((described.zip assignments).map fun ((row, papers), a) =>
        ⟨row, papers, (ladder.standard a.rung).switchName⟩) assignments := by
  induction h with
  | nil => exact ⟨rfl, .nil⟩
  | cons hplaced _ ih =>
    obtain ⟨hrows, hmarked⟩ := ih
    exact ⟨congrArg _ hrows, .cons (marked_by_placed hplaced) hmarked⟩

theorem shown_of_rows {rows : List TableRow} {warnings : List Warning}
    (h : rowsOf feature ladder = .ok (rows, warnings)) :
    ∃ timeline : Timeline ladder, feature.ShownAs rows timeline ∧
      timeline.warnings = warnings := by
  obtain ⟨timeline, htimeline, h⟩ := bind_eq_ok.mp h
  obtain ⟨rfl, rfl⟩ := Prod.mk.inj (pure_eq_ok.mp h)
  obtain ⟨-, hassigned, -⟩ := Timeline.of_items_eq_ok htimeline
  have hplaced : List.Forall₂ (fun d a => d.1.dated.PlacedAt a) (withPapers [] feature.rows)
      timeline.assignments :=
    (List.forall₂_map_left_iff.mp hassigned).imp fun _ _ ha => (Dated.placed_of_assign ha).1
  obtain ⟨hrows, hmarked⟩ := marked_rows hplaced
  rw [Feature.with_papers_dated] at htimeline
  exact ⟨timeline, ⟨htimeline, hrows.trans (Feature.with_papers_rows [] feature.rows), hmarked⟩,
    rfl⟩

/-- The rows of a feature show its described rows, each with the papers that it was handed. -/
theorem papers_of_rows {rows : List TableRow} {warnings : List Warning}
    (h : rowsOf feature ladder = .ok (rows, warnings)) :
    rows.map (fun r => (r.row, r.papers)) = withPapers [] feature.rows := by
  obtain ⟨timeline, htimeline, h⟩ := bind_eq_ok.mp h
  obtain ⟨rfl, -⟩ := Prod.mk.inj (pure_eq_ok.mp h)
  obtain ⟨-, hassigned, -⟩ := Timeline.of_items_eq_ok htimeline
  have hlength : (withPapers [] feature.rows).length ≤ timeline.assignments.length := by
    rw [← hassigned.length_eq]
    exact Nat.le_of_eq (List.length_map _).symm
  rw [List.map_map]
  exact List.map_fst_zip hlength

/-- What marks the rows of a feature, each with whether it is marked as a defect report. -/
theorem Feature.ShownAs.marks {rows : List TableRow} {timeline : Timeline ladder}
    (h : feature.ShownAs rows timeline) :
    rows.map (fun r => (r.mark, r.row.drAgainst.isSome)) = timeline.assignments.map fun a =>
      (Text.lowercase (ladder.standard a.rung).name, a.defectReport) := by
  rw [← List.forall₂_eq_eq_eq]
  refine List.forall₂_map_left_iff.mpr (List.forall₂_map_right_iff.mpr (h.marked.imp ?_))
  intro r a hmarked
  rw [hmarked.mark, hmarked.defect_report]

theorem Feature.ShownAs.history_warnings {rows : List TableRow} {timeline : Timeline ladder}
    (h : feature.ShownAs rows timeline) :
    feature.historyWarnings ladder = .ok timeline.warnings := by
  unfold historyWarnings
  rw [h.placed]
  rfl

end Rows

namespace Registry

variable {registry : Registry} {kind : Kind} {ladder : Ladder}

/-- A table lists the rows of every published feature in turn. -/
theorem summary_table_eq_ok {table : RenderedTable}
    (h : registry.summaryTable kind ladder = .ok table) :
    ∃ listed : List (List TableRow × List Warning),
      List.Forall₂ (fun feature l => rowsOf feature ladder = .ok l) (registry.published kind)
        listed ∧
      table.text = heading kind ++ String.join (List.zipWith (fun feature l =>
        rowsText feature l.1) (registry.published kind) listed) ++
          footing kind table.featureCount ∧
      table.warnings = listed.flatMap (·.2) ∧
      table.featureCount = listed.countP (!·.1.isEmpty) := by
  unfold summaryTable at h
  split at h
  · exact absurd h throw_ne_ok
  obtain ⟨features, hfeatures, h⟩ := bind_eq_ok.mp h
  have hlisted : List.Forall₂ (fun feature f => f.1 = feature ∧ rowsOf feature ladder = .ok f.2)
      (registry.published kind) features := by
    refine (mapM_eq_ok.mp hfeatures).imp ?_
    intro feature f hf
    split at hf
    · next rows warnings hrows =>
      obtain rfl := Except.ok.inj hf
      exact ⟨rfl, hrows⟩
    · cases hf
  have hnamed : registry.published kind = features.map (·.1) := by
    have heq := List.forall₂_map_right_iff.mpr (hlisted.imp fun _ _ hf => hf.1.symm)
    rwa [List.forall₂_eq_eq_eq] at heq
  refine ⟨features.map (·.2), List.forall₂_map_right_iff.mpr (hlisted.imp fun _ _ hf => hf.2), ?_⟩
  rw [← pure_eq_ok.mp h, hnamed, List.zipWith_map, List.zipWith_self, List.flatMap_map,
    List.countP_map]
  simp only [← feature_text_eq]
  exact ⟨trivial, trivial, rfl⟩

/-- Listed rows in terms of how each feature is shown. -/
theorem shown_of_listed {published : List Feature} {listed : List (List TableRow × List Warning)}
    (h : List.Forall₂ (fun feature l => rowsOf feature ladder = .ok l) published listed) :
    ∃ shown : List (List TableRow × Timeline ladder),
      List.Forall₂ (fun feature s => feature.ShownAs s.1 s.2) published shown ∧
      listed = shown.map fun s => (s.1, s.2.warnings) := by
  induction h with
  | nil => exact ⟨[], .nil, rfl⟩
  | @cons feature l _ _ hl _ ih =>
    obtain ⟨shown, hshown, rfl⟩ := ih
    obtain ⟨rows, warnings⟩ := l
    obtain ⟨timeline, htimeline, rfl⟩ := shown_of_rows hl
    exact ⟨(rows, timeline) :: shown, .cons htimeline hshown, rfl⟩

theorem summary_table_shows {table : RenderedTable}
    (h : registry.summaryTable kind ladder = .ok table) :
    ∃ shown : List (List TableRow × Timeline ladder), table.Shows registry kind shown := by
  obtain ⟨listed, hlisted, htext, hwarnings, -⟩ := summary_table_eq_ok h
  obtain ⟨shown, hshown, rfl⟩ := shown_of_listed hlisted
  rw [List.zipWith_map_right] at htext
  rw [List.flatMap_map] at hwarnings
  exact ⟨shown, hshown, hwarnings, htext⟩

/-- The warnings of a table are those of the report about the history, and it marks each described
row with the standard that the report's timeline gives to it, by a defect report or by its value. -/
theorem table_agrees_with_lint {table : RenderedTable} {reports : List LintReport}
    (htable : registry.summaryTable kind ladder = .ok table)
    (hlint : registry.lint ladder = .ok reports) :
    ∃ (report : LintReport) (shown : List (List TableRow × Timeline ladder)),
      reports.filter (·.isAbout kind none) = [report] ∧
      table.warnings = report.warnings ∧ table.Shows registry kind shown := by
  obtain ⟨shown, hshown⟩ := summary_table_shows htable
  obtain ⟨report, hreport, hone⟩ := lint_history hlint kind
  obtain ⟨lists, hlists, hreport⟩ := bind_eq_ok.mp hreport
  have hsame : lists = shown.map (·.2.warnings) := by
    have hmapped : (registry.published kind).mapM (·.historyWarnings ladder) =
        .ok (shown.map (·.2.warnings)) :=
      mapM_eq_ok.mpr (List.forall₂_map_right_iff.mpr
        (hshown.features.imp fun _ _ hs => hs.history_warnings))
    exact Except.ok.inj (hlists.symm.trans hmapped)
  refine ⟨report, shown, hone, ?_, hshown⟩
  rw [hshown.warnings, ← pure_eq_ok.mp hreport, hsame, List.flatMap_def]

/-- Coroutines with an undescribed value between two described ones, of which the later is stale
against the former, and last a value by defect report. -/
def coroutinesRegistry : Registry where
  entries := [
    { name := "__cpp_impl_coroutine"
      kind := .language
      rows := [
        { value := 201707, papers := ["N4680"], description := some "Coroutines TS" },
        { value := 201803, papers := ["P0912R2"] },
        { value := 201902, papers := ["P0912R5"], description := some "Coroutines" },
        { value := 202302, description := some "Wording", drAgainst := some "C++20" }] },
    { name := "__cpp_gone", kind := .language, removed := true }]

theorem coroutines_table_agrees_with_lint :
    ∃ (table : RenderedTable) (reports : List LintReport) (report : LintReport)
      (rows : List TableRow) (timeline : Timeline .cpp),
      coroutinesRegistry.summaryTable .language .cpp = .ok table ∧
      coroutinesRegistry.lint .cpp = .ok reports ∧
      reports.filter (·.isAbout .language none) = [report] ∧
      table.warnings = report.warnings ∧
      table.warnings.map (·.kind) = [.staleValue] ∧
      table.Shows coroutinesRegistry .language [(rows, timeline)] ∧
      rows.map (·.row.value) = [201707, 201902, 202302] ∧
      rows.map (fun r => (r.mark, r.row.drAgainst.isSome)) =
        [("c++20", false), ("c++20", false), ("c++20", true)] := by
  obtain ⟨table, htable, hkinds⟩ : ∃ table,
      coroutinesRegistry.summaryTable .language .cpp = .ok table ∧
        table.warnings.map (·.kind) = [.staleValue] := ⟨_, rfl, rfl⟩
  obtain ⟨reports, hreports⟩ : ∃ reports, coroutinesRegistry.lint .cpp = .ok reports := ⟨_, rfl⟩
  obtain ⟨report, shown, hone, hwarnings, hshown⟩ := table_agrees_with_lint htable hreports
  obtain ⟨feature, hpublished, hvalues, timeline, hplaced, hmarks⟩ : ∃ feature,
      coroutinesRegistry.published .language = [feature] ∧
        feature.describedRows.map (·.value) = [201707, 201902, 202302] ∧
        ∃ timeline, Timeline.ofItems feature.name (feature.describedRows.map (·.dated)) .cpp =
            .ok timeline ∧
          timeline.assignments.map (fun a =>
              (Text.lowercase (Ladder.cpp.standard a.rung).name, a.defectReport)) =
            [("c++20", false), ("c++20", false), ("c++20", true)] :=
    ⟨_, rfl, rfl, _, rfl, by decide +kernel⟩
  have hfeatures := hshown.features
  rw [hpublished] at hfeatures
  obtain ⟨⟨rows, timeline'⟩, rest, hrows, hrest, rfl⟩ := List.forall₂_cons_left_iff.mp hfeatures
  obtain rfl := List.forall₂_nil_left_iff.mp hrest
  obtain rfl : timeline = timeline' := Except.ok.inj (hplaced.symm.trans hrows.placed)
  refine ⟨table, reports, report, rows, timeline, htable, hreports, hone, hwarnings, hkinds, hshown,
    ?_, hrows.marks.trans hmarks⟩
  rw [← hvalues, ← hrows.described, List.map_map]
  rfl

end Registry
end FeatureTest
