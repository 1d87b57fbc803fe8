import FeatureTest.Proofs.TableMarks
import FeatureTest.Proofs.WellFormed

/-!
Where the papers of a record end up. Ingestion hands the papers of a record without a value on to
the next row, and the table those of a row without a description. Between them every paper is listed
once, by the row of the next described record.
-/
namespace FeatureTest
open Success SummaryTable

/-- Items cut after each one that closes a group, and those after the last such item. -/
structure ClosedGroups {α : Type} (closes : α → Bool) (items : List α) (groups : List (List α))
    (unclosed : List α) : Prop where
  whole : groups.flatten ++ unclosed = items
  closed : ∀ group ∈ groups, ∃ before last, group = before ++ [last] ∧
    (∀ x ∈ before, closes x = false) ∧ closes last = true
  unclosed : ∀ x ∈ unclosed, closes x = false

theorem ClosedGroups.of_unclosed {α : Type} {closes : α → Bool} {items : List α}
    (h : ∀ x ∈ items, closes x = false) : ClosedGroups closes items [] items :=
  ⟨rfl, fun _ hg => absurd hg List.not_mem_nil, h⟩

theorem ClosedGroups.close {α : Type} {closes : α → Bool} {before rest unclosed : List α} {last : α}
    {groups : List (List α)} (hbefore : ∀ x ∈ before, closes x = false) (hlast : closes last = true)
    (h : ClosedGroups closes rest groups unclosed) :
    ClosedGroups closes (before ++ last :: rest) ((before ++ [last]) :: groups) unclosed := by
  refine ⟨?_, List.forall_mem_cons.mpr ⟨⟨before, last, rfl, hbefore, hlast⟩, h.closed⟩, h.unclosed⟩
  rw [List.flatten_cons, List.append_assoc, h.whole, List.append_assoc]
  rfl

namespace SummaryTable

/-- The text of a row up to its papers. -/
def Layout.leadingCells (layout : Layout) (isFirst : Bool) (r : TableRow) : String :=
  layout.valueCells isFirst r.row ++ " || " ++ markup "mark " r.mark ++
    if r.row.drAgainst.isSome then "<br>" ++ markup "mark|" "DR" else ""

theorem Layout.row_text_papers (layout : Layout) (isFirst : Bool) (r : TableRow) :
    layout.rowText isFirst r =
      layout.leadingCells isFirst r ++ " || " ++ paperCell r.papers ++ "\n" := by
  simp only [rowText, leadingCells, valueCells, paper_cell_eq, String.append_assoc]

end SummaryTable

/-- A row shows the record that ends a group, and its last cell lists the papers of the whole
group. -/
structure TableRow.ClosesGroup (r : TableRow) (group : List RowRecord) : Prop where
  shown : ∃ last ∈ group.getLast?,
    last.value = some r.row.value ∧ last.description = r.row.description
  papers : ListedPapers group r.papers
  text : ∀ (layout : Layout) (isFirst : Bool), layout.rowText isFirst r =
    layout.leadingCells isFirst r ++ " || " ++ paperCell r.papers ++ "\n"

theorem TableRow.closes_group {r : TableRow} {before : List RowRecord} {last : RowRecord}
    (hvalue : last.value = some r.row.value) (hdescription : last.description = r.row.description)
    (hpapers : r.papers = papersOf (before ++ [last])) : r.ClosesGroup (before ++ [last]) where
  shown := ⟨last, List.getLast?_concat, hvalue, hdescription⟩
  papers := listed_papers_iff.mpr hpapers.symm
  text := fun layout isFirst => layout.row_text_papers isFirst r

theorem nothing_open : ∀ r ∈ ([] : List RowRecord), r.description.isSome = false :=
  fun _ hr => absurd hr List.not_mem_nil

/-- The rows that a table has for records without markers: one for each group of records that ends
with a described one. Those in `before` are not described, and their papers are still pending. -/
theorem RowsOf.grouped {records : List RowRecord} {rows : List HistoryRow}
    (h : RowsOf records rows) (hsilent : ∀ r ∈ records, r.Silent) {before : List RowRecord}
    (hbefore : ∀ r ∈ before, r.description.isSome = false) {shown : List TableRow}
    (hshown : shown.map (fun r => (r.row, r.papers)) = withPapers (papersOf before) rows) :
    ∃ groups unclosed,
      ClosedGroups (·.description.isSome) (before ++ records) groups unclosed ∧
      List.Forall₂ TableRow.ClosesGroup shown groups := by
  induction h generalizing before shown with
  | @done silent hs =>
    have hnone : shown = [] := List.map_eq_nil_iff.mp hshown
    subst hnone
    refine ⟨[], before ++ silent, .of_unclosed (List.forall_mem_append.mpr ⟨hbefore, ?_⟩), .nil⟩
    intro r hr
    simp [hsilent r hr (hs r hr)]
  | @row silent r value papers headers rest rows hs hv hpapers _ _ ih =>
    obtain ⟨hsilent, hrest⟩ := List.forall_mem_append.mp hsilent
    obtain ⟨-, hrest⟩ := List.forall_mem_cons.mp hrest
    have hundescribed : ∀ x ∈ before ++ silent, x.description.isSome = false := by
      refine List.forall_mem_append.mpr ⟨hbefore, ?_⟩
      intro x hx
      simp [hsilent x hx (hs x hx)]
    have hpapers : papersOf before ++ papers = papersOf (before ++ silent ++ [r]) := by
      rw [← listed_papers_iff.mp hpapers, List.append_assoc, papers_of_append before]
    rw [withPapers] at hshown
    split at hshown
    · rename_i hdescribed
      -- the record closes its group, and nothing is pending after it
      obtain ⟨first, later, rfl, hfirst, hlater⟩ := List.map_eq_cons_iff.mp hshown
      obtain ⟨hrow, hlisted⟩ := Prod.mk.inj hfirst
      obtain ⟨groups, unclosed, hgroups, hcloses⟩ := ih hrest nothing_open hlater
      rw [← List.append_assoc]
      refine ⟨_, unclosed, .close hundescribed hdescribed hgroups, .cons ?_ hcloses⟩
      apply TableRow.closes_group
      · rw [hrow, hv]
      · rw [hrow]
      · rw [hlisted, hpapers]
    · rename_i hdescribed
      -- the record stays in the open group, and its papers pending
      have hopen : ∀ x ∈ before ++ silent ++ [r], x.description.isSome = false := by
        refine List.forall_mem_append.mpr ⟨hundescribed, ?_⟩
        simpa using hdescribed
      rw [hpapers] at hshown
      obtain ⟨groups, unclosed, hgroups, hcloses⟩ := ih hrest hopen hshown
      refine ⟨groups, unclosed, ?_, hcloses⟩
      rwa [List.append_assoc, List.append_assoc] at hgroups

/-- The features of a kind are read from the records of that kind, in their order. -/
theorem Registry.features_of_record {r : RegistryRecord} {ladder : Ladder} {registry : Registry}
    (h : Registry.ofRecord r ladder = .ok registry) (kind : Kind) :
    List.Forall₂ (fun record feature => Feature.ofRecord record kind ladder = .ok feature)
      (r.ofKind kind) (registry.features kind) := by
  simp only [Registry.ofRecord, bind_eq_ok, pure_eq_ok] at h
  obtain ⟨groups, hgroups, rfl⟩ := h
  have hall : ∀ k, k ∈ Kind.all := by
    intro k
    cases k <;> decide
  choose group hgroup using fun k => mapM_succeeds.mp ⟨groups, hgroups⟩ k (hall k)
  rw [mapM_all_ok hgroup, Except.ok.injEq] at hgroups
  have hkind : ∀ k, ∀ feature ∈ group k, feature.kind = k := by
    intro k feature hf
    obtain ⟨record, -, hrecord⟩ := mapM_origin (hgroup k) feature hf
    exact (Feature.of_record_keeps hrecord).kind
  have hfeatures : Registry.features ⟨groups.flatten⟩ kind = group kind := by
    have hsame : (group kind).filter (·.kind == kind) = group kind := by
      refine List.filter_eq_self.mpr fun feature hf => ?_
      rw [hkind kind feature hf, beq_self_eq_true]
    have hother : ∀ k, k ≠ kind → (group k).filter (·.kind == kind) = [] := by
      intro k hk
      refine List.filter_eq_nil_iff.mpr fun feature hf => ?_
      rw [hkind k feature hf]
      simpa using hk
    unfold features
    rw [← hgroups, List.filter_flatten, List.map_map]
    cases kind <;> simp [Kind.all, hsame, hother]
  rw [hfeatures]
  exact mapM_eq_ok.mp (hgroup kind)

theorem kept_eq_self {α : Type} {removed : α → Bool} {records : List α}
    (hlast : MarkerLast removed records) (hends : endsRemoved removed records = false) :
    kept removed records = records := by
  refine List.filter_eq_self.mpr fun r hr => ?_
  rcases List.eq_nil_or_concat records with rfl | ⟨init, last, rfl⟩
  · cases hr
  · rw [List.concat_eq_append] at hr
    simp only [MarkerLast, endsRemoved, List.concat_eq_append, List.dropLast_concat,
      List.getLast?_concat, Option.any_some] at hlast hends
    rcases List.mem_append.mp hr with hr | hr
    · rw [hlast r hr, Bool.not_false]
    · rw [List.mem_singleton.mp hr, hends, Bool.not_false]

/-- The records of a kind that no removal marker ends. -/
def RegistryRecord.published (r : RegistryRecord) (kind : Kind) : List FeatureRecord :=
  (r.ofKind kind).filter (!endsRemoved (·.removed) ·.rows)

/-- Each row shows one described record and lists its papers after those of the records since the
described one before it. No row lists papers of the records after the last described one. -/
def FeatureRecord.CreditedBy (r : FeatureRecord) (rows : List TableRow) : Prop :=
  ∃ groups unclosed, ClosedGroups (·.description.isSome) r.rows groups unclosed ∧
    List.Forall₂ TableRow.ClosesGroup rows groups

theorem credited_of_rows {record : FeatureRecord} {kind : Kind} {ladder : Ladder}
    {feature : Feature} {rows : List TableRow} {warnings : List Warning}
    (hread : Feature.ofRecord record kind ladder = .ok feature)
    (hpublished : endsRemoved (·.removed) record.rows = false)
    (hrows : rowsOf feature ladder = .ok (rows, warnings)) : record.CreditedBy rows := by
  have hwell := (Feature.of_record_succeeds.mp ⟨feature, hread⟩).rows
  have hkept := kept_eq_self hwell.marker_last hpublished
  have hhistory : RowsOf record.rows feature.rows := by
    rw [← hkept]
    exact (Feature.of_record_keeps hread).rows
  exact hhistory.grouped (hkept ▸ hwell.silent) nothing_open (papers_of_rows hrows)

theorem credited_of_listed {records : List FeatureRecord} {kind : Kind} {ladder : Ladder}
    {features : List Feature} {listed : List (List TableRow × List Warning)}
    (hread : List.Forall₂ (fun record feature => Feature.ofRecord record kind ladder = .ok feature)
      records features)
    (hpublished : ∀ record ∈ records, endsRemoved (·.removed) record.rows = false)
    (hlisted : List.Forall₂ (fun feature l => rowsOf feature ladder = .ok l) features listed) :
    List.Forall₂ FeatureRecord.CreditedBy records (listed.map (·.1)) := by
  induction hread generalizing listed with
  | nil =>
    cases hlisted
    exact .nil
  | cons hrecord _ ih =>
    obtain ⟨hp, hpublished⟩ := List.forall_mem_cons.mp hpublished
    cases hlisted with
    | cons hrows hlisted => exact .cons (credited_of_rows hrecord hp hrows) (ih hpublished hlisted)

/-- Of an ingested registry the table of language and of library features can be made. Its text is
that of the rows of the records that are not removed, one after the other, and in each row the last
cell lists the papers of just those records that lie between the described record before it and its
own. -/
theorem papers_reach_their_rows {r : RegistryRecord} {ladder : Ladder} {registry : Registry}
    {kind : Kind} (h : Registry.ofRecord r ladder = .ok registry) (hk : kind ≠ .attributes) :
    ∃ (table : RenderedTable) (listed : List (List TableRow)),
      registry.summaryTable kind ladder = .ok table ∧
      table.text = heading kind ++ String.join (List.zipWith rowsText
        (registry.published kind) listed) ++ footing kind table.featureCount ∧
      List.Forall₂ (fun record feature => Feature.ofRecord record kind ladder = .ok feature)
        (r.published kind) (registry.published kind) ∧
      List.Forall₂ (fun feature rows => ∃ warnings, rowsOf feature ladder = .ok (rows, warnings))
        (registry.published kind) listed ∧
      List.Forall₂ FeatureRecord.CreditedBy (r.published kind) listed := by
  obtain ⟨table, htable⟩ := Registry.summary_table_succeeds (Registry.admitted_of_record h) hk
  obtain ⟨listed, hlisted, htext, -, -⟩ := Registry.summary_table_eq_ok htable
  have hread : List.Forall₂ (fun record feature =>
      Feature.ofRecord record kind ladder = .ok feature) (r.published kind)
        (registry.published kind) := by
    refine List.rel_filter ?_ (Registry.features_of_record h kind)
    intro record feature hrecord
    simp [(Feature.of_record_keeps hrecord).removed]
  have hpublished : ∀ record ∈ r.published kind, endsRemoved (·.removed) record.rows = false := by
    intro record hrecord
    simpa using List.of_mem_filter hrecord
  refine ⟨table, listed.map (·.1), htable, ?_, hread, ?_,
    credited_of_listed hread hpublished hlisted⟩
  · rw [htext, List.zipWith_map_right]
  · exact List.forall₂_map_right_iff.mpr (hlisted.imp fun _ l hl => ⟨l.2, hl⟩)

/-- Papers before the first value, of an undescribed value, and after the last description. -/
def conceptsRecord : RegistryRecord where
  attributes := []
  language := [
    { name := "__cpp_concepts"
      rows := [
        { papers := some "N4549" },
        { value := some 201507, papers := some "P0121R0" },
        { value := some 201907, papers := some "P0734R0 P0857R0", description := some "Concepts" },
        { papers := some "P1452R2" },
        { value := some 202002, papers := some "P0848R3", description := some "Trivial members" },
        { papers := some "P2493R0" }] },
    { name := "__cpp_gone", rows := [{ papers := some "P0000R0" }, { removed := true }] }]
  library := []

theorem concepts_papers_credited :
    ∃ registry table rows, Registry.ofRecord conceptsRecord .cpp = .ok registry ∧
      registry.summaryTable .language .cpp = .ok table ∧
      List.Forall₂ FeatureRecord.CreditedBy (conceptsRecord.language.take 1) [rows] ∧
      rows.map (·.papers) =
        [["N4549", "P0121R0", "P0734R0", "P0857R0"], ["P1452R2", "P0848R3"]] ∧
      rows.map (paperCell ·.papers) =
        ["\x7b\x7bstddoc|N4549\x7d\x7d<br>\x7b\x7bstddoc|P0121R0\x7d\x7d<br>" ++
            "\x7b\x7bstddoc|P0734R0\x7d\x7d<br>\x7b\x7bstddoc|P0857R0\x7d\x7d",
          "\x7b\x7bstddoc|P1452R2\x7d\x7d<br>\x7b\x7bstddoc|P0848R3\x7d\x7d"] := by
  obtain ⟨registry, hr, feature, hpublished, rows, warnings, hrows, hpapers⟩ : ∃ registry,
      Registry.ofRecord conceptsRecord .cpp = .ok registry ∧
        ∃ feature, registry.published .language = [feature] ∧
          ∃ rows warnings, rowsOf feature .cpp = .ok (rows, warnings) ∧ rows.map (·.papers) =
            [["N4549", "P0121R0", "P0734R0", "P0857R0"], ["P1452R2", "P0848R3"]] :=
    ⟨_, rfl, _, rfl, _, _, rfl, rfl⟩
  obtain ⟨table, listed, htable, -, -, hlisted, hcredited⟩ := papers_reach_their_rows hr
    (by decide : Kind.language ≠ .attributes)
  rw [hpublished] at hlisted
  obtain ⟨rows', rest, ⟨warnings', hrows'⟩, hrest, rfl⟩ := List.forall₂_cons_left_iff.mp hlisted
  obtain rfl := List.forall₂_nil_left_iff.mp hrest
  obtain ⟨rfl, -⟩ := Prod.mk.inj (Except.ok.inj (hrows.symm.trans hrows'))
  refine ⟨registry, table, rows, hr, htable, hcredited, hpapers, ?_⟩
  have hcells : rows.map (paperCell ·.papers) = (rows.map (·.papers)).map paperCell := by
    rw [List.map_map]
    rfl
  rw [hcells, hpapers]
  decide +kernel

end FeatureTest
