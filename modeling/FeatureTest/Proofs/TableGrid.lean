import FeatureTest.Proofs.TableRows

/-!
The summary table is a grid. A feature has one row for each described value, and whatever its first
row spans, the columns of the rows below it are those of the heading.
-/
namespace FeatureTest
open Success SummaryTable Wikitable

namespace Feature

variable (feature : Feature)

/-- What a row shows under each heading. -/
def columns (r : TableRow) : List String :=
  [padded (nameMarkup feature.name), padded (r.row.description.getD ""),
      padded (valueCell r.row.value)] ++
    (if feature.kind = .library then [padded (headerCells (feature.headersOf r.row))] else []) ++
    [padded r.standardCell, " " ++ paperCell r.papers]

/-- How many rows the cells of the first row span: all rows of the feature for the name and for
shared headers, one for the others. -/
def rowspans : List Nat :=
  let height := feature.describedRows.length
  [height, 1, 1] ++
    (if feature.kind = .library then [if feature.sharesHeaders then height else 1] else []) ++
    [1, 1]

/-- The rows of a feature, one for each described value. The first one carries what spans them all,
and the other ones have cells only in the columns that it does not span. -/
structure FillsRows (ladder : Ladder) (rows : List Wikitable.Row) : Prop where
  height : rows.length = feature.describedRows.length
  first : ∀ row ∈ rows.head?, row.attributes = " id=\"" ++ feature.anchor ++ "\"" ∧
    row.cells.map Cell.rowspan = feature.rowspans
  later : ∀ row ∈ rows.tail, row.attributes = "" ∧
    row.cells.map Cell.rowspan = feature.rowspans.filter (· == 1)
  columns : ∃ shown warnings, rowsOf feature ladder = .ok (shown, warnings) ∧
    (grid rows).map contents = shown.map fun r => (feature.columns r).map some

def markupRows (rows : List TableRow) : List Wikitable.Row :=
  (withFirst rows).map fun (isFirst, r) => feature.markupRow isFirst r

section Layout

variable {feature} {rows : List TableRow} {r : TableRow}

theorem layout_contents (r : TableRow) :
    (feature.layout r).map Column.content = feature.columns r := by
  unfold layout headerColumn columns
  split <;> rfl

theorem layout_rowspans (r : TableRow) :
    (feature.layout r).map (Column.rowspan feature.describedRows.length) = feature.rowspans := by
  unfold layout headerColumn rowspans
  split <;> rfl

theorem layout_length (r : TableRow) : (feature.layout r).length = width feature.kind := by
  unfold layout headerColumn
  cases feature.kind <;> rfl

/-- All rows have the name in common, and the headers if they are shared. -/
theorem layout_common {r r' : TableRow} (hr : r.row ∈ feature.describedRows)
    (hr' : r'.row ∈ feature.describedRows) :
    (feature.layout r).map Column.common = (feature.layout r').map Column.common := by
  unfold layout headerColumn
  cases hs : feature.sharesHeaders with
  | false => split <;> rfl
  | true =>
    rw [headers_of_shared hs hr, headers_of_shared hs hr']
    split <;> rfl

theorem markup_rows_length (hrows : rows.map (·.row) = feature.describedRows) :
    (feature.markupRows rows).length = feature.describedRows.length := by
  rw [← height_of_rows hrows]
  cases rows <;> simp [markupRows, withFirst]

/-- The rows of a feature share their layout. -/
theorem group_of_rows (hrows : rows.map (·.row) = feature.describedRows) :
    Group (feature.markupRows rows) (rows.map feature.layout) where
  cells := by
    rw [markup_rows_length hrows, with_first_map]
    exact List.forall₂_map_left_iff.mpr (List.forall₂_map_right_iff.mpr
      (List.forall₂_same.mpr fun _ _ => rfl))
  common := by
    have hrow : ∀ r ∈ rows, r.row ∈ feature.describedRows := fun r hr =>
      hrows ▸ List.mem_map_of_mem hr
    intro a ha b hb
    obtain ⟨r, hr, rfl⟩ := List.mem_map.mp ha
    obtain ⟨r', hr', rfl⟩ := List.mem_map.mp hb
    exact layout_common (hrow r hr) (hrow r' hr')

/-- Nothing hangs out of a feature's rows. -/
theorem contained_rows (hrows : rows.map (·.row) = feature.describedRows) :
    Contained (width feature.kind) (feature.markupRows rows) := by
  refine (group_of_rows hrows).contained fun cs hcs => ?_
  obtain ⟨r, -, rfl⟩ := List.mem_map.mp hcs
  exact layout_length r

theorem fills_rows {ladder : Ladder} {warnings : List Warning}
    (h : rowsOf feature ladder = .ok (rows, warnings)) :
    feature.FillsRows ladder (feature.markupRows rows) := by
  obtain ⟨timeline, hshown, -⟩ := shown_of_rows h
  have hheight := height_of_rows hshown.described
  refine ⟨markup_rows_length hshown.described, ?_, ?_, rows, warnings, h, ?_⟩
  · cases rows with
    | nil => exact fun _ hrow => absurd hrow (Option.not_mem_none _)
    | cons r later =>
      intro row hrow
      obtain rfl := Option.some.inj hrow
      refine ⟨rfl, ?_⟩
      rw [← layout_rowspans r]
      exact Column.first_rowspans (hheight ▸ Nat.succ_pos _) _
  · cases rows with
    | nil => exact fun _ hrow => absurd hrow List.not_mem_nil
    | cons r later =>
      intro row hrow
      simp only [markupRows, withFirst, List.map_cons, List.tail_cons, List.map_map,
        List.mem_map] at hrow
      obtain ⟨other, hother, rfl⟩ := hrow
      have hseveral : 1 < feature.describedRows.length :=
        hheight ▸ Nat.succ_lt_succ (List.length_pos_of_mem hother)
      refine ⟨rfl, ?_⟩
      rw [← layout_rowspans other]
      exact Column.later_rowspans hseveral _
  · rw [(group_of_rows hshown.described).contents, List.map_map]
    exact List.map_congr_left fun r _ => congrArg (·.map some) (layout_contents r)

end Layout
end Feature

section Text

/-- Whether a line starts the rows of a feature. -/
def startsFeature (line : String) : Bool := "|- id=".toList.isPrefixOf line.toList

/-- The lines of a feature's rows. -/
def Feature.rowBlocks (feature : Feature) (rows : List TableRow) : List (List String) :=
  (withFirst rows).map fun (isFirst, r) => feature.rowLines isFirst r

theorem feature_text_lines {feature : Feature} {rows : List TableRow}
    (hrows : rows.map (·.row) = feature.describedRows) :
    featureText feature rows =
      String.join ((feature.rowBlocks rows).flatten.map (· ++ "\n")) := by
  have htext : featureText feature rows = String.join ((withFirst rows).map fun p =>
      (Layout.ofRows feature rows).rowText p.1 p.2) := by
    cases rows with
    | nil => rfl
    | cons r later =>
      rw [withFirst, List.map_cons, String.join_cons, List.map_map]
      rfl
  rw [htext, ← join_blocks, Feature.rowBlocks, List.map_map]
  refine congrArg String.join (List.map_congr_left fun p hp => ?_)
  exact Feature.row_text_lines hrows (mem_of_with_first hp)

/-- The first line of a table. -/
def openingLine : String := "\x7b| class=\"wikitable sortable\" style=\"font-size:90%;\""

/-- The headings after the first one. -/
def headings (kind : Kind) : List String :=
  ["Feature", "Value"] ++ (if kind = .library then ["Header"] else []) ++
    ["<abbr title=\"Standard in which the feature is introduced; " ++
      "DR means defect report against that revision\">Std</abbr>", "Paper(s)"]

def headingRow (kind : Kind) : Wikitable.Row where
  attributes := ""
  cells := ⟨some " style=\"width:0\" ", " " ++ "Macro name"⟩ ::
    (headings kind).map fun text => { content := " " ++ text }

theorem heading_lines (kind : Kind) : heading kind =
    String.join ((openingLine :: (headingRow kind).headingLines).map (· ++ "\n")) := by
  cases kind <;> decide +kernel

theorem plain_headings (kind : Kind) : ∀ text ∈ headings kind, Plain text := by
  -- the library has all headings
  have hall : ∀ text ∈ headings .library, Plain text := by decide +kernel
  refine fun text htext => hall text (List.Sublist.subset ?_ htext)
  refine ((List.Sublist.refl _).append ?_).append (.refl _)
  split
  · exact .refl _
  · exact List.nil_sublist _

theorem legible_heading (kind : Kind) : ∀ cell ∈ (headingRow kind).cells, cell.Legible := by
  have hname : Plain "Macro name" := by decide
  refine List.forall_mem_cons.mpr
    ⟨hname.showable.legible_with (by decide) (by decide) (by decide), fun cell hcell => ?_⟩
  obtain ⟨text, htext, rfl⟩ := List.mem_map.mp hcell
  exact (plain_headings kind text htext).showable.legible

def footNote : Kind → String
  | .library => "do not forget to update, see the talk page"
  | .attributes | .language => "update me, e.g., use the script on the talk page"

/-- The cell below the table, which has its total. -/
def footCell (kind : Kind) (total : Nat) : Cell where
  attributes := some (spanAttribute "colspan" (width kind))
  content := " " ++ ("Total number of macros: " ++ toString total ++
    (" <!-- " ++ footNote kind ++ " -->"))

def footRow (kind : Kind) (total : Nat) : Wikitable.Row := ⟨"", [footCell kind total]⟩

theorem footing_lines (kind : Kind) (total : Nat) :
    footing kind total =
      String.join ((footRow kind total).headingLines.map (· ++ "\n")) ++ "|\x7d" := by
  have htext : footing kind total = "|-\n! colspan=\"" ++ toString (width kind) ++
      "\" | Total number of macros: " ++ toString total ++ " <!-- " ++ footNote kind ++
        " -->\n|" ++ "\x7d" := by
    cases kind <;> rfl
  rw [htext, ← String.toList_inj]
  simp [footRow, footCell, Wikitable.Row.headingLines, cellLine, spanAttribute, toString]

theorem legible_foot (kind : Kind) (total : Nat) : (footCell kind total).Legible := by
  have hplain : Plain ("Total number of macros: " ++ toString total ++
      (" <!-- " ++ footNote kind ++ " -->")) := by
    refine plain_append.mpr ⟨plain_append.mpr ⟨by decide, plain_number total⟩, ?_⟩
    cases kind <;> decide
  exact hplain.showable.legible_spanning (.inr rfl) _

/-- A published feature, with its rows. -/
abbrev ListedFeature : Type := Feature × List TableRow

/-- The lines of a table that lists these features, between the first and the last one. -/
def tableLines (kind : Kind) (total : Nat) (listed : List ListedFeature) : List String :=
  (headingRow kind).headingLines ++ (listed.flatMap fun f => (f.1.rowBlocks f.2).flatten) ++
    (footRow kind total).headingLines

section Count

theorem count_heading {row : Wikitable.Row} (h : row.attributes = "") :
    row.headingLines.countP startsFeature = 0 := by
  refine List.countP_eq_zero.mpr (List.forall_mem_cons.mpr ⟨by rw [h]; decide, ?_⟩)
  intro line hline
  obtain ⟨cell, -, rfl⟩ := List.mem_map.mp hline
  simp [startsFeature, cellLine]

theorem not_starts_cells {cells : List Cell} (hne : cells ≠ [])
    (h : ∀ cell ∈ cells, cell.Legible) : startsFeature (cellLine '|' cells) = false := by
  obtain ⟨rest, htext⟩ := cell_line_spaced '|' hne fun cell hc => (h cell hc).spaced
  rw [startsFeature, htext]
  rfl

theorem starts_rule (feature : Feature) (isFirst : Bool) (r : TableRow) :
    startsFeature ("|-" ++ (feature.markupRow isFirst r).attributes) = isFirst := by
  cases isFirst <;> simp [startsFeature, Feature.markupRow]

end Count

section Listed

variable {ladder : Ladder} {f : ListedFeature}

/-- A feature with the rows that a table has for it, and no line break or bar in its texts. -/
structure Listed (ladder : Ladder) (f : ListedFeature) : Prop where
  rows : ∃ warnings, rowsOf f.1 ladder = .ok (f.2, warnings)
  name : Plain f.1.name
  headers : ∀ header ∈ f.1.headers.getD [], Plain header
  texts : ∀ r ∈ f.2, r.PlainTexts

theorem Listed.described (h : Listed ladder f) : f.2.map (·.row) = f.1.describedRows := by
  obtain ⟨_, hrows⟩ := h.rows
  obtain ⟨_, hshown, -⟩ := shown_of_rows hrows
  exact hshown.described

theorem Listed.stands (h : Listed ladder f) :
    List.Forall₂ Row.StandsOn (f.1.markupRows f.2) (f.1.rowBlocks f.2) := by
  refine List.forall₂_map_left_iff.mpr (List.forall₂_map_right_iff.mpr ?_)
  refine List.forall₂_same.mpr fun p hp => ?_
  exact Feature.stands_on_lines h.name h.headers (h.texts _ (mem_of_with_first hp))

theorem Listed.unbroken (h : Listed ladder f) :
    ∀ line ∈ (f.1.rowBlocks f.2).flatten, Unbroken line := by
  intro line hline
  obtain ⟨block, hblock, hline⟩ := List.mem_flatten.mp hline
  obtain ⟨p, hp, rfl⟩ := List.mem_map.mp hblock
  exact Feature.unbroken_row_lines h.name h.headers (h.texts _ (mem_of_with_first hp)) line hline

/-- Only the first row of a feature has the feature's mark. -/
theorem Listed.count (h : Listed ladder f) :
    (f.1.rowBlocks f.2).flatten.countP startsFeature = if f.2.isEmpty then 0 else 1 := by
  have hrow : ∀ isFirst, ∀ r ∈ f.2, (f.1.rowLines isFirst r).countP startsFeature =
      if isFirst then 1 else 0 := by
    intro isFirst r hr
    have hcells : startsFeature (cellLine '|' (f.1.cells isFirst r)) = false :=
      not_starts_cells Feature.cells_ne_nil
        (Feature.legible_cells h.name h.headers (h.texts r hr))
    rw [Feature.rowLines, List.countP_cons, List.countP_singleton, starts_rule, hcells]
    cases isFirst <;> rfl
  have hcounts : (f.1.rowBlocks f.2).map (·.countP startsFeature) =
      (withFirst f.2).map fun p => if p.1 then 1 else 0 := by
    rw [Feature.rowBlocks, List.map_map]
    exact List.map_congr_left fun p hp => hrow p.1 p.2 (mem_of_with_first hp)
  rw [List.countP_flatten, hcounts]
  cases f.2 with
  | nil => rfl
  | cons r later => simp [withFirst, Function.comp_def]

theorem listed_of_table {registry : Registry} {kind : Kind} {table : RenderedTable}
    (hladder : ∀ name ∈ ladder.names, Plain name)
    (htexts : ∀ feature ∈ registry.published kind, ∀ text ∈ feature.texts, Plain text)
    (h : registry.summaryTable kind ladder = .ok table) :
    ∃ listed : List ListedFeature, listed.map (·.1) = registry.published kind ∧
      (∀ f ∈ listed, Listed ladder f) ∧
      table.text = heading kind ++ String.join (listed.map fun f => featureText f.1 f.2) ++
        footing kind table.featureCount ∧
      table.featureCount = listed.countP (!·.2.isEmpty) := by
  obtain ⟨rows, hrows, htext, -, hcount⟩ := Registry.summary_table_eq_ok h
  obtain ⟨hlength, hzip⟩ := List.forall₂_iff_zip.mp hrows
  have hfeatures : ((registry.published kind).zip rows).map Prod.fst = registry.published kind :=
    List.map_fst_zip (Nat.le_of_eq hlength)
  have hrest : ((registry.published kind).zip rows).map Prod.snd = rows :=
    List.map_snd_zip (Nat.le_of_eq hlength.symm)
  refine ⟨((registry.published kind).zip rows).map fun p => (p.1, p.2.1), ?_, ?_, ?_, ?_⟩
  · rw [List.map_map]
    exact hfeatures
  · intro f hf
    obtain ⟨⟨feature, shown, warnings⟩, hp, rfl⟩ := List.mem_map.mp hf
    have hfeature := htexts feature (List.of_mem_zip hp).1
    exact {
      rows := ⟨warnings, hzip hp⟩
      name := hfeature _ List.mem_cons_self
      headers := fun header hh => hfeature header
        (List.mem_append_left _ (List.mem_cons_of_mem _ hh))
      texts := plain_texts_of_rows hladder hfeature (hzip hp) }
  · rw [htext, List.map_map, ← List.map_uncurry_zip_eq_zipWith]
    simp only [← feature_text_eq]
    rfl
  · rw [hcount, List.countP_map]
    conv_lhs => rw [← hrest, List.countP_map]
    rfl

theorem count_described {listed : List ListedFeature} (h : ∀ f ∈ listed, Listed ladder f) :
    (listed.map (·.1)).countP (·.hasDescription) = listed.countP (!·.2.isEmpty) := by
  rw [List.countP_map]
  refine List.countP_congr fun f hf => ?_
  have hempty : f.2.isEmpty = f.1.describedRows.isEmpty := by
    rw [← (h f hf).described, List.isEmpty_map]
  simp [hempty, Feature.hasDescription, Feature.describedRows, Option.isSome_iff_ne_none]

theorem text_lines_of_table {kind : Kind} {total : Nat} {listed : List ListedFeature}
    {text : String} (h : ∀ f ∈ listed, Listed ladder f)
    (htext : text = heading kind ++ String.join (listed.map fun f => featureText f.1 f.2) ++
        footing kind total) :
    textLines text = openingLine :: (tableLines kind total listed ++ ["|\x7d"]) := by
  have hfeatures : String.join (listed.map fun f => featureText f.1 f.2) =
      String.join ((listed.flatMap fun f => (f.1.rowBlocks f.2).flatten).map (· ++ "\n")) := by
    rw [List.flatMap_def, ← join_blocks, List.map_map]
    refine congrArg String.join (List.map_congr_left fun f hf => ?_)
    exact feature_text_lines (h f hf).described
  have hjoined : text =
      String.join ((openingLine :: tableLines kind total listed).map (· ++ "\n")) ++ "|\x7d" := by
    rw [htext, heading_lines, footing_lines, hfeatures, tableLines]
    simp only [List.map_cons, List.map_append, String.join_cons, String.join_append,
      String.append_assoc]
  have hunbroken : ∀ line ∈ openingLine :: tableLines kind total listed, Unbroken line := by
    refine List.forall_mem_cons.mpr ⟨by decide, ?_⟩
    refine List.forall_mem_append.mpr ⟨List.forall_mem_append.mpr ⟨?_, ?_⟩, ?_⟩
    · exact Wikitable.Row.unbroken_heading (by decide : Unbroken "") (legible_heading kind)
    · intro line hline
      obtain ⟨f, hf, hline⟩ := List.mem_flatMap.mp hline
      exact (h f hf).unbroken line hline
    · exact Wikitable.Row.unbroken_heading (by decide : Unbroken "")
        (List.forall_mem_singleton.mpr (legible_foot kind total))
  rw [hjoined, text_lines_joined_append hunbroken (by decide)]
  rfl

theorem count_lines {kind : Kind} {total : Nat} {listed : List ListedFeature}
    (h : ∀ f ∈ listed, Listed ladder f) :
    (tableLines kind total listed).countP startsFeature = listed.countP (!·.2.isEmpty) := by
  rw [tableLines, List.countP_append, List.countP_append, count_heading rfl, count_heading rfl,
    Nat.zero_add, Nat.add_zero]
  induction listed with
  | nil => rfl
  | cons f listed ih =>
    obtain ⟨hf, hlisted⟩ := List.forall_mem_cons.mp h
    rw [List.flatMap_cons, List.countP_append, hf.count, ih hlisted, List.countP_cons]
    cases f.2.isEmpty <;> simp [Nat.add_comm]

/-- What the text of a table is read as. -/
theorem read_table {kind : Kind} {total : Nat} {listed : List ListedFeature} {text : String}
    (h : ∀ f ∈ listed, Listed ladder f)
    (htext : textLines text = openingLine :: (tableLines kind total listed ++ ["|\x7d"])) :
    Wikitable.read text = some (headingRow kind ::
      (listed.map fun f => f.1.markupRows f.2).flatten ++ [footRow kind total]) := by
  have hrows : List.Forall₂ Row.StandsOn (listed.map fun f => f.1.markupRows f.2).flatten
      (listed.map fun f => f.1.rowBlocks f.2).flatten := by
    refine List.rel_flatten (List.forall₂_map_left_iff.mpr (List.forall₂_map_right_iff.mpr ?_))
    exact List.forall₂_same.mpr fun f hf => (h f hf).stands
  have hhead := Wikitable.Row.heading_stands (legible_heading kind)
  have hfoot : (footRow kind total).StandsOn (footRow kind total).headingLines :=
    Wikitable.Row.heading_stands (List.forall_mem_singleton.mpr (legible_foot kind total))
  have hfirst : Line.ofText openingLine = .opening := by decide
  have hlast : Line.ofText "|\x7d" = .closing := by decide
  refine read_rows hfirst hlast (.cons hhead (List.rel_append hrows (.cons hfoot .nil)))
    (htext.trans ?_)
  simp [tableLines, List.flatten_flatten, List.flatMap_def, Function.comp_def]

end Listed

end Text

section Table

theorem contained_heading (kind : Kind) : Contained (width kind) [headingRow kind] := by
  refine contained_singleton ?_ ?_ <;> cases kind <;> decide

theorem foot_colspan (kind : Kind) (total : Nat) : (footCell kind total).colspan = width kind :=
  Cell.span_of_attribute (by decide) _

theorem contained_foot (kind : Kind) (total : Nat) :
    Contained (width kind) [footRow kind total] := by
  have hrowspan : (footCell kind total).rowspan = 1 :=
    number_after_absent (not_mem_attribute (c := 'r') (by decide) (by decide) rfl _)
  have hslots : (footRow kind total).slots =
      List.replicate (width kind) ⟨footCell kind total, 0⟩ := by
    rw [Wikitable.Row.slots, footRow, List.flatMap_singleton, Cell.slots, hrowspan, foot_colspan]
  refine contained_singleton ?_ ?_
  · rw [hslots, List.length_replicate]
  · intro slot hslot
    rw [hslots] at hslot
    rw [List.eq_of_mem_replicate hslot]

/-- A table that is read as a heading, the rows of each published feature in turn and a cell with
the total, all of them rows of one grid that is as wide as this cell. -/
structure RenderedTable.IsGrid (table : RenderedTable) (registry : Registry) (kind : Kind)
    (ladder : Ladder) (head : Wikitable.Row) (groups : List (List Wikitable.Row)) (foot : Cell) :
    Prop where
  read : Wikitable.read table.text = some (head :: groups.flatten ++ [⟨"", [foot]⟩])
  features : List.Forall₂ (fun feature rows => feature.FillsRows ladder rows)
    (registry.published kind) groups
  full : ∀ line ∈ grid (head :: groups.flatten ++ [⟨"", [foot]⟩]), Full foot.colspan line
  separate : grid (head :: groups.flatten ++ [⟨"", [foot]⟩]) =
    grid [head] ++ groups.flatMap grid ++ grid [⟨"", [foot]⟩]
  colspan : foot.colspan = width kind
  total : ∃ note, foot.content =
    " Total number of macros: " ++ toString table.featureCount ++ " <!-- " ++ note ++ " -->"
  anchors : (textLines table.text).countP startsFeature = table.featureCount
  described : (registry.published kind).countP (·.hasDescription) = table.featureCount

/-- Every table is a grid when no name, description, header or paper breaks its lines or its cells.
Each feature has a row for each described value, and its count is that of the features described,
of the rows that start one, and of the total below the table. -/
theorem summary_table_is_grid {registry : Registry} {kind : Kind} {ladder : Ladder}
    {table : RenderedTable} (hladder : ∀ name ∈ ladder.names, Plain name)
    (htexts : ∀ feature ∈ registry.published kind, ∀ text ∈ feature.texts, Plain text)
    (h : registry.summaryTable kind ladder = .ok table) :
    ∃ head groups foot, table.IsGrid registry kind ladder head groups foot := by
  obtain ⟨listed, hpublished, hlisted, htext, hcount⟩ := listed_of_table hladder htexts h
  have hlines := text_lines_of_table hlisted htext
  have hcontained : ∀ rows ∈ (listed.map fun f => f.1.markupRows f.2) ++
      [[footRow kind table.featureCount]], Contained (width kind) rows := by
    refine List.forall_mem_append.mpr
      ⟨fun rows hrows => ?_, List.forall_mem_singleton.mpr (contained_foot kind _)⟩
    obtain ⟨f, hf, rfl⟩ := List.mem_map.mp hrows
    have hkind : f.1.kind = kind := by
      have hmem : f.1 ∈ registry.published kind := hpublished ▸ List.mem_map_of_mem hf
      simpa using List.of_mem_filter (List.mem_of_mem_filter hmem)
    rw [← hkind]
    exact Feature.contained_rows (hlisted f hf).described
  have hgrid := grid_of_contained (contained_heading kind) hcontained
  have hfull := full_of_contained (contained_heading kind) hcontained
  rw [List.flatten_append, List.flatten_singleton] at hgrid hfull
  refine ⟨headingRow kind, listed.map fun f => f.1.markupRows f.2, footCell kind table.featureCount,
    ?_⟩
  exact {
    read := read_table hlisted hlines
    features := by
      rw [← hpublished]
      refine List.forall₂_map_left_iff.mpr (List.forall₂_map_right_iff.mpr ?_)
      refine List.forall₂_same.mpr fun f hf => ?_
      obtain ⟨warnings, hrows⟩ := (hlisted f hf).rows
      exact Feature.fills_rows hrows
    full := by
      rw [foot_colspan]
      exact hfull
    separate := by
      refine hgrid.trans ?_
      rw [List.flatMap_append, List.flatMap_singleton, ← List.append_assoc]
      rfl
    colspan := foot_colspan kind _
    total := ⟨footNote kind, by
      rw [footCell, ← String.toList_inj]
      simp⟩
    anchors := by
      rw [hlines, List.countP_cons, List.countP_append, count_lines hlisted, hcount]
      rfl
    described := by rw [← hpublished, count_described hlisted, hcount] }

/-- Two rows under shared headers, one row with a name that is broken, and one feature that is not
described. -/
def rangesRegistry : Registry where
  entries := [
    { name := "__cpp_lib_ranges", kind := .library
      headers := some ["algorithm", "functional", "ranges"]
      rows := [
        { value := 201911, papers := ["P0896R4"], description := some "Ranges library" },
        { value := 202110, papers := ["P2415R2"], description := some "Range adaptor objects"
          drAgainst := some "C++20" }] },
    { name := "__cpp_lib_constexpr_dynamic_alloc", kind := .library, headers := some ["memory"]
      rows := [
        { value := 201907, papers := ["P0784R7"], description := some "Allocation" }] },
    { name := "__cpp_lib_hidden", kind := .library, rows := [{ value := 201907 }] }]

theorem ranges_table_is_grid :
    ∃ table head groups foot, rangesRegistry.summaryTable .library .cpp = .ok table ∧
      table.featureCount = 2 ∧ table.IsGrid rangesRegistry .library .cpp head groups foot := by
  obtain ⟨table, htable, hcount⟩ : ∃ table,
      rangesRegistry.summaryTable .library .cpp = .ok table ∧ table.featureCount = 2 :=
    ⟨_, rfl, rfl⟩
  obtain ⟨head, groups, foot, hgrid⟩ := summary_table_is_grid (by decide) (by decide) htable
  exact ⟨table, head, groups, foot, htable, hcount, hgrid⟩

end Table
end FeatureTest
