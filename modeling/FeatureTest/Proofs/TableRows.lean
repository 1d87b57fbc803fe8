import FeatureTest.Proofs.SpanGrid
import FeatureTest.Proofs.StandardTest
import FeatureTest.Proofs.TableMarks

/-!
The rows of the summary table as cells. When no text of a feature has a line break or a bar, the
markup of its rows is read as the cells that were meant.
-/
namespace FeatureTest.Text

/-- Where the runs lead: to small letters, or out of ASCII. -/
theorem lowercase_runs_range : ∀ run ∈ lowercaseRuns.toList,
    (97 ≤ run.1 + run.2.2.2 ∧ run.2.1 + run.2.2.2 ≤ 122) ∨
    (128 ≤ run.1 + run.2.2.2 ∧ (run.2.1 + run.2.2.2 < 0xD800 ∨
      (0xDFFF < run.1 + run.2.2.2 ∧ run.2.1 + run.2.2.2 < 0x110000))) := by
  decide +kernel

/-- An ASCII character that is no small letter. Only its own lowercase form has it. -/
def Uncased (c : Char) : Prop := c.toNat < 128 ∧ (c.toNat < 97 ∨ 122 < c.toNat)

instance (c : Char) : Decidable (Uncased c) :=
  inferInstanceAs (Decidable (c.toNat < 128 ∧ (c.toNat < 97 ∨ 122 < c.toNat)))

theorem to_nat_of_valid {n : Nat} (h : n.isValidChar) : (Char.ofNat n).toNat = n := by
  unfold Char.ofNat
  rw [dif_pos h]
  rfl

theorem uncased_lower_char {c d : Char} (hd : Uncased d) (h : d ∈ lowerChar c) : d = c := by
  obtain ⟨hascii, hsmall⟩ := hd
  simp only [lowerChar] at h
  split at h
  · rename_i hc
    have hletters : ∀ n < 128, (Char.ofNat n).toLower = Char.ofNat n ∨
        (97 ≤ (Char.ofNat n).toLower.toNat ∧ (Char.ofNat n).toLower.toNat ≤ 122) := by decide
    have hletter := hletters c.toNat hc
    rw [Char.ofNat_toNat, ← List.mem_singleton.mp h] at hletter
    exact hletter.resolve_right (by omega)
  split at h
  · have hdotted : ∀ e ∈ ['i', Char.ofNat 0x307],
        97 ≤ e.toNat ∧ (e.toNat ≤ 122 ∨ 128 ≤ e.toNat) :=
      List.forall_mem_cons.mpr ⟨by decide, List.forall_mem_singleton.mpr (by decide)⟩
    have := hdotted d h
    omega
  split at h
  · next lo hi step distance hfind =>
    have hrun := lowercase_runs_range _
      (Array.mem_toList_iff.mpr (Array.mem_of_find?_eq_some hfind))
    have hin := Array.find?_some hfind
    simp only [Bool.and_eq_true, decide_eq_true_eq] at hin hrun
    have hvalid : (c.toNat + distance).toNat.isValidChar := by
      unfold Nat.isValidChar
      omega
    have hcode := congrArg Char.toNat (List.mem_singleton.mp h)
    rw [to_nat_of_valid hvalid] at hcode
    omega
  · exact List.mem_singleton.mp h

theorem uncased_lowercase {d : Char} (hd : Uncased d) {s : String} (h : d ∈ (lowercase s).toList) :
    d ∈ s.toList := by
  rw [lowercase, String.toList_ofList] at h
  generalize [] = before at h
  generalize s.toList = cs at h ⊢
  induction cs generalizing before with
  | nil => cases h
  | cons c cs ih =>
    rcases List.mem_append.mp h with h | h
    · split at h
      · -- both small sigmas lie out of ASCII
        have hsigma : ∀ n ∈ [0x3C2, 0x3C3], 128 ≤ (Char.ofNat n).toNat := by decide
        have hfar : 128 ≤ d.toNat := by
          rw [List.mem_singleton.mp h]
          split
          · exact hsigma _ List.mem_cons_self
          · exact hsigma _ (List.mem_cons_of_mem _ List.mem_cons_self)
        exact absurd hd.1 (Nat.not_lt.mpr hfar)
      · exact uncased_lower_char hd h ▸ List.mem_cons_self
    · exact List.mem_cons_of_mem _ (ih _ h)

end FeatureTest.Text

namespace FeatureTest
open SummaryTable Wikitable

section Texts

/-- Text without a line break and without a bar. -/
structure Plain (text : String) : Prop where
  unbroken : Unbroken text
  barless : '|' ∉ text.toList

instance (text : String) : Decidable (Plain text) :=
  decidable_of_iff (Unbroken text ∧ '|' ∉ text.toList) ⟨fun ⟨hu, hb⟩ => ⟨hu, hb⟩,
    fun h => ⟨h.unbroken, h.barless⟩⟩

theorem plain_append {a b : String} : Plain (a ++ b) ↔ Plain a ∧ Plain b := by
  constructor
  · intro h
    obtain ⟨hua, hub⟩ := unbroken_append.mp h.unbroken
    have hb := h.barless
    rw [String.toList_append, List.mem_append, not_or] at hb
    exact ⟨⟨hua, hb.1⟩, hub, hb.2⟩
  · intro ⟨ha, hb⟩
    refine ⟨unbroken_append.mpr ⟨ha.unbroken, hb.unbroken⟩, ?_⟩
    rw [String.toList_append, List.mem_append, not_or]
    exact ⟨ha.barless, hb.barless⟩

/-- A text is plain when its characters come from a plain one. -/
theorem Plain.of_subset {a b : String} (h : Plain a)
    (hsub : ∀ c ∈ b.toList, c = '\n' ∨ c = '|' → c ∈ a.toList) : Plain b :=
  ⟨fun hc => h.unbroken (hsub _ hc (.inl rfl)), fun hc => h.barless (hsub _ hc (.inr rfl))⟩

theorem plain_number (n : Nat) : Plain (toString n) := ⟨unbroken_number n, not_mem_number rfl n⟩

theorem plain_lowercase {text : String} (h : Plain text) : Plain (Text.lowercase text) := by
  refine h.of_subset fun c hc hmark => Text.uncased_lowercase ?_ hc
  rcases hmark with rfl | rfl <;> decide

/-- A text that a cell can show: either no bar is in it, or it starts with a template. -/
structure Showable (text : String) : Prop where
  unbroken : Unbroken text
  separable : Separable text
  opening : '|' ∉ text.toList ∨ ['\x7b', '\x7b'] <+: text.toList

theorem Plain.showable {text : String} (h : Plain text) : Showable text :=
  ⟨h.unbroken, separable_of_barless h.barless, .inl h.barless⟩

/-- A showable text may be followed by any that has no bar. -/
theorem Showable.append {a b : String} (ha : Showable a) (hb : Plain b) : Showable (a ++ b) := by
  refine ⟨unbroken_append.mpr ⟨ha.unbroken, hb.unbroken⟩,
    separable_append ha.separable (separable_of_barless hb.barless), ?_⟩
  rw [String.toList_append]
  rcases ha.opening with hbarless | hopen
  · exact .inl (List.mem_append.not.mpr (not_or.mpr ⟨hbarless, hb.barless⟩))
  · exact .inr (hopen.trans (List.prefix_append _ _))

theorem markup_opens (name argument : String) :
    ['\x7b', '\x7b'] <+: (markup name argument).toList :=
  ⟨(name ++ argument ++ "\x7d\x7d").toList, by simp [markup]⟩

/-- A template with one argument. -/
theorem showable_template (name : String) {argument : String} (hn : Plain name)
    (ha : Plain argument) : Showable (markup (name ++ "|") argument) := by
  have hopening : Plain ("\x7b\x7b" ++ name) := plain_append.mpr ⟨by decide, hn⟩
  have hclosed : Plain (argument ++ "\x7d\x7d") := plain_append.mpr ⟨ha, by decide⟩
  have htext : markup (name ++ "|") argument =
      "\x7b\x7b" ++ name ++ "|" ++ (argument ++ "\x7d\x7d") := by
    simp only [markup, String.append_assoc]
  have hnext : ∃ c, (argument ++ "\x7d\x7d").toList.head? = some c := by
    rw [String.toList_append, List.head?_append]
    cases argument.toList.head? with
    | none => exact ⟨_, rfl⟩
    | some c => exact ⟨c, rfl⟩
  obtain ⟨c, hnext⟩ := hnext
  have hc : c ≠ '|' := by
    rintro rfl
    exact hclosed.barless (List.mem_of_mem_head? hnext)
  have hunbroken : Unbroken (markup (name ++ "|") argument) := by
    rw [htext]
    exact unbroken_append.mpr
      ⟨unbroken_append.mpr ⟨hopening.unbroken, by decide⟩, hclosed.unbroken⟩
  have hseparable : Separable (markup (name ++ "|") argument) := by
    rw [htext]
    exact separable_bar (separable_of_barless hopening.barless)
      (separable_of_barless hclosed.barless) hnext hc
  exact ⟨hunbroken, hseparable, .inr (markup_opens _ _)⟩

theorem showable_templates (name : String) {sign : String} {arguments : List String}
    (hs : Plain sign) (hn : Plain name) (ha : ∀ argument ∈ arguments, Plain argument) :
    Showable (sign.intercalate (arguments.map (markup (name ++ "|")))) := by
  have hshowable : ∀ part ∈ arguments.map (markup (name ++ "|")), Showable part := by
    intro part hp
    obtain ⟨argument, hargument, rfl⟩ := List.mem_map.mp hp
    exact showable_template name hn (ha argument hargument)
  refine ⟨unbroken_intercalate hs.unbroken fun part hp => (hshowable part hp).unbroken,
    separable_intercalate (separable_of_barless hs.barless) fun part hp =>
      (hshowable part hp).separable, ?_⟩
  cases arguments with
  | nil => exact .inl (by simp)
  | cons argument later => exact .inr ((markup_opens _ _).trans (prefix_intercalate _ _ _))

end Texts

section Cells

theorem separable_spaced {text : String} (h : Separable text) : Separable (" " ++ text) :=
  separable_append (separable_of_barless (by decide)) h

/-- A cell without attributes, the text of which stands after a blank. -/
theorem Showable.legible {text : String} (h : Showable text) :
    Cell.Legible { content := " " ++ text } where
  unbroken := unbroken_append.mpr ⟨by decide, h.unbroken⟩
  spaced := by simp
  separable := separable_spaced h.separable
  attributes := fun _ ha => absurd ha (Option.not_mem_none _)
  content := by
    intro _
    rcases h.opening with hbarless | ⟨rest, hopen⟩
    · left
      rw [String.toList_append, List.mem_append, not_or]
      exact ⟨by decide, hbarless⟩
    · right
      rw [String.toList_append, ← hopen]
      exact ⟨rest, rfl⟩

/-- A cell with attributes, if they are none of a template. -/
theorem Showable.legible_with {text attributes : String} (h : Showable text)
    (hplain : Plain attributes) (hbraceless : '\x7b' ∉ attributes.toList)
    (hspaced : [' '] <+: attributes.toList) : Cell.Legible ⟨some attributes, " " ++ text⟩ where
  unbroken := unbroken_append.mpr ⟨unbroken_append.mpr ⟨hplain.unbroken, by decide⟩,
    unbroken_append.mpr ⟨by decide, h.unbroken⟩⟩
  spaced := by
    rw [Cell.text_attributes, String.toList_append, String.toList_append, List.append_assoc]
    exact hspaced.trans (List.prefix_append _ _)
  separable := separable_bar (separable_of_barless hplain.barless) (separable_spaced h.separable)
    (c := ' ') (by simp) (by decide)
  attributes := by
    intro attributes ha
    obtain rfl := Option.mem_some.mp ha
    exact ⟨hplain.barless, fun hin => hbraceless (hin.subset List.mem_cons_self)⟩
  content := fun hnone => absurd hnone (Option.some_ne_none _)

theorem Showable.legible_spanning {text : String} (h : Showable text) {name : String}
    (hname : name = "rowspan" ∨ name = "colspan") (n : Nat) :
    Cell.Legible ⟨some (spanAttribute name n), " " ++ text⟩ := by
  have habsent : ∀ c, c ∉ "rowspan".toList → c ∉ "colspan".toList → c ∉ [' ', '=', '"'] →
      c.isDigit = false → c ∉ (spanAttribute name n).toList := by
    intro c hrow hcol hsign hdigit
    refine not_mem_attribute ?_ hsign hdigit n
    rcases hname with rfl | rfl
    · exact hrow
    · exact hcol
  have hplain : Plain (spanAttribute name n) :=
    ⟨habsent '\n' (by decide) (by decide) (by decide) rfl,
      habsent '|' (by decide) (by decide) (by decide) rfl⟩
  exact h.legible_with hplain (habsent '\x7b' (by decide) (by decide) (by decide) rfl)
    (by simp [spanAttribute])

end Cells

section Names

/-- What the cell of a name has in it. -/
def nameMarkup (name : String) : String :=
  if name.utf8ByteSize ≤ nameLimit then markup "tt|" name
  else
    let parts := splitAtByte ((breakPoint name).getD 0) name.toList
    markup "tt|1=" (String.ofList parts.1 ++ markup "br" "" ++ String.ofList parts.2)

theorem name_cell_eq (name : String) : nameCell name = nameMarkup name ++ " |" := by
  unfold nameCell nameMarkup
  split <;> rfl

theorem split_at_byte_append (bytes : Nat) (cs : List Char) :
    (splitAtByte bytes cs).1 ++ (splitAtByte bytes cs).2 = cs := by
  induction cs generalizing bytes with
  | nil => cases bytes <;> rfl
  | cons c cs ih =>
    cases bytes with
    | zero => rfl
    | succ bytes => exact congrArg (c :: ·) (ih _)

theorem showable_name {name : String} (h : Plain name) : Showable (nameMarkup name) := by
  unfold nameMarkup
  split
  · exact showable_template "tt" (by decide) h
  · have hparts := split_at_byte_append ((breakPoint name).getD 0) name.toList
    have hbefore :
        Plain (String.ofList (splitAtByte ((breakPoint name).getD 0) name.toList).1) := by
      refine h.of_subset fun c hc _ => ?_
      rw [String.toList_ofList] at hc
      exact hparts ▸ List.mem_append_left _ hc
    have hafter : Plain (String.ofList (splitAtByte ((breakPoint name).getD 0) name.toList).2) := by
      refine h.of_subset fun c hc _ => ?_
      rw [String.toList_ofList] at hc
      exact hparts ▸ List.mem_append_right _ hc
    have hargument := plain_append.mpr
      ⟨plain_append.mpr ⟨plain_append.mpr ⟨(by decide : Plain "1="), hbefore⟩,
        (by decide : Plain (markup "br" ""))⟩, hafter⟩
    have htext : ∀ text, markup "tt|1=" text = markup ("tt" ++ "|") ("1=" ++ text) := by
      intro text
      rw [← String.toList_inj]
      simp [markup]
    rw [htext, ← String.append_assoc, ← String.append_assoc]
    exact showable_template "tt" (by decide) hargument

end Names

/-- A cell's text between blanks. -/
def padded (text : String) : String := " " ++ (text ++ " ")

/-- The standard a row is marked with. -/
def TableRow.standardCell (r : TableRow) : String :=
  markup "mark " r.mark ++ if r.row.drAgainst.isSome then "<br>" ++ markup "mark|" "DR" else ""

def valueCell (value : Nat) : String := markup "c|" (toString value ++ "L")

namespace Feature

variable (feature : Feature)

/-- The headers of a row: its own, else those of the feature. -/
def headersOf (row : HistoryRow) : List String :=
  (row.headers.orElse fun _ => feature.headers).getD []

/-- Whether one cell has the headers of all rows: there are several rows and more than two headers,
and no row has headers of its own. -/
def sharesHeaders : Bool :=
  feature.describedRows.length > 1 && feature.describedRows.all (·.headers.isNone) &&
    (feature.headers.getD []).length > 2

/-- The column of the headers, which only the tables of the library have. -/
def headerColumn (row : HistoryRow) : List Column :=
  if feature.kind = .library then
    [⟨padded (headerCells (feature.headersOf row)), feature.sharesHeaders⟩]
  else []

/-- The columns of a row. -/
def layout (r : TableRow) : List Column :=
  [⟨padded (nameMarkup feature.name), true⟩, ⟨padded (r.row.description.getD ""), false⟩,
      ⟨padded (valueCell r.row.value), false⟩] ++
    feature.headerColumn r.row ++
    [⟨padded r.standardCell, false⟩, ⟨" " ++ paperCell r.papers, false⟩]

/-- The cells of a row. -/
def cells (isFirst : Bool) (r : TableRow) : List Cell :=
  Column.cells feature.describedRows.length isFirst (feature.layout r)

def anchor : String :=
  if feature.name.startsWith "__" then (feature.name.drop 2).toString else feature.name

def markupRow (isFirst : Bool) (r : TableRow) : Wikitable.Row where
  attributes := if isFirst then " id=\"" ++ feature.anchor ++ "\"" else ""
  cells := feature.cells isFirst r

def rowLines (isFirst : Bool) (r : TableRow) : List String :=
  ["|-" ++ (feature.markupRow isFirst r).attributes, cellLine '|' (feature.cells isFirst r)]

variable {feature : Feature} {rows : List TableRow} {r : TableRow} {isFirst : Bool}

theorem cells_ne_nil : feature.cells isFirst r ≠ [] := by
  simp [cells, layout]

theorem height_of_rows (hrows : rows.map (·.row) = feature.describedRows) :
    rows.length = feature.describedRows.length := by
  rw [← hrows, List.length_map]

theorem shared_headers_of_rows (hrows : rows.map (·.row) = feature.describedRows) (hr : r ∈ rows) :
    (decide ((feature.headersOf r.row).length > 2) && (Layout.ofRows feature rows).sharedHeaders) =
      feature.sharesHeaders := by
  have hshared : (Layout.ofRows feature rows).sharedHeaders =
      (decide (feature.describedRows.length > 1) &&
        feature.describedRows.all (·.headers.isNone)) := by
    rw [← hrows, List.length_map, List.all_map]
    rfl
  rw [hshared, sharesHeaders, Bool.and_comm]
  cases hall : feature.describedRows.all (·.headers.isNone) with
  | false => simp
  | true =>
    have hnone : r.row.headers = none := by
      rw [← hrows, List.all_map, List.all_eq_true] at hall
      exact Option.isNone_iff_eq_none.mp (hall r hr)
    rw [headersOf, hnone]
    rfl

theorem shares_headers_iff : feature.sharesHeaders = true ↔
    feature.describedRows.length > 1 ∧ (∀ row ∈ feature.describedRows, row.headers = none) ∧
      (feature.headers.getD []).length > 2 := by
  simp only [sharesHeaders, Bool.and_eq_true, decide_eq_true_eq, List.all_eq_true,
    Option.isNone_iff_eq_none, and_assoc]

theorem headers_of_shared (hshared : feature.sharesHeaders = true) {row : HistoryRow}
    (hrow : row ∈ feature.describedRows) : feature.headersOf row = feature.headers.getD [] := by
  rw [headersOf, (shares_headers_iff.mp hshared).2.1 row hrow]
  rfl

theorem header_cell_text (hrows : rows.map (·.row) = feature.describedRows) (hr : r ∈ rows)
    (isFirst : Bool) :
    (Layout.ofRows feature rows).headerCell isFirst r.row ++ " " =
      " " ++ String.join ((Column.cells feature.describedRows.length isFirst
        (feature.headerColumn r.row)).map ("||" ++ ·.text)) := by
  have hshared := shared_headers_of_rows hrows hr
  have hheight : (Layout.ofRows feature rows).height = feature.describedRows.length :=
    height_of_rows hrows
  have hfeature : (Layout.ofRows feature rows).feature = feature := rfl
  rw [← String.toList_inj]
  unfold Layout.headerCell headerColumn
  rw [hfeature, ← headersOf]
  dsimp only
  split
  · rw [hshared, hheight]
    cases hs : feature.sharesHeaders with
    | false => simp [padded]
    | true =>
      have hseveral := (shares_headers_iff.mp hs).1
      cases isFirst with
      | false => rfl
      | true => simp [Column.cell_text, hseveral, spanAttribute, padded, toString]
  · rfl

theorem row_start_text (hrows : rows.map (·.row) = feature.describedRows) (isFirst : Bool)
    (r : TableRow) :
    (Layout.ofRows feature rows).rowStart isFirst ++ "| " =
      "|-" ++ (feature.markupRow isFirst r).attributes ++ "\n|" ++
        (if isFirst then (Column.cell feature.describedRows.length
          ⟨padded (nameMarkup feature.name), true⟩).text ++ "||" else "") ++ " " := by
  have hheight : (Layout.ofRows feature rows).height = feature.describedRows.length :=
    height_of_rows hrows
  have hfeature : (Layout.ofRows feature rows).feature = feature := rfl
  rw [← String.toList_inj]
  unfold Layout.rowStart markupRow
  cases isFirst with
  | false => simp
  | true =>
    simp only [hheight, hfeature, name_cell_eq, Column.cell_text]
    by_cases hseveral : feature.describedRows.length > 1
    · simp [hseveral, anchor, spanAttribute, padded, toString]
    · simp [hseveral, anchor, padded, toString]

theorem row_text_lines (hrows : rows.map (·.row) = feature.describedRows) (hr : r ∈ rows) :
    (Layout.ofRows feature rows).rowText isFirst r =
      String.join ((feature.rowLines isFirst r).map (· ++ "\n")) := by
  have hstart := row_start_text hrows isFirst r
  have hheader := header_cell_text hrows hr isFirst
  have htext : (Layout.ofRows feature rows).rowText isFirst r =
      ((Layout.ofRows feature rows).rowStart isFirst ++ "| ") ++ r.row.description.getD "" ++
        " || " ++ valueCell r.row.value ++
        ((Layout.ofRows feature rows).headerCell isFirst r.row ++ " ") ++ "||" ++
        padded r.standardCell ++ "|| " ++ paperCell r.papers ++ "\n" := by
    rw [← String.toList_inj]
    simp [Layout.rowText, valueCell, TableRow.standardCell, padded, ← paper_cell_eq]
  rw [htext, hstart, hheader, ← String.toList_inj]
  unfold rowLines cellLine cells layout
  cases isFirst with
  | false => simp [padded, intercalate_cons, Function.comp_def]
  | true => simp [padded, intercalate_cons, Function.comp_def]

end Feature

section Reading

/-- The texts of a row that a table shows. -/
def HistoryRow.texts (row : HistoryRow) : List String :=
  row.description.toList ++ row.headers.getD [] ++ row.papers

/-- The texts of a feature that a table shows, of which the papers of a row without a description
are shown with another row. -/
def Feature.texts (feature : Feature) : List String :=
  feature.name :: feature.headers.getD [] ++ feature.rows.flatMap HistoryRow.texts

structure TableRow.PlainTexts (r : TableRow) : Prop where
  description : Plain (r.row.description.getD "")
  headers : ∀ header ∈ r.row.headers.getD [], Plain header
  mark : Plain r.mark
  papers : ∀ paper ∈ r.papers, Plain paper

/-- The papers that a row is handed come from the rows before it or from its own. -/
theorem with_papers_origin {pending : List String} {rows : List HistoryRow} :
    ∀ d ∈ withPapers pending rows, ∀ paper ∈ d.2,
      paper ∈ pending ++ rows.flatMap (·.papers) := by
  induction rows generalizing pending with
  | nil => exact fun _ hd => absurd hd List.not_mem_nil
  | cons row rows ih =>
    rw [List.flatMap_cons, ← List.append_assoc, withPapers]
    split
    · refine List.forall_mem_cons.mpr ⟨fun paper hp => List.mem_append_left _ hp, ?_⟩
      exact fun d hd paper hp => List.mem_append_right _ (ih d hd paper hp)
    · exact ih

/-- The standards that rows are marked with are those of the ladder, in lowercase. -/
theorem mark_of_rows {ladder : Ladder} {feature : Feature} {rows : List TableRow}
    {warnings : List Warning} (h : rowsOf feature ladder = .ok (rows, warnings)) :
    ∀ r ∈ rows, ∃ name ∈ ladder.names, r.mark = Text.lowercase name := by
  obtain ⟨timeline, hshown, -⟩ := shown_of_rows h
  have hmarked := hshown.marked
  clear hshown h
  intro r hr
  obtain ⟨i, hi, rfl⟩ := List.getElem_of_mem hr
  have hm := hmarked.get hi (hmarked.length_eq ▸ hi)
  exact ⟨_, List.mem_of_getElem? (Ladder.getElem_names _), hm.mark⟩

theorem plain_texts_of_rows {ladder : Ladder} {feature : Feature} {rows : List TableRow}
    {warnings : List Warning} (hladder : ∀ name ∈ ladder.names, Plain name)
    (hfeature : ∀ text ∈ feature.texts, Plain text)
    (h : rowsOf feature ladder = .ok (rows, warnings)) : ∀ r ∈ rows, r.PlainTexts := by
  intro r hr
  have hhanded : (r.row, r.papers) ∈ withPapers [] feature.rows := by
    rw [← papers_of_rows h]
    exact List.mem_map_of_mem hr
  have hrow : r.row ∈ feature.rows := by
    have hdescribed := List.mem_map_of_mem (f := (·.1)) hhanded
    rw [Feature.with_papers_rows] at hdescribed
    exact List.mem_of_mem_filter hdescribed
  have hrows : ∀ row ∈ feature.rows, ∀ text ∈ row.texts, Plain text := by
    intro row hrow text ht
    exact hfeature text (List.mem_append_right _ (List.mem_flatMap.mpr ⟨row, hrow, ht⟩))
  refine ⟨?_, ?_, ?_, ?_⟩
  · cases hd : r.row.description with
    | none => decide
    | some description =>
      refine hrows r.row hrow description ?_
      simp [HistoryRow.texts, hd]
  · intro header hheader
    exact hrows r.row hrow header (List.mem_append_left _ (List.mem_append_right _ hheader))
  · obtain ⟨name, hname, hmark⟩ := mark_of_rows h r hr
    exact hmark ▸ plain_lowercase (hladder name hname)
  · intro paper hp
    have hpaper := with_papers_origin _ hhanded paper hp
    rw [List.nil_append] at hpaper
    obtain ⟨row, hrow, hpaper⟩ := List.mem_flatMap.mp hpaper
    exact hrows row hrow paper (List.mem_append_right _ hpaper)

namespace Feature

variable {feature : Feature} {r : TableRow} {isFirst : Bool}

theorem showable_standard (h : Plain r.mark) : Showable r.standardCell := by
  have hmark : Plain (markup "mark " r.mark) := by
    simp only [markup, plain_append]
    exact ⟨⟨⟨by decide, by decide⟩, h⟩, by decide⟩
  unfold TableRow.standardCell
  split
  · refine ⟨unbroken_append.mpr ⟨hmark.unbroken, by decide⟩, ?_, .inr ?_⟩
    · refine separable_append (separable_of_barless hmark.barless) ?_
      exact separable_append (separable_of_barless (by decide))
        (showable_template "mark" (by decide) (by decide : Plain "DR")).separable
    · rw [String.toList_append]
      exact (markup_opens _ _).trans (List.prefix_append _ _)
  · rw [String.append_empty]
    exact hmark.showable

theorem showable_headers {headers : List String} (h : ∀ header ∈ headers, Plain header) :
    Showable (headerCells headers) :=
  showable_templates "header" (by decide) (by decide) h

theorem plain_headers (hheaders : ∀ header ∈ feature.headers.getD [], Plain header)
    (hr : r.PlainTexts) : ∀ header ∈ feature.headersOf r.row, Plain header := by
  have hown := hr.headers
  unfold headersOf
  cases hh : r.row.headers with
  | none => exact hheaders
  | some headers => rwa [hh] at hown

theorem shown_layout (hname : Plain feature.name)
    (hheaders : ∀ header ∈ feature.headers.getD [], Plain header) (hr : r.PlainTexts) :
    ∀ c ∈ feature.layout r, ∃ text, Showable text ∧ c.content = " " ++ text := by
  have hpadded : ∀ {text : String}, Showable text →
      ∃ shown, Showable shown ∧ padded text = " " ++ shown :=
    fun h => ⟨_, h.append (by decide : Plain " "), rfl⟩
  have hvalue : Showable (valueCell r.row.value) :=
    showable_template "c" (by decide) (plain_append.mpr ⟨plain_number _, by decide⟩)
  have hpapers : Showable (paperCell r.papers) :=
    showable_templates "stddoc" (by decide) (by decide) hr.papers
  have hheader : ∀ c ∈ feature.headerColumn r.row, ∃ text, Showable text ∧
      c.content = " " ++ text := by
    unfold headerColumn
    split
    · exact List.forall_mem_singleton.mpr
        (hpadded (showable_headers (plain_headers hheaders hr)))
    · exact fun _ hc => absurd hc List.not_mem_nil
  unfold layout
  simp only [List.forall_mem_append, List.forall_mem_cons]
  exact ⟨⟨⟨hpadded (showable_name hname), hpadded hr.description.showable, hpadded hvalue, by simp⟩,
    hheader⟩, hpadded (showable_standard hr.mark), ⟨_, hpapers, rfl⟩, by simp⟩

theorem legible_cells (hname : Plain feature.name)
    (hheaders : ∀ header ∈ feature.headers.getD [], Plain header) (hr : r.PlainTexts) :
    ∀ cell ∈ feature.cells isFirst r, cell.Legible := by
  intro cell hcell
  obtain ⟨c, hc, rfl⟩ := List.mem_map.mp hcell
  obtain ⟨text, htext, hcontent⟩ := shown_layout hname hheaders hr c (List.mem_of_mem_filter hc)
  unfold Column.cell
  rw [hcontent]
  split
  · exact htext.legible_spanning (.inl rfl) _
  · exact htext.legible

theorem plain_anchor (h : Plain feature.name) : Plain feature.anchor := by
  unfold anchor
  split
  · refine h.of_subset fun c hc _ => List.mem_of_mem_drop (i := 2) ?_
    exact String.toList_copy_drop (s := feature.name) ▸ hc
  · exact h

theorem stands_on_lines (hname : Plain feature.name)
    (hheaders : ∀ header ∈ feature.headers.getD [], Plain header) (hr : r.PlainTexts) :
    (feature.markupRow isFirst r).StandsOn (feature.rowLines isFirst r) := by
  have hcells : Line.ofText (cellLine '|' (feature.cells isFirst r)) = _ :=
    Line.of_text_cells (.inl rfl) cells_ne_nil (legible_cells hname hheaders hr)
  exact .intro (Line.of_text_rule _) (.cons hcells .nil) (List.append_nil _)

theorem unbroken_row_lines (hname : Plain feature.name)
    (hheaders : ∀ header ∈ feature.headers.getD [], Plain header) (hr : r.PlainTexts) :
    ∀ line ∈ feature.rowLines isFirst r, Unbroken line := by
  have hattributes : Plain (feature.markupRow isFirst r).attributes := by
    unfold markupRow
    split
    · simp only [plain_append]
      exact ⟨⟨by decide, plain_anchor hname⟩, by decide⟩
    · exact (by decide : Plain "")
  refine List.forall_mem_cons.mpr ⟨unbroken_append.mpr ⟨by decide, hattributes.unbroken⟩,
    List.forall_mem_singleton.mpr ?_⟩
  exact unbroken_cell_line (.inl rfl) (legible_cells hname hheaders hr)

end Feature
end Reading
end FeatureTest
