import Mathlib.Data.List.Chain
import Mathlib.Data.List.Infix
import Mathlib.Data.List.TakeWhile
import FeatureTest.Proofs.RenderedLines

/-!
Tables in wiki markup: the rows and cells that are read from a text, and which texts are read as
they were meant.
-/
namespace FeatureTest.Wikitable

/-- A cell, with the text in front of its content that holds its attributes, if there is one. -/
structure Cell where
  attributes : Option String := none
  content : String
  deriving DecidableEq

structure Row where
  attributes : String
  cells : List Cell
  deriving DecidableEq

/-- The number right after the first place where a text has `key`; one if it nowhere does. -/
def numberAfter (key : List Char) : List Char → Nat
  | [] => 1
  | c :: cs =>
    if key <+: c :: cs then
      Nat.ofDigitChars 10 (((c :: cs).drop key.length).takeWhile Char.isDigit) 0
    else numberAfter key cs

namespace Cell

def span (name : String) (cell : Cell) : Nat :=
  numberAfter (name.toList ++ ['=', '"']) (cell.attributes.getD "").toList

def rowspan : Cell → Nat := span "rowspan"

def colspan : Cell → Nat := span "colspan"

def text (cell : Cell) : String :=
  match cell.attributes with
  | none => cell.content
  | some attributes => attributes ++ "|" ++ cell.content

@[simp] theorem text_content (content : String) : text { content } = content := rfl

@[simp] theorem text_attributes (attributes content : String) :
    text ⟨some attributes, content⟩ = attributes ++ "|" ++ content := rfl

/-- A bar ends the attributes, unless a template is open there. -/
def ofText (text : String) : Cell :=
  let before := text.toList.takeWhile (· != '|')
  match text.toList.dropWhile (· != '|') with
  | [] => { content := text }
  | _ :: after =>
    if ['\x7b', '\x7b'] <:+: before then { content := text }
    else { attributes := some (String.ofList before), content := String.ofList after }

end Cell

/-- The parts of a text between pairs of bars. -/
def splitBars : List Char → List (List Char)
  | [] => [[]]
  | [c] => [[c]]
  | c :: d :: cs =>
    if c = '|' ∧ d = '|' then [] :: splitBars cs else (splitBars (d :: cs)).modifyHead (c :: ·)

inductive Line where
  | opening
  /-- Starts a row. -/
  | rule (attributes : String)
  | cells (cells : List Cell)
  | closing
  | other
  deriving DecidableEq

namespace Line

/-- A line by what it starts with. Only pairs of bars end a cell, between headings too. -/
def ofText (text : String) : Line :=
  match text.toList with
  | '\x7b' :: '|' :: _ => opening
  | '|' :: '-' :: attributes => rule (String.ofList attributes)
  | '|' :: '\x7d' :: _ => closing
  | '|' :: cs | '!' :: cs => cells ((splitBars cs).map fun cell => Cell.ofText (String.ofList cell))
  | _ => other

end Line

/-- The cells before the first rule, and the rows, of lines that end the table. -/
def collect : List String → Option (List Cell × List Row)
  | [] => none
  | line :: lines =>
    match Line.ofText line with
    | .closing => if lines.isEmpty then some ([], []) else none
    | .rule attributes => (collect lines).map fun (cells, rows) => ([], ⟨attributes, cells⟩ :: rows)
    | .cells cells => (collect lines).map fun (others, rows) => (cells ++ others, rows)
    | .opening | .other => none

/-- The rows of a text that is one table, in which each cell belongs to a row. -/
def read (text : String) : Option (List Row) :=
  match textLines text with
  | [] => none
  | first :: lines =>
    match Line.ofText first, collect lines with
    | .opening, some ([], rows) => some rows
    | _, _ => none

section Reading

/-- Text without two bars in a row, and without a bar at the end. -/
def Separable (text : String) : Prop :=
  List.IsChain (fun a b => ¬(a = '|' ∧ b = '|')) (text.toList ++ ['|'])

theorem separable_append {a b : String} (ha : Separable a) (hb : Separable b) :
    Separable (a ++ b) := by
  obtain ⟨ha, -, hend⟩ := List.isChain_append.mp ha
  have hlast : ∀ x ∈ a.toList.getLast?, x ≠ '|' := by
    intro x hx he
    exact hend x hx '|' rfl ⟨he, rfl⟩
  unfold Separable
  rw [String.toList_append, List.append_assoc]
  refine List.isChain_append.mpr ⟨ha, hb, ?_⟩
  intro x hx y _ hxy
  exact hlast x hx hxy.1

theorem separable_of_barless {text : String} (h : '|' ∉ text.toList) : Separable text := by
  unfold Separable
  generalize text.toList = cs at h
  induction cs with
  | nil => exact .singleton _
  | cons c cs ih =>
    obtain ⟨hc, hcs⟩ := not_or.mp (List.mem_cons.not.mp h)
    refine List.isChain_cons.mpr ⟨fun y _ hy => hc hy.1.symm, ih hcs⟩

theorem separable_intercalate {sign : String} {parts : List String} (hs : Separable sign)
    (hp : ∀ part ∈ parts, Separable part) : Separable (sign.intercalate parts) :=
  intercalate_closed (P := Separable) (.singleton _) (fun _ _ => separable_append) hs hp

/-- A bar does no harm when other text follows it. -/
theorem separable_bar {a b : String} {c : Char} (ha : Separable a) (hb : Separable b)
    (hfirst : b.toList.head? = some c) (hc : c ≠ '|') : Separable (a ++ "|" ++ b) := by
  have hafter : List.IsChain (fun a b => ¬(a = '|' ∧ b = '|')) (['|'] ++ (b.toList ++ ['|'])) := by
    refine List.isChain_cons.mpr ⟨?_, hb⟩
    intro y hy he
    change y ∈ (b.toList ++ ['|']).head? at hy
    rw [List.head?_append, hfirst] at hy
    exact hc (Option.some.inj hy ▸ he.2)
  have hchain := ha.append_overlap hafter (List.cons_ne_nil _ _)
  unfold Separable
  rwa [String.toList_append, String.toList_append, List.append_assoc]

theorem split_bars_of_separable {cell : List Char}
    (h : List.IsChain (fun a b => ¬(a = '|' ∧ b = '|')) (cell ++ ['|'])) :
    splitBars cell = [cell] ∧
      ∀ rest, splitBars (cell ++ '|' :: '|' :: rest) = cell :: splitBars rest := by
  induction cell with
  | nil => exact ⟨rfl, fun _ => rfl⟩
  | cons c cs ih =>
    obtain ⟨hwhole, hbefore⟩ := ih h.tail
    cases cs with
    | nil =>
      have hc : ¬(c = '|' ∧ '|' = '|') := (List.isChain_cons_cons.mp h).1
      refine ⟨rfl, fun rest => ?_⟩
      change splitBars (c :: '|' :: '|' :: rest) = _
      rw [splitBars, if_neg hc]
      rfl
    | cons d ds =>
      have hc : ¬(c = '|' ∧ d = '|') := (List.isChain_cons_cons.mp h).1
      refine ⟨?_, fun rest => ?_⟩
      · rw [splitBars, if_neg hc, hwhole, List.modifyHead_cons]
      · change splitBars (c :: d :: (ds ++ _)) = _
        rw [splitBars, if_neg hc, ← List.cons_append, hbefore, List.modifyHead_cons]

theorem split_bars_joined {cells : List Cell} (hne : cells ≠ [])
    (h : ∀ cell ∈ cells, Separable cell.text) :
    splitBars ("||".intercalate (cells.map Cell.text)).toList = cells.map (·.text.toList) := by
  induction cells with
  | nil => exact absurd rfl hne
  | cons cell rest ih =>
    obtain ⟨hcell, hrest⟩ := List.forall_mem_cons.mp h
    obtain ⟨hwhole, hbefore⟩ := split_bars_of_separable hcell
    cases rest with
    | nil => simpa using hwhole
    | cons next later =>
      rw [List.map_cons, List.map_cons, String.intercalate_cons_cons, String.toList_append,
        String.toList_append, List.append_assoc]
      refine (hbefore _).trans ?_
      exact congrArg (cell.text.toList :: ·) (ih (List.cons_ne_nil _ _) hrest)

/-- A cell that is read as it was written, in whatever row it stands. -/
structure Cell.Legible (cell : Cell) : Prop where
  unbroken : Unbroken cell.text
  spaced : [' '] <+: cell.text.toList
  separable : Separable cell.text
  attributes : ∀ attributes ∈ cell.attributes,
    '|' ∉ attributes.toList ∧ ¬['\x7b', '\x7b'] <:+: attributes.toList
  content : cell.attributes = none →
    '|' ∉ cell.content.toList ∨ [' ', '\x7b', '\x7b'] <+: cell.content.toList

theorem Cell.of_text_text {cell : Cell} (h : cell.Legible) : Cell.ofText cell.text = cell := by
  obtain ⟨attributes, content⟩ := cell
  cases attributes with
  | none =>
    change Cell.ofText content = _
    unfold ofText
    rcases h.content rfl with hbarless | ⟨rest, hopen⟩
    · have hdrop : content.toList.dropWhile (· != '|') = [] := by
        refine List.dropWhile_eq_nil_iff.mpr fun c hc => ?_
        exact bne_iff_ne.mpr fun he => hbarless (he ▸ hc)
      rw [hdrop]
    · have hbefore : ['\x7b', '\x7b'] <:+: content.toList.takeWhile (· != '|') := by
        rw [← hopen]
        exact ⟨[' '], rest.takeWhile (· != '|'), rfl⟩
      split
      · rfl
      · exact if_pos hbefore
  | some attributes =>
    obtain ⟨hbarless, hclosed⟩ := h.attributes attributes rfl
    have hpass : ∀ c ∈ attributes.toList, (c != '|') = true := by
      intro c hc
      exact bne_iff_ne.mpr fun he => hbarless (he ▸ hc)
    change Cell.ofText (attributes ++ "|" ++ content) = _
    unfold ofText
    have hbefore : (attributes ++ "|" ++ content).toList.takeWhile (· != '|') =
        attributes.toList := by
      rw [String.toList_append, String.toList_append, List.append_assoc,
        List.takeWhile_append_of_pos hpass]
      exact List.append_nil _
    have hafter : (attributes ++ "|" ++ content).toList.dropWhile (· != '|') =
        '|' :: content.toList := by
      rw [String.toList_append, String.toList_append, List.append_assoc,
        List.dropWhile_append_of_pos hpass]
      rfl
    simp only [hbefore, hafter, if_neg hclosed, String.ofList_toList]

/-- The line that cells are written on. -/
def cellLine (mark : Char) (cells : List Cell) : String :=
  String.singleton mark ++ "||".intercalate (cells.map Cell.text)

/-- No cell begins with what would make its line a rule or the end of the table. -/
theorem cell_line_spaced (mark : Char) {cells : List Cell} (hne : cells ≠ [])
    (h : ∀ cell ∈ cells, [' '] <+: cell.text.toList) :
    ∃ rest, (cellLine mark cells).toList = mark :: ' ' :: rest := by
  obtain ⟨first, later, rfl⟩ := List.exists_cons_of_ne_nil hne
  obtain ⟨rest, hspaced⟩ := (h first List.mem_cons_self).trans
    (prefix_intercalate "||" first.text (later.map Cell.text))
  refine ⟨rest, ?_⟩
  rw [cellLine, String.toList_append, String.toList_singleton, List.map_cons, ← hspaced]
  rfl

theorem Line.of_text_cells {mark : Char} {cells : List Cell} (hmark : mark = '|' ∨ mark = '!')
    (hne : cells ≠ []) (h : ∀ cell ∈ cells, cell.Legible) :
    Line.ofText (cellLine mark cells) = .cells cells := by
  have hsplit := split_bars_joined hne fun cell hc => (h cell hc).separable
  have hread : (cells.map (·.text.toList)).map (fun cs => Cell.ofText (String.ofList cs)) =
      cells := by
    rw [List.map_map]
    refine (List.map_congr_left fun cell hc => ?_).trans (List.map_id cells)
    rw [Function.comp_apply, String.ofList_toList, Cell.of_text_text (h cell hc), id]
  obtain ⟨rest, htext⟩ := cell_line_spaced mark hne fun cell hc => (h cell hc).spaced
  have hspaced : ("||".intercalate (cells.map Cell.text)).toList = ' ' :: rest := by
    rw [cellLine, String.toList_append, String.toList_singleton] at htext
    exact (List.cons.inj htext).2
  rw [hspaced] at hsplit
  unfold Line.ofText
  rw [htext]
  rcases hmark with rfl | rfl <;> exact congrArg Line.cells ((congrArg _ hsplit).trans hread)

theorem unbroken_cell_line {mark : Char} {cells : List Cell} (hmark : mark = '|' ∨ mark = '!')
    (h : ∀ cell ∈ cells, cell.Legible) : Unbroken (cellLine mark cells) := by
  refine unbroken_append.mpr ⟨?_, unbroken_intercalate (by decide) fun part hp => ?_⟩
  · rcases hmark with rfl | rfl <;> decide
  · obtain ⟨cell, hcell, rfl⟩ := List.mem_map.mp hp
    exact (h cell hcell).unbroken

/-- A row that stands on these lines: its rule, and its cells on as many lines as it likes. -/
inductive Row.StandsOn (row : Row) : List String → Prop where
  | intro {rule : String} {lines : List String} {cells : List (List Cell)}
      (rule_read : Line.ofText rule = .rule row.attributes)
      (cells_read : List.Forall₂ (fun line cs => Line.ofText line = .cells cs) lines cells)
      (whole : cells.flatten = row.cells) : row.StandsOn (rule :: lines)

@[simp] theorem Line.of_text_rule (attributes : String) :
    Line.ofText ("|-" ++ attributes) = .rule attributes := by
  simp [ofText]

/-- The lines of a row of headings, each of which has a line of its own. -/
def Row.headingLines (row : Row) : List String :=
  ("|-" ++ row.attributes) :: row.cells.map fun cell => cellLine '!' [cell]

theorem Row.heading_stands {row : Row} (h : ∀ cell ∈ row.cells, cell.Legible) :
    row.StandsOn row.headingLines := by
  have hlines : List.Forall₂ (fun line cs => Line.ofText line = .cells cs)
      (row.cells.map fun cell => cellLine '!' [cell]) (row.cells.map ([·])) := by
    refine List.forall₂_map_left_iff.mpr (List.forall₂_map_right_iff.mpr ?_)
    refine List.forall₂_same.mpr fun cell hcell => ?_
    exact Line.of_text_cells (.inr rfl) (List.cons_ne_nil _ _)
      (List.forall_mem_singleton.mpr (h cell hcell))
  refine .intro (Line.of_text_rule _) hlines ?_
  rw [← List.flatMap_def, List.flatMap_singleton']

theorem Row.unbroken_heading {row : Row} (hattributes : Unbroken row.attributes)
    (h : ∀ cell ∈ row.cells, cell.Legible) : ∀ line ∈ row.headingLines, Unbroken line := by
  refine List.forall_mem_cons.mpr ⟨unbroken_append.mpr ⟨by decide, hattributes⟩, ?_⟩
  intro line hline
  obtain ⟨cell, hcell, rfl⟩ := List.mem_map.mp hline
  exact unbroken_cell_line (.inr rfl) (List.forall_mem_singleton.mpr (h cell hcell))

theorem collect_cells {lines later : List String} {cells : List (List Cell)} {others : List Cell}
    {rows : List Row} (h : List.Forall₂ (fun line cs => Line.ofText line = .cells cs) lines cells)
    (hlater : collect later = some (others, rows)) :
    collect (lines ++ later) = some (cells.flatten ++ others, rows) := by
  induction h with
  | nil => exact hlater
  | cons hline _ ih =>
    rw [List.cons_append, collect, hline]
    simp only [ih, Option.map_some, List.flatten_cons, List.append_assoc]

theorem collect_row {row : Row} {lines later : List String} {rows : List Row}
    (h : row.StandsOn lines) (hlater : collect later = some ([], rows)) :
    collect (lines ++ later) = some ([], row :: rows) := by
  obtain ⟨hrule, hcells, hwhole⟩ := h
  have hcollect := collect_cells hcells hlater
  rw [hwhole, List.append_nil] at hcollect
  rw [List.cons_append, collect, hrule]
  simp only [hcollect, Option.map_some]

theorem collect_rows {rows later : List Row} {blocks : List (List String)} {lines : List String}
    (h : List.Forall₂ Row.StandsOn rows blocks) (hlines : collect lines = some ([], later)) :
    collect (blocks.flatten ++ lines) = some ([], rows ++ later) := by
  induction h with
  | nil => exact hlines
  | cons hrow _ ih =>
    rw [List.flatten_cons, List.append_assoc]
    exact collect_row hrow ih

/-- A table whose lines are those of its rows is read as these rows. -/
theorem read_rows {rows : List Row} {blocks : List (List String)} {first last : String}
    (hfirst : Line.ofText first = .opening) (hlast : Line.ofText last = .closing)
    (h : List.Forall₂ Row.StandsOn rows blocks) {text : String}
    (htext : textLines text = first :: (blocks.flatten ++ [last])) : read text = some rows := by
  have hend : collect [last] = some ([], []) := by
    rw [collect, hlast]
    rfl
  have hcollect := collect_rows h hend
  rw [List.append_nil] at hcollect
  unfold read
  rw [htext]
  simp only [hfirst, hcollect]

example :
    read "\x7b|\n|-\n| rowspan=\"2\" | one || \x7b\x7btt|two\x7d\x7d\n|-\n| three\n|\x7d" = some [
    ⟨"", [⟨some " rowspan=\"2\" ", " one "⟩, { content := " \x7b\x7btt|two\x7d\x7d" }]⟩,
    ⟨"", [{ content := " three" }]⟩] := by decide +kernel

end Reading

section Spans

theorem number_after_absent {k : Char} {key cs : List Char} (h : k ∉ cs) :
    numberAfter (k :: key) cs = 1 := by
  induction cs with
  | nil => rfl
  | cons c cs ih =>
    obtain ⟨hc, hcs⟩ := not_or.mp (List.mem_cons.not.mp h)
    rw [numberAfter, if_neg fun hp => hc (List.cons_prefix_cons.mp hp).1, ih hcs]

theorem number_after_number {key : List Char} (hne : key ≠ []) (n : Nat) (rest : List Char) :
    numberAfter key (key ++ ((toString n).toList ++ '"' :: rest)) = n := by
  have hdigits : ∀ c ∈ (toString n).toList, c.isDigit = true := by
    intro c hc
    by_contra hno
    exact not_mem_number (Bool.not_eq_true _ ▸ hno) n hc
  have htake : ((toString n).toList ++ '"' :: rest).takeWhile Char.isDigit =
      (toString n).toList := by
    rw [List.takeWhile_append_of_pos hdigits]
    exact List.append_nil _
  obtain ⟨k, ks, rfl⟩ := List.exists_cons_of_ne_nil hne
  have hprefix : k :: ks <+: k :: (ks ++ ((toString n).toList ++ '"' :: rest)) :=
    List.prefix_append (k :: ks) _
  rw [List.cons_append, numberAfter, if_pos hprefix, ← List.cons_append, List.drop_left, htake,
    Nat.toString_eq_repr, Nat.toList_repr, Nat.ofDigitChars_ten_toDigits]

/-- Attributes that give one number. -/
def spanAttribute (name : String) (n : Nat) : String := " " ++ name ++ "=\"" ++ toString n ++ "\" "

theorem not_mem_attribute {name : String} {c : Char} (hname : c ∉ name.toList)
    (hsign : c ∉ [' ', '=', '"']) (hdigit : c.isDigit = false) (n : Nat) :
    c ∉ (spanAttribute name n).toList := by
  have hnumber := not_mem_number hdigit n
  simp only [List.mem_cons, List.not_mem_nil, or_false, not_or] at hsign
  simp [spanAttribute, hname, hsign] at hnumber ⊢
  exact hnumber

theorem Cell.span_of_attribute {name content : String} (hname : ' ' ∉ name.toList) (n : Nat) :
    Cell.span name ⟨some (spanAttribute name n), content⟩ = n := by
  have htext : (spanAttribute name n).toList =
      ' ' :: ((name.toList ++ ['=', '"']) ++ ((toString n).toList ++ '"' :: [' '])) := by
    simp [spanAttribute]
  have hblank : ∀ rest, ¬name.toList ++ ['=', '"'] <+: ' ' :: rest := by
    intro rest hp
    cases hcs : name.toList with
    | nil => simp [hcs] at hp
    | cons c cs =>
      rw [hcs, List.cons_append, List.cons_prefix_cons] at hp
      exact hname (hcs ▸ hp.1 ▸ List.mem_cons_self)
  unfold span
  rw [Option.getD_some, htext, numberAfter, if_neg (hblank _), number_after_number (by simp)]

end Spans
end FeatureTest.Wikitable
