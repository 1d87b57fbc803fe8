import FeatureTest.BlockWriter

/-!
The lines that a decision tree is written as, and the places of its checks among them.
-/
namespace FeatureTest

def directiveLine (depth : Nat) (text : String) : String :=
  "#" ++ String.ofList (List.replicate depth ' ') ++ text

/-- The test under which a check fails. Without an expected value the identifier must be absent. -/
def checkTest (kind : Kind) (name : String) : Option Nat → String
  | some value => s!"{kind.query name} != {value}"
  | none =>
    match kind with
    | .attributes => kind.query name
    | .language | .library => s!"defined({name})"

def checkError (kind : Kind) (name : String) : Option Nat → String
  | some value => s!"{kind.query name} is not equal to {value}"
  | none =>
    match kind with
    | .attributes => s!"{kind.query name} is nonzero"
    | .language | .library => s!"{name} is defined"

def checkLines (kind : Kind) (name : String) (depth : Nat) (expected : Option Nat) : List String :=
  [directiveLine depth ("if " ++ checkTest kind name expected),
    directiveLine (depth + 1) ("error " ++ checkError kind name expected),
    directiveLine depth "endif"]

mutual

def DecisionTree.lines (kind : Kind) (name : String) (depth : Nat) : DecisionTree → List String
  | .value expected => checkLines kind name depth (some expected)
  | .absent => checkLines kind name depth none
  | .branch condition body rest =>
    directiveLine depth ("if " ++ condition.text) ::
      (body.lines kind name (depth + 1) ++ rest.lines kind name depth)

/-- The lines up to the end of the block, which stands at the given depth itself. -/
def Alternatives.lines (kind : Kind) (name : String) (depth : Nat) : Alternatives → List String
  | .otherwise body =>
    directiveLine depth "else" ::
      (body.lines kind name (depth + 1) ++ [directiveLine depth "endif"])
  | .arm condition body rest =>
    directiveLine depth ("elif " ++ condition.text) ::
      (body.lines kind name (depth + 1) ++ rest.lines kind name depth)

end

mutual

/-- The tests that the tree's blocks open and go on with. -/
def DecisionTree.conditions : DecisionTree → List Condition
  | .value _ | .absent => []
  | .branch condition body rest => condition :: (body.conditions ++ rest.conditions)

def Alternatives.conditions : Alternatives → List Condition
  | .otherwise body => body.conditions
  | .arm condition body rest => condition :: (body.conditions ++ rest.conditions)

end

mutual

/-- The number of lines. -/
def DecisionTree.height : DecisionTree → Nat
  | .value _ | .absent => 3
  | .branch _ body rest => 1 + body.height + rest.height

def Alternatives.height : Alternatives → Nat
  | .otherwise body => 1 + body.height + 1
  | .arm _ body rest => 1 + body.height + rest.height

end

/-- A check in a text: the number of its first line, and the value it expects. -/
structure Check where
  line : Nat
  expected : Option Nat
  deriving DecidableEq

mutual

/-- The checks of a tree that is written from the given line on. -/
def DecisionTree.checks (line : Nat) : DecisionTree → List Check
  | .value expected => [⟨line, some expected⟩]
  | .absent => [⟨line, none⟩]
  | .branch _ body rest => body.checks (line + 1) ++ rest.checks (line + 1 + body.height)

def Alternatives.checks (line : Nat) : Alternatives → List Check
  | .otherwise body => body.checks (line + 1)
  | .arm _ body rest => body.checks (line + 1) ++ rest.checks (line + 1 + body.height)

end

mutual

/-- The check that evaluation arrives at. -/
def DecisionTree.selected (holds : Conjunct → Bool) (line : Nat) : DecisionTree → Check
  | .value expected => ⟨line, some expected⟩
  | .absent => ⟨line, none⟩
  | .branch condition body rest =>
    if condition.conjuncts.all holds then body.selected holds (line + 1)
    else rest.selected holds (line + 1 + body.height)

def Alternatives.selected (holds : Conjunct → Bool) (line : Nat) : Alternatives → Check
  | .otherwise body => body.selected holds (line + 1)
  | .arm condition body rest =>
    if condition.conjuncts.all holds then body.selected holds (line + 1)
    else rest.selected holds (line + 1 + body.height)

end

section Writing

variable (name : String)

theorem directive_line (w : BlockWriter) (depth : Nat) (text : String) :
    w.directive depth text = { w with lines := w.lines ++ [directiveLine depth text] } := rfl

/-- A space in front of a directive is one more level of indentation. -/
theorem directive_line_space (depth : Nat) (text : String) :
    directiveLine depth (" " ++ text) = directiveLine (depth + 1) text := by
  rw [← String.toList_inj]
  simp [directiveLine, List.replicate_succ']

theorem expect_value_lines (w : BlockWriter) (value : Nat) :
    w.expectValue name value =
      { w with lines := w.lines ++ checkLines w.kind name w.depth (some value) } := by
  have htest : s!"if {w.kind.query name} != {value}" =
      "if " ++ checkTest w.kind name (some value) := by
    simp [checkTest, String.append_assoc, toString]
  have herror : s!" error {w.kind.query name} is not equal to {value}" =
      " " ++ ("error " ++ checkError w.kind name (some value)) := by
    rw [← String.toList_inj]
    simp [checkError, toString]
  unfold BlockWriter.expectValue
  simp only [htest, herror, directive_line, directive_line_space, checkLines, List.append_assoc,
    List.cons_append, List.nil_append]

theorem expect_absent_lines (w : BlockWriter) :
    w.expectAbsent name = { w with lines := w.lines ++ checkLines w.kind name w.depth none } := by
  have htest : (match w.kind with
      | .attributes => s!"if {w.kind.query name}"
      | .language | .library => s!"if defined({name})") = "if " ++ checkTest w.kind name none := by
    rw [← String.toList_inj]
    cases w.kind <;> simp [checkTest, toString]
  have herror : (match w.kind with
      | .attributes => s!" error {w.kind.query name} is nonzero"
      | .language | .library => s!" error {name} is defined") =
      " " ++ ("error " ++ checkError w.kind name none) := by
    rw [← String.toList_inj]
    cases w.kind <;> simp [checkError, toString]
  unfold BlockWriter.expectAbsent
  obtain ⟨kind, depth, lines⟩ := w
  cases kind <;> simp only [] at htest herror ⊢ <;>
    simp only [htest, herror, directive_line, directive_line_space, checkLines, List.append_assoc,
      List.cons_append, List.nil_append]

mutual

/-- Writing a tree succeeds from any state and adds its lines at the depth it starts from. -/
theorem write_tree_lines : ∀ (tree : DecisionTree) (w : BlockWriter),
    BlockWriter.writeTree name w tree =
      .ok { w with lines := w.lines ++ tree.lines w.kind name w.depth }
  | .value expected, w => by
    rw [BlockWriter.writeTree, expect_value_lines]
    rfl
  | .absent, w => by
    rw [BlockWriter.writeTree, expect_absent_lines]
    rfl
  | .branch condition body rest, w => by
    have hbody := write_tree_lines body (w.startIf condition.text)
    simp only [BlockWriter.writeTree, hbody]
    refine (write_rest_lines rest w.depth _ rfl).trans ?_
    simp [BlockWriter.startIf, directive_line, DecisionTree.lines]

/-- Writing the rest of an open block succeeds and closes it. -/
theorem write_rest_lines : ∀ (rest : Alternatives) (depth : Nat) (w : BlockWriter),
    w.depth = depth + 1 → BlockWriter.writeRest name w rest =
      .ok { w with depth, lines := w.lines ++ rest.lines w.kind name depth }
  | .otherwise body, depth, ⟨kind, _, lines⟩, rfl => by
    have hbody := write_tree_lines body ⟨kind, depth + 1, lines ++ [directiveLine depth "else"]⟩
    have helse : BlockWriter.startElse ⟨kind, depth + 1, lines⟩ =
        .ok ⟨kind, depth + 1, lines ++ [directiveLine depth "else"]⟩ := rfl
    simp only [BlockWriter.writeRest, helse, bind, Except.bind, hbody]
    simp [BlockWriter.endif, BlockWriter.openDepth, directive_line, Alternatives.lines, bind,
      Except.bind, pure, Except.pure]
  | .arm condition body rest, depth, ⟨kind, _, lines⟩, rfl => by
    have helif : BlockWriter.startElif ⟨kind, depth + 1, lines⟩ condition.text = .ok
        ⟨kind, depth + 1, lines ++ [directiveLine depth ("elif " ++ condition.text)]⟩ := rfl
    have hbody := write_tree_lines body
      ⟨kind, depth + 1, lines ++ [directiveLine depth ("elif " ++ condition.text)]⟩
    simp only [BlockWriter.writeRest, helif, bind, Except.bind, hbody]
    refine (write_rest_lines rest depth _ rfl).trans ?_
    simp [Alternatives.lines]

end

/-- Every tree can be rendered. -/
theorem render_lines (kind : Kind) (tree : DecisionTree) :
    tree.render kind name = .ok (String.join ((tree.lines kind name 0).map (· ++ "\n"))) := by
  unfold DecisionTree.render
  rw [write_tree_lines]
  rfl

end Writing

section Places

variable (kind : Kind) (name : String)

mutual

theorem lines_length : ∀ (tree : DecisionTree) (depth : Nat),
    (tree.lines kind name depth).length = tree.height
  | .value _, _ | .absent, _ => rfl
  | .branch _ body rest, depth => by
    have hbody := lines_length body (depth + 1)
    have hrest := rest_lines_length rest depth
    simp only [DecisionTree.lines, DecisionTree.height, List.length_cons, List.length_append]
    omega

theorem rest_lines_length : ∀ (rest : Alternatives) (depth : Nat),
    (rest.lines kind name depth).length = rest.height
  | .otherwise body, depth => by
    have hbody := lines_length body (depth + 1)
    simp only [Alternatives.lines, Alternatives.height, List.length_cons, List.length_append,
      List.length_nil]
    omega
  | .arm _ body rest, depth => by
    have hbody := lines_length body (depth + 1)
    have hrest := rest_lines_length rest depth
    simp only [Alternatives.lines, Alternatives.height, List.length_cons, List.length_append]
    omega

end

/-- A check is one of some lines when its three lines come one after the other at its place. -/
def Check.StandsIn (check : Check) (lines : List String) : Prop :=
  ∃ depth, checkLines kind name depth check.expected <+: lines.drop check.line

theorem prefix_at_append {α : Type} {text first second : List α} {n : Nat}
    (h : first ++ second <+: text.drop n) :
    first <+: text.drop n ∧ second <+: text.drop (n + first.length) := by
  obtain ⟨tail, ht⟩ := h
  rw [List.append_assoc] at ht
  refine ⟨⟨second ++ tail, ht⟩, tail, ?_⟩
  rw [← List.drop_drop, ← ht, List.drop_left]

theorem prefix_at_cons {α : Type} {text rest : List α} {line : α} {n : Nat}
    (h : line :: rest <+: text.drop n) : rest <+: text.drop (n + 1) :=
  (prefix_at_append (show [line] ++ rest <+: text.drop n from h)).2

mutual

theorem checks_stand : ∀ (tree : DecisionTree) (depth n : Nat) (text : List String),
    tree.lines kind name depth <+: text.drop n →
    ∀ check ∈ tree.checks n, check.StandsIn kind name text
  | .value _, depth, n, text, h, check, hc => by
    rw [List.mem_singleton.mp hc]
    exact ⟨depth, h⟩
  | .absent, depth, n, text, h, check, hc => by
    rw [List.mem_singleton.mp hc]
    exact ⟨depth, h⟩
  | .branch _ body rest, depth, n, text, h, check, hc => by
    obtain ⟨hbody, hrest⟩ := prefix_at_append (prefix_at_cons h)
    rw [lines_length] at hrest
    rcases List.mem_append.mp hc with hc | hc
    · exact checks_stand body (depth + 1) (n + 1) text hbody check hc
    · exact rest_checks_stand rest depth _ text hrest check hc

theorem rest_checks_stand : ∀ (rest : Alternatives) (depth n : Nat) (text : List String),
    rest.lines kind name depth <+: text.drop n →
    ∀ check ∈ rest.checks n, check.StandsIn kind name text
  | .otherwise body, depth, n, text, h, check, hc => by
    obtain ⟨hbody, -⟩ := prefix_at_append (prefix_at_cons h)
    exact checks_stand body (depth + 1) (n + 1) text hbody check hc
  | .arm _ body rest, depth, n, text, h, check, hc => by
    obtain ⟨hbody, hrest⟩ := prefix_at_append (prefix_at_cons h)
    rw [lines_length] at hrest
    rcases List.mem_append.mp hc with hc | hc
    · exact checks_stand body (depth + 1) (n + 1) text hbody check hc
    · exact rest_checks_stand rest depth _ text hrest check hc

end

mutual

theorem check_line_bounds : ∀ (tree : DecisionTree) (n : Nat),
    ∀ check ∈ tree.checks n, n ≤ check.line ∧ check.line < n + tree.height
  | .value _, n, check, hc => by
    rw [List.mem_singleton.mp hc]
    simp [DecisionTree.height]
  | .absent, n, check, hc => by
    rw [List.mem_singleton.mp hc]
    simp [DecisionTree.height]
  | .branch _ body rest, n, check, hc => by
    simp only [DecisionTree.height]
    rcases List.mem_append.mp hc with hc | hc
    · have := check_line_bounds body (n + 1) check hc
      omega
    · have := rest_check_line_bounds rest _ check hc
      omega

theorem rest_check_line_bounds : ∀ (rest : Alternatives) (n : Nat),
    ∀ check ∈ rest.checks n, n ≤ check.line ∧ check.line < n + rest.height
  | .otherwise body, n, check, hc => by
    have := check_line_bounds body (n + 1) check hc
    simp only [Alternatives.height]
    omega
  | .arm _ body rest, n, check, hc => by
    simp only [Alternatives.height]
    rcases List.mem_append.mp hc with hc | hc
    · have := check_line_bounds body (n + 1) check hc
      omega
    · have := rest_check_line_bounds rest _ check hc
      omega

end

mutual

theorem selected_expected (holds : Conjunct → Bool) : ∀ (tree : DecisionTree) (n : Nat),
    (tree.selected holds n).expected = tree.evaluate holds
  | .value _, _ | .absent, _ => rfl
  | .branch condition body rest, n => by
    simp only [DecisionTree.selected, DecisionTree.evaluate]
    split
    · exact selected_expected holds body (n + 1)
    · exact rest_selected_expected holds rest _

theorem rest_selected_expected (holds : Conjunct → Bool) : ∀ (rest : Alternatives) (n : Nat),
    (rest.selected holds n).expected = rest.evaluate holds
  | .otherwise body, n => selected_expected holds body (n + 1)
  | .arm condition body rest, n => by
    simp only [Alternatives.selected, Alternatives.evaluate]
    split
    · exact selected_expected holds body (n + 1)
    · exact rest_selected_expected holds rest _

end

end Places

section Text

/-- Text within one line. -/
def Unbroken (text : String) : Prop := '\n' ∉ text.toList

instance (text : String) : Decidable (Unbroken text) :=
  inferInstanceAs (Decidable ('\n' ∉ text.toList))

theorem unbroken_append {a b : String} : Unbroken (a ++ b) ↔ Unbroken a ∧ Unbroken b := by
  simp [Unbroken, not_or]

theorem not_mem_number {c : Char} (hc : c.isDigit = false) (n : Nat) : c ∉ (toString n).toList := by
  intro h
  rw [Nat.toString_eq_repr, Nat.toList_repr] at h
  rw [Nat.isDigit_of_mem_toDigits (by decide) (by decide) h] at hc
  cases hc

theorem unbroken_number (n : Nat) : Unbroken (toString n) := not_mem_number (by decide) n

/-- What is kept by joining two texts is kept by joining any number of them. -/
theorem intercalate_closed {P : String → Prop} (hnil : P "")
    (happend : ∀ a b, P a → P b → P (a ++ b)) {sign : String} {parts : List String} (hs : P sign)
    (hp : ∀ part ∈ parts, P part) : P (sign.intercalate parts) := by
  induction parts with
  | nil => exact hnil
  | cons part rest ih =>
    obtain ⟨hpart, hrest⟩ := List.forall_mem_cons.mp hp
    cases rest with
    | nil => simpa using hpart
    | cons next later =>
      rw [String.intercalate_cons_cons]
      exact happend _ _ (happend _ _ hpart hs) (ih hrest)

theorem unbroken_intercalate {sign : String} {parts : List String} (hs : Unbroken sign)
    (hp : ∀ part ∈ parts, Unbroken part) : Unbroken (sign.intercalate parts) :=
  intercalate_closed (by decide) (fun _ _ ha hb => unbroken_append.mpr ⟨ha, hb⟩) hs hp

theorem intercalate_cons (sign part : String) (parts : List String) :
    sign.intercalate (part :: parts) = part ++ String.join (parts.map (sign ++ ·)) := by
  induction parts generalizing part with
  | nil => simp
  | cons next later ih =>
    rw [String.intercalate_cons_cons, ih, List.map_cons, String.join_cons]
    simp only [String.append_assoc]

/-- Joined texts start with the first one. -/
theorem prefix_intercalate (sign part : String) (parts : List String) :
    part.toList <+: (sign.intercalate (part :: parts)).toList := by
  rw [intercalate_cons, String.toList_append]
  exact List.prefix_append _ _

theorem unbroken_condition {condition : Condition}
    (h : ∀ conjunct ∈ condition.conjuncts, Unbroken conjunct.text) : Unbroken condition.text := by
  unfold Condition.text
  split
  · decide
  · apply unbroken_intercalate (by decide)
    intro part hp
    obtain ⟨conjunct, hc, rfl⟩ := List.mem_map.mp hp
    exact h conjunct hc

theorem unbroken_directive_line {depth : Nat} {text : String} (h : Unbroken text) :
    Unbroken (directiveLine depth text) := by
  unfold Unbroken at h
  simp [Unbroken, directiveLine, h]

theorem unbroken_query {kind : Kind} {name : String} (h : Unbroken name) :
    Unbroken (kind.query name) := by
  cases kind with
  | attributes =>
    change Unbroken ("__has_cpp_attribute(" ++ name ++ ")")
    simp only [unbroken_append]
    exact ⟨⟨by decide, h⟩, by decide⟩
  | language | library => exact h

theorem unbroken_check_test {kind : Kind} {name : String} (hn : Unbroken name)
    (expected : Option Nat) : Unbroken (checkTest kind name expected) := by
  cases expected with
  | some value =>
    simp only [checkTest, unbroken_append]
    exact ⟨⟨unbroken_query hn, by decide⟩, unbroken_number value⟩
  | none =>
    cases kind with
    | attributes => exact unbroken_query hn
    | language | library =>
      simp only [checkTest, unbroken_append]
      exact ⟨⟨by decide, hn⟩, by decide⟩

theorem unbroken_check_error {kind : Kind} {name : String} (hn : Unbroken name)
    (expected : Option Nat) : Unbroken (checkError kind name expected) := by
  cases expected with
  | some value =>
    simp only [checkError, unbroken_append]
    exact ⟨⟨unbroken_query hn, by decide⟩, unbroken_number value⟩
  | none =>
    cases kind with
    | attributes =>
      simp only [checkError, unbroken_append]
      exact ⟨unbroken_query hn, by decide⟩
    | language | library =>
      simp only [checkError, unbroken_append]
      exact ⟨hn, by decide⟩

theorem unbroken_check_lines {kind : Kind} {name : String} (hn : Unbroken name) (depth : Nat)
    (expected : Option Nat) : ∀ line ∈ checkLines kind name depth expected, Unbroken line := by
  have hif : Unbroken ("if " ++ checkTest kind name expected) :=
    unbroken_append.mpr ⟨by decide, unbroken_check_test hn expected⟩
  have herror : Unbroken ("error " ++ checkError kind name expected) :=
    unbroken_append.mpr ⟨by decide, unbroken_check_error hn expected⟩
  have hend : Unbroken "endif" := by decide
  simp [checkLines, unbroken_directive_line hif, unbroken_directive_line herror,
    unbroken_directive_line hend]

mutual

theorem unbroken_tree_lines {kind : Kind} {name : String} (hn : Unbroken name) :
    ∀ (tree : DecisionTree) (depth : Nat), (∀ c ∈ tree.conditions, Unbroken c.text) →
    ∀ line ∈ tree.lines kind name depth, Unbroken line
  | .value expected, depth, _ => unbroken_check_lines hn depth (some expected)
  | .absent, depth, _ => unbroken_check_lines hn depth none
  | .branch condition body rest, depth, hc => by
    obtain ⟨hhead, hlater⟩ := List.forall_mem_cons.mp hc
    obtain ⟨hbody, hrest⟩ := List.forall_mem_append.mp hlater
    have hif : Unbroken ("if " ++ condition.text) := unbroken_append.mpr ⟨by decide, hhead⟩
    refine List.forall_mem_cons.mpr ⟨unbroken_directive_line hif, ?_⟩
    exact List.forall_mem_append.mpr
      ⟨unbroken_tree_lines hn body (depth + 1) hbody, unbroken_rest_lines hn rest depth hrest⟩

theorem unbroken_rest_lines {kind : Kind} {name : String} (hn : Unbroken name) :
    ∀ (rest : Alternatives) (depth : Nat), (∀ c ∈ rest.conditions, Unbroken c.text) →
    ∀ line ∈ rest.lines kind name depth, Unbroken line
  | .otherwise body, depth, hc => by
    have helse : Unbroken (directiveLine depth "else") := unbroken_directive_line (by decide)
    have hend : Unbroken (directiveLine depth "endif") := unbroken_directive_line (by decide)
    refine List.forall_mem_cons.mpr ⟨helse, ?_⟩
    exact List.forall_mem_append.mpr
      ⟨unbroken_tree_lines hn body (depth + 1) hc, List.forall_mem_singleton.mpr hend⟩
  | .arm condition body rest, depth, hc => by
    obtain ⟨hhead, hlater⟩ := List.forall_mem_cons.mp hc
    obtain ⟨hbody, hrest⟩ := List.forall_mem_append.mp hlater
    have helif : Unbroken ("elif " ++ condition.text) := unbroken_append.mpr ⟨by decide, hhead⟩
    refine List.forall_mem_cons.mpr ⟨unbroken_directive_line helif, ?_⟩
    exact List.forall_mem_append.mpr
      ⟨unbroken_tree_lines hn body (depth + 1) hbody, unbroken_rest_lines hn rest depth hrest⟩

end

/-- The lines of a text; what follows the last line end counts as one. -/
def textLines (text : String) : List String := (text.toList.splitOn '\n').map String.ofList

theorem join_blocks (blocks : List (List String)) :
    String.join (blocks.map fun lines => String.join (lines.map (· ++ "\n"))) =
      String.join (blocks.flatten.map (· ++ "\n")) := by
  induction blocks with
  | nil => rfl
  | cons lines later ih =>
    rw [List.map_cons, String.join_cons, ih, List.flatten_cons, List.map_append, String.join_append]

theorem text_lines_append {lines : List String} (h : ∀ line ∈ lines, Unbroken line)
    (rest : String) :
    textLines (String.join (lines.map (· ++ "\n")) ++ rest) = lines ++ textLines rest := by
  induction lines with
  | nil => simp
  | cons line later ih =>
    obtain ⟨hline, hlater⟩ := List.forall_mem_cons.mp h
    have htext : (String.join ((line :: later).map (· ++ "\n")) ++ rest).toList =
        line.toList ++ '\n' :: (String.join (later.map (· ++ "\n")) ++ rest).toList := by
      simp
    have hrest := ih hlater
    unfold textLines at hrest ⊢
    rw [htext, List.splitOn_append_cons_self_of_not_mem hline, List.map_cons, hrest,
      String.ofList_toList]
    rfl

theorem text_lines_joined_append {lines : List String} {last : String}
    (h : ∀ line ∈ lines, Unbroken line) (hlast : Unbroken last) :
    textLines (String.join (lines.map (· ++ "\n")) ++ last) = lines ++ [last] := by
  rw [text_lines_append h]
  unfold textLines
  rw [List.splitOn_eq_singleton hlast]
  simp

theorem text_lines_joined {lines : List String} (h : ∀ line ∈ lines, Unbroken line) :
    textLines (String.join (lines.map (· ++ "\n"))) = lines ++ [""] := by
  have hjoined := text_lines_joined_append h (by decide : Unbroken "")
  rwa [String.append_empty] at hjoined

end Text

end FeatureTest
