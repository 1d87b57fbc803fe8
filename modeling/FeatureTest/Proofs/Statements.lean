import FeatureTest.Proofs.Success
import FeatureTest.VersionDef.Definition

/-!
Statements of version definitions: how each is written, what it defines, and that a run of them is
read as what they define, one after the other.
-/
namespace FeatureTest.VersionDef
open Success

/-- What a name may be set to: a word, or quoted strings one after the other. -/
inductive Leaf where
  | word (w : List Char)
  | quoted (first : List Char) (rest : List (List Char))

def Leaf.tokens : Leaf → List Token
  | .word w => [.word w]
  | .quoted first rest => .quoted first :: rest.map .quoted

def Leaf.text (leaf : Leaf) : String := textOf leaf.tokens

inductive Statement where
  | value (name : String) (leaf : Leaf)
  | group (name : String) (body : List Statement)

namespace Statement

def name : Statement → String
  | .value name _ | .group name _ => name

mutual

def tokens : Statement → List Token
  | .value name leaf => .word name.toList :: .mark '=' :: (leaf.tokens ++ [.mark ';'])
  | .group name body =>
    .word name.toList :: .mark '=' :: .mark '\x7b' :: (tokensOf body ++ [.mark '\x7d', .mark ';'])

def tokensOf : List Statement → List Token
  | [] => []
  | s :: rest => s.tokens ++ tokensOf rest

end

mutual

/-- The definition of a statement's name, given the one from the statements before it. -/
def extend : Statement → Option Definition → Except ParseError Definition
  | .value _ leaf, none => .ok (.text leaf.text)
  | .value name _, some _ => .error (.duplicateValue name)
  | .group _ body, earlier => do
    let inner ← define body []
    match earlier with
    | none => return .groups [inner]
    | some (.groups bodies) => return .groups (bodies ++ [inner])
    | some (.text _) => throw .mixed

/-- What statements define, one after the other. -/
def define : List Statement → Definitions → Except ParseError Definitions
  | [], ds => .ok ds
  | s :: rest, ds => do
    let d ← s.extend (ds.lookup s.name)
    define rest (ds.insert s.name d)

end

end Statement

section Marks

variable {mark : Char} {before after : List Token}

theorem split_at_mark (h : Token.mark mark ∉ before) :
    splitAtMark? mark (before ++ .mark mark :: after) = some (before, after) := by
  induction before with
  | nil => simp [splitAtMark?]
  | cons t before ih =>
    obtain ⟨ht, hbefore⟩ := not_or.mp (mt List.mem_cons.mpr h)
    rw [List.cons_append, splitAtMark?, if_neg (Ne.symm ht), ih hbefore]
    rfl

theorem text_of_name (name : String) : textOf [.word name.toList] = name := by
  simp [textOf, Token.text]

end Marks

namespace Leaf

variable {leaf : Leaf}

theorem mark_not_mem {mark : Char} : Token.mark mark ∉ leaf.tokens := by
  cases leaf with
  | word w => simp [tokens]
  | quoted first rest => simp [tokens]

theorem is_value : isValue leaf.tokens = true := by
  cases leaf with
  | word w => rfl
  | quoted first rest => cases rest <;> rfl

theorem head_not_mark {mark : Char} {after : List Token} :
    (leaf.tokens ++ after).head? ≠ some (.mark mark) := by
  cases leaf with
  | word w => simp [tokens]
  | quoted first rest => simp [tokens]

end Leaf

section Reading

variable {groups : List OpenGroup} {ds : Definitions} {rest : List Token}

theorem read_open (name : String) (inside : List Token) :
    readDefinitions groups ds (.word name.toList :: .mark '=' :: .mark '\x7b' :: inside) =
      readDefinitions (⟨name, ds⟩ :: groups) [] inside := by
  rw [readDefinitions.eq_def]
  simp only
  split
  · rename_i hsplit
    simp [splitAtMark?] at hsplit
  · rename_i before after hsplit
    obtain ⟨rfl, rfl⟩ : before = [] ∧ after = .mark '\x7b' :: inside := by
      simpa [splitAtMark?, eq_comm] using hsplit
    simp [text_of_name]

theorem read_value (name : String) (leaf : Leaf) :
    readDefinitions groups ds ((Statement.value name leaf).tokens ++ rest) =
      (Statement.value name leaf).extend (ds.lookup name) >>= fun d =>
        readDefinitions groups (ds.insert name d) rest := by
  have htokens : (Statement.value name leaf).tokens ++ rest =
      .word name.toList :: .mark '=' :: (leaf.tokens ++ .mark ';' :: rest) := by
    simp [Statement.tokens]
  rw [htokens, readDefinitions.eq_def]
  simp only
  split
  · rename_i hsplit
    simp [splitAtMark?] at hsplit
  · rename_i before after hsplit
    obtain ⟨rfl, rfl⟩ : before = [] ∧ after = leaf.tokens ++ .mark ';' :: rest := by
      simpa [splitAtMark?, eq_comm] using hsplit
    rw [if_neg Leaf.head_not_mark]
    split
    · rename_i hend
      rw [split_at_mark Leaf.mark_not_mem] at hend
      cases hend
    · rename_i value rest' hend
      rw [split_at_mark Leaf.mark_not_mem] at hend
      cases hend
      cases hl : ds.lookup name <;>
        simp [Leaf.is_value, text_of_name, hl, Statement.extend, Leaf.text, bind, Except.bind]

theorem read_close (group : OpenGroup) :
    readDefinitions (group :: groups) ds (.mark '\x7d' :: .mark ';' :: rest) =
      group.around.addBody group.name ds >>= fun ds => readDefinitions groups ds rest := by
  rw [readDefinitions.eq_def]
  cases hb : group.around.addBody group.name ds <;> simp [hb, bind, Except.bind]

theorem add_body (name : String) (body : List Statement) :
    ((Statement.group name body).extend (ds.lookup name) >>= fun d => .ok (ds.insert name d)) =
      Statement.define body [] >>= fun inner => ds.addBody name inner := by
  rw [Statement.extend]
  cases Statement.define body [] with
  | error e => rfl
  | ok inner =>
    unfold Definitions.addBody
    cases ds.lookup name with
    | none => rfl
    | some d => cases d <;> rfl

end Reading

mutual

theorem read_statement : ∀ (s : Statement) (groups : List OpenGroup) (ds : Definitions)
    (rest : List Token), readDefinitions groups ds (s.tokens ++ rest) =
      s.extend (ds.lookup s.name) >>= fun d => readDefinitions groups (ds.insert s.name d) rest
  | .value name leaf, _, _, _ => read_value name leaf
  | .group name body, groups, ds, rest => by
    have hinner := read_statements body (⟨name, ds⟩ :: groups) []
      (.mark '\x7d' :: .mark ';' :: rest)
    have htokens : (Statement.group name body).tokens ++ rest = .word name.toList :: .mark '=' ::
        .mark '\x7b' :: (Statement.tokensOf body ++ .mark '\x7d' :: .mark ';' :: rest) := by
      simp [Statement.tokens]
    rw [htokens, read_open, hinner]
    simp only [read_close]
    rw [← bind_assoc, ← add_body name body, bind_assoc]
    rfl

/-- A run of statements is read as what they define, whatever follows them. -/
theorem read_statements : ∀ (ss : List Statement) (groups : List OpenGroup) (ds : Definitions)
    (rest : List Token), readDefinitions groups ds (Statement.tokensOf ss ++ rest) =
      Statement.define ss ds >>= fun ds => readDefinitions groups ds rest
  | [], _, _, _ => rfl
  | s :: ss, groups, ds, rest => by
    rw [Statement.tokensOf, List.append_assoc, read_statement s, Statement.define, bind_assoc]
    congr 1
    funext d
    exact read_statements ss groups _ rest

end

end FeatureTest.VersionDef
