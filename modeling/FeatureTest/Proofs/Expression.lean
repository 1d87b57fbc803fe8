import FeatureTest.Proofs.TokenLayout

/-!
Preprocessor expressions as their logical operators divide them: `!` binds tighter than `&&`, and
`&&` tighter than `||`. What stands between logical operators is true or not as the macros have it.
-/
namespace FeatureTest.Expression
open Text (isBlank isWordChar)

/-- The pieces of an expression, as far as logical operators go. -/
inductive Piece where
  /-- A name or a number. -/
  | word (text : List Char)
  | and
  | or
  | not
  | opening
  | closing
  /-- `?` or a comma, which bind looser than any logical operator. -/
  | loose (c : Char)
  | other (text : List Char)
  deriving DecidableEq

/-- Logical operators can be spelled as words, too. -/
def Piece.ofWord (w : List Char) : Piece :=
  if w = ['a', 'n', 'd'] then .and
  else if w = ['o', 'r'] then .or
  else if w = ['n', 'o', 't'] then .not
  else .word w

/-- What follows a character literal, past its opening quote. -/
def afterLiteral? : List Char → Option (List Char)
  | [] => none
  | '\'' :: cs => some cs
  | '\\' :: _ :: cs => afterLiteral? cs
  | _ :: cs => afterLiteral? cs

/-- The piece that a mark begins, and how many characters after it belong to it. A comment is no
piece. -/
def cutMark (c : Char) (cs : List Char) : Option Piece × Nat :=
  match c, cs with
  | '/', '/' :: _ => (none, (cs.takeWhile (· ≠ '\n')).length)
  | '/', '*' :: body =>
    match VersionDef.afterClose? body with
    | some rest => (none, cs.length - rest.length)
    | none => (some (.other ['/']), 0)
  | '\'', _ =>
    match afterLiteral? cs with
    | some rest =>
      (some (.other (c :: cs.take (cs.length - rest.length))), cs.length - rest.length)
    | none => (some (.other ['\'']), 0)
  | '&', '&' :: _ => (some .and, 1)
  | '|', '|' :: _ => (some .or, 1)
  | '!', _ => if cs.head? = some '=' then (some (.other ['!', '=']), 1) else (some .not, 0)
  | '(', _ => (some .opening, 0)
  | ')', _ => (some .closing, 0)
  | '?', _ => (some (.loose '?'), 0)
  | ',', _ => (some (.loose ','), 0)
  | _, _ => (some (.other [c]), 0)

/-- The piece that a character begins, and how many characters after it belong to it. A blank is no
piece. -/
def cut (c : Char) (cs : List Char) : Option Piece × Nat :=
  if isBlank c then (none, 0)
  else if isWordChar c then
    -- Only a number goes on past a quote, which then separates digits.
    let text := cs.takeWhile fun d => isWordChar d || (c.isDigit && d == '\'')
    (some (.ofWord (c :: text)), text.length)
  else cutMark c cs

/-- Cuts a text into pieces, after `skip` characters of one that is cut already. -/
def pieces (skip : Nat) : List Char → List Piece
  | [] => []
  | c :: cs =>
    match skip with
    | n + 1 => pieces n cs
    | 0 => (cut c cs).1.toList ++ pieces (cut c cs).2 cs

inductive Tree where
  | piece (p : Piece)
  /-- What stands in a pair of parentheses. -/
  | group (trees : List Tree)

/-- Pairs parentheses. What stands before the first unpaired closing one comes first, then what
stands between each of them and the next. -/
def nest : List Piece → Option (List Tree × List (List Tree))
  | [] => some ([], [])
  | p :: ps => do
    let (trees, outer) ← nest ps
    match p, outer with
    | .closing, _ => return ([], trees :: outer)
    | .opening, next :: outer => return (.group trees :: next, outer)
    | .opening, [] => none
    | _, _ => return (.piece p :: trees, outer)

def read? (text : List Char) : Option (List Tree) :=
  match nest (pieces 0 text) with
  | some (trees, []) => some trees
  | _ => none

namespace Tree

def isAnd : Tree → Bool
  | piece .and => true
  | _ => false

def isOr : Tree → Bool
  | piece .or => true
  | _ => false

def isLoose : Tree → Bool
  | piece (.loose _) => true
  | _ => false

/-- Names, numbers, groups and `!`: among these alone, `!` applies to all that comes after it. -/
def isPrimary : Tree → Bool
  | piece (.word _) | piece .not | group _ => true
  | _ => false

/-- An operator that binds looser than `&&`. -/
def isLoosening (t : Tree) : Bool := t.isOr || t.isLoose

end Tree

/-- What the macros are. -/
structure Macros where
  defined : List Char → Bool
  /-- Whether what stands between logical operators is true: a macro, a comparison, a call. -/
  truth : List Tree → Bool

/-- The name that is asked for by `defined`. -/
def definedName? : List Tree → Option (List Char)
  | [.piece (.word w), .piece (.word name)] | [.piece (.word w), .group [.piece (.word name)]] =>
    if w = ['d', 'e', 'f', 'i', 'n', 'e', 'd'] then some name else none
  | _ => none

/-- The value of what stands between `&&` and `||`. With each group comes the value that it has. -/
def operand? (m : Macros) : List (Tree × Option Bool) → Option Bool
  | [] => none
  | [(.group _, value)] => value
  | (.piece .not, _) :: rest =>
    if rest.all (·.1.isPrimary) then (operand? m rest).map (!·)
    else some (m.truth (.piece .not :: rest.map (·.1)))
  | ts => match definedName? (ts.map (·.1)) with
    | some name => some (m.defined name)
    | none => some (m.truth (ts.map (·.1)))

def conjunction? (m : Macros) (ts : List (Tree × Option Bool)) : Option Bool :=
  ((ts.splitOnP (·.1.isAnd)).mapM (operand? m)).map (·.all id)

def disjuncts? (m : Macros) (ts : List (Tree × Option Bool)) : Option (List Bool) :=
  (ts.splitOnP (·.1.isOr)).mapM (conjunction? m)

def disjunction? (m : Macros) (ts : List (Tree × Option Bool)) : Option Bool :=
  if ts.any (·.1.isLoose) then some (m.truth (ts.map (·.1)))
  else (disjuncts? m ts).map (·.any id)

mutual

def Tree.value? (m : Macros) : Tree → Option Bool
  | .piece _ => none
  | .group trees => disjunction? m (valued m trees)

def valued (m : Macros) : List Tree → List (Tree × Option Bool)
  | [] => []
  | t :: ts => (t, t.value? m) :: valued m ts

end

/-- The value of an expression; none where an operand or a parenthesis is missing. -/
def evaluate? (m : Macros) (text : List Char) : Option Bool := do
  disjunction? m (valued m (← read? text))

/-- Text in which nothing binds looser than `&&`, parentheses apart. -/
def Tight (text : List Char) : Prop := ∀ trees ∈ read? text, ∀ t ∈ trees, t.isLoosening = false

instance (text : List Char) : Decidable (Tight text) :=
  inferInstanceAs (Decidable (∀ trees ∈ read? text, ∀ t ∈ trees, t.isLoosening = false))

section Pieces

variable {c : Char} {cs rest : List Char}

theorem pieces_skip (xs : List Char) : pieces xs.length (xs ++ rest) = pieces 0 rest := by
  induction xs with
  | nil => rfl
  | cons c xs ih => exact ih

theorem pieces_blank (hc : isBlank c = true) : pieces 0 (c :: cs) = pieces 0 cs := by
  rw [pieces, cut, if_pos hc]
  rfl

theorem pieces_word {w : List Char} (hword : (c :: w).all isWordChar = true)
    (hdigit : c.isDigit = false) (hrest : ∀ d ∈ rest.head?, isWordChar d = false) :
    pieces 0 (c :: (w ++ rest)) = .ofWord (c :: w) :: pieces 0 rest := by
  obtain ⟨hc, hw⟩ := List.forall_mem_cons.mp (List.all_eq_true.mp hword)
  have htext : (w ++ rest).takeWhile (fun d => isWordChar d || (c.isDigit && d == '\'')) = w := by
    simp only [hdigit, Bool.false_and, Bool.or_false]
    rw [List.takeWhile_append_of_pos hw]
    cases rest with
    | nil => simp
    | cons d rest => simp [hrest d rfl]
  rw [pieces, cut, if_neg (by rw [Text.word_not_blank hc]; simp), if_pos hc, htext, pieces_skip]
  rfl

theorem pieces_mark (hb : isBlank c = false) (hw : isWordChar c = false) :
    pieces 0 (c :: cs) = (cutMark c cs).1.toList ++ pieces (cutMark c cs).2 cs := by
  rw [pieces, cut, if_neg (by simp [hb]), if_neg (by simp [hw])]

theorem pieces_and : pieces 0 ('&' :: '&' :: cs) = .and :: pieces 0 cs :=
  pieces_mark (by decide) (by decide)

theorem pieces_opening : pieces 0 ('(' :: cs) = .opening :: pieces 0 cs :=
  pieces_mark (by decide) (by decide)

theorem pieces_closing : pieces 0 (')' :: cs) = .closing :: pieces 0 cs :=
  pieces_mark (by decide) (by decide)

theorem pieces_not (h : cs.head? ≠ some '=') : pieces 0 ('!' :: cs) = .not :: pieces 0 cs := by
  have hcut : cutMark '!' cs = (some .not, 0) := if_neg h
  rw [pieces_mark (by decide) (by decide), hcut]
  rfl

end Pieces

section Values

variable {m : Macros} {xs ys : List (Tree × Option Bool)}

theorem valued_append (ts us : List Tree) : valued m (ts ++ us) = valued m ts ++ valued m us := by
  induction ts with
  | nil => rfl
  | cons t ts ih => rw [List.cons_append, valued, valued, ih, List.cons_append]

theorem valued_trees (ts : List Tree) : (valued m ts).map (·.1) = ts := by
  induction ts with
  | nil => rfl
  | cons t ts ih => rw [valued, List.map_cons, ih]

theorem conjunction_operand (h : ∀ x ∈ xs, x.1.isAnd = false) :
    conjunction? m xs = operand? m xs := by
  rw [conjunction?, List.splitOnP_eq_singleton h]
  cases h : operand? m xs <;> simp [h]

theorem conjunction_append {a b : Bool} {sep : Tree × Option Bool} (hsep : sep.1.isAnd = true)
    (ha : conjunction? m xs = some a) (hb : conjunction? m ys = some b) :
    conjunction? m (xs ++ sep :: ys) = some (a && b) := by
  obtain ⟨as, has, rfl⟩ := Option.map_eq_some_iff.mp ha
  obtain ⟨bs, hbs, rfl⟩ := Option.map_eq_some_iff.mp hb
  have hsplit : (xs ++ sep :: ys).splitOnP (·.1.isAnd) =
      xs.splitOnP (·.1.isAnd) ++ ys.splitOnP (·.1.isAnd) :=
    List.splitOnP_append_cons xs ys hsep
  rw [conjunction?, hsplit, List.mapM_append, has, hbs]
  simp

theorem split_append {α : Type} {p : α → Bool} {as bs first : List α} {later : List (List α)}
    (has : ∀ x ∈ as, p x = false) (hbs : bs.splitOnP p = first :: later) :
    (as ++ bs).splitOnP p = (as ++ first) :: later := by
  induction as with
  | nil => exact hbs
  | cons x as ih =>
    obtain ⟨hx, has⟩ := List.forall_mem_cons.mp has
    rw [List.cons_append, List.splitOnP_cons_eq_if_modifyHead, if_neg (by simp [hx]), ih has]
    rfl

/-- What is joined by `&&` goes to the first disjunct alone. -/
theorem disjuncts_append {a first : Bool} {later : List Bool} {sep : Tree × Option Bool}
    (hxs : ∀ x ∈ xs, x.1.isOr = false) (hsep : sep.1.isAnd = true) (hor : sep.1.isOr = false)
    (ha : conjunction? m xs = some a) (hys : disjuncts? m ys = some (first :: later)) :
    disjuncts? m (xs ++ sep :: ys) = some ((a && first) :: later) := by
  obtain ⟨y, rest, hsplit⟩ := List.exists_cons_of_ne_nil
    (List.splitOnP_ne_nil (fun x : Tree × Option Bool => x.1.isOr) ys)
  rw [disjuncts?, hsplit, List.mapM_cons] at hys
  obtain ⟨b, hy, hrest⟩ := Option.bind_eq_some_iff.mp hys
  obtain ⟨bs, hrest, hbs⟩ := Option.bind_eq_some_iff.mp hrest
  cases hbs
  have hprefix : ∀ x ∈ xs ++ [sep], x.1.isOr = false := by
    intro x hx
    rcases List.mem_append.mp hx with hx | hx
    · exact hxs x hx
    · rw [List.mem_singleton.mp hx]
      exact hor
  have hjoined : (xs ++ sep :: ys).splitOnP (·.1.isOr) = (xs ++ sep :: y) :: rest := by
    simpa using split_append hprefix hsplit
  rw [disjuncts?, hjoined, List.mapM_cons, conjunction_append hsep ha hy]
  simp [hrest]

theorem mem_valued {ts : List Tree} {x : Tree × Option Bool} (hx : x ∈ valued m ts) :
    x.1 ∈ ts := by
  rw [← valued_trees (m := m) ts]
  exact List.mem_map_of_mem hx

theorem not_loosening {t : Tree} : t.isLoosening = false ↔ t.isOr = false ∧ t.isLoose = false := by
  simp [Tree.isLoosening]

theorem disjunction_of_disjuncts {ts : List Tree} (h : ∀ t ∈ ts, t.isLoose = false) :
    disjunction? m (valued m ts) = (disjuncts? m (valued m ts)).map (·.any id) := by
  have hnone : (valued m ts).any (·.1.isLoose) = false := by
    rw [List.any_eq_false]
    intro x hx
    rw [h _ (mem_valued hx)]
    exact Bool.false_ne_true
  rw [disjunction?, hnone]
  rfl

/-- Where nothing binds looser than `&&`, there is one disjunct only. -/
theorem disjuncts_tight {ts : List Tree} (h : ∀ t ∈ ts, t.isLoosening = false) :
    disjuncts? m (valued m ts) = (conjunction? m (valued m ts)).map ([·]) := by
  have hone : (valued m ts).splitOnP (·.1.isOr) = [valued m ts] :=
    List.splitOnP_eq_singleton fun x hx => (not_loosening.mp (h _ (mem_valued hx))).1
  rw [disjuncts?, hone]
  cases h : conjunction? m (valued m ts) <;> simp [h]

end Values

end FeatureTest.Expression
