/-!
A preprocessor that knows conditional blocks and nothing else. Of a text it tells which tests it
looked at and which errors it met.
-/
namespace FeatureTest.Preprocessor

/-- A line, as far as conditional blocks depend on it. -/
inductive Directive where
  | ifTest (condition : String)
  | elifTest (condition : String)
  | elseGroup
  | endif
  | error
  /-- A line that is no directive. -/
  | text
  deriving DecidableEq

/-- Reads what follows the `#` and its indentation. -/
def Directive.ofBody? (body : List Char) : Option Directive :=
  if "if ".toList <+: body then some (.ifTest (String.ofList (body.drop 3)))
  else if "elif ".toList <+: body then some (.elifTest (String.ofList (body.drop 5)))
  else if body = "else".toList then some .elseGroup
  else if body = "endif".toList then some .endif
  else if "error ".toList <+: body then some .error
  else none

def Directive.ofLine? : List Char → Option Directive
  | '#' :: rest => Directive.ofBody? (rest.dropWhile (· == ' '))
  | _ => some .text

inductive Phase where
  /-- No test of the block has held so far. -/
  | seeking
  /-- The present group is read. -/
  | live
  /-- An earlier group was read, or the whole block is skipped. -/
  | spent
  deriving DecidableEq

/-- An open block. -/
structure Block where
  phase : Phase
  /-- Whether its `#else` has come. -/
  elseSeen : Bool

/-- Whether the lines inside all these blocks are read. -/
def isLive (blocks : List Block) : Bool := blocks.all (·.phase == .live)

/-- The block in its next group, which is read when no earlier one was and its test holds. -/
def Block.next? (block : Block) (holds elseSeen : Bool) : Option Block :=
  if block.elseSeen then none
  else match block.phase with
    | .seeking => some ⟨if holds then .live else .seeking, elseSeen⟩
    | .live | .spent => some ⟨.spent, elseSeen⟩

/-- The open blocks after a line, the innermost first. -/
def step (truth : String → Bool) (blocks : List Block) : Directive → Option (List Block)
  | .ifTest condition =>
    if isLive blocks then some (⟨if truth condition then .live else .seeking, false⟩ :: blocks)
    else some (⟨.spent, false⟩ :: blocks)
  | .elifTest condition =>
    match blocks with
    | [] => none
    | block :: outer => (block.next? (truth condition) false).map (· :: outer)
  | .elseGroup =>
    match blocks with
    | [] => none
    | block :: outer => (block.next? true true).map (· :: outer)
  | .endif =>
    match blocks with
    | [] => none
    | _ :: outer => some outer
  | .error | .text => some blocks

/-- What a run met, by line numbers. -/
structure Outcome where
  /-- Each `#if` line that was read. -/
  tested : List Nat
  /-- Each `#error` line that was read. -/
  errors : List Nat
  deriving DecidableEq

def Outcome.none : Outcome := ⟨[], []⟩

/-- What one line adds when it is read. -/
def Outcome.ofLine (number : Nat) : Directive → Outcome
  | .ifTest _ => ⟨[number], []⟩
  | .error => ⟨[], [number]⟩
  | .elifTest _ | .elseGroup | .endif | .text => .none

def Outcome.append (a b : Outcome) : Outcome := ⟨a.tested ++ b.tested, a.errors ++ b.errors⟩

instance : Append Outcome := ⟨Outcome.append⟩

@[simp] theorem append_tested (a b : Outcome) : (a ++ b).tested = a.tested ++ b.tested := rfl

@[simp] theorem append_errors (a b : Outcome) : (a ++ b).errors = a.errors ++ b.errors := rfl

theorem none_append (a : Outcome) : .none ++ a = a := rfl

theorem append_none (a : Outcome) : a ++ .none = a := by
  change Outcome.mk (a.tested ++ []) (a.errors ++ []) = a
  simp

theorem append_assoc (a b c : Outcome) : a ++ b ++ c = a ++ (b ++ c) := by
  change Outcome.mk (a.tested ++ b.tested ++ c.tested) (a.errors ++ b.errors ++ c.errors) = _
  rw [List.append_assoc, List.append_assoc]
  rfl

/-- Runs over lines of which the first has the given number. Every block must be closed. -/
def run (truth : String → Bool) (number : Nat) (blocks : List Block) :
    List Directive → Option Outcome
  | [] => if blocks.isEmpty then some .none else none
  | directive :: rest => do
    let next ← step truth blocks directive
    let later ← run truth (number + 1) next rest
    return (if isLive blocks then Outcome.ofLine number directive else .none) ++ later

/-- What two stretches of a run add can be added at once. -/
theorem map_append_map (a b : Outcome) (later : Option Outcome) :
    (later.map (b ++ ·)).map (a ++ ·) = later.map (a ++ b ++ ·) := by
  cases later with
  | none => rfl
  | some c => simp [append_assoc]

section Stepping

variable {truth : String → Bool} {blocks next : List Block} {directive : Directive}

@[simp] theorem is_live_nil : isLive [] = true := rfl

theorem run_dead (hd : isLive blocks = false) (hs : step truth blocks directive = some next)
    (number : Nat) (rest : List Directive) :
    run truth number blocks (directive :: rest) = run truth (number + 1) next rest := by
  simp only [run, hs, hd, Option.bind_eq_bind, Option.bind_some]
  cases run truth (number + 1) next rest <;> rfl

theorem run_live (hl : isLive blocks = true) (hs : step truth blocks directive = some next)
    (number : Nat) (rest : List Directive) :
    run truth number blocks (directive :: rest) =
      (run truth (number + 1) next rest).map (Outcome.ofLine number directive ++ ·) := by
  simp only [run, hs, hl, Option.bind_eq_bind, Option.bind_some]
  cases run truth (number + 1) next rest <;> rfl

/-- A line of which nothing is noted, in whatever blocks it stands. -/
theorem run_quiet {number : Nat} (hn : Outcome.ofLine number directive = .none)
    (hs : step truth blocks directive = some next) (rest : List Directive) :
    run truth number blocks (directive :: rest) = run truth (number + 1) next rest := by
  simp only [run, hs, hn, ite_self, Option.bind_eq_bind, Option.bind_some]
  cases run truth (number + 1) next rest <;> rfl

/-- Once a group of a block was read, no other one is. -/
theorem next_of_passed {phase : Phase} (hp : phase ≠ .seeking) (holds elseSeen : Bool) :
    Block.next? ⟨phase, false⟩ holds elseSeen = some ⟨.spent, elseSeen⟩ := by
  cases phase with
  | seeking => exact absurd rfl hp
  | live => rfl
  | spent => rfl

theorem elif_of_passed {phase : Phase} (hp : phase ≠ .seeking) (outer : List Block)
    (condition : String) :
    step truth (⟨phase, false⟩ :: outer) (.elifTest condition) =
      some (⟨.spent, false⟩ :: outer) := by
  simp [step, next_of_passed hp]

theorem else_of_passed {phase : Phase} (hp : phase ≠ .seeking) (outer : List Block) :
    step truth (⟨phase, false⟩ :: outer) .elseGroup = some (⟨.spent, true⟩ :: outer) := by
  simp [step, next_of_passed hp]

end Stepping

def preprocess (truth : String → Bool) (text : String) : Option Outcome := do
  run truth 0 [] (← (text.toList.splitOn '\n').mapM Directive.ofLine?)

end FeatureTest.Preprocessor
