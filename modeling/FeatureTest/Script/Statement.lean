import FeatureTest.Script.Word

/-!
Shell scripts as statements: the part of the language that a stand-in for a compiler needs.
-/
namespace FeatureTest.Script

inductive Target where
  | descriptor (number : Nat)
  | file (path : Word)
  deriving DecidableEq, Repr

/-- Where what goes to `source` goes instead. -/
structure Redirection where
  source : Nat
  target : Target
  deriving DecidableEq, Repr

inductive Token where
  | word (word : Word)
  | redirection (redirection : Redirection)
  /-- The end of a statement. -/
  | break
  /-- The end of an arm. -/
  | armEnd
  | bar
  | and
  | or
  | opening
  | closing
  deriving DecidableEq, Repr

inductive Statement where
  /-- A command, or values for names; `line` is where it stands in its script. -/
  | simple (line : Nat) (assignments : List (List Char × Word)) (words : List Word)
  | redirected (statement : Statement) (redirections : List Redirection)
  /-- What happens inside a shell of its own stays there. -/
  | group (own : Bool) (body : List Statement)
  /-- Runs its body for every word, or for every argument. -/
  | each (name : List Char) (words : Option (List Word)) (body : List Statement)
  /-- Runs the body of the first arm that has a pattern for the word. -/
  | choose (word : Word) (arms : List (List Word × List Statement))
  | branch (condition body otherwise : List Statement)
  /-- Runs its body as long as the condition holds, or fails. -/
  | loop (holds : Bool) (condition body : List Statement)
  | not (statement : Statement)
  /-- Runs the second one if the first has succeeded, or has failed. -/
  | next (succeeded : Bool) (first second : Statement)

/-! ### Tokens -/

/-- A redirection's operator has been read; this is where it leads. -/
def target? (cs : List Char) : Option (Target × List Char) :=
  match cs with
  | '&' :: c :: rest => if c.isDigit then some (.descriptor (c.toNat - '0'.toNat), rest) else none
  | _ => do
    let cs := cs.dropWhile fun c => c == ' ' || c == '\t'
    let (path, rest) ← readWord false [] (cs.length + 1) cs
    if path.isEmpty then none else return (.file path, rest)

def redirection? (source : Nat) (cs : List Char) : Option (Option Token × List Char) := do
  let (target, rest) ← target? (match cs with
    | '>' :: '>' :: rest | '>' :: rest => rest
    | _ => cs.tail)
  return (some (.redirection ⟨source, target⟩), rest)

/-- Reads one token, or passes a blank or a comment. -/
def token? (cs : List Char) : Option (Option Token × List Char) :=
  match cs with
  | [] => none
  | ' ' :: rest | '\t' :: rest => some (none, rest)
  | '\\' :: '\n' :: rest => some (none, rest)
  | '#' :: rest => some (none, rest.dropWhile (· ≠ '\n'))
  | '\n' :: rest => some (some .break, rest)
  | ';' :: ';' :: rest => some (some .armEnd, rest)
  | ';' :: rest => some (some .break, rest)
  | '|' :: '|' :: rest => some (some .or, rest)
  | '|' :: rest => some (some .bar, rest)
  | '&' :: '&' :: rest => some (some .and, rest)
  | '(' :: rest => some (some .opening, rest)
  | ')' :: rest => some (some .closing, rest)
  | '<' :: '<' :: _ | '&' :: _ => none
  | '<' :: _ => redirection? 0 cs
  | '>' :: _ => redirection? 1 cs
  | c :: '>' :: _ =>
    if c.isDigit then redirection? (c.toNat - '0'.toNat) cs.tail else wordToken
  | _ => wordToken
where
  wordToken : Option (Option Token × List Char) := do
    let (word, rest) ← readWord false [] (cs.length + 1) cs
    if word.isEmpty then none else return (some (.word word), rest)

/-- The tokens of a text that starts on a line, each with its line. -/
def tokens? (line : Nat) : Nat → List Char → Option (List (Nat × Token))
  | 0, _ => none
  | fuel + 1, cs => do
    if cs.isEmpty then return []
    let (token, rest) ← token? cs
    let next := line + ((cs.take (cs.length - rest.length)).filter (· == '\n')).length
    return (token.map fun t => (line, t)).toList ++ (← tokens? next fuel rest)

/-! ### Statements -/

/-- Reads from the front of some tokens, or fails. -/
abbrev Read := StateT (List (Nat × Token)) Option

namespace Read

def fail {α : Type} : Read α := fun _ => none

def peek : Read (Option Token) := return (← get).head?.map (·.2)

def line : Read Nat := return ((← get).head?.map (·.1)).getD 0

def skip : Read Unit := modify List.tail

/-- Passes a token if it comes next, and tells whether it did. -/
def passes (t : Token) : Read Bool := do
  if (← peek) = some t then
    skip
    return true
  else return false

def expect (t : Token) : Read Unit := do
  if !(← passes t) then fail

/-- A word that means what it says, such as `done`. -/
def reserved (text : String) : Token := .word (Word.ofText text)

/-- The words that no command can start with. -/
def endings : List Token := ["then", "else", "elif", "fi", "do", "done", "esac", "\x7d"].map reserved

def breaks : Read Unit := modify (·.dropWhile (·.2 == .break))

def wordsFrom : List (Nat × Token) → List Word
  | (_, .word w) :: rest => w :: wordsFrom rest
  | _ => []

/-- The words that come next. -/
def words : Read (List Word) := do
  let ws := wordsFrom (← get)
  modify (·.drop ws.length)
  return ws

/-- The redirections that come next. -/
def redirections : Nat → Read (List Redirection)
  | 0 => return []
  | fuel + 1 => do
    match ← peek with
    | some (.redirection r) =>
      skip
      return r :: (← redirections fuel)
    | _ => return []

/-- The patterns of an arm, up to its closing parenthesis. -/
def patterns : Nat → Read (List Word)
  | 0 => fail
  | fuel + 1 => do
    match ← peek with
    | some (.word w) =>
      skip
      if ← passes .bar then return w :: (← patterns fuel)
      else
        expect .closing
        return [w]
    | _ => fail

/-- Words and redirections up to the end of a simple statement. -/
def simple (ws : List Word) (rs : List Redirection) : Nat → Read (List Word × List Redirection)
  | 0 => fail
  | fuel + 1 => do
    match ← peek with
    | some (.word w) =>
      skip
      simple (ws ++ [w]) rs fuel
    | some (.redirection r) =>
      skip
      simple ws (rs ++ [r]) fuel
    | _ => if ws.isEmpty && rs.isEmpty then fail else return (ws, rs)

/-- The values for names that stand before a command. -/
def splitAssignments : List Word → List (List Char × Word) × List Word
  | [] => ([], [])
  | w :: ws =>
    match w.assignment? with
    | some a => ((splitAssignments ws).map (a :: ·) id)
    | none => ([], w :: ws)

/-- A statement and the redirections that follow it. -/
def redirected (fuel : Nat) (s : Statement) : Read Statement := do
  let rs ← redirections fuel
  return if rs.isEmpty then s else .redirected s rs

/-- Some statements, but not none, and the token after them. -/
def closed (last : Token) (body : Token → Read (List Statement)) : Read (List Statement) := do
  let ss ← body last
  if ss.isEmpty then fail
  expect last
  return ss

mutual

/-- Statements up to one of some tokens, or the end. -/
def statements (last : List Token) : Nat → Read (List Statement)
  | 0 => fail
  | fuel + 1 => do
    breaks
    match ← peek with
    | none => return []
    | some t =>
      if last.contains t then return []
      let first ← chain fuel
      return first :: (← statements last fuel)

/-- Statements that hang on how the one before them ended. -/
def chain : Nat → Read Statement
  | 0 => fail
  | fuel + 1 => do links (← negated fuel) fuel

def links (first : Statement) : Nat → Read Statement
  | 0 => fail
  | fuel + 1 => do
    if ← passes .and then
      breaks
      links (.next true first (← negated fuel)) fuel
    else if ← passes .or then
      breaks
      links (.next false first (← negated fuel)) fuel
    else return first

def negated : Nat → Read Statement
  | 0 => fail
  | fuel + 1 => do
    if ← passes (reserved "!") then return .not (← negated fuel) else statement fuel

def statement : Nat → Read Statement
  | 0 => fail
  | fuel + 1 => do
    match ← peek with
    | none => fail
    | some t =>
      if endings.contains t then fail
      else if t = reserved "for" then
        skip
        redirected fuel (← loopOverWords fuel)
      else if t = reserved "case" then
        skip
        let some (.word w) ← peek | fail
        skip
        breaks
        expect (reserved "in")
        redirected fuel (.choose w (← arms fuel))
      else if t = reserved "if" then
        skip
        redirected fuel (← branches fuel)
      else if t = reserved "while" || t = reserved "until" then
        skip
        let condition ← closed (reserved "do") (statements [·] fuel)
        let body ← closed (reserved "done") (statements [·] fuel)
        redirected fuel (.loop (t = reserved "while") condition body)
      else if t = reserved "\x7b" then
        skip
        redirected fuel (.group false (← closed (reserved "\x7d") (statements [·] fuel)))
      else if t = .opening then
        skip
        redirected fuel (.group true (← closed .closing (statements [·] fuel)))
      else
        let line ← line
        let (ws, rs) ← simple [] [] (fuel + 1)
        let (assignments, ws) := splitAssignments ws
        let s := Statement.simple line assignments ws
        return if rs.isEmpty then s else .redirected s rs

def loopOverWords : Nat → Read Statement
  | 0 => fail
  | fuel + 1 => do
    let some (.word w) ← peek | fail
    let some name := w.plainText? | fail
    skip
    let items ← do if ← passes (reserved "in") then some <$> words else pure none
    breaks
    expect (reserved "do")
    return .each name items (← closed (reserved "done") (statements [·] fuel))

/-- A condition, its body, and what is to be done otherwise. -/
def branches : Nat → Read Statement
  | 0 => fail
  | fuel + 1 => do
    let condition ← closed (reserved "then") (statements [·] fuel)
    let first ← statements [reserved "elif", reserved "else", reserved "fi"] fuel
    if first.isEmpty then fail
    if ← passes (reserved "elif") then return .branch condition first [← branches fuel]
    else if ← passes (reserved "else") then
      return .branch condition first (← closed (reserved "fi") (statements [·] fuel))
    else
      expect (reserved "fi")
      return .branch condition first []

/-- The arms of a choice, and the word that ends them. -/
def arms : Nat → Read (List (List Word × List Statement))
  | 0 => fail
  | fuel + 1 => do
    breaks
    if ← passes (reserved "esac") then return []
    discard (passes .opening)
    let ps ← patterns (fuel + 1)
    let body ← statements [.armEnd, reserved "esac"] fuel
    discard (passes .armEnd)
    return (ps, body) :: (← arms fuel)

end

end Read

/-- Reads a script. -/
def statements? (text : String) : Option (List Statement) := do
  let ts ← tokens? 1 (text.length + 1) text.toList
  let (ss, rest) ← (Read.statements [] (8 * ts.length + 8)).run ts
  if rest.isEmpty then return ss else none

end FeatureTest.Script
