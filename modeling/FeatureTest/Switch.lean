import FeatureTest.Violation

/-!
Compiler switches and the macros that announce them. A test cannot ask the preprocessor which
switches were passed, so whoever passes a switch also defines its presence macro.
-/
namespace FeatureTest

/-- Letters, digits and the underscore, in ASCII. -/
def isIdentifierChar (c : Char) : Bool := c.isAlphanum || c == '_'

namespace Switch

/-- The marks that a presence macro writes as an underscore. -/
def isMark (c : Char) : Bool := c == '-' || c == '/' || c == ':'

/-- The presence macro's name. A switch `/X-` turns `/X` off and is announced as `NO`. -/
def presenceName (spelling : List Char) : List Char :=
  let raw :=
    if spelling.head? = some '/' ∧ spelling.getLast? = some '-' then
      "HASOPT_NO".toList ++ spelling.dropLast
    else "HASOPT".toList ++ spelling
  raw.map fun c => if isMark c then '_' else c

end Switch

/-- The macro that announces a switch, where the switch has a nameable one. -/
def presenceMacro (spelling : String) : Except Violation String :=
  let name := Switch.presenceName spelling.toList
  if name.all isIdentifierChar then .ok (String.ofList name)
  else .error (.invalidOption spelling (.notIdentifier (String.ofList name)))

/-- A compiler switch with its presence macro. -/
structure Switch where
  spelling : String
  identifier : String
  announced : presenceMacro spelling = .ok identifier

namespace Switch

instance : DecidableEq Switch := fun a b =>
  if h : a.spelling = b.spelling ∧ a.identifier = b.identifier then
    .isTrue (by cases a; cases b; simp_all)
  else .isFalse (by rintro rfl; exact h ⟨rfl, rfl⟩)

def ofSpelling (spelling : String) : Except Violation Switch :=
  match announced : presenceMacro spelling with
  | .ok identifier => .ok ⟨spelling, identifier, announced⟩
  | .error violation => .error violation

theorem spelling_of_ofSpelling {spelling : String} {s : Switch}
    (h : ofSpelling spelling = .ok s) : s.spelling = spelling := by
  unfold ofSpelling at h
  split at h
  · cases h; rfl
  · cases h

/-- The argument that defines the presence macro. -/
def define (s : Switch) : String := s!"-D{s.identifier}=1"

/-- The spelling that turns a switch off: `-fX` by `-fno-X`, and `/X` by `/X-`. -/
def negate (spelling : String) : Except Violation String :=
  match spelling.toList with
  | '-' :: 'f' :: rest =>
    if ['n', 'o', '-'] <+: rest then .error (.invalidOption spelling .alreadyNegated)
    else .ok (String.ofList ("-fno-".toList ++ rest))
  | '/' :: rest =>
    if rest.getLast? = some '-' then .error (.invalidOption spelling .alreadyNegated)
    else .ok (String.ofList ('/' :: rest ++ ['-']))
  | _ => .error (.invalidOption spelling .notNegatable)

end Switch

/-- A switch together with the one that turns it off. When neither is passed, the compiler's
default decides. -/
structure Toggle where
  enable : Switch
  disable : Switch
  negated : Switch.negate enable.spelling = .ok disable.spelling

namespace Toggle

instance : DecidableEq Toggle := fun a b =>
  if h : a.enable = b.enable ∧ a.disable = b.disable then
    .isTrue (by cases a; cases b; simp_all)
  else .isFalse (by rintro rfl; exact h ⟨rfl, rfl⟩)

def ofSpelling (spelling : String) : Except Violation Toggle :=
  match negated : Switch.negate spelling with
  | .error violation => .error violation
  | .ok off =>
    match enable : Switch.ofSpelling spelling with
    | .error violation => .error violation
    | .ok on =>
      match disable : Switch.ofSpelling off with
      | .error violation => .error violation
      | .ok off' => .ok ⟨on, off', by
          rw [Switch.spelling_of_ofSpelling enable, Switch.spelling_of_ofSpelling disable]
          exact negated⟩

end Toggle
end FeatureTest
