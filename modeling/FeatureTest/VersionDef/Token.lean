import FeatureTest.Text.Blank
import FeatureTest.Text.WordChar

/-!
Tokens of version definitions: words, quoted strings and single other characters. Comments and the
generator's header line are dropped before the text is cut.
-/
namespace FeatureTest.VersionDef

inductive Token where
  | word (text : List Char)
  /-- A quoted string, without its quotes. -/
  | quoted (text : List Char)
  | mark (c : Char)
  deriving DecidableEq, Repr

def Token.text : Token → List Char
  | word w => w
  | quoted body => '"' :: body ++ ['"']
  | mark c => [c]

/-- Drops each `//` and what follows it on its line. -/
def dropLineComments (inside : Bool) : List Char → List Char
  | [] => []
  | '\n' :: cs => '\n' :: dropLineComments false cs
  | c :: cs =>
    if inside then dropLineComments true cs
    else match c, cs with
      | '/', '/' :: _ => dropLineComments true cs
      | _, _ => c :: dropLineComments false cs

/-- What follows the first `*/`. -/
def afterClose? : List Char → Option (List Char)
  | [] => none
  | '*' :: '/' :: cs => some cs
  | _ :: cs => afterClose? cs

theorem length_lt_of_afterClose? {cs rest : List Char} (h : afterClose? cs = some rest) :
    rest.length < cs.length := by
  induction cs using afterClose?.induct with
  | case1 => simp [afterClose?] at h
  | case2 cs =>
    simp only [afterClose?, Option.some.injEq] at h
    subst h
    simp only [List.length_cons]
    omega
  | case3 c cs hne ih =>
    rw [afterClose?.eq_3 c cs hne] at h
    have := ih h
    simp only [List.length_cons]
    omega

/-- Drops each `/*` with what follows it up to the next `*/`. Without one it is no comment. -/
def dropBlockComments : List Char → List Char
  | [] => []
  | '/' :: '*' :: cs =>
    match h : afterClose? cs with
    | some rest =>
      have : rest.length < cs.length := length_lt_of_afterClose? h
      dropBlockComments rest
    | none => '/' :: dropBlockComments ('*' :: cs)
  | c :: cs => c :: dropBlockComments cs
termination_by cs => cs.length
decreasing_by all_goals simp only [List.length_cons]; omega

def headerStart : List Char := "AutoGen Definitions".toList

/-- What follows the header line, up to and with the last semicolon on it. -/
def afterHeader? (cs : List Char) : Option (List Char) :=
  if headerStart.isPrefixOf cs then
    let line := (cs.drop headerStart.length).takeWhile (· ≠ '\n')
    if ';' ∈ line then
      some ((line.reverse.takeWhile (· ≠ ';')).reverse ++
        (cs.drop headerStart.length).dropWhile (· ≠ '\n'))
    else none
  else none

/-- Drops header lines. What a dropped header leaves behind is not looked at again for blanks. -/
def dropHeaders (fuel : Nat) : List Char → List Char
  | [] => []
  | c :: cs =>
    match fuel with
    | 0 => c :: cs
    | fuel + 1 =>
      match afterHeader? (c :: cs) with
      | some rest => dropHeaders fuel rest
      | none => c :: dropHeaders fuel cs

/-- The text that is cut into tokens. -/
def clean (cs : List Char) : List Char :=
  let text := dropBlockComments (dropLineComments false cs)
  dropHeaders text.length text

/-- Cuts clean text at blanks and around marks. -/
def scan : List Char → List Token
  | [] => []
  | c :: cs =>
    if Text.isBlank c then scan cs
    else if Text.isWordChar c then
      .word (c :: cs.takeWhile Text.isWordChar) :: scan (cs.dropWhile Text.isWordChar)
    else if c = '"' then
      match h : cs.dropWhile (· ≠ '"') with
      | _ :: rest =>
        have : rest.length < cs.length := by
          have := (List.dropWhile_sublist (· ≠ '"') : (cs.dropWhile (· ≠ '"')).Sublist cs).length_le
          rw [h, List.length_cons] at this
          omega
        .quoted (cs.takeWhile (· ≠ '"')) :: scan rest
      | [] => .mark c :: scan cs
    else .mark c :: scan cs
termination_by cs => cs.length
decreasing_by
  all_goals simp only [List.length_cons]
  · omega
  · exact Nat.lt_succ_of_le (List.dropWhile_sublist _).length_le
  · omega
  · omega
  · omega

def tokenize (text : String) : List Token := scan (clean text.toList)

end FeatureTest.VersionDef
