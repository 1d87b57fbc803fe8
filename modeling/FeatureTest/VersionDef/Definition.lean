import FeatureTest.VersionDef.Token

/-!
Definitions: `name = value;` and `name = { … };`, nested to any depth. A name may repeat with
bodies, which are collected in order.
-/
namespace FeatureTest.VersionDef

inductive Definition where
  | text (value : String)
  /-- One body for each time the name occurs, each sorted by name. -/
  | groups (bodies : List (List (String × Definition)))

/-- Definitions sorted by name, each name once. -/
abbrev Definitions := List (String × Definition)

inductive ParseError where
  | missing (mark : Char)
  | expected (mark : Char) (found : Option Token)
  | unexpected (found : Token)
  | multiTokenValue (name : String)
  | duplicateValue (name : String)
  /-- A name with a value and with a body. -/
  | mixed
  deriving DecidableEq

def Token.quotedText (t : Token) : String := "`" ++ String.ofList t.text ++ "`"

def ParseError.message : ParseError → String
  | missing mark => s!"missing `{mark}`"
  | expected mark found =>
    let found := match found with
      | some t => t.quotedText
      | none => "end of input"
    s!"expected `{mark}`, found {found}"
  | unexpected found => "unexpected " ++ found.quotedText
  | multiTokenValue name => s!"unquoted multi-token value for {name}"
  | duplicateValue name => s!"duplicate value for {name}"
  | mixed => "name used both as a value and a group"

namespace Definitions

/-- Adds a definition in its place, or replaces the one of the same name. -/
def insert (name : String) (d : Definition) : Definitions → Definitions
  | [] => [(name, d)]
  | (other, e) :: rest =>
    if name < other then (name, d) :: (other, e) :: rest
    else if name = other then (name, d) :: rest
    else (other, e) :: insert name d rest

/-- Adds one more body to a name. -/
def addBody (ds : Definitions) (name : String) (body : Definitions) :
    Except ParseError Definitions :=
  match ds.lookup name with
  | none => .ok (ds.insert name (.groups [body]))
  | some (.groups bodies) => .ok (ds.insert name (.groups (bodies ++ [body])))
  | some (.text _) => .error .mixed

end Definitions

/-- The tokens before and after the first occurrence of a mark. -/
def splitAtMark? (mark : Char) : List Token → Option (List Token × List Token)
  | [] => none
  | t :: ts =>
    if t = .mark mark then some ([], ts)
    else (splitAtMark? mark ts).map fun (before, after) => (t :: before, after)

theorem length_lt_of_splitAtMark? {mark : Char} {ts before after : List Token}
    (h : splitAtMark? mark ts = some (before, after)) : after.length < ts.length := by
  induction ts generalizing before with
  | nil => simp [splitAtMark?] at h
  | cons t ts ih =>
    simp only [splitAtMark?] at h
    split at h
    · cases h
      simp
    · obtain ⟨pair, hp, he⟩ := Option.map_eq_some_iff.1 h
      obtain ⟨b, a⟩ := pair
      cases he
      exact Nat.lt_succ_of_lt (ih hp)

def textOf (ts : List Token) : String := String.ofList (ts.flatMap Token.text)

/-- Whether tokens make a value: one token, or any number that start with a quote. -/
def isValue : List Token → Bool
  | [_] => true
  | .quoted _ :: _ | .mark '"' :: _ => true
  | _ => false

/-- A body being read: the name it will belong to, and the definitions around it so far. -/
structure OpenGroup where
  name : String
  around : Definitions

/-- Reads definitions into `ds`, inside the open groups. A name reaches up to the next equals sign
and a value up to the next semicolon, wherever those are. -/
def readDefinitions (groups : List OpenGroup) (ds : Definitions) (ts : List Token) :
    Except ParseError Definitions :=
  match ts with
  | .word w :: rest =>
    match named : splitAtMark? '=' rest with
    | none => .error (.missing '=')
    | some (before, after) =>
      have : after.length < rest.length := length_lt_of_splitAtMark? named
      let name := textOf (.word w :: before)
      if after.head? = some (.mark '\x7b') then
        readDefinitions (⟨name, ds⟩ :: groups) [] after.tail
      else
        match ended : splitAtMark? ';' after with
        | none => .error (.missing ';')
        | some (value, rest') =>
          have : rest'.length < after.length := length_lt_of_splitAtMark? ended
          if !isValue value then .error (.multiTokenValue name)
          else if (ds.lookup name).isSome then .error (.duplicateValue name)
          else readDefinitions groups (ds.insert name (.text (textOf value))) rest'
  | t :: rest =>
    match groups with
    | [] => .error (.unexpected t)
    | group :: outer =>
      if t ≠ .mark '\x7d' then .error (.expected '\x7d' (some t))
      else match rest with
        | .mark ';' :: rest =>
          match group.around.addBody group.name ds with
          | .ok ds => readDefinitions outer ds rest
          | .error e => .error e
        | _ => .error (.expected ';' rest.head?)
  | [] => if groups.isEmpty then .ok ds else .error (.expected '\x7d' none)
termination_by ts.length
decreasing_by
  · exact Nat.lt_succ_of_lt (Nat.lt_of_le_of_lt (List.tail_sublist after).length_le this)
  · exact Nat.lt_succ_of_lt (Nat.lt_trans ‹_› ‹_›)
  · exact Nat.lt_succ_of_lt (Nat.lt_succ_self _)

def parse (text : String) : Except ParseError Definitions :=
  readDefinitions [] [] (tokenize text)

end FeatureTest.VersionDef
