import FeatureTest.Log.Event
import FeatureTest.Document
import FeatureTest.Text.Blank
import FeatureTest.Text.WordChar

/-!
Log filters: a list of directives, each of which sets a threshold for some targets or for all that
lies in some spans.
-/
namespace FeatureTest.Log

structure Directive where
  /-- What the name of a target must start with. -/
  target : Option String := none
  /-- The name of a span, inside which the threshold holds. -/
  span : Option String := none
  /-- Fields that the span must have. -/
  fields : List String := []
  threshold : Threshold
  deriving DecidableEq, Repr

namespace Threshold

/-- A threshold by name in any case, or by number. -/
def ofText? (cs : List Char) : Option Threshold :=
  let digits := if cs.head? == some '+' then cs.tail else cs
  match Scalar.numeral? 10 digits with
  | some 0 => some none
  | some n => (Level.all[n - 1]?).map some
  | none =>
    let name := String.ofList (cs.map Char.toLower)
    if name = "off" then some none
    else (Level.all.find? (·.name == name)).map some

end Threshold

namespace Directive

def isStart (c : Char) : Bool := c == '-' || c == ':' || c == '_' || c == '[' || Text.isWordChar c

/-- What stands after the target and the span. Without a level everything passes. -/
def threshold? : List Char → Option Threshold
  | [] | ['='] => some (some .trace)
  | '=' :: level => Threshold.ofText? level
  | _ => none

/-- The names between commas; none may be empty. -/
def fieldNames? (cs : List Char) : Option (List String) :=
  let names := cs.splitOn ','
  if names.any (·.isEmpty) then none else some (names.map String.ofList)

/-- A span between brackets, its fields between braces, and what follows. -/
def span? (cs : List Char) : Option (Option String × List String × List Char) :=
  let isStop (c : Char) : Bool := c == ']' || c == '\x7b'
  let name := cs.takeWhile (!isStop ·)
  match cs.dropWhile (!isStop ·) with
  | ']' :: rest => some (some (String.ofList name), [], rest)
  | '\x7b' :: rest => do
    let fields ← fieldNames? (rest.takeWhile (· ≠ '\x7d'))
    match rest.dropWhile (· ≠ '\x7d') with
    | '\x7d' :: ']' :: rest =>
      return (if name.isEmpty then none else some (String.ofList name), fields, rest)
    | _ => none
  | _ => none

/-- Reads one directive. A bare word is a level if it can be one, and a target otherwise. -/
def ofText? (text : List Char) : Option Directive := do
  let cs := Text.trim text
  if !(cs.head?.any isStart) then failure
  let isStop (c : Char) : Bool := c == '=' || c == '['
  let head := cs.takeWhile (!isStop ·)
  let target := if head.isEmpty then none else some (String.ofList head)
  match cs.dropWhile (!isStop ·) with
  | [] => match Threshold.ofText? head with
    | some threshold => return { threshold }
    | none => return { target, threshold := some .trace }
  | '[' :: rest =>
    let (span, fields, rest) ← span? rest
    return { target, span, fields, threshold := ← threshold? rest }
  | level => return { target, threshold := ← threshold? level }

def coversTarget (d : Directive) (target : Target) : Bool :=
  d.target.all (target.name.startsWith ·)

/-- Whether the directive holds inside spans only. -/
def isDynamic (d : Directive) : Bool := d.span.isSome || !d.fields.isEmpty

def coversSpan (d : Directive) (span : Span) : Bool :=
  d.isDynamic && d.coversTarget span.target && d.span.all (· == span.name) &&
    d.fields.all (span.fields.map (·.name)).contains

/-- A longer target says more. -/
def detail (d : Directive) : Nat :=
  match d.target with
  | some t => t.utf8ByteSize + 1
  | none => 0

end Directive

structure Filter where
  directives : List Directive

namespace Filter

/-- Reads directives between commas. None at all let errors through. -/
def ofText? (text : String) : Option Filter := do
  let directives ← ((text.toList.splitOn ',').filter (· ≠ [])).mapM Directive.ofText?
  return ⟨if directives.isEmpty then [{ threshold := some .error }] else directives⟩

/-- The threshold of a target: of the directives that say most about it, the last counts. -/
def threshold (filter : Filter) (target : Target) : Threshold :=
  let covering := filter.directives.filter fun d => !d.isDynamic && d.coversTarget target
  let best := covering.foldl (fun best d =>
    match best with
    | some (b : Directive) => if d.detail < b.detail then some b else some d
    | none => some d) none
  match best with
  | some d => d.threshold
  | none => none

/-- Whether something passes on account of the spans around it. -/
def allowsWithin (filter : Filter) (spans : List Span) (level : Level) : Bool :=
  spans.any fun span => filter.directives.any fun d =>
    d.coversSpan span && d.threshold.allows level

/-- The spans that are kept, of some from the outside in. -/
def keptSpans (filter : Filter) (spans : List Span) : List Span :=
  spans.filter fun span =>
    filter.directives.any (·.coversSpan span) || (filter.threshold span.target).allows Span.level

def allows (filter : Filter) (event : Event) : Bool :=
  filter.allowsWithin (filter.keptSpans event.spans) event.level ||
    (filter.threshold event.target).allows event.level

/-- The filter for a threshold that was chosen for the program's own targets. -/
def ofThreshold (threshold : Threshold) : Filter where
  directives := { threshold := some .warn } ::
    Target.chosen.map fun t => { target := some t.name, threshold }

end Filter
end FeatureTest.Log
