import FeatureTest.Json
import FeatureTest.Log.Filter
import FeatureTest.Text.Quoted

/-!
Log lines: how an event is written down, in plain text or in the colors of a terminal.
-/
namespace FeatureTest.Log

inductive Format where
  /-- The spans with their fields before the message. -/
  | full
  /-- The names of the spans before the message, and their fields after it. -/
  | compact
  | json
  deriving DecidableEq, Repr

/-- How text stands out on a terminal. -/
inductive Style where
  | color (level : Level)
  | bold
  | dimmed
  | italic

namespace Style

def code : Style → String
  | color .error => "31"
  | color .warn => "33"
  | color .info => "32"
  | color .debug => "34"
  | color .trace => "35"
  | bold => "1"
  | dimmed => "2"
  | italic => "3"

def paint (style : Style) (colored : Bool) (text : String) : String :=
  if colored then s!"\x1b[{style.code}m" ++ text ++ "\x1b[0m" else text

end Style

/-- The level's name, five columns wide. -/
def Level.label : Level → String
  | error => "ERROR"
  | warn => " WARN"
  | info => " INFO"
  | debug => "DEBUG"
  | trace => "TRACE"

namespace FieldValue

def text : FieldValue → String
  | plain t => t
  | quoted t => Text.quoted t
  | list ts => "[" ++ ", ".intercalate (ts.map Text.quoted) ++ "]"
  | natural n => toString n
  | flag b => if b then "true" else "false"

def json : FieldValue → Json
  | plain t | quoted t => .text t
  | list ts => .text (list ts).text
  | natural n => .natural n
  | flag b => .bool b

end FieldValue

/-- A message in which no character can command a terminal. -/
def shownMessage (message : String) : String :=
  String.ofList (message.toList.flatMap fun c =>
    let n := c.toNat
    if n = 7 ∨ n = 8 ∨ n = 12 ∨ n = 27 ∨ n = 127 then ['\\', 'x'] ++ Json.twoDigits n
    else if 0x80 ≤ n ∧ n < 0xA0 then Text.numberEscape c
    else [c])

def Field.text (colored : Bool) (f : Field) : String :=
  Style.italic.paint colored f.name ++ Style.dimmed.paint colored "=" ++ f.value.text

def fieldsText (colored : Bool) (fields : List Field) : String :=
  " ".intercalate (fields.map (·.text colored))

namespace Span

/-- The span with its fields in braces, before what lies in it. -/
def heading (colored : Bool) (s : Span) : String :=
  let bold := Style.bold.paint colored
  bold s.name ++
    (if s.fields.isEmpty then ""
      else bold "\x7b" ++ fieldsText colored s.fields ++ bold "\x7d") ++
    Style.dimmed.paint colored ":"

def shortHeading (colored : Bool) (s : Span) : String := Style.bold.paint colored s.name ++ ":"

def json (s : Span) : Json :=
  .object ((s.fields.map fun f => (f.name, f.value.json)) ++ [("name", .text s.name)])

end Span

namespace Event

/-- The message and the fields, one blank apart. -/
def body (colored : Bool) (e : Event) : String :=
  " ".intercalate (shownMessage e.message :: e.fields.map (·.text colored))

/-- What comes before the message on account of the spans. -/
def spanText (heading : Span → String) (e : Event) : String :=
  if e.spans.isEmpty then "" else String.join (e.spans.map heading) ++ " "

def levelText (colored : Bool) (e : Event) : String :=
  (Style.color e.level).paint colored e.level.label ++ " "

def json (e : Event) : Json :=
  .object (
    [("level", .text e.level.name.toUpper),
      ("fields", .object (("message", Json.text e.message) ::
        e.fields.map fun f => (f.name, f.value.json)))] ++
    (e.spans.getLast?.map fun s => ("span", s.json)).toList ++
    (if e.spans.isEmpty then [] else [("spans", .list (e.spans.map (·.json)))]))

def line (format : Format) (colored : Bool) (e : Event) : String :=
  match format with
  | .full => e.levelText colored ++ e.spanText (·.heading colored) ++ e.body colored
  | .compact =>
    e.levelText colored ++ e.spanText (·.shortHeading colored) ++ e.body colored ++
      String.join ((e.spans.filter (!·.fields.isEmpty)).map fun s =>
        " " ++ Style.dimmed.paint colored (fieldsText colored s.fields))
  | .json => e.json.compact

end Event

/-- How and where events are written down. -/
structure Logger where
  filter : Filter
  format : Format := .full
  colored : Bool := false
  /-- The file that takes the lines; without one they are diagnostics. -/
  file : Option String := none

/-- The line for an event, if it passes the filter. Spans that do not pass are left out. -/
def Logger.line? (logger : Logger) (e : Event) : Option String :=
  if logger.filter.allows e then
    let e := { e with spans := logger.filter.keptSpans e.spans }
    some (e.line logger.format logger.colored ++ "\n")
  else none

end FeatureTest.Log
