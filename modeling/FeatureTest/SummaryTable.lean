import FeatureTest.Lint

/-!
The summary table in wiki markup: one row for each described value, marked with its standard.
-/
namespace FeatureTest

inductive TableError where
  | unsupportedKind (kind : Kind)
  | timeline (error : TimelineError)
  deriving DecidableEq

def TableError.message : TableError → String
  | unsupportedKind kind => s!"{kind.name} tables are not supported"
  | timeline e => e.message

/-- A described row as it is shown. -/
structure TableRow where
  row : HistoryRow
  /-- Its papers, after those of the undescribed rows before it. -/
  papers : List String
  /-- The standard it is marked with. -/
  mark : String

structure RenderedTable where
  text : String
  warnings : List Warning
  /-- Features with at least one described row. -/
  featureCount : Nat

namespace SummaryTable

/-- Names of more bytes than this are broken in two. -/
def nameLimit : Nat := 30

/-- The byte offset past the first underscore that starts in a range of byte offsets. -/
def underscoreIn (first last : Nat) : Nat → List Char → Option Nat
  | _, [] => none
  | offset, c :: cs =>
    if c == '_' && first ≤ offset && offset < last then some (offset + 1)
    else underscoreIn first last (offset + c.utf8Size) cs

/-- Where to break a long name: past an underscore near its middle, else past one farther out. -/
def breakPoint (name : String) : Option Nat :=
  (underscoreIn 15 25 0 name.toList).orElse fun _ => underscoreIn 10 30 0 name.toList

/-- The characters that lie within the first `bytes` bytes, and the others. -/
def splitAtByte : Nat → List Char → List Char × List Char
  | 0, cs => ([], cs)
  | _, [] => ([], [])
  | bytes, c :: cs =>
    let (before, after) := splitAtByte (bytes - c.utf8Size) cs
    (c :: before, after)

def markup (name body : String) : String := "\x7b\x7b" ++ name ++ body ++ "\x7d\x7d"

def nameCell (name : String) : String :=
  if name.utf8ByteSize ≤ nameLimit then markup "tt|" name ++ " |"
  else
    let (before, after) := splitAtByte ((breakPoint name).getD 0) name.toList
    markup "tt|1=" (String.ofList before ++ markup "br" "" ++ String.ofList after) ++ " |"

def headerCells (headers : List String) : String :=
  " ".intercalate (headers.map (markup "header|"))

/-- Described rows, each with the papers recorded since the one before it. -/
def withPapers (pending : List String) : List HistoryRow → List (HistoryRow × List String)
  | [] => []
  | row :: rows =>
    if row.description.isSome then (row, pending ++ row.papers) :: withPapers [] rows
    else withPapers (pending ++ row.papers) rows

/-- The rows a feature contributes, with the warnings about them. -/
def rowsOf (feature : Feature) (ladder : Ladder) :
    Except TimelineError (List TableRow × List Warning) := do
  let described := withPapers [] feature.rows
  let timeline ← Timeline.ofItems feature.name (described.map (·.1.dated)) ladder
  let rows := (described.zip timeline.assignments).map fun ((row, papers), a) =>
    { row, papers, mark := (ladder.standard a.rung).switchName }
  return (rows, timeline.warnings)

/-- How a feature's rows stand in the table. -/
structure Layout where
  feature : Feature
  /-- The number of rows. -/
  height : Nat
  /-- No row has headers of its own, so that long ones are written once. -/
  sharedHeaders : Bool

namespace Layout

def ofRows (feature : Feature) (rows : List TableRow) : Layout where
  feature
  height := rows.length
  sharedHeaders := rows.length > 1 && rows.all (·.row.headers.isNone)

/-- What starts a row: the first one carries the name, which spans them all. -/
def rowStart (layout : Layout) (isFirst : Bool) : String :=
  if isFirst then
    let name := layout.feature.name
    let id := if name.startsWith "__" then (name.drop 2).toString else name
    s!"|- id=\"{id}\"\n" ++
      (if layout.height > 1 then s!"| rowspan=\"{layout.height}\" | " else "| ") ++ nameCell name
  else "|-\n"

/-- The header cell, if the kind has one and no earlier row spans this one. -/
def headerCell (layout : Layout) (isFirst : Bool) (row : HistoryRow) : String :=
  if layout.feature.kind = .library then
    let headers := (row.headers.orElse fun _ => layout.feature.headers).getD []
    if headers.length > 2 && layout.sharedHeaders then
      if isFirst then s!" || rowspan=\"{layout.height}\" | " ++ headerCells headers else ""
    else " || " ++ headerCells headers
  else ""

def rowText (layout : Layout) (isFirst : Bool) (r : TableRow) : String :=
  layout.rowStart isFirst ++ "| " ++ r.row.description.getD "" ++
    " || " ++ markup "c|" (toString r.row.value ++ "L") ++ layout.headerCell isFirst r.row ++
    " || " ++ markup "mark " r.mark ++
    (if r.row.drAgainst.isSome then "<br>" ++ markup "mark|" "DR" else "") ++
    " || " ++ "<br>".intercalate (r.papers.map (markup "stddoc|")) ++ "\n"

end Layout

def featureText (feature : Feature) (rows : List TableRow) : String :=
  let layout := Layout.ofRows feature rows
  match rows with
  | [] => ""
  | row :: rest =>
    layout.rowText true row ++ String.join (rest.map (layout.rowText false))

def heading (kind : Kind) : String :=
  "\x7b| class=\"wikitable sortable\" style=\"font-size:90%;\"\n" ++
  "|-\n" ++
  "! style=\"width:0\" | Macro name\n" ++
  "! Feature\n" ++
  "! Value\n" ++
  (if kind = .library then "! Header\n" else "") ++
  "! <abbr title=\"Standard in which the feature is introduced; " ++
  "DR means defect report against that revision\">Std</abbr>\n" ++
  "! Paper(s)\n"

/-- The number of columns. -/
def width : Kind → Nat
  | .library => 6
  | .attributes | .language => 5

def footing (kind : Kind) (featureCount : Nat) : String :=
  let note := match kind with
    | .library => "do not forget to update, see the talk page"
    | .attributes | .language => "update me, e.g., use the script on the talk page"
  s!"|-\n! colspan=\"{width kind}\" | Total number of macros: {featureCount} <!-- {note} -->\n|" ++
    "\x7d"

end SummaryTable

open SummaryTable in
/-- The table of every published feature of a kind. Attributes have none. -/
def Registry.summaryTable (registry : Registry) (kind : Kind) (ladder : Ladder) :
    Except TableError RenderedTable := do
  if kind = .attributes then throw (.unsupportedKind kind)
  let features ← (registry.published kind).mapM fun feature =>
    match rowsOf feature ladder with
    | .ok (rows, warnings) => .ok (feature, rows, warnings)
    | .error e => .error (TableError.timeline e)
  let count := features.countP fun (_, rows, _) => !rows.isEmpty
  return {
    text := heading kind ++
      String.join (features.map fun (feature, rows, _) => featureText feature rows) ++
      footing kind count
    warnings := features.flatMap fun (_, _, warnings) => warnings
    featureCount := count }

end FeatureTest
