/-!
Paths as they are written. Nothing is looked up and nothing is tidied: a path is the text that
names it in output.
-/
namespace FeatureTest.Path

def isAbsolute (path : String) : Bool := path.startsWith "/"

/-- The path of `path` as seen from the directory `base`. -/
def join (base path : String) : String :=
  if isAbsolute path || base.isEmpty then path
  else if base.endsWith "/" then base ++ path
  else base ++ "/" ++ path

/-- The text between slashes, empty between two neighbouring ones. -/
def pieces : List Char → List (List Char)
  | [] => [[]]
  | c :: cs =>
    if c = '/' then [] :: pieces cs
    else match pieces cs with
      | [] => [[c]]
      | p :: ps => (c :: p) :: ps

/-- A piece that names nothing of its own. -/
def isEmptyStep (piece : List Char) : Bool := piece.isEmpty || piece == ['.']

/-- What a path starts with before its first name: the root, the directory it is seen from, or
nothing. -/
def start : List Char → List Char × List Char
  | '/' :: rest => (['/'], rest)
  | ['.'] => (['.'], [])
  | '.' :: '/' :: rest => (['.'], '/' :: rest)
  | cs => ([], cs)

/-- The directory that a path's last name lies in, unless there is no name in it. -/
def parent? (path : String) : Option String :=
  let (first, rest) := start path.toList
  match (pieces rest).reverse.dropWhile isEmptyStep with
  | [] => if first = ['.'] then some "" else none
  | _ :: above =>
    let kept := (above.dropWhile isEmptyStep).reverse
    some (String.ofList (first ++ ['/'].intercalate kept))

end FeatureTest.Path
