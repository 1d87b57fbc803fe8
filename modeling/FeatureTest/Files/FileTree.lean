import FeatureTest.Files.FileError
import FeatureTest.Files.Path

/-!
A file system as a value: directories and files by their place below the root.
-/
namespace FeatureTest

/-- The names that lead from the root to a place. -/
abbrev Place := List String

inductive Node where
  | directory
  | file (content : ByteArray) (executable : Bool)

structure FileTree where
  /-- Everything but the root, which is always a directory. -/
  nodes : List (Place × Node)
  /-- Where paths start that are not absolute. -/
  home : Place

namespace FileTree

/-- The longest name of a single file, in bytes. -/
def longestName : Nat := 255

/-- The longest path, in bytes. -/
def longestPath : Nat := 4095

def node? (tree : FileTree) (place : Place) : Option Node :=
  if place.isEmpty then some .directory else tree.nodes.lookup place

/-- Replaces what is at a place, or adds it after everything else. -/
def putNode (place : Place) (node : Node) : List (Place × Node) → List (Place × Node)
  | [] => [(place, node)]
  | (p, n) :: rest =>
    if p = place then (place, node) :: rest else (p, n) :: putNode place node rest

def put (tree : FileTree) (place : Place) (node : Node) : FileTree :=
  { tree with nodes := putNode place node tree.nodes }

/-- Puts a file at a place, and directories above it where nothing is. -/
def install (tree : FileTree) (place : Place) (content : ByteArray) (executable : Bool) : FileTree :=
  let above := (List.range place.length).map place.take
  let tree := above.foldl (fun t p => if (t.node? p).isSome then t else t.put p .directory) tree
  tree.put place (.file content executable)

/-- One step from a directory. What it leads to need not be there. -/
def step (tree : FileTree) (place : Place) (name : String) : Except FileError Place :=
  match tree.node? place with
  | none => .error .notFound
  | some (.file _ _) => .error .notDirectory
  | some .directory =>
    if name = "." then .ok place
    else if name = ".." then .ok place.dropLast
    else if name.utf8ByteSize > longestName then .error .nameTooLong
    else .ok (place ++ [name])

/-- The names on a path. -/
def names (path : String) : List String :=
  ((Path.pieces path.toList).map String.ofList).filter (!·.isEmpty)

/-- What is wrong with a path before it is followed. -/
def pathFault? (path : String) : Option FileError :=
  if path.toList.contains '\x00' then some .nulInPath
  else if path.isEmpty then some .notFound
  else if path.utf8ByteSize > longestPath then some .nameTooLong
  else none

def startOf (tree : FileTree) (path : String) : Place :=
  if Path.isAbsolute path then [] else tree.home

def follow (tree : FileTree) (path : String) : Except FileError Place :=
  match pathFault? path with
  | some e => .error e
  | none => (names path).foldlM tree.step (tree.startOf path)

/-- The place of a path, whose directories must be there. A slash at its end asks for one more. -/
def locate (tree : FileTree) (path : String) : Except FileError Place := do
  let place ← tree.follow path
  if path.endsWith "/" then tree.step place "." else return place

/-- The place where a file may be written. A path that ends in a slash is none. -/
def locateNew (tree : FileTree) (path : String) : Except FileError Place := do
  let place ← tree.follow path
  if path.endsWith "/" then throw .isDirectory else return place

def isFile (tree : FileTree) (path : String) : Bool :=
  match tree.locate path with
  | .ok place => match tree.node? place with
    | some (.file _ _) => true
    | _ => false
  | .error _ => false

def read (tree : FileTree) (path : String) : Except FileError ByteArray := do
  match tree.node? (← tree.locate path) with
  | some (.file content _) => return content
  | some .directory => throw .isDirectory
  | none => throw .notFound

def readText (tree : FileTree) (path : String) : Except FileError String := do
  match String.fromUTF8? (← tree.read path) with
  | some text => return text
  | none => throw .notText

/-- Writes a file whose content comes from the one that was there, if any. -/
def update (tree : FileTree) (path : String) (content : Option ByteArray → ByteArray) :
    Except FileError FileTree := do
  let place ← tree.locateNew path
  match tree.node? place with
  | some .directory => throw .isDirectory
  | some (.file old executable) => return tree.put place (.file (content (some old)) executable)
  | none => return tree.put place (.file (content none) false)

/-- The files once all bytes have come to lie in a file that is opened anew. -/
def writeBytes (tree : FileTree) (path : String) (content : ByteArray) :
    Except FileError FileTree :=
  tree.update path fun _ => content

def writeText (tree : FileTree) (path text : String) : Except FileError FileTree :=
  tree.writeBytes path text.toUTF8

def appendText (tree : FileTree) (path text : String) : Except FileError FileTree :=
  tree.update path fun old => old.getD .empty ++ text.toUTF8

/-- Makes the directories along the given names. -/
def makeAlong (tree : FileTree) (place : Place) : List String → Except FileError FileTree
  | [] => .ok tree
  | name :: rest => do
    let next ← tree.step place name
    match tree.node? next with
    | none => (tree.put next .directory).makeAlong next rest
    | some .directory => tree.makeAlong next rest
    | some (.file _ _) => throw (if rest.isEmpty then .alreadyExists else .notDirectory)

/-- Makes a directory and those above it, as far as they are missing. -/
def createDirectories (tree : FileTree) (path : String) : Except FileError FileTree :=
  match pathFault? path with
  | some e => if path.isEmpty then .ok tree else .error e
  | none => tree.makeAlong (tree.startOf path) (names path)

end FileTree
end FeatureTest
