import FeatureTest.VersionDef.Entry

/-!
Import: version definitions replace the gcc support of the library features they name. The
document around that support stays as it is, down to the order of its keys.
-/
namespace FeatureTest

structure ImportSummary where
  /-- The macros whose feature was updated. -/
  updated : List String
  /-- The macros that the registry does not list. -/
  missing : List String
  deriving DecidableEq, Repr

open VersionDef (LibraryMacro)

namespace Import

open Yaml (Value)

variable {Tag : Type}

def isNamed (name : String) (feature : Value Tag) : Bool :=
  (feature.get? "name").bind (·.text?) == some name

/-- The support of a feature with the gcc entry that a macro gives it. It starts from an empty map
where there was none. -/
def updateSupport (m : LibraryMacro) (support : Option (Value Tag)) : Value Tag :=
  ((support.filter (·.entries?.isSome)).getD (.map [])).set "gcc" (.list m.support)

/-- Replaces the gcc support of one feature. -/
def updateFeature (m : LibraryMacro) (feature : Value Tag) : Value Tag :=
  feature.set "support" (updateSupport m (feature.get? "support"))

/-- Updates the first feature of the macro's name, if there is one. -/
def updateFirst? (m : LibraryMacro) : List (Value Tag) → Option (List (Value Tag))
  | [] => none
  | feature :: rest =>
    if isNamed m.name feature then some (updateFeature m feature :: rest)
    else (updateFirst? m rest).map (feature :: ·)

/-- Updates the features of a library section, macro by macro. -/
def updateLibrary : List LibraryMacro → List (Value Tag) → List (Value Tag) × ImportSummary
  | [], library => (library, ⟨[], []⟩)
  | m :: ms, library =>
    match updateFirst? m library with
    | some library =>
      let (library, summary) := updateLibrary ms library
      (library, { summary with updated := m.name :: summary.updated })
    | none =>
      let (library, summary) := updateLibrary ms library
      (library, { summary with missing := m.name :: summary.missing })

/-- The document after the import; none where it has no library section. -/
def run? (ms : List LibraryMacro) (document : Value Tag) : Option (Value Tag × ImportSummary) := do
  let list ← document.get? "library"
  let (library, summary) := updateLibrary ms (← list.items?)
  return (document.set "library" (list.withUntagged (.list library)), summary)

/-- The message where a document has no library section. -/
def noLibraryMessage : String := "invalid registry document: missing library section"

end Import
end FeatureTest
