import FeatureTest.Command.Project

/-!
Importing version definitions into a registry file. The updated registry is read back before it is
written, so that a failed import leaves every file as it was.
-/
namespace FeatureTest.Project

variable {m : Type → Type} [Monad m] [Host m]

def importSpan (definitions : String) : Log.Span :=
  ⟨.program, "import_glibcxx", [.plain "source" definitions]⟩

/-- Writes the registry with the support that the definitions give it. -/
def importLibrary (yaml : Yaml.Format) (project : Project) (definitions output : String) :
    Work m ImportSummary := do
  let log (events : List Log.Event) : Work m Unit :=
    Work.log (events.map (·.within (importSpan definitions)))
  let macros ← Work.ofExcept (.versionDef definitions)
    (VersionDef.readMacros (← Work.readText definitions))
  let text ← Work.readText project.dataPath
  let some document := yaml.value? text | throw (.document project.dataPath)
  let some (updated, summary) := Import.run? macros document | throw .noLibrary
  log (Log.importEvents macros summary)
  let text ← Work.ofExcept .unwritable (yaml.write updated)
  log (Registry.textEvents yaml text project.ladder)
  discard (Work.ofExcept .updated (Registry.ofText yaml text project.ladder))
  Work.writeText output text
  log [{
    level := .info, target := .program, message := "gcc library support imported"
    fields := [.natural "updated" summary.updated.length,
      .natural "missing" summary.missing.length, .plain "output" output] }]
  return summary

end FeatureTest.Project
