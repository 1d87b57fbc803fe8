import FeatureTest.Command.ImportLibrary
import FeatureTest.Proofs.MacroReading
import FeatureTest.Proofs.WellFormed
import FeatureTest.Proofs.WorkSteps
import FeatureTest.Proofs.WrittenFiles

/-!
An import writes once, and only what reads back as a registry. Otherwise it leaves every file as it
was. Nothing is assumed of the YAML reader and writer, nor that a write succeeds.
-/
namespace FeatureTest.Project
open World VersionDef

/-- The files hold all that an import needs: macros, and a document that can be written and is a
registry once their support is put in. -/
inductive Ready (yaml : Yaml.Format) (project : Project) (definitions : String) (files : FileTree) :
    String → ImportSummary → Prop
  | intro {definitionText dataText text : String} {macros : List LibraryMacro}
      {document updated : Yaml.Value String} {summary : ImportSummary} {registry : Registry}
      (hdefinitions : files.readText definitions = .ok definitionText)
      (hmacros : Describes definitionText macros)
      (hdata : files.readText project.dataPath = .ok dataText)
      (hdocument : yaml.value? dataText = some document)
      (hrun : Import.run? macros document = some (updated, summary))
      (hwrite : yaml.write updated = .ok text)
      (hregistry : Registry.ofText yaml text project.ladder = .ok registry) :
      Ready yaml project definitions files text summary

variable {yaml : Yaml.Format} {project : Project} {definitions text : String} {w : World}
  {summary : ImportSummary}

/-- Events that were reported before a write make no difference to it. -/
theorem perform_write_after (w : World) (events : List Log.Event) (path text : String) :
    (w.advanced w.files [] [] events).perform (Work.writeText path text) =
      ((w.save path text).1.mapError (.write path),
        w.advanced (w.save path text).2 [] [] events) := by
  have hsave : (w.advanced w.files [] [] events).save path text = w.save path text := rfl
  rw [perform_write_text, hsave, advanced_advanced, List.append_nil, List.append_nil,
    List.append_nil]

/-- With all it needs the import ends as its one write does. -/
theorem import_of_ready (output : String)
    (h : Ready yaml project definitions w.files text summary) :
    ∃ events, w.perform (project.importLibrary yaml definitions output) =
      (((w.save output text).1.mapError (.write output)).map fun _ => summary,
        w.advanced (w.save output text).2 [] [] events) := by
  obtain ⟨hdefinitions, hmacros, hdata, hdocument, hrun, hwrite, hregistry⟩ := h
  unfold importLibrary
  rw [perform_bind_of_ok (perform_read_text_of_ok hdefinitions),
    perform_bind_of_ok (perform_of_except_ok (read_macros_eq_ok.mpr hmacros)),
    perform_bind_of_ok (perform_read_text_of_ok hdata)]
  simp only [hdocument, hrun]
  rw [perform_bind_of_ok (perform_log _ _), perform_bind_of_ok (perform_of_except_ok hwrite),
    perform_bind_of_ok (perform_log _ _),
    perform_bind_of_ok (perform_discard_of_ok (perform_of_except_ok hregistry)), advanced_advanced,
    advanced_files, List.append_nil, List.append_nil]
  have hsave : ∀ events, _ := fun events => perform_write_after w events output text
  cases hanswer : (w.save output text).1 with
  | ok answer =>
    simp only [hanswer, Except.mapError] at hsave
    rw [perform_bind_of_ok (hsave _), perform_bind_of_ok (perform_log _ _), perform_pure,
      advanced_advanced]
    exact ⟨_, rfl⟩
  | error e =>
    simp only [hanswer, Except.mapError] at hsave
    rw [perform_bind_of_error (hsave _)]
    exact ⟨_, rfl⟩

theorem stopped_of_error {α : Type} {work : Work (StateM World) α} {e : CommandError}
    {output : String} (h : w.perform work = (.error e, w))
    (hbefore : ∀ cause, e ≠ .write output cause) :
    ∃ e events, w.perform work = (.error e, w.advanced w.files [] [] events) ∧
      ∀ cause, e ≠ .write output cause :=
  ⟨e, [], by rw [h, advanced_nothing], hbefore⟩

/-- Where something is missing the import ends before it writes. -/
theorem import_of_not_ready (output : String)
    (h : ∀ text summary, ¬ Ready yaml project definitions w.files text summary) :
    ∃ e events, w.perform (project.importLibrary yaml definitions output) =
      (.error e, w.advanced w.files [] [] events) ∧ ∀ cause, e ≠ .write output cause := by
  unfold importLibrary
  -- What is needed may be missing anywhere on the way: one case for each, in the order asked for.
  cases hdefinitions : w.files.readText definitions with
  | error e =>
    exact stopped_of_error (perform_bind_of_error (perform_read_text_of_error hdefinitions) _) nofun
  | ok definitionText =>
  rw [perform_bind_of_ok (perform_read_text_of_ok hdefinitions)]
  cases hmacros : readMacros definitionText with
  | error e => exact stopped_of_error (perform_bind_of_error (perform_of_except_error rfl) _) nofun
  | ok macros =>
  rw [perform_bind_of_ok (perform_of_except_ok rfl)]
  cases hdata : w.files.readText project.dataPath with
  | error e =>
    exact stopped_of_error (perform_bind_of_error (perform_read_text_of_error hdata) _) nofun
  | ok dataText =>
  rw [perform_bind_of_ok (perform_read_text_of_ok hdata)]
  cases hdocument : yaml.value? dataText with
  | none => exact stopped_of_error (perform_throw w (.document project.dataPath)) nofun
  | some document =>
  cases hrun : Import.run? macros document with
  | none =>
    simp only [hrun]
    exact stopped_of_error (perform_throw w .noLibrary) nofun
  | some result =>
  obtain ⟨updated, summary⟩ := result
  simp only [hrun]
  rw [perform_bind_of_ok (perform_log _ _)]
  cases hwrite : yaml.write updated with
  | error message =>
    rw [perform_bind_of_error (perform_of_except_error rfl)]
    exact ⟨.unwritable message, _, rfl, nofun⟩
  | ok text =>
  rw [perform_bind_of_ok (perform_of_except_ok rfl), perform_bind_of_ok (perform_log _ _),
    advanced_advanced]
  cases hregistry : Registry.ofText yaml text project.ladder with
  | error e =>
    rw [perform_bind_of_error (perform_discard_of_error (perform_of_except_error rfl))]
    exact ⟨.updated e, _, rfl, nofun⟩
  | ok registry =>
    exact absurd (.intro hdefinitions (read_macros_eq_ok.mp hmacros) hdata hdocument hrun hwrite
      hregistry) (h text summary)

/-- A text is accepted as a registry when it has the shape of one and all that it records is
well-formed. -/
theorem well_formed_of_text {ladder : Ladder} {registry : Registry}
    (h : Registry.ofText yaml text ladder = .ok registry) :
    ∃ record, RegistryRecord.ofText? yaml text = some record ∧
      ∀ kind, ∀ feature ∈ record.ofKind kind, feature.WellFormed ladder := by
  unfold Registry.ofText at h
  cases hrecord : RegistryRecord.ofText? yaml text with
  | none => simp [hrecord] at h
  | some record =>
    simp only [hrecord] at h
    refine ⟨record, rfl, Registry.of_record_succeeds.mp ?_⟩
    cases hr : Registry.ofRecord record ladder with
    | error e =>
      rw [hr] at h
      cases h
    | ok registry => exact ⟨registry, rfl⟩

/-- How an import may end, and on what machine. -/
inductive ImportEnd (yaml : Yaml.Format) (project : Project) (definitions output : String)
    (w : World) : Except CommandError ImportSummary × World → Prop
  /-- Something that the import needs was missing. It did not come to its write, and nothing but
  events is left behind. -/
  | stopped {e : CommandError} (events : List Log.Event)
      (hnot : ∀ text summary, ¬ Ready yaml project definitions w.files text summary)
      (hbefore : ∀ cause, e ≠ .write output cause) :
      ImportEnd yaml project definitions output w (.error e, w.advanced w.files [] [] events)
  /-- One text was written, which is a registry, and to no other place than the output's. The import
  ends as that write does. -/
  | wrote {text : String} {summary : ImportSummary} (events : List Log.Event)
      (hready : Ready yaml project definitions w.files text summary)
      (haccepted : ∃ registry, Registry.ofText yaml text project.ladder = .ok registry)
      (hwell : ∃ record, RegistryRecord.ofText? yaml text = some record ∧
        ∀ kind, ∀ feature ∈ record.ofKind kind, feature.WellFormed project.ladder)
      (helsewhere : ∀ other, w.files.locateNew output ≠ .ok other →
        (w.save output text).2.node? other = w.files.node? other)
      (hwritten : (w.save output text).1 = .ok () →
        w.files.Written output text (w.save output text).2) :
      ImportEnd yaml project definitions output w
        (((w.save output text).1.mapError (.write output)).map fun _ => summary,
          w.advanced (w.save output text).2 [] [] events)

/-- However a write ends, it has changed nothing but its file. -/
theorem node_save {path : String} {other : Place} (h : w.files.locateNew path ≠ .ok other) :
    (w.save path text).2.node? other = w.files.node? other := by
  unfold save
  split
  rename_i content answer hcontent
  cases hw : w.files.writeBytes path content with
  | ok files => exact FileTree.node_write_bytes hw h
  | error e => rfl

/-- A write that succeeds leaves the whole text in its file. -/
theorem written_of_save {path : String} (h : (w.save path text).1 = .ok ()) :
    w.files.Written path text (w.save path text).2 := by
  unfold save at h ⊢
  cases hf : w.fault path text with
  | none =>
    simp only [hf] at h ⊢
    cases hw : w.files.writeBytes path text.toUTF8 with
    | ok files => exact FileTree.written_of_write_text hw
    | error e =>
      rw [hw] at h
      cases h
  | some fault =>
    simp only [hf] at h
    split at h <;> cases h

theorem import_never_damages (yaml : Yaml.Format) (project : Project)
    (definitions output : String) (w : World) :
    ImportEnd yaml project definitions output w
      (w.perform (project.importLibrary yaml definitions output)) := by
  by_cases h : ∃ text summary, Ready yaml project definitions w.files text summary
  · obtain ⟨text, summary, hready⟩ := h
    obtain ⟨registry, haccepted⟩ : ∃ registry,
        Registry.ofText yaml text project.ladder = .ok registry := by
      obtain ⟨-, -, -, -, -, -, hregistry⟩ := hready
      exact ⟨_, hregistry⟩
    obtain ⟨events, hrun⟩ := import_of_ready output hready
    rw [hrun]
    exact .wrote events hready ⟨registry, haccepted⟩ (well_formed_of_text haccepted)
      (fun _ => node_save) written_of_save
  · have hnot : ∀ text summary, ¬ Ready yaml project definitions w.files text summary :=
      fun text summary hready => h ⟨text, summary, hready⟩
    obtain ⟨e, events, hrun, hbefore⟩ := import_of_not_ready output hnot
    rw [hrun]
    exact .stopped events hnot hbefore

/-- A machine with definitions of one macro and a data file. -/
def spanMachine (data : String) : World where
  files := {
    nodes := [
      (["version.def"],
        .file "ftms = \x7b name = span; values = \x7b v = 202002; \x7d; \x7d;".toUTF8 false),
      (["data.yaml"], .file data.toUTF8 false)]
    home := [] }
  directory := "/"

def spanProject : Project := ⟨{}, .cpp, "data.yaml"⟩

/-- A registry that lists the macro and has no support for it yet. -/
def spanData : String := "attributes: []\nlanguage: []\nlibrary:\n- name: __cpp_lib_span\n"

def spanImport (data : String) : Except CommandError ImportSummary × World :=
  (spanMachine data).perform (spanProject.importLibrary .plain "version.def" "data.yaml")

/-- The registry is replaced by one with the macro's support. Data that is no registry stays, also
where the import finds its library section. -/
theorem span_import_written :
    ImportEnd .plain spanProject "version.def" "data.yaml" (spanMachine spanData)
      (spanImport spanData) ∧
    (spanImport spanData).map (·.toOption.map (·.updated))
        (·.files.readText "data.yaml" |>.toOption) =
      (some ["__cpp_lib_span"], some (spanData ++ "  support:\n    gcc:\n    - value: 202002\n")) ∧
    (spanImport "library: []\n").map (·.toOption.map (·.updated))
        (·.files.readText "data.yaml" |>.toOption) =
      (none, some "library: []\n") :=
  ⟨import_never_damages .plain spanProject "version.def" "data.yaml" (spanMachine spanData),
    by decide +kernel, by decide +kernel⟩

end FeatureTest.Project
