import FeatureTest.Ingestion
import FeatureTest.Proofs.ConfigurationCondition
import FeatureTest.Proofs.FirstMatch
import FeatureTest.Proofs.WellFormed
import FeatureTest.RecordReader

/-!
What an imported macro comes to: its values, recorded in ascending order, are ingested as facts of
which the newest is tried first, as the definitions list them.
-/
namespace FeatureTest.Yaml.Value

mutual

/-- A value as a document, in which each scalar is what the value says. -/
def toDocument : Value String → Document
  | null => .scalar .null
  | bool b => .scalar (.bool b)
  | integer (.ofNat n) => .scalar (.natural n)
  | integer (.negSucc _) | float _ => .scalar .otherNumber
  | text t => .scalar (.text t)
  | list items => .list (itemsToDocument items)
  | map entries => .map (entriesToDocument entries)
  | tagged tag value => .tagged tag value.toDocument

def itemsToDocument : List (Value String) → List Document
  | [] => []
  | item :: items => item.toDocument :: itemsToDocument items

def entriesToDocument : List (Value String × Value String) → List (Document × Document)
  | [] => []
  | (key, value) :: entries => (key.toDocument, value.toDocument) :: entriesToDocument entries

end

end FeatureTest.Yaml.Value

namespace FeatureTest.VersionDef
open Success

namespace MacroValue

variable {v : MacroValue} {ladder : Ladder}

/-- The name of the first standard that has the value. -/
def since (v : MacroValue) : Option String := v.cxxmin.map ("C++" ++ ·)

def record (v : MacroValue) : FactRecord :=
  { value := some v.value, since := v.since, depends := v.depends }

def fact (v : MacroValue) : Fact :=
  { value := v.value, since := v.since, depends := v.depends }

/-- Whether anything restricts when a macro has the value. -/
def Restricted (v : MacroValue) (ladder : Ladder) : Prop :=
  (∃ name ∈ v.since, ladder.names.head? ≠ some name) ∨
    v.gthread ≠ none ∨ v.cxx11abi ≠ none ∨ v.extraCond ≠ none

/-- Whether a compiler has the value: its standard is recent enough, and the condition holds. -/
def applies (v : MacroValue) (ladder : Ladder) (env : Environment) : Bool :=
  v.fact.sinceReached ladder env && v.depends.all fun d => env.truth ("(" ++ d ++ ")")

/-- The fields that a value's support entry has. -/
def fields (v : MacroValue) : Fields :=
  (v.since.map fun s => ("since", Document.scalar (.text s))).toList ++
    (v.depends.map fun d => ("depends", Document.scalar (.text d))).toList ++
    [("value", .scalar (.natural v.value))]

theorem fields_of_entry (v : MacroValue) :
    Fields.ofDocument false FactRecord.fieldNames v.supportEntry.toDocument = some v.fields := by
  unfold supportEntry fields since
  cases v.cxxmin <;> cases v.depends <;> rfl

/-- A support entry is read as what it was written for. -/
theorem record_of_entry (h : v.value < UInt32.size) :
    FactRecord.ofDocument false v.supportEntry.toDocument = some v.record := by
  have hvalue :
      Document.optional (·.value?) (.scalar (.natural v.value)) = some (some v.value) := by
    simp [Document.optional, Document.present?, Scalar.isAbsent, Document.value?, Document.scalar?,
      Document.untagged, Scalar.value?, Option.filter, h]
  have htext : ∀ t : String, Document.optional (·.text?) (.scalar (.text t)) = some (some t) :=
    fun _ => rfl
  unfold FactRecord.ofDocument
  rw [fields_of_entry, Option.bind_eq_bind, Option.bind_some]
  unfold fields record
  cases v.since <;> cases v.depends <;>
    simp [Fields.nullable, List.lookup_cons, hvalue, htext]

theorem fact_of_record (index : Nat) (v : MacroValue) :
    Fact.ofRecord index v.record = .ok v.fact := rfl

theorem facts_of_records (index : Nat) (values : List MacroValue) :
    Fact.ofRecords index (values.map record) = .ok (values.map fact, false) := by
  induction values generalizing index with
  | nil => rfl
  | cons v values ih =>
    rw [List.map_cons, Fact.ofRecords, fact_of_record, ih]
    rfl

theorem fact_restricted (hknown : ∀ name ∈ v.since, name ∈ ladder.names) :
    v.fact.hasCondition ladder = true ↔ v.Restricted ladder := by
  have hsince : v.fact.sinceRestricts ladder = true ↔
      ∃ name ∈ v.since, ladder.names.head? ≠ some name := by
    rw [Fact.since_restricts]
    constructor
    · rintro ⟨name, hn, -, hfirst⟩
      exact ⟨name, hn, hfirst⟩
    · rintro ⟨name, hn, hfirst⟩
      exact ⟨name, hn, hknown name hn, hfirst⟩
  have hdepends : v.depends.isSome = true ↔
      v.gthread ≠ none ∨ v.cxx11abi ≠ none ∨ v.extraCond ≠ none := by
    rw [Option.isSome_iff_ne_none, ne_eq, depends_eq_none]
    tauto
  rw [Restricted, ← hsince, ← hdepends]
  simp [Fact.hasCondition, fact]

theorem first_match_of_values (ladder : Ladder) (env : Environment) (values : List MacroValue) :
    firstMatch ladder env (values.map fact) =
      (values.find? (·.applies ladder env)).map (·.value) := by
  induction values with
  | nil => rfl
  | cons v values ih =>
    have happlies : v.fact.applies ladder env = v.applies ladder env := by
      simp [Fact.applies, applies, fact]
    rw [List.map_cons, firstMatch, happlies, List.find?_cons, ih]
    cases v.applies ladder env <;> rfl

end MacroValue

namespace LibraryMacro

/-- A macro whose values make a support list: newest first, each since a standard of the ladder, and
each but the oldest restricted. -/
structure Admissible (m : LibraryMacro) (ladder : Ladder) : Prop where
  descending : m.values.Pairwise fun newer older => older.value ≤ newer.value
  known : ∀ v ∈ m.values, ∀ name ∈ v.since, name ∈ ladder.names
  restricted : ∀ v ∈ m.values.dropLast, v.Restricted ladder

variable {m : LibraryMacro} {ladder : Ladder}

/-- The support entries read back as records. -/
theorem records_of_support (h : ∀ v ∈ m.values, v.value < UInt32.size) :
    (m.support.mapM fun entry => FactRecord.ofDocument false entry.toDocument) =
      some (m.values.reverse.map (·.record)) := by
  have hread : ∀ values : List MacroValue, (∀ v ∈ values, v.value < UInt32.size) →
      ((values.map (·.supportEntry)).mapM fun entry =>
        FactRecord.ofDocument false entry.toDocument) = some (values.map (·.record)) := by
    intro values hvalues
    induction values with
    | nil => rfl
    | cons v values ih =>
      obtain ⟨hv, hrest⟩ := List.forall_mem_cons.mp hvalues
      rw [List.map_cons, List.mapM_cons, MacroValue.record_of_entry hv, ih hrest]
      rfl
  exact hread _ fun v hv => h v (List.mem_reverse.mp hv)

theorem accepted_iff :
    AcceptedFacts (m.values.reverse.map (·.fact)) ladder ↔ m.Admissible ladder := by
  have hascending : ((m.values.reverse.map (·.fact)).map (·.value)).Pairwise (· ≤ ·) ↔
      m.values.Pairwise fun newer older => older.value ≤ newer.value := by
    rw [List.map_map, List.pairwise_map, List.pairwise_reverse]
    rfl
  have htail : (m.values.reverse.map (·.fact)).tail = (m.values.dropLast.map (·.fact)).reverse := by
    rw [← List.map_tail, List.tail_reverse, List.map_reverse]
  constructor
  · intro h
    have hknown : ∀ v ∈ m.values, ∀ name ∈ v.since, name ∈ ladder.names := by
      intro v hv
      exact (h.placed v.fact (List.mem_map_of_mem (List.mem_reverse.mpr hv))).since_known
    refine ⟨hascending.mp h.ascending, hknown, ?_⟩
    intro v hv
    refine (MacroValue.fact_restricted (hknown v (List.mem_of_mem_dropLast hv))).mp ?_
    refine h.conditional v.fact ?_
    rw [htail]
    exact List.mem_reverse.mpr (List.mem_map_of_mem hv)
  · intro h
    refine ⟨?_, hascending.mpr h.descending, ?_⟩
    · intro fact hf
      obtain ⟨v, hv, rfl⟩ := List.mem_map.mp hf
      exact ⟨.inr rfl, h.known v (List.mem_reverse.mp hv), by simp [MacroValue.fact]⟩
    · intro fact hf
      rw [htail] at hf
      obtain ⟨v, hv, rfl⟩ := List.mem_map.mp (List.mem_reverse.mp hf)
      have hknown := h.known v (List.mem_of_mem_dropLast hv)
      exact (MacroValue.fact_restricted hknown).mpr (h.restricted v hv)

/-- The value that a compiler has: the first listed one that applies to it. -/
def definedTo? (m : LibraryMacro) (ladder : Ladder) (env : Environment) : Option Nat :=
  (m.values.find? (·.applies ladder env)).map (·.value)

theorem of_records_eq_ok {support : SupportList} :
    SupportList.ofRecords (m.values.reverse.map (·.record)) ladder = .ok support ↔
      m.Admissible ladder ∧ support = ⟨m.values.reverse.map (·.fact), false⟩ := by
  rw [SupportList.ofRecords, MacroValue.facts_of_records, ← accepted_iff]
  exact SupportList.of_facts_eq_ok

/-- The support entries of a macro are read back as records, which are ingested exactly if its
values are admissible. The facts are then tried in the order of the definitions, and the tree built
from them gives each compiler the first listed value that applies to it. -/
theorem imported_support_keeps_order (m : LibraryMacro) (ladder : Ladder)
    (hvalues : ∀ v ∈ m.values, v.value < UInt32.size) :
    ∃ records, (m.support.mapM fun entry => FactRecord.ofDocument false entry.toDocument) =
        some records ∧
      ((∃ support, SupportList.ofRecords records ladder = .ok support) ↔ m.Admissible ladder) ∧
      ∀ support, SupportList.ofRecords records ladder = .ok support →
        support.mostSpecificFirst = m.values.map (·.fact) ∧
        ∃ tree, DecisionTree.ofFacts ladder support.mostSpecificFirst = .ok tree ∧
          ∀ env, tree.evaluate (·.holds env) = m.definedTo? ladder env ∧
            tree.evaluate (fun c => env.reads c.text) = m.definedTo? ladder env.settled := by
  refine ⟨_, records_of_support hvalues, ?_, ?_⟩
  · constructor
    · rintro ⟨support, h⟩
      exact (of_records_eq_ok.mp h).1
    · intro h
      exact ⟨_, of_records_eq_ok.mpr ⟨h, rfl⟩⟩
  · intro support h
    obtain ⟨hadmissible, rfl⟩ := of_records_eq_ok.mp h
    have horder : (m.values.reverse.map (·.fact)).reverse = m.values.map (·.fact) := by
      rw [← List.map_reverse, List.reverse_reverse]
    obtain ⟨tree, htree, hdecides⟩ := (accepted_iff.mpr hadmissible).tree_decides
    rw [horder] at hdecides
    refine ⟨horder, tree, htree, ?_⟩
    intro env
    have hsettled : Reading env.settled fun c => env.reads c.text :=
      fun _ hl => Environment.reads_legible hl
    rw [hdecides env _ fun _ _ => rfl, hdecides env.settled _ hsettled,
      MacroValue.first_match_of_values, MacroValue.first_match_of_values]
    exact ⟨rfl, rfl⟩

/-- The newest value needs C++26, the next one threads, and the oldest one nothing at all. -/
def rangesMacro : LibraryMacro where
  name := "__cpp_lib_ranges"
  values := [
    { value := 202406, cxxmin := some "26" },
    { value := 202110, cxxmin := some "20", gthread := some true },
    { value := 201911, cxxmin := some "98" }]

/-- A C++20 compiler whose library has threads. -/
def threadedCompiler : Environment where
  cplusplus := 202002
  defined _ := false
  truth := (· == "(defined(_GLIBCXX_HAS_GTHREADS))")
  strict := false

theorem ranges_support_keeps_order :
    (∀ v ∈ rangesMacro.values, v.value < UInt32.size) ∧
    rangesMacro.Admissible .cpp ∧
    ∃ records support tree,
      (rangesMacro.support.mapM fun entry => FactRecord.ofDocument false entry.toDocument) =
        some records ∧
      SupportList.ofRecords records .cpp = .ok support ∧
      support.mostSpecificFirst.map (·.value) = [202406, 202110, 201911] ∧
      DecisionTree.ofFacts .cpp support.mostSpecificFirst = .ok tree ∧
      tree.evaluate (·.holds threadedCompiler) = some 202110 := by
  have hvalues : ∀ v ∈ rangesMacro.values, v.value < UInt32.size := by decide
  obtain ⟨records, hrecords, hiff, hkeeps⟩ :=
    imported_support_keeps_order rangesMacro .cpp hvalues
  have hread : (rangesMacro.support.mapM fun entry =>
      FactRecord.ofDocument false entry.toDocument) =
      some (rangesMacro.values.reverse.map (·.record)) := by rfl
  obtain rfl := Option.some.inj (hrecords.symm.trans hread)
  have hsupport : ∃ support,
      SupportList.ofRecords (rangesMacro.values.reverse.map (·.record)) .cpp = .ok support :=
    ⟨_, rfl⟩
  obtain ⟨support, hs⟩ := hsupport
  obtain ⟨horder, tree, htree, hdecides⟩ := hkeeps support hs
  refine ⟨hvalues, hiff.mp ⟨support, hs⟩, _, support, tree, hrecords, hs, ?_, htree, ?_⟩
  · rw [horder]
    rfl
  · rw [(hdecides threadedCompiler).1]
    decide +kernel

end LibraryMacro
end FeatureTest.VersionDef
