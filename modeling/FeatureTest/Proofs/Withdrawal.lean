import FeatureTest.Proofs.Announcement
import FeatureTest.Proofs.LintReports

/-!
Withdrawn features leave no trace. What is generated for an implementation, and what is said about
its support, depends on nothing but the names and the support of the features it still has.
-/
namespace FeatureTest
open Success

namespace OptionSet

theorem mem_insert {s t : OptionSet} {sets : List OptionSet} :
    t ∈ insert s sets ↔ t = s ∨ t ∈ sets := by
  induction sets with
  | nil => simp [insert]
  | cons u rest ih =>
    unfold insert
    split
    · exact List.mem_cons
    · split
      · rename_i he
        simp [he]
      · simp only [List.mem_cons, ih]
        tauto

theorem mem_sorted {t : OptionSet} {sets : List OptionSet} : t ∈ sorted sets ↔ t ∈ sets := by
  induction sets with
  | nil => rfl
  | cons s rest ih =>
    change t ∈ insert s (sorted rest) ↔ _
    rw [mem_insert, ih, List.mem_cons]

end OptionSet

namespace Feature

variable {i : Implementation} {ladder : Ladder}

/-- All that counts of a feature for one implementation. -/
def seenBy (i : Implementation) (feature : Feature) : String × SupportList :=
  (feature.name, feature.supportFor i)

theorem block_of_seen {a b : Feature} (hkind : a.kind = b.kind) (h : a.seenBy i = b.seenBy i) :
    a.block i ladder = b.block i ladder := by
  obtain ⟨hname, hsupport⟩ := Prod.mk.inj h
  simp only [block, decisionTree, hname, hsupport, hkind]

theorem support_warnings_of_seen {a b : Feature} (h : a.seenBy i = b.seenBy i) :
    a.supportWarnings i ladder = b.supportWarnings i ladder := by
  obtain ⟨hname, hsupport⟩ := Prod.mk.inj h
  simp only [supportWarnings, hname, hsupport]

end Feature

namespace Registry

/-- The registry after some of its features are deleted. -/
def without (registry : Registry) (gone : Feature → Bool) : Registry :=
  ⟨registry.entries.filter (!gone ·)⟩

section Deleting

variable {registry : Registry} {gone : Feature → Bool} {kind : Kind} {i : Implementation}

theorem features_without :
    (registry.without gone).features kind = (registry.features kind).filter (!gone ·) :=
  List.filter_comm _ _ _

theorem active_eq_without :
    registry.active kind i = (registry.without (·.isRemovedFor i)).features kind :=
  features_without.symm

/-- Deleting what a filter drops anyway changes nothing for it. -/
theorem filter_without {dropped : Feature → Bool}
    (h : ∀ feature, gone feature = true → dropped feature = true) :
    ((registry.without gone).features kind).filter (!dropped ·) =
      (registry.features kind).filter (!dropped ·) := by
  rw [features_without, List.filter_filter]
  apply List.filter_congr
  intro feature _
  cases hg : gone feature with
  | false => simp
  | true => simp [h feature hg]

theorem active_without :
    (registry.without (·.removed)).active kind i = registry.active kind i :=
  filter_without fun feature h => by simp [Feature.isRemovedFor, h]

theorem published_without :
    (registry.without (·.removed)).published kind = registry.published kind :=
  filter_without fun _ h => h

end Deleting

/-- After each of two registries loses what was removed for an implementation, they list the same
features of a kind, in one order, as far as the implementation can tell. -/
def SeenAlike (a b : Registry) (kind : Kind) (i : Implementation) : Prop :=
  ((a.without (·.isRemovedFor i)).features kind).map (·.seenBy i) =
    ((b.without (·.isRemovedFor i)).features kind).map (·.seenBy i)

section TwoRegistries

variable {a b : Registry} {kind : Kind} {i : Implementation}

theorem SeenAlike.active (h : a.SeenAlike b kind i) :
    (a.active kind i).map (·.seenBy i) = (b.active kind i).map (·.seenBy i) := by
  rw [active_eq_without, active_eq_without]
  exact h

theorem kind_of_active {registry : Registry} {feature : Feature}
    (h : feature ∈ registry.active kind i) : feature.kind = kind := by
  simpa using List.of_mem_filter (List.mem_of_mem_filter h)

theorem SeenAlike.supports (h : a.SeenAlike b kind i) :
    (a.active kind i).map (·.supportFor i) = (b.active kind i).map (·.supportFor i) := by
  simpa [Feature.seenBy, Function.comp_def] using congrArg (List.map (·.2)) h.active

theorem SeenAlike.option_sets (h : a.SeenAlike b kind i) :
    a.optionSets kind i = b.optionSets kind i := by
  simp only [optionSets, h.supports]

theorem SeenAlike.test_file (h : a.SeenAlike b kind i) (ladder : Ladder) :
    a.testFile kind i ladder = b.testFile kind i ladder := by
  have hblocks : (a.active kind i).mapM (·.block i ladder) =
      (b.active kind i).mapM (·.block i ladder) := by
    apply mapM_of_view h.active
    intro f hf g hg hfg
    exact Feature.block_of_seen ((kind_of_active hf).trans (kind_of_active hg).symm) hfg
  simp only [testFile, hblocks, h.option_sets]

theorem SeenAlike.support_report (h : a.SeenAlike b kind i) (ladder : Ladder) :
    a.supportReport kind i ladder = b.supportReport kind i ladder := by
  have hwarnings : (a.active kind i).mapM (·.supportWarnings i ladder) =
      (b.active kind i).mapM (·.supportWarnings i ladder) :=
    mapM_of_view h.active fun _ _ _ _ hfg => Feature.support_warnings_of_seen hfg
  have hcount : (a.active kind i).length = (b.active kind i).length := by
    simpa using congrArg List.length h.active
  simp only [supportReport, hwarnings, hcount]

end TwoRegistries

section Withdrawn

variable {registry : Registry} {ladder : Ladder} {kind : Kind} {i : Implementation}

theorem summary_table_without :
    (registry.without (·.removed)).summaryTable kind ladder =
      registry.summaryTable kind ladder := by
  simp only [summaryTable, published_without]

theorem history_report_without :
    (registry.without (·.removed)).historyReport kind ladder =
      registry.historyReport kind ladder := by
  simp only [historyReport, published_without]

theorem support_report_without :
    (registry.without (·.removed)).supportReport kind i ladder =
      registry.supportReport kind i ladder := by
  simp only [supportReport, active_without]

theorem lint_without : (registry.without (·.removed)).lint ladder = registry.lint ladder := by
  simp only [lint, history_report_without, support_report_without]

/-- What a test file is run with comes from the features it tests: a switch from one that names it,
and strict mode or its absence from one that reacts to it. -/
theorem option_origin {set : OptionSet} {option : String} (hs : set ∈ registry.optionSets kind i)
    (ho : option ∈ set) :
    (∃ feature ∈ registry.active kind i, ∃ s ∈ (feature.supportFor i).facts.flatMap (·.switches),
      option = s.spelling ∨ option = s.define) ∨
    ((∃ feature ∈ registry.active kind i, (feature.supportFor i).isStrictSensitive = true) ∧
      (option = "-pedantic" ∨ option = "-DNO_pedantic=1")) := by
  have hswitch : ∀ set ∈ [] :: ((registry.active kind i).map (·.supportFor i)).flatMap
      (·.optionSets), option ∈ set → ∃ feature ∈ registry.active kind i,
        ∃ s ∈ (feature.supportFor i).facts.flatMap (·.switches),
          option = s.spelling ∨ option = s.define := by
    intro set hs ho
    rcases List.mem_cons.mp hs with rfl | hs
    · cases ho
    · obtain ⟨support, hm, hset⟩ := List.mem_flatMap.mp hs
      obtain ⟨feature, hf, rfl⟩ := List.mem_map.mp hm
      rcases SupportList.mem_option_sets.mp hset with rfl | ⟨s, hsw, rfl⟩
      · cases ho
      · exact ⟨feature, hf, s, hsw, List.mem_pair.mp ho⟩
  unfold optionSets at hs
  dsimp only at hs
  split at hs
  · exact .inl (hswitch set (OptionSet.mem_sorted.mp hs) ho)
  · rename_i strict lenient hmode
    obtain ⟨support, hm, hvariants⟩ := List.exists_of_findSome?_eq_some hmode
    obtain ⟨feature, hf, rfl⟩ := List.mem_map.mp hm
    obtain ⟨hsensitive, rfl, rfl⟩ := SupportList.strict_variants_eq_some.mp hvariants
    rcases List.mem_append.mp (OptionSet.mem_sorted.mp hs) with hs | hs
    · obtain ⟨base, hbase, rfl⟩ := List.mem_map.mp hs
      rcases List.mem_cons.mp ho with rfl | ho
      · exact .inr ⟨⟨feature, hf, hsensitive⟩, .inl rfl⟩
      · exact .inl (hswitch base hbase ho)
    · refine .inr ⟨⟨feature, hf, hsensitive⟩, ?_⟩
      rcases List.mem_pair.mp hs with rfl | rfl
      · exact .inl (List.mem_singleton.mp ho)
      · exact .inr (List.mem_singleton.mp ho)

end Withdrawn

/-- Of the features of a kind, an implementation's test file, the options it is run with and the
report about its support show just those that the implementation still has, by their names and its
own support. Neither the table nor the lint shows a feature that is withdrawn everywhere. No option
comes from a feature that the implementation has lost. -/
theorem withdrawn_features_leave_no_trace (kind : Kind) (i : Implementation) (ladder : Ladder) :
    (∀ a b : Registry, a.SeenAlike b kind i →
      a.testFile kind i ladder = b.testFile kind i ladder ∧
      a.optionSets kind i = b.optionSets kind i ∧
      ∀ as bs, a.lint ladder = .ok as → b.lint ladder = .ok bs →
        ∃ report, as.filter (·.isAbout kind (some i)) = [report] ∧
          bs.filter (·.isAbout kind (some i)) = [report]) ∧
    ∀ registry : Registry,
      (registry.without (·.removed)).summaryTable kind ladder =
        registry.summaryTable kind ladder ∧
      (registry.without (·.removed)).historyReport kind ladder =
        registry.historyReport kind ladder ∧
      (registry.without (·.removed)).lint ladder = registry.lint ladder ∧
      ∀ set ∈ registry.optionSets kind i, ∀ option ∈ set,
        (∃ feature ∈ registry.active kind i,
          ∃ s ∈ (feature.supportFor i).facts.flatMap (·.switches),
            option = s.spelling ∨ option = s.define) ∨
        ((∃ feature ∈ registry.active kind i, (feature.supportFor i).isStrictSensitive = true) ∧
          (option = "-pedantic" ∨ option = "-DNO_pedantic=1")) := by
  refine ⟨?_, ?_⟩
  · intro a b h
    refine ⟨h.test_file ladder, h.option_sets, ?_⟩
    intro as bs has hbs
    obtain ⟨report, hreport, hone⟩ := lint_support has kind i
    obtain ⟨report', hreport', hone'⟩ := lint_support hbs kind i
    rw [h.support_report, hreport', Except.ok.injEq] at hreport
    exact ⟨report, hone, hreport ▸ hone'⟩
  · intro registry
    exact ⟨summary_table_without, history_report_without, lint_without,
      fun _ hs _ ho => option_origin hs ho⟩

/-- Lambdas, as one implementation has them. -/
def lambdaSupport : SupportList :=
  ⟨[{ value := 200907, disabledBy := [⟨"-fplain", "HASOPT_fplain", by rfl⟩] }], false⟩

/-- Concepts that `gcc` dropped, and a library feature withdrawn everywhere. -/
def busyRegistry : Registry where
  entries := [
    { name := "__cpp_concepts"
      kind := .language
      support := fun
        | .gcc => some ⟨[{ value := 201507, strictSensitive := true }], true⟩
        | _ => some ⟨[{ value := 201907, since := some "C++20" }], false⟩ },
    { name := "__cpp_lambdas"
      kind := .language
      rows := [{ value := 200907, description := some "Lambdas" }]
      support := fun _ => some lambdaSupport },
    { name := "__cpp_lib_gone", kind := .library, removed := true }]

def bareRegistry : Registry where
  entries := [
    { name := "__cpp_lambdas"
      kind := .language
      support := fun
        | .gcc => some lambdaSupport
        | _ => none }]

theorem busy_registry_seen_bare :
    busyRegistry.SeenAlike bareRegistry .language .gcc ∧
      busyRegistry.testFile .language .gcc .cpp = bareRegistry.testFile .language .gcc .cpp ∧
      busyRegistry.optionSets .language .gcc = bareRegistry.optionSets .language .gcc ∧
      ∃ as bs report, busyRegistry.lint .cpp = .ok as ∧ bareRegistry.lint .cpp = .ok bs ∧
        as.filter (·.isAbout .language (some .gcc)) = [report] ∧
        bs.filter (·.isAbout .language (some .gcc)) = [report] := by
  have h : busyRegistry.SeenAlike bareRegistry .language .gcc := rfl
  obtain ⟨hsame, -⟩ := withdrawn_features_leave_no_trace .language .gcc .cpp
  obtain ⟨hfile, hsets, hlint⟩ := hsame busyRegistry bareRegistry h
  obtain ⟨as, has⟩ : ∃ as, busyRegistry.lint .cpp = .ok as := ⟨_, rfl⟩
  obtain ⟨bs, hbs⟩ : ∃ bs, bareRegistry.lint .cpp = .ok bs := ⟨_, rfl⟩
  obtain ⟨report, ha, hb⟩ := hlint as bs has hbs
  exact ⟨h, hfile, hsets, as, bs, report, has, hbs, ha, hb⟩

end Registry
end FeatureTest
