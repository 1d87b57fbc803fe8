import Mathlib.Data.Finset.Card
import Mathlib.Data.List.Sort
import Mathlib.Data.String.Basic
import FeatureTest.Proofs.BlockNesting
import FeatureTest.Proofs.WellFormed
import FeatureTest.Proofs.Withdrawal

/-!
The options that a test file is to be run with: which sets they are, in which order, and that the
head of the file lists them.
-/
namespace FeatureTest
open Success

namespace OptionSet

variable {s : OptionSet} {sets : List OptionSet}

theorem insert_increasing (h : sets.Pairwise (· < ·)) : (insert s sets).Pairwise (· < ·) := by
  induction sets with
  | nil => exact List.pairwise_singleton _ _
  | cons t rest ih =>
    obtain ⟨habove, hrest⟩ := List.pairwise_cons.mp h
    unfold insert
    split
    · rename_i hlt
      apply List.pairwise_cons.mpr
      refine ⟨?_, h⟩
      intro u hu
      rcases List.mem_cons.mp hu with rfl | hu
      · exact hlt
      · exact lt_trans hlt (habove u hu)
    · rename_i hnot
      split
      · exact h
      · rename_i hne
        apply List.pairwise_cons.mpr
        refine ⟨?_, ih hrest⟩
        intro u hu
        rcases mem_insert.mp hu with rfl | hu
        · exact lt_of_le_of_ne (not_lt.mp hnot) (Ne.symm hne)
        · exact habove u hu

theorem sorted_increasing (sets : List OptionSet) : (sorted sets).Pairwise (· < ·) := by
  induction sets with
  | nil => exact .nil
  | cons s rest ih => exact insert_increasing ih

theorem length_of_increasing (h : sets.Pairwise (· < ·)) : sets.length = sets.toFinset.card := by
  have hnodup : sets.Nodup := h.imp fun hlt => ne_of_lt hlt
  exact (List.toFinset_card_of_nodup hnodup).symm

end OptionSet

theorem Switch.unbroken_spelling (s : Switch) : Unbroken s.spelling := by
  intro h
  have hname := mem_presence_name h (by decide)
  rw [← identifier_chars] at hname
  exact unbroken_identifier s hname

theorem Switch.unbroken_define (s : Switch) : Unbroken s.define := by
  have hidentifier := unbroken_identifier s
  unfold Unbroken at hidentifier ⊢
  rw [define_chars]
  simp [hidentifier]

/-- One feature and another that an implementation sees as that one with its facts in some other
order. -/
structure Feature.Reordered (i : Implementation) (a b : Feature) : Prop where
  removed : a.isRemovedFor i = b.isRemovedFor i
  facts : (a.supportFor i).facts.Perm (b.supportFor i).facts

namespace Feature

variable {i : Implementation} {a b : Feature} {set : OptionSet}

theorem Reordered.mem_option_sets (h : a.Reordered i b) :
    set ∈ (a.supportFor i).optionSets ↔ set ∈ (b.supportFor i).optionSets := by
  have hswitches := h.facts.flatMap_right (·.switches)
  simp only [SupportList.mem_option_sets, hswitches.mem_iff]

theorem Reordered.sensitive (h : a.Reordered i b) :
    (a.supportFor i).isStrictSensitive = (b.supportFor i).isStrictSensitive :=
  h.facts.any_eq

end Feature

def isOptionLine (line : String) : Bool := "//    ".toList.isPrefixOf line.toList

/-- The option lines that a test file starts with, under their heading. -/
def listedOptions (text : String) : Option (List String) :=
  match textLines text with
  | [] => none
  | heading :: rest =>
    if heading = "// Run with options:" then
      some (rest.takeWhile isOptionLine)
    else none

def optionLine (set : OptionSet) : String := "//    " ++ " ".intercalate set

namespace Registry

/-- The option sets that the active features ask for, and the empty one. -/
def askedSets (registry : Registry) (kind : Kind) (i : Implementation) : Finset OptionSet :=
  insert [] ((registry.active kind i).flatMap fun f => (f.supportFor i).optionSets).toFinset

def ReactsToStrictMode (registry : Registry) (kind : Kind) (i : Implementation) : Prop :=
  ∃ feature ∈ registry.active kind i, (feature.supportFor i).isStrictSensitive = true

/-- Two registries that have the same features of a kind, in any order, each with the same facts in
any order. -/
def Rearranged (a b : Registry) (kind : Kind) (i : Implementation) : Prop :=
  ∃ between, (a.features kind).Perm between ∧
    List.Forall₂ (Feature.Reordered i) between (b.features kind)

section Sets

variable {registry : Registry} {kind : Kind} {i : Implementation} {set : OptionSet}

theorem mem_asked : set ∈ registry.askedSets kind i ↔
    set = [] ∨ ∃ feature ∈ registry.active kind i, set ∈ (feature.supportFor i).optionSets := by
  simp only [askedSets, Finset.mem_insert, List.mem_toFinset, List.mem_flatMap]

theorem option_sets_increasing : (registry.optionSets kind i).Pairwise (· < ·) := by
  unfold optionSets
  dsimp only
  split
  · exact OptionSet.sorted_increasing _
  · exact OptionSet.sorted_increasing _

/-- The sets that are collected before strict mode is looked at. -/
theorem mem_collected :
    set ∈ [] :: ((registry.active kind i).map (·.supportFor i)).flatMap (·.optionSets) ↔
      set ∈ registry.askedSets kind i := by
  simp only [mem_asked, List.mem_cons, List.mem_flatMap, List.mem_map, exists_exists_and_eq_and]

theorem mem_option_sets_plain (h : ¬ registry.ReactsToStrictMode kind i) :
    set ∈ registry.optionSets kind i ↔ set ∈ registry.askedSets kind i := by
  have hnone : ((registry.active kind i).map (·.supportFor i)).findSome? (·.strictVariants) =
      none := by
    rw [List.findSome?_eq_none_iff]
    intro support hs
    obtain ⟨feature, hf, rfl⟩ := List.mem_map.mp hs
    unfold SupportList.strictVariants
    rw [if_neg]
    intro hsensitive
    exact h ⟨feature, hf, hsensitive⟩
  unfold optionSets
  simp only [hnone]
  rw [OptionSet.mem_sorted, mem_collected]

/-- In strict mode nothing is added twice: the set that passes strict mode alone is the empty set
in that mode. -/
theorem mem_option_sets_strict (h : registry.ReactsToStrictMode kind i) :
    set ∈ registry.optionSets kind i ↔
      (∃ asked ∈ registry.askedSets kind i, "-pedantic" :: asked = set) ∨
        set = ["-DNO_pedantic=1"] := by
  have hsome : ((registry.active kind i).map (·.supportFor i)).findSome? (·.strictVariants) =
      some ("-pedantic", "-DNO_pedantic=1") := by
    obtain ⟨feature, hf, hsensitive⟩ := h
    cases hfound : ((registry.active kind i).map (·.supportFor i)).findSome?
        (·.strictVariants) with
    | none =>
      have hnone := List.findSome?_eq_none_iff.mp hfound _ (List.mem_map_of_mem hf)
      simp [SupportList.strictVariants, hsensitive] at hnone
    | some variants =>
      obtain ⟨support, -, hvariants⟩ := List.exists_of_findSome?_eq_some hfound
      obtain ⟨-, hstrict, hlenient⟩ := SupportList.strict_variants_eq_some.mp hvariants
      rw [← hstrict, ← hlenient]
  have hempty : ([] : OptionSet) ∈ registry.askedSets kind i := mem_asked.mpr (.inl rfl)
  unfold optionSets
  simp only [hsome]
  rw [OptionSet.mem_sorted, List.mem_append, List.mem_map]
  simp only [mem_collected, pedanticSwitch, List.mem_pair]
  constructor
  · intro hm
    rcases hm with hm | rfl | rfl
    · exact .inl hm
    · exact .inl ⟨[], hempty, rfl⟩
    · exact .inr rfl
  · intro hm
    rcases hm with hm | rfl
    · exact .inl hm
    · exact .inr (.inr rfl)

end Sets

section Rearranging

variable {a b : Registry} {kind : Kind} {i : Implementation}

theorem Rearranged.exists_active (h : a.Rearranged b kind i) {P Q : Feature → Prop}
    (hpq : ∀ f g, f.Reordered i g → (P f ↔ Q g)) :
    (∃ f ∈ a.active kind i, P f) ↔ ∃ g ∈ b.active kind i, Q g := by
  obtain ⟨between, hperm, hall⟩ := h
  have hnone : (∀ f ∈ between, f.isRemovedFor i = false → ¬ P f) ↔
      ∀ g ∈ b.features kind, g.isRemovedFor i = false → ¬ Q g := by
    apply forall_partners hall
    intro f g hfg
    rw [hfg.removed, hpq f g hfg]
  simp only [hperm.mem_iff.symm] at hnone
  rw [← not_iff_not]
  simpa [active] using hnone

theorem Rearranged.asked (h : a.Rearranged b kind i) :
    a.askedSets kind i = b.askedSets kind i := by
  ext set
  rw [mem_asked, mem_asked, h.exists_active fun f g hfg => hfg.mem_option_sets]

theorem Rearranged.strict (h : a.Rearranged b kind i) :
    a.ReactsToStrictMode kind i ↔ b.ReactsToStrictMode kind i :=
  h.exists_active fun f g hfg => by rw [hfg.sensitive]

theorem Rearranged.option_sets (h : a.Rearranged b kind i) :
    a.optionSets kind i = b.optionSets kind i := by
  apply option_sets_increasing.eq_of_mem_iff option_sets_increasing
  intro set
  by_cases hs : a.ReactsToStrictMode kind i
  · rw [mem_option_sets_strict hs, mem_option_sets_strict (h.strict.mp hs), h.asked]
  · rw [mem_option_sets_plain hs, mem_option_sets_plain (mt h.strict.mpr hs), h.asked]

end Rearranging

section Heading

variable {registry : Registry} {kind : Kind} {i : Implementation} {ladder : Ladder}

/-- The first line begins as the text does, unless it is empty. -/
theorem first_line (text : String) :
    ∃ first later, textLines text = first :: later ∧
      ∀ c ∈ first.toList.head?, c ∈ text.toList.head? := by
  unfold textLines
  cases text.toList with
  | nil => exact ⟨"", [], rfl, by simp⟩
  | cons d ds =>
    rw [List.splitOn_cons_eq_if_modifyHead]
    split
    · exact ⟨"", _, rfl, by simp⟩
    · obtain ⟨part, parts, hparts⟩ := List.exists_cons_of_ne_nil (List.splitOn_ne_nil '\n' ds)
      rw [hparts]
      exact ⟨_, _, rfl, by simp⟩

theorem option_header_lines {sets : List OptionSet} (hne : sets ≠ []) (h : sets ≠ [[]]) :
    optionHeader sets = String.join
      (("// Run with options:" :: sets.map optionLine).map (· ++ "\n")) := by
  have hshown : sets.length > 1 ∨ sets.any (!·.isEmpty) = true := by
    cases sets with
    | nil => exact absurd rfl hne
    | cons set rest =>
      cases rest with
      | nil => cases set <;> simp at h ⊢
      | cons => simp
  unfold optionHeader
  rw [if_pos hshown]
  rw [List.map_cons, String.join_cons, List.map_map]
  rfl

theorem option_sets_ne_nil : registry.optionSets kind i ≠ [] := by
  have hempty : ([] : OptionSet) ∈ registry.askedSets kind i := mem_asked.mpr (.inl rfl)
  intro h
  by_cases hs : registry.ReactsToStrictMode kind i
  · have hm := (mem_option_sets_strict hs).mpr (.inl ⟨[], hempty, rfl⟩)
    simp [h] at hm
  · have hm := (mem_option_sets_plain hs).mpr hempty
    simp [h] at hm

theorem unbroken_option_line {set : OptionSet} (hs : set ∈ registry.optionSets kind i) :
    Unbroken (optionLine set) := by
  apply unbroken_append.mpr
  refine ⟨by decide, unbroken_intercalate (by decide) ?_⟩
  intro option ho
  rcases option_origin hs ho with ⟨-, -, s, -, rfl | rfl⟩ | ⟨-, rfl | rfl⟩
  · exact s.unbroken_spelling
  · exact s.unbroken_define
  · decide
  · decide

theorem block_start {feature : Feature} {text : String} (h : feature.block i ladder = .ok text) :
    text.toList.head? = some '\n' := by
  unfold Feature.block at h
  split at h
  · cases h
    simp [toString]
  · cases h

-- the literal is spelt out character by character, deeper than the default allows
set_option maxRecDepth 3000 in
theorem library_prologue_start : ∃ cs, libraryPrologue = String.ofList ('#' :: cs) := ⟨_, rfl⟩

/-- What follows the options in a test file does not look like one of their lines. -/
theorem body_start {blocks : List String}
    (h : (registry.active kind i).mapM (·.block i ladder) = .ok blocks) :
    '/' ∉ (kind.prologue ++ String.join blocks).toList.head? := by
  have hblocks : '/' ∉ (String.join blocks).toList.head? := by
    cases blocks with
    | nil => simp
    | cons block later =>
      obtain ⟨feature, -, hblock⟩ := mapM_origin h block List.mem_cons_self
      simp [List.head?_append, block_start hblock]
  cases kind with
  | library =>
    obtain ⟨cs, hstart⟩ := library_prologue_start
    simp [Kind.prologue, hstart]
  | attributes | language => simpa [Kind.prologue] using hblocks

/-- The options are read back from the head of a test file. -/
theorem listed_of_test_file {text : String} (h : registry.testFile kind i ladder = .ok text) :
    listedOptions text = if registry.optionSets kind i = [[]] then none
      else some ((registry.optionSets kind i).map optionLine) := by
  obtain ⟨blocks, hblocks, htext⟩ := bind_eq_ok.mp h
  have hbody := body_start hblocks
  rw [pure_eq_ok] at htext
  obtain ⟨first, later, hlines, hfirst⟩ := first_line (kind.prologue ++ String.join blocks)
  have hplain : '/' ∉ first.toList.head? := fun hm => hbody (hfirst _ hm)
  subst htext
  rw [String.append_assoc]
  split
  · rename_i hsets
    have hempty : optionHeader (registry.optionSets kind i) = "" := by
      rw [hsets]
      rfl
    have hheading : first ≠ "// Run with options:" := by
      rintro rfl
      exact hplain rfl
    rw [hempty, String.empty_append]
    unfold listedOptions
    rw [hlines]
    exact if_neg hheading
  · rename_i hsets
    have hunbroken : ∀ line ∈ "// Run with options:" ::
        (registry.optionSets kind i).map optionLine, Unbroken line := by
      refine List.forall_mem_cons.mpr ⟨by decide, ?_⟩
      intro line hl
      obtain ⟨set, hs, rfl⟩ := List.mem_map.mp hl
      exact unbroken_option_line hs
    rw [option_header_lines option_sets_ne_nil hsets]
    unfold listedOptions
    rw [text_lines_append hunbroken, hlines]
    have hmarked : ∀ line ∈ (registry.optionSets kind i).map optionLine,
        isOptionLine line = true := by
      intro line hl
      obtain ⟨set, -, rfl⟩ := List.mem_map.mp hl
      simp [isOptionLine, optionLine]
    have hends : ¬ isOptionLine first = true := by
      intro hm
      obtain ⟨rest, hrest⟩ := List.isPrefixOf_iff_prefix.mp hm
      exact hplain (by rw [← hrest]; rfl)
    simp only [List.cons_append, ↓reduceIte, Option.some.injEq]
    rw [List.takeWhile_append_of_pos hmarked, List.takeWhile_cons_of_neg hends,
      List.append_nil]

end Heading

/-- A test file is run with the sets that its features ask for. Where one of them reacts to strict
mode, each of these sets is passed in that mode, and one more announces its absence. The sets come
in lexicographic order, whatever the order of the features and of their facts, and the file lists
them in that order unless there is but the empty one. -/
theorem test_options_exact (registry : Registry) (kind : Kind) (i : Implementation) :
    (¬ registry.ReactsToStrictMode kind i →
      (registry.optionSets kind i).toFinset = registry.askedSets kind i) ∧
    (registry.ReactsToStrictMode kind i →
      (registry.optionSets kind i).toFinset =
        (registry.askedSets kind i).image ("-pedantic" :: ·) ∪ {["-DNO_pedantic=1"]} ∧
      (registry.optionSets kind i).length = (registry.askedSets kind i).card + 1) ∧
    (registry.optionSets kind i).Pairwise (· < ·) ∧
    (∀ other, registry.Rearranged other kind i →
      other.optionSets kind i = registry.optionSets kind i) ∧
    ∀ ladder,
      ((∀ feature ∈ registry.active kind i,
          AcceptedFacts (feature.supportFor i).facts ladder) →
        ∃ text, registry.testFile kind i ladder = .ok text) ∧
      ∀ text, registry.testFile kind i ladder = .ok text →
        listedOptions text = if registry.optionSets kind i = [[]] then none
          else some ((registry.optionSets kind i).map optionLine) := by
  have hstrict (h : registry.ReactsToStrictMode kind i) :
      (registry.optionSets kind i).toFinset =
        (registry.askedSets kind i).image ("-pedantic" :: ·) ∪ {["-DNO_pedantic=1"]} := by
    ext set
    simp only [List.mem_toFinset, mem_option_sets_strict h, Finset.mem_union, Finset.mem_image,
      Finset.mem_singleton]
  refine ⟨?_, ?_, option_sets_increasing, fun _ h => h.option_sets.symm, ?_⟩
  · intro h
    ext set
    rw [List.mem_toFinset, mem_option_sets_plain h]
  · intro h
    refine ⟨hstrict h, ?_⟩
    have hinjective : Function.Injective fun set : OptionSet => "-pedantic" :: set :=
      List.cons_injective
    have hapart : ["-DNO_pedantic=1"] ∉
        (registry.askedSets kind i).image ("-pedantic" :: ·) := by
      simp
    rw [OptionSet.length_of_increasing option_sets_increasing, hstrict h, Finset.union_comm,
      Finset.singleton_union, Finset.card_insert_of_notMem hapart,
      Finset.card_image_of_injective _ hinjective]
  · intro ladder
    refine ⟨?_, fun text h => listed_of_test_file h⟩
    intro haccepted
    refine bind_succeeds (mapM_succeeds.mpr ?_) fun blocks _ => ⟨_, rfl⟩
    intro feature hf
    exact Feature.block_succeeds (haccepted feature hf)

/-- A toggled feature, and one with two facts of one value, of which strict mode suppresses one. -/
def togglingRegistry : Registry where
  entries := [
    { name := "__cpp_rtti"
      kind := .language
      support := fun _ => some ⟨[
        { value := 199711
          toggles := [⟨⟨"-frtti", "HASOPT_frtti", by rfl⟩, ⟨"-fno-rtti", "HASOPT_fno_rtti", by rfl⟩,
            by rfl⟩] }], false⟩ },
    { name := "__cpp_modules"
      kind := .language
      support := fun _ => some ⟨[
        { value := 201907, enabledBy := [⟨"-fmodules", "HASOPT_fmodules", by rfl⟩] },
        { value := 201907, since := some "C++20", strictSensitive := true }], false⟩ }]

/-- The same features the other way round, and the equal values too. -/
def turnedRegistry : Registry where
  entries := [
    { name := "__cpp_modules"
      kind := .language
      support := fun _ => some ⟨[
        { value := 201907, since := some "C++20", strictSensitive := true },
        { value := 201907, enabledBy := [⟨"-fmodules", "HASOPT_fmodules", by rfl⟩] }],
        false⟩ },
    togglingRegistry.entries[0]]

theorem toggling_options_listed :
    togglingRegistry.ReactsToStrictMode .language .gcc ∧
      togglingRegistry.Rearranged turnedRegistry .language .gcc ∧
      (∀ feature ∈ togglingRegistry.active .language .gcc,
        AcceptedFacts (feature.supportFor .gcc).facts .cpp) ∧
      (togglingRegistry.optionSets .language .gcc).length =
        (togglingRegistry.askedSets .language .gcc).card + 1 ∧
      turnedRegistry.optionSets .language .gcc = togglingRegistry.optionSets .language .gcc ∧
      ∃ text, togglingRegistry.testFile .language .gcc .cpp = .ok text ∧
        listedOptions text =
          some ((togglingRegistry.optionSets .language .gcc).map optionLine) := by
  have hactive : togglingRegistry.active .language .gcc = togglingRegistry.entries := rfl
  have hstrict : togglingRegistry.ReactsToStrictMode .language .gcc :=
    ⟨togglingRegistry.entries[1], by rw [hactive]; exact List.getElem_mem _, rfl⟩
  have hturned : togglingRegistry.Rearranged turnedRegistry .language .gcc :=
    ⟨_, .swap togglingRegistry.entries[1] togglingRegistry.entries[0] [],
      .cons ⟨rfl, .swap _ _ []⟩ (.cons ⟨rfl, .refl _⟩ .nil)⟩
  have haccepted : ∀ feature ∈ togglingRegistry.active .language .gcc,
      AcceptedFacts (feature.supportFor .gcc).facts .cpp := by
    have hchecked : ∀ feature ∈ togglingRegistry.entries,
        SupportList.ofFacts (feature.supportFor .gcc).facts false .cpp =
          .ok ⟨(feature.supportFor .gcc).facts, false⟩ :=
      List.forall_mem_cons.mpr ⟨rfl, List.forall_mem_singleton.mpr rfl⟩
    intro feature hf
    rw [hactive] at hf
    exact (SupportList.of_facts_eq_ok.mp (hchecked feature hf)).1
  obtain ⟨-, hcount, -, hother, hfile⟩ := test_options_exact togglingRegistry .language .gcc
  obtain ⟨hmade, hlisted⟩ := hfile .cpp
  obtain ⟨text, htext⟩ := hmade haccepted
  have hsome : togglingRegistry.optionSets .language .gcc ≠ [[]] := by
    intro h
    have hm := (mem_option_sets_strict hstrict).mpr (.inr rfl)
    simp [h] at hm
  refine ⟨hstrict, hturned, haccepted, (hcount hstrict).2, hother _ hturned, text, htext, ?_⟩
  rw [hlisted text htext, if_neg hsome]

end Registry
end FeatureTest
