import FeatureTest.Import
import FeatureTest.Proofs.ValueParts

/-!
What an import leaves alone. Of the whole document it changes the gcc support of the features that
macros name, and nothing around it; a second import of the same macros changes nothing at all.
-/
namespace FeatureTest.Import
open VersionDef (LibraryMacro)
open Yaml (Value)

variable {Tag : Type}

/-- The list of a document's library section, as the section has it and without its tags. -/
structure LibrarySection (document list : Value Tag) (library : List (Value Tag)) : Prop where
  key : Value.Has "library" list document
  items : Value.Below (.list library) list

/-- A feature that goes by a name. -/
def Named (name : String) (feature : Value Tag) : Prop :=
  ∃ v, Value.Has "name" v feature ∧ Value.Below (.text name) v

/-- The place of the first feature of a name. -/
structure FirstNamed (library : List (Value Tag)) (name : String) (i : Nat) : Prop where
  named : ∃ feature, library[i]? = some feature ∧ Named name feature
  first : ∀ j < i, ∀ feature, library[j]? = some feature → ¬ Named name feature

/-- A feature's support with another gcc entry: the one it has, of which nothing else changes, or a
new map where that is missing or no map. -/
inductive UpdatedSupport (m : LibraryMacro) (feature support' : Value Tag) : Prop
  | kept {support : Value Tag} (has : Value.Has "support" support feature)
      (gcc : Value.SetsKey "gcc" (.list m.support) support support')
  | fresh (none : ∀ support, Value.Has "support" support feature →
        ∀ entries, ¬ Value.Below (.map entries) support)
      (new : support' = .map [(.text "gcc", .list m.support)])

/-- A feature of which nothing but the gcc entry of its support is set anew. -/
def Updated (m : LibraryMacro) (feature feature' : Value Tag) : Prop :=
  ∃ support', UpdatedSupport m feature support' ∧
    Value.SetsKey "support" support' feature feature'

/-- A macro that no later one of the list shares its name with. -/
def LastOfName (ms : List LibraryMacro) (m : LibraryMacro) : Prop :=
  ∃ before after, ms = before ++ m :: after ∧ ∀ later ∈ after, later.name ≠ m.name

/-- A library in which the first feature of each name is set to what the last macro of that name
says, and each other item is what it was. -/
structure Imported (ms : List LibraryMacro) (library library' : List (Value Tag)) : Prop where
  length : library'.length = library.length
  updated : ∀ m i feature, LastOfName ms m → FirstNamed library m.name i →
    library[i]? = some feature →
      ∃ feature', library'[i]? = some feature' ∧ Updated m feature feature'
  untouched : ∀ i, (∀ m ∈ ms, ¬ FirstNamed library m.name i) → library'[i]? = library[i]?

section Features

variable {m earlier : LibraryMacro} {feature : Value Tag} {name other : String}

theorem named_iff : Named name feature ↔ isNamed name feature = true := by
  simp only [isNamed, beq_iff_eq, Option.bind_eq_some_iff, Value.get_eq_some, Value.text_eq_some,
    Named]

instance : Decidable (Named name feature) := decidable_of_iff _ named_iff.symm

theorem name_unique (h : isNamed name feature = true) (h' : isNamed other feature = true) :
    name = other := by
  rw [isNamed, beq_iff_eq] at h h'
  exact Option.some.inj (h.symm.trans h')

theorem map_of_named (h : isNamed name feature = true) : feature.entries?.isSome = true := by
  unfold isNamed Value.get? at h
  cases he : feature.entries? with
  | none => simp [he] at h
  | some entries => rfl

theorem isNamed_update : isNamed name (updateFeature m feature) = isNamed name feature := by
  rw [isNamed, updateFeature, Value.get_set_other (by decide), isNamed]

/-- The support that an update starts from is a map in any case. -/
theorem support_base_is_map (support : Option (Value Tag)) :
    ((support.filter (·.entries?.isSome)).getD (.map [])).entries?.isSome = true := by
  cases h : support.filter (·.entries?.isSome) with
  | none => rfl
  | some v => exact (Option.filter_eq_some_iff.mp h).2

theorem update_support_is_map (support : Option (Value Tag)) :
    (updateSupport m support).entries?.isSome = true := by
  rw [updateSupport, Value.entries_set, Option.isSome_map]
  exact support_base_is_map support

/-- Of two updates the later one decides. -/
theorem update_support_twice (support : Option (Value Tag)) :
    updateSupport m (some (updateSupport earlier support)) = updateSupport m support := by
  have hkept : (some (updateSupport earlier support)).filter (·.entries?.isSome) =
      some (updateSupport earlier support) := by
    simp [Option.filter, update_support_is_map]
  rw [updateSupport, hkept, Option.getD_some, updateSupport, Value.set_set, updateSupport]

theorem update_update :
    updateFeature m (updateFeature earlier feature) = updateFeature m feature := by
  by_cases h : feature.entries?.isSome = true
  · rw [updateFeature, updateFeature, Value.get_set_same h, update_support_twice, Value.set_set,
      updateFeature]
  · have hsame : ∀ m : LibraryMacro, updateFeature m feature = feature := by
      intro m
      rw [updateFeature, Value.set, Option.not_isSome_iff_eq_none.mp h]
    rw [hsame, hsame]

theorem updated_support (m : LibraryMacro) (feature : Value Tag) :
    UpdatedSupport m feature (updateSupport m (feature.get? "support")) := by
  cases h : (feature.get? "support").filter (·.entries?.isSome) with
  | some support =>
    obtain ⟨hget, hmap⟩ := Option.filter_eq_some_iff.mp h
    refine .kept (Value.get_eq_some.mp hget) ?_
    rw [updateSupport, h]
    exact Value.set_sets_key hmap
  | none =>
    refine .fresh ?_ ?_
    · intro support hs entries hbelow
      rw [Value.get_eq_some.mpr hs, Option.filter_eq_none_iff] at h
      refine h support rfl ?_
      rw [Value.entries_eq_some.mpr hbelow]
      rfl
    · rw [updateSupport, h]
      rfl

theorem updated_of_named (h : isNamed name feature = true) :
    Updated m feature (updateFeature m feature) :=
  ⟨_, updated_support m feature, Value.set_sets_key (map_of_named h)⟩

end Features

/-- The place of the first feature that a macro names, as it is looked for. -/
def place? (library : List (Value Tag)) (m : LibraryMacro) : Option Nat :=
  library.findIdx? (isNamed m.name)

/-- The macro that has the last word on a place. -/
def lastFor? (ms : List LibraryMacro) (library : List (Value Tag)) (i : Nat) :
    Option LibraryMacro :=
  ms.reverse.find? fun m => place? library m == some i

/-- What becomes of each item of a library. -/
def settled (ms : List LibraryMacro) (library : List (Value Tag)) : List (Value Tag) :=
  library.mapIdx fun i feature =>
    match lastFor? ms library i with
    | some m => updateFeature m feature
    | none => feature

/-- Each macro under what became of it. -/
def summaryOf (ms : List LibraryMacro) (library : List (Value Tag)) : ImportSummary where
  updated := (ms.map (·.name)).filter fun name => library.any (isNamed name)
  missing := (ms.map (·.name)).filter fun name => !library.any (isNamed name)

/-- Two libraries in which the same items have the same names. -/
def SameNames (library library' : List (Value Tag)) : Prop :=
  ∀ name, library'.map (isNamed name) = library.map (isNamed name)

section Steps

variable {m : LibraryMacro} {ms : List LibraryMacro} {library library' : List (Value Tag)} {i : Nat}

theorem update_first_eq (m : LibraryMacro) (library : List (Value Tag)) :
    updateFirst? m library =
      (place? library m).map fun i => library.modify i (updateFeature m) := by
  unfold place?
  induction library with
  | nil => rfl
  | cons feature rest ih =>
    rw [updateFirst?, List.findIdx?_cons]
    by_cases hn : isNamed m.name feature = true
    · simp [hn]
    · simp [hn, ih, Function.comp_def]

theorem SameNames.place (h : SameNames library library') :
    place? library' m = place? library m := by
  have hmap : ∀ items : List (Value Tag),
      place? items m = (items.map (isNamed m.name)).findIdx? id := by
    intro items
    rw [List.findIdx?_map]
    rfl
  rw [hmap, hmap, h]

theorem SameNames.any (h : SameNames library library') {name : String} :
    library'.any (isNamed name) = library.any (isNamed name) := by
  have hmap : ∀ items : List (Value Tag),
      items.any (isNamed name) = (items.map (isNamed name)).any id := by
    intro items
    rw [List.any_map]
    rfl
  rw [hmap, hmap, h]

theorem SameNames.last (h : SameNames library library') :
    lastFor? ms library' i = lastFor? ms library i := by
  simp only [lastFor?, h.place]

theorem same_names_modify (m : LibraryMacro) (library : List (Value Tag)) (i : Nat) :
    SameNames library (library.modify i (updateFeature m)) := by
  intro name
  apply List.ext_getElem?
  intro j
  simp only [List.getElem?_map, List.getElem?_modify]
  split
  · cases library[j]? <;> simp [isNamed_update]
  · simp

theorem same_names_settled (ms : List LibraryMacro) (library : List (Value Tag)) :
    SameNames library (settled ms library) := by
  intro name
  apply List.ext_getElem?
  intro j
  simp only [settled, List.getElem?_map, List.getElem?_mapIdx]
  cases library[j]? with
  | none => rfl
  | some feature =>
    cases lastFor? ms library j <;> simp [isNamed_update]

theorem named_of_place (h : place? library m = some i) :
    ∃ feature, library[i]? = some feature ∧ isNamed m.name feature = true := by
  obtain ⟨hi, hnamed, -⟩ := List.findIdx?_eq_some_iff_getElem.mp h
  exact ⟨library[i], List.getElem?_eq_getElem hi, hnamed⟩

theorem place_isSome : (place? library m).isSome = library.any (isNamed m.name) :=
  List.findIdx?_isSome

end Steps

theorem last_for_cons {m : LibraryMacro} {ms : List LibraryMacro} {library : List (Value Tag)}
    {i : Nat} :
    lastFor? (m :: ms) library i =
      (lastFor? ms library i).or (if place? library m = some i then some m else none) := by
  simp only [lastFor?, List.reverse_cons, List.find?_append, List.find?_singleton, beq_iff_eq]

/-- A later macro finds each feature where an earlier one left it. -/
theorem settled_cons {m : LibraryMacro} {ms : List LibraryMacro} {library : List (Value Tag)}
    {i : Nat} (h : place? library m = some i) :
    settled (m :: ms) library = settled ms (library.modify i (updateFeature m)) := by
  apply List.ext_getElem?
  intro j
  simp only [settled, List.getElem?_mapIdx, (same_names_modify m library i).last, last_for_cons, h,
    List.getElem?_modify, Option.some.injEq]
  cases library[j]? with
  | none => simp
  | some feature =>
    cases lastFor? ms library j with
    | some later => by_cases hj : i = j <;> simp [hj, update_update]
    | none => by_cases hj : i = j <;> simp [hj]

theorem settled_cons_missing {m : LibraryMacro} {ms : List LibraryMacro}
    {library : List (Value Tag)} (h : place? library m = none) :
    settled (m :: ms) library = settled ms library := by
  simp only [settled, last_for_cons, h, reduceCtorEq, ↓reduceIte, Option.or_none]

/-- All macros together: each feature is updated once, and the summary names every macro. -/
theorem update_library_eq (ms : List LibraryMacro) (library : List (Value Tag)) :
    updateLibrary ms library = (settled ms library, summaryOf ms library) := by
  induction ms generalizing library with
  | nil =>
    have hsettled : settled [] library = library := List.mapIdx_eq_iff.mpr (by simp [lastFor?])
    rw [updateLibrary, hsettled]
    rfl
  | cons m ms ih =>
    rw [updateLibrary, update_first_eq]
    cases hp : place? library m with
    | some i =>
      have hany : library.any (isNamed m.name) = true := by rw [← place_isSome, hp]; rfl
      have hnames := same_names_modify m library i
      simp only [Option.map_some, ih, settled_cons hp, summaryOf, hnames.any, List.map_cons,
        List.filter_cons, hany]
      rfl
    | none =>
      have hany : library.any (isNamed m.name) = false := by rw [← place_isSome, hp]; rfl
      simp only [Option.map_none, ih, settled_cons_missing hp, summaryOf, List.map_cons,
        List.filter_cons, hany]
      rfl

/-- Once settled, a library stays as it is. -/
theorem settled_settled (ms : List LibraryMacro) (library : List (Value Tag)) :
    settled ms (settled ms library) = settled ms library := by
  apply List.ext_getElem?
  intro j
  rw [settled, List.getElem?_mapIdx, (same_names_settled ms library).last, settled,
    List.getElem?_mapIdx]
  cases library[j]? with
  | none => rfl
  | some feature => cases lastFor? ms library j <;> simp [update_update]

theorem last_for_eq_some {ms : List LibraryMacro} {m : LibraryMacro} {library : List (Value Tag)}
    {i : Nat} (hm : LastOfName ms m) (hp : place? library m = some i) :
    lastFor? ms library i = some m := by
  obtain ⟨before, after, rfl, hlast⟩ := hm
  obtain ⟨feature, hf, hnamed⟩ := named_of_place hp
  -- A later macro of this place would have the feature's name, which is that of `m`.
  have hafter : after.reverse.find? (fun m => place? library m == some i) = none := by
    rw [List.find?_eq_none]
    intro later hl
    rw [beq_iff_eq]
    intro hplace
    obtain ⟨feature', hf', hnamed'⟩ := named_of_place hplace
    cases hf.symm.trans hf'
    exact hlast later (List.mem_reverse.mp hl) (name_unique hnamed' hnamed)
  simp [lastFor?, List.find?_append, hafter, hp]

theorem last_for_eq_none {ms : List LibraryMacro} {library : List (Value Tag)} {i : Nat}
    (h : ∀ m ∈ ms, place? library m ≠ some i) : lastFor? ms library i = none := by
  rw [lastFor?, List.find?_eq_none]
  intro m hm
  simpa using h m (List.mem_reverse.mp hm)

theorem place_eq_some {m : LibraryMacro} {library : List (Value Tag)} {i : Nat} :
    place? library m = some i ↔ FirstNamed library m.name i := by
  rw [place?, List.findIdx?_eq_some_iff_getElem]
  constructor
  · rintro ⟨hi, hnamed, hfirst⟩
    refine ⟨⟨library[i], List.getElem?_eq_getElem hi, named_iff.mpr hnamed⟩, ?_⟩
    intro j hj feature hf hname
    obtain ⟨hlt, rfl⟩ := List.getElem?_eq_some_iff.mp hf
    exact hfirst j hj (named_iff.mp hname)
  · rintro ⟨⟨feature, hf, hnamed⟩, hfirst⟩
    obtain ⟨hi, rfl⟩ := List.getElem?_eq_some_iff.mp hf
    refine ⟨hi, named_iff.mp hnamed, ?_⟩
    intro j hj hname
    exact hfirst j hj _ (List.getElem?_eq_getElem (Nat.lt_trans hj hi)) (named_iff.mpr hname)

theorem settled_imported (ms : List LibraryMacro) (library : List (Value Tag)) :
    Imported ms library (settled ms library) where
  length := List.length_mapIdx
  updated := by
    intro m i feature hm hfirst hf
    have hp := place_eq_some.mpr hfirst
    obtain ⟨named, hnamed, hn⟩ := named_of_place hp
    cases hf.symm.trans hnamed
    refine ⟨updateFeature m feature, ?_, updated_of_named hn⟩
    simp [settled, hf, last_for_eq_some hm hp]
  untouched := by
    intro i h
    have hnone : ∀ m ∈ ms, place? library m ≠ some i :=
      fun m hm hp => h m hm (place_eq_some.mp hp)
    simp only [settled, List.getElem?_mapIdx, last_for_eq_none hnone, Option.map_id']

section Documents

variable {ms : List LibraryMacro} {document list : Value Tag} {library : List (Value Tag)}

theorem LibrarySection.get (h : LibrarySection document list library) :
    document.get? "library" = some list ∧ list.items? = some library :=
  ⟨Value.get_eq_some.mpr h.key, Value.items_eq_some.mpr h.items⟩

theorem run_eq_some (h : LibrarySection document list library) :
    run? ms document =
      some (document.set "library" (list.withUntagged (.list (settled ms library))),
        summaryOf ms library) := by
  obtain ⟨hget, hitems⟩ := h.get
  simp [run?, hget, hitems, update_library_eq]

theorem run_eq_none (h : ∀ list library, ¬ LibrarySection document list library) :
    run? ms document = none := by
  cases hget : document.get? "library" with
  | none => simp [run?, hget]
  | some list =>
    cases hitems : list.items? with
    | none => simp [run?, hget, hitems]
    | some library =>
      exact absurd ⟨Value.get_eq_some.mp hget, Value.items_eq_some.mp hitems⟩ (h list library)

theorem document_is_map (h : LibrarySection document list library) :
    document.entries?.isSome = true := by
  obtain ⟨entries, hmap, -⟩ := h.key
  rw [Value.entries_eq_some.mpr hmap]
  rfl

/-- The section of a document that was imported into. -/
theorem section_after {library' : List (Value Tag)} (h : LibrarySection document list library) :
    LibrarySection (document.set "library" (list.withUntagged (.list library')))
      (list.withUntagged (.list library')) library' where
  key := Value.get_eq_some.mp (Value.get_set_same (document_is_map h))
  items := (Value.below_iff nofun).mpr (Value.untagged_with_untagged nofun)

theorem run_again (h : LibrarySection document list library) :
    run? ms (document.set "library" (list.withUntagged (.list (settled ms library)))) =
      some (document.set "library" (list.withUntagged (.list (settled ms library))),
        summaryOf ms library) := by
  have hsummary : summaryOf ms (settled ms library) = summaryOf ms library := by
    simp only [summaryOf, (same_names_settled ms library).any]
  rw [run_eq_some (section_after h), settled_settled, Value.set_set,
    Value.with_untagged_twice nofun, hsummary]

end Documents

theorem any_named {library : List (Value Tag)} {name : String} :
    library.any (isNamed name) = decide (∃ feature ∈ library, Named name feature) := by
  rw [Bool.eq_iff_iff, List.any_eq_true, decide_eq_true_iff]
  simp only [named_iff]

/-- A document without a library section is not imported into. In any other one nothing changes but
the section's list, of which nothing changes but the gcc support of the features that macros name,
and all tags stay where they are. The summary names each macro once, by whether the library has it,
and a second import leaves the document as it is. -/
theorem import_frame (ms : List LibraryMacro) (document : Value Tag) :
    ((∀ list library, ¬ LibrarySection document list library) → run? ms document = none) ∧
    ∀ list library, LibrarySection document list library →
      ∃ document' list' library' summary,
        run? ms document = some (document', summary) ∧
        Value.SetsKey "library" list' document document' ∧
        Value.Exchanged (.list library) (.list library') list list' ∧
        Imported ms library library' ∧
        summary.updated =
          (ms.map (·.name)).filter (fun name => ∃ feature ∈ library, Named name feature) ∧
        summary.missing =
          (ms.map (·.name)).filter (fun name => ¬ ∃ feature ∈ library, Named name feature) ∧
        (summary.updated ++ summary.missing).Perm (ms.map (·.name)) ∧
        run? ms document' = some (document', summary) := by
  refine ⟨run_eq_none, ?_⟩
  intro list library hsection
  have hperm : ((summaryOf ms library).updated ++ (summaryOf ms library).missing).Perm
      (ms.map (·.name)) := List.filter_append_perm _ _
  refine ⟨_, _, settled ms library, summaryOf ms library, run_eq_some hsection,
    Value.set_sets_key (document_is_map hsection), Value.exchanged_items hsection.get.2,
    settled_imported ms library, ?_, ?_, hperm, run_again hsection⟩
  · simp only [summaryOf, any_named]
  · simp only [summaryOf, any_named, decide_not]

/-- The tags of the section and of a name hide neither, and stay where they are. -/
example :
    run? [⟨"__cpp_lib_span", [{ value := 202002 }]⟩] (.map [
        (.text "library", .tagged "!list" (.list [
          .map [(.text "name", .tagged "!name" (.text "__cpp_lib_span"))]]))]) =
      some (.map [
        (.text "library", .tagged "!list" (.list [
          .map [
            (.text "name", .tagged "!name" (.text "__cpp_lib_span")),
            (.text "support", .map [
              (.text "gcc", .list [.map [(.text "value", .integer 202002)]])])]]))],
        ⟨["__cpp_lib_span"], []⟩) := by
  rfl

end FeatureTest.Import
