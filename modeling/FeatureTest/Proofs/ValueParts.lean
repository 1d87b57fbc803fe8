import FeatureTest.Yaml.Value
import Mathlib.Data.List.Basic

/-!
Parts of a YAML value below its tags: what a part is, and what stays when one is set anew.
-/
namespace FeatureTest.Yaml.Value

variable {Tag : Type}

/-- What is left of a value without some of its outermost tags, or with all of them. -/
inductive Below (inner : Value Tag) : Value Tag → Prop
  | here : Below inner inner
  | tagged {value : Value Tag} (tag : Tag) (h : Below inner value) : Below inner (.tagged tag value)

/-- Two values that differ in what lies below the same tags. -/
inductive Exchanged (old new : Value Tag) : Value Tag → Value Tag → Prop
  | here : Exchanged old new old new
  | tagged {value value' : Value Tag} (tag : Tag) (h : Exchanged old new value value') :
      Exchanged old new (.tagged tag value) (.tagged tag value')

/-- The first entry with a text key. -/
def FirstUnder (key : String) (value : Value Tag) (entries : List (Value Tag × Value Tag)) : Prop :=
  ∃ before after, entries = before ++ (.text key, value) :: after ∧
    ∀ entry ∈ before, entry.1 ≠ .text key

/-- A map, tagged or not, has a value under a text key. -/
def Has (key : String) (value whole : Value Tag) : Prop :=
  ∃ entries, Below (.map entries) whole ∧ FirstUnder key value entries

/-- The entries after a value is set under a text key: it stands where the old one stood, or else at
the end. -/
inductive Sets (key : String) (value : Value Tag) :
    List (Value Tag × Value Tag) → List (Value Tag × Value Tag) → Prop
  | replaced {before after : List (Value Tag × Value Tag)} {old : Value Tag}
      (first : ∀ entry ∈ before, entry.1 ≠ .text key) :
      Sets key value (before ++ (.text key, old) :: after) (before ++ (.text key, value) :: after)
  | added {entries : List (Value Tag × Value Tag)}
      (absent : ∀ entry ∈ entries, entry.1 ≠ .text key) :
      Sets key value entries (entries ++ [(.text key, value)])

/-- A map in which a text key is set, below the tags it had. -/
def SetsKey (key : String) (new whole whole' : Value Tag) : Prop :=
  ∃ entries entries', Sets key new entries entries' ∧
    Exchanged (.map entries) (.map entries') whole whole'

section Entries

variable {key other : String} {value : Value Tag} {entries : List (Value Tag × Value Tag)}

theorem isText_eq_true {k : Value Tag} : k.isText key = true ↔ k = .text key := by
  cases k <;> simp [isText]

theorem isText_eq_false {k : Value Tag} : k.isText key = false ↔ k ≠ .text key := by
  rw [← Bool.not_eq_true, isText_eq_true]

theorem find_eq_some : find? key entries = some value ↔ FirstUnder key value entries := by
  simp only [find?, FirstUnder, Option.map_eq_some_iff, List.find?_eq_some_iff_append,
    isText_eq_true, Bool.not_eq_true', isText_eq_false]
  constructor
  · rintro ⟨⟨k, v⟩, ⟨hk, before, after, he, hfirst⟩, rfl⟩
    obtain rfl : k = .text key := hk
    exact ⟨before, after, he, hfirst⟩
  · rintro ⟨before, after, he, hfirst⟩
    exact ⟨(.text key, value), ⟨rfl, before, after, he, hfirst⟩, rfl⟩

theorem put_sets (key : String) (value : Value Tag) (entries : List (Value Tag × Value Tag)) :
    Sets key value entries (put key value entries) := by
  induction entries with
  | nil => exact .added (by simp)
  | cons entry rest ih =>
    obtain ⟨k, v⟩ := entry
    rw [put]
    split
    · rename_i hk
      rw [isText_eq_true.mp hk]
      exact @Sets.replaced _ key value [] rest v (by simp)
    · rename_i hk
      have hkey : (k, v).1 ≠ .text key := fun he => hk (isText_eq_true.mpr he)
      generalize hput : put key value rest = rest' at ih
      cases ih with
      | replaced first =>
        exact @Sets.replaced _ key value ((k, v) :: _) _ _
          (List.forall_mem_cons.mpr ⟨hkey, first⟩)
      | added absent =>
        exact @Sets.added _ key value ((k, v) :: _) (List.forall_mem_cons.mpr ⟨hkey, absent⟩)

theorem find_put_same : find? key (put key value entries) = some value := by
  induction entries with
  | nil => simp [put, find?, isText]
  | cons entry rest ih =>
    obtain ⟨k, v⟩ := entry
    rw [put]
    split
    · rename_i hk
      simp [find?, hk]
    · rename_i hk
      simpa [find?, hk] using ih

theorem find_put_other (h : other ≠ key) :
    find? other (put key value entries) = find? other entries := by
  have htext : ∀ {k : Value Tag}, k.isText key = true → k.isText other = false := by
    intro k hk
    rw [isText_eq_true.mp hk]
    exact beq_false_of_ne (Ne.symm h)
  induction entries with
  | nil => simp [put, find?, isText, Ne.symm h]
  | cons entry rest ih =>
    obtain ⟨k, v⟩ := entry
    rw [put]
    split
    · rename_i hk
      simp [find?, htext hk]
    · by_cases ho : k.isText other = true
      · simp [find?, ho]
      · simpa [find?, ho] using ih

theorem put_put {earlier : Value Tag} :
    put key value (put key earlier entries) = put key value entries := by
  induction entries with
  | nil => simp [put, isText]
  | cons entry rest ih =>
    obtain ⟨k, v⟩ := entry
    by_cases hk : k.isText key = true
    · simp [put, hk]
    · simp [put, hk, ih]

end Entries

section Tags

variable {value inner : Value Tag} {entries : List (Value Tag × Value Tag)}
  {items : List (Value Tag)}

/-- A value without a tag of its own. -/
def Bare (value : Value Tag) : Prop := ∀ tag below, value ≠ .tagged tag below

theorem Bare.untagged (h : value.Bare) : value.untagged = value := by
  cases value with
  | tagged tag below => exact absurd rfl (h tag below)
  | _ => rfl

theorem Bare.with_untagged (h : value.Bare) : value.withUntagged inner = inner := by
  cases value with
  | tagged tag below => exact absurd rfl (h tag below)
  | _ => rfl

theorem below_iff (h : inner.Bare) : Below inner value ↔ value.untagged = inner := by
  fun_induction Value.untagged value with
  | case1 tag value ih =>
    rw [← ih]
    constructor
    · rintro (_ | ⟨-, hbelow⟩)
      · exact absurd rfl (h tag value)
      · exact hbelow
    · exact .tagged tag
  | case2 value hbare =>
    constructor
    · rintro (_ | ⟨tag, -⟩)
      · rfl
      · exact absurd rfl (hbare tag _)
    · rintro rfl
      exact .here

theorem text_eq_some {t : String} : value.text? = some t ↔ Below (.text t) value := by
  rw [below_iff nofun, text?]
  cases value.untagged <;> simp

theorem items_eq_some : value.items? = some items ↔ Below (.list items) value := by
  rw [below_iff nofun, items?]
  cases value.untagged <;> simp

theorem entries_eq_some : value.entries? = some entries ↔ Below (.map entries) value := by
  rw [below_iff nofun, entries?]
  cases value.untagged <;> simp

theorem exchanged_with_untagged (value inner : Value Tag) :
    Exchanged value.untagged inner value (value.withUntagged inner) := by
  fun_induction withUntagged value inner with
  | case1 tag value inner ih => exact .tagged tag ih
  | case2 value inner hbare =>
    rw [Bare.untagged hbare]
    exact .here

theorem exchanged_items {items' : List (Value Tag)} (h : value.items? = some items) :
    Exchanged (.list items) (.list items') value (value.withUntagged (.list items')) := by
  have hlist : value.untagged = .list items := (below_iff nofun).mp (items_eq_some.mp h)
  exact hlist ▸ exchanged_with_untagged value (.list items')

theorem untagged_with_untagged (h : inner.Bare) : (value.withUntagged inner).untagged = inner := by
  fun_induction withUntagged value inner with
  | case1 tag value inner ih => exact ih h
  | case2 value inner => exact h.untagged

theorem with_untagged_twice {earlier : Value Tag} (h : earlier.Bare) :
    (value.withUntagged earlier).withUntagged inner = value.withUntagged inner := by
  fun_induction withUntagged value earlier with
  | case1 tag value earlier ih => rw [withUntagged, withUntagged, ih h]
  | case2 value earlier hbare => rw [h.with_untagged, Bare.with_untagged hbare]

end Tags

section Maps

variable {key other : String} {value new : Value Tag}

theorem get_eq_some : value.get? key = some new ↔ Has key new value := by
  simp only [get?, Option.bind_eq_some_iff, entries_eq_some, find_eq_some, Has]

theorem entries_set (key : String) (value new : Value Tag) :
    (value.set key new).entries? = value.entries?.map (put key new) := by
  unfold set
  cases he : value.entries? with
  | none => simp [he]
  | some entries =>
    have hbare : (Value.map (put key new entries)).Bare := nofun
    simp [entries?, untagged_with_untagged hbare]

theorem get_set_same (h : value.entries?.isSome = true) :
    (value.set key new).get? key = some new := by
  obtain ⟨entries, he⟩ := Option.isSome_iff_exists.mp h
  simp [get?, entries_set, he, find_put_same]

theorem get_set_other (h : other ≠ key) : (value.set key new).get? other = value.get? other := by
  cases he : value.entries? <;> simp [get?, entries_set, he, find_put_other h]

theorem set_set {earlier : Value Tag} :
    (value.set key earlier).set key new = value.set key new := by
  cases he : value.entries? with
  | none => simp [set, he]
  | some entries =>
    have hset : (value.set key earlier).entries? = some (put key earlier entries) := by
      rw [entries_set, he]
      rfl
    rw [set, hset]
    simp only [set, he]
    rw [with_untagged_twice nofun, put_put]

theorem set_sets_key (h : value.entries?.isSome = true) :
    SetsKey key new value (value.set key new) := by
  obtain ⟨entries, he⟩ := Option.isSome_iff_exists.mp h
  have hmap : value.untagged = .map entries := (below_iff nofun).mp (entries_eq_some.mp he)
  refine ⟨entries, put key new entries, put_sets key new entries, ?_⟩
  simp only [set, he]
  exact hmap ▸ exchanged_with_untagged value (.map (put key new entries))

end Maps
end FeatureTest.Yaml.Value
