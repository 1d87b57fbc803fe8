import FeatureTest.SummaryTable
import Mathlib.Tactic.SplitIfs

/-!
Where the cell of a long name breaks it. Underscores are looked for by the bytes of the name, and
the byte of an underscore is in no other character, so a break always lies between two characters.
-/
namespace FeatureTest.SummaryTable

section Bytes

def underscoreByte : UInt8 := '_'.toUInt8

theorem to_utf8_getElem? (text : String) (offset : Nat) :
    text.toUTF8[offset]? = (text.toList.flatMap String.utf8EncodeChar)[offset]? := by
  have hbytes : text.toUTF8 = (text.toList.flatMap String.utf8EncodeChar).toByteArray := by
    rw [String.toUTF8_eq_toByteArray, ← String.ofList_toList (s := text),
      String.toByteArray_ofList, String.toList_ofList]
    rfl
  rw [hbytes, getElem?_def, getElem?_def]
  simp

theorem underscore_eq_of_nat {n : Nat} : underscoreByte = UInt8.ofNat n ↔ n % 256 = 95 := by
  rw [← UInt8.toNat_inj, UInt8.toNat_ofNat', eq_comm]
  rfl

theorem underscore_bytes : String.utf8EncodeChar '_' = [underscoreByte] := by decide

theorem underscore_not_mem_bytes {c : Char} (h : c ≠ '_') :
    underscoreByte ∉ String.utf8EncodeChar c := by
  have hcode : c.val.toNat ≠ 95 := by
    intro he
    apply h
    rw [← Char.ofNat_toNat c]
    exact congrArg Char.ofNat he
  intro hm
  simp only [String.utf8EncodeChar] at hm
  split_ifs at hm
  all_goals
    simp only [List.mem_cons, List.not_mem_nil, or_false, underscore_eq_of_nat] at hm
    omega

end Bytes

section Search

variable {first last : Nat}

/-- Whether a byte with its offset is an underscore within a range. -/
def isUnderscoreIn (first last : Nat) (entry : UInt8 × Nat) : Bool :=
  entry.1 == underscoreByte && first ≤ entry.2 && entry.2 < last

theorem is_underscore_in_iff {byte : UInt8} {offset : Nat} :
    isUnderscoreIn first last (byte, offset) = true ↔
      byte = underscoreByte ∧ first ≤ offset ∧ offset < last := by
  simp only [isUnderscoreIn, Bool.and_eq_true, beq_iff_eq, decide_eq_true_eq, and_assoc]

/-- To look through the characters of a text is to look through its bytes. -/
theorem underscore_in_eq (offset : Nat) (cs : List Char) :
    underscoreIn first last offset cs =
      (((cs.flatMap String.utf8EncodeChar).zipIdx offset).find?
        (isUnderscoreIn first last)).map fun entry => entry.2 + 1 := by
  induction cs generalizing offset with
  | nil => rfl
  | cons c cs ih =>
    rw [List.flatMap_cons, List.zipIdx_append, List.find?_append, String.length_utf8EncodeChar,
      underscoreIn, ih]
    by_cases hc : c = '_'
    · subst hc
      rw [underscore_bytes, List.zipIdx_singleton, List.find?_singleton, isUnderscoreIn,
        beq_self_eq_true, beq_self_eq_true, Bool.true_and]
      split
      · rfl
      · rfl
    · have hnone : ((String.utf8EncodeChar c).zipIdx offset).find? (isUnderscoreIn first last) =
          none := by
        rw [List.find?_eq_none]
        intro entry hentry hfound
        obtain ⟨hbyte, -⟩ := is_underscore_in_iff.mp hfound
        exact underscore_not_mem_bytes hc (hbyte ▸ List.fst_mem_of_mem_zipIdx hentry)
      rw [hnone, Option.none_or, if_neg (by simp [hc])]

end Search

/-- Whether the byte at an offset is an underscore. -/
def UnderscoreAt (text : String) (offset : Nat) : Prop :=
  text.toUTF8[offset]? = some underscoreByte

/-- The first underscore that starts in a range of byte offsets. -/
structure FirstUnderscore (text : String) (first last offset : Nat) : Prop where
  low : first ≤ offset
  high : offset < last
  found : UnderscoreAt text offset
  earliest : ∀ earlier, first ≤ earlier → earlier < offset → ¬ UnderscoreAt text earlier

variable {text : String} {first last : Nat}

theorem first_of_underscore_in {found : Nat}
    (h : underscoreIn first last 0 text.toList = some found) :
    ∃ offset, found = offset + 1 ∧ FirstUnderscore text first last offset := by
  rw [underscore_in_eq, Option.map_eq_some_iff] at h
  obtain ⟨entry, hfind, rfl⟩ := h
  obtain ⟨hentry, offset, hlt, rfl, hearlier⟩ := List.find?_eq_some_iff_getElem.mp hfind
  rw [List.length_zipIdx] at hlt
  rw [List.getElem_zipIdx, Nat.zero_add, is_underscore_in_iff] at hentry
  obtain ⟨hbyte, hlow, hhigh⟩ := hentry
  refine ⟨offset, by rw [List.getElem_zipIdx, Nat.zero_add], hlow, hhigh, ?_, ?_⟩
  · rw [UnderscoreAt, to_utf8_getElem?, List.getElem?_eq_getElem hlt, hbyte]
  · intro earlier hfirst hbefore hfound
    have hnot := hearlier earlier hbefore
    rw [UnderscoreAt, to_utf8_getElem?, List.getElem?_eq_getElem (by omega)] at hfound
    rw [List.getElem_zipIdx, Nat.zero_add, Option.some.inj hfound,
      is_underscore_in_iff.mpr ⟨rfl, hfirst, Nat.lt_trans hbefore hhigh⟩] at hnot
    cases hnot

theorem none_of_underscore_in (h : underscoreIn first last 0 text.toList = none) (offset : Nat)
    (hlow : first ≤ offset) (hhigh : offset < last) : ¬ UnderscoreAt text offset := by
  rw [underscore_in_eq, Option.map_eq_none_iff, List.find?_eq_none] at h
  intro hfound
  rw [UnderscoreAt, to_utf8_getElem?] at hfound
  have hentry : (underscoreByte, offset) ∈ (text.toList.flatMap String.utf8EncodeChar).zipIdx :=
    List.mem_zipIdx_iff_getElem?.mpr hfound
  exact h _ hentry (is_underscore_in_iff.mpr ⟨rfl, hlow, hhigh⟩)

/-- The place where a long name is broken, in bytes. -/
inductive BrokenAt (name : String) : Nat → Prop
  | near {offset : Nat} (found : FirstUnderscore name 15 25 offset) : BrokenAt name (offset + 1)
  | far {offset : Nat} (none_near : ∀ near, 15 ≤ near → near < 25 → ¬ UnderscoreAt name near)
      (found : FirstUnderscore name 10 30 offset) : BrokenAt name (offset + 1)
  | nowhere (none_near : ∀ near, 15 ≤ near → near < 25 → ¬ UnderscoreAt name near)
      (none_far : ∀ far, 10 ≤ far → far < 30 → ¬ UnderscoreAt name far) : BrokenAt name 0

theorem broken_at_break_point (name : String) : BrokenAt name ((breakPoint name).getD 0) := by
  unfold breakPoint
  cases hnear : underscoreIn 15 25 0 name.toList with
  | some found =>
    obtain ⟨offset, rfl, hfirst⟩ := first_of_underscore_in hnear
    exact .near hfirst
  | none =>
    cases hfar : underscoreIn 10 30 0 name.toList with
    | some found =>
      obtain ⟨offset, rfl, hfirst⟩ := first_of_underscore_in hfar
      exact .far (none_of_underscore_in hnear) hfirst
    | none => exact .nowhere (none_of_underscore_in hnear) (none_of_underscore_in hfar)

section Parts

theorem byte_size_cons (c : Char) (cs : List Char) :
    (String.ofList (c :: cs)).utf8ByteSize = c.utf8Size + (String.ofList cs).utf8ByteSize := by
  rw [← List.singleton_append, String.ofList_append, String.utf8ByteSize_append]
  simp

/-- An underscore ends before the next character starts. -/
theorem parts_of_underscore_in {offset found : Nat} {cs : List Char}
    (h : underscoreIn first last offset cs = some found) :
    ∃ before after, cs = before ++ after ∧
      found = offset + (String.ofList before).utf8ByteSize := by
  induction cs generalizing offset with
  | nil => cases h
  | cons c cs ih =>
    rw [underscoreIn] at h
    split at h
    · rename_i hc
      simp only [Bool.and_eq_true, beq_iff_eq] at hc
      cases h
      rw [hc.1.1]
      exact ⟨['_'], cs, rfl, rfl⟩
    · obtain ⟨before, after, rfl, rfl⟩ := ih h
      exact ⟨c :: before, after, rfl, by rw [byte_size_cons, Nat.add_assoc]⟩

theorem parts_of_break_point (name : String) :
    ∃ before after, name.toList = before ++ after ∧
      (breakPoint name).getD 0 = (String.ofList before).utf8ByteSize := by
  have hparts {first last found : Nat} (h : underscoreIn first last 0 name.toList = some found) :
      ∃ before after, name.toList = before ++ after ∧
        found = (String.ofList before).utf8ByteSize := by
    obtain ⟨before, after, hname, hfound⟩ := parts_of_underscore_in h
    exact ⟨before, after, hname, hfound.trans (Nat.zero_add _)⟩
  unfold breakPoint
  cases hnear : underscoreIn 15 25 0 name.toList with
  | some found => exact hparts hnear
  | none =>
    cases hfar : underscoreIn 10 30 0 name.toList with
    | some found => exact hparts hfar
    | none => exact ⟨[], name.toList, rfl, rfl⟩

theorem split_at_byte_size (before after : List Char) :
    splitAtByte (String.ofList before).utf8ByteSize (before ++ after) = (before, after) := by
  induction before with
  | nil => cases after <;> rfl
  | cons c before ih =>
    rw [byte_size_cons, List.cons_append, splitAtByte, Nat.add_sub_cancel_left, ih]
    have := c.utf8Size_pos
    omega

end Parts

/-- The first part of a text has its first bytes, and the other part the others. -/
theorem part_bytes (front back : String) :
    front.toUTF8 = (front ++ back).toUTF8.extract 0 front.utf8ByteSize ∧
    back.toUTF8 =
      (front ++ back).toUTF8.extract front.utf8ByteSize (front ++ back).utf8ByteSize := by
  simp only [String.toUTF8_eq_toByteArray, String.toByteArray_append]
  exact ⟨(ByteArray.extract_append_eq_left rfl).symm,
    (ByteArray.extract_append_eq_right rfl (by rw [String.utf8ByteSize_append]; rfl)).symm⟩

/-- A name of at most 30 bytes fills its cell alone. A longer one has one break in it, past the
first underscore near its middle, else past the first one farther out, else before everything. The
bytes up to there are whole characters. -/
theorem name_cell_exact (name : String) :
    BrokenAt name ((breakPoint name).getD 0) ∧
    String.Pos.Raw.IsValid name ⟨(breakPoint name).getD 0⟩ ∧
    ∃ front back, front ++ back = name ∧
      front.toUTF8 = name.toUTF8.extract 0 ((breakPoint name).getD 0) ∧
      back.toUTF8 = name.toUTF8.extract ((breakPoint name).getD 0) name.utf8ByteSize ∧
      nameCell name = if name.utf8ByteSize ≤ 30 then "\x7b\x7btt|" ++ name ++ "\x7d\x7d |"
        else "\x7b\x7btt|1=" ++ front ++ "\x7b\x7bbr\x7d\x7d" ++ back ++ "\x7d\x7d |" := by
  refine ⟨broken_at_break_point name, ?_⟩
  obtain ⟨before, after, hname, hbreak⟩ := parts_of_break_point name
  have hjoined : String.ofList before ++ String.ofList after = name := by
    rw [← String.ofList_append, ← hname, String.ofList_toList]
  have hbytes := part_bytes (String.ofList before) (String.ofList after)
  rw [hjoined] at hbytes
  rw [hbreak]
  refine ⟨String.Pos.Raw.isValid_iff_exists_append.mpr ⟨_, _, hjoined.symm, rfl⟩,
    _, _, hjoined, hbytes.1, hbytes.2, ?_⟩
  rw [nameCell, nameLimit]
  by_cases hshort : name.utf8ByteSize ≤ 30
  · rw [if_pos hshort, if_pos hshort, ← String.toList_inj]
    simp [markup]
  · rw [if_neg hshort, if_neg hshort, hbreak, hname, split_at_byte_size, ← String.toList_inj]
    simp [markup]

/-- The break is past the 18th byte and the 16th character. -/
example : nameCell "__cpp_lib_größe_überall_verlängert" =
    "\x7b\x7btt|1=__cpp_lib_größe_\x7b\x7bbr\x7d\x7düberall_verlängert\x7d\x7d |" := by
  decide +kernel

end FeatureTest.SummaryTable
