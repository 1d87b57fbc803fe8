import FeatureTest.Files.FileTree
import FeatureTest.Proofs.Success

/-!
A file that was written is read back as it was written, by the same path, and every other place of
the file system is as it was.
-/
namespace FeatureTest.FileTree
open Success

variable {tree next : FileTree} {place other target : Place} {node : Node} {path text : String}

theorem lookup_put_node (nodes : List (Place × Node)) :
    (putNode place node nodes).lookup place = some node := by
  induction nodes with
  | nil => simp [putNode]
  | cons entry rest ih =>
    obtain ⟨p, n⟩ := entry
    rw [putNode]
    split
    · simp
    · rename_i hp
      rw [List.lookup_cons, beq_eq_false_iff_ne.mpr (Ne.symm hp)]
      exact ih

theorem lookup_put_node_other (h : other ≠ place) (nodes : List (Place × Node)) :
    (putNode place node nodes).lookup other = nodes.lookup other := by
  have hne : (other == place) = false := beq_eq_false_iff_ne.mpr h
  induction nodes with
  | nil => simp [putNode, List.lookup_cons, hne]
  | cons entry rest ih =>
    obtain ⟨p, n⟩ := entry
    rw [putNode]
    split
    · rename_i hp
      subst hp
      simp [List.lookup_cons, hne]
    · rw [List.lookup_cons, List.lookup_cons, ih]

theorem node_put (h : place ≠ []) : (tree.put place node).node? place = some node := by
  simp [node?, put, h, lookup_put_node]

theorem node_put_other (h : other ≠ place) :
    (tree.put place node).node? other = tree.node? other := by
  simp [node?, put, lookup_put_node_other h]

/-- Only from a directory does a path go on. -/
theorem directory_of_step {name : String} (h : tree.step place name = .ok target) :
    tree.node? place = some .directory := by
  unfold step at h
  split at h
  · cases h
  · cases h
  · assumption

/-- Paths lead where they led when something is put where no directory was. -/
theorem steps_put (hd : tree.node? place ≠ some .directory) {names : List String}
    {start : Place} (h : names.foldlM tree.step start = .ok target) :
    names.foldlM (tree.put place node).step start = .ok target := by
  induction names generalizing start with
  | nil => exact h
  | cons name rest ih =>
    rw [List.foldlM_cons] at h ⊢
    cases hs : tree.step start name with
    | error e =>
      rw [hs] at h
      cases h
    | ok between =>
      have hstart := directory_of_step hs
      have hne : start ≠ place := by
        rintro rfl
        exact hd hstart
      have hsame : (tree.put place node).step start name = tree.step start name := by
        unfold step
        rw [node_put_other hne]
      rw [hs] at h
      rw [hsame, hs]
      exact ih h

theorem follow_put (hd : tree.node? place ≠ some .directory) (h : tree.follow path = .ok target) :
    (tree.put place node).follow path = .ok target := by
  unfold follow at h ⊢
  split at h
  · cases h
  · exact steps_put hd h

theorem locate_eq_ok_of_follow (h : tree.follow path = .ok place)
    (hslash : path.endsWith "/" = false) : tree.locate path = .ok place := by
  unfold locate
  rw [bind_eq_ok]
  exact ⟨place, h, by simp [hslash, pure_eq_ok]⟩

theorem locate_new_eq_ok (h : tree.locateNew path = .ok place) :
    tree.follow path = .ok place ∧ path.endsWith "/" = false := by
  unfold locateNew at h
  rw [bind_eq_ok] at h
  obtain ⟨found, hfollow, h⟩ := h
  split at h
  · exact absurd h throw_ne_ok
  · rename_i hslash
    rw [pure_eq_ok] at h
    subst found
    exact ⟨hfollow, by simpa using hslash⟩

/-- Writing puts one file, and not where a directory is. -/
theorem write_bytes_eq_ok {content : ByteArray} (h : tree.writeBytes path content = .ok next) :
    ∃ place executable, tree.locateNew path = .ok place ∧ tree.node? place ≠ some .directory ∧
      next = tree.put place (.file content executable) := by
  unfold writeBytes update at h
  rw [bind_eq_ok] at h
  obtain ⟨place, hlocate, h⟩ := h
  cases hn : tree.node? place with
  | none =>
    simp only [hn, pure_eq_ok] at h
    exact ⟨place, false, hlocate, by simp [hn], h.symm⟩
  | some node =>
    cases node with
    | directory =>
      simp only [hn] at h
      exact absurd h throw_ne_ok
    | file old executable =>
      simp only [hn, pure_eq_ok] at h
      exact ⟨place, executable, hlocate, by simp [hn], h.symm⟩

/-- Writing changes nothing but the file written to. -/
theorem node_write_bytes {content : ByteArray} (h : tree.writeBytes path content = .ok next)
    (hother : tree.locateNew path ≠ .ok other) : next.node? other = tree.node? other := by
  obtain ⟨place, executable, hplace, -, rfl⟩ := write_bytes_eq_ok h
  refine node_put_other ?_
  rintro rfl
  exact hother hplace

theorem from_utf8_of_to_utf8 (text : String) : String.fromUTF8? text.toUTF8 = some text := by
  rw [String.fromUTF8?, String.toUTF8_eq_toByteArray, dif_pos text.isValidUTF8]
  rfl

/-- The file at a path holds a text, and every other place is as it was. -/
structure Written (tree : FileTree) (path text : String) (next : FileTree) : Prop where
  read_back : next.readText path = .ok text
  elsewhere : ∃ place, next.locate path = .ok place ∧
    ∀ other, other ≠ place → next.node? other = tree.node? other

theorem written_of_write_text (h : tree.writeText path text = .ok next) :
    Written tree path text next := by
  obtain ⟨place, executable, hnew, hd, rfl⟩ := write_bytes_eq_ok h
  obtain ⟨hfollow, hslash⟩ := locate_new_eq_ok hnew
  have hroot : place ≠ [] := by
    rintro rfl
    exact hd rfl
  have hlocate : (tree.put place (.file text.toUTF8 executable)).locate path = .ok place :=
    locate_eq_ok_of_follow (follow_put hd hfollow) hslash
  have hread : (tree.put place (.file text.toUTF8 executable)).read path = .ok text.toUTF8 := by
    unfold read
    rw [bind_eq_ok]
    exact ⟨place, hlocate, by rw [node_put hroot, pure_eq_ok]⟩
  constructor
  · unfold readText
    rw [bind_eq_ok]
    exact ⟨_, hread, by rw [from_utf8_of_to_utf8, pure_eq_ok]⟩
  · exact ⟨place, hlocate, fun other hne => node_put_other hne⟩

end FeatureTest.FileTree
