import FeatureTest.Proofs.TextCleaning
import FeatureTest.Proofs.TokenLayout

/-!
Blanks added to a text make no header line, unless one is put into a word.
-/
namespace FeatureTest.VersionDef
open Text (isBlank isWordChar)

/-- What a header line is: its start, and later on the line a semicolon. -/
theorem after_header_isSome {cs : List Char} :
    (afterHeader? cs).isSome = true ↔
      ∃ line rest, cs = headerStart ++ (line ++ ';' :: rest) ∧ '\n' ∉ line := by
  unfold afterHeader?
  constructor
  · intro h
    split at h
    · rename_i hstart
      obtain ⟨after, rfl⟩ := List.isPrefixOf_iff_prefix.mp hstart
      rw [List.drop_left] at h
      simp only at h
      split at h
      · rename_i hmem
        obtain ⟨line, rest, hline⟩ := List.append_of_mem hmem
        refine ⟨line, rest ++ after.dropWhile (· ≠ '\n'), ?_, ?_⟩
        · have hsplit := List.takeWhile_append_dropWhile (p := (· ≠ '\n')) (l := after)
          rw [hline, List.append_assoc, List.cons_append] at hsplit
          rw [hsplit]
        · intro hn
          have hin : '\n' ∈ after.takeWhile (· ≠ '\n') := by
            rw [hline]
            exact List.mem_append_left _ hn
          simpa using List.mem_takeWhile_imp hin
      · cases h
    · cases h
  · rintro ⟨line, rest, rfl, hn⟩
    have hline : ∀ c ∈ line, decide (c ≠ '\n') = true := by
      intro c hc
      exact decide_eq_true fun he => hn (he ▸ hc)
    have hmem : ';' ∈ (line ++ ';' :: rest).takeWhile (· ≠ '\n') := by
      rw [List.takeWhile_append_of_pos hline]
      simp
    rw [if_pos (List.isPrefixOf_iff_prefix.mpr (List.prefix_append _ _)), List.drop_left]
    simp only
    rw [if_pos hmem]
    rfl

/-- A text with blanks added to it, none of them between two word characters. The first index is
the character right before. -/
inductive Widened : Char → List Char → List Char → Prop
  | nil {before : Char} : Widened before [] []
  | same {before c : Char} {a b : List Char} (rest : Widened c a b) :
      Widened before (c :: a) (c :: b)
  | added {before c : Char} {a b : List Char} (hc : isBlank c = true)
      (outside : isWordChar before = false ∨ ∀ d ∈ a.head?, isWordChar d = false)
      (rest : Widened c a b) : Widened before a (c :: b)

namespace Widened

variable {before : Char} {a b : List Char}

theorem append {xs : List Char} (h : Widened (xs.getLast?.getD before) a b) :
    Widened before (xs ++ a) (xs ++ b) := by
  induction xs generalizing before with
  | nil => exact h
  | cons c xs ih =>
    refine .same (ih ?_)
    rwa [List.getLast?_cons] at h

theorem head (h : Widened before a b) : ∀ c ∈ b.head?, isBlank c = true ∨ a.head? = some c := by
  cases h with
  | nil => simp
  | same => exact fun _ hc => .inr hc
  | added hc => exact fun _ hd => .inl (by cases hd; exact hc)

theorem mem (h : Widened before a b) : ∀ c ∈ b, isBlank c = true ∨ c ∈ a := by
  induction h with
  | nil => simp
  | same _ ih =>
    intro d hd
    rcases List.mem_cons.mp hd with rfl | hd
    · exact .inr List.mem_cons_self
    · exact (ih d hd).imp_right (List.mem_cons_of_mem _)
  | added hc _ _ ih =>
    intro d hd
    rcases List.mem_cons.mp hd with rfl | hd
    · exact .inl hc
    · exact ih d hd

theorem tail {t : List Char} (h : Widened before a b) (ht : t <:+ b) :
    ∃ before' a', a' <:+ a ∧ Widened before' a' t := by
  induction h with
  | nil =>
    rw [List.suffix_nil.mp ht]
    exact ⟨before, [], List.suffix_rfl, .nil⟩
  | @same before c a b rest ih =>
    rcases List.suffix_cons_iff.mp ht with rfl | ht
    · exact ⟨before, c :: a, List.suffix_rfl, .same rest⟩
    · obtain ⟨before', a', hs, hw⟩ := ih ht
      exact ⟨before', a', hs.trans (List.suffix_cons c a), hw⟩
  | @added before c a b hc outside rest ih =>
    rcases List.suffix_cons_iff.mp ht with rfl | ht
    · exact ⟨before, a, List.suffix_rfl, .added hc outside rest⟩
    · exact ih ht

/-- What is no blank was there before. -/
theorem unblank {w r : List Char} (hw : w.any isBlank = false)
    (h : Widened before a (w ++ r)) :
    ∃ a', a = w ++ a' ∧ Widened (w.getLast?.getD before) a' r := by
  induction w generalizing before a with
  | nil => exact ⟨a, rfl, h⟩
  | cons c w ih =>
    obtain ⟨hc, hrest⟩ := Bool.or_eq_false_iff.mp (List.any_cons ▸ hw)
    cases h with
    | same rest =>
      obtain ⟨a', rfl, hw'⟩ := ih hrest rest
      exact ⟨a', rfl, by rwa [List.getLast?_cons]⟩
    | added hb => rw [hc] at hb; cases hb

theorem line {xs r : List Char} (hn : '\n' ∉ xs) (h : Widened before a (xs ++ ';' :: r)) :
    ∃ xs' r', a = xs' ++ ';' :: r' ∧ '\n' ∉ xs' := by
  induction xs generalizing before a with
  | nil =>
    cases h with
    | @same _ _ a' _ rest => exact ⟨[], a', rfl, by simp⟩
    | added hb => cases hb
  | cons c xs ih =>
    obtain ⟨hc, hxs⟩ := not_or.mp (mt List.mem_cons.mpr hn)
    cases h with
    | same rest =>
      obtain ⟨xs', r', rfl, hn'⟩ := ih hxs rest
      exact ⟨c :: xs', r', rfl, by simp [hc, hn']⟩
    | added _ _ rest => exact ih hxs rest

def autoGenWord : List Char := ['A', 'u', 't', 'o', 'G', 'e', 'n']

def definitionsWord : List Char := ['D', 'e', 'f', 'i', 'n', 'i', 't', 'i', 'o', 'n', 's']

theorem header_start_words : headerStart = autoGenWord ++ ' ' :: definitionsWord := by decide

/-- The header's words were apart before, so its one blank is not an added one. -/
theorem header (h : Widened before a b) (hb : (afterHeader? b).isSome = true) :
    (afterHeader? a).isSome = true := by
  obtain ⟨xs, r, rfl, hn⟩ := after_header_isSome.mp hb
  rw [header_start_words, List.append_assoc, List.cons_append] at h
  obtain ⟨a₁, rfl, hspace⟩ := unblank rfl h
  have hkept : ∃ a₂, a₁ = ' ' :: a₂ ∧ Widened ' ' a₂ (definitionsWord ++ (xs ++ ';' :: r)) := by
    cases hspace with
    | same rest => exact ⟨_, rfl, rest⟩
    | added _ outside rest =>
      obtain ⟨a₂, rfl, -⟩ := unblank rfl rest
      rcases outside with hword | hword
      · change isWordChar 'n' = false at hword
        exact absurd hword (by decide)
      · exact absurd (hword 'D' rfl) (by decide)
  obtain ⟨a₂, rfl, hword⟩ := hkept
  obtain ⟨a₃, rfl, hline⟩ := unblank rfl hword
  obtain ⟨xs', r', rfl, hn'⟩ := hline.line hn
  refine after_header_isSome.mpr ⟨xs', r', ?_, hn'⟩
  rw [header_start_words, List.append_assoc, List.cons_append]

theorem header_free (h : Widened before a b) (ha : HeaderFree a) : HeaderFree b := by
  intro t ht
  obtain ⟨before', a', hs, hw⟩ := h.tail ht
  cases hh : afterHeader? t with
  | none => rfl
  | some rest =>
    have := hw.header (by rw [hh]; rfl)
    rw [ha a' hs] at this
    cases this

end Widened
end FeatureTest.VersionDef
