import FeatureTest.VersionDef.Token
import Mathlib.Data.List.Infix
import Mathlib.Data.List.TakeWhile

/-!
Texts that lay out tokens, with blanks between them where there must be some. The scanner reads a
text as the tokens that it lays out, and as no others.
-/
namespace FeatureTest.Text

/-- The blanks past ASCII, as inclusive ranges. -/
def blankRanges : List (Nat × Nat) :=
  [(0x85, 0x85), (0xA0, 0xA0), (0x1680, 0x1680), (0x2000, 0x200A), (0x2028, 0x2029),
    (0x202F, 0x202F), (0x205F, 0x205F), (0x3000, 0x3000)]

theorem word_ranges_apart : wordRanges.toList.all (fun w =>
    blankRanges.all fun b => w.2.blt b.1 || b.2.blt w.1) = true := by
  decide +kernel

theorem blank_not_word {c : Char} (h : isBlank c = true) : isWordChar c = false := by
  simp only [isBlank, Bool.or_eq_true, Bool.and_eq_true, decide_eq_true_eq, beq_iff_eq] at h
  rcases Nat.lt_or_ge c.toNat 128 with hascii | hlarge
  · have hc : c.toNat ∈ [9, 10, 11, 12, 13, 32] := by
      simp only [List.mem_cons, List.not_mem_nil, or_false]
      omega
    have hnone : ∀ n ∈ [9, 10, 11, 12, 13, 32], isWordChar (Char.ofNat n) = false := by decide
    rw [← Char.ofNat_toNat c]
    exact hnone _ hc
  · obtain ⟨b, hb, hlo, hhi⟩ : ∃ b ∈ blankRanges, b.1 ≤ c.toNat ∧ c.toNat ≤ b.2 := by
      simp [blankRanges]
      omega
    have hapart := word_ranges_apart
    simp only [List.all_eq_true, Bool.or_eq_true, Nat.blt_eq] at hapart
    rw [isWordChar, if_neg (Nat.not_lt_of_le hlarge), ← Array.any_toList, List.any_eq_false]
    intro w hw
    have := hapart w hw b hb
    simp only [Bool.and_eq_true, decide_eq_true_eq]
    omega

theorem word_not_blank {c : Char} (h : isWordChar c = true) : isBlank c = false := by
  cases hb : isBlank c with
  | false => rfl
  | true => rw [blank_not_word hb] at h; cases h

end FeatureTest.Text

namespace FeatureTest.VersionDef
open Text (isBlank isWordChar)

/-- Tokens as a scanner makes them. -/
def Token.Proper : Token → Prop
  | .word w => w ≠ [] ∧ ∀ c ∈ w, isWordChar c = true
  | .quoted body => '"' ∉ body
  | .mark c => isBlank c = false ∧ isWordChar c = false

/-- Whether a token ends before a text: a word does not go on there, and a lone quote is not closed
there. -/
def Token.EndsBefore (t : Token) (rest : List Char) : Prop :=
  match t with
  | .word _ => ∀ c ∈ rest.head?, isWordChar c = false
  | .quoted _ => True
  | .mark c => c = '"' → '"' ∉ rest

instance (t : Token) : Decidable t.Proper :=
  match t with
  | .word w => decidable_of_iff (w ≠ [] ∧ w.all isWordChar = true)
      (and_congr_right fun _ => List.all_eq_true)
  | .quoted body => inferInstanceAs (Decidable ('"' ∉ body))
  | .mark c => inferInstanceAs (Decidable (isBlank c = false ∧ isWordChar c = false))

instance (t : Token) (rest : List Char) : Decidable (t.EndsBefore rest) :=
  match t with
  | .word _ => decidable_of_iff (rest.head?.any isWordChar = false) (Option.any_eq_false _ _)
  | .quoted _ => inferInstanceAs (Decidable True)
  | .mark c => inferInstanceAs (Decidable (c = '"' → '"' ∉ rest))

/-- A text in which tokens stand in order, with any blanks around them. -/
inductive Laid : List Token → List Char → Prop
  | nil : Laid [] []
  | blank {c : Char} {ts : List Token} {text : List Char} (hc : isBlank c = true)
      (rest : Laid ts text) : Laid ts (c :: text)
  | token {t : Token} {ts : List Token} {text : List Char} (proper : t.Proper)
      (ends : t.EndsBefore text) (rest : Laid ts text) : Laid (t :: ts) (t.text ++ text)

section Scanning

variable {c : Char} {cs : List Char}

theorem scan_nil : scan [] = [] := by
  rw [scan.eq_def]

theorem scan_blank (hc : isBlank c = true) : scan (c :: cs) = scan cs := by
  rw [scan.eq_def]
  simp [hc]

theorem scan_word (hc : isWordChar c = true) :
    scan (c :: cs) = .word (c :: cs.takeWhile isWordChar) :: scan (cs.dropWhile isWordChar) := by
  rw [scan.eq_def]
  simp [hc, Text.word_not_blank hc]

theorem scan_mark (hb : isBlank c = false) (hw : isWordChar c = false) (hq : c ≠ '"') :
    scan (c :: cs) = .mark c :: scan cs := by
  rw [scan.eq_def]
  simp [hb, hw, hq]

theorem quote_is_mark : isBlank '"' = false ∧ isWordChar '"' = false := by decide

theorem scan_quoted {body : List Char} (h : '"' ∉ body) :
    scan ('"' :: (body ++ '"' :: cs)) = .quoted body :: scan cs := by
  have hbody : ∀ d ∈ body, decide (d ≠ '"') = true := by
    intro d hd
    exact decide_eq_true fun he => h (he ▸ hd)
  have hclose : (body ++ '"' :: cs).dropWhile (· ≠ '"') = '"' :: cs := by
    rw [List.dropWhile_append_of_pos hbody]
    rfl
  have hopen : (body ++ '"' :: cs).takeWhile (· ≠ '"') = body := by
    rw [List.takeWhile_append_of_pos hbody]
    simp
  rw [scan.eq_def]
  simp only [quote_is_mark, Bool.false_eq_true, ↓reduceIte]
  split
  · rename_i hd
    rw [hclose] at hd
    cases hd
    rw [hopen]
  · rename_i hd
    rw [hclose] at hd
    cases hd

theorem scan_lone_quote (h : '"' ∉ cs) : scan ('"' :: cs) = .mark '"' :: scan cs := by
  have hrest : cs.dropWhile (· ≠ '"') = [] := by
    rw [List.dropWhile_eq_nil_iff]
    intro d hd
    exact decide_eq_true fun he => h (he ▸ hd)
  rw [scan.eq_def]
  simp only [quote_is_mark, Bool.false_eq_true, ↓reduceIte]
  split
  · rename_i hd
    rw [hrest] at hd
    cases hd
  · rfl

end Scanning

theorem scan_token {t : Token} {cs : List Char} (hp : t.Proper) (he : t.EndsBefore cs) :
    scan (t.text ++ cs) = t :: scan cs := by
  cases t with
  | word w =>
    obtain ⟨hne, hall⟩ := hp
    cases w with
    | nil => exact absurd rfl hne
    | cons c w =>
      have hw : ∀ d ∈ w, isWordChar d = true := fun d hd => hall d (List.mem_cons_of_mem c hd)
      have htake : cs.takeWhile isWordChar = [] := by
        cases cs with
        | nil => rfl
        | cons d _ => simp [he d rfl]
      have hdrop : cs.dropWhile isWordChar = cs := by
        cases cs with
        | nil => rfl
        | cons d _ => simp [he d rfl]
      rw [Token.text, List.cons_append, scan_word (hall c List.mem_cons_self),
        List.takeWhile_append_of_pos hw, List.dropWhile_append_of_pos hw, htake, hdrop,
        List.append_nil]
  | quoted body =>
    have htext : (Token.quoted body).text ++ cs = '"' :: (body ++ '"' :: cs) := by
      simp [Token.text]
    rw [htext, scan_quoted hp]
  | mark c =>
    by_cases hq : c = '"'
    · subst hq
      exact scan_lone_quote (he rfl)
    · exact scan_mark hp.1 hp.2 hq

theorem scan_laid {ts : List Token} {text : List Char} (h : Laid ts text) : scan text = ts := by
  induction h with
  | nil => exact scan_nil
  | blank hc _ ih => rw [scan_blank hc, ih]
  | token hp he _ ih => rw [scan_token hp he, ih]

/-- The scanner's own reading of a text is laid out in it. -/
theorem laid_scan (text : List Char) : Laid (scan text) text := by
  induction text using scan.induct with
  | case1 =>
    rw [scan_nil]
    exact .nil
  | case2 c cs hb ih =>
    rw [scan_blank hb]
    exact .blank hb ih
  | case3 c cs hb hw ih =>
    rw [scan_word hw]
    have hsplit : c :: cs = (Token.word (c :: cs.takeWhile isWordChar)).text ++
        cs.dropWhile isWordChar := by
      simp [Token.text, List.takeWhile_append_dropWhile]
    rw [hsplit]
    refine .token ⟨List.cons_ne_nil _ _, ?_⟩ ?_ ih
    · intro d hd
      rcases List.mem_cons.mp hd with rfl | hd
      · exact hw
      · exact List.mem_takeWhile_imp hd
    · intro d hd
      have := List.head?_dropWhile_not isWordChar cs
      rw [Option.mem_def.mp hd] at this
      exact this
  | case4 cs d rest hdrop _ _ _ ih =>
    have hd : '"' = d := by
      have := List.head?_dropWhile_not (· ≠ '"') cs
      rw [hdrop] at this
      exact (by simpa using this : d = '"').symm
    have hbody : '"' ∉ cs.takeWhile (· ≠ '"') := by
      intro hm
      simpa using List.mem_takeWhile_imp hm
    have hsplit : '"' :: cs = '"' :: (cs.takeWhile (· ≠ '"') ++ '"' :: rest) := by
      have : '"' :: rest = cs.dropWhile (· ≠ '"') := by rw [hdrop, hd]
      rw [this, List.takeWhile_append_dropWhile]
    have htext : '"' :: (cs.takeWhile (· ≠ '"') ++ '"' :: rest) =
        (Token.quoted (cs.takeWhile (· ≠ '"'))).text ++ rest := by
      simp [Token.text]
    rw [hsplit, scan_quoted hbody, htext]
    exact .token hbody trivial ih
  | case5 cs hdrop _ _ ih =>
    have hopen : '"' ∉ cs := by
      intro hm
      simpa using List.dropWhile_eq_nil_iff.mp hdrop _ hm
    rw [scan_lone_quote hopen]
    exact .token quote_is_mark (fun _ => hopen) ih
  | case6 c cs hb hw hq ih =>
    have hb : isBlank c = false := by simpa using hb
    have hw : isWordChar c = false := by simpa using hw
    rw [scan_mark hb hw hq]
    exact .token ⟨hb, hw⟩ (fun he => absurd he hq) ih

/-- The scanner reads a text as the tokens laid out in it. -/
theorem scan_eq_iff {text : List Char} {ts : List Token} : scan text = ts ↔ Laid ts text := by
  constructor
  · rintro rfl
    exact laid_scan text
  · exact scan_laid

end FeatureTest.VersionDef
