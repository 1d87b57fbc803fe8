import FeatureTest.VersionDef.Token
import Mathlib.Data.List.Infix

/-!
What cleaning leaves alone: text in which no comment and no header line starts.
-/
namespace FeatureTest.VersionDef

/-- Two characters that nowhere follow each other in `xs`, also when `ys` comes next. -/
def PairFree (a b : Char) (xs ys : List Char) : Prop := ¬ [a, b] <:+: xs ++ ys.take 1

instance {a b : Char} {xs ys : List Char} : Decidable (PairFree a b xs ys) :=
  inferInstanceAs (Decidable ¬ [a, b] <:+: xs ++ ys.take 1)

theorem pair_free_nil {a b : Char} {ys : List Char} : PairFree a b [] ys := by
  intro h
  have := h.length_le
  simp only [List.length_cons, List.length_nil, List.nil_append, List.length_take] at this
  omega

theorem pair_free_cons {a b c : Char} {xs ys : List Char} :
    PairFree a b (c :: xs) ys ↔ ¬ (c = a ∧ (xs ++ ys).head? = some b) ∧ PairFree a b xs ys := by
  have hhead : (xs ++ ys.take 1).head? = (xs ++ ys).head? := by
    cases xs with
    | nil => cases ys <;> rfl
    | cons => rfl
  have hstart : [a, b] <+: c :: (xs ++ ys.take 1) ↔ c = a ∧ (xs ++ ys).head? = some b := by
    rw [← hhead, List.cons_prefix_cons, eq_comm (a := a)]
    cases xs ++ ys.take 1 with
    | nil => simp
    | cons d ds => simp [List.cons_prefix_cons, eq_comm]
  rw [PairFree, PairFree, List.cons_append, List.infix_cons_iff, not_or, hstart]

theorem pair_free_all {a b : Char} {xs : List Char} (h : ¬ [a, b] <:+: xs) :
    PairFree a b xs [] := by
  simpa [PairFree] using h

theorem pair_absent_cons {a b c : Char} {cs : List Char} :
    ¬ [a, b] <:+: c :: cs ↔ ¬ (c = a ∧ cs.head? = some b) ∧ ¬ [a, b] <:+: cs := by
  simpa [PairFree] using @pair_free_cons a b c cs []

theorem PairFree.append {a b : Char} {xs ys : List Char} (h : PairFree a b xs ys)
    (hys : ¬ [a, b] <:+: ys) : ¬ [a, b] <:+: xs ++ ys := by
  induction xs with
  | nil => exact hys
  | cons c xs ih =>
    obtain ⟨hc, hxs⟩ := pair_free_cons.mp h
    exact pair_absent_cons.mpr ⟨hc, ih hxs⟩

section LineComments

variable {c : Char} {cs : List Char}

theorem drop_line_keep (h : ¬ (c = '/' ∧ cs.head? = some '/')) :
    dropLineComments false (c :: cs) = c :: dropLineComments false cs := by
  rw [dropLineComments.eq_def]
  split
  · rename_i he
    cases he
  · rename_i he
    cases he
    rfl
  · rename_i he
    cases he
    simp only [Bool.false_eq_true, ↓reduceIte]
    split
    · exact absurd ⟨rfl, rfl⟩ h
    · rfl

theorem drop_line_append {xs ys : List Char} (h : PairFree '/' '/' xs ys) :
    dropLineComments false (xs ++ ys) = xs ++ dropLineComments false ys := by
  induction xs with
  | nil => rfl
  | cons c xs ih =>
    obtain ⟨hc, hxs⟩ := pair_free_cons.mp h
    rw [List.cons_append, drop_line_keep hc, ih hxs, List.cons_append]

end LineComments

section BlockComments

variable {c : Char} {cs : List Char}

theorem drop_block_keep (h : ¬ (c = '/' ∧ cs.head? = some '*')) :
    dropBlockComments (c :: cs) = c :: dropBlockComments cs := by
  rw [dropBlockComments.eq_def]
  split
  · rename_i he
    cases he
  · rename_i he
    cases he
    exact absurd ⟨rfl, rfl⟩ h
  · rename_i he
    cases he
    rfl

theorem drop_block_append {xs ys : List Char} (h : PairFree '/' '*' xs ys) :
    dropBlockComments (xs ++ ys) = xs ++ dropBlockComments ys := by
  induction xs with
  | nil => rfl
  | cons c xs ih =>
    obtain ⟨hc, hxs⟩ := pair_free_cons.mp h
    rw [List.cons_append, drop_block_keep hc, ih hxs, List.cons_append]

end BlockComments

/-- Text in which no header line starts. -/
def HeaderFree (cs : List Char) : Prop := ∀ tail, tail <:+ cs → afterHeader? tail = none

theorem header_free_of_absent {cs : List Char} (h : ¬ headerStart <:+: cs) : HeaderFree cs := by
  intro tail ht
  unfold afterHeader?
  rw [if_neg]
  intro hp
  exact h ((List.isPrefixOf_iff_prefix.mp hp).isInfix.trans ht.isInfix)

theorem drop_headers_free {cs : List Char} (h : HeaderFree cs) (fuel : Nat) :
    dropHeaders fuel cs = cs := by
  induction cs generalizing fuel with
  | nil => cases fuel <;> rfl
  | cons c cs ih =>
    have hcs : HeaderFree cs := fun tail ht => h tail (ht.trans (List.suffix_cons c cs))
    cases fuel with
    | zero => rfl
    | succ fuel => rw [dropHeaders, h _ List.suffix_rfl, ih hcs]

/-- Text without comments and header lines is clean as it is. -/
theorem clean_eq_self {cs : List Char} (hline : ¬ ['/', '/'] <:+: cs)
    (hblock : ¬ ['/', '*'] <:+: cs) (hheader : HeaderFree cs) : clean cs = cs := by
  have hl := drop_line_append (pair_free_all hline)
  have hb := drop_block_append (pair_free_all hblock)
  rw [List.append_nil] at hl hb
  rw [clean, hl, dropLineComments, List.append_nil, hb, dropBlockComments, List.append_nil]
  exact drop_headers_free hheader _

end FeatureTest.VersionDef
