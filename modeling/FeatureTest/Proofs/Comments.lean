import FeatureTest.Proofs.HeaderLines

/-!
Comments between tokens say nothing to the scanner, whatever their text. There is one exception: a
block comment whose last line holds `//` is not seen to end.
-/
namespace FeatureTest.VersionDef
open Text (isBlank isWordChar)

/-- The comment, if any, that stands right before a text. A line comment reaches to the end of its
line. `Body` says which block comments there may be. -/
inductive Comment (Body : List Char → Prop) (rest : List Char) : List Char → Prop
  | none : Comment Body rest []
  | line {body : List Char} (short : '\n' ∉ body) (ends : ∀ c ∈ rest.head?, c = '\n') :
      Comment Body rest ('/' :: '/' :: body)
  | block {body : List Char} (closed : ¬ ['*', '/'] <:+: body) (allowed : Body body)
      (ends : ∀ c ∈ rest.head?, isBlank c = true) :
      Comment Body rest ('/' :: '*' :: (body ++ ['*', '/']))

/-- A token before a text into which it does not run, and with which it starts no comment. -/
structure Token.Apart (t : Token) (rest : List Char) : Prop where
  proper : t.Proper
  ends : t.EndsBefore rest
  no_line : PairFree '/' '/' t.text rest
  no_block : PairFree '/' '*' t.text rest

instance (t : Token) (rest : List Char) : Decidable (t.Apart rest) :=
  decidable_of_iff (t.Proper ∧ t.EndsBefore rest ∧ PairFree '/' '/' t.text rest ∧
      PairFree '/' '*' t.text rest)
    ⟨fun ⟨hp, he, hl, hb⟩ => ⟨hp, he, hl, hb⟩, fun ⟨hp, he, hl, hb⟩ => ⟨hp, he, hl, hb⟩⟩

/-- A text that lays out tokens as `base` does, with blanks and comments added. Each comment has a
blank before it and one after it, or the end of the text. -/
inductive Commented (Body : List Char → Prop) : List Token → List Char → List Char → Prop
  | nil : Commented Body [] [] []
  | token {t : Token} {ts : List Token} {base text : List Char} (apart : t.Apart base)
      (rest : Commented Body ts base text) :
      Commented Body (t :: ts) (t.text ++ base) (t.text ++ text)
  | gap {c : Char} {ts : List Token} {base base' text comment : List Char}
      (hc : isBlank c = true) (kept : base' = c :: base ∨ base' = base)
      (hcomment : Comment Body text comment) (rest : Commented Body ts base text) :
      Commented Body ts base' (c :: (comment ++ text))

/-- A body in which a line end follows every `//`. -/
def LinesEnd (body : List Char) : Prop := ∀ tail, tail <:+ body → ['/', '/'] <+: tail → '\n' ∈ tail

instance (body : List Char) : Decidable (LinesEnd body) :=
  decidable_of_iff (∀ tail ∈ body.tails, ['/', '/'] <+: tail → '\n' ∈ tail)
    (by simp only [LinesEnd, List.mem_tails])

/-- The text without its comments. -/
def strip (text : List Char) : List Char := dropBlockComments (dropLineComments false text)

section LineComments

variable {body rest : List Char}

/-- A dropped line comment leaves nothing up to the end of its line. -/
theorem head_drop_line_true {cs : List Char} :
    ∀ c ∈ (dropLineComments true cs).head?, c = '\n' := by
  induction cs with
  | nil => simp [dropLineComments]
  | cons d cs ih =>
    rw [dropLineComments.eq_def]
    split
    · simp
    · simp
    · rename_i he
      cases he
      exact ih

theorem head_drop_line {cs : List Char} {c : Char}
    (h : (dropLineComments false cs).head? = some c) (hc : c ≠ '\n') : cs.head? = some c := by
  rw [dropLineComments.eq_def] at h
  split at h
  · cases h
  · exact absurd (Option.some.inj h).symm hc
  · simp only [Bool.false_eq_true, ↓reduceIte] at h
    split at h
    · exact absurd (head_drop_line_true c h) hc
    · exact h

theorem drop_line_skip {c : Char} {cs : List Char} (hc : c ≠ '\n') :
    dropLineComments true (c :: cs) = dropLineComments true cs := by
  rw [dropLineComments.eq_def]
  split
  · rename_i he
    cases he
  · rename_i he
    cases he
    exact absurd rfl hc
  · rename_i he
    cases he
    rfl

theorem drop_line_true {cs : List Char} (h : '\n' ∉ cs) (hrest : ∀ c ∈ rest.head?, c = '\n') :
    dropLineComments true (cs ++ rest) = dropLineComments false rest := by
  induction cs with
  | nil =>
    cases rest with
    | nil => rfl
    | cons c rest =>
      rw [hrest c rfl]
      rfl
  | cons c cs ih =>
    obtain ⟨hc, hcs⟩ := not_or.mp (mt List.mem_cons.mpr h)
    rw [← ih hcs, List.cons_append, drop_line_skip (Ne.symm hc)]

/-- Inside a block comment, line comments are dropped as if what comes after it were not there. -/
theorem drop_line_body {inside : Bool} (hbody : LinesEnd body)
    (hinside : inside = true → '\n' ∈ body) (hrest : rest.head? ≠ some '/') :
    dropLineComments inside (body ++ rest) =
      dropLineComments inside body ++ dropLineComments false rest := by
  induction body generalizing inside with
  | nil =>
    cases inside with
    | false => rfl
    | true => cases hinside rfl
  | cons c cs ih =>
    have hcs : LinesEnd cs := fun tail h => hbody tail (h.trans (List.suffix_cons c cs))
    by_cases hc : c = '\n'
    · subst hc
      exact congrArg ('\n' :: ·) (ih hcs (by simp))
    have hlater (h : '\n' ∈ c :: cs) : '\n' ∈ cs := (List.mem_cons.mp h).resolve_left (Ne.symm hc)
    cases inside with
    | true =>
      rw [List.cons_append, drop_line_skip hc, drop_line_skip hc]
      exact ih hcs fun _ => hlater (hinside rfl)
    | false =>
      by_cases hslash : c = '/' ∧ cs.head? = some '/'
      · obtain ⟨rfl, hhead⟩ := hslash
        obtain ⟨ds, rfl⟩ := List.head?_eq_some_iff.mp hhead
        have hend : '\n' ∈ '/' :: ds := hlater (hbody _ List.suffix_rfl (List.prefix_append _ ds))
        have hskip := @ih true hcs fun _ => hend
        exact hskip
      · have hjoined : ¬ (c = '/' ∧ (cs ++ rest).head? = some '/') := by
          cases cs with
          | nil => exact fun h => hrest h.2
          | cons => exact hslash
        rw [List.cons_append, drop_line_keep hjoined, drop_line_keep hslash, ih hcs (by simp),
          List.cons_append]

theorem drop_line_keeps_open {inside : Bool} (h : ¬ ['*', '/'] <:+: body) :
    ¬ ['*', '/'] <:+: dropLineComments inside body := by
  induction body generalizing inside with
  | nil => exact h
  | cons c cs ih =>
    obtain ⟨hc, hcs⟩ := pair_absent_cons.mp h
    by_cases hn : c = '\n'
    · subst hn
      exact pair_absent_cons.mpr ⟨by simp, ih hcs⟩
    cases inside with
    | true =>
      rw [drop_line_skip hn]
      exact ih hcs
    | false =>
      by_cases hslash : c = '/' ∧ cs.head? = some '/'
      · obtain ⟨rfl, hhead⟩ := hslash
        obtain ⟨ds, rfl⟩ := List.head?_eq_some_iff.mp hhead
        have hskip := @ih true hcs
        exact hskip
      · rw [drop_line_keep hslash]
        exact pair_absent_cons.mpr ⟨fun hd => hc ⟨hd.1, head_drop_line hd.2 (by decide)⟩, ih hcs⟩

end LineComments

section BlockComments

variable {body rest : List Char}

theorem after_close (h : ¬ ['*', '/'] <:+: body) :
    afterClose? (body ++ '*' :: '/' :: rest) = some rest := by
  induction body with
  | nil => rfl
  | cons c cs ih =>
    obtain ⟨hc, hcs⟩ := pair_absent_cons.mp h
    rw [← ih hcs, List.cons_append, afterClose?.eq_def]
    split
    · rename_i he
      cases he
    · rename_i he
      obtain ⟨rfl, htail⟩ := List.cons_eq_cons.mp he
      cases cs with
      | nil => cases htail
      | cons d ds =>
        obtain ⟨rfl, -⟩ := List.cons_eq_cons.mp htail
        exact absurd ⟨rfl, rfl⟩ hc
    · rename_i he
      cases he
      rfl

theorem drop_block_comment (h : ¬ ['*', '/'] <:+: body) :
    dropBlockComments ('/' :: '*' :: (body ++ '*' :: '/' :: rest)) = dropBlockComments rest := by
  rw [dropBlockComments.eq_def]
  simp only
  split
  · rename_i hclose
    rw [after_close h] at hclose
    cases hclose
    rfl
  · rename_i hclose
    rw [after_close h] at hclose
    cases hclose

end BlockComments

section Stripping

variable {rest : List Char}

/-- A comment whose lines end leaves nothing. -/
theorem strip_comment {comment : List Char} (h : Comment LinesEnd rest comment) :
    strip (comment ++ rest) = strip rest := by
  cases h with
  | none => rfl
  | @line body short ends =>
    have hskip : dropLineComments false ('/' :: '/' :: body ++ rest) =
        dropLineComments true ('/' :: body ++ rest) := rfl
    rw [strip, hskip, drop_line_true (by simpa using short) ends]
    rfl
  | @block body closed lines ends =>
    have hrest : ('*' :: '/' :: rest).head? ≠ some '/' := by simp
    have hslash : rest.head? ≠ some '/' := fun h => absurd (ends _ h) (by decide)
    have htext : '/' :: '*' :: (body ++ ['*', '/']) ++ rest =
        '/' :: '*' :: (body ++ '*' :: '/' :: rest) := by simp
    have hclose : dropLineComments false ('*' :: '/' :: rest) =
        '*' :: '/' :: dropLineComments false rest := by
      rw [drop_line_keep (by simp), drop_line_keep fun h => hslash h.2]
    rw [strip, htext, drop_line_keep (by simp), drop_line_keep (by simp),
      drop_line_body lines (by simp) hrest, hclose,
      drop_block_comment (drop_line_keeps_open closed)]
    rfl

theorem strip_nil : strip [] = [] := by
  rw [strip, dropLineComments, dropBlockComments]

theorem strip_blank {c : Char} (hc : isBlank c = true) : strip (c :: rest) = c :: strip rest := by
  have hslash : c ≠ '/' := by
    rintro rfl
    cases hc
  rw [strip, drop_line_keep fun h => hslash h.1, drop_block_keep fun h => hslash h.1]
  rfl

/-- Next to a text, it does not matter which blanks stand before it. -/
theorem PairFree.before_blank {a b : Char} {xs ys zs : List Char} (h : PairFree a b xs ys)
    (hb : isBlank b = false)
    (hhead : ∀ c ∈ zs.head?, isBlank c = true ∨ ys.head? = some c) : PairFree a b xs zs := by
  induction xs with
  | nil => exact pair_free_nil
  | cons c xs ih =>
    obtain ⟨hc, hxs⟩ := pair_free_cons.mp h
    refine pair_free_cons.mpr ⟨fun hpair => ?_, ih hxs⟩
    cases xs with
    | cons d ds => exact hc hpair
    | nil =>
      rcases hhead b hpair.2 with hblank | hy
      · rw [hb] at hblank
        cases hblank
      · exact hc ⟨hpair.1, hy⟩

theorem Commented.head {Body : List Char → Prop} {ts : List Token} {base text : List Char}
    (h : Commented Body ts base text) :
    ∀ c ∈ text.head?, isBlank c = true ∨ base.head? = some c := by
  cases h with
  | nil => simp
  | gap hc => exact fun d hd => .inl (by cases hd; exact hc)
  | @token t ts base text apart rest =>
    intro c hc
    have hne : t.text ≠ [] := by
      cases t with
      | word w => exact apart.proper.1
      | quoted => exact List.cons_ne_nil _ _
      | mark => exact List.cons_ne_nil _ _
    rw [List.head?_append_of_ne_nil _ hne] at hc ⊢
    exact .inr hc

theorem strip_token {Body : List Char → Prop} {t : Token} {ts : List Token} {base text : List Char}
    (apart : t.Apart base) (h : Commented Body ts base text) :
    strip (t.text ++ text) = t.text ++ strip text := by
  have hhead : ∀ c ∈ (dropLineComments false text).head?,
      isBlank c = true ∨ base.head? = some c := by
    intro c hc
    by_cases hn : c = '\n'
    · exact .inl (by rw [hn]; decide)
    · exact h.head c (head_drop_line hc hn)
  rw [strip, drop_line_append (apart.no_line.before_blank (by decide) h.head),
    drop_block_append (apart.no_block.before_blank (by decide) hhead), strip]

end Stripping

section Meaning

variable {ts : List Token} {base text : List Char}

/-- Without its comments a text has nothing but blanks more than its base, and none inside a
word. -/
theorem Commented.widened (h : Commented LinesEnd ts base text) {before : Char}
    (outside : isWordChar before = false ∨ ∀ d ∈ base.head?, isWordChar d = false) :
    Widened before base (strip text) := by
  induction h generalizing before with
  | nil =>
    rw [strip_nil]
    exact .nil
  | @token t ts base text apart rest ih =>
    rw [strip_token apart rest]
    refine .append (ih ?_)
    cases t with
    | word => exact .inr apart.ends
    | quoted body =>
      left
      rw [Token.text, List.getLast?_concat]
      exact quote_is_mark.2
    | mark c => exact .inl apart.proper.2
  | @gap c ts base base' text comment hc kept hcomment rest ih =>
    have hrest : Widened c base (strip text) := ih (.inl (Text.blank_not_word hc))
    have hstrip : strip (c :: (comment ++ text)) = c :: strip text := by
      rw [strip_blank hc, strip_comment hcomment]
    rw [hstrip]
    rcases kept with rfl | rfl
    · exact .same hrest
    · exact .added hc outside hrest

theorem Token.EndsBefore.widened {t : Token} {before : Char} {a b : List Char}
    (h : t.EndsBefore a) (hw : Widened before a b) : t.EndsBefore b := by
  cases t with
  | word w =>
    intro c hc
    rcases hw.head c hc with hblank | ha
    · exact Text.blank_not_word hblank
    · exact h c ha
  | quoted => trivial
  | mark c =>
    intro hq hb
    rcases hw.mem _ hb with hblank | ha
    · cases hblank
    · exact h hq ha

theorem Commented.laid_strip (h : Commented LinesEnd ts base text) : Laid ts (strip text) := by
  induction h with
  | nil =>
    rw [strip_nil]
    exact .nil
  | @token t ts base text apart rest ih =>
    rw [strip_token apart rest]
    have hw : Widened ' ' base (strip text) := rest.widened (.inl (by decide))
    exact .token apart.proper (apart.ends.widened hw) ih
  | gap hc _ hcomment _ ih =>
    rw [strip_blank hc, strip_comment hcomment]
    exact .blank hc ih

theorem Commented.laid_base {Body : List Char → Prop} (h : Commented Body ts base text) :
    Laid ts base := by
  induction h with
  | nil => exact .nil
  | token apart _ ih => exact .token apart.proper apart.ends ih
  | gap hc kept _ _ ih =>
    rcases kept with rfl | rfl
    · exact .blank hc ih
    · exact ih

/-- The base of a layout holds no comment. -/
theorem Commented.no_comment {Body : List Char → Prop} (h : Commented Body ts base text) :
    ¬ ['/', '/'] <:+: base ∧ ¬ ['/', '*'] <:+: base := by
  induction h with
  | nil => simp
  | token apart _ ih =>
    exact ⟨apart.no_line.append ih.1, apart.no_block.append ih.2⟩
  | @gap c _ base _ _ _ hc kept _ _ ih =>
    have hslash : c ≠ '/' := by
      rintro rfl
      cases hc
    rcases kept with rfl | rfl
    · exact ⟨pair_absent_cons.mpr ⟨fun h => hslash h.1, ih.1⟩,
        pair_absent_cons.mpr ⟨fun h => hslash h.1, ih.2⟩⟩
    · exact ih

end Meaning

/-- Comments are inert as long as what follows a `//` in a block comment ends with its line: the
text is cut into the same tokens as without them. -/
theorem tokenize_commented {ts : List Token} {base text opening : String}
    (hopening : Comment LinesEnd text.toList opening.toList)
    (h : Commented LinesEnd ts base.toList text.toList) (hheader : HeaderFree base.toList) :
    tokenize (opening ++ text) = tokenize base ∧ tokenize base = ts := by
  have hbase : tokenize base = ts := by
    rw [tokenize, clean_eq_self h.no_comment.1 h.no_comment.2 hheader]
    exact scan_eq_iff.mpr h.laid_base
  have hw : Widened ' ' base.toList (strip text.toList) := h.widened (.inl (by decide))
  have hclean : clean (opening ++ text).toList = strip text.toList := by
    rw [String.toList_append, ← strip_comment hopening]
    refine drop_headers_free ?_ _
    change HeaderFree (strip (opening.toList ++ text.toList))
    rw [strip_comment hopening]
    exact hw.header_free hheader
  refine ⟨?_, hbase⟩
  rw [hbase, tokenize, hclean]
  exact scan_eq_iff.mpr h.laid_strip

/-- The comment holds a quote, the start of another comment and, not on its last line, a `//`. -/
def quietText : String := "\nv /* see\n// \" /* https://x\n*/ ;"

theorem quiet_text_commented :
    Commented LinesEnd [.word ['v'], .mark ';'] "\nv ;".toList quietText.toList := by
  have hcomment : Comment LinesEnd " ;".toList "/* see\n// \" /* https://x\n*/".toList :=
    @Comment.block LinesEnd _ " see\n// \" /* https://x\n".toList (by decide +kernel)
      (by decide +kernel) (by intro c hc; cases hc; rfl)
  have hend : Commented LinesEnd [.mark ';'] ";".toList ";".toList :=
    .token (t := .mark ';') (by decide +kernel) .nil
  have hvalue : Commented LinesEnd [.word ['v'], .mark ';'] "v ;".toList
      "v /* see\n// \" /* https://x\n*/ ;".toList :=
    .token (t := .word ['v']) (by decide +kernel)
      (.gap rfl (.inl rfl) hcomment (.gap rfl (.inr rfl) .none hend))
  exact .gap rfl (.inl rfl) .none hvalue

theorem quiet_text_tokens :
    (Comment LinesEnd quietText.toList "// opening /* \"".toList ∧
      Commented LinesEnd [.word ['v'], .mark ';'] "\nv ;".toList quietText.toList ∧
      HeaderFree "\nv ;".toList) ∧
    tokenize ("// opening /* \"" ++ quietText) = tokenize "\nv ;" ∧
    tokenize "\nv ;" = [.word ['v'], .mark ';'] := by
  have hopening : Comment LinesEnd quietText.toList "// opening /* \"".toList :=
    @Comment.line LinesEnd _ " opening /* \"".toList (by decide) (by intro c hc; cases hc; rfl)
  have hheader : HeaderFree "\nv ;".toList := header_free_of_absent (by decide +kernel)
  exact ⟨⟨hopening, quiet_text_commented, hheader⟩,
    tokenize_commented hopening quiet_text_commented hheader⟩

theorem url_text_commented : Commented (fun _ => True)
    [.word ['v'], .mark ';', .word ['w'], .mark ';'] "v; w;".toList "v; /* http://b */ w;".toList := by
  have hcomment : Comment (fun _ => True) " w;".toList "/* http://b */".toList :=
    @Comment.block _ _ " http://b ".toList (by decide +kernel) trivial
      (by intro c hc; cases hc; rfl)
  have hlast : Commented (fun _ => True) [.word ['w'], .mark ';'] "w;".toList "w;".toList :=
    .token (t := .word ['w']) (by decide +kernel) (.token (t := .mark ';') (by decide +kernel) .nil)
  exact .token (t := .word ['v']) (by decide +kernel) (.token (t := .mark ';') (by decide +kernel)
    (.gap rfl (.inl rfl) hcomment (.gap rfl (.inr rfl) .none hlast)))

/-- A URL in a block comment of one line hides the end of the comment and of its line. -/
theorem comment_with_url_leaks :
    ¬ ∀ (ts : List Token) (base text opening : String),
      Comment (fun _ => True) text.toList opening.toList →
      Commented (fun _ => True) ts base.toList text.toList → HeaderFree base.toList →
      tokenize (opening ++ text) = tokenize base := by
  intro h
  have hheader : HeaderFree "v; w;".toList := header_free_of_absent (by decide +kernel)
  have hsame := h _ "v; w;" "v; /* http://b */ w;" "" .none url_text_commented hheader
  exact absurd hsame (by decide +kernel)

end FeatureTest.VersionDef
