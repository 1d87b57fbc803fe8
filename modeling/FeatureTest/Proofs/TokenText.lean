import FeatureTest.Proofs.TextCleaning
import FeatureTest.Proofs.TokenLayout

/-!
Tokens against the text that they are cut from. Of a text without comments and header lines they
leave out nothing but the blanks outside quoted strings, none of them could have been cut longer,
and on lines of their own they are read back as they are.
-/
namespace FeatureTest.VersionDef
open Text (isBlank isWordChar)

/-- Text in which no comment starts and no header is named. -/
structure Bare (cs : List Char) : Prop where
  no_line : ¬ ['/', '/'] <:+: cs
  no_block : ¬ ['/', '*'] <:+: cs
  no_header : ¬ headerStart <:+: cs

namespace Bare

variable {cs ds : List Char}

theorem of_infix (h : Bare cs) (hin : ds <:+: cs) : Bare ds where
  no_line := fun hl => h.no_line (hl.trans hin)
  no_block := fun hb => h.no_block (hb.trans hin)
  no_header := fun hh => h.no_header (hh.trans hin)

theorem tokenize_eq {text : String} (h : Bare text.toList) : tokenize text = scan text.toList := by
  rw [tokenize, clean_eq_self h.no_line h.no_block (header_free_of_absent h.no_header)]

end Bare

section Cuts

/-- A token between the two parts of a text around it: a word goes on neither way, and a lone quote
is not closed later. -/
structure Token.Cut (before after : List Char) (t : Token) : Prop where
  proper : t.Proper
  ends : t.EndsBefore after
  begins : ∀ w, t = .word w → ∀ c ∈ before.getLast?, isWordChar c = false

variable {t : Token} {ts front back : List Token} {text before after : List Char}

theorem Token.EndsBefore.left (h : t.EndsBefore (before ++ after)) : t.EndsBefore before := by
  cases t with
  | word w =>
    cases before with
    | nil => simp [Token.EndsBefore]
    | cons c cs => exact h
  | quoted => trivial
  | mark c => exact fun hq hb => h hq (List.mem_append_left _ hb)

/-- No word goes on from the token right before it. -/
theorem Token.Proper.not_joined {w : List Char} (ht : t.Proper) (hw : (Token.word w).Proper)
    (he : t.EndsBefore (w ++ after)) : ∀ c ∈ t.text.getLast?, isWordChar c = false := by
  cases t with
  | word v =>
    obtain ⟨hne, hall⟩ := hw
    obtain ⟨c, w, rfl⟩ := List.exists_cons_of_ne_nil hne
    have hc := he c rfl
    rw [hall c List.mem_cons_self] at hc
    cases hc
  | quoted body =>
    intro c hc
    rw [Token.text, List.getLast?_concat] at hc
    cases hc
    exact quote_is_mark.2
  | mark d =>
    intro c hc
    cases hc
    exact ht.2

/-- More text in front leaves a token cut as it was, if no word in that text goes on in it. -/
theorem Token.Cut.extend {xs : List Char} (h : t.Cut before after)
    (hxs : before = [] → ∀ w, t = .word w → ∀ c ∈ xs.getLast?, isWordChar c = false) :
    t.Cut (xs ++ before) after where
  proper := h.proper
  ends := h.ends
  begins := by
    intro w hw c hc
    rw [List.getLast?_append] at hc
    cases hlast : before.getLast? with
    | none =>
      rw [hlast] at hc
      exact hxs (List.getLast?_eq_none_iff.mp hlast) w hw c hc
    | some d =>
      rw [hlast] at hc
      exact h.begins w hw c (hlast.trans hc)

/-- Around each of its tokens a text is cut in two, in which the other tokens stand. -/
theorem Laid.cut (h : Laid ts text) (hts : ts = front ++ t :: back) :
    ∃ before after, text = before ++ (t.text ++ after) ∧ Laid front before ∧ Laid back after ∧
      t.Cut before after := by
  induction h generalizing front with
  | nil => simp at hts
  | @blank c _ _ hc _ ih =>
    obtain ⟨before, after, rfl, hfront, hback, hcut⟩ := ih hts
    refine ⟨[c] ++ before, after, rfl, .blank hc hfront, hback, hcut.extend ?_⟩
    intro _ _ _ d hd
    cases hd
    exact Text.blank_not_word hc
  | @token first _ rest proper ends hrest ih =>
    cases front with
    | nil =>
      obtain ⟨rfl, rfl⟩ := List.cons_eq_cons.mp hts
      exact ⟨[], rest, rfl, .nil, hrest, proper, ends, by simp⟩
    | cons _ front =>
      obtain ⟨rfl, hlater⟩ := List.cons_eq_cons.mp hts
      obtain ⟨before, after, rfl, hfront, hback, hcut⟩ := ih hlater
      refine ⟨first.text ++ before, after, (List.append_assoc _ _ _).symm,
        .token proper ends.left hfront, hback, hcut.extend ?_⟩
      -- with nothing between them, the first token ends right before the word
      rintro rfl w rfl d hd
      exact proper.not_joined hcut.proper ends d hd

theorem Laid.text_infix (h : Laid ts text) (ht : t ∈ ts) : t.text <:+: text := by
  obtain ⟨front, back, hts⟩ := List.append_of_mem ht
  obtain ⟨before, after, rfl, -⟩ := h.cut hts
  exact List.infix_append' _ _ _

end Cuts

section Gaps

/-- Whether a place in a text lies in a quoted string. A quote is open there, and it is closed. -/
def InQuotes (before after : List Char) : Prop := before.count '"' % 2 = 1 ∧ '"' ∈ after

instance (before after : List Char) : Decidable (InQuotes before after) :=
  inferInstanceAs (Decidable (before.count '"' % 2 = 1 ∧ '"' ∈ after))

/-- A text without its blanks outside quoted strings. The first argument is what stands before
it. -/
def unspaced (before : List Char) : List Char → List Char
  | [] => []
  | c :: cs =>
    if isBlank c = true ∧ ¬ InQuotes before cs then unspaced (before ++ [c]) cs
    else c :: unspaced (before ++ [c]) cs

variable {before xs rest : List Char}

theorem unspaced_append (h : ∀ front c back, xs = front ++ c :: back → isBlank c = true →
    InQuotes (before ++ front) (back ++ rest)) :
    unspaced before (xs ++ rest) = xs ++ unspaced (before ++ xs) rest := by
  induction xs generalizing before with
  | nil => simp
  | cons c xs ih =>
    have hkept : ¬ (isBlank c = true ∧ ¬ InQuotes before (xs ++ rest)) := by
      intro ⟨hc, hout⟩
      have := h [] c xs rfl hc
      rw [List.append_nil] at this
      exact hout this
    have hxs := @ih (before ++ [c]) fun front d back hd hblank => by
      rw [List.append_assoc]
      exact h (c :: front) d back (by rw [hd, List.cons_append]) hblank
    rw [List.cons_append, unspaced, if_neg hkept, hxs, List.append_assoc, List.singleton_append,
      List.cons_append]

theorem unspaced_solid (h : ∀ c ∈ xs, isBlank c = false) :
    unspaced before (xs ++ rest) = xs ++ unspaced (before ++ xs) rest := by
  refine unspaced_append fun front c back hxs hc => ?_
  rw [h c (hxs ▸ List.mem_append_right _ List.mem_cons_self)] at hc
  cases hc

theorem unspaced_inside (hopen : before.count '"' % 2 = 1) (hxs : '"' ∉ xs) (hclosed : '"' ∈ rest) :
    unspaced before (xs ++ rest) = xs ++ unspaced (before ++ xs) rest := by
  refine unspaced_append fun front c back hsplit _ => ⟨?_, List.mem_append_right _ hclosed⟩
  have hfront : front.count '"' = 0 :=
    List.count_eq_zero.mpr fun hq => hxs (hsplit ▸ List.mem_append_left _ hq)
  rw [List.count_append, hfront]
  exact hopen

/-- Between two parts of a text no quoted string is open: the quotes before make pairs, or none
comes later to close the last one. -/
def Outside (before after : List Char) : Prop := before.count '"' % 2 = 0 ∨ '"' ∉ after

theorem Outside.not_in_quotes {c : Char} (h : Outside before (c :: rest)) :
    ¬ InQuotes before rest := by
  intro ⟨hopen, hclosed⟩
  rcases h with heven | hnone
  · omega
  · exact hnone (List.mem_cons_of_mem c hclosed)

theorem Outside.pass (h : Outside before (xs ++ rest)) (hxs : '"' ∉ xs) :
    Outside (before ++ xs) rest := by
  rcases h with heven | hnone
  · left
    rw [List.count_append, List.count_eq_zero.mpr hxs]
    exact heven
  · exact .inr fun hq => hnone (List.mem_append_right xs hq)

theorem Outside.pass_quoted {body : List Char} (h : Outside before ('"' :: rest))
    (hbody : '"' ∉ body) :
    (before ++ ['"']).count '"' % 2 = 1 ∧ (before ++ ['"'] ++ body ++ ['"']).count '"' % 2 = 0 := by
  have heven := h.resolve_right fun hnone => hnone List.mem_cons_self
  simp only [List.count_append, List.count_singleton_self, List.count_eq_zero.mpr hbody]
  omega

/-- The tokens of a text are what is left of it without the blanks between them. -/
theorem Laid.unspaced_eq {ts : List Token} {text : List Char} (h : Laid ts text)
    (hout : Outside before text) : unspaced before text = ts.flatMap Token.text := by
  induction h generalizing before with
  | nil => rfl
  | @blank c ts text hc _ ih =>
    have hquote : '"' ∉ [c] := by
      intro hq
      rw [← List.mem_singleton.mp hq] at hc
      cases hc
    have hpast : Outside (before ++ [c]) text := Outside.pass hout hquote
    rw [unspaced, if_pos ⟨hc, hout.not_in_quotes⟩, ih hpast]
  | @token t ts text proper ends _ ih =>
    rw [List.flatMap_cons]
    cases t with
    | word w =>
      have hquote : '"' ∉ w := by
        intro hq
        have hword := proper.2 _ hq
        rw [quote_is_mark.2] at hword
        cases hword
      have hpast : Outside (before ++ w) text := Outside.pass hout hquote
      rw [Token.text, unspaced_solid fun c hc => Text.word_not_blank (proper.2 c hc), ih hpast]
    | quoted body =>
      have hquote : ∀ c ∈ ['"'], isBlank c = false :=
        List.forall_mem_singleton.mpr quote_is_mark.1
      have htext : (Token.quoted body).text ++ text = ['"'] ++ (body ++ (['"'] ++ text)) := by
        simp [Token.text]
      have hbody : '"' ∉ body := proper
      obtain ⟨hopen, heven⟩ := Outside.pass_quoted hout hbody
      rw [htext, unspaced_solid hquote, unspaced_inside hopen hbody (by simp),
        unspaced_solid hquote, ih (.inl heven)]
      simp [Token.text]
    | mark c =>
      rw [Token.text, unspaced_solid (List.forall_mem_singleton.mpr proper.1), ih]
      by_cases hq : c = '"'
      · -- the pairs are over, as a lone quote is the last one
        exact .inr (ends hq)
      · exact Outside.pass hout fun hm => hq (List.mem_singleton.mp hm).symm

theorem count_unspaced {c : Char} (hc : isBlank c = false) (cs : List Char) :
    (unspaced before cs).count c = cs.count c := by
  induction cs generalizing before with
  | nil => rfl
  | cons d cs ih =>
    rw [unspaced]
    split
    · rename_i hd
      have hne : d ≠ c := by
        rintro rfl
        rw [hc] at hd
        cases hd.1
      rw [ih, List.count_cons_of_ne hne]
    · rw [List.count_cons, List.count_cons, ih]

end Gaps

section Lines

/-- Tokens on lines of their own. -/
def onLines (ts : List Token) : String := "\n".intercalate (ts.map fun t => String.ofList t.text)

theorem on_lines_chars (ts : List Token) :
    (onLines ts).toList = ['\n'].intercalate (ts.map Token.text) := by
  rw [onLines, String.toList_intercalate, List.map_map]
  simp [Function.comp_def]

theorem prefix_break {p ys : List Char} (hp : '\n' ∉ p) (h : p <+: '\n' :: ys) : p = [] := by
  rcases List.prefix_cons_iff.mp h with rfl | ⟨t, rfl, -⟩
  · rfl
  · exact absurd List.mem_cons_self hp

/-- What has no line break stands on one side of it. -/
theorem infix_break {p xs ys : List Char} (hp : '\n' ∉ p) (h : p <:+: xs ++ '\n' :: ys) :
    p <:+: xs ∨ p <:+: ys := by
  rcases List.infix_append_iff.mp h with h | h | ⟨a, b, rfl, ha, hb⟩
  · exact .inl h
  · rcases List.infix_cons_iff.mp h with h | h
    · exact .inr (prefix_break hp h ▸ List.nil_infix)
    · exact .inr h
  · have hb := prefix_break (fun hm => hp (List.mem_append_right _ hm)) hb
    rw [hb, List.append_nil]
    exact .inl ha.isInfix

theorem infix_line {p : List Char} {lines : List (List Char)} (hp : '\n' ∉ p) (hne : p ≠ [])
    (h : p <:+: ['\n'].intercalate lines) : ∃ line ∈ lines, p <:+: line := by
  induction lines with
  | nil => exact absurd (List.infix_nil.mp h) hne
  | cons line rest ih =>
    cases rest with
    | nil =>
      rw [List.intercalate_singleton] at h
      exact ⟨line, List.mem_cons_self, h⟩
    | cons next rest =>
      rw [List.intercalate_cons_cons, List.append_assoc, List.singleton_append] at h
      rcases infix_break hp h with h | h
      · exact ⟨line, List.mem_cons_self, h⟩
      · obtain ⟨found, hfound, hin⟩ := ih h
        exact ⟨found, List.mem_cons_of_mem _ hfound, hin⟩

variable {ts : List Token} {text : List Char}

/-- The lines of a text's tokens hold no more than the text does. -/
theorem Laid.infix_lines {p : List Char} (h : Laid ts text) (hp : '\n' ∉ p) (hne : p ≠ [])
    (hin : p <:+: (onLines ts).toList) : p <:+: text := by
  rw [on_lines_chars] at hin
  obtain ⟨line, hline, hin⟩ := infix_line hp hne hin
  obtain ⟨t, ht, rfl⟩ := List.mem_map.mp hline
  exact hin.trans (h.text_infix ht)

theorem Bare.on_lines (hbare : Bare text) (h : Laid ts text) : Bare (onLines ts).toList where
  no_line := fun hl => hbare.no_line (h.infix_lines (by decide) (by decide) hl)
  no_block := fun hb => hbare.no_block (h.infix_lines (by decide) (by decide) hb)
  no_header := fun hh => hbare.no_header (h.infix_lines (by decide) (by decide) hh)

/-- A token ends before a line break as it ended in its text. -/
theorem Token.EndsBefore.on_line {t : Token} (he : t.EndsBefore text) (h : Laid ts text) :
    t.EndsBefore ('\n' :: (onLines ts).toList) := by
  cases t with
  | word w =>
    intro c hc
    cases hc
    decide
  | quoted => trivial
  | mark c =>
    intro hq hm
    have hin : ['"'] <:+: (onLines ts).toList := by
      rw [List.singleton_infix_iff]
      exact (List.mem_cons.mp hm).resolve_left (by decide)
    exact he hq ((List.singleton_infix_iff _ _).mp (h.infix_lines (by decide) (by decide) hin))

theorem Laid.on_lines (h : Laid ts text) : Laid ts (onLines ts).toList := by
  induction h with
  | nil => exact .nil
  | blank _ _ ih => exact ih
  | @token t ts text proper ends hrest ih =>
    rw [on_lines_chars, List.map_cons]
    cases ts with
    | nil =>
      rw [List.map_nil, List.intercalate_singleton, ← List.append_nil t.text]
      exact .token proper (Token.EndsBefore.left ends) .nil
    | cons next ts =>
      rw [List.map_cons, List.intercalate_cons_cons, ← List.map_cons, ← on_lines_chars,
        List.append_assoc]
      exact .token proper (ends.on_line hrest) (.blank rfl ih)

end Lines

/-- Each token is a whole word, a quoted string or a single other character that is no blank, cut
where it stands. Together they are the text but for the blanks outside quoted strings, and on lines
of their own they are cut again as before. -/
theorem tokens_hold_text (text : String) (h : Bare text.toList) :
    (∀ front t back, tokenize text = front ++ t :: back →
      ∃ before after, text = before ++ (String.ofList t.text ++ after) ∧
        tokenize before = front ∧ tokenize after = back ∧ t.Cut before.toList after.toList) ∧
    (tokenize text).flatMap Token.text = unspaced [] text.toList ∧
    (∀ c, isBlank c = false →
      ((tokenize text).flatMap Token.text).count c = text.toList.count c) ∧
    tokenize (onLines (tokenize text)) = tokenize text := by
  have hlaid : Laid (tokenize text) text.toList := h.tokenize_eq ▸ scan_eq_iff.mp rfl
  have hkept : (tokenize text).flatMap Token.text = unspaced [] text.toList :=
    (hlaid.unspaced_eq (.inl rfl)).symm
  refine ⟨?_, hkept, ?_, ?_⟩
  · intro front t back hts
    obtain ⟨before, after, htext, hfront, hback, hcut⟩ := hlaid.cut hts
    have hbefore : Bare before := h.of_infix ⟨[], t.text ++ after, by rw [htext]; rfl⟩
    have hafter : Bare after :=
      h.of_infix ⟨before ++ t.text, [], by rw [htext, List.append_nil, List.append_assoc]⟩
    refine ⟨String.ofList before, String.ofList after, ?_, ?_, ?_, ?_⟩
    · rw [← String.toList_inj]
      simpa using htext
    · rw [Bare.tokenize_eq (by simpa using hbefore), String.toList_ofList, scan_eq_iff.mpr hfront]
    · rw [Bare.tokenize_eq (by simpa using hafter), String.toList_ofList, scan_eq_iff.mpr hback]
    · simpa using hcut
  · intro c hc
    rw [hkept, count_unspaced hc]
  · rw [(h.on_lines hlaid).tokenize_eq]
    exact scan_eq_iff.mpr hlaid.on_lines

/-- A quoted string with letters past ASCII, blanks and a mark, a wide blank, and a quote that is
never closed. -/
def patchyText : String := "x1= \"größe\n ;\"\u3000/\t* \" b "

theorem patchy_text_held :
    Bare patchyText.toList ∧
    tokenize patchyText = [.word ['x', '1'], .mark '=', .quoted "größe\n ;".toList, .mark '/',
      .mark '*', .mark '"', .word ['b']] ∧
    (tokenize patchyText).flatMap Token.text = "x1=\"größe\n ;\"/*\"b".toList ∧
    tokenize "x1\n=\n\"größe\n ;\"\n/\n*\n\"\nb" = tokenize patchyText := by
  have hbare : Bare patchyText.toList :=
    ⟨by decide +kernel, by decide +kernel, by decide +kernel⟩
  have htokens : tokenize patchyText = [.word ['x', '1'], .mark '=', .quoted "größe\n ;".toList,
      .mark '/', .mark '*', .mark '"', .word ['b']] := by
    decide +kernel
  obtain ⟨-, hkept, -, hlines⟩ := tokens_hold_text patchyText hbare
  refine ⟨hbare, htokens, hkept.trans (by decide +kernel), ?_⟩
  rw [htokens] at hlines ⊢
  exact hlines

end FeatureTest.VersionDef
