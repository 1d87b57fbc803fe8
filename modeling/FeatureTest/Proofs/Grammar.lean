import FeatureTest.Proofs.Success
import FeatureTest.VersionDef.Definition

/-!
The grammar of version definitions, and how far the parser keeps to it. A name is read up to the
next equals sign and a value that starts with a quote up to the next semicolon, so a statement that
lacks one of these may become part of its neighbour. Tidy tokens are those among which that does
not happen.
-/
namespace FeatureTest.VersionDef
open Success

/-- Whether a token opens a statement that may follow it. -/
def Token.opens (t : Token) : Bool := t = .mark ';' || t = .mark '\x7b'

def Token.isQuoted : Token → Bool
  | .quoted _ => true
  | _ => false

def Token.isMark : Token → Bool
  | .mark _ => true
  | _ => false

/-- Whether a token may stand before the next one. The word that opens a statement stands before
its equals sign, an equals sign before a value or a brace, and a quoted string before another one or
a semicolon. -/
def Token.fits (opening : Bool) (next : Option Token) : Token → Bool
  | .word _ => !opening || next == some (.mark '=')
  | .quoted _ => next.any fun t => t.isQuoted || t == .mark ';'
  | .mark '=' => next.any fun t => !t.isMark || t == .mark '\x7b'
  | .mark _ => true

/-- Whether each token may stand before the next, where `opening` tells whether the first one opens
a statement. -/
def tidyFrom (opening : Bool) : List Token → Bool
  | [] => true
  | t :: ts => t.fits opening ts.head? && tidyFrom t.opens ts

def Tidy (ts : List Token) : Prop := tidyFrom true ts = true

instance (ts : List Token) : Decidable (Tidy ts) := inferInstanceAs (Decidable (_ = true))

/-- The tokens that may stand for a name and for a value. -/
structure Grammar where
  IsName : List Token → Prop
  IsValue : List Token → Prop

namespace Grammar

/-- Statements one after the other, `name = value;` or `name = { … };`. -/
inductive Derives (g : Grammar) : List Token → Prop
  | done : g.Derives []
  | value {name value rest : List Token} (named : g.IsName name) (valued : g.IsValue value)
      (later : g.Derives rest) : g.Derives (name ++ .mark '=' :: (value ++ .mark ';' :: rest))
  | group {name body rest : List Token} (named : g.IsName name) (inside : g.Derives body)
      (later : g.Derives rest) :
      g.Derives (name ++ .mark '=' :: .mark '\x7b' :: (body ++ .mark '\x7d' :: .mark ';' :: rest))

/-- A name is a word, and a value is a word or quoted strings one after the other. -/
def strict : Grammar where
  IsName name := ∃ w, name = [.word w]
  IsValue value := (∃ w, value = [.word w]) ∨
    ∃ first rest, value = .quoted first :: List.map .quoted rest

/-- A name is anything from a word up to an equals sign. A value is one token, or anything from a
quote up to a semicolon. -/
def loose : Grammar where
  IsName name := ∃ w more, name = .word w :: more ∧ .mark '=' ∉ more
  IsValue value := isValue value = true ∧ value.head? ≠ some (.mark '\x7b') ∧ .mark ';' ∉ value

/-- Statements among which some open groups are closed, the innermost first. -/
inductive Closes (g : Grammar) : Nat → List Token → Prop
  | outside {ts : List Token} (all : g.Derives ts) : g.Closes 0 ts
  | inside {depth : Nat} {body rest : List Token} (all : g.Derives body)
      (later : g.Closes depth rest) :
      g.Closes (depth + 1) (body ++ .mark '\x7d' :: .mark ';' :: rest)

section Closing

variable {g : Grammar} {depth : Nat} {name rest : List Token}

theorem Closes.statement {v : List Token} (hname : g.IsName name) (hvalue : g.IsValue v)
    (h : g.Closes depth rest) :
    g.Closes depth (name ++ .mark '=' :: (v ++ .mark ';' :: rest)) := by
  cases h with
  | outside all => exact .outside (.value hname hvalue all)
  | inside all later => simpa using Closes.inside (.value hname hvalue all) later

theorem Closes.opened (hname : g.IsName name) (h : g.Closes (depth + 1) rest) :
    g.Closes depth (name ++ .mark '=' :: .mark '\x7b' :: rest) := by
  cases h with
  | inside body later =>
    cases later with
    | outside all => exact .outside (.group hname body all)
    | inside all later => simpa using Closes.inside (.group hname body all) later

end Closing

theorem split_at_mark_eq {mark : Char} {ts before after : List Token}
    (h : splitAtMark? mark ts = some (before, after)) :
    ts = before ++ .mark mark :: after ∧ .mark mark ∉ before := by
  induction ts generalizing before with
  | nil => simp [splitAtMark?] at h
  | cons t ts ih =>
    simp only [splitAtMark?] at h
    split at h
    · rename_i ht
      cases h
      exact ⟨by rw [ht, List.nil_append], List.not_mem_nil⟩
    · rename_i ht
      obtain ⟨⟨b, a⟩, hp, he⟩ := Option.map_eq_some_iff.mp h
      cases he
      obtain ⟨rfl, hb⟩ := ih hp
      refine ⟨rfl, ?_⟩
      intro hm
      rcases List.mem_cons.mp hm with hm | hm
      · exact ht hm.symm
      · exact hb hm

/-- What is read closes the groups that are open. -/
theorem read_closes {groups : List OpenGroup} {ds result : Definitions} {ts : List Token}
    (h : readDefinitions groups ds ts = .ok result) : loose.Closes groups.length ts := by
  fun_induction readDefinitions groups ds ts with
  | case2 groups ds w rest before after named _ _ hopen ih =>
    obtain ⟨rfl, hbefore⟩ := split_at_mark_eq named
    have hname : loose.IsName (.word w :: before) := ⟨w, before, rfl, hbefore⟩
    obtain ⟨inside, rfl⟩ : ∃ inside, after = .mark '\x7b' :: inside :=
      ⟨after.tail, List.eq_cons_of_mem_head? hopen⟩
    exact .opened hname (ih h)
  | case6 groups ds w rest before after named _ _ hopen v rest' ended _ hvalue _ ih =>
    obtain ⟨rfl, hbefore⟩ := split_at_mark_eq named
    obtain ⟨rfl, hend⟩ := split_at_mark_eq ended
    have hname : loose.IsName (.word w :: before) := ⟨w, before, rfl, hbefore⟩
    have hvalued : loose.IsValue v := by
      refine ⟨by simpa using hvalue, ?_, hend⟩
      intro hbrace
      cases v with
      | nil => cases hbrace
      | cons t v => exact hopen hbrace
    exact .statement hname hvalued (ih h)
  | case9 ds t _ group outer hclose rest ds' _ ih =>
    rw [not_not.mp hclose]
    exact .inside .done (ih h)
  | case12 groups ds hnone =>
    rw [List.isEmpty_iff.mp hnone]
    exact .outside .done
  | _ => cases h

section Tidying

variable {name v rest : List Token}

theorem tidy_brace (h : tidyFrom false (.mark '=' :: .mark '\x7b' :: rest) = true) : Tidy rest := by
  simpa [Tidy, tidyFrom, Token.fits, Token.opens] using h

theorem tidy_close : Tidy (.mark '\x7d' :: .mark ';' :: rest) ↔ Tidy rest := by
  simp [Tidy, tidyFrom, Token.fits, Token.opens]

theorem tidy_name (hname : loose.IsName name) (h : Tidy (name ++ .mark '=' :: rest)) :
    strict.IsName name ∧ tidyFrom false (.mark '=' :: rest) = true := by
  obtain ⟨w, more, rfl, hmore⟩ := hname
  simp only [Tidy, List.cons_append, tidyFrom, Bool.and_eq_true] at h
  obtain ⟨hfits, hrest⟩ := h
  cases more with
  | nil => exact ⟨⟨w, rfl⟩, hrest⟩
  | cons t more =>
    have ht : t = .mark '=' := by simpa [Token.fits] using hfits
    exact absurd (ht ▸ List.mem_cons_self) hmore

/-- A quoted string is followed by nothing but others before the semicolon. -/
theorem tidy_strings {first : List Char} (hend : .mark ';' ∉ v)
    (h : tidyFrom false (.quoted first :: (v ++ .mark ';' :: rest)) = true) :
    (∃ later, v = List.map .quoted later) ∧ Tidy rest := by
  induction v generalizing first with
  | nil =>
    refine ⟨⟨[], rfl⟩, ?_⟩
    simpa [Tidy, tidyFrom, Token.fits, Token.opens] using h
  | cons t v ih =>
    have hlast : .mark ';' ∉ v := mt (List.mem_cons_of_mem t) hend
    rw [List.cons_append, tidyFrom, Bool.and_eq_true] at h
    obtain ⟨hfits, hrest⟩ := h
    cases t with
    | quoted next =>
      obtain ⟨⟨later, rfl⟩, hafter⟩ := ih hlast hrest
      exact ⟨⟨next :: later, rfl⟩, hafter⟩
    | word w => cases hfits
    | mark c =>
      have hc : Token.mark c = .mark ';' := by simpa [Token.fits, Token.isQuoted] using hfits
      exact absurd (hc ▸ List.mem_cons_self) hend

theorem tidy_value (hvalue : loose.IsValue v)
    (h : tidyFrom false (.mark '=' :: (v ++ .mark ';' :: rest)) = true) :
    strict.IsValue v ∧ Tidy rest := by
  obtain ⟨hv, hbrace, hend⟩ := hvalue
  cases v with
  | nil => cases hv
  | cons t v =>
    have hlast : .mark ';' ∉ v := mt (List.mem_cons_of_mem t) hend
    rw [List.cons_append, tidyFrom, Bool.and_eq_true] at h
    obtain ⟨hfits, hrest⟩ := h
    cases t with
    | word w =>
      obtain rfl : v = [] := by
        cases v with
        | nil => rfl
        | cons => cases hv
      refine ⟨.inl ⟨w, rfl⟩, ?_⟩
      simpa [Tidy, tidyFrom, Token.fits, Token.opens] using hrest
    | quoted first =>
      obtain ⟨⟨later, rfl⟩, hafter⟩ := tidy_strings hlast hrest
      exact ⟨.inr ⟨first, later, rfl⟩, hafter⟩
    | mark c =>
      have hc : Token.mark c = .mark '\x7b' := by
        simpa [Token.fits, Token.isMark] using hfits
      exact absurd (congrArg some hc) hbrace

/-- Of tidy tokens the loose grammar derives no more than the strict one. -/
theorem strict_of_tidy {ts : List Token} (h : loose.Derives ts) :
    ∀ rest, Tidy (ts ++ rest) → strict.Derives ts ∧ Tidy rest := by
  induction h with
  | done => exact fun rest hrest => ⟨.done, hrest⟩
  | @value name v later named valued _ ih =>
    intro rest htidy
    rw [List.append_assoc, List.cons_append, List.append_assoc, List.cons_append] at htidy
    obtain ⟨hname, htidy⟩ := tidy_name named htidy
    obtain ⟨hvalue, htidy⟩ := tidy_value valued htidy
    obtain ⟨hlater, hrest⟩ := ih rest htidy
    exact ⟨.value hname hvalue hlater, hrest⟩
  | @group name body later named _ _ ihbody ihlater =>
    intro rest htidy
    rw [List.append_assoc, List.cons_append, List.cons_append, List.append_assoc, List.cons_append,
      List.cons_append] at htidy
    obtain ⟨hname, htidy⟩ := tidy_name named htidy
    obtain ⟨hbody, htidy⟩ := ihbody _ (tidy_brace htidy)
    obtain ⟨hlater, hrest⟩ := ihlater rest (tidy_close.mp htidy)
    exact ⟨.group hname hbody hlater, hrest⟩

theorem tidy_of_strings (rest : List Token) (strings : List (List Char)) (h : Tidy rest) :
    tidyFrom false (List.map .quoted strings ++ .mark ';' :: rest) = true := by
  induction strings with
  | nil => simpa [Tidy, tidyFrom, Token.fits, Token.opens] using h
  | cons first later ih =>
    have hfits : (Token.quoted first).fits false
        (List.map Token.quoted later ++ Token.mark ';' :: rest).head? = true := by
      cases later <;> simp [Token.fits, Token.isQuoted]
    rw [List.map_cons, List.cons_append, tidyFrom, hfits, Bool.true_and]
    exact ih

theorem tidy_of_value (hvalue : strict.IsValue v) (h : Tidy rest) :
    tidyFrom false (.mark '=' :: (v ++ .mark ';' :: rest)) = true := by
  rcases hvalue with ⟨w, rfl⟩ | ⟨first, later, rfl⟩
  · simpa [Tidy, tidyFrom, Token.fits, Token.isMark, Token.opens] using h
  · have hstrings := tidy_of_strings rest (first :: later) h
    simpa [tidyFrom, Token.fits, Token.isMark, Token.opens] using hstrings

theorem tidy_of_name (hname : strict.IsName name)
    (h : tidyFrom false (.mark '=' :: rest) = true) : Tidy (name ++ .mark '=' :: rest) := by
  obtain ⟨w, rfl⟩ := hname
  simpa [Tidy, tidyFrom, Token.fits, Token.opens] using h

/-- What the strict grammar derives is tidy. -/
theorem tidy_of_strict {ts : List Token} (h : strict.Derives ts) :
    ∀ rest, Tidy rest → Tidy (ts ++ rest) := by
  induction h with
  | done => exact fun rest hrest => hrest
  | @value name v later named valued _ ih =>
    intro rest hrest
    rw [List.append_assoc, List.cons_append, List.append_assoc, List.cons_append]
    exact tidy_of_name named (tidy_of_value valued (ih rest hrest))
  | @group name body later named _ _ ihbody ihlater =>
    intro rest hrest
    rw [List.append_assoc, List.cons_append, List.cons_append, List.append_assoc, List.cons_append,
      List.cons_append]
    have hbody := ihbody _ (tidy_close.mpr (ihlater rest hrest))
    refine tidy_of_name named ?_
    simpa [Tidy, tidyFrom, Token.fits, Token.isMark, Token.opens] using hbody

end Tidying

/-- What is accepted is derived from the loose grammar, and from the strict one exactly if its
tokens are tidy. So tidy tokens that the strict grammar does not derive are rejected. -/
theorem accepted_within_grammar (text : String) :
    (∀ ds, parse text = .ok ds → loose.Derives (tokenize text) ∧
      (strict.Derives (tokenize text) ↔ Tidy (tokenize text))) ∧
    (Tidy (tokenize text) → ¬ strict.Derives (tokenize text) → ∃ e, parse text = .error e) := by
  have hloose : ∀ ds, parse text = .ok ds → loose.Derives (tokenize text) := by
    intro ds h
    have hcloses := read_closes h
    cases hcloses with
    | outside all => exact all
  have htidy : strict.Derives (tokenize text) → Tidy (tokenize text) := by
    intro h
    simpa using tidy_of_strict h [] rfl
  have hstrict : loose.Derives (tokenize text) → Tidy (tokenize text) →
      strict.Derives (tokenize text) := by
    intro h ht
    exact (strict_of_tidy h [] (by simpa using ht)).1
  constructor
  · intro ds h
    exact ⟨hloose ds h, htidy, hstrict (hloose ds h)⟩
  · intro ht hnot
    cases h : parse text with
    | error e => exact ⟨e, rfl⟩
    | ok ds => exact absurd (hstrict (hloose ds h) ht) hnot

theorem accepted_of_isOk {text : String} (h : (parse text).isOk = true) :
    ∃ ds, parse text = .ok ds := by
  cases hp : parse text with
  | error e => rw [hp] at h; cases h
  | ok ds => exact ⟨ds, rfl⟩

/-- The first value is two strings that hold marks. -/
def pairedText : String := "g = \x7b a = \"x;\" \"=\"; \x7d; b = 1;"

/-- The first statement has no semicolon. -/
def unendedText : String := "a = 1 b = 2;"

theorem unended_not_strict : ¬ strict.Derives (tokenize unendedText) := by
  have htokens : tokenize unendedText = [.word ['a'], .mark '=', .word ['1'], .word ['b'],
      .mark '=', .word ['2'], .mark ';'] := by decide +kernel
  rw [htokens]
  generalize hts : [Token.word ['a'], .mark '=', .word ['1'], .word ['b'], .mark '=', .word ['2'],
    .mark ';'] = ts
  intro h
  cases h with
  | done => cases hts
  | value named valued _ =>
    obtain ⟨w, rfl⟩ := named
    rcases valued with ⟨v, rfl⟩ | ⟨first, later, rfl⟩ <;> simp at hts
  | group named _ _ =>
    obtain ⟨w, rfl⟩ := named
    simp at hts

theorem paired_text_derived :
    (∃ ds, parse pairedText = .ok ds ∧ strict.Derives (tokenize pairedText)) ∧
      (Tidy (tokenize unendedText) ∧ ¬ strict.Derives (tokenize unendedText)) ∧
      ∃ e, parse unendedText = .error e := by
  have htidy : Tidy (tokenize pairedText) := by decide +kernel
  have hunended : Tidy (tokenize unendedText) := by decide +kernel
  have hok : (parse pairedText).isOk = true := by decide +kernel
  obtain ⟨ds, hparse⟩ := accepted_of_isOk hok
  have haccepted := (accepted_within_grammar pairedText).1 ds hparse
  have hrejected := (accepted_within_grammar unendedText).2 hunended unended_not_strict
  exact ⟨⟨ds, hparse, haccepted.2.mpr htidy⟩, ⟨hunended, unended_not_strict⟩, hrejected⟩

/-- A statement without an equals sign becomes part of the next name. -/
theorem unset_name_joins_next :
    ¬ ∀ text ds, parse text = .ok ds → strict.Derives (tokenize text) := by
  intro h
  have hok : (parse "a 1; b = 2;").isOk = true := by decide +kernel
  obtain ⟨ds, hparse⟩ := accepted_of_isOk hok
  have htidy := tidy_of_strict (h _ ds hparse) [] rfl
  exact absurd htidy (by decide +kernel)

end Grammar
end FeatureTest.VersionDef
