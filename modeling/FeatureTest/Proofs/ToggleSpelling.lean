import FeatureTest.Proofs.Announcement

/-!
Which spellings name a switch that can be turned off, and how the two spellings of such a switch and
their presence macros keep apart.
-/
namespace FeatureTest

/-- An identifier as the preprocessor reads one: letters, digits and underscores, not a digit
first. -/
def IsIdentifier (name : String) : Prop :=
  ∃ first rest, name.toList = first :: rest ∧ (first.isAlpha = true ∨ first = '_') ∧
    ∀ c ∈ rest, isIdentifierChar c = true

namespace Switch

variable {spelling other : String} {s : Switch}

/-- The characters of spellings: those of identifiers, and the marks that macros write as one. -/
def isSpellingChar (c : Char) : Bool := isIdentifierChar c || isMark c

theorem spelling_char_iff {c : Char} :
    isSpellingChar c = true ↔ c.isAlphanum = true ∨ c ∈ ['_', '-', '/', ':'] := by
  simp [isSpellingChar, isIdentifierChar, isMark, or_assoc]

/-- With its marks written as underscores, a text of spelling characters is one of identifier
characters. -/
theorem written_chars {raw : List Char} (h : ∀ c ∈ raw, isSpellingChar c = true) :
    (raw.map fun c => if isMark c then '_' else c).all isIdentifierChar = true := by
  rw [List.all_map, List.all_eq_true]
  intro c hc
  cases hm : isMark c with
  | true => simp [hm, isIdentifierChar]
  | false => simpa [hm, isSpellingChar] using h c hc

theorem presence_name_chars {cs : List Char} :
    (presenceName cs).all isIdentifierChar = true ↔ ∀ c ∈ cs, isSpellingChar c = true := by
  constructor
  · intro h c hc
    cases hm : isMark c with
    | true => simp [isSpellingChar, hm]
    | false =>
      have hname := List.all_eq_true.mp h c (mem_presence_name hc hm)
      simp [isSpellingChar, hname]
  · intro h
    unfold presenceName
    apply written_chars
    split
    · have hstem : ∀ c ∈ cs.dropLast, isSpellingChar c = true :=
        fun c hc => h c (List.dropLast_subset cs hc)
      exact List.forall_mem_append.mpr ⟨by simp [isSpellingChar, isIdentifierChar], hstem⟩
    · exact List.forall_mem_append.mpr ⟨by simp [isSpellingChar, isIdentifierChar], h⟩

/-- Any text of these characters is a switch's spelling. -/
theorem exists_switch :
    (∃ s : Switch, s.spelling = spelling) ↔ ∀ c ∈ spelling.toList, isSpellingChar c = true := by
  rw [← presence_name_chars]
  constructor
  · intro h
    obtain ⟨s, rfl⟩ := h
    have h := s.announced
    unfold presenceMacro at h
    dsimp only at h
    split at h
    · assumption
    · cases h
  · intro h
    refine ⟨⟨spelling, String.ofList (presenceName spelling.toList), ?_⟩, rfl⟩
    unfold presenceMacro
    dsimp only
    rw [if_pos h]

/-- A spelling is read as the switch that it spells. -/
theorem of_spelling_eq_ok : ofSpelling spelling = .ok s ↔ s.spelling = spelling := by
  constructor
  · exact spelling_of_ofSpelling
  · rintro rfl
    unfold ofSpelling
    split
    · rename_i identifier h
      obtain rfl : s.identifier = identifier := Except.ok.inj (s.announced.symm.trans h)
      rfl
    · rename_i v h
      rw [s.announced] at h
      cases h

theorem identifier_proper (s : Switch) : IsIdentifier s.identifier := by
  have h := TestText.presence_macro_of_switch s
  simp only [TestText.isPresenceMacro, Bool.and_eq_true, List.isPrefixOf_iff_prefix,
    List.all_eq_true] at h
  obtain ⟨⟨rest, hrest⟩, hall⟩ := h
  refine ⟨'H', "ASOPT".toList ++ rest, hrest.symm, .inl rfl, ?_⟩
  intro c hc
  exact hall c (hrest ▸ List.mem_cons_of_mem 'H' hc)

/-- How a switch is turned off: a flag by `no-` in front of its name, where that is not there yet,
and an option by a dash after it. -/
inductive TurnedOff : List Char → List Char → Prop where
  | flag (name : List Char) (positive : ¬ ['n', 'o', '-'] <+: name) :
      TurnedOff ('-' :: 'f' :: name) ('-' :: 'f' :: 'n' :: 'o' :: '-' :: name)
  | option (name : List Char) (positive : name.getLast? ≠ some '-') :
      TurnedOff ('/' :: name) ('/' :: (name ++ ['-']))

theorem negate_eq_ok {off : String} :
    negate spelling = .ok off ↔ TurnedOff spelling.toList off.toList := by
  constructor
  · intro h
    unfold negate at h
    split at h
    case h_1 name hon =>
      split at h
      · cases h
      · rename_i hpositive
        rw [← Except.ok.inj h, String.toList_ofList, hon]
        exact .flag name hpositive
    case h_2 name hon =>
      split at h
      · cases h
      · rename_i hpositive
        rw [← Except.ok.inj h, String.toList_ofList, hon]
        exact .option name hpositive
    case h_3 => cases h
  · intro h
    generalize hon : spelling.toList = on at h
    generalize hoff : off.toList = negated at h
    rw [← String.ofList_toList (s := off), hoff]
    unfold negate
    rw [hon]
    cases h with
    | flag name hpositive => exact if_neg hpositive
    | option name hpositive => exact if_neg hpositive

section TurnedOff

variable {on off next : List Char}

theorem TurnedOff.chars (h : TurnedOff on off) (hc : ∀ c ∈ on, isSpellingChar c = true) :
    ∀ c ∈ off, isSpellingChar c = true := by
  cases h with
  | flag name =>
    simp only [List.forall_mem_cons] at hc ⊢
    exact ⟨hc.1, hc.2.1, by decide, by decide, by decide, hc.2.2⟩
  | option name =>
    simp only [List.forall_mem_cons, List.forall_mem_append] at hc ⊢
    exact ⟨hc.1, hc.2, by simp [isSpellingChar, isMark]⟩

/-- What turns a switch off is not turned off in its turn. -/
theorem TurnedOff.not_twice (h : TurnedOff on off) : ¬ TurnedOff off next := by
  intro htwice
  cases h with
  | flag name =>
    cases htwice with
    | flag _ hpositive => exact hpositive ⟨name, rfl⟩
  | option name =>
    cases htwice with
    | option _ hpositive => exact hpositive List.getLast?_concat

theorem TurnedOff.injective {other : List Char} (h : TurnedOff on off)
    (hother : TurnedOff other off) : on = other := by
  cases h with
  | flag name =>
    cases hother with
    | flag => rfl
  | option name =>
    generalize hoff : '/' :: (name ++ ['-']) = off at hother
    cases hother with
    | flag => cases hoff
    | option name' =>
      obtain rfl : name = name' := by simpa using hoff
      rfl

theorem exists_turned_off : (∃ off, TurnedOff on off) ↔
    (['-', 'f'] <+: on ∧ ¬ ['-', 'f', 'n', 'o', '-'] <+: on) ∨
      (['/'] <+: on ∧ ¬ ['-'] <:+ on) := by
  have hlast : ∀ name : List Char, ['-'] <:+ '/' :: name ↔ name.getLast? = some '-' := by
    intro name
    rw [List.singleton_suffix_iff_getLast?_eq_some, List.getLast?_cons]
    cases name.getLast? <;> simp
  constructor
  · intro h
    obtain ⟨off, h⟩ := h
    cases h with
    | flag name hpositive => exact .inl ⟨⟨name, rfl⟩, by simpa using hpositive⟩
    | option name hpositive => exact .inr ⟨⟨name, rfl⟩, (hlast name).not.mpr hpositive⟩
  · intro h
    rcases h with ⟨⟨name, rfl⟩, hpositive⟩ | ⟨⟨name, rfl⟩, hpositive⟩
    · exact ⟨_, .flag name (by simpa using hpositive)⟩
    · exact ⟨_, .option name ((hlast name).not.mp hpositive)⟩

end TurnedOff
end Switch

namespace Toggle

variable {spelling : String} {toggle : Toggle}

/-- A spelling is read as the toggle that it spells. -/
theorem of_spelling_eq_ok :
    ofSpelling spelling = .ok toggle ↔ toggle.enable.spelling = spelling := by
  constructor
  · exact spelling_of_ofSpelling
  · rintro rfl
    have henable := Switch.of_spelling_eq_ok.mpr (Eq.refl toggle.enable.spelling)
    have hdisable := Switch.of_spelling_eq_ok.mpr (Eq.refl toggle.disable.spelling)
    unfold ofSpelling
    -- its negation, and then both switches, can be nothing but those of the toggle
    split
    · rename_i v h
      rw [toggle.negated] at h
      cases h
    · rename_i off h
      obtain rfl : toggle.disable.spelling = off := Except.ok.inj (toggle.negated.symm.trans h)
      split
      · rename_i v h
        rw [henable] at h
        cases h
      · rename_i on h
        obtain rfl : toggle.enable = on := Except.ok.inj (henable.symm.trans h)
        split
        · rename_i v h
          rw [hdisable] at h
          cases h
        · rename_i negated h
          obtain rfl : toggle.disable = negated := Except.ok.inj (hdisable.symm.trans h)
          rfl

theorem exists_toggle : (∃ toggle : Toggle, toggle.enable.spelling = spelling) ↔
    (∀ c ∈ spelling.toList, Switch.isSpellingChar c = true) ∧
      ∃ off, Switch.TurnedOff spelling.toList off := by
  constructor
  · intro h
    obtain ⟨toggle, rfl⟩ := h
    exact ⟨Switch.exists_switch.mp ⟨toggle.enable, rfl⟩, _, Switch.negate_eq_ok.mp toggle.negated⟩
  · intro h
    obtain ⟨hchars, off, hoff⟩ := h
    obtain ⟨enable, rfl⟩ := Switch.exists_switch.mpr hchars
    rw [← String.toList_ofList (l := off)] at hoff
    obtain ⟨disable, hdisable⟩ := Switch.exists_switch.mpr (hoff.chars hchars)
    rw [← hdisable] at hoff
    exact ⟨⟨enable, disable, Switch.negate_eq_ok.mpr hoff⟩, rfl⟩

theorem negated_refused (toggle : Toggle) : ∃ v, ofSpelling toggle.disable.spelling = .error v := by
  cases h : ofSpelling toggle.disable.spelling with
  | error v => exact ⟨v, rfl⟩
  | ok twice =>
    have hon := Switch.negate_eq_ok.mp toggle.negated
    have hoff := Switch.negate_eq_ok.mp twice.negated
    rw [of_spelling_eq_ok.mp h] at hoff
    exact absurd hoff hon.not_twice

/-- A spelling is accepted for a toggle just where it has no characters but letters, digits and the
four signs, and is a flag or an option that is not negated yet. Its two macros are then proper names
and differ, what negates it is not accepted in its turn, and nothing else is negated by the same. -/
theorem of_spelling_exact (spelling : String) :
    ((∃ toggle, ofSpelling spelling = .ok toggle) ↔
      (∀ c ∈ spelling.toList, c.isAlphanum = true ∨ c ∈ ['_', '-', '/', ':']) ∧
      (("-f".toList <+: spelling.toList ∧ ¬ "-fno-".toList <+: spelling.toList) ∨
        ("/".toList <+: spelling.toList ∧ ¬ "-".toList <:+ spelling.toList))) ∧
    ∀ toggle, ofSpelling spelling = .ok toggle →
      toggle.enable.spelling = spelling ∧
      Switch.negate spelling = .ok toggle.disable.spelling ∧
      IsIdentifier toggle.enable.identifier ∧ IsIdentifier toggle.disable.identifier ∧
      toggle.enable.identifier ≠ toggle.disable.identifier ∧
      (∃ v, ofSpelling toggle.disable.spelling = .error v) ∧
      ∀ other otherToggle, ofSpelling other = .ok otherToggle →
        otherToggle.disable.spelling = toggle.disable.spelling → other = spelling := by
  constructor
  · simp only [of_spelling_eq_ok, exists_toggle, Switch.exists_turned_off, Switch.spelling_char_iff]
    rfl
  · intro toggle h
    obtain rfl := of_spelling_eq_ok.mp h
    refine ⟨rfl, toggle.negated, toggle.enable.identifier_proper, toggle.disable.identifier_proper,
      toggle.macros_differ, toggle.negated_refused, ?_⟩
    intro other otherToggle hother hsame
    obtain rfl := of_spelling_eq_ok.mp hother
    have hon := Switch.negate_eq_ok.mp toggle.negated
    have hoff := Switch.negate_eq_ok.mp otherToggle.negated
    rw [hsame] at hoff
    exact String.toList_inj.mp (hoff.injective hon)

/-- A flag, an option with a mark in it, and the shortest spellings of both; a text with a sign that
no macro can have, and one that is no flag. -/
theorem spellings_sorted_out :
    (∃ toggle, ofSpelling "/Zc:char8_t" = .ok toggle ∧
      Switch.negate "/Zc:char8_t" = .ok toggle.disable.spelling ∧
      IsIdentifier toggle.disable.identifier ∧
      ∃ v, ofSpelling toggle.disable.spelling = .error v) ∧
    (∃ toggle, ofSpelling "-f" = .ok toggle) ∧ (∃ toggle, ofSpelling "/" = .ok toggle) ∧
    (¬ ∃ toggle, ofSpelling "-fc++" = .ok toggle) ∧ ¬ ∃ toggle, ofSpelling "-O2" = .ok toggle := by
  have haccepted : ∃ toggle, ofSpelling "/Zc:char8_t" = .ok toggle :=
    (of_spelling_exact _).1.mpr (by simp [List.singleton_suffix_iff_getLast?_eq_some])
  obtain ⟨toggle, h⟩ := haccepted
  obtain ⟨-, hnegated, -, hmacro, -, hrefused, -⟩ := (of_spelling_exact _).2 toggle h
  refine ⟨⟨toggle, h, hnegated, hmacro, hrefused⟩, ?_, ?_, ?_, ?_⟩
  · exact (of_spelling_exact _).1.mpr (by simp)
  · exact (of_spelling_exact _).1.mpr (by simp [List.singleton_suffix_iff_getLast?_eq_some])
  · exact (of_spelling_exact _).1.not.mpr (by simp)
  · exact (of_spelling_exact _).1.not.mpr (by simp)

end Toggle
end FeatureTest
