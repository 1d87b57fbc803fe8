import FeatureTest.Condition

/-!
How a preprocessor reads the text of a single test. Whatever is not one of the forms that guards
are written in is an expression over other identifiers.
-/
namespace FeatureTest

namespace TestText

/-- Whether a word names a macro that announces a switch. -/
def isPresenceMacro (word : List Char) : Bool :=
  "HASOPT".toList.isPrefixOf word && word.all isIdentifierChar

/-- The words between the signs of `A && B` or `A || B`. -/
def operands (sign : List Char) : List (List Char) → Option (List (List Char))
  | [] => none
  | [word] => some [word]
  | word :: between :: rest =>
    if between = sign then (operands sign rest).map (word :: ·) else none

/-- A presence macro that must be defined, or under a `!` one that must not be. -/
def literal? : List Char → Option (Bool × String)
  | '!' :: name => if isPresenceMacro name then some (false, String.ofList name) else none
  | name => if isPresenceMacro name then some (true, String.ofList name) else none

/-- Reads `A && !B`. -/
def conjunction? (text : List Char) : Option (List (Bool × String)) :=
  (operands "&&".toList (text.splitOn ' ')).bind (·.mapM literal?)

/-- Reads `A || B`, over presence macros alone. -/
def macros? (text : List Char) : Option (List String) :=
  (operands "||".toList (text.splitOn ' ')).bind fun names =>
    if names.all isPresenceMacro then some (names.map String.ofList) else none

/-- Reads `(A || B)`, over presence macros alone. -/
def disjunction? : List Char → Option (List String)
  | '(' :: rest => if rest.getLast? = some ')' then macros? rest.dropLast else none
  | _ => none

/-- Reads `__cplusplus > W`. -/
def watermark? (text : List Char) : Option Nat :=
  match text.splitOn ' ' with
  | [name, sign, digits] =>
    if name = "__cplusplus".toList ∧ sign = ">".toList ∧ digits.all (·.isDigit) then
      some (Nat.ofDigitChars 10 digits 0)
    else none
  | _ => none

end TestText

open TestText

/-- Whether a test holds, decided by its text. -/
def Environment.reads (env : Environment) (text : String) : Bool :=
  if text = nonPedanticMacro then !env.strict
  else match watermark? text.toList with
    | some watermark => watermark < env.cplusplus
    | none => match conjunction? text.toList with
      | some literals => literals.all fun (passed, name) => env.defined name == passed
      | none => match disjunction? text.toList with
        | some names => names.any env.defined
        | none => env.truth text

/-- The environment with the truth of `(A || B)` over presence macros, which is no expression over
other identifiers, as those macros decide it. -/
def Environment.settled (env : Environment) : Environment :=
  { env with truth := fun text =>
      match disjunction? text.toList with
      | some names => names.any env.defined
      | none => env.truth text }

/-- Tests as guards hold them: about one switch at least, and with parentheses around whatever
else is asked. -/
def Conjunct.Legible : Conjunct → Prop
  | .past _ | .nonPedantic => True
  | .allPassed switches | .nonePassed switches | .anyPassed switches => switches ≠ []
  | .expression text => ∃ inner : String, text = "(" ++ inner ++ ")"

namespace TestText

theorem presence_macro_of_switch (s : Switch) : isPresenceMacro s.identifier.toList = true := by
  have h := s.announced
  dsimp only [presenceMacro] at h
  split at h
  · rename_i hall
    have hid := Except.ok.inj h
    rw [← hid, String.toList_ofList]
    simp only [isPresenceMacro, hall, Bool.and_true, List.isPrefixOf_iff_prefix]
    unfold Switch.presenceName
    split
    · exact ⟨_, by rw [List.map_append]; rfl⟩
    · exact ⟨_, by rw [List.map_append]; rfl⟩
  · cases h

theorem presence_macro_head {word : List Char} (h : isPresenceMacro word = true) :
    ∃ rest, word = 'H' :: rest := by
  simp only [isPresenceMacro, Bool.and_eq_true, List.isPrefixOf_iff_prefix] at h
  obtain ⟨rest, rfl⟩ := h.1
  exact ⟨_, rfl⟩

theorem presence_macro_spaceless {word : List Char} (h : isPresenceMacro word = true) :
    ' ' ∉ word := by
  simp only [isPresenceMacro, Bool.and_eq_true, List.all_eq_true] at h
  intro hs
  exact absurd (h.2 ' ' hs) (by decide)

theorem switch_literal (s : Switch) :
    literal? s.identifier.toList = some (true, s.identifier) := by
  have hm := presence_macro_of_switch s
  obtain ⟨rest, hr⟩ := presence_macro_head hm
  rw [hr] at hm
  have hl : literal? ('H' :: rest) = some (true, String.ofList ('H' :: rest)) := by
    simp [literal?, hm]
  rw [hr, hl, ← hr, String.ofList_toList]

theorem switch_negative_literal (s : Switch) :
    literal? ("!" ++ s.identifier).toList = some (false, s.identifier) := by
  have ht : ("!" ++ s.identifier).toList = '!' :: s.identifier.toList := by
    rw [String.toList_append]; rfl
  simp only [ht, literal?, presence_macro_of_switch s, ↓reduceIte, String.ofList_toList]

/-- Words joined by a sign between spaces come apart at the spaces, with the signs among them. -/
theorem split_spaced {sign : List Char} {words : List (List Char)} (hs : ' ' ∉ sign)
    (hw : ∀ w ∈ words, ' ' ∉ w) (hne : words ≠ []) :
    ((' ' :: (sign ++ [' '])).intercalate words).splitOn ' ' = words.intersperse sign := by
  induction words with
  | nil => contradiction
  | cons word rest ih =>
    cases rest with
    | nil => simpa using List.splitOn_eq_singleton (hw word (by simp))
    | cons next rest =>
      have hrest := ih (fun w hm => hw w (by simp [hm])) (by simp)
      rw [List.intercalate_cons_cons, List.intersperse_cons_cons, List.append_assoc,
        List.cons_append, List.splitOn_append_cons_self_of_not_mem (hw word (by simp)),
        List.append_assoc, List.singleton_append,
        List.splitOn_append_cons_self_of_not_mem hs, hrest]

theorem operands_intersperse {sign : List Char} {words : List (List Char)} (hne : words ≠ []) :
    operands sign (words.intersperse sign) = some words := by
  induction words with
  | nil => contradiction
  | cons word rest ih =>
    cases rest with
    | nil => rfl
    | cons next rest => simp [operands, ih]

/-- Names of switches joined by a sign are read back as the operands. -/
theorem operands_joined (sign : String) (words : List String) (hs : ' ' ∉ sign.toList)
    (hw : ∀ w ∈ words, ' ' ∉ w.toList) (hne : words ≠ []) :
    operands sign.toList (((" " ++ sign ++ " ").intercalate words).toList.splitOn ' ') =
      some (words.map String.toList) := by
  have ht : (" " ++ sign ++ " ").toList = ' ' :: (sign.toList ++ [' ']) := by
    rw [String.toList_append, String.toList_append]; rfl
  rw [String.toList_intercalate, ht, split_spaced hs ?_ (by simpa using hne)]
  · exact operands_intersperse (by simpa using hne)
  · intro w hm
    obtain ⟨v, hv, rfl⟩ := List.mem_map.mp hm
    exact hw v hv

/-- Switches written with one mark each are read back with what the mark says of them. -/
theorem conjunction_of_switches {switches : List Switch} {write : Switch → String} {passed : Bool}
    (hl : ∀ s, literal? (write s).toList = some (passed, s.identifier))
    (hs : ∀ s, ' ' ∉ (write s).toList) (hne : switches ≠ []) :
    conjunction? (" && ".intercalate (switches.map write)).toList =
      some (switches.map fun s => (passed, s.identifier)) := by
  have hread : ∀ list : List Switch, (list.map fun s => (write s).toList).mapM literal? =
      some (list.map fun s => (passed, s.identifier)) := by
    intro list
    induction list with
    | nil => rfl
    | cons s rest ih => simp [hl, ih]
  have ho := operands_joined "&&" (switches.map write) (by decide)
    (by simpa using fun s _ => hs s) (by simpa using hne)
  unfold conjunction?
  rw [show " && " = " " ++ "&&" ++ " " from rfl, ho, List.map_map]
  exact hread switches

theorem macros_of_switches {switches : List Switch} (hne : switches ≠ []) :
    macros? (" || ".intercalate (switches.map (·.identifier))).toList =
      some (switches.map (·.identifier)) := by
  have ho := operands_joined "||" (switches.map (·.identifier)) (by decide)
    (by simpa using fun s _ => presence_macro_spaceless (presence_macro_of_switch s))
    (by simpa using hne)
  unfold macros?
  rw [show " || " = " " ++ "||" ++ " " from rfl, ho]
  simp [presence_macro_of_switch, Function.comp_def]

theorem to_list_parens (text : String) :
    ("(" ++ text ++ ")").toList = '(' :: (text.toList ++ [')']) := by
  rw [String.toList_append, String.toList_append]
  rfl

theorem disjunction_parens (text : String) :
    disjunction? ("(" ++ text ++ ")").toList = macros? text.toList := by
  rw [to_list_parens]
  simp [disjunction?]

theorem split_head {c : Char} (hc : c ≠ ' ') (cs : List Char) :
    ∃ word rest, (c :: cs).splitOn ' ' = (c :: word) :: rest := by
  rw [List.splitOn_cons_eq_if_modifyHead]
  cases h : cs.splitOn ' ' with
  | nil => exact absurd h (List.splitOn_ne_nil _ _)
  | cons word rest => exact ⟨word, rest, by simp [hc]⟩

/-- Only a text that starts as `__cplusplus` does can be about a standard. -/
theorem watermark_none {c : Char} (hc : c ≠ ' ') (hu : c ≠ '_') (cs : List Char) :
    watermark? (c :: cs) = none := by
  obtain ⟨word, rest, hw⟩ := split_head hc cs
  have hn : c :: word ≠ "__cplusplus".toList := by
    intro he
    exact hu (List.cons.inj he).1
  unfold watermark?
  rw [hw]
  split
  · rename_i he
    obtain ⟨rfl, -⟩ := List.cons.inj he
    exact if_neg fun h => hn h.1
  · rfl

theorem operands_head {sign word : List Char} {rest operandWords : List (List Char)}
    (h : operands sign (word :: rest) = some operandWords) : ∃ tail, operandWords = word :: tail := by
  match rest with
  | [] => exact ⟨[], by simpa [operands, eq_comm] using h⟩
  | [_] =>
    simp only [operands] at h
    split at h <;> simp at h
  | between :: next :: rest =>
    simp only [operands] at h
    split at h
    · obtain ⟨tail, -, rfl⟩ := Option.map_eq_some_iff.mp h
      exact ⟨tail, rfl⟩
    · cases h

theorem conjunction_parens (cs : List Char) : conjunction? ('(' :: cs) = none := by
  obtain ⟨word, rest, hw⟩ := split_head (by decide : '(' ≠ ' ') cs
  unfold conjunction?
  rw [hw]
  cases ho : operands "&&".toList (('(' :: word) :: rest) with
  | none => rfl
  | some operandWords =>
    obtain ⟨tail, rfl⟩ := operands_head ho
    have hl : literal? ('(' :: word) = none := by
      simp [literal?, isPresenceMacro]
    simp [hl]

theorem watermark_text (w : Nat) : watermark? s!"__cplusplus > {w}".toList = some w := by
  have ht : s!"__cplusplus > {w}".toList =
      "__cplusplus".toList ++ ' ' :: (">".toList ++ ' ' :: Nat.toDigits 10 w) := by
    simp [toString]
  have hd : ' ' ∉ Nat.toDigits 10 w := by
    intro h
    exact absurd (Nat.isDigit_of_mem_toDigits (by decide) (by decide) h) (by decide)
  have hall : (Nat.toDigits 10 w).all (·.isDigit) = true := by
    rw [List.all_eq_true]
    exact fun c hc => Nat.isDigit_of_mem_toDigits (by decide) (by decide) hc
  unfold watermark?
  rw [ht, List.splitOn_append_cons_self_of_not_mem (by decide),
    List.splitOn_append_cons_self_of_not_mem (by decide), List.splitOn_eq_singleton hd]
  simp [hall]

theorem joined_head {switches : List Switch} {write : Switch → String} {c : Char}
    (hc : ∀ s, ∃ cs, (write s).toList = c :: cs) (hne : switches ≠ []) :
    ∃ cs, (" && ".intercalate (switches.map write)).toList = c :: cs := by
  match switches with
  | [s] => simpa using hc s
  | s :: t :: rest =>
    obtain ⟨cs, hs⟩ := hc s
    refine ⟨cs ++ (" && ".toList ++ (" && ".intercalate ((t :: rest).map write)).toList), ?_⟩
    rw [List.map_cons, List.map_cons, String.intercalate_cons_cons, String.toList_append,
      String.toList_append, hs, List.append_assoc, List.cons_append]

end TestText

namespace Environment

variable {env : Environment} {text : String}

/-- A text that starts otherwise than the watermark test and the strictness macro asks for
switches or is opaque. -/
theorem reads_of_head {c : Char} {cs : List Char} (ht : text.toList = c :: cs)
    (hc : c ≠ ' ' ∧ c ≠ '_' ∧ c ≠ 'N') :
    env.reads text = match conjunction? text.toList with
      | some literals => literals.all fun (passed, name) => env.defined name == passed
      | none => env.settled.truth text := by
  have hn : text ≠ nonPedanticMacro := by
    rintro rfl
    exact hc.2.2 (List.cons.inj ht).1.symm
  unfold reads
  rw [if_neg hn, ht, watermark_none hc.1 hc.2.1, ← ht]
  rfl

/-- In parentheses stands either a choice of switches or what no other test asks. -/
theorem reads_parens : env.reads ("(" ++ text ++ ")") = env.settled.truth ("(" ++ text ++ ")") := by
  have ht := to_list_parens text
  rw [reads_of_head ht (by decide), ht, conjunction_parens]

/-- Switches under one mark are asked for one by one. -/
theorem reads_conjunction (env : Environment) {switches : List Switch} {write : Switch → String}
    {passed : Bool} {c : Char}
    (hl : ∀ s, literal? (write s).toList = some (passed, s.identifier))
    (hs : ∀ s, ' ' ∉ (write s).toList) (hw : ∀ s, ∃ cs, (write s).toList = c :: cs)
    (hc : c ≠ ' ' ∧ c ≠ '_' ∧ c ≠ 'N') (hne : switches ≠ []) :
    env.reads (" && ".intercalate (switches.map write)) =
      switches.all fun s => env.defined s.identifier == passed := by
  obtain ⟨cs, ht⟩ := joined_head hw hne
  rw [reads_of_head ht hc, conjunction_of_switches hl hs hne]
  simp [List.all_map, Function.comp_def]

/-- Every test that a guard holds is read as what it was written for. -/
theorem reads_legible {c : Conjunct} (h : c.Legible) : env.reads c.text = c.holds env.settled := by
  cases c with
  | past w =>
    have hn : (Conjunct.past w).text ≠ nonPedanticMacro := by
      intro he
      have := congrArg (fun s => s.toList.head?) he
      simp [Conjunct.text, nonPedanticMacro, toString] at this
    unfold reads
    rw [if_neg hn, show (Conjunct.past w).text = s!"__cplusplus > {w}" from rfl, watermark_text]
    rfl
  | allPassed switches =>
    have hs := fun s => presence_macro_spaceless (presence_macro_of_switch s)
    have hw := fun s => presence_macro_head (presence_macro_of_switch s)
    have hr := reads_conjunction env switch_literal hs hw (by decide) h
    simpa [Conjunct.text, Conjunct.holds, settled] using hr
  | nonePassed switches =>
    have hm : ∀ s : Switch, ("!" ++ s.identifier).toList = '!' :: s.identifier.toList := by
      intro s
      rw [String.toList_append]
      rfl
    have hs : ∀ s : Switch, ' ' ∉ ("!" ++ s.identifier).toList := by
      intro s
      simpa [hm] using presence_macro_spaceless (presence_macro_of_switch s)
    have hr := reads_conjunction env switch_negative_literal hs
      (fun s => ⟨_, hm s⟩) (by decide) h
    simpa [Conjunct.text, Conjunct.holds, settled] using hr
  | anyPassed switches =>
    have ht : (Conjunct.anyPassed switches).text =
      "(" ++ " || ".intercalate (switches.map (·.identifier)) ++ ")" := rfl
    rw [ht, reads_parens]
    simp only [settled, disjunction_parens, macros_of_switches h]
    simp [Conjunct.holds, Function.comp_def]
  | nonPedantic => rfl
  | expression inner =>
    obtain ⟨inner, rfl⟩ := h
    exact reads_parens

end Environment
end FeatureTest
