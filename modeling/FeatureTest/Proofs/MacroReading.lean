import FeatureTest.Proofs.Success
import FeatureTest.VersionDef.Entry

/-!
What definitions say about the library's macros, apart from how it is read. A text is read as a list
of macros just where it says them: one for each `ftms` group, by its full name, and with its values
in the order of the text.
-/
namespace FeatureTest.VersionDef
open Success

namespace Definitions

/-- The text that a name has, if it has one. -/
def HasText (ds : Definitions) (name : String) (t : Option String) : Prop :=
  ∀ s, t = some s ↔ ds.lookup name = some (.text s)

/-- The bodies that a name has, which are none where it has a text or nothing. -/
def HasBodies (ds : Definitions) (name : String) (bodies : List Definitions) : Prop :=
  ds.lookup name = some (.groups bodies) ∨
    bodies = [] ∧ ∀ others, ds.lookup name ≠ some (.groups others)

variable {ds : Definitions} {name : String}

theorem text_eq_some {s : String} : ds.text? name = some s ↔ ds.lookup name = some (.text s) := by
  unfold text?
  split <;> simp_all

theorem has_text_iff {t : Option String} : ds.HasText name t ↔ ds.text? name = t := by
  constructor
  · intro h
    refine Option.ext fun s => ?_
    rw [text_eq_some, h s]
  · rintro rfl s
    exact text_eq_some

theorem has_bodies_iff {bodies : List Definitions} :
    ds.HasBodies name bodies ↔ ds.bodies name = bodies := by
  unfold HasBodies Definitions.bodies
  split
  · rename_i found hfound
    simp [hfound]
  · rename_i hnone
    constructor
    · rintro (h | ⟨rfl, -⟩)
      · exact absurd h (hnone _)
      · rfl
    · rintro rfl
      exact .inr ⟨rfl, hnone⟩

end Definitions

/-- What an answer of yes or no, or none at all, stands for. -/
def YesNo (answer : Option String) (b : Option Bool) : Prop :=
  answer = none ∧ b = none ∨ answer = some "yes" ∧ b = some true ∨
    answer = some "no" ∧ b = some false

/-- The value of decimal digits after others whose value is `before`. -/
def decimal (before : Nat) (digits : List Char) : Nat :=
  digits.foldl (fun n c => n * 10 + (c.toNat - '0'.toNat)) before

/-- A decimal number of 32 bits in its digits, after a plus sign or none. -/
def IsNumeral (s : String) (n : Nat) : Prop :=
  ∃ digits, (s.toList = digits ∨ s.toList = '+' :: digits) ∧ digits ≠ [] ∧
    (∀ c ∈ digits, '0' ≤ c ∧ c ≤ '9') ∧ n = decimal 0 digits ∧ n < UInt32.size

/-- A value that definitions say of a macro. -/
structure MacroValue.SaidBy (v : MacroValue) (ds : Definitions) : Prop where
  value : ∃ raw, ds.lookup "v" = some (.text raw) ∧ IsNumeral raw v.value
  cxxmin : ds.HasText "cxxmin" v.cxxmin
  gthread : ∃ answer, ds.HasText "gthread" answer ∧ YesNo answer v.gthread
  cxx11abi : ∃ answer, ds.HasText "cxx11abi" answer ∧ YesNo answer v.cxx11abi
  extraCond : ds.HasText "extra_cond" v.extraCond

/-- A macro that definitions describe, with its values in their order. -/
structure LibraryMacro.SaidBy (m : LibraryMacro) (ds : Definitions) : Prop where
  name : ∃ name, ds.lookup "name" = some (.text name) ∧ m.name = "__cpp_lib_" ++ name
  values : ∃ bodies, ds.HasBodies "values" bodies ∧
    List.Forall₂ (fun body v => MacroValue.SaidBy v body) bodies m.values

/-- The macros that a text describes, in its order. -/
def Describes (text : String) (macros : List LibraryMacro) : Prop :=
  ∃ ds groups, parse text = .ok ds ∧ ds.HasBodies "ftms" groups ∧ groups ≠ [] ∧
    List.Forall₂ (fun group m => LibraryMacro.SaidBy m group) groups macros

section Numerals

theorem decimal_digit {c : Char} (h : '0' ≤ c ∧ c ≤ '9') :
    Scalar.digit? c = some (c.toNat - '0'.toNat) ∧ c.toNat - '0'.toNat < 10 := by
  have hc : c.toNat ≤ '9'.toNat := h.2
  refine ⟨by rw [Scalar.digit?, if_pos h], ?_⟩
  have hnine : '9'.toNat = 57 := rfl
  have hzero : '0'.toNat = 48 := rfl
  omega

theorem no_decimal_digit {c : Char} (h : ¬ ('0' ≤ c ∧ c ≤ '9')) :
    ∀ d, Scalar.digit? c = some d → ¬ d < 10 := by
  intro d hd
  rw [Scalar.digit?, if_neg h] at hd
  split at hd
  · cases hd
    omega
  · split at hd
    · cases hd
      omega
    · cases hd

theorem digits_after_eq_some {cs : List Char} {before n : Nat} :
    Scalar.digitsAfter 10 before cs = some n ↔
      (∀ c ∈ cs, '0' ≤ c ∧ c ≤ '9') ∧ n = decimal before cs := by
  induction cs generalizing before with
  | nil => simp [Scalar.digitsAfter, decimal, eq_comm]
  | cons c cs ih =>
    rw [Scalar.digitsAfter, Option.bind_eq_bind, Option.bind_eq_some_iff, List.forall_mem_cons]
    by_cases hc : '0' ≤ c ∧ c ≤ '9'
    · obtain ⟨hdigit, hlt⟩ := decimal_digit hc
      simp only [hdigit, Option.some.injEq, exists_eq_left', if_pos hlt, ih, hc, true_and]
      rfl
    · refine iff_of_false ?_ (fun h => hc h.1.1)
      rintro ⟨d, hd, h⟩
      rw [if_neg (no_decimal_digit hc d hd)] at h
      cases h

/-- Digits do not start with a plus sign. -/
theorem number_eq_some {s : String} {n : Nat} : number? s.toList = some n ↔ IsNumeral s n := by
  have hnumeral : ∀ digits, (Scalar.numeral? 10 digits).filter (· < UInt32.size) = some n ↔
      digits ≠ [] ∧ (∀ c ∈ digits, '0' ≤ c ∧ c ≤ '9') ∧ n = decimal 0 digits ∧ n < UInt32.size := by
    intro digits
    rw [Option.filter_eq_some_iff, Scalar.numeral?]
    cases digits with
    | nil => simp
    | cons c cs => simp [digits_after_eq_some, and_assoc]
  unfold number? IsNumeral
  rw [hnumeral]
  split
  · rename_i rest hplus
    rw [hplus]
    constructor
    · intro h
      exact ⟨rest, .inr rfl, h⟩
    · rintro ⟨digits, rfl | hrest, h⟩
      · exact absurd (h.2.1 '+' List.mem_cons_self) (by decide)
      · rw [(List.cons.inj hrest).2]
        exact h
  · rename_i hplus
    constructor
    · intro h
      exact ⟨_, .inl rfl, h⟩
    · rintro ⟨digits, hdigits | hrest, h⟩
      · rw [hdigits]
        exact h
      · exact absurd hrest (hplus digits)

end Numerals

section Reading

variable {ds : Definitions}

theorem yes_or_no_eq_ok {name : String} {b : Option Bool} :
    ds.yesOrNo name = .ok b ↔ ∃ answer, ds.HasText name answer ∧ YesNo answer b := by
  simp only [Definitions.has_text_iff, exists_eq_left', Definitions.yesOrNo, YesNo]
  generalize ds.text? name = answer
  split <;> simp_all [eq_comm]

theorem value_of_definitions_eq_ok {v : MacroValue} :
    MacroValue.ofDefinitions ds = .ok v ↔ v.SaidBy ds := by
  unfold MacroValue.ofDefinitions
  cases hraw : ds.text? "v" with
  | none =>
    refine iff_of_false throw_ne_ok ?_
    rintro ⟨⟨raw, hv, -⟩, -⟩
    cases hraw.symm.trans (Definitions.text_eq_some.mpr hv)
  | some raw =>
    cases hvalue : number? raw.toList with
    | none =>
      refine iff_of_false (by simp [hvalue, throw_ne_ok]) ?_
      rintro ⟨⟨other, hv, hnumeral⟩, -⟩
      cases hraw.symm.trans (Definitions.text_eq_some.mpr hv)
      cases hvalue.symm.trans (number_eq_some.mpr hnumeral)
    | some value =>
      simp only [hvalue, bind_eq_ok, pure_eq_ok, yes_or_no_eq_ok]
      constructor
      · rintro ⟨gthread, hgthread, cxx11abi, hcxx11abi, rfl⟩
        exact {
          value := ⟨raw, Definitions.text_eq_some.mp hraw, number_eq_some.mp hvalue⟩
          cxxmin := Definitions.has_text_iff.mpr rfl
          gthread := hgthread
          cxx11abi := hcxx11abi
          extraCond := Definitions.has_text_iff.mpr rfl }
      · obtain ⟨n, cxxmin, gthread, cxx11abi, extraCond⟩ := v
        rintro ⟨⟨other, hv, hnumeral⟩, hcxxmin, hgthread, hcxx11abi, hextra⟩
        cases hraw.symm.trans (Definitions.text_eq_some.mpr hv)
        refine ⟨gthread, hgthread, cxx11abi, hcxx11abi, ?_⟩
        rw [Definitions.has_text_iff.mp hcxxmin, Definitions.has_text_iff.mp hextra,
          Option.some.inj (hvalue.symm.trans (number_eq_some.mpr hnumeral))]

theorem macro_of_definitions_eq_ok {m : LibraryMacro} :
    LibraryMacro.ofDefinitions ds = .ok m ↔ m.SaidBy ds := by
  have hvalues : ∀ values, (ds.bodies "values").mapM MacroValue.ofDefinitions = .ok values ↔
      ∃ bodies, ds.HasBodies "values" bodies ∧
        List.Forall₂ (fun body v => MacroValue.SaidBy v body) bodies values := by
    intro values
    simp only [mapM_eq_ok, value_of_definitions_eq_ok, Definitions.has_bodies_iff, exists_eq_left']
  unfold LibraryMacro.ofDefinitions
  cases hname : ds.text? "name" with
  | none =>
    refine iff_of_false throw_ne_ok ?_
    rintro ⟨⟨name, hn, -⟩, -⟩
    cases hname.symm.trans (Definitions.text_eq_some.mpr hn)
  | some name =>
    simp only [bind_eq_ok, pure_eq_ok, hvalues]
    constructor
    · rintro ⟨values, hsaid, rfl⟩
      exact ⟨⟨name, Definitions.text_eq_some.mp hname, rfl⟩, hsaid⟩
    · obtain ⟨fullName, values⟩ := m
      rintro ⟨⟨other, hn, hfull⟩, hsaid⟩
      cases hname.symm.trans (Definitions.text_eq_some.mpr hn)
      exact ⟨values, hsaid, congrArg (LibraryMacro.mk · values) hfull.symm⟩

/-- A text is read as macros just where it describes them. -/
theorem read_macros_eq_ok {text : String} {macros : List LibraryMacro} :
    readMacros text = .ok macros ↔ Describes text macros := by
  have hparse : ∀ ds, (parse text).mapError EntryError.parse = .ok ds ↔ parse text = .ok ds := by
    intro ds
    cases parse text <;> simp [Except.mapError]
  simp only [readMacros, bind_eq_ok, hparse, Describes, Definitions.has_bodies_iff]
  constructor
  · rintro ⟨ds, hds, h⟩
    split at h
    · exact absurd h throw_ne_ok
    · rename_i hsome
      refine ⟨ds, _, hds, rfl, by simpa using hsome, ?_⟩
      simpa only [mapM_eq_ok, macro_of_definitions_eq_ok] using h
  · rintro ⟨ds, groups, hds, rfl, hsome, hsaid⟩
    refine ⟨ds, hds, ?_⟩
    rw [if_neg (by simpa using hsome)]
    simpa only [mapM_eq_ok, macro_of_definitions_eq_ok] using hsaid

end Reading
end FeatureTest.VersionDef
