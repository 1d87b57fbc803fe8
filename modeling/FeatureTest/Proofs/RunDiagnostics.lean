import FeatureTest.Command.Check
import Mathlib.Data.List.TakeWhile

/-!
The diagnostics of a check describe the runs of the compiler that said something: each by the
feature, the options, what was said, and the line of output that the probe starts.
-/
namespace FeatureTest

section Words

/-- Whether a word stands at a place of a text. -/
def StandsAt (word text : List Char) (n : Nat) : Prop := word <+: text.drop n

/-- The first place of a word, with the text up to the end of its line. -/
def FirstLine (word text line : List Char) : Prop :=
  ∃ n, StandsAt word text n ∧ (∀ k < n, ¬ StandsAt word text k) ∧
    line = (text.drop n).takeWhile (· ≠ '\n')

theorem from_word_eq_some {word text rest : List Char}
    (h : Compiler.fromWord? word text = some rest) :
    ∃ n, rest = text.drop n ∧ StandsAt word text n ∧ ∀ k < n, ¬ StandsAt word text k := by
  induction text with
  | nil =>
    rw [Compiler.fromWord?] at h
    split at h
    · rename_i hempty
      cases h
      rw [List.isEmpty_iff] at hempty
      exact ⟨0, rfl, hempty ▸ List.nil_prefix, fun k hk => absurd hk (Nat.not_lt_zero k)⟩
    · cases h
  | cons c cs ih =>
    rw [Compiler.fromWord?] at h
    split at h
    · rename_i hp
      cases h
      exact ⟨0, rfl, List.isPrefixOf_iff_prefix.mp hp, fun k hk => absurd hk (Nat.not_lt_zero k)⟩
    · rename_i hp
      obtain ⟨n, hrest, hn, hfirst⟩ := ih h
      refine ⟨n + 1, hrest, hn, ?_⟩
      intro k hk
      cases k with
      | zero => exact fun hz => hp (List.isPrefixOf_iff_prefix.mpr hz)
      | succ k => exact hfirst k (by omega)

theorem from_word_eq_none {word text : List Char} (h : Compiler.fromWord? word text = none)
    (n : Nat) : ¬ StandsAt word text n := by
  induction text generalizing n with
  | nil =>
    rw [Compiler.fromWord?] at h
    split at h
    · cases h
    · rename_i hempty
      intro hn
      rw [StandsAt, List.drop_nil, List.prefix_nil] at hn
      exact hempty (List.isEmpty_iff.mpr hn)
  | cons c cs ih =>
    rw [Compiler.fromWord?] at h
    split at h
    · cases h
    · rename_i hp
      cases n with
      | zero => exact fun hz => hp (List.isPrefixOf_iff_prefix.mpr hz)
      | succ n => exact ih h n

/-- A text is trimmed away when it is all blanks. -/
theorem trim_eq_nil_iff (cs : List Char) :
    Text.trim cs = [] ↔ ∀ c ∈ cs, Text.isBlank c = true := by
  rw [Text.trim, Text.trimEnd, Text.trimStart, List.reverse_eq_nil_iff, List.dropWhile_eq_nil_iff]
  constructor
  · intro h c hc
    rw [← List.takeWhile_append_dropWhile (p := Text.isBlank) (l := cs)] at hc
    rcases List.mem_append.mp hc with hstart | hrest
    · exact List.mem_takeWhile_imp hstart
    · exact h c (List.mem_reverse.mpr hrest)
  · intro h c hc
    exact h c ((List.dropWhile_suffix _).subset (List.mem_reverse.mp hc))

end Words

namespace Compiler

/-- What a run says, without the line that names its input where the compiler begins with one. -/
def heard (compiler : Compiler) (result : CompilerOutput) : List Char :=
  if compiler.echoesFileName then (result.diagnostics.toList.dropWhile (· ≠ '\n')).drop 1
  else result.diagnostics.toList

theorem after_first_line_eq (cs : List Char) :
    afterFirstLine cs = (cs.dropWhile (· ≠ '\n')).drop 1 := by
  induction cs with
  | nil => rfl
  | cons c rest ih =>
    rw [afterFirstLine]
    by_cases hc : c = '\n'
    · simp [hc]
    · simp [hc, ih]

theorem diagnostic_text_eq (compiler : Compiler) (result : CompilerOutput) :
    compiler.diagnosticText result.diagnostics =
      String.ofList (Text.trim (compiler.heard result)) := by
  simp only [diagnosticText, heard, after_first_line_eq]

end Compiler

namespace Check

/-- Whether a run says anything but blanks. -/
def Speaks (compiler : Compiler) (result : CompilerOutput) : Prop :=
  ∃ c ∈ compiler.heard result, Text.isBlank c = false

instance (compiler : Compiler) (result : CompilerOutput) : Decidable (Speaks compiler result) :=
  inferInstanceAs (Decidable (∃ c ∈ compiler.heard result, Text.isBlank c = false))

/-- What a diagnostic says about a run of a test. -/
structure Describes (compiler : Compiler) (test : FeatureTestFile) (options : OptionSet)
    (result : CompilerOutput) (d : Diagnostic) : Prop where
  feature : d.feature = test.name
  options : d.options = options
  message : d.message = String.ofList (Text.trim (compiler.heard result))
  shown : ∀ line, d.probe = some line →
    FirstLine test.probe.toList result.output.toList line.toList
  absent : d.probe = none → ∀ n, ¬ StandsAt test.probe.toList result.output.toList n

variable {compiler : Compiler} {test : FeatureTestFile} {options : OptionSet}
  {result : CompilerOutput}

theorem message_empty_iff :
    (compiler.diagnosticText result.diagnostics).isEmpty = true ↔ ¬ Speaks compiler result := by
  rw [Compiler.diagnostic_text_eq, String.isEmpty_iff, String.ofList_eq_empty_iff,
    trim_eq_nil_iff]
  simp [Speaks]

theorem diagnostic_eq_none (h : ¬ Speaks compiler result) :
    diagnostic? compiler test options result = none := by
  simp only [diagnostic?, message_empty_iff.mpr h, if_true]

/-- Every run that says something gets its diagnostic. -/
theorem diagnostic_describes (test : FeatureTestFile) (options : OptionSet)
    (h : Speaks compiler result) :
    ∃ d, diagnostic? compiler test options result = some d ∧
      Describes compiler test options result d := by
  have hm : ¬ (compiler.diagnosticText result.diagnostics).isEmpty = true := by
    rw [message_empty_iff]
    exact not_not_intro h
  simp only [diagnostic?, hm]
  refine ⟨_, rfl, rfl, rfl, compiler.diagnostic_text_eq result, ?_, ?_⟩
  · intro line hline
    obtain ⟨rest, hrest, rfl⟩ := Option.map_eq_some_iff.mp hline
    obtain ⟨n, rfl, hn, hfirst⟩ := from_word_eq_some hrest
    exact ⟨n, hn, hfirst, String.toList_ofList⟩
  · intro hnone
    exact from_word_eq_none (Option.map_eq_none_iff.mp hnone)

end Check
end FeatureTest
