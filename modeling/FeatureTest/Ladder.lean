import FeatureTest.Text.Lowercase
import FeatureTest.Violation

/-!
The ladder of language standards: published revisions with strictly increasing watermarks, the
largest `__cplusplus` each covers, and above them the working draft, which has none.
-/
namespace FeatureTest

/-- A standard as it is written down, before the ladder is known to be one. -/
structure Standard where
  name : String
  watermark : Option Nat
  deriving DecidableEq, Repr

/-- The spelling used by compiler switches and table marks. -/
def Standard.switchName (s : Standard) : String := Text.lowercase s.name

/-- A published standard. -/
structure Revision where
  name : String
  watermark : Nat
  deriving DecidableEq, Repr

structure Ladder where
  published : List Revision
  draft : String
  increasing : published.Pairwise (·.watermark < ·.watermark)
  distinct : (published.map (·.name) ++ [draft]).Nodup

/-- The first entry that repeats an earlier one. -/
def firstRepeat? : List String → List String → Option String
  | _, [] => none
  | seen, name :: names =>
    if name ∈ seen then some name else firstRepeat? (name :: seen) names

theorem firstRepeat?_eq_none {seen names : List String} (h : firstRepeat? seen names = none) :
    names.Nodup ∧ ∀ n ∈ names, n ∉ seen := by
  induction names generalizing seen with
  | nil => simp
  | cons name names ih =>
    simp only [firstRepeat?] at h
    split at h
    · simp at h
    · rename_i fresh
      obtain ⟨nodup, apart⟩ := ih h
      refine ⟨List.nodup_cons.2 ⟨fun m => apart name m (by simp), nodup⟩, ?_⟩
      intro n hn
      rcases List.mem_cons.1 hn with rfl | hn
      · exact fresh
      · exact fun hs => apart n hn (by simp [hs])

/-- Reads published standards in order, each of which must rise above the one before it. -/
def readPublished (previous : Option Revision) : List Standard → Except LadderFault (List Revision)
  | [] => .ok []
  | s :: rest =>
    match s.watermark with
    | none => .error (.missingWatermark s.name)
    | some watermark =>
      match previous with
      | some p =>
        if p.watermark < watermark then
          return ⟨s.name, watermark⟩ :: (← readPublished (some ⟨s.name, watermark⟩) rest)
        else .error (.notIncreasing s.name p.name)
      | none => return ⟨s.name, watermark⟩ :: (← readPublished (some ⟨s.name, watermark⟩) rest)

theorem readPublished_increasing {previous : Option Revision} {standards : List Standard}
    {revisions : List Revision} (h : readPublished previous standards = .ok revisions) :
    revisions.Pairwise (·.watermark < ·.watermark) ∧
      ∀ p ∈ previous, ∀ r ∈ revisions, p.watermark < r.watermark := by
  induction standards generalizing previous revisions with
  | nil =>
    cases h
    simp
  | cons s rest ih =>
    simp only [readPublished] at h
    split at h
    · simp at h
    · rename_i watermark _
      have step : ∀ {tail : List Revision},
          readPublished (some ⟨s.name, watermark⟩) rest = .ok tail →
          (⟨s.name, watermark⟩ :: tail : List Revision).Pairwise (·.watermark < ·.watermark) := by
        intro tail ht
        obtain ⟨sorted, above⟩ := ih ht
        exact List.pairwise_cons.2 ⟨fun r hr => above _ rfl r hr, sorted⟩
      cases ht : readPublished (some ⟨s.name, watermark⟩) rest with
      | error e =>
        rw [ht] at h
        split at h
        · split at h <;> simp [bind, Except.bind] at h
        · simp [bind, Except.bind] at h
      | ok tail =>
        rw [ht] at h
        obtain ⟨_, above⟩ := ih ht
        split at h
        · rename_i p
          split at h
          · rename_i lt
            cases h
            refine ⟨step ht, ?_⟩
            rintro q hq r hr
            cases hq
            rcases List.mem_cons.1 hr with rfl | hr
            · exact lt
            · exact Nat.lt_trans lt (above _ rfl r hr)
          · simp at h
        · cases h
          exact ⟨step ht, by simp⟩

namespace Ladder

/-- Builds a ladder; only the last standard lacks a watermark. -/
def ofStandards (standards : List Standard) : Except LadderFault Ladder :=
  match standards.getLast? with
  | none => .error .empty
  | some last =>
    if last.watermark.isSome then .error (.boundedFinal last.name)
    else match read : readPublished none standards.dropLast with
      | .error fault => .error fault
      | .ok published =>
        match distinct : firstRepeat? [] (published.map (·.name) ++ [last.name]) with
        | some name => .error (.duplicate name)
        | none => .ok {
            published
            draft := last.name
            increasing := (readPublished_increasing read).1
            distinct := (firstRepeat?_eq_none distinct).1 }

/-- The revisions from C++98 to the working draft C++26. -/
def cpp : Ladder where
  published := [
    ⟨"C++98", 199711⟩, ⟨"C++11", 201103⟩, ⟨"C++14", 201402⟩,
    ⟨"C++17", 201703⟩, ⟨"C++20", 202002⟩, ⟨"C++23", 202302⟩]
  draft := "C++26"
  increasing := by decide
  distinct := by simp

instance : Inhabited Ladder := ⟨cpp⟩

variable (ladder : Ladder)

def names : List String := ladder.published.map (·.name) ++ [ladder.draft]

def size : Nat := ladder.published.length + 1

def standards : List Standard :=
  ladder.published.map (fun r => ⟨r.name, some r.watermark⟩) ++ [⟨ladder.draft, none⟩]

/-- A position on the ladder, counted from the earliest revision. -/
abbrev Rung : Type := Fin ladder.size

@[simp] theorem length_names : ladder.names.length = ladder.size := by
  simp [names, size]

@[simp] theorem length_standards : ladder.standards.length = ladder.size := by
  simp [standards, size]

def standard (rung : ladder.Rung) : Standard :=
  ladder.standards.get (rung.cast ladder.length_standards.symm)

def watermark (rung : ladder.Rung) : Option Nat := (ladder.standard rung).watermark

/-- The working draft, which no watermark bounds. -/
def final : ladder.Rung := Fin.last ladder.published.length

def isFinal (rung : ladder.Rung) : Bool := rung == ladder.final

/-- The rung of a standard, by its exact name. -/
def rung? (name : String) : Option ladder.Rung :=
  if h : ladder.names.idxOf name < ladder.size then some ⟨ladder.names.idxOf name, h⟩ else none

def require (name : String) : Except Violation ladder.Rung :=
  match ladder.rung? name with
  | some rung => .ok rung
  | none => .error (.unknownStandard name)

/-- The watermark of the revision right before `rung`; none for the first, which every
conforming compiler is past. -/
def previousWatermark (rung : ladder.Rung) : Option Nat :=
  match rung.val with
  | 0 => none
  | n + 1 => ladder.published[n]?.map (·.watermark)

/-- The narrowest standard that covers `value`. A value equal to a watermark belongs to that
revision, and one past every watermark to the working draft. -/
def narrowestFor (value : Nat) : ladder.Rung :=
  ⟨ladder.published.findIdx (value ≤ ·.watermark), Nat.lt_succ_of_le List.findIdx_le_length⟩

end Ladder
end FeatureTest
