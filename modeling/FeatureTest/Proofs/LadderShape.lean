import FeatureTest.Proofs.StandardTest

/-!
Which lists of standards are ladders, said without the checks that run over the list, and the laws
that every lookup on a ladder rests on.
-/
namespace FeatureTest
open Success

theorem first_repeat_none {seen names : List String} :
    firstRepeat? seen names = none ↔ names.Nodup ∧ ∀ name ∈ names, name ∉ seen := by
  constructor
  · exact firstRepeat?_eq_none
  · intro h
    obtain ⟨hnodup, hapart⟩ := h
    induction names generalizing seen with
    | nil => rfl
    | cons name rest ih =>
      obtain ⟨hfresh, hrest⟩ := List.nodup_cons.mp hnodup
      rw [firstRepeat?, if_neg (hapart name List.mem_cons_self)]
      apply ih hrest
      intro other hother hseen
      rcases List.mem_cons.mp hseen with rfl | hseen
      · exact hfresh hother
      · exact hapart other (List.mem_cons_of_mem name hother) hseen

/-- A revision as it is written down. -/
def Revision.written (r : Revision) : Standard := ⟨r.name, some r.watermark⟩

section Published

variable {previous : Option Revision} {s : Standard} {standards : List Standard}
  {revisions : List Revision}

/-- One step of the reading: a revision that lies above the one before it, and then the others. -/
theorem read_published_cons :
    readPublished previous (s :: standards) = .ok revisions ↔
      ∃ r later, s = r.written ∧ (∀ p ∈ previous, p.watermark < r.watermark) ∧
        readPublished (some r) standards = .ok later ∧ revisions = r :: later := by
  constructor
  · intro h
    rw [readPublished] at h
    split at h
    · cases h
    · rename_i watermark hw
      have hs : s = Revision.written ⟨s.name, watermark⟩ := by rw [Revision.written, ← hw]
      split at h
      · split at h
        · rename_i hlt
          obtain ⟨later, hlater, h⟩ := bind_eq_ok.mp h
          cases h
          exact ⟨_, later, hs, by simpa using hlt, hlater, rfl⟩
        · cases h
      · obtain ⟨later, hlater, h⟩ := bind_eq_ok.mp h
        cases h
        exact ⟨_, later, hs, by simp, hlater, rfl⟩
  · intro h
    obtain ⟨r, later, rfl, habove, hlater, rfl⟩ := h
    cases previous with
    | none => simp only [readPublished, Revision.written, hlater]; rfl
    | some p =>
      simp only [readPublished, Revision.written, habove p rfl, ↓reduceIte, hlater]
      rfl

/-- Reading takes the revisions that are written down, each above the one before it. -/
theorem read_published_eq_ok :
    readPublished previous standards = .ok revisions ↔
      standards = revisions.map (·.written) ∧
        (previous.toList ++ revisions).IsChain (·.watermark < ·.watermark) := by
  induction standards generalizing previous revisions with
  | nil => cases revisions <;> cases previous <;> simp [readPublished]
  | cons s rest ih =>
    rw [read_published_cons]
    constructor
    · intro h
      obtain ⟨r, later, rfl, habove, hlater, rfl⟩ := h
      obtain ⟨rfl, hchain⟩ := ih.mp hlater
      refine ⟨rfl, ?_⟩
      cases previous with
      | none => exact hchain
      | some p => exact .cons_cons (habove p rfl) hchain
    · intro h
      obtain ⟨hwritten, hchain⟩ := h
      obtain ⟨r, later, rfl, rfl, rfl⟩ := List.map_eq_cons_iff.mp hwritten.symm
      cases previous with
      | none => exact ⟨r, later, rfl, by simp, ih.mpr ⟨rfl, hchain⟩, rfl⟩
      | some p =>
        obtain ⟨hlt, hchain⟩ := List.isChain_cons_cons.mp hchain
        exact ⟨r, later, rfl, by simpa using hlt, ih.mpr ⟨rfl, hchain⟩, rfl⟩

/-- Standards that all have a watermark are revisions. -/
theorem exists_written (h : ∀ s ∈ standards, s.watermark.isSome = true) :
    ∃ revisions : List Revision, standards = revisions.map (·.written) := by
  induction standards with
  | nil => exact ⟨[], rfl⟩
  | cons s rest ih =>
    obtain ⟨revisions, hrest⟩ := ih fun t ht => h t (List.mem_cons_of_mem s ht)
    obtain ⟨w, hw⟩ := Option.isSome_iff_exists.mp (h s List.mem_cons_self)
    refine ⟨⟨s.name, w⟩ :: revisions, ?_⟩
    rw [List.map_cons, ← hrest, Revision.written, ← hw]

end Published

namespace Ladder

variable {ladder : Ladder} {standards : List Standard}

theorem standards_eq (ladder : Ladder) :
    ladder.standards = ladder.published.map (·.written) ++ [⟨ladder.draft, none⟩] := rfl

/-- A list of standards is read as the ladder that lists it. -/
theorem of_standards_eq_ok : ofStandards standards = .ok ladder ↔ ladder.standards = standards := by
  constructor
  · intro h
    unfold ofStandards at h
    split at h
    · cases h
    · rename_i last hlast
      split at h
      · cases h
      · rename_i hunbounded
        split at h
        · cases h
        · rename_i published hread
          split at h
          · cases h
          · cases h
            obtain ⟨hlisted, -⟩ := read_published_eq_ok.mp hread
            have hbare : last = ⟨last.name, none⟩ := by
              obtain ⟨name, watermark⟩ := last
              simpa using hunbounded
            rw [standards_eq, ← hlisted, ← hbare]
            exact List.dropLast_append_getLast? last hlast
  · rintro rfl
    have hlast : ladder.standards.getLast? = some ⟨ladder.draft, none⟩ := List.getLast?_concat
    have hread : readPublished none ladder.standards.dropLast = .ok ladder.published :=
      read_published_eq_ok.mpr ⟨List.dropLast_concat, ladder.increasing.isChain⟩
    have hdistinct : firstRepeat? [] (ladder.published.map (·.name) ++ [ladder.draft]) = none :=
      first_repeat_none.mpr ⟨ladder.distinct, by simp⟩
    unfold ofStandards
    simp only [hlast]
    rw [if_neg (by simp)]
    split
    · rename_i fault h
      rw [hread] at h
      cases h
    · rename_i published h
      obtain rfl : ladder.published = published := Except.ok.inj (hread.symm.trans h)
      split
      · rename_i name h
        rw [hdistinct] at h
        cases h
      · rfl

/-- Standards from the earliest to the working draft: only the last has no watermark, watermarks
rise, and no name is given twice. -/
structure Shape (standards : List Standard) : Prop where
  nonempty : standards ≠ []
  last_unbounded : ∀ last ∈ standards.getLast?, last.watermark = none
  others_bounded : ∀ s ∈ standards.dropLast, s.watermark.isSome = true
  rising : (standards.filterMap (·.watermark)).Pairwise (· < ·)
  distinct : (standards.map (·.name)).Nodup

theorem watermarks_written (revisions : List Revision) (draft : String) :
    (revisions.map Revision.written ++ [(⟨draft, none⟩ : Standard)]).filterMap Standard.watermark =
      revisions.map Revision.watermark := by
  simp [List.filterMap_append, List.filterMap_map, Function.comp_def, Revision.written]

theorem names_written (revisions : List Revision) (draft : String) :
    (revisions.map Revision.written ++ [(⟨draft, none⟩ : Standard)]).map Standard.name =
      revisions.map Revision.name ++ [draft] := by
  simp [Function.comp_def, Revision.written]

theorem shape_of_ladder (ladder : Ladder) : Shape ladder.standards := by
  rw [standards_eq]
  refine ⟨by simp, by simp, ?_, ?_, ?_⟩
  · rw [List.dropLast_concat]
    simp [Revision.written]
  · rw [watermarks_written]
    exact List.pairwise_map.mpr ladder.increasing
  · rw [names_written]
    exact ladder.distinct

theorem ladder_of_shape (h : Shape standards) :
    ∃ ladder : Ladder, ladder.standards = standards := by
  obtain ⟨⟨draft, watermark⟩, hlast⟩ := Option.isSome_iff_exists.mp
    (List.getLast?_isSome.mpr h.nonempty)
  obtain rfl : watermark = none := h.last_unbounded _ hlast
  obtain ⟨revisions, hrevisions⟩ := exists_written h.others_bounded
  have hsplit := List.dropLast_append_getLast? _ hlast
  rw [hrevisions] at hsplit
  have hrising := h.rising
  have hdistinct := h.distinct
  rw [← hsplit, watermarks_written, List.pairwise_map] at hrising
  rw [← hsplit, names_written] at hdistinct
  exact ⟨⟨revisions, draft, hrising, hdistinct⟩, hsplit⟩

/-- A value belongs at or below a rung just where it is the final one or its watermark covers the
value. -/
theorem narrowest_le_iff {value : Nat} {rung : ladder.Rung} :
    ladder.narrowestFor value ≤ rung ↔
      rung = ladder.final ∨ ∃ w ∈ ladder.watermark rung, value ≤ w := by
  rw [narrowest_le]
  rcases published_or_final rung with hlt | rfl
  · have hw := watermark_published hlt
    have hbelow : rung ≠ ladder.final := by
      rintro rfl
      rw [watermark_final] at hw
      cases hw
    simp [hw, hbelow]
  · simp [watermark_final]

/-- A list of standards is accepted just where it has the shape of a ladder, and the ladder then
lists these standards. On it a standard is found by its name at its own rung, and the narrowest rung
for a value is the first one that covers it: it is at or below a rung just where that is the final
one or the value does not exceed its watermark. -/
theorem of_standards_exact (standards : List Standard) :
    ((∃ ladder, ofStandards standards = .ok ladder) ↔ Shape standards) ∧
      ∀ ladder, ofStandards standards = .ok ladder →
        ladder.standards = standards ∧
        (∀ rung, ladder.rung? (ladder.standard rung).name = some rung) ∧
        ∀ (value : Nat) (rung : ladder.Rung), ladder.narrowestFor value ≤ rung ↔
          rung = ladder.final ∨ ∃ w ∈ ladder.watermark rung, value ≤ w := by
  constructor
  · simp only [of_standards_eq_ok]
    constructor
    · intro h
      obtain ⟨ladder, rfl⟩ := h
      exact shape_of_ladder ladder
    · exact ladder_of_shape
  · intro ladder h
    exact ⟨of_standards_eq_ok.mp h, rung_of_standard, fun _ _ => narrowest_le_iff⟩

def earlyLadder : Ladder where
  published := [⟨"C++98", 199711⟩, ⟨"C++11", 201103⟩]
  draft := "C++1y"
  increasing := by decide
  distinct := by decide

/-- Values at the last watermark and right past it. Watermarks that do not rise are refused. -/
theorem early_standards_accepted :
    ofStandards [⟨"C++98", some 199711⟩, ⟨"C++11", some 201103⟩, ⟨"C++1y", none⟩] =
        .ok earlyLadder ∧
      (∀ rung, earlyLadder.rung? (earlyLadder.standard rung).name = some rung) ∧
      earlyLadder.narrowestFor 201103 ≤ ⟨1, by decide⟩ ∧
      ¬ earlyLadder.narrowestFor 201104 ≤ ⟨1, by decide⟩ ∧
      ¬ ∃ ladder, ofStandards
        [⟨"C++98", some 199711⟩, ⟨"C++03", some 199711⟩, ⟨"C++11", none⟩] = .ok ladder := by
  have hread : ofStandards earlyLadder.standards = .ok earlyLadder := of_standards_eq_ok.mpr rfl
  obtain ⟨-, hnamed, hnarrowest⟩ := (of_standards_exact _).2 earlyLadder hread
  refine ⟨hread, hnamed, ?_, ?_, ?_⟩
  · rw [hnarrowest]
    exact .inr ⟨201103, rfl, by decide⟩
  · rw [hnarrowest]
    decide
  · rw [(of_standards_exact _).1]
    intro h
    exact absurd h.rising (by decide)

end Ladder
end FeatureTest
