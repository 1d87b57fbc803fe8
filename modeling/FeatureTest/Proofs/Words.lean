import FeatureTest.Ingestion
import Mathlib.Data.Option.Defs

/-!
The words of a text, apart from how they are found: what stands between white space, each as long as
it can be, in their order.
-/
namespace FeatureTest
namespace Text

/-- The code points of white space. -/
def whiteSpace : List Nat :=
  [0x09, 0x0A, 0x0B, 0x0C, 0x0D, 0x20, 0x85, 0xA0, 0x1680, 0x2000, 0x2001, 0x2002, 0x2003, 0x2004,
    0x2005, 0x2006, 0x2007, 0x2008, 0x2009, 0x200A, 0x2028, 0x2029, 0x202F, 0x205F, 0x3000]

def Blank (c : Char) : Prop := c.toNat ∈ whiteSpace

/-- A text is its words with white space around each. A word ends with the text or at a blank, so
that it cannot be longer. -/
inductive Words : List Char → List String → Prop
  | done {blanks : List Char} (hblanks : ∀ c ∈ blanks, Blank c) : Words blanks []
  | word {blanks word rest : List Char} {words : List String} (hblanks : ∀ c ∈ blanks, Blank c)
      (hword : word ≠ []) (hdark : ∀ c ∈ word, ¬ Blank c) (hend : ∀ c ∈ rest.head?, Blank c)
      (h : Words rest words) :
      Words (blanks ++ (word ++ rest)) (String.ofList word :: words)

theorem blank_iff {c : Char} : Blank c ↔ isBlank c = true := by
  simp only [Blank, whiteSpace, isBlank, List.mem_cons, List.not_mem_nil, or_false, Bool.or_eq_true,
    Bool.and_eq_true, decide_eq_true_eq, beq_iff_eq]
  omega

/-- The pieces that hold something. -/
def wordsOfChars (cs : List Char) : List (List Char) := (pieces cs).filter (· ≠ [])

theorem words_eq (s : String) : words s = (wordsOfChars s.toList).map String.ofList := rfl

theorem pieces_ne_nil (cs : List Char) : pieces cs ≠ [] := by
  cases cs with
  | nil => simp [pieces]
  | cons c cs =>
    rw [pieces]
    split
    · simp
    · split <;> simp

theorem pieces_blanks {blanks : List Char} (h : ∀ c ∈ blanks, Blank c) (rest : List Char) :
    wordsOfChars (blanks ++ rest) = wordsOfChars rest := by
  induction blanks with
  | nil => rfl
  | cons c blanks ih =>
    obtain ⟨hc, hblanks⟩ := List.forall_mem_cons.mp h
    rw [List.cons_append, wordsOfChars, pieces, if_pos (blank_iff.mp hc),
      List.filter_cons_of_neg (by simp)]
    exact ih hblanks

theorem pieces_word {word rest : List Char} (hdark : ∀ c ∈ word, ¬ Blank c) :
    ∃ first later, pieces rest = first :: later ∧
      pieces (word ++ rest) = (word ++ first) :: later := by
  induction word with
  | nil =>
    cases hp : pieces rest with
    | nil => exact absurd hp (pieces_ne_nil rest)
    | cons first later => exact ⟨first, later, rfl, hp⟩
  | cons c word ih =>
    obtain ⟨hc, hdark⟩ := List.forall_mem_cons.mp hdark
    obtain ⟨first, later, hrest, hword⟩ := ih hdark
    refine ⟨first, later, hrest, ?_⟩
    rw [List.cons_append, pieces, if_neg (fun hb => hc (blank_iff.mpr hb)), hword]
    rfl

/-- What is found in a text are its words. -/
theorem Words.found {cs : List Char} {ws : List String} (h : Words cs ws) :
    (wordsOfChars cs).map String.ofList = ws := by
  induction h with
  | done hblanks =>
    have h := pieces_blanks hblanks []
    rw [List.append_nil] at h
    rw [h]
    rfl
  | @word blanks word rest words hblanks hword hdark hend _ ih =>
    obtain ⟨first, later, hrest, hpieces⟩ := @pieces_word word rest hdark
    have hfirst : first = [] := by
      cases rest with
      | nil =>
        rw [pieces] at hrest
        exact (List.cons.inj hrest).1.symm
      | cons c rest =>
        rw [pieces, if_pos (blank_iff.mp (hend c rfl))] at hrest
        exact (List.cons.inj hrest).1.symm
    subst hfirst
    have hlater : wordsOfChars rest = later.filter (· ≠ []) := by
      rw [wordsOfChars, hrest, List.filter_cons_of_neg (by simp)]
    rw [pieces_blanks hblanks, wordsOfChars, hpieces, List.append_nil,
      List.filter_cons_of_pos (by simpa using hword), List.map_cons, ← ih, hlater]

theorem Words.cons_blank {c : Char} {cs : List Char} {ws : List String} (hc : Blank c)
    (h : Words cs ws) : Words (c :: cs) ws := by
  cases h with
  | done hblanks => exact .done (List.forall_mem_cons.mpr ⟨hc, hblanks⟩)
  | @word blanks _ _ _ hblanks hword hdark hend h =>
    have hall : ∀ b ∈ c :: blanks, Blank b := List.forall_mem_cons.mpr ⟨hc, hblanks⟩
    exact .word hall hword hdark hend h

theorem Words.cons_dark {c : Char} {cs : List Char} {ws : List String} (hc : ¬ Blank c)
    (h : Words cs ws) : ∃ ws', Words (c :: cs) ws' := by
  have hnone : ∀ b ∈ ([] : List Char), Blank b := by simp
  -- before a blank the character is a word of its own
  have halone : (∀ d ∈ cs.head?, Blank d) → ∃ ws', Words (c :: cs) ws' := by
    intro hend
    exact ⟨_, @Words.word [] [c] cs ws hnone (by simp) (by simpa using hc) hend h⟩
  cases h with
  | done hblanks => exact halone fun d hd => hblanks d (List.mem_of_mem_head? hd)
  | @word blanks word rest words hblanks hword hdark hend h =>
    cases blanks with
    | nil =>
      have hdark : ∀ d ∈ c :: word, ¬ Blank d := List.forall_mem_cons.mpr ⟨hc, hdark⟩
      exact ⟨_, @Words.word [] (c :: word) rest words hnone (by simp) hdark hend h⟩
    | cons b blanks =>
      refine halone fun d hd => ?_
      obtain rfl : b = d := by simpa using hd
      exact hblanks b List.mem_cons_self

theorem words_exist (cs : List Char) : ∃ ws, Words cs ws := by
  induction cs with
  | nil => exact ⟨[], .done (by simp)⟩
  | cons c cs ih =>
    obtain ⟨ws, h⟩ := ih
    by_cases hc : Blank c
    · exact ⟨ws, h.cons_blank hc⟩
    · exact h.cons_dark hc

theorem words_iff {s : String} {ws : List String} : Words s.toList ws ↔ words s = ws := by
  constructor
  · intro h
    rw [words_eq, h.found]
  · rintro rfl
    obtain ⟨ws, h⟩ := words_exist s.toList
    rw [words_eq, h.found]
    exact h

end Text

/-- What a list that may be missing says: its words, or none. -/
def ListedWords (list : Option String) (words : List String) : Prop :=
  match list with
  | none => words = []
  | some s => Text.Words s.toList words

theorem listed_words_iff {list : Option String} {words : List String} :
    ListedWords list words ↔ wordsOf list = words := by
  cases list with
  | none => exact eq_comm
  | some s => exact Text.words_iff

/-- A list that may be missing, and stays missing. -/
def ListedIfGiven : Option String → Option (List String) → Prop :=
  Option.Rel fun s words => Text.Words s.toList words

theorem listed_if_given (list : Option String) : ListedIfGiven list (list.map Text.words) := by
  cases list with
  | none => exact .none
  | some s => exact .some (Text.words_iff.mpr rfl)

/-- The papers that records list, in their order. -/
inductive ListedPapers : List RowRecord → List String → Prop
  | nil : ListedPapers [] []
  | cons {r : RowRecord} {rest : List RowRecord} {own papers : List String}
      (hown : ListedWords r.papers own) (h : ListedPapers rest papers) :
      ListedPapers (r :: rest) (own ++ papers)

/-- The paper numbers of records, in order. -/
def papersOf (records : List RowRecord) : List String := records.flatMap (wordsOf ·.papers)

theorem papers_of_append (first second : List RowRecord) :
    papersOf (first ++ second) = papersOf first ++ papersOf second := List.flatMap_append

theorem papers_of_concat (first : List RowRecord) (r : RowRecord) :
    papersOf (first ++ [r]) = papersOf first ++ wordsOf r.papers := by
  rw [papers_of_append]
  simp [papersOf]

theorem listed_papers_iff {records : List RowRecord} {papers : List String} :
    ListedPapers records papers ↔ papersOf records = papers := by
  constructor
  · intro h
    induction h with
    | nil => rfl
    | cons hown _ ih => rw [papersOf, List.flatMap_cons, listed_words_iff.mp hown, ← ih, papersOf]
  · rintro rfl
    induction records with
    | nil => exact .nil
    | cons r rest ih => exact .cons (listed_words_iff.mpr rfl) ih

end FeatureTest
