import FeatureTest.Proofs.Acceptance
import FeatureTest.Proofs.Words

/-!
The stages of ingestion: which records each accepts, and what it keeps of them.
-/
namespace FeatureTest
open Success

section Markers

variable {α : Type} (removed : α → Bool)

/-- A removal marker stands nowhere but at the end. -/
def MarkerLast (records : List α) : Prop := ∀ r ∈ records.dropLast, removed r = false

def endsRemoved (records : List α) : Bool := records.getLast?.any removed

/-- The records that are no removal markers. -/
def kept (records : List α) : List α := records.filter (!removed ·)

variable {removed} {r : α} {rest : List α}

theorem marker_last_cons :
    MarkerLast removed (r :: rest) ↔ (removed r = true → rest = []) ∧ MarkerLast removed rest := by
  cases rest with
  | nil => simp [MarkerLast]
  | cons next later => simp [MarkerLast]

theorem ends_removed_cons (h : removed r = true → rest = []) :
    endsRemoved removed (r :: rest) = (removed r || endsRemoved removed rest) := by
  cases rest with
  | nil => simp [endsRemoved]
  | cons next later =>
    have hr : removed r = false := by
      cases hr : removed r with
      | false => rfl
      | true => exact absurd (h hr) (List.cons_ne_nil next later)
    simp [endsRemoved, hr]

theorem kept_marker (h : removed r = true) : kept removed (r :: rest) = kept removed rest := by
  simp [kept, h]

theorem kept_entry (h : removed r = false) :
    kept removed (r :: rest) = r :: kept removed rest := by
  simp [kept, h]

end Markers

section Histories

/-- The rows that records without markers make: one for each value, with its own papers after those
of the silent records right before it. -/
inductive RowsOf : List RowRecord → List HistoryRow → Prop
  | done {silent : List RowRecord} (hs : ∀ s ∈ silent, s.value = none) : RowsOf silent []
  | row {silent : List RowRecord} {r : RowRecord} {value : Nat} {papers : List String}
      {headers : Option (List String)} {rest : List RowRecord} {rows : List HistoryRow}
      (hs : ∀ s ∈ silent, s.value = none) (hv : r.value = some value)
      (hpapers : ListedPapers (silent ++ [r]) papers)
      (hheaders : ListedIfGiven r.headerList headers) (h : RowsOf rest rows) :
      RowsOf (silent ++ r :: rest) ({
        value, papers, headers
        description := r.description
        drAgainst := r.drAgainst } :: rows)

/-- A record without a value describes nothing. -/
def RowRecord.Silent (r : RowRecord) : Prop := r.value = none → r.description = none

theorem History.of_records_succeeds {records : List RowRecord} (index : Nat)
    (pending : List String) :
    (∃ history, History.ofRecords index pending records = .ok history) ↔
      MarkerLast (·.removed) records ∧ ∀ r ∈ kept (·.removed) records, r.Silent := by
  induction records generalizing index pending with
  | nil => simp [History.ofRecords, MarkerLast, kept]
  | cons r rest ih =>
    rw [marker_last_cons, History.ofRecords]
    cases hm : r.removed with
    | true =>
      rw [kept_marker hm]
      cases rest with
      | nil => simp [MarkerLast, kept]
      | cons next later => simp
    | false =>
      rw [kept_entry hm, List.forall_mem_cons]
      cases hv : r.value with
      | none =>
        cases hd : r.description with
        | some text => simp [RowRecord.Silent, hv, hd]
        | none => simp [RowRecord.Silent, hv, hd, ih]
      | some value =>
        have hr : r.Silent := fun h => absurd (hv.symm.trans h) (Option.some_ne_none value)
        simp only [Bool.false_eq_true, ↓reduceIte, false_implies, true_and, hr, bind_eq_ok,
          pure_eq_ok, ← ih (index + 1) []]
        constructor
        · intro h
          obtain ⟨_, history, hh, rfl⟩ := h
          exact ⟨history, hh⟩
        · intro h
          obtain ⟨history, hh⟩ := h
          exact ⟨_, history, hh, rfl⟩

theorem History.of_records_kept {records silent : List RowRecord} {index : Nat}
    {history : History} (hs : ∀ s ∈ silent, s.value = none)
    (h : History.ofRecords index (papersOf silent) records = .ok history) :
    RowsOf (silent ++ kept (·.removed) records) history.rows ∧
      history.removed = endsRemoved (·.removed) records := by
  induction records generalizing silent index history with
  | nil =>
    cases h
    refine ⟨?_, rfl⟩
    rw [kept, List.filter_nil, List.append_nil]
    exact .done hs
  | cons r rest ih =>
    rw [History.ofRecords] at h
    cases hm : r.removed with
    | true =>
      rw [kept_marker hm]
      cases rest with
      | nil =>
        simp only [hm, ↓reduceIte, List.isEmpty_nil] at h
        cases h
        refine ⟨?_, by simp [endsRemoved, hm]⟩
        rw [kept, List.filter_nil, List.append_nil]
        exact .done hs
      | cons next later => simp [hm] at h
    | false =>
      rw [kept_entry hm, ends_removed_cons (by simp [hm]), hm, Bool.false_or]
      simp only [hm, Bool.false_eq_true, ↓reduceIte] at h
      cases hv : r.value with
      | none =>
        simp only [hv] at h
        split at h
        · cases h
        · rw [← papers_of_concat] at h
          have hsilent : ∀ s ∈ silent ++ [r], s.value = none := by
            intro s hm
            rcases List.mem_append.mp hm with hm | hm
            · exact hs s hm
            · rw [List.mem_singleton.mp hm]
              exact hv
          have hrest := ih hsilent h
          rwa [List.append_assoc] at hrest
      | some value =>
        simp only [hv, bind_eq_ok, pure_eq_ok] at h
        obtain ⟨tail, htail, rfl⟩ := h
        have hnone : ∀ s ∈ ([] : List RowRecord), s.value = none := by simp
        obtain ⟨hrows, hremoved⟩ := ih hnone htail
        have hpapers := listed_papers_iff.mpr (papers_of_concat silent r)
        exact ⟨.row hs hv hpapers (listed_if_given r.headerList) hrows, hremoved⟩

theorem RowsOf.values {records : List RowRecord} {rows : List HistoryRow}
    (h : RowsOf records rows) :
    rows.map (·.value) = records.filterMap (·.value) := by
  have hnone : ∀ silent : List RowRecord, (∀ s ∈ silent, s.value = none) →
      silent.filterMap (·.value) = [] := fun silent hs => List.filterMap_eq_nil_iff.mpr hs
  induction h with
  | done hs => rw [hnone _ hs, List.map_nil]
  | row hs hv _ _ _ ih => simp [hnone _ hs, hv, ih]

/-- What is said of the target of every row is said of that of every record with a value. -/
theorem RowsOf.targets {records : List RowRecord} {rows : List HistoryRow} (h : RowsOf records rows)
    (known : Option String → Prop) :
    (∀ row ∈ rows, known row.drAgainst) ↔
      ∀ r ∈ records, r.value ≠ none → known r.drAgainst := by
  induction h with
  | done hs =>
    refine ⟨fun _ r hr hv => absurd (hs r hr) hv, fun _ row hr => ?_⟩
    cases hr
  | row hs hv _ _ _ ih =>
    rw [List.forall_mem_cons, ih, List.forall_mem_append, List.forall_mem_cons]
    constructor
    · intro h
      obtain ⟨hrow, hrest⟩ := h
      exact ⟨fun r hr hvalue => absurd (hs r hr) hvalue, fun _ => hrow, hrest⟩
    · intro h
      obtain ⟨-, hrow, hrest⟩ := h
      exact ⟨hrow (by simp [hv]), hrest⟩

end Histories

section Facts

theorem Switch.spellings_of_words {words : List String} {switches : List Switch}
    (h : words.mapM Switch.ofSpelling = .ok switches) : switches.map (·.spelling) = words := by
  have hall := mapM_eq_ok.mp h
  induction hall with
  | nil => rfl
  | cons hs _ ih => rw [List.map_cons, Switch.spelling_of_ofSpelling hs, ih (mapM_eq_ok.mpr ‹_›)]

theorem Toggle.spelling_of_ofSpelling {spelling : String} {toggle : Toggle}
    (h : Toggle.ofSpelling spelling = .ok toggle) : toggle.enable.spelling = spelling := by
  unfold Toggle.ofSpelling at h
  split at h
  · cases h
  · split at h
    · cases h
    · rename_i enable
      split at h
      · cases h
      · cases h
        exact Switch.spelling_of_ofSpelling enable

theorem Toggle.spellings_of_words {words : List String} {toggles : List Toggle}
    (h : words.mapM Toggle.ofSpelling = .ok toggles) :
    toggles.map (·.enable.spelling) = words := by
  have hall := mapM_eq_ok.mp h
  induction hall with
  | nil => rfl
  | cons ht _ ih => rw [List.map_cons, Toggle.spelling_of_ofSpelling ht, ih (mapM_eq_ok.mpr ‹_›)]

/-- All words of a list can be read just where a traversal of them succeeds. -/
theorem listed_words_read {α : Type} {list : Option String} {read : String → Except Violation α} :
    (∃ words, ListedWords list words ∧ ∀ word ∈ words, ∃ a, read word = .ok a) ↔
      ∃ as, (wordsOf list).mapM read = .ok as := by
  simp only [listed_words_iff, exists_eq_left', mapM_succeeds]

/-- A record that can be read as a fact, wherever the fact may then stand. -/
structure FactRecord.Readable (r : FactRecord) : Prop where
  valued : r.value ≠ none
  toggles : ∃ words, ListedWords r.option words ∧
    ∀ word ∈ words, ∃ toggle, Toggle.ofSpelling word = .ok toggle
  enabledBy : ∃ words, ListedWords r.enabledBy words ∧
    ∀ word ∈ words, ∃ switch, Switch.ofSpelling word = .ok switch
  disabledBy : ∃ words, ListedWords r.disabledBy words ∧
    ∀ word ∈ words, ∃ switch, Switch.ofSpelling word = .ok switch
  lenient : r.pedantic ≠ some true

/-- The fact says what the record says, and has the switches whose spellings it lists. -/
structure Fact.Records (fact : Fact) (r : FactRecord) : Prop where
  value : r.value = some fact.value
  since : fact.since = r.since
  drAgainst : fact.drAgainst = r.drAgainst
  depends : fact.depends = r.depends
  toggles : ListedWords r.option (fact.toggles.map (·.enable.spelling))
  enabledBy : ListedWords r.enabledBy (fact.enabledBy.map (·.spelling))
  disabledBy : ListedWords r.disabledBy (fact.disabledBy.map (·.spelling))
  strict : fact.strictSensitive = true ↔ r.pedantic = some false

theorem Fact.of_record_readable {index : Nat} {r : FactRecord} {fact : Fact}
    (h : Fact.ofRecord index r = .ok fact) : r.Readable ∧ fact.Records r := by
  unfold Fact.ofRecord at h
  cases hv : r.value with
  | none => simp [hv, throw_ne_ok] at h
  | some value =>
    simp only [hv, bind_eq_ok] at h
    obtain ⟨toggles, ht, enabledBy, he, disabledBy, hd, h⟩ := h
    split at h
    · simp [map_eq_ok, throw_ne_ok] at h
    · rename_i hp
      simp only [pure_eq_ok] at h
      subst h
      refine ⟨⟨by simp [hv], ?_, ?_, ?_, hp⟩, ?_⟩
      · exact listed_words_read.mpr ⟨toggles, ht⟩
      · exact listed_words_read.mpr ⟨enabledBy, he⟩
      · exact listed_words_read.mpr ⟨disabledBy, hd⟩
      · exact {
          value := hv
          since := rfl
          drAgainst := rfl
          depends := rfl
          toggles := listed_words_iff.mpr (Toggle.spellings_of_words ht).symm
          enabledBy := listed_words_iff.mpr (Switch.spellings_of_words he).symm
          disabledBy := listed_words_iff.mpr (Switch.spellings_of_words hd).symm
          strict := by simp }

theorem Fact.of_record_succeeds {r : FactRecord} (index : Nat) (h : r.Readable) :
    ∃ fact, Fact.ofRecord index r = .ok fact := by
  obtain ⟨value, hv⟩ := Option.ne_none_iff_exists'.mp h.valued
  obtain ⟨toggles, ht⟩ := listed_words_read.mp h.toggles
  obtain ⟨enabledBy, he⟩ := listed_words_read.mp h.enabledBy
  obtain ⟨disabledBy, hd⟩ := listed_words_read.mp h.disabledBy
  unfold Fact.ofRecord
  simp only [hv, ht, he, hd, h.lenient, bind, Except.bind, ↓reduceIte, pure, Except.pure]
  exact ⟨_, rfl⟩

theorem Fact.of_records_succeeds {records : List FactRecord} (index : Nat) :
    (∃ out, Fact.ofRecords index records = .ok out) ↔
      MarkerLast (·.removed) records ∧ ∀ r ∈ kept (·.removed) records, r.Readable := by
  induction records generalizing index with
  | nil => simp [Fact.ofRecords, MarkerLast, kept]
  | cons r rest ih =>
    rw [marker_last_cons, Fact.ofRecords]
    cases hm : r.removed with
    | true =>
      rw [kept_marker hm]
      cases rest with
      | nil => simp [MarkerLast, kept]
      | cons next later => simp
    | false =>
      rw [kept_entry hm, List.forall_mem_cons]
      simp only [Bool.false_eq_true, ↓reduceIte, false_implies, true_and, bind_eq_ok, pure_eq_ok]
      constructor
      · intro h
        obtain ⟨_, fact, hf, out, hout, rfl⟩ := h
        obtain ⟨hlast, hrest⟩ := (ih (index + 1)).mp ⟨out, hout⟩
        exact ⟨hlast, (Fact.of_record_readable hf).1, hrest⟩
      · intro h
        obtain ⟨hlast, hr, hrest⟩ := h
        obtain ⟨fact, hf⟩ := Fact.of_record_succeeds index hr
        obtain ⟨out, hout⟩ := (ih (index + 1)).mpr ⟨hlast, hrest⟩
        exact ⟨_, fact, hf, out, hout, rfl⟩

theorem Fact.of_records_kept {records : List FactRecord} {index : Nat} {facts : List Fact}
    {removed : Bool} (h : Fact.ofRecords index records = .ok (facts, removed)) :
    List.Forall₂ (fun r fact => fact.Records r) (kept (·.removed) records) facts ∧
      removed = endsRemoved (·.removed) records := by
  induction records generalizing index facts removed with
  | nil =>
    cases h
    exact ⟨.nil, rfl⟩
  | cons r rest ih =>
    rw [Fact.ofRecords] at h
    cases hm : r.removed with
    | true =>
      rw [kept_marker hm]
      cases rest with
      | nil =>
        simp only [hm, ↓reduceIte, List.isEmpty_nil] at h
        cases h
        exact ⟨.nil, by simp [endsRemoved, hm]⟩
      | cons next later => simp [hm] at h
    | false =>
      rw [kept_entry hm, ends_removed_cons (by simp [hm]), hm, Bool.false_or]
      simp only [hm, Bool.false_eq_true, ↓reduceIte, bind_eq_ok, pure_eq_ok] at h
      obtain ⟨fact, hf, ⟨tail, ends⟩, htail, h⟩ := h
      cases h
      obtain ⟨hrest, hends⟩ := ih htail
      exact ⟨.cons (Fact.of_record_readable hf).2 hrest, hends⟩

theorem SupportList.of_records_eq_ok {records : List FactRecord} {ladder : Ladder}
    {support : SupportList} :
    SupportList.ofRecords records ladder = .ok support ↔
      Fact.ofRecords 0 records = .ok (support.facts, support.removed) ∧
        AcceptedFacts support.facts ladder := by
  unfold SupportList.ofRecords
  rw [bind_eq_ok]
  constructor
  · intro h
    obtain ⟨⟨facts, removed⟩, hread, h⟩ := h
    obtain ⟨ha, rfl⟩ := SupportList.of_facts_eq_ok.mp h
    exact ⟨hread, ha⟩
  · intro h
    obtain ⟨hread, ha⟩ := h
    exact ⟨_, hread, SupportList.of_facts_eq_ok.mpr ⟨ha, rfl⟩⟩

end Facts

namespace Feature

theorem with_rows_eq_ok {feature feature' : Feature} {rows : List HistoryRow} {removed : Bool}
    {ladder : Ladder} :
    feature.withRows rows removed ladder = .ok feature' ↔
      ((rows.map (·.value)).Pairwise (· ≤ ·) ∧
        ∀ row ∈ rows, ∀ name ∈ row.drAgainst, name ∈ ladder.names) ∧
      feature' = { feature with rows, removed } := by
  have htargets : (rows.filterMap (·.drAgainst)).forM
      (fun name => discard (ladder.require name)) = .ok () ↔
      ∀ row ∈ rows, ∀ name ∈ row.drAgainst, name ∈ ladder.names := by
    simp only [forM_eq_ok, Ladder.discard_require_eq_ok, List.mem_filterMap, Option.mem_def]
    constructor
    · intro h row hr name hn
      exact h name ⟨row, hr, hn⟩
    · intro h name hm
      obtain ⟨row, hr, hn⟩ := hm
      exact h row hr name hn
  unfold withRows
  rw [← first_descent_none, ← htargets]
  cases hd : firstDescent? (rows.map (·.value)) with
  | some pair => simp [bind_eq_ok, throw_ne_ok]
  | none =>
    simp only [bind_eq_ok, pure_eq_ok, true_and]
    constructor
    · intro h
      obtain ⟨u, hu, rfl⟩ := h
      exact ⟨hu, rfl⟩
    · intro h
      obtain ⟨hu, rfl⟩ := h
      exact ⟨(), hu, rfl⟩

theorem of_history_eq_ok {r : FeatureRecord} {kind : Kind} {ladder : Ladder} {feature : Feature} :
    ofHistory r kind ladder = .ok feature ↔
      ∃ history, History.ofRecords 0 [] r.rows = .ok history ∧
        ((history.rows.map (·.value)).Pairwise (· ≤ ·) ∧
          ∀ row ∈ history.rows, ∀ name ∈ row.drAgainst, name ∈ ladder.names) ∧
        feature = {
          name := r.name, kind, headers := r.headerList.map Text.words
          rows := history.rows, removed := history.removed } := by
  unfold ofHistory
  simp only [bind_eq_ok, with_rows_eq_ok]

theorem of_history_supportless {r : FeatureRecord} {kind : Kind} {ladder : Ladder}
    {feature : Feature} (h : ofHistory r kind ladder = .ok feature) :
    feature.support = fun _ => none := by
  obtain ⟨history, -, -, rfl⟩ := of_history_eq_ok.mp h
  rfl

/-- What is recorded for one implementation, read as support. -/
def readSupport (r : FeatureRecord) (ladder : Ladder) (implementation : Implementation) :
    Except Violation (Option SupportList) :=
  match r.support implementation with
  | none => .ok none
  | some records => some <$> SupportList.ofRecords records ladder

section Supports

variable {r : FeatureRecord} {ladder : Ladder} {feature feature' : Feature} {i : Implementation}

/-- Adding support sets one entry and leaves the rest of the feature as it was. -/
theorem add_support_eq_ok (hnew : feature.support i = none) :
    addSupport r ladder feature i = .ok feature' ↔
      ∃ s, readSupport r ladder i = .ok s ∧
        feature' = { feature with support := fun j => if j = i then s else feature.support j } := by
  have hsame : feature =
      { feature with support := fun j => if j = i then none else feature.support j } := by
    have hsupport : feature.support =
        fun j => if j = i then none else feature.support j := by
      funext j
      by_cases hj : j = i
      · rw [if_pos hj, hj, hnew]
      · rw [if_neg hj]
    rw [← hsupport]
  unfold addSupport readSupport
  cases r.support i with
  | none =>
    simp only [Except.ok.injEq, exists_eq_left', ← hsame]
    exact eq_comm
  | some records =>
    cases hs : SupportList.ofRecords records ladder with
    | error v => simp [hs]
    | ok support =>
      simp only [hs, map_eq_ok, Except.ok.injEq, exists_eq_left']
      exact eq_comm

/-- Adding what is recorded for several implementations reads each of them, and changes only their
entries. -/
theorem add_supports_eq_ok {is : List Implementation} (hd : is.Nodup)
    (hnew : ∀ i ∈ is, feature.support i = none) :
    is.foldlM (addSupport r ladder) feature = .ok feature' ↔
      (∀ i ∈ is, readSupport r ladder i = .ok (feature'.support i)) ∧
      (∀ i, i ∉ is → feature'.support i = feature.support i) ∧
      feature' = { feature with support := feature'.support } := by
  induction is generalizing feature with
  | nil =>
    rw [List.foldlM_nil, pure_eq_ok]
    constructor
    · intro he
      subst he
      exact ⟨by simp, fun _ _ => rfl, rfl⟩
    · intro h
      obtain ⟨-, hsame, h⟩ := h
      have hsupport : feature'.support = feature.support := funext fun i => hsame i (by simp)
      rw [h, hsupport]
  | cons i is ih =>
    obtain ⟨hi, hd⟩ := List.nodup_cons.mp hd
    obtain ⟨hnewi, hnew⟩ := List.forall_mem_cons.mp hnew
    have hlater : ∀ s : Option SupportList, ∀ j ∈ is,
        (if j = i then s else feature.support j) = none := by
      intro s j hj
      rw [if_neg (by rintro rfl; exact hi hj)]
      exact hnew j hj
    simp only [List.foldlM_cons, bind_eq_ok, add_support_eq_ok hnewi]
    constructor
    · intro h
      obtain ⟨_, ⟨s, hs, rfl⟩, h⟩ := h
      obtain ⟨hread, hsame, hrest⟩ := (ih hd (hlater s)).mp h
      replace hsame : ∀ j, j ∉ is → feature'.support j = if j = i then s else feature.support j :=
        hsame
      have hsi : feature'.support i = s := by
        rw [hsame i hi, if_pos rfl]
      refine ⟨List.forall_mem_cons.mpr ⟨by rw [hsi, hs], hread⟩, ?_, hrest⟩
      intro j hj
      obtain ⟨hji, hjs⟩ := not_or.mp (mt List.mem_cons.mpr hj)
      rw [hsame j hjs, if_neg hji]
    · intro h
      obtain ⟨hread, hsame, hrest⟩ := h
      obtain ⟨hi', hread⟩ := List.forall_mem_cons.mp hread
      refine ⟨_, ⟨_, hi', rfl⟩, (ih hd (hlater _)).mpr ⟨hread, ?_, hrest⟩⟩
      intro j hj
      change feature'.support j = if j = i then feature'.support i else feature.support j
      by_cases hji : j = i
      · rw [if_pos hji, hji]
      · rw [if_neg hji]
        exact hsame j (List.not_mem_cons_of_ne_of_not_mem hji hj)

end Supports

/-- A feature is read from its history and, for every implementation, from what is recorded. -/
theorem of_record_eq_ok {r : FeatureRecord} {kind : Kind} {ladder : Ladder} {feature : Feature} :
    ofRecord r kind ladder = .ok feature ↔
      ofHistory r kind ladder = .ok { feature with support := fun _ => none } ∧
        ∀ i, readSupport r ladder i = .ok (feature.support i) := by
  have hall : ∀ i, i ∈ Implementation.all := by
    intro i
    cases i <;> decide
  unfold ofRecord
  cases hh : ofHistory r kind ladder with
  | error v => simp
  | ok base =>
    have hnone := of_history_supportless hh
    simp only [Except.ok.injEq]
    rw [add_supports_eq_ok (by decide) (by simp [hnone])]
    constructor
    · intro h
      obtain ⟨hread, -, h⟩ := h
      refine ⟨?_, fun i => hread i (hall i)⟩
      rw [h, ← hnone]
    · intro h
      obtain ⟨h, hread⟩ := h
      exact ⟨fun i _ => hread i, fun i hi => absurd (hall i) hi, by rw [h]⟩

end Feature
end FeatureTest
