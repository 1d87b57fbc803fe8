import FeatureTest.Proofs.Admission

/-!
Well-formed records, said without the steps of their ingestion, and the proof that ingestion takes
these and no others and keeps what they say.
-/
namespace FeatureTest
open Success

/-- A record of which any part restricts when its value applies. Naming the first standard does
not. -/
def FactRecord.Restricts (r : FactRecord) (ladder : Ladder) : Prop :=
  (∃ name ∈ r.since, name ∈ ladder.names ∧ ladder.names.head? ≠ some name) ∨
    ¬ ListedWords r.option [] ∨ ¬ ListedWords r.enabledBy [] ∨ ¬ ListedWords r.disabledBy [] ∨
    r.depends ≠ none ∨ r.pedantic = some false

/-- A record that can be read as a fact of the ladder. -/
structure FactRecord.WellFormed (r : FactRecord) (ladder : Ladder) : Prop extends r.Readable where
  single : r.since = none ∨ r.drAgainst = none
  since_known : ∀ name ∈ r.since, name ∈ ladder.names
  target_known : ∀ name ∈ r.drAgainst, name ∈ ladder.names

/-- What is recorded for one implementation makes a support list. -/
structure SupportWellFormed (records : List FactRecord) (ladder : Ladder) : Prop where
  marker_last : MarkerLast (·.removed) records
  entries : ∀ r ∈ kept (·.removed) records, r.WellFormed ladder
  ascending : ((kept (·.removed) records).filterMap (·.value)).Pairwise (· ≤ ·)
  conditional : ∀ r ∈ (kept (·.removed) records).tail, r.Restricts ladder

/-- Recorded rows make a history. -/
structure RowsWellFormed (records : List RowRecord) (ladder : Ladder) : Prop where
  marker_last : MarkerLast (·.removed) records
  silent : ∀ r ∈ kept (·.removed) records, r.Silent
  ascending : ((kept (·.removed) records).filterMap (·.value)).Pairwise (· ≤ ·)
  targets_known : ∀ r ∈ kept (·.removed) records, r.value ≠ none →
    ∀ name ∈ r.drAgainst, name ∈ ladder.names

structure FeatureRecord.WellFormed (r : FeatureRecord) (ladder : Ladder) : Prop where
  rows : RowsWellFormed r.rows ladder
  support : ∀ i, ∀ records ∈ r.support i, SupportWellFormed records ladder

/-- A feature that says what its record says: each row and each fact in the order of the records,
and a removal where a marker ends them. -/
structure Feature.Keeps (feature : Feature) (r : FeatureRecord) (kind : Kind) : Prop where
  name : feature.name = r.name
  kind : feature.kind = kind
  headers : ListedIfGiven r.headerList feature.headers
  rows : RowsOf (kept (·.removed) r.rows) feature.rows
  removed : feature.removed = endsRemoved (·.removed) r.rows
  recorded : ∀ i, (feature.support i).isSome = (r.support i).isSome
  facts : ∀ i, List.Forall₂ (fun record fact => fact.Records record)
    (kept (·.removed) ((r.support i).getD [])) (feature.supportFor i).facts
  support_removed : ∀ i, (feature.supportFor i).removed =
    endsRemoved (·.removed) ((r.support i).getD [])

theorem Ladder.previous_watermark_isSome {ladder : Ladder} {rung : ladder.Rung} :
    (ladder.previousWatermark rung).isSome = true ↔ rung.val ≠ 0 := by
  obtain ⟨n, hn⟩ := rung
  unfold Ladder.size at hn
  cases n with
  | zero => simp [previousWatermark]
  | succ n =>
    have hlt : n < ladder.published.length := by omega
    simp [previousWatermark, List.getElem?_eq_getElem hlt]

theorem Ladder.rung_of_first {ladder : Ladder} {name : String} {rung : ladder.Rung}
    (h : ladder.rung? name = some rung) : rung.val = 0 ↔ ladder.names.head? = some name := by
  have hval : rung.val = ladder.names.idxOf name := by
    unfold rung? at h
    split at h
    · cases h
      rfl
    · cases h
  have hmem : name ∈ ladder.names := rung_isSome.mp (by rw [h]; rfl)
  rw [hval]
  cases hn : ladder.names with
  | nil => simp [hn] at hmem
  | cons first rest =>
    by_cases hf : first = name
    · simp [hf]
    · simp [List.idxOf_cons_ne rest hf, hf]

namespace Fact

variable {fact : Fact} {r : FactRecord} {ladder : Ladder}

theorem since_restricts : fact.sinceRestricts ladder = true ↔
    ∃ name ∈ fact.since, name ∈ ladder.names ∧ ladder.names.head? ≠ some name := by
  unfold sinceRestricts
  cases hs : fact.since with
  | none => simp
  | some name =>
    by_cases hm : name ∈ ladder.names
    · obtain ⟨rung, hr⟩ := Ladder.rung_of_mem hm
      simp [hr, hm, Ladder.previous_watermark_isSome, Ladder.rung_of_first hr]
    · have hr : ladder.rung? name = none := by
        rw [← Option.not_isSome_iff_eq_none, Ladder.rung_isSome]
        exact hm
      simp [hr, hm]

/-- A fact has a condition when its record restricts it. -/
theorem Records.has_condition (h : fact.Records r) :
    fact.hasCondition ladder = true ↔ r.Restricts ladder := by
  have htoggles : fact.toggles.isEmpty = (wordsOf r.option).isEmpty := by
    rw [listed_words_iff.mp h.toggles, List.isEmpty_map]
  have henabled : fact.enabledBy.isEmpty = (wordsOf r.enabledBy).isEmpty := by
    rw [listed_words_iff.mp h.enabledBy, List.isEmpty_map]
  have hdisabled : fact.disabledBy.isEmpty = (wordsOf r.disabledBy).isEmpty := by
    rw [listed_words_iff.mp h.disabledBy, List.isEmpty_map]
  have hdepends : fact.depends.isSome = true ↔ r.depends ≠ none := by
    rw [h.depends, Option.isSome_iff_ne_none]
  simp only [hasCondition, Bool.or_eq_true, since_restricts, h.since, htoggles, henabled,
    hdisabled, hdepends, h.strict, Bool.not_eq_true', List.isEmpty_eq_false_iff, or_assoc,
    FactRecord.Restricts, listed_words_iff, ne_eq]

theorem Records.placed (h : fact.Records r) : fact.Placed ladder ↔
    (r.since = none ∨ r.drAgainst = none) ∧ (∀ name ∈ r.since, name ∈ ladder.names) ∧
      ∀ name ∈ r.drAgainst, name ∈ ladder.names := by
  rw [← h.since, ← h.drAgainst]
  exact ⟨fun hp => ⟨hp.single, hp.since_known, hp.target_known⟩,
    fun ⟨hs, hk, ht⟩ => ⟨hs, hk, ht⟩⟩

end Fact

/-- What is said of each element of one list is said of its partner in the other. -/
theorem forall_partners {α β : Type} {R : α → β → Prop} {xs : List α} {ys : List β}
    (h : List.Forall₂ R xs ys) {P : α → Prop} {Q : β → Prop}
    (hpq : ∀ x y, R x y → (P x ↔ Q y)) : (∀ x ∈ xs, P x) ↔ ∀ y ∈ ys, Q y := by
  induction h with
  | nil => simp
  | cons hxy _ ih => rw [List.forall_mem_cons, List.forall_mem_cons, hpq _ _ hxy, ih]

theorem values_of_records {records : List FactRecord} {facts : List Fact}
    (h : List.Forall₂ (fun r fact => fact.Records r) records facts) :
    facts.map (·.value) = records.filterMap (·.value) := by
  induction h with
  | nil => rfl
  | cons hr _ ih => rw [List.map_cons, List.filterMap_cons_some hr.value, ih]

theorem accepted_of_records {records : List FactRecord} {facts : List Fact} {ladder : Ladder}
    (h : List.Forall₂ (fun r fact => fact.Records r) records facts) :
    AcceptedFacts facts ladder ↔
      (∀ r ∈ records, (r.since = none ∨ r.drAgainst = none) ∧
        (∀ name ∈ r.since, name ∈ ladder.names) ∧ ∀ name ∈ r.drAgainst, name ∈ ladder.names) ∧
      (records.filterMap (·.value)).Pairwise (· ≤ ·) ∧
      ∀ r ∈ records.tail, r.Restricts ladder := by
  have htail : List.Forall₂ (fun r fact => fact.Records r) records.tail facts.tail := by
    cases h with
    | nil => exact .nil
    | cons _ hrest => exact hrest
  rw [forall_partners h fun r fact hr => (@Fact.Records.placed fact r ladder hr).symm,
    ← values_of_records h,
    forall_partners htail fun r fact hr => (@Fact.Records.has_condition fact r ladder hr).symm]
  exact ⟨fun ha => ⟨ha.placed, ha.ascending, ha.conditional⟩, fun ⟨hp, hv, hc⟩ => ⟨hp, hv, hc⟩⟩

theorem SupportList.of_records_succeeds {records : List FactRecord} {ladder : Ladder} :
    (∃ support, SupportList.ofRecords records ladder = .ok support) ↔
      SupportWellFormed records ladder := by
  constructor
  · intro h
    obtain ⟨support, h⟩ := h
    obtain ⟨hread, ha⟩ := of_records_eq_ok.mp h
    obtain ⟨hlast, hreadable⟩ := (Fact.of_records_succeeds 0).mp ⟨_, hread⟩
    obtain ⟨hp, hv, hc⟩ := (accepted_of_records (Fact.of_records_kept hread).1).mp ha
    refine ⟨hlast, ?_, hv, hc⟩
    intro r hr
    obtain ⟨hsingle, hsince, htarget⟩ := hp r hr
    exact ⟨hreadable r hr, hsingle, hsince, htarget⟩
  · intro h
    obtain ⟨⟨facts, removed⟩, hread⟩ := (Fact.of_records_succeeds 0).mpr
      ⟨h.marker_last, fun r hr => (h.entries r hr).toReadable⟩
    have ha : AcceptedFacts facts ladder := by
      refine (accepted_of_records (Fact.of_records_kept hread).1).mpr
        ⟨?_, h.ascending, h.conditional⟩
      intro r hr
      exact ⟨(h.entries r hr).single, (h.entries r hr).since_known, (h.entries r hr).target_known⟩
    exact ⟨⟨facts, removed⟩, of_records_eq_ok.mpr ⟨hread, ha⟩⟩

namespace Feature

variable {r : FeatureRecord} {kind : Kind} {ladder : Ladder} {feature : Feature}

theorem history_kept {history : History} (h : History.ofRecords 0 [] r.rows = .ok history) :
    RowsOf (kept (·.removed) r.rows) history.rows ∧
      history.removed = endsRemoved (·.removed) r.rows := by
  have hnone : ∀ s ∈ ([] : List RowRecord), s.value = none := by simp
  exact History.of_records_kept hnone h

theorem of_history_succeeds :
    (∃ feature, ofHistory r kind ladder = .ok feature) ↔ RowsWellFormed r.rows ladder := by
  have htargets : ∀ {history : History}, History.ofRecords 0 [] r.rows = .ok history →
      ((∀ row ∈ history.rows, ∀ name ∈ row.drAgainst, name ∈ ladder.names) ↔
        ∀ s ∈ kept (·.removed) r.rows, s.value ≠ none →
          ∀ name ∈ s.drAgainst, name ∈ ladder.names) := by
    intro history hh
    exact (history_kept hh).1.targets fun target => ∀ name ∈ target, name ∈ ladder.names
  simp only [of_history_eq_ok]
  constructor
  · intro h
    obtain ⟨_, history, hh, ⟨hsorted, hknown⟩, -⟩ := h
    obtain ⟨hlast, hsilent⟩ := (History.of_records_succeeds 0 []).mp ⟨history, hh⟩
    rw [(history_kept hh).1.values] at hsorted
    exact ⟨hlast, hsilent, hsorted, (htargets hh).mp hknown⟩
  · intro h
    obtain ⟨history, hh⟩ := (History.of_records_succeeds 0 []).mpr ⟨h.marker_last, h.silent⟩
    have hsorted := h.ascending
    rw [← (history_kept hh).1.values] at hsorted
    exact ⟨_, history, hh, ⟨hsorted, (htargets hh).mpr h.targets_known⟩, rfl⟩

theorem read_support_succeeds {i : Implementation} :
    (∃ s, readSupport r ladder i = .ok s) ↔
      ∀ records ∈ r.support i, SupportWellFormed records ladder := by
  unfold readSupport
  cases r.support i with
  | none => simp
  | some records =>
    simp only [Option.mem_some_iff, forall_eq', ← SupportList.of_records_succeeds, map_eq_ok]
    constructor
    · intro h
      obtain ⟨_, support, hs, -⟩ := h
      exact ⟨support, hs⟩
    · intro h
      obtain ⟨support, hs⟩ := h
      exact ⟨_, support, hs, rfl⟩

/-- What was read for an implementation says what is recorded for it, be it nothing. -/
theorem read_support_keeps {i : Implementation} {s : Option SupportList}
    (h : readSupport r ladder i = .ok s) :
    s.isSome = (r.support i).isSome ∧
      List.Forall₂ (fun record fact => fact.Records record)
        (kept (·.removed) ((r.support i).getD [])) (s.getD .empty).facts ∧
      (s.getD .empty).removed = endsRemoved (·.removed) ((r.support i).getD []) := by
  unfold readSupport at h
  cases hr : r.support i with
  | none =>
    simp only [hr, Except.ok.injEq] at h
    subst h
    exact ⟨rfl, .nil, rfl⟩
  | some records =>
    simp only [hr, map_eq_ok] at h
    obtain ⟨support, hs, rfl⟩ := h
    exact ⟨rfl, Fact.of_records_kept (SupportList.of_records_eq_ok.mp hs).1⟩

theorem of_record_succeeds :
    (∃ feature, ofRecord r kind ladder = .ok feature) ↔ r.WellFormed ladder := by
  constructor
  · intro h
    obtain ⟨feature, h⟩ := h
    obtain ⟨hhistory, hsupport⟩ := of_record_eq_ok.mp h
    refine ⟨of_history_succeeds.mp ⟨_, hhistory⟩, ?_⟩
    intro i
    exact read_support_succeeds.mp ⟨_, hsupport i⟩
  · intro h
    obtain ⟨base, hbase⟩ : ∃ base, ofHistory r kind ladder = .ok base :=
      of_history_succeeds.mpr h.rows
    obtain ⟨support, hsupport⟩ : ∃ support : Implementation → Option SupportList,
        ∀ i, readSupport r ladder i = .ok (support i) :=
      Classical.skolem.mp fun i => read_support_succeeds.mpr (h.support i)
    refine ⟨{ base with support }, of_record_eq_ok.mpr ⟨?_, hsupport⟩⟩
    rw [hbase, ← of_history_supportless hbase]

theorem of_record_keeps (h : ofRecord r kind ladder = .ok feature) : feature.Keeps r kind := by
  obtain ⟨hhistory, hsupport⟩ := of_record_eq_ok.mp h
  obtain ⟨history, hh, -, hf⟩ := of_history_eq_ok.mp hhistory
  obtain ⟨hrows, hremoved⟩ := history_kept hh
  obtain ⟨name, kind', headers, rows, removed, support⟩ := feature
  cases hf
  exact {
    name := rfl
    kind := rfl
    headers := listed_if_given r.headerList
    rows := hrows
    removed := hremoved
    recorded := fun i => (read_support_keeps (hsupport i)).1
    facts := fun i => (read_support_keeps (hsupport i)).2.1
    support_removed := fun i => (read_support_keeps (hsupport i)).2.2 }

/-- Ingestion takes exactly the well-formed records, and the feature it makes of one loses nothing
of it. -/
theorem of_record_exact (r : FeatureRecord) (kind : Kind) (ladder : Ladder) :
    ((∃ feature, ofRecord r kind ladder = .ok feature) ↔ r.WellFormed ladder) ∧
      ∀ feature, ofRecord r kind ladder = .ok feature → feature.Keeps r kind :=
  ⟨of_record_succeeds, fun _ => of_record_keeps⟩

/-- A withdrawn feature of which a row without a value passes its paper on. -/
def withdrawnRecord : FeatureRecord where
  name := "__cpp_deduction_guides"
  rows := [
    { papers := some "P0091R3" },
    { value := some 201703, papers := some "P0512R0 P0620R0", description := some "Guides" },
    { removed := true }]
  support := fun
    | .clang => some [
      { value := some 201606, since := some "C++98", option := some " -fguides\t/Zc:guides" },
      { value := some 201703, enabledBy := some "-fguides -O2", pedantic := some false },
      { removed := true }]
    | .gcc => some []
    | .msvc => none

theorem withdrawn_record_kept :
    withdrawnRecord.WellFormed .cpp ∧
      ∃ feature, ofRecord withdrawnRecord .language .cpp = .ok feature ∧
        feature.Keeps withdrawnRecord .language ∧
        feature.rows.map (fun row => (row.value, row.papers)) =
          [(201703, ["P0091R3", "P0512R0", "P0620R0"])] ∧
        (feature.supportFor .clang).facts.map (fun fact => (fact.value, fact.since,
            fact.toggles.map (·.enable.spelling), fact.enabledBy.map (·.spelling),
            fact.strictSensitive)) =
          [(201606, some "C++98", ["-fguides", "/Zc:guides"], [], false),
            (201703, none, [], ["-fguides", "-O2"], true)] ∧
        (feature.supportFor .clang).removed = true := by
  obtain ⟨haccepts, hkeeps⟩ := of_record_exact withdrawnRecord .language .cpp
  exact ⟨haccepts.mp ⟨_, rfl⟩, _, rfl, hkeeps _ rfl, rfl, rfl, rfl⟩

end Feature

/-- A registry can be read just where each of its records makes a feature. -/
theorem Registry.of_record_succeeds {r : RegistryRecord} {ladder : Ladder} :
    (∃ registry, Registry.ofRecord r ladder = .ok registry) ↔
      ∀ kind, ∀ record ∈ r.ofKind kind, record.WellFormed ladder := by
  have hgroups : (∃ registry, Registry.ofRecord r ladder = .ok registry) ↔
      ∃ groups, (Kind.all.mapM fun kind =>
        (r.ofKind kind).mapM (Feature.ofRecord · kind ladder)) = .ok groups := by
    simp only [Registry.ofRecord, bind_eq_ok, pure_eq_ok]
    exact ⟨fun ⟨_, groups, h, _⟩ => ⟨groups, h⟩, fun ⟨groups, h⟩ => ⟨_, groups, h, rfl⟩⟩
  have hall : ∀ kind, kind ∈ Kind.all := by
    intro kind
    cases kind <;> decide
  simp only [hgroups, mapM_succeeds, Feature.of_record_succeeds, hall, forall_const]

end FeatureTest
