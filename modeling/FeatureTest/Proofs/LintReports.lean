import FeatureTest.Lint
import FeatureTest.Proofs.Success

/-!
The reports of a lint: for each kind one about its history, and one about each implementation.
-/
namespace FeatureTest
open Success

/-- Whether this is the report of a kind's history, or of one implementation's support. -/
def LintReport.isAbout (report : LintReport) (kind : Kind)
    (implementation : Option Implementation) : Bool :=
  report.kind == kind && report.implementation == implementation

namespace Registry

variable {registry : Registry} {ladder : Ladder} {kind : Kind}

/-- The reports about one kind. -/
def kindReports (registry : Registry) (ladder : Ladder) (kind : Kind) :
    Except TimelineError (List LintReport) := do
  let history ← registry.historyReport kind ladder
  let support ← Implementation.all.mapM fun i => registry.supportReport kind i ladder
  return history :: support

theorem lint_by_kind :
    registry.lint ladder = List.flatten <$> Kind.all.mapM (registry.kindReports ladder) := by
  unfold lint
  rw [← bind_pure_comp]
  rfl

theorem kind_reports_eq_ok {reports : List LintReport}
    (h : registry.kindReports ladder kind = .ok reports) :
    ∃ (history : LintReport) (support : Implementation → LintReport),
      registry.historyReport kind ladder = .ok history ∧
      (∀ i, registry.supportReport kind i ladder = .ok (support i)) ∧
      reports = history :: Implementation.all.map support := by
  obtain ⟨history, hhistory, h⟩ := bind_eq_ok.mp h
  obtain ⟨listed, hlisted, h⟩ := bind_eq_ok.mp h
  have hall : ∀ i, i ∈ Implementation.all := by
    intro i
    cases i <;> decide
  choose support hsupport using fun i => mapM_succeeds.mp ⟨listed, hlisted⟩ i (hall i)
  rw [mapM_all_ok hsupport, Except.ok.injEq] at hlisted
  exact ⟨history, support, hhistory, hsupport, by rw [← pure_eq_ok.mp h, ← hlisted]⟩

/-- A lint that succeeds lists the reports of every kind. -/
theorem lint_eq_ok {reports : List LintReport} (h : registry.lint ladder = .ok reports) :
    ∃ (history : Kind → LintReport) (support : Kind → Implementation → LintReport),
      (∀ kind, registry.historyReport kind ladder = .ok (history kind)) ∧
      (∀ kind i, registry.supportReport kind i ladder = .ok (support kind i)) ∧
      reports = Kind.all.flatMap fun kind =>
        history kind :: Implementation.all.map (support kind) := by
  rw [lint_by_kind, map_eq_ok] at h
  obtain ⟨groups, hgroups, rfl⟩ := h
  have hall : ∀ kind, kind ∈ Kind.all := by
    intro kind
    cases kind <;> decide
  choose group hgroup using fun kind => mapM_succeeds.mp ⟨groups, hgroups⟩ kind (hall kind)
  choose history support hhistory hsupport hlisted using fun kind =>
    kind_reports_eq_ok (hgroup kind)
  refine ⟨history, support, hhistory, hsupport, ?_⟩
  rw [mapM_all_ok hgroup, Except.ok.injEq] at hgroups
  rw [← hgroups, funext hlisted, List.flatMap_def]

theorem history_report_about {report : LintReport}
    (h : registry.historyReport kind ladder = .ok report) :
    report.kind = kind ∧ report.implementation = none := by
  obtain ⟨warnings, -, h⟩ := bind_eq_ok.mp h
  rw [← pure_eq_ok.mp h]
  exact ⟨rfl, rfl⟩

theorem support_report_about {i : Implementation} {report : LintReport}
    (h : registry.supportReport kind i ladder = .ok report) :
    report.kind = kind ∧ report.implementation = some i := by
  obtain ⟨warnings, -, h⟩ := bind_eq_ok.mp h
  rw [← pure_eq_ok.mp h]
  exact ⟨rfl, rfl⟩

/-- A lint has one report about each history. -/
theorem lint_history {reports : List LintReport} (h : registry.lint ladder = .ok reports)
    (kind : Kind) : ∃ report, registry.historyReport kind ladder = .ok report ∧
      reports.filter (·.isAbout kind none) = [report] := by
  obtain ⟨history, support, hhistory, hsupport, rfl⟩ := lint_eq_ok h
  refine ⟨history kind, hhistory kind, ?_⟩
  have hh := fun k => history_report_about (hhistory k)
  have hs := fun k i => support_report_about (hsupport k i)
  cases kind <;> simp [Kind.all, Implementation.all, LintReport.isAbout, hh, hs]

/-- A lint has one report about each implementation's support of a kind. -/
theorem lint_support {reports : List LintReport} (h : registry.lint ladder = .ok reports)
    (kind : Kind) (i : Implementation) :
    ∃ report, registry.supportReport kind i ladder = .ok report ∧
      reports.filter (·.isAbout kind (some i)) = [report] := by
  obtain ⟨history, support, hhistory, hsupport, rfl⟩ := lint_eq_ok h
  refine ⟨support kind i, hsupport kind i, ?_⟩
  have hh := fun k => history_report_about (hhistory k)
  have hs := fun k i => support_report_about (hsupport k i)
  cases kind <;> cases i <;> simp [Kind.all, Implementation.all, LintReport.isAbout, hh, hs]

end Registry
end FeatureTest
