import FeatureTest.Main
import FeatureTest.World
import FeatureTest.Proofs.Acceptance
import FeatureTest.Proofs.Guard
import FeatureTest.Proofs.TestReading
import FeatureTest.Proofs.FirstMatch
import FeatureTest.Proofs.Preprocessor
import FeatureTest.Proofs.RenderedLines
import FeatureTest.Proofs.RenderedMeaning
import FeatureTest.Proofs.Admission
import FeatureTest.Proofs.Gate
import FeatureTest.Proofs.WellFormed
import FeatureTest.Proofs.TimelineOrder
import FeatureTest.Proofs.TokenLayout
import FeatureTest.Proofs.TextCleaning
import FeatureTest.Proofs.HeaderLines
import FeatureTest.Proofs.DefinitionPrinting
import FeatureTest.Proofs.Comments
import FeatureTest.Proofs.Expression
import FeatureTest.Proofs.ConfigurationCondition
import FeatureTest.Proofs.Grammar
import FeatureTest.Proofs.ImportFrame
import FeatureTest.Proofs.ImportedSupport
import FeatureTest.Proofs.Announcement
import FeatureTest.Proofs.TreeTests
import FeatureTest.Proofs.BlockNesting
import FeatureTest.Proofs.StandardTest
import FeatureTest.Proofs.LintReports
import FeatureTest.Proofs.Withdrawal
import FeatureTest.Proofs.TableMarks
import FeatureTest.Proofs.TimelineWarnings
import FeatureTest.Proofs.PaperTrail
import FeatureTest.Proofs.RunCoverage
import FeatureTest.Proofs.Wikitable
import FeatureTest.Proofs.SpanGrid
import FeatureTest.Proofs.TableRows
import FeatureTest.Proofs.TableGrid
import FeatureTest.Proofs.ListedOptions
import FeatureTest.Proofs.WriterRuns
import FeatureTest.Proofs.WrittenFiles
import FeatureTest.Proofs.WorkSteps
import FeatureTest.Proofs.RunDiagnostics
import FeatureTest.Proofs.CheckRuns
import FeatureTest.Proofs.DryRun
import FeatureTest.Proofs.SafeImport
import FeatureTest.Proofs.StaleValues
import FeatureTest.Proofs.LadderShape
import FeatureTest.Proofs.FallbackChain
import FeatureTest.Proofs.ToggleSpelling
import FeatureTest.Proofs.TokenText
import FeatureTest.Proofs.NameBreak
