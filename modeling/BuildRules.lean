import BuildRules.Analysis.Operation
import BuildRules.Form.Writing
import BuildRules.Main
import BuildRules.Proofs.Declarations
import BuildRules.Proofs.Resolution
import BuildRules.Proofs.AnalysisHistory
import BuildRules.Proofs.Runs
import BuildRules.Proofs.OwnedRecords
import BuildRules.Proofs.DependencyRuns
import BuildRules.Proofs.FilesetRuns
import BuildRules.Proofs.ContextRuns
import BuildRules.Proofs.ContextConfigurations
import BuildRules.Proofs.ContextLabels
import BuildRules.Proofs.LoadedTargets
import BuildRules.Proofs.LoadCoverage
import BuildRules.Proofs.LoadedRules
import BuildRules.Proofs.PathComponents
import BuildRules.Proofs.TextCuts
import BuildRules.Proofs.Expansion
import BuildRules.Proofs.LabelGrammar
import BuildRules.Proofs.SpecificationGrammar
import BuildRules.Proofs.CacheKeys
import BuildRules.Proofs.Visibility
import BuildRules.Proofs.CleanChecks
import BuildRules.Proofs.ContextReports
import BuildRules.Proofs.ForeignSources
import BuildRules.Proofs.LocalAnalysis
import BuildRules.Proofs.OutputPlaces
import BuildRules.Proofs.Histories
import BuildRules.Proofs.FilesetEntries
import BuildRules.Proofs.WordFaults
import BuildRules.Proofs.AttributeWords
import BuildRules.Proofs.QuotedWords
import BuildRules.Proofs.WellFormedClasses
import BuildRules.Proofs.AttributeValues
import BuildRules.Proofs.WrittenValues
import BuildRules.Proofs.Strictness
import BuildRules.Proofs.DependencyChains
import BuildRules.Proofs.SingleReferences
import BuildRules.Proofs.CollectedArtifacts
import BuildRules.Proofs.RenderedTexts
import BuildRules.Proofs.SerialForms
import BuildRules.Proofs.GrowingRecords
import BuildRules.Proofs.ContainedPaths
import BuildRules.Proofs.Extensions
