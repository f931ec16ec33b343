import DocGuard.Lookback.Grammar
import DocGuard.Main
import DocGuard.Proofs.Lookback.Search
import DocGuard.Proofs.Dispatch.Reports
import DocGuard.Proofs.Dispatch.History
import DocGuard.Proofs.Lookback.Nesting
import DocGuard.Proofs.Dispatch.DocComments
import DocGuard.Proofs.Dispatch.Extension
import DocGuard.Proofs.Lookback.Passage
import DocGuard.Proofs.Dispatch.Repair
import DocGuard.Proofs.Report.Recording
import DocGuard.Proofs.RuleSet.Rules
import DocGuard.Proofs.Scan.Findings
import DocGuard.Proofs.Scan.Selection
import DocGuard.Proofs.Number.Decimal
import DocGuard.Proofs.Report.Written
import DocGuard.Proofs.Report.Views
import DocGuard.Proofs.Report.Recorder
import DocGuard.Proofs.Report.Interleaving
import DocGuard.Proofs.Report.Listing
import DocGuard.Proofs.Path.Text
import DocGuard.Proofs.Discovery.Sources
import DocGuard.Proofs.Scan.SourceOrder
import DocGuard.Proofs.Dump.Faults
import DocGuard.Proofs.Dump.Spelling
import DocGuard.Proofs.Kind.Spelling
import DocGuard.Proofs.Dispatch.Concatenation
import DocGuard.Proofs.FileTree.Entries
import DocGuard.Proofs.FileTree.Saving
import DocGuard.Proofs.Scan.Multiplicity
import DocGuard.Proofs.CommandLine.Effects
import DocGuard.Proofs.Lookback.Outcome
import DocGuard.Proofs.Dispatch.Locality
import DocGuard.Proofs.Dispatch.Widening
import DocGuard.Proofs.Dispatch.Registration
import DocGuard.Proofs.Report.Shown
import DocGuard.Proofs.RuleSet.Grading
import DocGuard.Proofs.RuleSet.Objections
import DocGuard.Proofs.RuleSet.Rejection
import DocGuard.Proofs.Dump.Positions
import DocGuard.Proofs.CommandLine.InvalidDumps
import DocGuard.Proofs.Dump.Forms
import DocGuard.Proofs.Discovery.Exactness
import DocGuard.Proofs.Lookback.Matching
import DocGuard.Proofs.Lookback.Indexed
import DocGuard.Proofs.Dispatch.Bounds
