import CaseKeys.Main
import CaseKeys.Proofs.CommandLine.Flags
import CaseKeys.Proofs.CommandLine.Groups
import CaseKeys.Proofs.CommandLine.Rules
import CaseKeys.Proofs.Key.CamelReading
import CaseKeys.Proofs.Key.CamelStability
import CaseKeys.Proofs.Key.Concatenation
import CaseKeys.Proofs.Key.Conservation
import CaseKeys.Proofs.Key.Formats
import CaseKeys.Proofs.Key.Growth
import CaseKeys.Proofs.Key.SnakeReading
import CaseKeys.Proofs.KeyFormat.Spellings
import CaseKeys.Proofs.KeyTable.Counting
import CaseKeys.Proofs.KeyTable.Escaping
import CaseKeys.Proofs.KeyTable.History
import CaseKeys.Proofs.KeyTable.Lookups
import CaseKeys.Proofs.Log.Counts
import CaseKeys.Proofs.Log.Printing
import CaseKeys.Proofs.Report.Lines
import CaseKeys.Proofs.Report.Lossless
import CaseKeys.Proofs.Session.Totals
import CaseKeys.Proofs.Source.Loading
import CaseKeys.Proofs.Words.Vocabulary
