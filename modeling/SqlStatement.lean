import SqlStatement.Binary64
import SqlStatement.Config.Load
import SqlStatement.Inspect
import SqlStatement.Main
import SqlStatement.Proofs.ClauseOrder
import SqlStatement.Proofs.Filters
import SqlStatement.Proofs.Identity
import SqlStatement.Proofs.JsonLines
import SqlStatement.Proofs.QuerySteps
import SqlStatement.Run
import SqlStatement.Trace
import SqlStatement.Proofs.Acceptance
import SqlStatement.Proofs.Items
import SqlStatement.Proofs.OptionGroups
import SqlStatement.Proofs.Restoration
import SqlStatement.Proofs.Selection
import SqlStatement.Proofs.PlainLines
import SqlStatement.Proofs.FirstRule
import SqlStatement.Proofs.NameSets
import SqlStatement.Proofs.Spellings
import SqlStatement.Proofs.ValidSets
import SqlStatement.Proofs.Events
import SqlStatement.Proofs.Numerals
import SqlStatement.Proofs.Verbosity
import SqlStatement.Proofs.RowCounts
import SqlStatement.Proofs.ItemLists
import SqlStatement.Proofs.Records
import SqlStatement.Proofs.WrittenConfig
import SqlStatement.Proofs.AddedKeys
import SqlStatement.Proofs.Surplus
