import TableShell.Main
import TableShell.Proofs.Conformance
import TableShell.Proofs.History
import TableShell.Proofs.Ledger
import TableShell.Proofs.Replay
import TableShell.Proofs.Stability
import TableShell.Proofs.Lookup
import TableShell.Proofs.Spelling
import TableShell.Proofs.Splitting
import TableShell.Proofs.Upkeep
import TableShell.Proofs.Writing
import TableShell.Proofs.Snapshots
import TableShell.Proofs.Naming
import TableShell.Proofs.Narrowing
import TableShell.Proofs.Scripts
import TableShell.Proofs.Rearranging
import TableShell.Proofs.Printing
import TableShell.Proofs.Grouping
import TableShell.Proofs.Changes
import TableShell.Proofs.Commuting
import TableShell.Proofs.Columns
import TableShell.Proofs.Dates
import TableShell.Proofs.Comparison
import TableShell.Proofs.Declarations
import TableShell.Proofs.Blankness
import TableShell.Proofs.Regrouping
