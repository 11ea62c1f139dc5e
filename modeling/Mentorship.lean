import Mentorship.Command.Program
import Mentorship.Main
import Mentorship.Proofs.Command.Refusals
import Mentorship.Proofs.Matching.Alignment
import Mentorship.Proofs.Matching.Classification
import Mentorship.Proofs.Matching.ColumnOrder
import Mentorship.Proofs.Matching.Completion
import Mentorship.Proofs.Matching.Exports
import Mentorship.Proofs.Matching.Independence
import Mentorship.Proofs.Matching.Occupancy
import Mentorship.Proofs.Matching.OwnColumns
import Mentorship.Proofs.Matching.Plan
import Mentorship.Proofs.Matching.PoolOrder
import Mentorship.Proofs.Matching.Progress
import Mentorship.Proofs.Matching.Selection
import Mentorship.Proofs.Matching.Spellings
import Mentorship.Proofs.Matching.StageCounts
import Mentorship.Proofs.Matching.TieBreak
import Mentorship.Proofs.Matching.Twins
import Mentorship.Proofs.NaturalTokens
import Mentorship.Proofs.Policy.Aliases
import Mentorship.Proofs.Policy.Sessions
import Mentorship.Proofs.Policy.Versions
import Mentorship.Proofs.Policy.WellFormed
import Mentorship.Proofs.Registration.Clashes
import Mentorship.Proofs.Registration.Exhaustion
import Mentorship.Proofs.Registration.Rereading
import Mentorship.Proofs.Registration.Rerunning
import Mentorship.Proofs.Registration.RowOrder
import Mentorship.Proofs.Registration.YearlyRuns
import Mentorship.Proofs.Sheet.File
