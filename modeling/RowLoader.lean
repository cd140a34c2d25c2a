import RowLoader.Service.Web
import RowLoader.Main
import RowLoader.Proofs.Transaction
import RowLoader.Proofs.Addressing
import RowLoader.Proofs.Insertions
import RowLoader.Proofs.Ingestion
import RowLoader.Proofs.Preparation
import RowLoader.Proofs.Rendering
import RowLoader.Proofs.Changes
import RowLoader.Proofs.KeyedRecords
import RowLoader.Proofs.KeyedUpdates
import RowLoader.Proofs.Reruns
import RowLoader.Proofs.Reordering
import RowLoader.Proofs.HeaderPlacement
import RowLoader.Proofs.Chunks
import RowLoader.Proofs.Diagnostics
import RowLoader.Proofs.KeyChecks
import RowLoader.Proofs.Separators
import RowLoader.Proofs.Accounts
import RowLoader.Proofs.LookUps
import RowLoader.Proofs.KeyedEffects
import RowLoader.Proofs.SystemColumns
import RowLoader.Proofs.MalformedText
import RowLoader.Proofs.StatementTexts
import RowLoader.Proofs.StoredAmounts
import RowLoader.Proofs.RefusedNames
import RowLoader.Proofs.WrittenTimes
import RowLoader.Proofs.WrittenTokens
import RowLoader.Proofs.LineSegments
import RowLoader.Proofs.TemplatePages
import RowLoader.Proofs.RememberedColumns
import RowLoader.Proofs.DrawnKeys
import RowLoader.Proofs.DegradedTokens
import RowLoader.Proofs.NamedOwners
