import AccessLog.Demo
import AccessLog.Json.Reader
import AccessLog.Logger.Options
import AccessLog.Logger.Service
import AccessLog.Proofs.Exchange.Transparency
import AccessLog.Proofs.Field.Fault
import AccessLog.Proofs.Format.Grammar
import AccessLog.Proofs.Format.Parse
import AccessLog.Proofs.Number.Nearest
import AccessLog.Proofs.Plan.Reading
import AccessLog.Proofs.Plan.Retrieval
import AccessLog.Proofs.Plan.Sharing
import AccessLog.Proofs.Address.Grammar
import AccessLog.Proofs.Address.Client
import AccessLog.Proofs.Exchange.Interleaving
import AccessLog.Proofs.Plan.Phases
import AccessLog.Proofs.Format.Normal
import AccessLog.Proofs.Plan.Filling
import AccessLog.Proofs.Palette.Sequence
import AccessLog.Proofs.Plan.Painting
import AccessLog.Proofs.Latch.OneShot
import AccessLog.Proofs.Calendar.DayNumber
import AccessLog.Proofs.Calendar.Instant
import AccessLog.Proofs.Field.Bytes
import AccessLog.Proofs.Field.Carry
import AccessLog.Proofs.Number.Rounds
import AccessLog.Proofs.Field.Stopwatch
import AccessLog.Proofs.Exchange.Headers
import AccessLog.Proofs.Number.Grouped
import AccessLog.Proofs.Exchange.Explicit
import AccessLog.Proofs.Journal.Line
