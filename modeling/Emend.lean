import Emend.FileRun
import Emend.Proofs.Batch.Concatenation
import Emend.Proofs.Batch.Deletion
import Emend.Proofs.Batch.Interrupted
import Emend.Proofs.Batch.Partition
import Emend.Proofs.Batch.Point
import Emend.Proofs.Batch.ReadBack
import Emend.Proofs.Batch.Reordering
import Emend.Proofs.Batch.Report
import Emend.Proofs.Batch.Script
import Emend.Proofs.Batch.SignedShift
import Emend.Proofs.Config.Levels
import Emend.Proofs.Config.ReadsBack
import Emend.Proofs.Document.Atomic
import Emend.Proofs.Document.LineText
import Emend.Proofs.FileRun.Aborted
import Emend.Proofs.FileRun.Accounting
import Emend.Proofs.FileRun.Confined
import Emend.Proofs.FileRun.Fates
import Emend.Proofs.FileRun.Priority
import Emend.Proofs.FileRun.Schedules
import Emend.Proofs.FileRun.Settled
import Emend.Proofs.FileRun.Severities
import Emend.Proofs.FileRun.Spans
import Emend.Proofs.Json.Records
import Emend.Proofs.Loop.Period
import Emend.Proofs.Registry.Growth
import Emend.Proofs.Resolution.Partition
import Emend.Proofs.Resolution.Plain
import Emend.Proofs.Resolution.Point
import Emend.Proofs.Resolution.Policies
import Emend.Proofs.Resolution.Seam
