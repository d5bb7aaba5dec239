import TraceScope.Inventory.Query
import TraceScope.Main
import TraceScope.Web.Upload
import TraceScope.Proofs.OpenInventories
import TraceScope.Proofs.Finalization
import TraceScope.Proofs.Emission
import TraceScope.Proofs.Records
import TraceScope.Proofs.Resolution
import TraceScope.Proofs.Processing
import TraceScope.Proofs.Independence
import TraceScope.Proofs.Counting
import TraceScope.Proofs.Refusal
import TraceScope.Proofs.Interleaving
import TraceScope.Proofs.Schedule
import TraceScope.Proofs.Remembering
import TraceScope.Proofs.Streaming
import TraceScope.Proofs.Surfaces
import TraceScope.Proofs.Growth
import TraceScope.Proofs.Settings
import TraceScope.Proofs.Tuning
import TraceScope.Proofs.Accounting
import TraceScope.Proofs.Calls
import TraceScope.Proofs.Reordering
import TraceScope.Proofs.Reporting
import TraceScope.Proofs.Detection
import TraceScope.Proofs.Entries
import TraceScope.Proofs.Gregorian
import TraceScope.Proofs.Minutes
import TraceScope.Proofs.DocumentOrder
import TraceScope.Proofs.Demands
import TraceScope.Proofs.RoundTrip
import TraceScope.Proofs.Rejection
import TraceScope.Proofs.Answering
import TraceScope.Proofs.Origins
import TraceScope.Proofs.Uploads
import TraceScope.Proofs.WrittenNumbers
import TraceScope.Proofs.WrittenTexts
import TraceScope.Proofs.WrittenDocuments
import TraceScope.Proofs.ShortestDigits
import TraceScope.Proofs.Steady
import TraceScope.Proofs.Outputs
