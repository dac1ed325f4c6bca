import EdiSchema.Archive
import EdiSchema.Config
import EdiSchema.Conversion.Document
import EdiSchema.Package.Codec
import EdiSchema.Package.Cursor
import EdiSchema.Package.Walk
import EdiSchema.Proofs.Annotations
import EdiSchema.Proofs.Growth
import EdiSchema.Proofs.Preorder
import EdiSchema.Proofs.Mirror
import EdiSchema.Proofs.Classes
import EdiSchema.Proofs.Policies
import EdiSchema.Proofs.Faults
import EdiSchema.Proofs.Exploration
import EdiSchema.Proofs.Connected
import EdiSchema.Proofs.Reading
import EdiSchema.Proofs.Recovery
import EdiSchema.Proofs.JsonReading
import EdiSchema.Proofs.ReadBack
import EdiSchema.Proofs.Frame
import EdiSchema.Proofs.Index
import EdiSchema.Proofs.Histories
import EdiSchema.Proofs.Repetition
import EdiSchema.Proofs.Agreement
import EdiSchema.Proofs.Navigation
import EdiSchema.Proofs.Archives
import EdiSchema.Proofs.Sharing
import EdiSchema.Proofs.Names
import EdiSchema.Proofs.Paths
import EdiSchema.Proofs.Writes
import EdiSchema.Proofs.Stopping
import EdiSchema.Proofs.Patterns
import EdiSchema.Proofs.ArchiveRuns
import EdiSchema.Proofs.SegmentCodes
import EdiSchema.Proofs.Merging
import EdiSchema.Proofs.ReferenceNames
import EdiSchema.Proofs.Idempotence
import EdiSchema.Proofs.Configurations
