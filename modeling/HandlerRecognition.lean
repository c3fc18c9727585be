import HandlerRecognition.Log.Run
import HandlerRecognition.Session
import HandlerRecognition.Opcode.Encoding
import HandlerRecognition.Instruction.Text
import HandlerRecognition.Template.Text
import HandlerRecognition.Resolution.Table
import HandlerRecognition.Proofs.Instruction.Equality
import HandlerRecognition.Proofs.Metadata.Consistency
import HandlerRecognition.Proofs.Metadata.Inclusion
import HandlerRecognition.Proofs.Matching.Similarity
import HandlerRecognition.Proofs.Matching.Agreement
import HandlerRecognition.Proofs.Matching.Inclusion
import HandlerRecognition.Proofs.Resolution.Grouping
import HandlerRecognition.Proofs.Resolution.Recording
import HandlerRecognition.Proofs.Resolution.Trials
import HandlerRecognition.Proofs.Resolution.Content
import HandlerRecognition.Proofs.Resolution.Insensitivity
import HandlerRecognition.Proofs.Resolution.SameBody
import HandlerRecognition.Proofs.Resolution.Order
import HandlerRecognition.Proofs.Resolution.Specification
import HandlerRecognition.Proofs.Resolution.Unambiguous
import HandlerRecognition.Proofs.Resolution.Comparison
import HandlerRecognition.Proofs.Resolution.Depth
import HandlerRecognition.Proofs.Resolution.Extension
import HandlerRecognition.Proofs.Resolution.Registration
import HandlerRecognition.Proofs.Instruction.Renumbering
import HandlerRecognition.Proofs.Matching.Renumbering
import HandlerRecognition.Proofs.Resolution.Renumbering
import HandlerRecognition.Proofs.Resolution.Interchange
import HandlerRecognition.Proofs.Resolution.MoreMetadata
import HandlerRecognition.Proofs.Opcode.Decoding
import HandlerRecognition.Proofs.Resolution.Delegating
import HandlerRecognition.Proofs.Log.Accounting
import HandlerRecognition.Proofs.Catalog.Building
import HandlerRecognition.Proofs.Metadata.FullName
import HandlerRecognition.Proofs.Resolution.FieldHandle
import HandlerRecognition.Proofs.Resolution.Wrapping
import HandlerRecognition.Proofs.Matching.Locality
import HandlerRecognition.Proofs.Resolution.Surrounding
import HandlerRecognition.Proofs.Metadata.Examination
import HandlerRecognition.Proofs.Metadata.Index
import HandlerRecognition.Proofs.Matching.Placement
import HandlerRecognition.Proofs.Matching.Location
import HandlerRecognition.Proofs.Matching.Occurrence
import HandlerRecognition.Proofs.Matching.Widening
import HandlerRecognition.Proofs.Matching.Descent
import HandlerRecognition.Proofs.Matching.Alignment
import HandlerRecognition.Proofs.Matching.Operand
