import KeyPath.ChildStep
import KeyPath.Comparison
import KeyPath.Fault
import KeyPath.Json.Forms
import KeyPath.Json.Token
import KeyPath.Json.Value
import KeyPath.KeyKind
import KeyPath.Path.Basic
import KeyPath.Path.Format
import KeyPath.Path.Order
import KeyPath.Path.Parse
import KeyPath.Purpose.Basic
import KeyPath.Purpose.Text
import KeyPath.Record
import KeyPath.Segment.Basic
import KeyPath.Segment.Format
import KeyPath.Segment.Parse
import KeyPath.Session.Run
import KeyPath.Session.Step
import KeyPath.Text.Blank
import KeyPath.Text.CaseTable
import KeyPath.Text.Decimal
import KeyPath.Text.FormatSpec
import KeyPath.Text.Layout
import KeyPath.Text.LowerCase
import KeyPath.Text.Pieces
import KeyPath.Text.Scan
import KeyPath.Wire.Forms
import KeyPath.Wire.LittleEndian
import KeyPath.Proofs.Fault.Messages
import KeyPath.Proofs.Json.Cutting
import KeyPath.Proofs.Json.Grammar
import KeyPath.Proofs.Json.Spelling
import KeyPath.Proofs.Json.Units
import KeyPath.Proofs.Path.Ancestors
import KeyPath.Proofs.Path.ByteCode
import KeyPath.Proofs.Path.Canonical
import KeyPath.Proofs.Path.ChildSteps
import KeyPath.Proofs.Path.Extension
import KeyPath.Proofs.Path.Joining
import KeyPath.Proofs.Path.JsonShape
import KeyPath.Proofs.Path.Language
import KeyPath.Proofs.Path.Order
import KeyPath.Proofs.Path.Padding
import KeyPath.Proofs.Path.Piecewise
import KeyPath.Proofs.Path.Refusal
import KeyPath.Proofs.Path.RoundTrip
import KeyPath.Proofs.Path.Sorting
import KeyPath.Proofs.Path.StoredForms
import KeyPath.Proofs.Path.Subtree
import KeyPath.Proofs.Pointwise
import KeyPath.Proofs.Purpose.Detection
import KeyPath.Proofs.Purpose.Reading
import KeyPath.Proofs.Segment.Canonical
import KeyPath.Proofs.Segment.JsonText
import KeyPath.Proofs.Segment.Language
import KeyPath.Proofs.Segment.Order
import KeyPath.Proofs.Segment.Packing
import KeyPath.Proofs.Segment.Refusal
import KeyPath.Proofs.Segment.Written
import KeyPath.Proofs.Session.KindBlind
import KeyPath.Proofs.Session.Log
import KeyPath.Proofs.Session.PlainMachine
import KeyPath.Proofs.Session.Refinement
import KeyPath.Proofs.Session.Traceless
import KeyPath.Proofs.Text.Cutting
import KeyPath.Proofs.Text.Lowering
import KeyPath.Proofs.Text.Scanning
import KeyPath.Proofs.Text.Trimming
