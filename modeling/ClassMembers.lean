import ClassMembers.Annotations.Rendering
import ClassMembers.Annotations.Usages
import ClassMembers.Attribute.Basic
import ClassMembers.Attribute.Decoding
import ClassMembers.Attribute.Index
import ClassMembers.ClassError
import ClassMembers.ClassFile
import ClassMembers.Comments
import ClassMembers.Decimal.Binary
import ClassMembers.Decimal.Layout
import ClassMembers.Decimal.Shortest
import ClassMembers.Emission
import ClassMembers.Field
import ClassMembers.Flags
import ClassMembers.Literal
import ClassMembers.LocalClasses
import ClassMembers.Member.Context
import ClassMembers.Member.Error
import ClassMembers.Method.Basic
import ClassMembers.Method.Body
import ClassMembers.Method.Rendering
import ClassMembers.Namer
import ClassMembers.Pool.Basic
import ClassMembers.Pool.Entry
import ClassMembers.Pool.Reading
import ClassMembers.Proofs.Attribute.Format
import ClassMembers.Proofs.Attribute.Framing
import ClassMembers.Proofs.Attribute.RoundTrip
import ClassMembers.Proofs.ClassFile.RoundTrip
import ClassMembers.Proofs.ClassFile.SelfDelimiting
import ClassMembers.Proofs.Pool.RoundTrip
import ClassMembers.Proofs.Reader.Framing
import ClassMembers.Proofs.Reader.Written
import ClassMembers.Proofs.Signature.Acceptance
import ClassMembers.Proofs.Signature.Correctness
import ClassMembers.Proofs.Signature.Grammar
import ClassMembers.Proofs.Signature.Printing
import ClassMembers.Proofs.Signature.Scanning
import ClassMembers.Proofs.Signature.Unambiguous
import ClassMembers.Prototype
import ClassMembers.Reader.Basic
import ClassMembers.Reader.Cursor
import ClassMembers.Record
import ClassMembers.Rendering.Call
import ClassMembers.Rendering.Declaration
import ClassMembers.Signature.FieldType
import ClassMembers.Signature.Method
import ClassMembers.Signature.Scanner
import ClassMembers.Text.Quoted
import ClassMembers.Text.Utf8
import ClassMembers.Type.Basic
import ClassMembers.Type.ClassName
import ClassMembers.Type.Erasure
import ClassMembers.Type.Mentions
import ClassMembers.Type.Text
import ClassMembers.Unicode.Letters
import ClassMembers.Unicode.Printable
import ClassMembers.Unicode.Ranges
import ClassMembers.Usage
import ClassMembers.Version
import ClassMembers.Visibility
import ClassMembers.Proofs.Prototype.Reconciliation
import ClassMembers.Proofs.Prototype.Slots
import ClassMembers.Proofs.Prototype.EnumConstructor
import ClassMembers.Proofs.Method.History
import ClassMembers.Proofs.Method.LifeCycle
import ClassMembers.Proofs.Attribute.Containment
import ClassMembers.Proofs.Usage.Annotations
import ClassMembers.Proofs.Member.Parts
import ClassMembers.Proofs.Usage.Collection
import ClassMembers.Proofs.Usage.Coverage
import ClassMembers.Proofs.Attribute.Order
import ClassMembers.Proofs.LocalClasses
import ClassMembers.Proofs.Member.Written
import ClassMembers.Proofs.Method.Order
import ClassMembers.Proofs.Member.Order
import ClassMembers.Proofs.Method.Laziness
import ClassMembers.Proofs.LocalClasses.Additivity
import ClassMembers.Proofs.Reader.Advancing
import ClassMembers.Proofs.Reader.Position
import ClassMembers.Proofs.Method.Requests
import ClassMembers.Proofs.Method.ThrownTypes
import ClassMembers.Proofs.Type.Bounds
import ClassMembers.Proofs.Signature.Descriptors
import ClassMembers.Proofs.Type.WrittenBounds
import ClassMembers.Proofs.Type.NestedNames
import ClassMembers.Proofs.Pool.Numbering
import ClassMembers.Proofs.Method.States
import ClassMembers.Proofs.Method.DeclaredExceptions
import ClassMembers.Proofs.Method.ParameterList
import ClassMembers.Proofs.Signature.Bytes
import ClassMembers.Proofs.Signature.Following
import ClassMembers.Proofs.Signature.Finality
import ClassMembers.Proofs.Visibility.Nesting
import ClassMembers.Proofs.Visibility.Access
import ClassMembers.Proofs.Usage.Constants
import ClassMembers.Proofs.LocalClasses.ArrayNames
import ClassMembers.Proofs.Text.Utf16
import ClassMembers.Proofs.Literal.Source
import ClassMembers.Proofs.Literal.ReadBack
import ClassMembers.Proofs.FirstOccurrences
import ClassMembers.Proofs.Attribute.Index
import ClassMembers.Proofs.Usage.FirstSeen
import ClassMembers.Proofs.Method.TakenBody
import ClassMembers.Proofs.Field.Disambiguation
import ClassMembers.Proofs.Prototype.DistinctNames
import ClassMembers.Proofs.Visibility.Reachability
import ClassMembers.Proofs.Field.Constant
import ClassMembers.Proofs.Member.NamedOnce
