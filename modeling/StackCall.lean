import StackCall.Main
import StackCall.Sharing
import StackCall.Proofs.Binding.Checks
import StackCall.Proofs.Binding.Failure
import StackCall.Proofs.Binding.Violation
import StackCall.Proofs.Declaration
import StackCall.Proofs.Defect
import StackCall.Proofs.Dict
import StackCall.Proofs.Binding.Names
import StackCall.Proofs.Binding.Bound
import StackCall.Proofs.Binding.Ambiguity
import StackCall.Proofs.Binding.Conventions
import StackCall.Proofs.Binding.Diagnosis
import StackCall.Proofs.Binding.Extension
import StackCall.Proofs.Binding.Getters
import StackCall.Proofs.Binding.Locality
import StackCall.Proofs.Binding.Resolution
import StackCall.Proofs.Builtin.Contract
import StackCall.Proofs.Builtin.Rounding
import StackCall.Proofs.Builtin.Nearest
import StackCall.Proofs.Documentation
import StackCall.Proofs.Macro
import StackCall.Proofs.Json.Scalar
import StackCall.Proofs.Json.Container
import StackCall.Proofs.Json.Reading
import StackCall.Proofs.Json.Conversion
import StackCall.Proofs.Json.Finite
import StackCall.Proofs.Json.Operand
import StackCall.Proofs.Text.Order
import StackCall.Proofs.Text.Pieces
import StackCall.Proofs.Registry
import StackCall.Proofs.Number.Binary
import StackCall.Proofs.Number.Packing
import StackCall.Proofs.Number.Exact
import StackCall.Proofs.Number.Neighbourhood
import StackCall.Proofs.Number.Reading
import StackCall.Proofs.Number.Arithmetic
import StackCall.Proofs.Number.Order
import StackCall.Proofs.Number.Integers
import StackCall.Proofs.Number.Nearest
import StackCall.Proofs.Number.Reciprocal
import StackCall.Proofs.Number.Rounding
import StackCall.Proofs.Literal.Quoting
import StackCall.Proofs.Literal.Token
import StackCall.Proofs.Literal.Unambiguous
import StackCall.Proofs.Literal.Composed
import StackCall.Proofs.Literal.Percent
import StackCall.Proofs.Literal.Printable
import StackCall.Proofs.Listing
import StackCall.Proofs.CommandLine
import StackCall.Proofs.Parameters
import StackCall.Proofs.Builtin.Padding
import StackCall.Proofs.Literal.Part
import StackCall.Proofs.Literal.Point
import StackCall.Proofs.Number.Overflow
import StackCall.Proofs.Json.Numeral
import StackCall.Proofs.Json.Integer
