import Embedder.Attempt
import Embedder.Binary.Encoder
import Embedder.Binary.Instruction
import Embedder.Binary.Instruction.Reader
import Embedder.Binary.Leb128
import Embedder.Binary.Primitive
import Embedder.Binary.Section
import Embedder.BindError
import Embedder.Binder
import Embedder.Callable
import Embedder.External
import Embedder.HostType
import Embedder.Ieee.Decimal
import Embedder.Ieee.Format
import Embedder.Ieee.Literal
import Embedder.Ieee.Shortest
import Embedder.Import
import Embedder.ImportTable
import Embedder.Instruction
import Embedder.Method
import Embedder.Method.Reader
import Embedder.Opcode
import Embedder.Opcode.Lemmas
import Embedder.Reader
import Embedder.Session
import Embedder.Shape
import Embedder.Signature
import Embedder.Text.Digits
import Embedder.Text.Import
import Embedder.Text.Import.Reader
import Embedder.Text.Instruction
import Embedder.Text.Instruction.Reader
import Embedder.Text.Layout
import Embedder.Text.Quoted
import Embedder.Text.Shown
import Embedder.Text.Token
import Embedder.Trap
import Embedder.Value
import Embedder.ValueType
import Embedder.Proofs.Binary.Instruction
import Embedder.Proofs.Binary.Leb128
import Embedder.Proofs.Binary.Primitive
import Embedder.Proofs.Binary.Section
import Embedder.Proofs.Binary.Tables
import Embedder.Proofs.Binder
import Embedder.Proofs.Binder.Described
import Embedder.Proofs.Binder.Events
import Embedder.Proofs.Binder.Faults
import Embedder.Proofs.Binder.Resolved
import Embedder.Proofs.Call
import Embedder.Proofs.Call.Checked
import Embedder.Proofs.Call.Honours
import Embedder.Proofs.Call.Typed
import Embedder.Proofs.Except
import Embedder.Proofs.HostType
import Embedder.Proofs.Ieee.Decimal
import Embedder.Proofs.Ieee.Format
import Embedder.Proofs.Ieee.Literal
import Embedder.Proofs.Ieee.Nearest
import Embedder.Proofs.ImportTable.AddedTypes
import Embedder.Proofs.ImportTable.Answers
import Embedder.Proofs.ImportTable.Calls
import Embedder.Proofs.ImportTable.Encoding
import Embedder.Proofs.ImportTable.Invariant
import Embedder.Proofs.ImportTable.Layout
import Embedder.Proofs.ImportTable.Run
import Embedder.Proofs.ImportTable.Unencodable
import Embedder.Proofs.Instruction
import Embedder.Proofs.Instruction.Equality
import Embedder.Proofs.Method
import Embedder.Proofs.Reader
import Embedder.Proofs.Session
import Embedder.Proofs.Signature
import Embedder.Proofs.Text.Alike
import Embedder.Proofs.Text.Constant
import Embedder.Proofs.Text.Digits
import Embedder.Proofs.Text.Import
import Embedder.Proofs.Text.Instruction
import Embedder.Proofs.Text.Quoted
import Embedder.Proofs.Text.Token
