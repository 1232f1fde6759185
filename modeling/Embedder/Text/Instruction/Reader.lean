import Embedder.Text.Instruction

/-!
Reading instructions in the text format. What is not written takes its default: a block has no
result, an offset is zero, a memory is the first, and an alignment is the natural one of the load or
store.
-/

namespace Embedder

namespace Text

def readIndex : Reader Token UInt32 := do
  Reader.ofOption (Token.index? (← Reader.next))

/-- All the indices in front. -/
def readIndices : List Token → List UInt32 × List Token
  | [] => ([], [])
  | t :: rest =>
    match Token.index? t with
    | some i =>
      let (is, rest) := readIndices rest
      (i :: is, rest)
    | none => ([], t :: rest)

/-- The last index of a branch table is the label for all other operands. -/
def readBranchTable : Reader Token BranchTable := fun tokens =>
  let (is, rest) := readIndices tokens
  is.getLast?.map fun otherwise => (⟨is.dropLast, otherwise⟩, rest)

/-- A block without a result leaves nothing. -/
def readBlock : Reader Token (Option ValueType)
  | .opening :: .word "result" :: t :: .closing :: rest =>
    (Token.type? t).map fun t => (some t, rest)
  | rest => some (none, rest)

/-- The number of a word that begins with the given key, the default where there is no such word. -/
def readKeyed (key : String) (default : Nat) : Reader Token Nat
  | .word text :: rest =>
    if text.toList.take key.length = key.toList then
      (decimal? (text.toList.drop key.length)).map fun n => (n, rest)
    else some (default, .word text :: rest)
  | rest => some (default, rest)

/-- An offset that is not written is zero, an alignment that is not written the natural one. -/
def readMemArg (naturalAlign : Nat) : Reader Token MemArg := do
  let offset ← readKeyed "offset=" 0
  let align ← readKeyed "align=" (1 <<< naturalAlign)
  guard (offset < UInt32.size ∧ align = 1 <<< align.log2)
  return ⟨UInt32.ofNat offset, UInt32.ofNat align.log2⟩

/-- The bits of a constant: an integer that fits, or a float. -/
def const? (t : ValueType) (cs : List Char) : Option (BitVec t.width) :=
  if t.isFloat then (t.format.ofLiteral? cs).map (BitVec.ofNat t.width)
  else do
    let i ← signed? cs
    let bits := BitVec.ofInt t.width i
    if bits.toInt = i then some bits else none

/-- The memory of an instruction that shows none is the first. -/
def readImmediates : (s : Shape) → Reader Token s.Immediates
  | .plain => pure ()
  | .block => readBlock
  | .index space => if space = .memories then pure 0 else readIndex
  | .branchTable => readBranchTable
  | .indirectCall => do
    let table ← readIndex
    Token.expect .opening
    Token.expect (.word "type")
    let type ← readIndex
    Token.expect .closing
    return ⟨type, table⟩
  | .access naturalAlign => readMemArg naturalAlign
  | .const t => do
    Reader.ofOption (const? t (← Token.readWord).toList)

def readInstruction : Reader Token Instruction := do
  let op ← Reader.ofOption (Opcode.ofMnemonic? (← Token.readWord))
  return ⟨op, ← readImmediates op.shape⟩

/-! ### Sequences -/

theorem consumes_readIndex : readIndex.Consumes :=
  Reader.shrinks_next.consumes.bind fun _ => .ofOption _

theorem length_readIndices_le (tokens : List Token) :
    (readIndices tokens).2.length ≤ tokens.length := by
  fun_induction readIndices tokens <;> grind

theorem consumes_readBranchTable : readBranchTable.Consumes := by
  intro tokens x rest h
  obtain ⟨otherwise, -, e⟩ := Option.map_eq_some_iff.1 h
  cases e
  exact length_readIndices_le tokens

theorem consumes_readBlock : readBlock.Consumes := by
  intro tokens
  fun_cases readBlock tokens <;> grind [Option.map_eq_some_iff]

theorem consumes_readKeyed (key : String) (default : Nat) : (readKeyed key default).Consumes := by
  intro tokens
  fun_cases readKeyed key default tokens <;> grind [Option.map_eq_some_iff]

theorem consumes_readMemArg (naturalAlign : Nat) : (readMemArg naturalAlign).Consumes :=
  (consumes_readKeyed _ _).bind fun _ => (consumes_readKeyed _ _).bind fun _ =>
    (Reader.Consumes.ofGuard _).bind fun _ => .pure _

theorem consumes_readImmediates (s : Shape) : (readImmediates s).Consumes := by
  cases s with
  | plain => exact .pure ()
  | block => exact consumes_readBlock
  | index space =>
    simp only [readImmediates]
    split
    · exact .pure _
    · exact consumes_readIndex
  | branchTable => exact consumes_readBranchTable
  | indirectCall =>
    exact consumes_readIndex.bind fun _ => (Token.shrinks_expect _).consumes.bind fun _ =>
      (Token.shrinks_expect _).consumes.bind fun _ => consumes_readIndex.bind fun _ =>
        (Token.shrinks_expect _).consumes.bind fun _ => .pure _
  | access naturalAlign => exact consumes_readMemArg naturalAlign
  | const t => exact Token.shrinks_readWord.consumes.bind fun _ => .ofOption _

theorem shrinks_readInstruction : readInstruction.Shrinks :=
  Token.shrinks_readWord.bind fun _ => (Reader.Consumes.ofOption _).bind fun _ =>
    (consumes_readImmediates _).bind fun _ => .pure _

end Text

/-- The instructions that a text holds. -/
def Instruction.ofWat? (s : String) : Option (List Instruction) := do
  Text.readInstruction.all Text.shrinks_readInstruction (← Text.Token.read s.toList)

end Embedder
