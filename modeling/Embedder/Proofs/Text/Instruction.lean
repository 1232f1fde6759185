import Embedder.Opcode.Lemmas
import Embedder.Proofs.Ieee.Literal
import Embedder.Proofs.Text.Token
import Embedder.Text.Instruction.Reader

/-!
Instructions are read back from their text, up to what the text does not show. How far the
immediates of one go is decided by what follows, and that is always the mnemonic of another: it is
no index, opens no parenthesis and begins with neither key of a memory argument.
-/

namespace Embedder

/-! ### What the text shows -/

/-- The exponent that the text of an alignment is read as: the natural one for zero, and none above
the largest. -/
def Text.shownAlign (naturalAlign : Nat) (a : MemArg) : Nat :=
  if a.align = 0 then naturalAlign else min a.align.toNat maxAlign

/-- The immediates as their text is read. Whatever the memory, it is the first. -/
def Shape.shown : (s : Shape) → s.Immediates → s.Immediates
  | .index .memories, _ => (0 : UInt32)
  | .access naturalAlign, a => ⟨a.offset, UInt32.ofNat (Text.shownAlign naturalAlign a)⟩
  | _, x => x

def Instruction.shown (i : Instruction) : Instruction :=
  ⟨i.opcode, i.opcode.shape.shown i.immediates⟩

namespace Text

open Reader (Reads)

/-- Nothing, or another instruction. -/
def Boundary (rest : List Token) : Prop := ∀ t ∈ rest.head?, ∃ op : Opcode, t = .word op.mnemonic

/-! ### Words -/

/-- The characters of mnemonics. -/
def isMnemonicChar (c : Char) : Bool := c.isAlphanum || c == '.' || c == '_'

/-- One of them or more, and no digit first. -/
def isMnemonic : List Char → Bool
  | [] => false
  | c :: cs => !c.isDigit && (c :: cs).all isMnemonicChar

theorem isMnemonic_of_mem_all : ∀ op ∈ Opcode.all, isMnemonic op.mnemonic.toList = true := by
  decide +kernel

theorem exists_mnemonic (op : Opcode) : ∃ c cs, op.mnemonic.toList = c :: cs ∧ c.isDigit = false ∧
    ∀ d ∈ c :: cs, isMnemonicChar d = true := by
  have h := isMnemonic_of_mem_all op op.mem_all
  cases e : op.mnemonic.toList with
  | nil =>
    rw [e] at h
    cases h
  | cons c cs =>
    rw [e, isMnemonic, Bool.and_eq_true, List.all_eq_true] at h
    exact ⟨c, cs, rfl, by simpa using h.1, h.2⟩

theorem wellFormed_mnemonic (op : Opcode) : (Token.word op.mnemonic).WellFormed := by
  obtain ⟨c, cs, e, -, chars⟩ := exists_mnemonic op
  constructor
  · intro empty
    rw [empty] at e
    cases e
  · refine List.all_eq_true.2 fun d hd => ?_
    rw [e] at hd
    exact Token.isWordChar_of_class (p := isMnemonicChar) (by decide) (chars d hd)

/-- A mnemonic is no index, since it does not begin with a digit. -/
@[simp] theorem index?_mnemonic (op : Opcode) : Token.index? (.word op.mnemonic) = none := by
  obtain ⟨c, cs, e, digit, -⟩ := exists_mnemonic op
  show (decimal? op.mnemonic.toList).bind _ = none
  cases h : decimal? op.mnemonic.toList with
  | none => rfl
  | some n =>
    rw [e] at h
    rw [isDigit_of_decimal? h c List.mem_cons_self] at digit
    cases digit

/-- A mnemonic begins with no key, since there is no equals sign in it. -/
theorem mnemonic_not_key (op : Opcode) {key : String} (h : '=' ∈ key.toList) (n : Nat) :
    op.mnemonic.toList.take n ≠ key.toList := by
  obtain ⟨c, cs, e, -, chars⟩ := exists_mnemonic op
  intro eq
  rw [← eq, e] at h
  exact absurd (chars '=' (List.mem_of_mem_take h)) (by decide)

theorem Boundary.index? {t : Token} {rest : List Token} (h : Boundary (t :: rest)) :
    Token.index? t = none := by
  obtain ⟨op, rfl⟩ := h t rfl
  exact index?_mnemonic op

/-- A float pattern has a sign and a magnitude. -/
theorem pow_width_eq_signWeight (t : ValueType) : 2 ^ t.width = 2 * t.format.signWeight := by
  cases t <;> rfl

@[simp] theorem const?_const (t : ValueType) (bits : BitVec t.width) :
    const? t (const t bits).toList = some bits := by
  rw [const?, const]
  by_cases float : t.isFloat = true
  · have width : bits.toNat < 2 * t.format.signWeight := pow_width_eq_signWeight t ▸ bits.isLt
    rw [if_pos float, if_pos float, String.toList_ofList, t.format.ofLiteral?_literal width,
      Option.map_some, BitVec.ofNat_toNat, BitVec.setWidth_eq]
  · rw [if_neg float, if_neg float, signed?_toString]
    show (if (BitVec.ofInt t.width bits.toInt).toInt = bits.toInt then _ else _) = _
    rw [BitVec.ofInt_toInt, if_pos rfl]

/-- A constant is one word. -/
theorem wellFormed_const (t : ValueType) (bits : BitVec t.width) :
    (Token.word (const t bits)).WellFormed := by
  have read := const?_const t bits
  constructor
  · intro e
    have empty : const? t "".toList = none := by cases t <;> rfl
    rw [e, empty] at read
    cases read
  · refine List.all_eq_true.2 fun c hc => ?_
    rw [const] at hc
    split at hc
    · rw [String.toList_ofList] at hc
      exact Token.isWordChar_of_class (by decide) (t.format.isLiteralChar_of_mem_literal hc)
    · rcases mem_of_signed? (signed?_toString bits.toInt) c hc with digit | rfl
      · exact Token.isWordChar_of_isDigit digit
      · decide

/-! ### Immediates -/

theorem readKeyed_written (key : String) (n default : Nat) (rest : List Token) :
    readKeyed key default (.word (key ++ toString n) :: rest) = some (n, rest) := by
  have split : (key ++ toString n).toList = key.toList ++ Nat.toDigits 10 n := by
    rw [String.toList_append, toList_toString]
  have length : key.toList.length = key.length := String.length_toList
  rw [readKeyed, split, List.take_left' length, if_pos rfl, List.drop_left' length,
    decimal?_toDigits, Option.map_some]

/-- What is no word of the key leaves the default. -/
theorem readKeyed_default {key : String} (default : Nat) {tokens : List Token}
    (h : ∀ text, tokens.head? = some (.word text) → text.toList.take key.length ≠ key.toList) :
    readKeyed key default tokens = some (default, tokens) := by
  unfold readKeyed
  split
  · exact if_neg (h _ rfl)
  · rfl

theorem Boundary.not_key {rest : List Token} (h : Boundary rest) {key : String}
    (hk : '=' ∈ key.toList) {text : String} (e : rest.head? = some (.word text)) :
    text.toList.take key.length ≠ key.toList := by
  obtain ⟨op, eq⟩ := h _ e
  cases eq
  exact mnemonic_not_key op hk key.length

theorem readIndices_append {rest : List Token} (h : Boundary rest) (is : List UInt32) :
    readIndices (is.map .index ++ rest) = (is, rest) := by
  induction is with
  | nil =>
    cases rest with
    | nil => rfl
    | cons t rest => rw [List.map_nil, List.nil_append, readIndices, h.index?]
  | cons i is ih => rw [List.map_cons, List.cons_append, readIndices, Token.index?_index, ih]

theorem readBranchTable_append {rest : List Token} (h : Boundary rest) (b : BranchTable) :
    readBranchTable (immediates .branchTable b ++ rest) = some (b, rest) := by
  have all : immediates .branchTable b = (b.targets ++ [b.otherwise]).map .index := by
    rw [List.map_append]
    rfl
  rw [readBranchTable, all, readIndices_append h]
  dsimp only
  rw [List.getLast?_concat, List.dropLast_concat, Option.map_some]

theorem readBlock_append {rest : List Token} (h : Boundary rest) (t? : Option ValueType) :
    readBlock (immediates .block t? ++ rest) = some (t?, rest) := by
  cases t? with
  | none =>
    cases rest with
    | nil => rfl
    | cons t rest =>
      obtain ⟨op, rfl⟩ := h t rfl
      rfl
  | some t =>
    show (Token.type? (.type t)).map _ = _
    rw [Token.type?_type, Option.map_some]
    rfl

theorem reads_index (n : UInt32) : Reads readIndex [.index n] n :=
  (Reads.next (Token.index n)).bind (Reads.ofOption (Token.index?_index n))

theorem reads_indirectCall (c : IndirectCall) :
    Reads (readImmediates .indirectCall) (immediates .indirectCall c) c :=
  (reads_index c.table).bind ((Token.reads_expect .opening).bind
    ((Token.reads_expect (.word "type")).bind ((reads_index c.type).bind
      ((Token.reads_expect .closing).finish rfl))))

theorem reads_const (t : ValueType) (bits : BitVec t.width) :
    Reads (readImmediates (.const t)) (immediates (.const t) bits) bits :=
  (Token.reads_word (const t bits)).bind (Reads.ofOption (const?_const t bits))

theorem readKeyed_offset (a : MemArg) {rest : List Token}
    (h : ∀ text, rest.head? = some (.word text) →
      text.toList.take "offset=".length ≠ "offset=".toList) :
    readKeyed "offset=" 0 (offset a ++ rest) = some (a.offset.toNat, rest) := by
  rw [offset]
  split
  · rename_i zero
    rw [zero]
    exact readKeyed_default 0 h
  · exact readKeyed_written "offset=" a.offset.toNat 0 rest

theorem readKeyed_align (naturalAlign : Nat) (a : MemArg) {rest : List Token} (h : Boundary rest) :
    readKeyed "align=" (1 <<< naturalAlign) (align a ++ rest) =
      some (1 <<< shownAlign naturalAlign a, rest) := by
  rw [align, shownAlign]
  split
  · exact readKeyed_default _ fun _ => h.not_key (by decide)
  · exact readKeyed_written "align=" _ _ rest

/-- The key of an alignment is not that of an offset, so each may stand without the other. -/
theorem align_not_offset (a : MemArg) {rest : List Token} (h : Boundary rest) {text : String}
    (e : (align a ++ rest).head? = some (.word text)) :
    text.toList.take "offset=".length ≠ "offset=".toList := by
  rw [align] at e
  split at e
  · exact h.not_key (by decide) e
  · cases e
    have length : "offset=".length = 7 := by decide
    rw [length]
    simp

theorem readMemArg_append (naturalAlign : Nat) {rest : List Token} (h : Boundary rest)
    (a : MemArg) :
    readMemArg naturalAlign (immediates (.access naturalAlign) a ++ rest) =
      some (⟨a.offset, UInt32.ofNat (shownAlign naturalAlign a)⟩, rest) := by
  have power : (1 <<< shownAlign naturalAlign a).log2 = shownAlign naturalAlign a := by
    rw [Nat.one_shiftLeft, Nat.log2_two_pow]
  have offset := readKeyed_offset a fun _ => align_not_offset a h
  have align := readKeyed_align naturalAlign a h
  rw [readMemArg, immediates, List.append_assoc, Reader.bind_of_read offset,
    Reader.bind_of_read align]
  refine ((Reads.ofGuard ⟨a.offset.toNat_lt, by rw [power]⟩).finish ?_) rest
  rw [power, UInt32.ofNat_toNat]

theorem readImmediates_append (s : Shape) (x : s.Immediates) {rest : List Token}
    (h : Boundary rest) : readImmediates s (immediates s x ++ rest) = some (s.shown x, rest) := by
  cases s with
  | plain => rfl
  | block => exact readBlock_append h x
  | index space =>
    cases space with
    | memories => rfl
    | _ => exact reads_index x rest
  | branchTable => exact readBranchTable_append h x
  | indirectCall => exact reads_indirectCall x rest
  | access naturalAlign => exact readMemArg_append naturalAlign h x
  | const t => exact reads_const t x rest

/-! ### Instructions -/

theorem readInstruction_append (i : Instruction) {rest : List Token} (h : Boundary rest) :
    readInstruction (i.tokens ++ rest) = some (i.shown, rest) := by
  have op : Opcode.ofMnemonic? i.mnemonic = some i.opcode := i.opcode.ofMnemonic?_mnemonic
  have word := Token.reads_word i.mnemonic (immediates i.opcode.shape i.immediates ++ rest)
  have immediates := readImmediates_append i.opcode.shape i.immediates h
  refine (Reader.bind_of_read word).trans ?_
  refine (Reader.bind_of_read (Reads.ofOption op _)).trans ?_
  exact (Reader.bind_of_read immediates).trans rfl

/-- A sequence of instructions ends where another may begin. -/
theorem boundary_flatMap : ∀ is : List Instruction, Boundary (is.flatMap Instruction.tokens)
  | [] => fun _ h => nomatch h
  | i :: is => fun t h => by
    cases h
    exact ⟨i.opcode, rfl⟩

theorem all_flatMap_tokens : ∀ is : List Instruction,
    readInstruction.all shrinks_readInstruction (is.flatMap Instruction.tokens) =
      some (is.map Instruction.shown)
  | [] => Reader.all_nil readInstruction shrinks_readInstruction
  | i :: is => by
    have read := readInstruction_append i (boundary_flatMap is)
    rw [List.flatMap_cons, Reader.all_of_read shrinks_readInstruction read, all_flatMap_tokens is]
    rfl

theorem wellFormed_immediates (s : Shape) (x : s.Immediates) :
    ∀ t ∈ immediates s x, t.WellFormed := by
  cases s with
  | plain => exact fun _ h => nomatch h
  | block =>
    cases x with
    | none => exact fun _ h => nomatch h
    | some t =>
      refine Token.wellFormed_group (List.forall_mem_cons.2 ⟨⟨by decide, by decide⟩, ?_⟩)
      exact List.forall_mem_singleton.2 (Token.wellFormed_type t)
  | index space =>
    cases space with
    | memories => exact fun _ h => nomatch h
    | _ => exact List.forall_mem_singleton.2 (Token.wellFormed_index x)
  | branchTable =>
    intro t ht
    rcases List.mem_append.1 ht with ht | ht
    · obtain ⟨n, -, rfl⟩ := List.mem_map.1 ht
      exact Token.wellFormed_index n
    · cases List.mem_singleton.1 ht
      exact Token.wellFormed_index _
  | indirectCall =>
    refine List.forall_mem_cons.2 ⟨Token.wellFormed_index x.table, Token.wellFormed_group ?_⟩
    refine List.forall_mem_cons.2 ⟨⟨by decide, by decide⟩, ?_⟩
    exact List.forall_mem_singleton.2 (Token.wellFormed_index x.type)
  | access =>
    intro t ht
    rcases List.mem_append.1 ht with ht | ht
    · rw [offset] at ht
      split at ht
      · cases ht
      · cases List.mem_singleton.1 ht
        exact Token.wellFormed_keyed (by decide) _
    · rw [align] at ht
      split at ht
      · cases ht
      · cases List.mem_singleton.1 ht
        exact Token.wellFormed_keyed (by decide) _
  | const t => exact List.forall_mem_singleton.2 (wellFormed_const t x)

theorem wellFormed_tokens (i : Instruction) : ∀ t ∈ i.tokens, t.WellFormed := by
  intro t ht
  rcases List.mem_cons.1 ht with rfl | ht
  · exact wellFormed_mnemonic i.opcode
  · exact wellFormed_immediates _ _ t ht

theorem wellFormed_flatMap (is : List Instruction) :
    ∀ t ∈ is.flatMap Instruction.tokens, t.WellFormed := by
  intro t ht
  obtain ⟨i, -, ht⟩ := List.mem_flatMap.1 ht
  exact wellFormed_tokens i t ht

end Text

namespace Instruction

theorem wat_eq_watAll (i : Instruction) : i.wat = watAll [i] := by
  rw [wat, watAll, List.flatMap_singleton]

/-- The text of a sequence is read back as what it shows. -/
theorem ofWat?_watAll (is : List Instruction) : ofWat? (watAll is) = some (is.map shown) := by
  rw [ofWat?, watAll, String.toList_ofList, Text.Token.read_write (Text.wellFormed_flatMap is)]
  exact Text.all_flatMap_tokens is

theorem ofWat?_wat (i : Instruction) : ofWat? i.wat = some [i.shown] := by
  rw [wat_eq_watAll, ofWat?_watAll, List.map_singleton]

end Instruction

end Embedder
