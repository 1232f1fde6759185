import Embedder.Opcode

/-!
The catalog is sound: it lists every opcode once, in ascending order of bytes, and an opcode is
found again by its byte and by its mnemonic.
-/

namespace Embedder.Opcode

theorem mem_all (op : Opcode) : op ∈ all := by
  have h : all[op.ctorIdx]? = some op := by cases op <;> rfl
  exact List.mem_of_getElem? h

/-- Bytes ascend, so no two opcodes share one. -/
theorem pairwise_byte_all : all.Pairwise (·.byte < ·.byte) := by decide +kernel

theorem map_ofMnemonic?_all : all.map (fun op => ofMnemonic? op.mnemonic) = all.map some := by
  decide +kernel

/-- What is found by a key that ascends is what the key is of. -/
theorem find?_of_pairwise_lt {key : α → UInt8} {x : α} : ∀ {l : List α},
    l.Pairwise (key · < key ·) → x ∈ l → l.find? (key · == key x) = some x
  | y :: l, h, hx => by
    rw [List.pairwise_cons] at h
    rcases List.mem_cons.1 hx with rfl | hx
    · rw [List.find?_cons, beq_self_eq_true]
    · have ne : (key y == key x) = false := beq_false_of_ne (UInt8.ne_of_lt (h.1 x hx))
      rw [List.find?_cons, ne]
      exact find?_of_pairwise_lt h.2 hx

@[simp] theorem ofByte?_byte (op : Opcode) : ofByte? op.byte = some op :=
  find?_of_pairwise_lt pairwise_byte_all op.mem_all

@[simp] theorem ofMnemonic?_mnemonic (op : Opcode) : ofMnemonic? op.mnemonic = some op :=
  List.map_inj_left.1 map_ofMnemonic?_all op op.mem_all

end Embedder.Opcode
