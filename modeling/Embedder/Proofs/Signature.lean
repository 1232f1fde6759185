import Embedder.Proofs.Binary.Section
import Embedder.Proofs.ImportTable.Answers
import Embedder.Proofs.Text.Import
import Mathlib.Tactic.TFAE

/-!
A signature is told by each way of writing it. Its text in messages, its text in modules and its
bytes are all read back, whatever the parameters are, so no two signatures share any of them.
Parameters and result are kept apart by what stands between them: a parenthesis that no type holds,
a keyword, or a count. A table goes by the signatures themselves, and gives two functions one type
just when these are equal.
-/

namespace Embedder

open Reader (Reads)
open Text (Token)

/-! ### In messages -/

namespace Signature

theorem paramsOf?_comma (t : ValueType) (rest : List Char) :
    paramsOf? (t.name.toList ++ ',' :: ' ' :: rest) =
      (paramsOf? rest).map fun (ts, rest) => (t :: ts, rest) := by
  cases t <;> cases h : paramsOf? rest <;> simp [ValueType.name, paramsOf?, h] <;> rfl

theorem paramsOf?_closing (t : ValueType) (rest : List Char) :
    paramsOf? (t.name.toList ++ ')' :: rest) = some ([t], rest) := by
  cases t <;> rfl

/-- Parameters are read back up to the parenthesis that closes them. -/
theorem paramsOf?_intercalate (t : ValueType) (ts : List ValueType) (rest : List Char) :
    paramsOf? ((", ".intercalate ((t :: ts).map (·.name))).toList ++ ')' :: rest) =
      some (t :: ts, rest) := by
  induction ts generalizing t with
  | nil => exact paramsOf?_closing t rest
  | cons u ts ih =>
    have split : (", ".intercalate ((t :: u :: ts).map (·.name))).toList ++ ')' :: rest =
        t.name.toList ++ ',' :: ' ' ::
          ((", ".intercalate ((u :: ts).map (·.name))).toList ++ ')' :: rest) := by
      simp [String.intercalate_cons_cons]
    rw [split, paramsOf?_comma, ih]
    rfl

/-- The result after its arrow. -/
def arrow : Option ValueType → String
  | none => ""
  | some t => " -> " ++ t.name

theorem resultOf?_arrow (result : Option ValueType) :
    resultOf? (arrow result).toList = some result := by
  rcases result with _ | t
  · rfl
  · cases t <;> rfl

theorem text_eq (s : Signature) :
    s.text.toList = '(' :: ((", ".intercalate (s.params.map (·.name))).toList ++
      ')' :: (arrow s.result).toList) := by
  obtain ⟨params, _ | t⟩ := s <;> simp [text, arrow]

/-- The text in messages is read back. -/
theorem ofText?_text (s : Signature) : ofText? s.text = some s := by
  obtain ⟨params, result⟩ := s
  have after := resultOf?_arrow result
  unfold ofText?
  rw [text_eq]
  cases params with
  | nil => simp [after]
  | cons t ts =>
    have params := paramsOf?_intercalate t ts (arrow result).toList
    -- a type is no parenthesis, so the parameters are not taken for an empty list
    have first : ∀ rest,
        (", ".intercalate ((t :: ts).map (·.name))).toList ++ ')' :: (arrow result).toList ≠
          ')' :: rest := by
      intro rest
      cases ts <;> cases t <;> simp [String.intercalate_cons_cons, ValueType.name]
    split
    · rename_i e
      exact absurd (List.cons.inj e).2 (first _)
    · rename_i e
      cases e
      rw [params]
      simp [after]
    · rename_i other
      exact absurd rfl (other _)

/-! ### In modules -/

theorem wellFormed_tokens (s : Signature) : ∀ t ∈ s.tokens, t.WellFormed :=
  Text.holdsInImports_wellFormed.externalType (.function s)

theorem reads_functionType (s : Signature) : Reads Text.readFunctionType s.tokens s := by
  have tokens : s.tokens = [.opening] ++ ([.word "func"] ++
      (Text.clause "param" s.params ++ Text.clause "result" s.results ++ [.closing])) := by
    simp [Signature.tokens, Token.group]
  rw [tokens]
  refine (Token.reads_expect _).bind ((Token.reads_expect _).bind fun rest => ?_)
  rw [List.append_assoc, List.singleton_append,
    Reader.bind_of_read (Text.readsInside_signature s rest)]
  have close : Reads (do Token.expect .closing; return s) [.closing] s :=
    (Token.reads_expect .closing).finish rfl
  exact close rest

/-- The text of the function type is read back. -/
theorem ofWat?_wat (s : Signature) : ofWat? s.wat = some s := by
  have tokens : Token.read s.wat.toList = some s.tokens := by
    rw [wat, String.toList_ofList, Token.read_write s.wellFormed_tokens]
  have read : Text.readFunctionType s.tokens = some (s, []) := by
    simpa using s.reads_functionType []
  simp [ofWat?, tokens, read]

end Signature

/-! ### In bytes -/

namespace Binary

/-- Numbers are read off the front of whatever follows them, so they can be told from it. -/
theorem unsigned_append_inj {m n : Nat} {xs ys : List UInt8}
    (h : unsigned m ++ xs = unsigned n ++ ys) : m = n ∧ xs = ys := by
  have hm : m < 2 ^ (m + n) := Nat.lt_of_le_of_lt (Nat.le_add_right m n) Nat.lt_two_pow_self
  have hn : n < 2 ^ (m + n) := Nat.lt_of_le_of_lt (Nat.le_add_left n m) Nat.lt_two_pow_self
  have read := reads_unsigned hm xs
  rw [h, reads_unsigned hn ys, Option.some.injEq, Prod.mk.injEq] at read
  exact ⟨read.1.symm, read.2.symm⟩

theorem signature_inj {s t : Signature} : signature s = signature t ↔ s = t := by
  refine ⟨fun h => ?_, congrArg signature⟩
  -- a reader that counts far enough for the parameters of both
  let w := s.params.length + t.params.length + 1
  have hs : s.params.length < 2 ^ w := Nat.lt_of_le_of_lt (by omega) Nat.lt_two_pow_self
  have ht : t.params.length < 2 ^ w := Nat.lt_of_le_of_lt (by omega) Nat.lt_two_pow_self
  have read := reads_signature (Nat.succ_pos _) hs []
  rw [h, reads_signature (Nat.succ_pos _) ht [], Option.some.injEq, Prod.mk.injEq] at read
  exact read.1.symm

theorem vector_inj {encode : α → List UInt8} {xs ys : List α}
    (h : vector encode xs = vector encode ys) :
    xs.length = ys.length ∧ xs.flatMap encode = ys.flatMap encode := unsigned_append_inj h

theorem framed_inj {id : UInt8} {encode : α → List UInt8} {xs ys : List α} :
    framed id encode xs = framed id encode ys ↔ vector encode xs = vector encode ys := by
  refine ⟨fun h => ?_, fun h => by rw [framed, h, framed]⟩
  exact (unsigned_append_inj (List.cons.inj h).2).2

/-- What is added to a section is told by the bytes of the section. -/
theorem TypeSection.bytes_add_inj (sec : TypeSection) {s t : Signature} :
    (sec.add s).1.bytes = (sec.add t).1.bytes ↔ s = t := by
  refine ⟨fun h => ?_, fun h => by rw [h]⟩
  have entries := (vector_inj (framed_inj.1 h)).2
  rw [add, add, List.flatMap_append, List.flatMap_append, List.append_cancel_left_eq] at entries
  simpa [signature_inj] using entries

end Binary

/-! ### In tables -/

namespace ImportTable

variable {s s' : Signature} {i j : Nat}

/-- A function of the signature is held, and has this type index. -/
def HoldsAt (t : ImportTable) (s : Signature) (i : Nat) : Prop :=
  ∃ f, .function f i ∈ t.entries ∧ f.signature = s

/-- Functions have one type index just when they have one signature. -/
theorem Consistent.typeIndex_eq_iff {t : ImportTable} (h : t.Consistent) (hs : t.HoldsAt s i)
    (hs' : t.HoldsAt s' j) : i = j ↔ s = s' := by
  obtain ⟨f, hf, rfl⟩ := hs
  obtain ⟨g, hg, rfl⟩ := hs'
  have at_i := h.typeIndex f i hf
  have at_j := h.typeIndex g j hg
  constructor
  · rintro rfl
    exact Option.some.inj (at_i.symm.trans at_j)
  · intro same
    have found := (h.typeIndices f.signature i).2 at_i
    rw [same, (h.typeIndices g.signature j).2 at_j] at found
    exact (Option.some.inj found).symm

/-- Whatever binders build, functions of the two signatures get one type index in every run that
takes both. -/
def ShareType (s s' : Signature) : Prop :=
  ∀ is : List Import, (∀ f, .function f ∈ is → ∃ b : Binder, b.Builds f) →
    ∀ i j, (empty.pushAll is).2.HoldsAt s i → (empty.pushAll is).2.HoldsAt s' j → i = j

/-- A function of any signature, that some binder builds. -/
theorem exists_builds (s : Signature) {exportName : String} (h : exportName ≠ "") :
    ∃ (b : Binder) (f : FunctionImport),
      b.Builds f ∧ f.signature = s ∧ f.name = ⟨"env", exportName⟩ := by
  let b : Binder := ⟨s.params.length⟩
  let g : TypedFunction := ⟨s.params, s.result, fun _ => .error (.host "")⟩
  let f : FunctionImport := ⟨⟨"env", exportName⟩, s, ⟨0, .typed g⟩⟩
  have passes : b.gate f.name g.params.length = .ok () :=
    Binder.gate_eq_ok_iff.2 ⟨show "env" ≠ "" by decide, h, Nat.le_refl _⟩
  have wrapped : (b.wrap f.name 0 g).answer = .ok f := Binder.answer_wrap_eq_ok_iff.2 ⟨passes, rfl⟩
  exact ⟨b, f, .wrap wrapped, rfl, rfl⟩

/-- Two functions under different names are both taken. -/
theorem holdsAt_pair {f g : FunctionImport} (h : f.name ≠ g.name) :
    ∃ i j, (empty.pushAll [.function f, .function g]).2.HoldsAt f.signature i ∧
      (empty.pushAll [.function f, .function g]).2.HoldsAt g.signature j := by
  let t := (empty.pushAll [.function f, .function g]).2
  have imports : t.imports = [.function f, .function g] := by
    have first : firstNamed [.function f, .function g] = [.function f, .function g] := by
      simp [firstNamed, Import.name, h.symm]
    have few : [Import.function f, .function g].length < indexLimit := show 2 < indexLimit by decide
    exact (imports_run few).trans first
  have held (k : FunctionImport) (hk : .function k ∈ t.imports) : ∃ i, t.HoldsAt k.signature i := by
    obtain ⟨entry, he, hi⟩ := List.mem_map.1 hk
    cases entry with
    | function k' i =>
      cases hi
      exact ⟨i, k, Array.mem_toList_iff.1 he, rfl⟩
    | resource name r => cases hi
  obtain ⟨i, hi⟩ := held f (by simp [imports])
  obtain ⟨j, hj⟩ := held g (by simp [imports])
  exact ⟨i, j, hi, hj⟩

theorem shareType_iff : ShareType s s' ↔ s = s' := by
  constructor
  · intro share
    obtain ⟨b, f, built, rfl, name⟩ := exists_builds s (show "f" ≠ "" by decide)
    obtain ⟨b', g, built', rfl, name'⟩ := exists_builds s' (show "g" ≠ "" by decide)
    obtain ⟨i, j, hi, hj⟩ := holdsAt_pair (f := f) (g := g) (by rw [name, name']; decide)
    have all : ∀ k, .function k ∈ [Import.function f, .function g] → ∃ b : Binder, b.Builds k := by
      intro k hk
      simp only [List.mem_cons, Import.function.injEq, List.not_mem_nil, or_false] at hk
      rcases hk with rfl | rfl
      · exact ⟨b, built⟩
      · exact ⟨b', built'⟩
    exact ((consistent_empty.run _).typeIndex_eq_iff hi hj).1 (share _ all i j hi hj)
  · rintro rfl is - i j hi hj
    exact ((consistent_empty.run is).typeIndex_eq_iff hi hj).2 rfl

end ImportTable

/-- Two signatures are equal just when their texts in messages are, when their texts in modules are,
when their bytes are, and when functions that have them get one type in every run that takes both.
For a section to which one of them is added, and for two functions of a run, the same holds one by
one. Both texts and the bytes are read back, the bytes by every reader that can count the parameters
and whatever follows. -/
theorem signature_told_by_every_form (s t : Signature) :
    [s = t, s.text = t.text, s.wat = t.wat, Binary.signature s = Binary.signature t,
      ImportTable.ShareType s t].TFAE ∧
    (∀ sec : Binary.TypeSection, (sec.add s).1.bytes = (sec.add t).1.bytes ↔ s = t) ∧
    (∀ is i j, (ImportTable.empty.pushAll is).2.HoldsAt s i →
      (ImportTable.empty.pushAll is).2.HoldsAt t j → (i = j ↔ s = t)) ∧
    Signature.ofText? s.text = some s ∧ Signature.ofWat? s.wat = some s ∧
    ∀ w, 0 < w → s.params.length < 2 ^ w → ∀ rest,
      Binary.readSignature w (Binary.signature s ++ rest) = some (s, rest) := by
  refine ⟨?_, fun sec => sec.bytes_add_inj, fun is i j hi hj => ?_, s.ofText?_text, s.ofWat?_wat,
    fun w hw count => Binary.reads_signature hw count⟩
  · tfae_have 1 ↔ 2 := by
      refine ⟨congrArg _, fun h => ?_⟩
      have read := s.ofText?_text
      rw [h, t.ofText?_text] at read
      exact (Option.some.inj read).symm
    tfae_have 1 ↔ 3 := by
      refine ⟨congrArg _, fun h => ?_⟩
      have read := s.ofWat?_wat
      rw [h, t.ofWat?_wat] at read
      exact (Option.some.inj read).symm
    tfae_have 1 ↔ 4 := Binary.signature_inj.symm
    tfae_have 1 ↔ 5 := ImportTable.shareType_iff.symm
    tfae_finish
  · exact (ImportTable.consistent_empty.run is).typeIndex_eq_iff hi hj

/-- One type as the only parameter, and the same as the result. -/
theorem signature_told_by_every_form_apart :
    let s : Signature := ⟨[.i32], none⟩
    let t : Signature := ⟨[], some .i32⟩
    s.text ≠ t.text ∧ s.wat ≠ t.wat ∧ Binary.signature s ≠ Binary.signature t ∧
      ¬ ImportTable.ShareType s t ∧
      Binary.readSignature 32 (Binary.signature s ++ Binary.signature t) =
        some (s, Binary.signature t) := by
  intro s t
  have apart : s ≠ t := by decide
  obtain ⟨forms, -, -, -, -, bytes⟩ := signature_told_by_every_form s t
  refine ⟨?_, ?_, ?_, ?_, bytes 32 (by decide) (by decide) _⟩
  · exact fun same => apart ((forms.out 0 1).2 same)
  · exact fun same => apart ((forms.out 0 2).2 same)
  · exact fun same => apart ((forms.out 0 3).2 same)
  · exact fun same => apart ((forms.out 0 4).2 same)

example : (⟨[.i32, .f64], some .i64⟩ : Signature).text = "(i32, f64) -> i64" := by cbv

example : (⟨[.i32, .f64], some .i64⟩ : Signature).wat =
    "(func (param i32 f64) (result i64))" := by cbv

end Embedder
