import Embedder.Proofs.Call.Honours
import Embedder.Proofs.ImportTable.Encoding

/-!
A module and its host mean the same functions. The function entries of the import section stand in
the order of the table's functions, each under the names of its own and with the index of its
signature; and calls of an import honour its signature. So the type that a module finds for a
function is the type by which the host lets it be called.
-/

namespace Embedder

/-- The function entries of an import section, each by its names and the index of its type. -/
def Binary.ImportSection.functions (sec : Binary.ImportSection) : List (ImportName × UInt32) :=
  sec.entries.filterMap fun e => match e.description with
    | .function i => some (e.name, i)
    | .memory _ => none

namespace ImportTable

open Binary (TypeSection ImportSection ImportEntry Decodes)

variable {t : ImportTable} {types : TypeSection} {imports : ImportSection}

/-- The function entries among declarations of imports are those of the functions, in their
order. -/
theorem forall₂_functions {sigs : List Signature} {entries : List ImportEntry} {is : List Import}
    (h : List.Forall₂ (ImportEntry.Declares sigs) entries is) :
    List.Forall₂ (fun e f => e.1 = f.name ∧ sigs[e.2.toNat]? = some f.signature)
      (ImportSection.functions ⟨entries⟩) (is.filterMap Import.function?) := by
  induction h with
  | nil => exact .nil
  | @cons e i entries is hd _ ih =>
    cases i with
    | function f =>
      obtain ⟨name, j, hj, hs⟩ := hd
      simp only [ImportSection.functions, List.filterMap_cons, hj, Import.function?]
      exact .cons ⟨name, hs⟩ ih
    | resource name r =>
      cases r with
      | memory limits =>
        cases hd
        exact ih
      | table => cases hd
      | global => cases hd

/-- For every table that a run of pushes leaves and that is encoded: the sections are read back as
what they are. The function entries of the import section are as many as the functions of the table,
and each has the names of the function at its place and the index of a type that its calls honour:
arguments of the parameter types are what the body is run on, once, and what it comes to on them is
what the call comes to, if that is of the result type; other arguments are refused and nothing is
run. -/
theorem calls_agree_with_sections (is : List Import)
    (h : (empty.pushAll is).2.encode = .ok (types, imports)) :
    let t := (empty.pushAll is).2
    Decodes TypeSection.read types.bytes types ∧ Decodes ImportSection.read imports.bytes imports ∧
    imports.functions.length = t.functionCount ∧
    ∀ n < t.functionCount, ∃ f i s, t.functions[n]? = some f ∧
      imports.functions[n]? = some (f.name, i) ∧ types.types[i.toNat]? = some s ∧ f.Honours s := by
  intro t
  have ht : t.Consistent := consistent_empty.run is
  obtain ⟨-, declared⟩ := ht.declares_of_encode h
  obtain ⟨length, get⟩ := List.forall₂_iff_get.1 (forall₂_functions declared)
  have count : imports.functions.length = t.functionCount := length.trans ht.functionCount.1.symm
  refine ⟨Binary.decodes_typeSection types, Binary.decodes_importSection imports, count, ?_⟩
  intro n hn
  have hf : n < t.functions.length := ht.functionCount.1 ▸ hn
  have he : n < imports.functions.length := count.symm ▸ hn
  obtain ⟨name, type⟩ := get n he hf
  refine ⟨t.functions[n], imports.functions[n].2, t.functions[n].signature,
    List.getElem?_eq_getElem hf, ?_, type, FunctionImport.honours _⟩
  rw [List.getElem?_eq_getElem he, Option.some.injEq, Prod.ext_iff]
  exact ⟨name, rfl⟩

/-- A wrapped function, which answers its argument, and, after a memory, a method whose body returns
its first argument too, though no result was declared. -/
theorem calls_agree_with_sections_mixed :
    let g : TypedFunction := ⟨[.i32], some .i32, fun (x, _) => .ok x⟩
    let f : FunctionImport := ⟨⟨"env", "same"⟩, ⟨[.i32], some .i32⟩, ⟨0, .typed g⟩⟩
    let f' : FunctionImport :=
      ⟨⟨"env", "log"⟩, ⟨[.i32], none⟩, ⟨1, .reflective fun args => .ok args.head?⟩⟩
    let is := [.function f, .resource ⟨"js", "mem"⟩ (.memory ⟨1, none⟩), .function f']
    let one : Value := ⟨.i32, 1⟩
    ∃ types imports, (empty.pushAll is).2.encode = .ok (types, imports) ∧
      imports.functions[1]? = some (⟨"env", "log"⟩, 1) ∧
      types.types[1]? = some ⟨[.i32], none⟩ ∧
      f.call [one] = ⟨.ok (some one), [[one]]⟩ ∧
      f'.call [one] = ⟨.error (.resultType none (some .i32)), [[one]]⟩ ∧
      f'.call [one, one] = .refused (.argumentCount 1 2) := by
  intro g f f' is one
  have encoded : (empty.pushAll is).2.encode = .ok (⟨[⟨[.i32], some .i32⟩, ⟨[.i32], none⟩]⟩,
      ⟨[⟨⟨"env", "same"⟩, .function 0⟩, ⟨⟨"js", "mem"⟩, .memory ⟨1, none⟩⟩,
        ⟨⟨"env", "log"⟩, .function 1⟩]⟩) := by
    simp only [is, f, f', g]
    cbv
  have functions : (empty.pushAll is).2.functions = [f, f'] := by
    simp only [is, f, f', g]
    cbv
  obtain ⟨-, -, count, agree⟩ := calls_agree_with_sections is encoded
  have two : (empty.pushAll is).2.functionCount = 2 := count.symm
  rw [functions, two] at agree
  obtain ⟨_, _, _, ⟨⟩, ⟨⟩, ⟨⟩, honours⟩ := agree 0 (by decide)
  obtain ⟨_, _, _, ⟨⟩, ⟨⟩, ⟨⟩, honours'⟩ := agree 1 (by decide)
  have answered : f.call [one] = ⟨.ok (some one), [[one]]⟩ := by
    obtain ⟨⟨x, _⟩, values, ran⟩ := honours.typed g rfl rfl [⟨.i32, 1⟩] rfl
    cases values
    exact ran
  have lied : f'.call [one] = ⟨.error (.resultType none (some .i32)), [[one]]⟩ :=
    (honours'.reflective _ rfl [one] _).2 (.wrongResult (v := some one) rfl rfl (by decide))
  have refused : f'.call [one, one] = .refused (.argumentCount 1 2) :=
    (honours'.reflective _ rfl [one, one] _).2 (.wrongCount (by decide))
  exact ⟨_, _, encoded, rfl, rfl, answered, lied, refused⟩

end ImportTable

end Embedder
