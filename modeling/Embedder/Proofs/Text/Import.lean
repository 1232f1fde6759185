import Embedder.Proofs.Text.Token
import Embedder.Text.Import.Reader

/-!
Imports are read back from their text, all of them in their order and all of each but the code
behind a function. What stands in an import is in parentheses, so each part of it is read in front
of a closing one; that settles how far the optional parts go. Names hold any characters, but each of
them is one token by the time an import is read.
-/

namespace Embedder

open Reader (Reads)
open Text (Token)

/-! ### What the text is made of -/

def ExternalType.tokens : ExternalType → List Token
  | .function s => s.tokens
  | .resource r => r.tokens

/-- The tokens of every import that is declared so. -/
def Declaration.tokens (d : Declaration) : List Token :=
  Token.group
    (.word "import" :: .name d.name.moduleName :: .name d.name.exportName :: d.type.tokens)

/-- The code behind a function is not written. -/
theorem Import.tokens_eq (i : Import) : i.tokens = i.declaration.tokens := by
  cases i <;> rfl

theorem Import.watAll_eq (is : List Import) : watAll is =
    String.ofList (Token.write ((is.map declaration).flatMap Declaration.tokens)) := by
  simp only [watAll, List.flatMap_map, ← tokens_eq]

namespace Text

/-- The words of imports that are neither types nor numbers. -/
def keywords : List String :=
  ["import", "func", "param", "result", "table", "funcref", "memory", "global", "mut"]

/-- What holds of every token that an import can have. -/
structure HoldsInImports (P : Token → Prop) : Prop where
  opening : P .opening
  closing : P .closing
  keyword : ∀ w ∈ keywords, P (.word w)
  name : ∀ s, P (.name s)
  index : ∀ n, P (.index n)
  type : ∀ t, P (.type t)

variable {P : Token → Prop}

theorem HoldsInImports.group (h : HoldsInImports P) {keyword : String} (hk : keyword ∈ keywords)
    {inner : List Token} (hi : ∀ t ∈ inner, P t) :
    ∀ t ∈ Token.group (.word keyword :: inner), P t :=
  Token.forall_mem_group.2 ⟨h.opening, List.forall_mem_cons.2 ⟨h.keyword _ hk, hi⟩, h.closing⟩

theorem HoldsInImports.clause (h : HoldsInImports P) {keyword : String} (hk : keyword ∈ keywords)
    (ts : List ValueType) : ∀ t ∈ clause keyword ts, P t := by
  cases ts with
  | nil => exact fun _ ht => nomatch ht
  | cons t ts => exact h.group hk (by simp [h.type])

theorem HoldsInImports.externalType (h : HoldsInImports P) (type : ExternalType) :
    ∀ t ∈ type.tokens, P t := by
  rcases type with s | l | l | ⟨t, _ | _⟩
  · refine h.group (by simp [keywords]) (List.forall_mem_append.2 ⟨?_, ?_⟩)
    · exact h.clause (by simp [keywords]) s.params
    · exact h.clause (by simp [keywords]) s.results
  · have funcref := h.keyword "funcref" (by simp [keywords])
    refine h.group (by simp [keywords]) ?_
    simp [Limits.tokens, or_imp, forall_and, h.index, funcref]
  · refine h.group (by simp [keywords]) ?_
    simp [Limits.tokens, h.index]
  · exact h.group (by simp [keywords]) (by simp [h.type])
  · exact h.group (by simp [keywords]) (h.group (by simp [keywords]) (by simp [h.type]))

theorem HoldsInImports.forall_mem_flatMap (h : HoldsInImports P) (ds : List Declaration) :
    ∀ t ∈ ds.flatMap Declaration.tokens, P t := by
  intro t ht
  obtain ⟨d, -, ht⟩ := List.mem_flatMap.1 ht
  refine h.group (by simp [keywords]) ?_ t ht
  exact List.forall_mem_cons.2 ⟨h.name _, List.forall_mem_cons.2 ⟨h.name _, h.externalType d.type⟩⟩

theorem holdsInImports_wellFormed : HoldsInImports Token.WellFormed where
  opening := trivial
  closing := trivial
  keyword := by
    unfold Token.WellFormed
    decide
  name _ := trivial
  index := Token.wellFormed_index
  type := Token.wellFormed_type

theorem holdsInImports_printable : HoldsInImports Token.Printable where
  opening := by simp [Token.Printable, Token.chars, Quoting.name]
  closing := by simp [Token.Printable, Token.chars, Quoting.name]
  keyword w hw := by
    have all : ∀ w ∈ keywords, w.toList.all Quoting.name.plain = true := by decide
    exact Token.printable_word (all w hw)
  name := Token.printable_name
  index := Token.printable_index
  type := Token.printable_type

/-! ### Parts of a description -/

theorem readTypes_append (ts : List ValueType) (rest : List Token) :
    readTypes (ts.map .type ++ .closing :: rest) = some (ts, rest) := by
  induction ts with
  | nil => rfl
  | cons t ts ih =>
    have read : Token.type? (.word t.name) = some t := Token.type?_type t
    simp [Token.type, readTypes, read, ih]

/-- A clause that may be left out is told from what comes next by its keyword. -/
theorem readClause_clause (keyword : String) (ts : List ValueType) (rest : List Token)
    (h : ∀ after, rest ≠ .opening :: .word keyword :: after) :
    readClause keyword (clause keyword ts ++ rest) = some (ts, rest) := by
  cases ts with
  | nil =>
    rw [clause, List.nil_append]
    unfold readClause
    split
    · rename_i text after
      refine if_neg ?_
      rintro rfl
      exact h after rfl
    · rfl
  | cons t ts =>
    have e : clause keyword (t :: ts) ++ rest =
        .opening :: .word keyword :: ((t :: ts).map .type ++ .closing :: rest) := by
      simp [clause, Token.group]
    rw [e, readClause, if_pos rfl, readTypes_append]

/-- In front of a closing parenthesis, and whatever follows it, `written` is read as `x`. -/
def ReadsInside (read : Reader Token α) (written : List Token) (x : α) : Prop :=
  ∀ rest, read (written ++ .closing :: rest) = some (x, .closing :: rest)

theorem ReadsInside.finish {read : Reader Token α} {next : α → Reader Token β}
    {written : List Token} {x : α} {y : β} (h : ReadsInside read written x)
    (e : next x = pure y) : ReadsInside (read >>= next) written y := by
  intro rest
  rw [Reader.bind_of_read (h rest), e]
  rfl

theorem readsInside_signature (s : Signature) :
    ReadsInside readSignature (clause "param" s.params ++ clause "result" s.results) s := by
  intro rest
  -- where there are no parameters, what stands in their place must not begin as they would
  have apart : ∀ after, clause "result" s.results ++ .closing :: rest ≠
      .opening :: .word "param" :: after := by
    intro after
    cases s.results <;> simp [clause, Token.group]
  have params := readClause_clause "param" s.params _ apart
  have results := readClause_clause "result" s.results (.closing :: rest) (by simp)
  rw [readSignature, List.append_assoc, Reader.bind_of_read params, Reader.bind_of_read results]
  obtain ⟨params, _ | t⟩ := s <;> rfl

/-- Another number would be a maximum. -/
theorem readLimits_append (l : Limits) {t : Token} (h : Token.index? t = none) (rest : List Token) :
    readLimits (l.tokens ++ t :: rest) = some (l, t :: rest) := by
  obtain ⟨min, _ | max⟩ := l <;> simp [Limits.tokens, readLimits, h]

theorem readsInside_global (type : ValueType) :
    ReadsInside readGlobal [.type type] (.global type false) ∧
    ReadsInside readGlobal (Token.group [.word "mut", .type type]) (.global type true) := by
  have read : Token.type? (.word type.name) = some type := Token.type?_type type
  constructor <;> intro rest <;> simp [Token.group, Token.type, readGlobal, read]

/-- What an import supplies is in parentheses and begins with a keyword that tells how to read
on. -/
theorem exists_readsInside : ∀ type : ExternalType, ∃ keyword inner,
    type.tokens = Token.group (.word keyword :: inner) ∧
      ReadsInside (readExternal keyword) inner type
  | .function s => ⟨"func", _, rfl, (readsInside_signature s).finish rfl⟩
  | .resource (.table l) => by
    refine ⟨"table", _, rfl, fun rest => ?_⟩
    -- the limits end at `funcref`, which is no number
    rw [List.append_assoc]
    exact (Reader.bind_of_read (readLimits_append l rfl (.closing :: rest))).trans rfl
  | .resource (.memory l) =>
    ⟨"memory", _, rfl, ReadsInside.finish (fun rest => readLimits_append l rfl rest) rfl⟩
  | .resource (.global type false) => ⟨"global", _, rfl, (readsInside_global type).1.finish rfl⟩
  | .resource (.global type true) => ⟨"global", _, rfl, (readsInside_global type).2.finish rfl⟩

theorem reads_declaration (d : Declaration) : Reads readDeclaration d.tokens d := by
  obtain ⟨keyword, inner, e, h⟩ := exists_readsInside d.type
  have tokens : d.tokens = [.opening] ++ ([.word "import"] ++ ([.name d.name.moduleName] ++
      ([.name d.name.exportName] ++ ([.opening] ++ ([.word keyword] ++
        (inner ++ [.closing, .closing])))))) := by
    simp [Declaration.tokens, Token.group, e]
  rw [tokens]
  refine (Token.reads_expect _).bind ((Token.reads_expect _).bind ((Token.reads_name _).bind
    ((Token.reads_name _).bind ((Token.reads_expect _).bind ((Token.reads_word _).bind ?_)))))
  have close : Reads (do Token.expect .closing; Token.expect .closing; return d)
      [.closing, .closing] d :=
    (Token.reads_expect .closing).bind ((Token.reads_expect .closing).finish rfl)
  intro rest
  rw [List.append_assoc, List.cons_append, Reader.bind_of_read (h _)]
  exact close rest

end Text

namespace Import

theorem apart_tokens : Token.Apart tokens := by
  intro i j
  refine ⟨.closing, .opening, _, ?_, rfl, rfl⟩
  rw [tokens, Token.group, ← List.cons_append, List.getLast?_concat]

/-- The text of imports is the text of each, with a space between two. -/
theorem watAll_eq_intercalate (is : List Import) : watAll is = " ".intercalate (is.map wat) :=
  Token.write_flatMap_eq_intercalate apart_tokens is

/-- The text of imports is read back as their declarations. -/
theorem ofWat?_watAll (is : List Import) :
    Declaration.ofWat? (watAll is) = some (is.map declaration) := by
  rw [Declaration.ofWat?, watAll_eq, String.toList_ofList,
    Token.read_write (Text.holdsInImports_wellFormed.forall_mem_flatMap _)]
  exact Reads.all Text.shrinks_readDeclaration fun d _ => Text.reads_declaration d

theorem plain_of_mem_watAll (is : List Import) :
    ∀ c ∈ (watAll is).toList, Text.Quoting.name.plain c = true := by
  rw [watAll_eq, String.toList_ofList]
  exact Token.plain_of_mem_write (Text.holdsInImports_printable.forall_mem_flatMap _)

/-- The text of any imports, whatever their names, is that of each with spaces between. It is
printable ASCII and is read back as just what the imports declare, in their order. So it tells
imports apart as far as their declarations differ: all that one text leaves open is the code behind
functions. -/
theorem text_tells_declarations (is : List Import) :
    watAll is = " ".intercalate (is.map wat) ∧
    (∀ c ∈ (watAll is).toList, 0x20 ≤ c.toNat ∧ c.toNat ≤ 0x7E) ∧
    Declaration.ofWat? (watAll is) = some (is.map declaration) ∧
    ∀ js, watAll js = watAll is ↔ js.map declaration = is.map declaration := by
  refine ⟨watAll_eq_intercalate is, fun c hc => ?_, ofWat?_watAll is,
    fun js => ⟨fun h => ?_, fun h => ?_⟩⟩
  · simpa [Text.Quoting.name] using plain_of_mem_watAll is c hc
  · have read := ofWat?_watAll js
    rw [h, ofWat?_watAll, Option.some.injEq] at read
    exact read.symm
  · rw [watAll_eq, watAll_eq, h]

end Import

end Embedder
