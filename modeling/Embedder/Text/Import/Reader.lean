import Embedder.Text.Import

/-!
Reading imports in the text format. All of an import can be read but the code behind a function.
-/

namespace Embedder

open Text (Token)

namespace Text

/-- Value types up to the closing parenthesis. -/
def readTypes : Reader Token (List ValueType)
  | [] => none
  | .closing :: rest => some ([], rest)
  | t :: rest => do
    let type ← Token.type? t
    let (types, rest) ← readTypes rest
    some (type :: types, rest)

/-- The types of a group with the given keyword, none where there is no such group. -/
def readClause (keyword : String) : Reader Token (List ValueType)
  | .opening :: .word text :: rest =>
    if text = keyword then readTypes rest else some ([], .opening :: .word text :: rest)
  | rest => some ([], rest)

/-- What follows `func` in a function type: one result at most. -/
def readSignature : Reader Token Signature := do
  let params ← readClause "param"
  let results ← readClause "result"
  guard (results.length ≤ 1)
  return ⟨params, results.head?⟩

/-- A function type with its parentheses. -/
def readFunctionType : Reader Token Signature := do
  Token.expect .opening
  Token.expect (.word "func")
  let s ← readSignature
  Token.expect .closing
  return s

/-- A minimum, and a maximum if another number follows. -/
def readLimits : Reader Token Limits
  | min :: max :: rest => do
    let least ← Token.index? min
    match Token.index? max with
    | some most => some (⟨least, some most⟩, rest)
    | none => some (⟨least, none⟩, max :: rest)
  | _ => none

/-- A value type, in a group of its own where the global may change. -/
def readGlobal : Reader Token Resource
  | .opening :: .word "mut" :: t :: .closing :: rest =>
    (Token.type? t).map fun type => (.global type true, rest)
  | t :: rest => (Token.type? t).map fun type => (.global type false, rest)
  | [] => none

/-- What follows the keyword of an external type. -/
def readExternal (keyword : String) : Reader Token ExternalType :=
  if keyword = "func" then do
    return .function (← readSignature)
  else if keyword = "table" then do
    let limits ← readLimits
    Token.expect (.word "funcref")
    return .resource (.table limits)
  else if keyword = "memory" then do
    return .resource (.memory (← readLimits))
  else if keyword = "global" then do
    return .resource (← readGlobal)
  else failure

def readDeclaration : Reader Token Declaration := do
  Token.expect .opening
  Token.expect (.word "import")
  let moduleName ← Token.readName
  let exportName ← Token.readName
  Token.expect .opening
  let type ← readExternal (← Token.readWord)
  Token.expect .closing
  Token.expect .closing
  return ⟨⟨moduleName, exportName⟩, type⟩

/-! ### Sequences -/

theorem shrinks_readTypes : readTypes.Shrinks := by
  intro tokens
  fun_induction readTypes tokens <;> grind [Option.bind_eq_some_iff]

theorem consumes_readClause (keyword : String) : (readClause keyword).Consumes := by
  intro tokens
  have := shrinks_readTypes
  fun_cases readClause keyword tokens <;> grind [Reader.Shrinks]

theorem consumes_readSignature : readSignature.Consumes :=
  (consumes_readClause _).bind fun _ => (consumes_readClause _).bind fun _ =>
    (Reader.Consumes.ofGuard _).bind fun _ => .pure _

theorem consumes_readLimits : readLimits.Consumes := by
  intro tokens
  fun_cases readLimits tokens <;> grind [Option.bind_eq_some_iff]

theorem consumes_readGlobal : readGlobal.Consumes := by
  intro tokens
  fun_cases readGlobal tokens <;> grind [Option.map_eq_some_iff]

theorem consumes_readExternal (keyword : String) : (readExternal keyword).Consumes := by
  unfold readExternal
  split
  · exact consumes_readSignature.bind fun _ => .pure _
  split
  · exact consumes_readLimits.bind fun _ => (Token.shrinks_expect _).consumes.bind fun _ => .pure _
  split
  · exact consumes_readLimits.bind fun _ => .pure _
  split
  · exact consumes_readGlobal.bind fun _ => .pure _
  · exact .failure

theorem shrinks_readDeclaration : readDeclaration.Shrinks := by
  have expect t := (Token.shrinks_expect t).consumes
  have name := Token.shrinks_readName.consumes
  have word := Token.shrinks_readWord.consumes
  exact (Token.shrinks_expect _).bind fun _ => (expect _).bind fun _ => name.bind fun _ =>
    name.bind fun _ => (expect _).bind fun _ => word.bind fun _ =>
      (consumes_readExternal _).bind fun _ => (expect _).bind fun _ =>
        (expect _).bind fun _ => .pure _

end Text

/-- The signature that a text is the function type of. -/
def Signature.ofWat? (s : String) : Option Signature := do
  match Text.readFunctionType (← Text.Token.read s.toList) with
  | some (signature, []) => some signature
  | _ => none

/-- The imports that a text declares. -/
def Declaration.ofWat? (s : String) : Option (List Declaration) := do
  Text.readDeclaration.all Text.shrinks_readDeclaration (← Text.Token.read s.toList)

end Embedder
