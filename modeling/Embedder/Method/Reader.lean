import Embedder.Method

/-!
Reading descriptions of methods. All of a method can be read but its code. A title goes as far as
its letters and digits do, which tells a type that is a title alone from one with something in
parentheses after its title.
-/

namespace Embedder

namespace Text

/-- Just this text. -/
def readLiteral (text : String) : Reader Char Unit := fun cs =>
  if text.toList.isPrefixOf cs then some ((), cs.drop text.toList.length) else none

/-- All the letters and digits in front. -/
def title (cs : List Char) : String := String.ofList (cs.takeWhile Char.isAlphanum)

/-- What follows the letters and digits in front. -/
def afterTitle (cs : List Char) : List Char := cs.dropWhile Char.isAlphanum

def readTitle : Reader Char String := fun cs => some (title cs, afterTitle cs)

/-- The one of these that has the title in front, with the text that ends the title. -/
def readTitled (all : List α) (titled : α → String) (ending : String) : Reader Char α := do
  let text ← readTitle
  readLiteral ending
  Reader.ofOption (all.find? (titled · == text))

/-- What was read, if a parenthesis closes after it. -/
def closed (make : α → β) : Option (α × List Char) → Option (β × List Char)
  | some (x, ')' :: rest) => some (make x, rest)
  | _ => none

theorem length_lt_of_closed {make : α → β} {x? : Option (α × List Char)} {y : β} {rest : List Char}
    {n : Nat} (h : ∀ x after, x? = some (x, after) → after.length < n)
    (e : closed make x? = some (y, rest)) : rest.length < n := by
  unfold closed at e
  split at e
  · cases e
    exact Nat.lt_of_succ_lt (h _ _ rfl)
  · cases e

theorem length_lt_of_afterTitle {cs rest : List Char} {c : Char} (e : afterTitle cs = c :: rest) :
    rest.length < cs.length := by
  have kept : (afterTitle cs).length ≤ cs.length := (List.dropWhile_sublist _).length_le
  rw [e] at kept
  exact kept

/-- Where there is a title, it takes something. -/
theorem length_afterTitle_lt {cs : List Char} (h : title cs ≠ "") :
    (afterTitle cs).length < cs.length := by
  have parts :=
    congrArg List.length (List.takeWhile_append_dropWhile (p := Char.isAlphanum) (l := cs))
  have taken : 0 < (cs.takeWhile Char.isAlphanum).length :=
    List.length_pos_iff.2 fun none => h (by rw [title, none, String.ofList_nil])
  rw [List.length_append] at parts
  unfold afterTitle
  omega

end Text

namespace HostType

open Text (closed length_lt_of_closed length_lt_of_afterTitle length_afterTitle_lt)

/-- The type that a title describes with nothing after it. -/
def ofTitle? (title : String) : Option HostType :=
  (unit :: primitives).find? (·.describe == title.toList)

/-- What a title makes of the type in the parentheses after it. -/
def holder? : String → Option (HostType → HostType)
  | "Option" => some option
  | "Array" => some array
  | _ => none

/-- A type as it stands in descriptions. -/
def readDescription (cs : List Char) : Option (HostType × List Char) :=
  match _e : Text.afterTitle cs with
  | '(' :: rest =>
    if Text.title cs = "Struct" then closed struct (Text.Quoting.description.read rest)
    else (holder? (Text.title cs)).bind fun hold => closed hold (readDescription rest)
  | rest => (ofTitle? (Text.title cs)).map fun h => (h, rest)
  termination_by cs.length
  decreasing_by all_goals exact length_lt_of_afterTitle _e

/-- A title is taken at least. -/
theorem shrinks_readDescription : Reader.Shrinks readDescription := by
  intro cs h rest e
  fun_induction readDescription cs generalizing h rest with
  | case1 cs _ opening =>
    refine Nat.lt_trans (length_lt_of_closed (fun _ _ read => ?_) e)
      (length_lt_of_afterTitle opening)
    exact Text.Quoting.description.shrinks_read read
  | case2 cs _ opening _ ih =>
    obtain ⟨hold, -, e⟩ := Option.bind_eq_some_iff.1 e
    exact Nat.lt_trans (length_lt_of_closed (fun _ _ read => ih read) e)
      (length_lt_of_afterTitle opening)
  | case3 cs =>
    obtain ⟨_, titled, e⟩ := Option.map_eq_some_iff.1 e
    cases e
    refine length_afterTitle_lt fun empty => ?_
    have nothing : ofTitle? "" = none := by decide
    rw [empty, nothing] at titled
    cases titled

/-- Types with a comma and a space between them, and the bracket that ends them. -/
def readDescriptions (cs : List Char) : Option (List HostType × List Char) :=
  match _e : readDescription cs with
  | some (h, ',' :: ' ' :: rest) => (readDescriptions rest).map fun (hs, rest) => (h :: hs, rest)
  | some (h, ']' :: rest) => some ([h], rest)
  | _ => none
  termination_by cs.length
  decreasing_by
    have shorter := shrinks_readDescription _e
    simp only [List.length_cons] at shorter
    omega

/-- The parameters with the bracket that ends them, which may be none. -/
def readParams : Reader Char (List HostType)
  | ']' :: rest => some ([], rest)
  | cs => readDescriptions cs

/-- The declared result, or that there is none. -/
def readResult : Reader Char (Option HostType) :=
  (do Text.readLiteral "None"; return none) <|> do
    Text.readLiteral "Some("
    let h ← readDescription
    Text.readLiteral ")"
    return some h

end HostType

namespace Method

/-- All of a method but its code: of that only whether there is any. -/
structure Outline where
  name : String
  visibility : Visibility
  receiver : Receiver
  definition : Definition
  params : List HostType
  result : Option HostType
  hasBody : Bool
  deriving DecidableEq, Repr

def outline (m : Method) : Outline :=
  ⟨m.name, m.visibility, m.receiver, m.definition, m.params, m.result, m.body.isSome⟩

def readOutline : Reader Char Outline := do
  Text.readLiteral "HostMethod \x7b name: "
  let name ← Text.Quoting.description.read
  Text.readLiteral ", visibility: "
  let visibility ← Text.readTitled [.shown, .hidden] Visibility.title ", receiver: "
  let receiver ← Text.readTitled [.static, .bound] Receiver.title ", definition: "
  let definition ← Text.readTitled [.complete, .underConstruction] Definition.title ", params: ["
  let params ← HostType.readParams
  Text.readLiteral ", result: "
  let result ← HostType.readResult
  Text.readLiteral ", body: "
  let hasBody ← Text.readTitled [true, false] toString " \x7d"
  return ⟨name, visibility, receiver, definition, params, result, hasBody⟩

/-- What the text describes, if it describes a method. -/
def Outline.ofDescription? (text : String) : Option Outline :=
  match readOutline text.toList with
  | some (outline, []) => some outline
  | _ => none

end Method

end Embedder
