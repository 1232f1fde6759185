import Embedder.Text.Quoted
import Embedder.ValueType

/-!
The text format is a sequence of tokens: parentheses, words, and names in double quotes. Writing
puts one space between two tokens, but none on the inner side of a parenthesis; reading takes any
number of spaces.
-/

namespace Embedder.Text

inductive Token where
  | opening
  | closing
  | word (text : String)
  | name (text : String)
  deriving DecidableEq, Repr

namespace Token

def chars : Token → List Char
  | .opening => ['(']
  | .closing => [')']
  | .word text => text.toList
  | .name text => Quoting.name.quote text

/-- What stands between two neighbours. -/
def gap : Token → Token → List Char
  | .opening, _ => []
  | _, .closing => []
  | _, _ => [' ']

/-- A sequence as it is written. -/
def write : List Token → List Char
  | [] => []
  | [t] => t.chars
  | t :: u :: rest => t.chars ++ gap t u ++ write (u :: rest)

/-- A sequence in parentheses. -/
def group (inner : List Token) : List Token := .opening :: (inner ++ [.closing])

/-- An index in decimal. -/
def index (n : UInt32) : Token := .word (toString n.toNat)

/-- A value type by its name. -/
def type (t : ValueType) : Token := .word t.name

/-! ### Reading -/

/-- The characters of words. -/
def isWordChar (c : Char) : Bool := c != ' ' && c != '(' && c != ')' && c != '"'

/-- The tokens of a text, nothing where a name in it is not well written. -/
def read : List Char → Option (List Token)
  | [] => some []
  | c :: cs =>
    if c = ' ' then read cs
    else if c = '(' then (read cs).map (.opening :: ·)
    else if c = ')' then (read cs).map (.closing :: ·)
    else if c = '"' then
      match _e : Quoting.name.read (c :: cs) with
      | some (s, rest) => (read rest).map (.name s :: ·)
      | none => none
    else
      (read (cs.dropWhile isWordChar)).map
        (.word (String.ofList (c :: cs.takeWhile isWordChar)) :: ·)
  termination_by cs => cs.length
  decreasing_by
  · exact Nat.lt_succ_self _
  · exact Nat.lt_succ_self _
  · exact Nat.lt_succ_self _
  · exact Quoting.name.shrinks_read _e
  · exact Nat.lt_succ_of_le (List.dropWhile_sublist isWordChar).length_le

/-- The value type that a token names. -/
def type? : Token → Option ValueType
  | .word text => ValueType.ofName? text
  | _ => none

/-- The 32-bit number that a token is. -/
def index? : Token → Option UInt32
  | .word text => do
    let n ← decimal? text.toList
    if n < UInt32.size then some (UInt32.ofNat n) else none
  | _ => none

/-- One token and no other. -/
def expect (t : Token) : Reader Token Unit := do
  guard ((← Reader.next) = t)

/-- The text of a word. -/
def readWord : Reader Token String := do
  match ← Reader.next with
  | .word text => return text
  | _ => failure

/-- The text of a name. -/
def readName : Reader Token String := do
  match ← Reader.next with
  | .name text => return text
  | _ => failure

theorem shrinks_expect (t : Token) : (expect t).Shrinks :=
  Reader.shrinks_next.bind fun _ => .ofGuard _

theorem shrinks_readWord : readWord.Shrinks := by
  refine Reader.shrinks_next.bind fun t => ?_
  cases t with
  | word text => exact .pure text
  | _ => exact .failure

theorem shrinks_readName : readName.Shrinks := by
  refine Reader.shrinks_next.bind fun t => ?_
  cases t with
  | name text => exact .pure text
  | _ => exact .failure

end Token

end Embedder.Text
