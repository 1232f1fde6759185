import Embedder.Reader
import Embedder.Text.Digits
import Embedder.Text.Shown

/-!
Text between double quotes. A character is written by a backslash and a letter of its own, or as it
stands, or by its code point in hexadecimal between braces. Which way it goes is a matter of the
`Quoting`; reading knows all three and needs only the letters.
-/

namespace Embedder.Text

structure Quoting where
  /-- The characters written by a backslash and a letter, with their letters. -/
  letters : List (Char × Char)
  /-- The other characters that are written as they stand. -/
  plain : Char → Bool

namespace Quoting

/-- Names of imports: printable ASCII stands, and both quotes get a backslash. -/
def name : Quoting where
  letters := [('\t', 't'), ('\r', 'r'), ('\n', 'n'), ('\'', '\''), ('"', '"'), ('\\', '\\')]
  plain c := 0x20 ≤ c.toNat && c.toNat ≤ 0x7E

/-- Descriptions for people: whatever shows stands, but for the double quote and the backslash. -/
def description : Quoting where
  letters := [('\x00', '0'), ('\t', 't'), ('\r', 'r'), ('\n', 'n'), ('"', '"'), ('\\', '\\')]
  plain := isShown

/-- One character as it is written. -/
def char (q : Quoting) (c : Char) : List Char :=
  match q.letters.lookup c with
  | some letter => ['\\', letter]
  | none =>
    if q.plain c then [c]
    else '\\' :: 'u' :: '\x7b' :: (Nat.toDigits 16 c.toNat ++ ['\x7d'])

/-- Text with its quotes. -/
def quote (q : Quoting) (s : String) : List Char := '"' :: (s.toList.flatMap q.char ++ ['"'])

/-! ### Reading -/

/-- Where a reader stands: in the text, after a backslash, or in a code point of which some digits
have been read. -/
inductive Place where
  | text
  | escape
  | brace
  | code (soFar : Nat)
  deriving DecidableEq

/-- The character that a letter after a backslash stands for. -/
def ofLetter? (q : Quoting) (letter : Char) : Option Char :=
  (q.letters.find? (·.2 == letter)).map (·.1)

/-- The character of a code point, if it is one. -/
def ofCode? (n : Nat) : Option Char := if n.isValidChar then some (Char.ofNat n) else none

/-- The text up to the closing quote. -/
def readFrom (q : Quoting) : Place → Reader Char (List Char)
  | _, [] => none
  | .text, c :: rest =>
    if c = '"' then some ([], rest)
    else if c = '\\' then q.readFrom .escape rest
    else do
      let (cs, rest) ← q.readFrom .text rest
      some (c :: cs, rest)
  | .escape, c :: rest =>
    if c = 'u' then q.readFrom .brace rest
    else do
      let meant ← q.ofLetter? c
      let (cs, rest) ← q.readFrom .text rest
      some (meant :: cs, rest)
  | .brace, c :: rest => if c = '\x7b' then q.readFrom (.code 0) rest else none
  | .code n, c :: rest =>
    if c = '\x7d' then do
      let meant ← ofCode? n
      let (cs, rest) ← q.readFrom .text rest
      some (meant :: cs, rest)
    else do
      let digit ← hexDigit? c
      q.readFrom (.code (16 * n + digit)) rest

/-- A quoted text. -/
def read (q : Quoting) : Reader Char String
  | '"' :: rest => (q.readFrom .text rest).map fun (cs, rest) => (String.ofList cs, rest)
  | _ => none

theorem consumes_readFrom (q : Quoting) (place : Place) : (q.readFrom place).Consumes := by
  intro cs
  fun_induction readFrom q place cs <;> grind [Option.bind_eq_some_iff]

/-- The opening quote is taken at least. -/
theorem shrinks_read (q : Quoting) : q.read.Shrinks := by
  intro cs s rest h
  match cs with
  | [] => cases h
  | c :: cs =>
    simp only [read] at h
    split at h
    · rename_i e
      obtain ⟨r, hr, he⟩ := Option.map_eq_some_iff.1 h
      cases e
      cases he
      exact Nat.lt_succ_of_le (q.consumes_readFrom .text hr)
    · cases h

end Quoting

end Embedder.Text
