import Embedder.Proofs.Reader
import Embedder.Proofs.Text.Digits
import Embedder.Text.Quoted

/-!
Quoted text is read back whatever it holds. A character is read back from each of its three forms,
and since the closing quote is in none of them, so is a text of any characters. All that is written
for a name is printable ASCII.
-/

namespace Embedder.Text.Quoting

open Reader (Reads)

/-- What it takes that the forms can be told apart: a letter stands for its character and is not
that of a code point, and the quote and the backslash have letters. -/
structure Faithful (q : Quoting) : Prop where
  letter : ∀ p ∈ q.letters, p.2 ≠ 'u' ∧ q.ofLetter? p.2 = some p.1
  quote : q.letters.lookup '"' ≠ none
  backslash : q.letters.lookup '\\' ≠ none

theorem faithful_name : name.Faithful := ⟨by decide, by decide, by decide⟩

theorem faithful_description : description.Faithful := ⟨by decide, by decide, by decide⟩

@[simp] theorem ofCode?_toNat (c : Char) : ofCode? c.toNat = some c := by
  have valid : c.toNat.isValidChar := c.valid
  rw [ofCode?, if_pos valid, Char.ofNat_toNat]

theorem digitChar_ne_closing : ∀ d < 16, d.digitChar ≠ '\x7d' := by decide

/-- The digits of a code point lead to the place where all of them have been read. -/
theorem readFrom_code_toDigits (q : Quoting) (n : Nat) (rest : List Char) :
    q.readFrom (.code 0) (Nat.toDigits 16 n ++ rest) = q.readFrom (.code n) rest := by
  refine read_toDigits (by decide) (fun n => q.readFrom (.code n)) ?_ n rest
  intro soFar d rest hd
  rw [readFrom, if_neg (digitChar_ne_closing d hd), hexDigit?_digitChar d hd]
  rfl

/-! ### What names are written with -/

theorem plain_of_isDigit {c : Char} (h : c.isDigit = true) : name.plain c = true := by
  have h := Char.isDigit_iff_toNat.1 h
  simp [name] at h ⊢
  omega

theorem plain_digitChar : ∀ d < 16, name.plain d.digitChar = true := by decide

/-- Whatever character a name has, what is written for it is printable ASCII. -/
theorem plain_of_mem_char {c d : Char} (h : d ∈ name.char c) : name.plain d = true := by
  have letters : ∀ p ∈ name.letters, name.plain p.2 = true := by simp [name]
  rw [char] at h
  split at h
  · rename_i l hl
    obtain ⟨before, after, e, -⟩ := List.lookup_eq_some_iff.1 hl
    simp only [List.mem_cons, List.not_mem_nil, or_false] at h
    rcases h with rfl | rfl
    · simp [name]
    · exact letters (c, d) (by simp [e])
  · split at h
    · rename_i plain
      rwa [List.mem_singleton.1 h]
    · simp only [List.mem_cons, List.mem_append, List.not_mem_nil, or_false] at h
      rcases h with rfl | rfl | rfl | h | rfl
      · simp [name]
      · simp [name]
      · simp [name]
      · obtain ⟨n, hn, rfl⟩ := exists_digit_of_mem_toDigits (by simp) h
        exact plain_digitChar n hn
      · simp [name]

theorem plain_of_mem_quote {s : String} {c : Char} (h : c ∈ name.quote s) :
    name.plain c = true := by
  simp only [quote, List.mem_cons, List.mem_append, List.mem_flatMap, List.not_mem_nil,
    or_false] at h
  rcases h with rfl | ⟨d, -, h⟩ | rfl
  · simp [name]
  · exact plain_of_mem_char h
  · simp [name]

/-! ### Reading back -/

variable {q : Quoting} (h : q.Faithful)

include h

theorem readFrom_char (c : Char) (rest : List Char) : q.readFrom .text (q.char c ++ rest) =
    (q.readFrom .text rest).map fun (cs, rest) => (c :: cs, rest) := by
  rw [char]
  cases hl : q.letters.lookup c with
  | some l =>
    obtain ⟨before, after, e, -⟩ := List.lookup_eq_some_iff.1 hl
    obtain ⟨ne, meant⟩ := h.letter (c, l) (by rw [e]; simp)
    show q.readFrom .text ('\\' :: l :: rest) = _
    rw [readFrom, if_neg (by decide), if_pos rfl, readFrom, if_neg ne, meant]
    cases q.readFrom .text rest <;> rfl
  | none =>
    dsimp only
    split
    · have quote : c ≠ '"' := by
        rintro rfl
        exact h.quote hl
      have backslash : c ≠ '\\' := by
        rintro rfl
        exact h.backslash hl
      rw [List.singleton_append, readFrom, if_neg quote, if_neg backslash]
      cases q.readFrom .text rest <;> rfl
    · show q.readFrom .text
        ('\\' :: 'u' :: '\x7b' :: (Nat.toDigits 16 c.toNat ++ ['\x7d'] ++ rest)) = _
      rw [readFrom, if_neg (by decide), if_pos rfl, readFrom, if_pos rfl, readFrom, if_pos rfl,
        List.append_assoc, readFrom_code_toDigits, List.singleton_append, readFrom, if_pos rfl,
        ofCode?_toNat]
      cases q.readFrom .text rest <;> rfl

/-- A quoted text is read back. -/
theorem reads_quote (s : String) : Reads q.read (q.quote s) s := by
  intro rest
  have all : ∀ cs, q.readFrom .text (cs.flatMap q.char ++ '"' :: rest) = some (cs, rest) := by
    intro cs
    induction cs with
    | nil => rw [List.flatMap_nil, List.nil_append, readFrom, if_pos rfl]
    | cons c cs ih =>
      rw [List.flatMap_cons, List.append_assoc, readFrom_char h, ih, Option.map_some]
  have e : q.quote s ++ rest = '"' :: (s.toList.flatMap q.char ++ '"' :: rest) := by
    rw [quote, List.cons_append, List.append_assoc, List.singleton_append]
  rw [e, read, all, Option.map_some]
  show some (String.ofList s.toList, rest) = _
  rw [String.ofList_toList]

end Embedder.Text.Quoting
