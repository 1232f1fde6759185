import Embedder.Proofs.Text.Quoted
import Embedder.Text.Token

/-!
A sequence of tokens is read back from its text. Only words need a condition, that they are made of
the characters of words, and only after a word does it matter what comes next: a space or a closing
parenthesis, and neither can belong to it.
-/

namespace Embedder.Text.Token

open Reader (Reads)

/-- What can be written: a word must be one. -/
def WellFormed : Token → Prop
  | .word text => text ≠ "" ∧ text.toList.all isWordChar = true
  | _ => True

@[simp] theorem read_space (cs : List Char) : read (' ' :: cs) = read cs := by
  rw [read, if_pos rfl]

theorem read_word {text : String} (h : (word text).WellFormed) {rest : List Char}
    (stop : ∀ c ∈ rest.head?, isWordChar c = false) :
    read (text.toList ++ rest) = (read rest).map (word text :: ·) := by
  obtain ⟨ne, chars⟩ := h
  rw [List.all_eq_true] at chars
  cases e : text.toList with
  | nil => exact absurd (String.toList_eq_nil_iff.1 e) ne
  | cons c cs =>
    rw [e] at chars
    have hc : isWordChar c = true := chars c List.mem_cons_self
    obtain ⟨taken, left⟩ := Reader.takeWhile_dropWhile_append
      (fun c hc => chars c (List.mem_cons_of_mem _ hc)) stop
    have ne : c ≠ ' ' ∧ c ≠ '(' ∧ c ≠ ')' ∧ c ≠ '"' := by
      simpa [isWordChar, and_assoc] using hc
    obtain ⟨space, opening, closing, quote⟩ := ne
    rw [List.cons_append, read, if_neg space, if_neg opening, if_neg closing, if_neg quote, taken,
      left, ← e, String.ofList_toList]

theorem read_name (text : String) (rest : List Char) :
    read ((name text).chars ++ rest) = (read rest).map (name text :: ·) := by
  have h := Quoting.reads_quote Quoting.faithful_name text rest
  show read (Quoting.name.quote text ++ rest) = _
  rw [Quoting.quote, List.cons_append] at h ⊢
  rw [read, if_neg (by decide), if_neg (by decide), if_neg (by decide), if_pos rfl]
  split
  · rename_i e
    cases h.symm.trans e
    rfl
  · rename_i e
    cases h.symm.trans e

/-- A token is read back in front of anything that cannot belong to it. -/
theorem read_chars {t : Token} (h : t.WellFormed) {rest : List Char}
    (stop : ∀ text, t = word text → ∀ c ∈ rest.head?, isWordChar c = false) :
    read (t.chars ++ rest) = (read rest).map (t :: ·) := by
  cases t with
  | opening =>
    show read ('(' :: rest) = _
    rw [read, if_neg (by decide), if_pos rfl]
  | closing =>
    show read (')' :: rest) = _
    rw [read, if_neg (by decide), if_neg (by decide), if_pos rfl]
  | word text => exact read_word h (stop text rfl)
  | name text => exact read_name text rest

theorem read_gap (t u : Token) (rest : List Char) : read (gap t u ++ rest) = read rest := by
  unfold gap
  split
  · rfl
  · rfl
  · exact read_space rest

/-- A gap ends a word, or else the closing parenthesis that stands for it. -/
theorem stop_gap (text : String) (u : Token) (rest : List Token) :
    ∀ c ∈ (gap (word text) u ++ write (u :: rest)).head?, isWordChar c = false := by
  intro c hc
  cases u with
  | closing =>
    have first : (gap (word text) closing ++ write (closing :: rest)).head? = some ')' := by
      cases rest <;> rfl
    rw [first] at hc
    cases hc
    decide
  | _ =>
    cases hc
    decide

/-- Tokens are read back from their text. -/
theorem read_write : ∀ {ts : List Token}, (∀ t ∈ ts, t.WellFormed) → read (write ts) = some ts
  | [], _ => by rw [write, read]
  | [t], h => by
    rw [write, ← List.append_nil t.chars, read_chars (h t List.mem_cons_self), read]
    · rfl
    · intro _ _ _ hc
      cases hc
  | t :: u :: rest, h => by
    have tail := read_write fun t ht => h t (List.mem_cons_of_mem _ ht)
    rw [write, List.append_assoc, read_chars (h t List.mem_cons_self), read_gap, tail]
    · rfl
    · rintro text rfl
      exact stop_gap text u rest

/-- What is written together has one gap more. -/
theorem write_append (u : Token) (us : List Token) : ∀ {ts : List Token} {t : Token},
    ts.getLast? = some t → write (ts ++ u :: us) = write ts ++ gap t u ++ write (u :: us)
  | [t], _, h => by
    cases h
    rfl
  | t :: t' :: ts, _, h => by
    rw [List.getLast?_cons_cons] at h
    have ih := write_append u us h
    rw [List.cons_append, List.cons_append, write, ← List.cons_append, ih]
    simp [write]

/-- Different sequences have different texts. -/
theorem write_inj {ts us : List Token} (ht : ∀ t ∈ ts, t.WellFormed) (hu : ∀ u ∈ us, u.WellFormed) :
    write ts = write us ↔ ts = us := by
  refine ⟨fun h => ?_, congrArg write⟩
  have read := read_write ht
  rw [h, read_write hu, Option.some.injEq] at read
  exact read.symm

/-- Whichever of two things is written after the other, there is a space between them. -/
def Apart (tokens : α → List Token) : Prop :=
  ∀ x y, ∃ t u us, (tokens x).getLast? = some t ∧ tokens y = u :: us ∧ gap t u = [' ']

/-- The text of all is the text of each, with a space between two. -/
theorem write_flatMap_eq_intercalate {tokens : α → List Token} (apart : Apart tokens) :
    ∀ xs : List α, String.ofList (write (xs.flatMap tokens)) =
      " ".intercalate (xs.map fun x => String.ofList (write (tokens x)))
  | [] => rfl
  | [x] => by simp
  | x :: y :: xs => by
    obtain ⟨t, u, us, last, first, space⟩ := apart x y
    have split : write ((x :: y :: xs).flatMap tokens) =
        write (tokens x) ++ [' '] ++ write ((y :: xs).flatMap tokens) := by
      rw [List.flatMap_cons, List.flatMap_cons, first, List.cons_append, write_append u _ last,
        space]
    have ih := write_flatMap_eq_intercalate apart (y :: xs)
    rw [List.map_cons] at ih
    rw [split, List.map_cons, List.map_cons, String.intercalate_cons_cons, ← ih]
    apply String.toList_inj.1
    simp

/-! ### Words -/

theorem keyed_inj {key : String} {m n : Nat} :
    word (key ++ toString m) = word (key ++ toString n) ↔ m = n := by
  rw [word.injEq, ← String.toList_inj, String.toList_append, String.toList_append,
    List.append_cancel_left_eq, String.toList_inj, toString_inj]

/-- A class of characters without the four that end a word. -/
theorem isWordChar_of_class {p : Char → Bool} (other : [' ', '(', ')', '"'].any p = false)
    {c : Char} (h : p c = true) : isWordChar c = true := by
  rw [List.any_eq_false] at other
  have ne : ∀ d ∈ [' ', '(', ')', '"'], c ≠ d := by
    rintro d hd rfl
    exact other c hd h
  simpa [isWordChar, and_assoc] using ne

theorem isWordChar_of_isDigit {c : Char} (h : c.isDigit = true) : isWordChar c = true :=
  isWordChar_of_class (by decide) h

/-- A number in decimal, after any characters of words. -/
theorem wellFormed_keyed {key : String} (h : key.toList.all isWordChar = true) (n : Nat) :
    (word (key ++ toString n)).WellFormed := by
  rw [List.all_eq_true] at h
  constructor
  · intro e
    have digits := congrArg String.toList e
    rw [String.toList_append, toList_toString] at digits
    exact Nat.toDigits_ne_nil (List.append_eq_nil_iff.1 digits).2
  · refine List.all_eq_true.2 fun c hc => ?_
    rw [String.toList_append, toList_toString] at hc
    rcases List.mem_append.1 hc with hc | hc
    · exact h c hc
    · exact isWordChar_of_isDigit (isDigit_of_mem_toDigits hc)

theorem wellFormed_index (n : UInt32) : (index n).WellFormed := by
  have h := wellFormed_keyed (show "".toList.all isWordChar = true by decide) n.toNat
  rwa [String.empty_append] at h

@[simp] theorem index?_index (n : UInt32) : index? (index n) = some n := by
  have lt : n.toNat < UInt32.size := n.toNat_lt
  show (decimal? (toString n.toNat).toList).bind _ = _
  rw [toList_toString, decimal?_toDigits, Option.bind_some, if_pos lt, UInt32.ofNat_toNat]

theorem wellFormed_type (t : ValueType) : (type t).WellFormed := by
  show t.name ≠ "" ∧ t.name.toList.all isWordChar = true
  cases t <;> decide

@[simp] theorem type?_type (t : ValueType) : type? (type t) = some t := t.ofName?_name

theorem forall_mem_group {P : Token → Prop} {inner : List Token} :
    (∀ t ∈ group inner, P t) ↔ P opening ∧ (∀ t ∈ inner, P t) ∧ P closing := by
  simp [group, or_imp, forall_and]

theorem wellFormed_group {inner : List Token} (h : ∀ t ∈ inner, t.WellFormed) :
    ∀ t ∈ group inner, t.WellFormed :=
  forall_mem_group.2 ⟨trivial, h, trivial⟩

/-! ### One token -/

theorem reads_expect (t : Token) : Reads (expect t) [t] () :=
  (Reads.next t).bind (Reads.ofGuard rfl)

theorem reads_word (text : String) : Reads readWord [word text] text :=
  (Reads.next (word text)).finish rfl

theorem reads_name (text : String) : Reads readName [name text] text :=
  (Reads.next (name text)).finish rfl

/-! ### Printable tokens -/

/-- All of the token is printable ASCII. -/
def Printable (t : Token) : Prop := ∀ c ∈ t.chars, Quoting.name.plain c = true

theorem printable_word {text : String} (h : text.toList.all Quoting.name.plain = true) :
    (word text).Printable := List.all_eq_true.1 h

theorem printable_name (text : String) : (name text).Printable :=
  fun _ => Quoting.plain_of_mem_quote

theorem printable_type (t : ValueType) : (type t).Printable :=
  printable_word (by cases t <;> decide)

theorem printable_index (n : UInt32) : (index n).Printable := by
  intro c hc
  refine Quoting.plain_of_isDigit (isDigit_of_mem_toDigits (n := n.toNat) ?_)
  rwa [← toList_toString]

/-- Between printable tokens there is at most a space. -/
theorem plain_of_mem_write : ∀ {ts : List Token}, (∀ t ∈ ts, t.Printable) →
    ∀ c ∈ write ts, Quoting.name.plain c = true
  | [], _, _, hc => nomatch hc
  | [t], h, c, hc => h t List.mem_cons_self c hc
  | t :: u :: rest, h, c, hc => by
    rw [write, List.mem_append, List.mem_append] at hc
    rcases hc with (hc | hc) | hc
    · exact h t List.mem_cons_self c hc
    · unfold gap at hc
      split at hc
      · cases hc
      · cases hc
      · rw [List.mem_singleton.1 hc]
        simp [Quoting.name]
    · exact plain_of_mem_write (fun t ht => h t (List.mem_cons_of_mem _ ht)) c hc

end Embedder.Text.Token
