import Embedder.Method.Reader
import Embedder.Proofs.Text.Quoted

/-!
A description tells all of a method but its code. Names stand in quotes, so that nothing they hold
is taken for what comes after them, and types nest in parentheses; the rest is titles and text
between them. Each part is read back in front of what comes next, and so is the whole.
-/

namespace Embedder

open Reader (Reads)

/-! ### Titles -/

namespace Text

theorem reads_literal (text : String) : Reads (readLiteral text) text.toList () := by
  intro rest
  rw [readLiteral, if_pos (List.isPrefixOf_iff_prefix.2 (List.prefix_append _ _)), List.drop_left]

/-- A title is told from what comes after it by its letters and digits. -/
theorem title_append {text : String} (chars : text.toList.all Char.isAlphanum = true) {c : Char}
    (stop : c.isAlphanum = false) (rest : List Char) :
    title (text.toList ++ c :: rest) = text ∧
      afterTitle (text.toList ++ c :: rest) = c :: rest := by
  have stop : ∀ d ∈ (c :: rest).head?, d.isAlphanum = false := by
    rintro _ ⟨⟩
    exact stop
  obtain ⟨taken, left⟩ := Reader.takeWhile_dropWhile_append (List.all_eq_true.1 chars) stop
  exact ⟨by rw [title, taken, String.ofList_toList], left⟩

theorem reads_titled {all : List α} {titled : α → String} {ending : String} {c : Char}
    {cs : List Char} (ends : ending.toList = c :: cs) (stop : c.isAlphanum = false) {x : α}
    (chars : (titled x).toList.all Char.isAlphanum = true)
    (found : all.find? (titled · == titled x) = some x) :
    Reads (readTitled all titled ending) ((titled x).toList ++ ending.toList) x := by
  intro rest
  obtain ⟨text, after⟩ := title_append chars stop (cs ++ rest)
  have read : Reads (do readLiteral ending; Reader.ofOption (all.find? (titled · == titled x)))
      ending.toList x := (reads_literal ending).finish (by rw [found]; rfl)
  have first : readTitle ((titled x).toList ++ (ending.toList ++ rest)) =
      some (titled x, ending.toList ++ rest) := by
    rw [ends, List.cons_append, readTitle, text, after]
  rw [List.append_assoc, readTitled, Reader.bind_of_read first]
  exact read rest

end Text

/-! ### Types -/

namespace HostType

open Text (title_append closed)

/-- The symbols that a type may be followed by. -/
inductive Ends : Char → Prop
  | comma : Ends ','
  | closing : Ends ')'
  | bracket : Ends ']'

theorem Ends.isAlphanum {c : Char} (h : Ends c) : c.isAlphanum = false := by
  cases h <;> decide

theorem describe_struct (name : String) : (struct name).describe =
    "Struct".toList ++ '(' :: (Text.Quoting.description.quote name ++ [')']) := rfl

theorem describe_option (h : HostType) :
    (option h).describe = "Option".toList ++ '(' :: (h.describe ++ [')']) := rfl

theorem describe_array (h : HostType) :
    (array h).describe = "Array".toList ++ '(' :: (h.describe ++ [')']) := rfl

theorem title_of_mem : ∀ h ∈ unit :: primitives, h.describe.all Char.isAlphanum = true ∧
    ofTitle? (String.ofList h.describe) = some h := by
  decide

/-- What stands in parentheses goes up to the closing one. -/
theorem append_group (text inner rest : List Char) :
    text ++ '(' :: (inner ++ [')']) ++ rest = text ++ '(' :: (inner ++ ')' :: rest) := by
  simp

/-- A title with nothing in parentheses after it. -/
theorem readDescription_of_mem {h : HostType} (mem : h ∈ unit :: primitives) {c : Char}
    (ends : Ends c) (rest : List Char) :
    readDescription (h.describe ++ c :: rest) = some (h, c :: rest) := by
  obtain ⟨chars, found⟩ := title_of_mem h mem
  rw [← String.toList_ofList (l := h.describe)] at chars
  obtain ⟨titled, left⟩ := title_append chars ends.isAlphanum rest
  rw [String.toList_ofList] at titled left
  rw [readDescription]
  split
  · rename_i e
    rw [left] at e
    cases e
    cases ends
  · rw [titled, found, left]
    rfl

/-- A title with something in parentheses after it. -/
theorem readDescription_opening {text : String} (chars : text.toList.all Char.isAlphanum = true)
    (cs : List Char) : readDescription (text.toList ++ '(' :: cs) =
      if text = "Struct" then closed struct (Text.Quoting.description.read cs)
      else (holder? text).bind fun hold => closed hold (readDescription cs) := by
  obtain ⟨titled, left⟩ := title_append chars (show '('.isAlphanum = false by decide) cs
  rw [readDescription]
  split
  · rename_i e
    rw [left] at e
    cases e
    rw [titled]
  · rename_i other
    exact absurd left (other cs)

theorem readDescription_hold {text : String} {hold : HostType → HostType}
    (found : holder? text = some hold) (chars : text.toList.all Char.isAlphanum = true)
    {h : HostType} {cs rest : List Char}
    (inner : readDescription cs = some (h, ')' :: rest)) :
    readDescription (text.toList ++ '(' :: cs) = some (hold h, rest) := by
  have other : text ≠ "Struct" := by
    rintro rfl
    cases found
  rw [readDescription_opening chars, if_neg other, found, Option.bind_some, inner]
  rfl

/-- A type of any depth is read back in front of what may follow it. -/
theorem readDescription_describe (h : HostType) {c : Char} (ends : Ends c) (rest : List Char) :
    readDescription (h.describe ++ c :: rest) = some (h, c :: rest) := by
  induction h generalizing c rest with
  | num t => exact readDescription_of_mem (by cases t <;> decide) ends rest
  | struct name =>
    rw [describe_struct, append_group, readDescription_opening (by decide), if_pos rfl,
      Text.Quoting.reads_quote Text.Quoting.faithful_description]
    rfl
  | option inner ih =>
    rw [describe_option, append_group]
    exact readDescription_hold rfl (by decide) (ih .closing _)
  | array element ih =>
    rw [describe_array, append_group]
    exact readDescription_hold rfl (by decide) (ih .closing _)
  | _ => exact readDescription_of_mem (by decide) ends rest

theorem readDescription_cons_bracket (rest : List Char) : readDescription (']' :: rest) = none := by
  rw [readDescription]
  rfl

/-! ### Parameters and result -/

theorem readDescriptions_of_comma {h : HostType} {cs rest : List Char}
    (e : readDescription cs = some (h, ',' :: ' ' :: rest)) :
    readDescriptions cs = (readDescriptions rest).map fun (hs, rest) => (h :: hs, rest) := by
  rw [readDescriptions]
  split <;> simp_all

theorem readDescriptions_of_bracket {h : HostType} {cs rest : List Char}
    (e : readDescription cs = some (h, ']' :: rest)) : readDescriptions cs = some ([h], rest) := by
  rw [readDescriptions]
  split <;> simp_all

theorem readDescriptions_describeAll (h : HostType) (hs : List HostType) (rest : List Char) :
    readDescriptions (describeAll (h :: hs) ++ ']' :: rest) = some (h :: hs, rest) := by
  induction hs generalizing h with
  | nil => exact readDescriptions_of_bracket (h.readDescription_describe .bracket rest)
  | cons h' hs ih =>
    have e : describeAll (h :: h' :: hs) ++ ']' :: rest =
        h.describe ++ ',' :: ' ' :: (describeAll (h' :: hs) ++ ']' :: rest) := List.append_assoc ..
    rw [e, readDescriptions_of_comma (h.readDescription_describe .comma _), ih]
    rfl

theorem readDescriptions_cons_bracket (rest : List Char) :
    readDescriptions (']' :: rest) = none := by
  have nothing := readDescription_cons_bracket rest
  rw [readDescriptions]
  split <;> simp_all

theorem reads_params (hs : List HostType) : Reads readParams (describeAll hs ++ [']']) hs := by
  intro rest
  rw [List.append_assoc, List.singleton_append]
  cases hs with
  | nil => rfl
  | cons h hs =>
    have read := readDescriptions_describeAll h hs rest
    unfold readParams
    split
    · rename_i e
      rw [e, readDescriptions_cons_bracket] at read
      cases read
    · exact read

theorem reads_result (declared : Option HostType) :
    Reads readResult (describeResult declared) declared := by
  intro rest
  cases declared with
  | none => rfl
  | some h =>
    have e : describeResult (some h) ++ rest = "Some(".toList ++ (h.describe ++ ')' :: rest) := by
      show "Some(".toList ++ h.describe ++ [')'] ++ rest = _
      rw [List.append_assoc, List.append_assoc, List.singleton_append]
    have close : Reads (do Text.readLiteral ")"; return some h) [')'] (some h) :=
      (Text.reads_literal ")").finish rfl
    rw [e, readResult, Reader.orElse_of_refused rfl,
      Reader.bind_of_read (Text.reads_literal "Some(" _),
      Reader.bind_of_read (h.readDescription_describe .closing rest)]
    exact close rest

end HostType

/-! ### Methods -/

namespace Method

open Text (readTitled reads_literal reads_titled)

/-- A description is read back in front of anything. -/
theorem reads_readOutline (m : Method) : Reads readOutline m.describe m.outline := by
  have visibility : Reads (readTitled [.shown, .hidden] Visibility.title ", receiver: ")
      (m.visibility.title.toList ++ ", receiver: ".toList) m.visibility :=
    reads_titled rfl (by decide) (by cases m.visibility <;> decide) (by cases m.visibility <;> rfl)
  have receiver : Reads (readTitled [.static, .bound] Receiver.title ", definition: ")
      (m.receiver.title.toList ++ ", definition: ".toList) m.receiver :=
    reads_titled rfl (by decide) (by cases m.receiver <;> decide) (by cases m.receiver <;> rfl)
  have definition :
      Reads (readTitled [.complete, .underConstruction] Definition.title ", params: [")
      (m.definition.title.toList ++ ", params: [".toList) m.definition :=
    reads_titled rfl (by decide) (by cases m.definition <;> decide) (by cases m.definition <;> rfl)
  have body : Reads (readTitled [true, false] toString " \x7d")
      ((toString m.body.isSome).toList ++ " \x7d".toList) m.body.isSome :=
    reads_titled rfl (by decide) (by cases m.body.isSome <;> decide)
      (by cases m.body.isSome <;> rfl)
  have name := Text.Quoting.reads_quote Text.Quoting.faithful_description m.name
  -- every title goes with the text that ends it, and the parameters with their bracket
  have parts : m.describe = "HostMethod \x7b name: ".toList ++
      (Text.Quoting.description.quote m.name ++
      (", visibility: ".toList ++ ((m.visibility.title.toList ++ ", receiver: ".toList) ++
      ((m.receiver.title.toList ++ ", definition: ".toList) ++
      ((m.definition.title.toList ++ ", params: [".toList) ++
      ((HostType.describeAll m.params ++ [']']) ++ (", result: ".toList ++
      (HostType.describeResult m.result ++ (", body: ".toList ++
      ((toString m.body.isSome).toList ++ " \x7d".toList)))))))))) := by
    have bracket : "], result: ".toList = [']'] ++ ", result: ".toList := rfl
    unfold describe
    simp only [bracket, List.append_assoc]
  rw [parts]
  exact (reads_literal _).bind <| name.bind <| (reads_literal _).bind <| visibility.bind <|
    receiver.bind <| definition.bind <| (HostType.reads_params _).bind <| (reads_literal _).bind <|
    (HostType.reads_result _).bind <| (reads_literal _).bind <| body.finish rfl

theorem ofDescription?_description (m : Method) :
    Outline.ofDescription? m.description = some m.outline := by
  have read : readOutline m.describe = some (m.outline, []) := by simpa using m.reads_readOutline []
  rw [Outline.ofDescription?, description, String.toList_ofList, read]

/-- Methods that differ in their code alone are described alike. -/
theorem description_congr {m n : Method} (h : m.outline = n.outline) :
    m.description = n.description := by
  obtain ⟨name, visibility, receiver, definition, params, result, body⟩ := m
  obtain ⟨name', visibility', receiver', definition', params', result', body'⟩ := n
  obtain ⟨rfl, rfl, rfl, rfl, rfl, rfl, same⟩ := Outline.mk.inj h
  unfold description describe
  dsimp only
  rw [same]

/-- What a method is called, how it can be reached, whether it is complete, what it takes and
returns, and whether there is code for it are all told by its description, which is read back as
these; and the description tells nothing else. So no name makes a method look like another one, be
it of the method or of a structure in a type of any depth. -/
theorem description_tells_all_but_code (m n : Method) :
    Outline.ofDescription? m.description = some m.outline ∧
    (m.description = n.description ↔
      m.name = n.name ∧ m.visibility = n.visibility ∧ m.receiver = n.receiver ∧
        m.definition = n.definition ∧ m.params = n.params ∧ m.result = n.result ∧
        m.body.isSome = n.body.isSome) := by
  refine ⟨m.ofDescription?_description, fun h => ?_,
    fun h => description_congr (Outline.mk.injEq .. ▸ h)⟩
  have read := m.ofDescription?_description
  rw [h, n.ofDescription?_description, Option.some.injEq] at read
  exact Outline.mk.inj read.symm

end Method

end Embedder
