import Embedder.Proofs.Binder.Events
import Embedder.Proofs.Reader
import Embedder.Proofs.Text.Digits

/-!
The text of a type tells the type, as long as structures are named by words that no primitive goes
by. How a type was made is told by the last symbol of its text: an angle or a square bracket closes
around another type, a parenthesis ends the unit type, and everything else is a word. So do messages
and events that name a type tell it, and it is the type that the method declares there.
-/

namespace Embedder

namespace HostType

/-! ### Names of structures -/

/-- The symbols of words. -/
def isNameChar (c : Char) : Bool := c.isAlphanum || c == '_' || c == ':'

def IsWord (text : String) : Prop := text ≠ "" ∧ text.toList.all isNameChar = true

instance (text : String) : Decidable (IsWord text) := inferInstanceAs (Decidable (_ ∧ _))

/-- The structure that the type is made of, if there is one, is named by a word that no primitive
goes by. -/
def WellNamed : HostType → Prop
  | .struct name => IsWord name ∧ name ∉ primitives.map text
  | .option inner => inner.WellNamed
  | .array element => element.WellNamed
  | _ => True

instance decidableWellNamed : (h : HostType) → Decidable h.WellNamed
  | .struct name => inferInstanceAs (Decidable (IsWord name ∧ name ∉ primitives.map text))
  | .option inner => decidableWellNamed inner
  | .array element => decidableWellNamed element
  | .num _ | .i8 | .i16 | .u8 | .u16 | .u32 | .u64 | .bool | .char | .str | .unit =>
    inferInstanceAs (Decidable True)

/-! ### How a type was made -/

/-- The symbol that closes the text of the type, if it is not a word. -/
def closing? : HostType → Option Char
  | .option _ => some '>'
  | .array _ => some ']'
  | .unit => some ')'
  | _ => none

variable {g h : HostType}

theorem closing?_eq_angle_iff : h.closing? = some '>' ↔ ∃ inner, h = .option inner := by
  cases h <;> simp [closing?]

theorem closing?_eq_square_iff : h.closing? = some ']' ↔ ∃ element, h = .array element := by
  cases h <;> simp [closing?]

theorem closing?_eq_round_iff : h.closing? = some ')' ↔ h = .unit := by
  cases h <;> simp [closing?]

theorem closing?_eq_none_iff : h.closing? = none ↔ h ∈ primitives ∨ ∃ name, h = .struct name := by
  cases h with
  | num t => cases t <;> simp [closing?, primitives]
  | _ => simp [closing?, primitives]

theorem isWord_of_mem_primitives : ∀ h ∈ primitives, IsWord h.text := by decide

theorem isWord_text (named : h.WellNamed) (word : h.closing? = none) : IsWord h.text := by
  rcases closing?_eq_none_iff.1 word with primitive | ⟨name, rfl⟩
  · exact isWord_of_mem_primitives h primitive
  · exact named.1

/-- What closes a text is its last symbol. -/
theorem getLast?_text {c : Char} (closed : h.closing? = some c) :
    h.text.toList.getLast? = some c := by
  cases h with
  | option inner =>
    cases closed
    rw [text, String.toList_append]
    exact List.getLast?_concat
  | array element =>
    cases closed
    rw [text, String.toList_append]
    exact List.getLast?_concat
  | unit =>
    cases closed
    rfl
  | _ => cases closed

/-- The last symbol of the text tells how the type was made. -/
theorem filter_getLast?_text (named : h.WellNamed) :
    h.text.toList.getLast?.filter (!isNameChar ·) = h.closing? := by
  cases hc : h.closing? with
  | none =>
    obtain ⟨-, chars⟩ := isWord_text named hc
    refine Option.filter_eq_none_iff.2 fun c last => ?_
    simp [List.all_eq_true.1 chars c (List.mem_of_getLast? last)]
  | some c =>
    have other : isNameChar c = false := by
      cases h <;> cases hc <;> decide
    rw [getLast?_text hc]
    simp [other]

theorem closing?_eq_of_text_eq (hg : g.WellNamed) (hh : h.WellNamed) (e : g.text = h.text) :
    g.closing? = h.closing? := by
  rw [← filter_getLast?_text hg, e, filter_getLast?_text hh]

/-! ### Types with one text -/

theorem eq_of_text_eq_of_primitives :
    ∀ g ∈ primitives, ∀ h ∈ primitives, g.text = h.text → g = h := by
  decide

theorem eq_of_text_eq_of_words (hg : g.WellNamed) (hh : h.WellNamed) (word : g.closing? = none)
    (word' : h.closing? = none) (e : g.text = h.text) : g = h := by
  rcases closing?_eq_none_iff.1 word with primitive | ⟨name, rfl⟩ <;>
    rcases closing?_eq_none_iff.1 word' with primitive' | ⟨name', rfl⟩
  · exact eq_of_text_eq_of_primitives g primitive h primitive' e
  · exact absurd (List.mem_map.2 ⟨g, primitive, e⟩) hh.2
  · exact absurd (List.mem_map.2 ⟨h, primitive', e.symm⟩) hg.2
  · exact congrArg struct e

theorem eq_of_text_eq (hg : g.WellNamed) (hh : h.WellNamed) (e : g.text = h.text) : g = h := by
  -- the last symbol settles how the other type was made, and what it closes around is one type
  -- less deep
  induction g generalizing h with
  | option inner ih =>
    obtain ⟨inner', rfl⟩ := closing?_eq_angle_iff.1 (closing?_eq_of_text_eq hg hh e).symm
    have e : inner.text = inner'.text :=
      (String.append_right_inj _).1 ((String.append_left_inj _).1 e)
    exact congrArg option (ih hg (show inner'.WellNamed from hh) e)
  | array element ih =>
    obtain ⟨element', rfl⟩ := closing?_eq_square_iff.1 (closing?_eq_of_text_eq hg hh e).symm
    have e : element.text = element'.text :=
      (String.append_right_inj _).1 ((String.append_left_inj _).1 e)
    exact congrArg array (ih hg (show element'.WellNamed from hh) e)
  | unit => exact (closing?_eq_round_iff.1 (closing?_eq_of_text_eq hg hh e).symm).symm
  | _ => exact eq_of_text_eq_of_words hg hh rfl (closing?_eq_of_text_eq hg hh e).symm e

theorem text_eq_iff (hg : g.WellNamed) (hh : h.WellNamed) : g.text = h.text ↔ g = h :=
  ⟨eq_of_text_eq hg hh, congrArg text⟩

end HostType

/-! ### Messages -/

namespace Position

variable {p q : Position}

theorem text_param (i : Nat) :
    (param i).text.toList = "parameter ".toList ++ Nat.toDigits 10 i := by
  rw [← Text.toList_toString, ← String.toList_append]
  rfl

theorem text_param_ne_text_result (i : Nat) : (param i).text ≠ result.text := by
  intro e
  have first := congrArg (·.toList.head?) e
  rw [text_param] at first
  exact absurd (show some 'p' = some 'r' from first) (by decide)

theorem text_inj : p.text = q.text ↔ p = q := by
  refine ⟨fun e => ?_, congrArg text⟩
  cases p <;> cases q
  · rfl
  · exact absurd e.symm (text_param_ne_text_result _)
  · exact absurd e (text_param_ne_text_result _)
  · rw [Text.toString_inj.1 ((String.append_right_inj "parameter ").1 e)]

theorem quote_notMem_text : '\'' ∉ p.text.toList := by
  cases p with
  | result => decide
  | param i =>
    rw [text_param, List.mem_append]
    rintro (h | h)
    · exact absurd h (by decide)
    · exact absurd (Text.isDigit_of_mem_toDigits h) (by decide)

end Position

namespace BindError

/-- What a message says before it names a type. -/
def beforeType (p : Position) : String := "Unsupported " ++ p.text ++ " type "

/-- The first quote of a message stands before the type. -/
theorem span_message_unsupported (h : HostType) (p : Position) :
    (unsupported h p).message.toList.takeWhile (· != '\'') = (beforeType p).toList ∧
    (unsupported h p).message.toList.dropWhile (· != '\'') = '\'' :: (h.text ++ "'").toList := by
  have e : (unsupported h p).message.toList =
      (beforeType p).toList ++ '\'' :: (h.text ++ "'").toList := by
    have quote : " type '" = " type " ++ "'" := rfl
    rw [message, quote, ← String.append_assoc, ← beforeType, String.append_assoc,
      String.append_assoc, String.toList_append, String.toList_append]
    rfl
  have before : ∀ c ∈ (beforeType p).toList, (c != '\'') = true := by
    intro c hc
    rw [bne_iff_ne]
    rintro rfl
    rw [beforeType, String.toList_append, String.toList_append] at hc
    rcases List.mem_append.1 hc with hc | hc
    · rcases List.mem_append.1 hc with hc | hc
      · exact absurd hc (by decide)
      · exact Position.quote_notMem_text hc
    · exact absurd hc (by decide)
  rw [e]
  exact Reader.takeWhile_dropWhile_append before (by simp)

/-- A message tells the text of the type, and where it stands. -/
theorem message_unsupported_eq_iff {g h : HostType} {p q : Position} :
    (unsupported g p).message = (unsupported h q).message ↔ g.text = h.text ∧ p = q := by
  constructor
  · intro e
    obtain ⟨before, after⟩ := span_message_unsupported g p
    obtain ⟨before', after'⟩ := span_message_unsupported h q
    rw [e, before', String.toList_inj] at before
    rw [e, after', List.cons.injEq, String.toList_inj, String.append_left_inj] at after
    have position := (String.append_right_inj _).1 ((String.append_left_inj _).1 before)
    exact ⟨after.2.symm, (Position.text_inj.1 position).symm⟩
  · rintro ⟨same, rfl⟩
    rw [message, same, message]

end BindError

/-! ### Events -/

theorem Event.record_parameterTranslated_eq_iff {i j : Nat} {g h : HostType} {t u : ValueType} :
    (parameterTranslated i g t).record = (parameterTranslated j h u).record ↔
      i = j ∧ g.text = h.text ∧ t = u := by
  constructor
  · intro e
    have fields : (parameterTranslated i g t).fields = (parameterTranslated j h u).fields :=
      congrArg Record.fields e
    simp only [Event.fields, List.cons.injEq, Prod.mk.injEq, true_and, and_true] at fields
    obtain ⟨index, host, wasm⟩ := fields
    have type := t.ofName?_name
    rw [wasm, u.ofName?_name, Option.some.injEq] at type
    exact ⟨Text.toString_inj.1 index, host, type.symm⟩
  · rintro ⟨rfl, host, rfl⟩
    rw [record, record, fields, fields, host]
    rfl

theorem ValueType.mem_crossings {index i : Nat} {h : HostType} {t : ValueType} {ts : List ValueType}
    (told : .parameterTranslated i h t ∈ crossings index ts) :
    ∃ k, i = index + k ∧ (ts.map HostType.num)[k]? = some h := by
  induction ts generalizing index with
  | nil => cases told
  | cons u ts ih =>
    rcases List.mem_cons.1 told with same | later
    · cases same
      exact ⟨0, rfl, rfl⟩
    · obtain ⟨k, rfl, hk⟩ := ih later
      exact ⟨k + 1, by omega, hk⟩

/-! ### Declarations -/

/-- The type that the method declares there. -/
def Method.declaredAt? (m : Method) : Position → Option HostType
  | .result => m.result
  | .param i => m.params[i]?

namespace Binder

variable {b : Binder} {name : ImportName} {m : Method} {h : HostType}

theorem declaredAt?_of_unsupported {p : Position}
    (refused : (b.bind name m).answer = .error (.unsupported h p)) :
    m.declaredAt? p = some h := by
  obtain ⟨fault, -⟩ := (b.looksFor_bind name m).eq_error_iff.1 refused
  cases fault with
  | result declared => exact declared
  | param declared => exact declared

theorem declaredAt?_of_told {i : Nat} {t : ValueType}
    (told : .parameterTranslated i h t ∈ (b.bind name m).events) :
    m.declaredAt? (.param i) = some h := by
  by_cases reaches : m.ReachesParams name
  · obtain ⟨ts, rest, ⟨split, -⟩, events⟩ := b.events_bind_of_reachesParams reaches
    rw [events, List.mem_append] at told
    rcases told with param | bound
    · obtain ⟨k, rfl, hk⟩ := ValueType.mem_crossings param
      obtain ⟨lt, -⟩ := List.getElem?_eq_some_iff.1 hk
      rw [Nat.zero_add, Method.declaredAt?, split, List.getElem?_append_left lt, hk]
    · cases answer : (b.bind name m).answer with
      | error e =>
        rw [answer] at bound
        cases bound
      | ok f =>
        rw [answer] at bound
        cases List.mem_singleton.1 bound
  · obtain ⟨e, failed⟩ := b.bind_of_not_reachesParams reaches
    rw [failed] at told
    cases told

end Binder

/-- Of two types whose structures are named by words, and not by those of primitives, the texts are
equal just when the types are. So are the messages that refuse them, if they also stand in one
place, and the records of parameters that cross as such types. A type that is refused or told is the
one that the method declares in that place. -/
theorem text_identifies_type {g h : HostType} (hg : g.WellNamed) (hh : h.WellNamed) :
    (g.text = h.text ↔ g = h) ∧
    (∀ p q, (BindError.unsupported g p).message = (BindError.unsupported h q).message ↔
      g = h ∧ p = q) ∧
    (∀ i j t u,
      (Event.parameterTranslated i g t).record = (Event.parameterTranslated j h u).record ↔
      i = j ∧ g = h ∧ t = u) ∧
    ∀ (b : Binder) (name : ImportName) (m : Method),
      (∀ p, (b.bind name m).answer = .error (.unsupported g p) → m.declaredAt? p = some g) ∧
      ∀ i t, .parameterTranslated i g t ∈ (b.bind name m).events →
        m.declaredAt? (.param i) = some g := by
  have texts := HostType.text_eq_iff hg hh
  refine ⟨texts, fun p q => ?_, fun i j t u => ?_, fun b name m => ⟨fun p => ?_, fun i t => ?_⟩⟩
  · rw [BindError.message_unsupported_eq_iff, texts]
  · rw [Event.record_parameterTranslated_eq_iff, texts]
  · exact Binder.declaredAt?_of_unsupported
  · exact Binder.declaredAt?_of_told

/-- An optional structure by the name of `Option`, against the optional array of it. -/
theorem text_identifies_type_option :
    let g : HostType := .option (.struct "Option")
    let h : HostType := .option (.array (.struct "Option"))
    let b : Binder := ⟨2⟩
    let m : Method :=
      { name := "m", params := [.num .i32, g], body := some ⟨0, .reflective fun _ => .ok none⟩ }
    g.WellNamed ∧ h.WellNamed ∧ g.text ≠ h.text ∧
      (∀ p q, (BindError.unsupported g p).message ≠ (BindError.unsupported h q).message) ∧
      (b.bind ⟨"env", "f"⟩ m).answer = .error (.unsupported g (.param 1)) ∧
      m.declaredAt? (.param 1) = some g := by
  intro g h b m
  have hg : g.WellNamed := by decide
  have hh : h.WellNamed := by decide
  have apart : g ≠ h := by decide
  obtain ⟨texts, messages, -, declared⟩ := text_identifies_type hg hh
  have refused : (b.bind ⟨"env", "f"⟩ m).answer = .error (.unsupported g (.param 1)) := rfl
  refine ⟨hg, hh, fun same => apart (texts.1 same), fun p q same => ?_, refused, ?_⟩
  · obtain ⟨types, -⟩ := (messages p q).1 same
    exact apart types
  · obtain ⟨unsupported, -⟩ := declared b _ m
    exact unsupported _ refused

-- without the condition a name may be the text of another type
example : (HostType.struct "[u8]").text = (HostType.array .u8).text := rfl

end Embedder
