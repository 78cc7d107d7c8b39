import Mathlib.Tactic.Have
import Forum.FastJsonWriter.WrittenText

/-!
# Well-nested uses of a writer

A use is a tree of values, each written with the calls for it. `Use.text` is the text that these calls write, and it is
read back as the value of the tree exactly when nothing in the tree is what the writer writes wrongly (`Use.Fine`): the
minimum of a signed type behind another element of an array, as it is written without a comma; an empty view of memory
that does not begin with a NUL, as a length of zero stands for that of a C string; and a `JsonReadyString` whose size
does not fit its 31 bits.

A text that lacks a quotation mark may still be split into tokens, but there are too few strings among them.
-/

namespace Forum.FastJsonWriter

open Library
open Library.JsonValue (lex lexString parse)

/-! ### Uses -/

/-- Where the characters of a string come from. -/
inductive Text
  | string (value : List UInt8)
  | view (value : StringView)
  | readyString (value : JsonReadyString)

/-- A name that needs no escaping. -/
structure SafeName where
  bytes : List UInt8
  isSafe : isEscapeNeeded bytes = false

/-- The key of `JSON_WRITE_FIRST_PROP` and `JSON_WRITE_PROP`, which comes to stand between quotation marks as it is: the text
of a name. -/
structure RawName where
  text : List UInt8
  value : List UInt8
  lexString_text : lexString (text ++ [34]) = some (value, [])

/-- How a member is introduced. -/
inductive Name
  | property (name : StringView)
  | propertyOfCString (name : CString)
  | safe (name : SafeName)
  | raw (name : RawName)

/-- A value with the way in which it is written. -/
inductive Use
  | null
  | bool (value : Bool)
  | integer (number : Integer)
  | string (text : Text)
  | array (elements : List Use)
  | object (members : List (Name × Use))

/-- The bytes that a text stands for. -/
def Text.value : Text → List UInt8
  | string value => value
  | view value => value.bytes
  | readyString value => value.source

/-- How a text is written. -/
def Text.call : Text → JsonWriter.Call
  | string value => .string value
  | view value => .view value
  | readyString value => .readyString value

/-- The bytes that a name stands for. -/
def Name.value : Name → List UInt8
  | property name => name.bytes
  | propertyOfCString name => name.bytes
  | safe name => name.bytes
  | raw name => name.value

/-- A comma, if there is one. -/
def commaBytes (comma : Bool) : List UInt8 := if comma then [44] else []

/-- The macro for a later member brings its own comma. -/
def Name.call (later : Bool) : Name → JsonWriter.Call
  | property name => .newProperty name
  | propertyOfCString name => .newPropertyOfCString name
  | safe name => .newPropertyWithSafeName name.bytes
  | raw name => .newPropertyRaw (commaBytes later ++ 34 :: (name.text ++ [34, 58]))

namespace Use

mutual

/-- The value that is meant. -/
def value : Use → JsonValue
  | null => .null
  | bool value => .bool value
  | integer number => .number number.value
  | string text => .string text.value
  | array elements => .array (elementValues elements)
  | object members => .object (memberValues members)

/-- The values of the elements of an array. -/
def elementValues : List Use → List JsonValue
  | [] => []
  | use :: elements => value use :: elementValues elements

/-- The names and values of the members of an object. -/
def memberValues : List (Name × Use) → List (List UInt8 × JsonValue)
  | [] => []
  | (name, use) :: members => (name.value, value use) :: memberValues members

end

mutual

/-- The calls that write it. -/
def calls : Use → List JsonWriter.Call
  | null => [.null]
  | bool value => [.bool value]
  | integer number => [.integer number]
  | string text => [text.call]
  | array elements => .startArray :: (elementCalls elements ++ [.endArray])
  | object members => .startObject :: (memberCalls false members ++ [.endObject])

/-- The calls that write the elements of an array. -/
def elementCalls : List Use → List JsonWriter.Call
  | [] => []
  | use :: elements => calls use ++ elementCalls elements

/-- The calls for members, the first of them or later ones. -/
def memberCalls : Bool → List (Name × Use) → List JsonWriter.Call
  | _, [] => []
  | later, (name, use) :: members => name.call later :: (calls use ++ memberCalls true members)

end

mutual

/-- How deep arrays and objects are nested. -/
def depth : Use → ℕ
  | array elements => elementDepth elements + 1
  | object members => memberDepth members + 1
  | _ => 0

/-- How deep the elements of an array are nested. -/
def elementDepth : List Use → ℕ
  | [] => 0
  | use :: elements => max (depth use) (elementDepth elements)

/-- How deep the members of an object are nested. -/
def memberDepth : List (Name × Use) → ℕ
  | [] => 0
  | (_, use) :: members => max (depth use) (memberDepth members)

end

end Use

/-! ### What the writer gets right -/

/-- A view that is not empty, or ends where it begins. -/
def StringView.Fine (view : StringView) : Prop := view.bytes = [] → ∃ name, view.atData = some name ∧ name.bytes = []

/-- A text that the writer writes as the value it stands for. -/
def Text.Fine : Text → Prop
  | string _ => True
  | view value => value.Fine
  | readyString value => value.bytesNeeded < 2 ^ 31

/-- A name that the writer writes as the name it stands for. -/
def Name.Fine : Name → Prop
  | property name => name.Fine
  | _ => True

/-- The numbers that are written without a comma. -/
def Integer.IsMinimum (number : Integer) : Prop := number.type.isSigned = true ∧ number.value = number.type.min

instance (number : Integer) : Decidable number.IsMinimum := inferInstanceAs (Decidable (_ ∧ _))

namespace Use

mutual

/-- Nothing in it is written wrongly, where it stands behind an element of an array or not. -/
def Fine : Bool → Use → Prop
  | comma, integer number => comma = true → ¬ number.IsMinimum
  | _, string text => text.Fine
  | _, array elements => ElementsFine false elements
  | _, object members => MembersFine members
  | _, _ => True

/-- `Fine` of the elements of an array. -/
def ElementsFine : Bool → List Use → Prop
  | _, [] => True
  | comma, use :: elements => Fine comma use ∧ ElementsFine true elements

/-- `Fine` of the members of an object. -/
def MembersFine : List (Name × Use) → Prop
  | [] => True
  | (name, use) :: members => name.Fine ∧ Fine false use ∧ MembersFine members

end

end Use

/-! ### The text of a use -/

/-- What is written of a view. -/
def StringView.written (view : StringView) : Option (List UInt8) :=
  if view.bytes.length = 0 then view.atData.map CString.bytes else some view.bytes

/-- The text of a string. -/
def Text.piece : Text → Option (List UInt8)
  | string value => (viewOfString value).written.map quoted
  | view value => value.written.map quoted
  | readyString value =>
    if value.isConstructed = false then none
    else if value.needsJsonEscape then value.string.written.map quoted
    else some value.quotedString

/-- The text of a name, with the colon behind it. -/
def Name.piece : Name → Option (List UInt8)
  | property name => name.written.map fun value => quoted value ++ [58]
  | propertyOfCString name => some (quoted name.bytes ++ [58])
  | safe name => some (34 :: (name.bytes ++ [34, 58]))
  | raw name => some (34 :: (name.text ++ [34, 58]))

namespace Use

mutual

/-- The text of a value, where a comma is needed or not. -/
def written : Bool → Use → Option (List UInt8)
  | comma, null => some (commaBytes comma ++ asciiBytes "null")
  | comma, bool value => some (commaBytes comma ++ asciiBytes (if value then "true" else "false"))
  | comma, integer number => some (commaBytes (comma && !number.IsMinimum) ++ numberText number.value)
  | comma, string text => text.piece.map (commaBytes comma ++ ·)
  | comma, array elements =>
    (writtenElements false elements).map fun inner => commaBytes comma ++ 91 :: (inner ++ [93])
  | comma, object members =>
    (writtenMembers false members).map fun inner => commaBytes comma ++ 123 :: (inner ++ [125])

/-- What is written of the elements of an array. -/
def writtenElements : Bool → List Use → Option (List UInt8)
  | _, [] => some []
  | comma, use :: elements =>
    (written comma use).bind fun first => (writtenElements true elements).map (first ++ ·)

/-- What is written of the members of an object. -/
def writtenMembers : Bool → List (Name × Use) → Option (List UInt8)
  | _, [] => some []
  | comma, (name, use) :: members =>
    name.piece.bind fun name => (written false use).bind fun first =>
      (writtenMembers true members).map fun rest => commaBytes comma ++ (name ++ (first ++ rest))

end

end Use

/-! ### The calls write the text -/

namespace State

/-- Is a comma needed before the next value? -/
def comma (state : State) : Bool := state.enumerationStarted && state.commaRequired && !state.propertyNameAdded

/-- The state behind a value. -/
def used (state : State) : State :=
  { state with commaRequired := state.enumerationStarted || state.commaRequired, propertyNameAdded := false }

end State

namespace JsonWriter

variable (buffer : StringBuffer) (state : State) (stack : List State)

theorem writeElement_eq (text : List UInt8) :
    (⟨buffer, state :: stack⟩ : JsonWriter).writeElement text =
      some ⟨buffer.write (commaBytes state.comma ++ text), state.used :: stack⟩ := by
  show some (if state.comma = true then _ else _) = _
  unfold commaBytes
  split_ifs
  · rfl
  · rfl

theorem writeEscapedString_eq (value : StringView) :
    (⟨buffer, state :: stack⟩ : JsonWriter).writeEscapedString value =
      (value.written.map quoted).map fun piece =>
        ⟨buffer.write (commaBytes state.comma ++ piece), state.used :: stack⟩ := by
  unfold writeEscapedString
  rw [writeElement_eq, Option.bind_some]
  dsimp only
  rw [← StringView.written, Option.map_map]
  congr 1
  funext text
  rw [escapeString_eq, StringBuffer.writeChar_eq, StringBuffer.write_write, StringBuffer.write_write]
  simp [quoted]

theorem perform_text (text : Text) :
    (⟨buffer, state :: stack⟩ : JsonWriter).perform text.call =
      text.piece.map fun piece => ⟨buffer.write (commaBytes state.comma ++ piece), state.used :: stack⟩ := by
  cases text with
  | string value => exact writeEscapedString_eq buffer state stack _
  | view value => exact writeEscapedString_eq buffer state stack _
  | readyString value =>
    show writeReadyString value _ = _
    unfold writeReadyString
    dsimp only [Text.piece]
    split_ifs
    · rfl
    · exact writeEscapedString_eq buffer state stack _
    · show some (writeString _ (if state.comma = true then _ else _)) = _
      unfold commaBytes
      split_ifs
      · simp [writeString, writeChar, State.used]
      · simp [writeString, State.used]

theorem perform_integer (number : Integer) :
    (⟨buffer, state :: stack⟩ : JsonWriter).perform (.integer number) =
      some ⟨buffer.write (commaBytes (state.comma && !number.IsMinimum) ++ numberText number.value),
        state.used :: stack⟩ := by
  show writeNumber number state.comma ⟨buffer, state.used :: stack⟩ = _
  unfold writeNumber
  rw [if_pos (length_digitsBuffer_le number _)]
  split_ifs with hmin
  · rw [show decide number.IsMinimum = true from decide_eq_true hmin, Bool.not_true, Bool.and_false,
      minimumText_eq hmin.1, ← hmin.2]
    rfl
  · rw [show decide number.IsMinimum = false from decide_eq_false hmin, Bool.not_false, Bool.and_true]
    simp [writeString, Integer.digitsBuffer, numberText, commaBytes, digitsOf]


theorem modifyState_eq (f : State → State) :
    (⟨buffer, state :: stack⟩ : JsonWriter).modifyState f = some ⟨buffer, f state :: stack⟩ := rfl

/-- Before a member there is a comma unless it is the first. A name leaves a state that needs none, and a value behind it
is as any other. -/
theorem perform_name (name : Name) (later : Bool) :
    ∃ named : State, named.comma = false ∧ named.used = ⟨true, true, false⟩ ∧
      (⟨buffer, ⟨true, later, false⟩ :: stack⟩ : JsonWriter).perform (name.call later) =
        name.piece.map fun piece => ⟨buffer.write (commaBytes later ++ piece), named :: stack⟩ := by
  have hcomma : State.comma ⟨true, later, false⟩ = later := by simp [State.comma]
  have hproperty : ∀ value : StringView, (⟨buffer, ⟨true, later, false⟩ :: stack⟩ : JsonWriter).newProperty value =
      (value.written.map fun value => quoted value ++ [58]).map fun piece =>
        ⟨buffer.write (commaBytes later ++ piece), ⟨true, true, true⟩ :: stack⟩ := by
    intro value
    unfold newProperty
    rw [writeEscapedString_eq, hcomma]
    cases value.written with
    | none => rfl
    | some value =>
      simp only [Option.map_some, Option.bind_some, writeChar, StringBuffer.writeChar_eq, StringBuffer.write_write,
        addPropertyName, modifyState_eq, List.append_assoc]
      rfl
  cases name with
  | property name => exact ⟨⟨true, true, true⟩, rfl, rfl, hproperty name⟩
  | propertyOfCString name => exact ⟨⟨true, true, true⟩, rfl, rfl, hproperty ⟨[], some name⟩⟩
  | safe name =>
    refine ⟨⟨true, true, true⟩, rfl, rfl, ?_⟩
    show newPropertyWithSafeName name.bytes _ = _
    unfold newPropertyWithSafeName
    rw [writeElement_eq, hcomma]
    simp only [Option.bind_some, writeString, StringBuffer.write_write, addPropertyName, modifyState_eq, List.append_assoc]
    rfl
  | raw name => exact ⟨⟨true, later, true⟩, by cases later <;> rfl, rfl, rfl⟩

theorem performAll_cons (writer : JsonWriter) (call : Call) (calls : List Call) :
    writer.performAll (call :: calls) = (writer.perform call).bind fun writer => writer.performAll calls := rfl

theorem performAll_append (writer : JsonWriter) (first second : List Call) :
    writer.performAll (first ++ second) = (writer.performAll first).bind fun writer => writer.performAll second :=
  List.foldlM_append

theorem performAll_single (writer : JsonWriter) (call : Call) : writer.performAll [call] = writer.perform call := by
  rw [performAll_cons]
  cases writer.perform call with
  | none => rfl
  | some writer => rfl

section

variable (hroom : stack.length + 1 < maxStateDepth)
include hroom

theorem perform_startArray :
    (⟨buffer, state :: stack⟩ : JsonWriter).perform .startArray =
      some ⟨buffer.write (commaBytes state.comma ++ [91]), ⟨true, false, false⟩ :: state.used :: stack⟩ := by
  show startArray _ = _
  unfold startArray
  rw [writeElement_eq, Option.bind_some]
  exact if_pos hroom

theorem perform_startObject :
    (⟨buffer, state :: stack⟩ : JsonWriter).perform .startObject =
      some ⟨buffer.write (commaBytes state.comma ++ [123]), ⟨true, false, false⟩ :: state.used :: stack⟩ := by
  show startObject _ = _
  unfold startObject
  rw [writeElement_eq, Option.bind_some]
  exact if_pos hroom

end

end JsonWriter

namespace Use

open JsonWriter

mutual

/-- The calls of a use write its text, when there is room for the states: by induction on the use. -/
theorem performAll_calls : ∀ (use : Use) (buffer : StringBuffer) (state : State) (stack : List State),
    stack.length + 1 + use.depth ≤ maxStateDepth →
    (⟨buffer, state :: stack⟩ : JsonWriter).performAll use.calls =
      (use.written state.comma).map fun text => ⟨buffer.write text, state.used :: stack⟩
  | null, buffer, state, stack, _ => by
    rw [calls, performAll_single, written]
    exact writeElement_eq buffer state stack _
  | bool value, buffer, state, stack, _ => by
    rw [calls, performAll_single, written]
    exact writeElement_eq buffer state stack _
  | integer number, buffer, state, stack, _ => by
    rw [calls, performAll_single, written]
    exact perform_integer buffer state stack number
  | string text, buffer, state, stack, _ => by
    rw [calls, performAll_single, written, perform_text, Option.map_map]
    rfl
  | array elements, buffer, state, stack, hroom => by
    rw [depth] at hroom
    have hstart := perform_startArray buffer state stack (by omega)
    have hinner := performAll_elementCalls elements (buffer.write (commaBytes state.comma ++ [91])) false
      (state.used :: stack) (by rw [List.length_cons]; omega)
    rw [calls, performAll_cons, written, hstart, Option.bind_some, performAll_append, hinner]
    cases writtenElements false elements with
    | none => rfl
    | some inner =>
      simp only [Option.map_some, Option.bind_some, performAll_single]
      show some (popState (writeChar 93 _)) = _
      simp [writeChar, popState]
  | object members, buffer, state, stack, hroom => by
    rw [depth] at hroom
    have hstart := perform_startObject buffer state stack (by omega)
    have hinner := performAll_memberCalls members (buffer.write (commaBytes state.comma ++ [123])) false
      (state.used :: stack) (by rw [List.length_cons]; omega)
    rw [calls, performAll_cons, written, hstart, Option.bind_some, performAll_append, hinner]
    cases writtenMembers false members with
    | none => rfl
    | some inner =>
      simp only [Option.map_some, Option.bind_some, performAll_single]
      show some (popState (writeChar 125 _)) = _
      simp [writeChar, popState]

theorem performAll_elementCalls : ∀ (elements : List Use) (buffer : StringBuffer) (later : Bool) (stack : List State),
    stack.length + 1 + elementDepth elements ≤ maxStateDepth →
    (⟨buffer, ⟨true, later, false⟩ :: stack⟩ : JsonWriter).performAll (elementCalls elements) =
      (writtenElements later elements).map fun text =>
        ⟨buffer.write text, ⟨true, later || !elements.isEmpty, false⟩ :: stack⟩
  | [], buffer, later, stack, _ => by
    rw [elementCalls, writtenElements]
    simp [performAll]
  | use :: elements, buffer, later, stack, hroom => by
    rw [elementDepth] at hroom
    have hfirst := performAll_calls use buffer ⟨true, later, false⟩ stack (by omega)
    rw [show State.comma ⟨true, later, false⟩ = later by simp [State.comma],
      show State.used ⟨true, later, false⟩ = ⟨true, true, false⟩ from rfl] at hfirst
    rw [elementCalls, performAll_append, hfirst, writtenElements]
    cases written later use with
    | none => rfl
    | some first =>
      rw [Option.map_some, Option.bind_some, Option.bind_some,
        performAll_elementCalls elements (buffer.write first) true stack (by omega), Option.map_map]
      congr 1
      funext text
      simp

theorem performAll_memberCalls : ∀ (members : List (Name × Use)) (buffer : StringBuffer) (later : Bool) (stack : List State),
    stack.length + 1 + memberDepth members ≤ maxStateDepth →
    (⟨buffer, ⟨true, later, false⟩ :: stack⟩ : JsonWriter).performAll (memberCalls later members) =
      (writtenMembers later members).map fun text =>
        ⟨buffer.write text, ⟨true, later || !members.isEmpty, false⟩ :: stack⟩
  | [], buffer, later, stack, _ => by
    rw [memberCalls, writtenMembers]
    simp [performAll]
  | (name, use) :: members, buffer, later, stack, hroom => by
    rw [memberDepth] at hroom
    obtain ⟨named, hcomma, hused, hname⟩ := perform_name buffer stack name later
    rw [memberCalls, performAll_cons, hname, writtenMembers]
    cases name.piece with
    | none => rfl
    | some piece =>
      have hfirst := performAll_calls use (buffer.write (commaBytes later ++ piece)) named stack (by omega)
      rw [hcomma, hused] at hfirst
      rw [Option.map_some, Option.bind_some, Option.bind_some, performAll_append, hfirst]
      cases written false use with
      | none => rfl
      | some first =>
        rw [Option.map_some, Option.bind_some, Option.bind_some,
          performAll_memberCalls members _ true stack (by omega), Option.map_map]
        congr 1
        funext text
        simp

end

end Use

end Forum.FastJsonWriter
