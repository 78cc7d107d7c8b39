import Mathlib.Data.Int.Notation
import Mathlib.Data.List.TakeWhile
import Mathlib.Tactic.SplitIfs
import Forum.Library.Ascii

/-!
# Writing JSON

`StringBuffer`, `JsonReadyString` and `JsonWriter`. What an undefined access or a state stack that is too deep would lead
to is no result: `none`. Sizes of texts that are held in memory do not overflow a `size_t`.

Of a view, the writer reads the bytes; when there are none it takes the length that `strlen` finds, so what is in the
memory at `data()` belongs to a view.
-/

namespace Forum.FastJsonWriter

open Library

/-! ### Characters that are escaped -/

/-- `ToEscape`: `0` for what is written as it is, `0xFF` for what needs a sequence of six characters, and otherwise the
character behind the backslash. -/
def toEscape (c : UInt8) : UInt8 :=
  if c = 0x08 then 0x62
  else if c = 0x09 then 0x74
  else if c = 0x0A then 0x6E
  else if c = 0x0C then 0x66
  else if c = 0x0D then 0x72
  else if c < 0x20 then 0xFF
  else if c = 0x22 then 0x22
  else if c = 0x2F then 0x2F
  else if c = 0x5C then 0x5C
  else 0x00

/-- `isEscapeNeeded`. -/
def isEscapeNeeded (value : List UInt8) : Bool := value.any fun c => toEscape c != 0

/-- `HexDigits`. -/
def hexDigits (digit : UInt8) : UInt8 := if digit < 10 then 48 + digit else 55 + digit

/-! ### The buffer -/

/-- `StringBuffer`: what has been written, and the size of the memory for it. -/
@[ext]
structure StringBuffer where
  growWith : ℕ
  /-- The assertion of the constructor. -/
  le_growWith : 128 ≤ growWith
  capacity : ℕ
  /-- The bytes that are used. -/
  view : List UInt8
  length_view_le : view.length ≤ capacity

namespace StringBuffer

/-- An empty buffer, of a size of one growth. -/
def construct (growWith : ℕ) (h : 128 ≤ growWith) : StringBuffer := ⟨growWith, h, growWith, [], Nat.zero_le _⟩

/-- `while (capacity_ < needed) resize()`. -/
def resizeWhile (growWith : ℕ) (h : 128 ≤ growWith) (needed capacity : ℕ) : ℕ :=
  if capacity < needed then resizeWhile growWith h needed (capacity + growWith) else capacity
termination_by needed - capacity

theorem le_resizeWhile (growWith : ℕ) (h : 128 ≤ growWith) (needed capacity : ℕ) :
    needed ≤ resizeWhile growWith h needed capacity := by
  fun_induction resizeWhile growWith h needed capacity with
  | case1 capacity _ ih => exact ih
  | case2 capacity hle => exact Nat.not_lt.1 hle

/-- `write(value, size)` and `writeFixed`. -/
def write (buffer : StringBuffer) (value : List UInt8) : StringBuffer where
  growWith := buffer.growWith
  le_growWith := buffer.le_growWith
  capacity := resizeWhile buffer.growWith buffer.le_growWith (buffer.view.length + value.length) buffer.capacity
  view := buffer.view ++ value
  length_view_le := by
    rw [List.length_append]
    exact le_resizeWhile _ _ _ _

/-- `write(value)` of one character grows the memory at most once. -/
def writeChar (buffer : StringBuffer) (value : UInt8) : StringBuffer where
  growWith := buffer.growWith
  le_growWith := buffer.le_growWith
  capacity := if buffer.capacity < buffer.view.length + 1 then buffer.capacity + buffer.growWith else buffer.capacity
  view := buffer.view ++ [value]
  length_view_le := by
    have hview := buffer.length_view_le
    have hgrow := buffer.le_growWith
    rw [List.length_append, List.length_singleton]
    split_ifs <;> omega

/-- Growing for less first makes no difference. -/
theorem resizeWhile_resizeWhile (growWith : ℕ) (h : 128 ≤ growWith) {less needed : ℕ} (hle : less ≤ needed) (capacity : ℕ) :
    resizeWhile growWith h needed (resizeWhile growWith h less capacity) = resizeWhile growWith h needed capacity := by
  fun_induction resizeWhile growWith h less capacity with
  | case1 capacity hlt ih =>
    rw [ih]
    conv => rhs; unfold resizeWhile
    rw [if_pos (Nat.lt_of_lt_of_le hlt hle)]
  | case2 => rfl

@[simp] theorem write_write (buffer : StringBuffer) (first second : List UInt8) :
    (buffer.write first).write second = buffer.write (first ++ second) := by
  refine StringBuffer.ext rfl ?_ (List.append_assoc _ _ _)
  show resizeWhile buffer.growWith buffer.le_growWith ((buffer.view ++ first).length + second.length)
    (resizeWhile buffer.growWith buffer.le_growWith (buffer.view.length + first.length) buffer.capacity) =
      resizeWhile buffer.growWith buffer.le_growWith (buffer.view.length + (first ++ second).length) buffer.capacity
  rw [List.length_append, resizeWhile_resizeWhile _ _ (Nat.le_add_right _ _), List.length_append, Nat.add_assoc]

@[simp] theorem write_nil (buffer : StringBuffer) : buffer.write [] = buffer := by
  refine StringBuffer.ext rfl ?_ (List.append_nil _)
  show resizeWhile _ _ buffer.view.length _ = buffer.capacity
  unfold resizeWhile
  rw [if_neg (Nat.not_lt.2 buffer.length_view_le)]

@[simp] theorem writeChar_eq (buffer : StringBuffer) (value : UInt8) : buffer.writeChar value = buffer.write [value] := by
  refine StringBuffer.ext rfl ?_ rfl
  show (if _ then _ else _) = resizeWhile _ _ (buffer.view.length + 1) _
  have hview := buffer.length_view_le
  have hgrow := buffer.le_growWith
  unfold resizeWhile
  split_ifs with hfull
  · unfold resizeWhile
    rw [if_neg (by omega)]
  · rfl

end StringBuffer

/-- The loop of `escapeString`: `pending` is what lies between `directWriteFrom` and the character. -/
def escapeLoop (destination : StringBuffer) (pending : List UInt8) : List UInt8 → StringBuffer
  | [] => if pending.isEmpty then destination else destination.write pending
  | c :: value =>
    if toEscape c = 0 then escapeLoop destination (pending ++ [c]) value
    else
      let destination := if pending.isEmpty then destination else destination.write pending
      if toEscape c < 0xFF then escapeLoop (destination.write [92, toEscape c]) [] value
      else escapeLoop (destination.write (asciiBytes "\\u00" ++ [hexDigits (c / 16), hexDigits (c % 16)])) [] value

/-- `escapeString`. -/
def escapeString (value : List UInt8) (destination : StringBuffer) : StringBuffer :=
  if isEscapeNeeded value then escapeLoop destination [] value else destination.write value

/-! ### Strings -/

/-- A string that ends at its first NUL. -/
structure CString where
  bytes : List UInt8
  zero_notMem : 0 ∉ bytes

/-- What is in memory before the first NUL. -/
def CString.ofMemory (bytes : List UInt8) : CString where
  bytes := bytes.takeWhile (· ≠ 0)
  zero_notMem := fun hzero => by simpa using List.mem_takeWhile_imp hzero

/-- `std::string_view`. -/
structure StringView where
  bytes : List UInt8
  /-- What `strlen` finds at `data()`, unless it reads what may not be read. -/
  atData : Option CString

/-- A `std::string` has a NUL behind its bytes. -/
def viewOfString (value : List UInt8) : StringView where
  bytes := value
  atData := some (.ofMemory value)

/-- `JsonReadyString`: in its memory is a text with quotation marks around it, unless it has to be escaped. -/
structure JsonReadyString where
  stackSize : ℕ
  source : List UInt8

namespace JsonReadyString

variable (r : JsonReadyString)

/-- Does the source have characters to escape? -/
def needsJsonEscape : Bool := isEscapeNeeded r.source

/-- The bytes that the constructor asks the container for. -/
def bytesNeeded : ℕ := if r.needsJsonEscape then r.source.length else r.source.length + 2

/-- `SizeWithBool` stores the size in 31 bits. -/
def size : ℕ := r.bytesNeeded % 2 ^ 31

/-- The bytes that the constructor writes to the container. -/
def content : List UInt8 := if r.needsJsonEscape then r.source else 34 :: (r.source ++ [34])

/-- Is there room for all of them? The container is on the stack when the size that it stores is small enough. -/
def isConstructed : Bool := r.stackSize < r.size || r.bytesNeeded ≤ r.stackSize

/-- `string` of a string that needs to be escaped. Nothing ends it in memory, unless a NUL in it does. -/
def string : StringView where
  bytes := r.content.take r.size
  atData := if 0 ∈ r.content then some (.ofMemory r.content) else none

/-- `quotedString`. -/
def quotedString : List UInt8 := r.content.take r.size

theorem length_content (r : JsonReadyString) : r.content.length = r.bytesNeeded := by
  unfold content bytesNeeded
  split_ifs
  · rfl
  · rw [List.length_cons, List.length_append, List.length_singleton]

theorem size_eq {r : JsonReadyString} (h : r.bytesNeeded < 2 ^ 31) : r.size = r.bytesNeeded := Nat.mod_eq_of_lt h

end JsonReadyString

/-! ### Integers -/

/-- The types of integers with an `operator<<`. A `signed char` becomes an `int`. -/
inductive IntegerType
  | char | unsignedChar | short | unsignedShort | int | unsignedInt | long | unsignedLong | longLong | unsignedLongLong
  deriving DecidableEq

namespace IntegerType

/-- `sizeof(T)`. -/
def sizeOf : IntegerType → ℕ
  | char | unsignedChar => 1
  | short | unsignedShort => 2
  | int | unsignedInt => 4
  | long | unsignedLong | longLong | unsignedLongLong => 8

/-- `std::numeric_limits<T>::is_signed`. -/
def isSigned : IntegerType → Bool
  | char | short | int | long | longLong => true
  | unsignedChar | unsignedShort | unsignedInt | unsignedLong | unsignedLongLong => false

/-- `std::numeric_limits<T>::min()`. -/
def min (type : IntegerType) : ℤ := if type.isSigned then -2 ^ (8 * type.sizeOf - 1) else 0

/-- `std::numeric_limits<T>::max()`. -/
def max (type : IntegerType) : ℤ := if type.isSigned then 2 ^ (8 * type.sizeOf - 1) - 1 else 2 ^ (8 * type.sizeOf) - 1

end IntegerType

/-- A value of a type of integers. -/
structure Integer where
  type : IntegerType
  value : ℤ
  min_le : type.min ≤ value
  le_max : value ≤ type.max

/-- `maxDigitsOfNumber`. -/
def maxDigitsOfNumber (numberOfBytes : ℕ) : ℕ :=
  if numberOfBytes = 1 then 3
  else if numberOfBytes = 2 then 5
  else if numberOfBytes = 4 then 10
  else if numberOfBytes = 8 then 20
  else if numberOfBytes = 16 then 39
  else 128

/-- What is written for the minimum of a signed type. -/
def minimumText (numberOfBytes : ℕ) : List UInt8 :=
  if numberOfBytes = 1 then asciiBytes "-128"
  else if numberOfBytes = 2 then asciiBytes "-32768"
  else if numberOfBytes = 4 then asciiBytes "-2147483648"
  else if numberOfBytes = 8 then asciiBytes "-9223372036854775808"
  else []

/-- `*digit-- = (value % 10) + '0'`. -/
def lastDigit (value : ℕ) : UInt8 := UInt8.ofNat (value % 10) + 48

/-- The loop that puts digits before those there are, until the value has only one. -/
def digitLoop (value : ℕ) (digits : List UInt8) : List UInt8 :=
  if 9 < value then digitLoop (value / 10) (lastDigit (value / 10) :: digits) else digits

/-- The text of a number, written backwards from the end of a buffer. -/
def Integer.digitsBuffer (number : Integer) (includeComma : Bool) : List UInt8 :=
  (if includeComma then [44] else []) ++ (if number.value < 0 then [45] else []) ++
    digitLoop number.value.natAbs [lastDigit number.value.natAbs]

/-! ### The writer -/

/-- `JsonWriterBase::State`. -/
structure State where
  enumerationStarted : Bool
  commaRequired : Bool
  propertyNameAdded : Bool

/-- `JsonWriterBase::MaxStateDepth`. -/
def maxStateDepth : ℕ := 32

/-- `JsonWriter`, with the states up to `stateIndex_`, the last one first. -/
structure JsonWriter where
  stringBufferOutput : StringBuffer
  stateStack : List State

namespace JsonWriter

/-- The constructor pushes a state to the empty stack. -/
def construct (stringBuffer : StringBuffer) : JsonWriter := ⟨stringBuffer, [⟨false, false, false⟩]⟩

/-- Writes bytes as they are. -/
def writeString (value : List UInt8) (writer : JsonWriter) : JsonWriter :=
  { writer with stringBufferOutput := writer.stringBufferOutput.write value }

/-- Writes one byte. -/
def writeChar (value : UInt8) (writer : JsonWriter) : JsonWriter :=
  { writer with stringBufferOutput := writer.stringBufferOutput.writeChar value }

/-- A change of the state that `peekState` returns. -/
def modifyState (f : State → State) (writer : JsonWriter) : Option JsonWriter :=
  match writer.stateStack with
  | [] => none
  | state :: stack => some { writer with stateStack := f state :: stack }

/-- `pushState`: `at` throws when there is no room. -/
def pushState (state : State) (writer : JsonWriter) : Option JsonWriter :=
  if writer.stateStack.length < maxStateDepth then some { writer with stateStack := state :: writer.stateStack } else none

/-- Leaves the innermost array or object. -/
def popState (writer : JsonWriter) : JsonWriter := { writer with stateStack := writer.stateStack.tail }

/-- `isCommaNeeded`. -/
def isCommaNeeded (writer : JsonWriter) : Option (Bool × JsonWriter) :=
  match writer.stateStack with
  | [] => none
  | state :: stack =>
    some (state.enumerationStarted && state.commaRequired && !state.propertyNameAdded,
      { writer with stateStack :=
        { state with commaRequired := state.enumerationStarted || state.commaRequired, propertyNameAdded := false } ::
          stack })

/-- A text, or the same with a comma before it when one is needed. -/
def writeElement (text : List UInt8) (writer : JsonWriter) : Option JsonWriter :=
  writer.isCommaNeeded.map fun comma => if comma.1 then comma.2.writeString (44 :: text) else comma.2.writeString text

/-- Writes `null`. -/
def null (writer : JsonWriter) : Option JsonWriter := writer.writeElement (asciiBytes "null")

/-- Opens an array. -/
def startArray (writer : JsonWriter) : Option JsonWriter :=
  (writer.writeElement [91]).bind (pushState ⟨true, false, false⟩)

/-- Closes an array. What is open is not checked. -/
def endArray (writer : JsonWriter) : Option JsonWriter := some (writer.writeChar 93).popState

/-- Opens an object. -/
def startObject (writer : JsonWriter) : Option JsonWriter :=
  (writer.writeElement [123]).bind (pushState ⟨true, false, false⟩)

/-- Closes an object. What is open is not checked. -/
def endObject (writer : JsonWriter) : Option JsonWriter := some (writer.writeChar 125).popState

/-- `writeEscapedString`: a length of zero stands for the one that `strlen` finds. -/
def writeEscapedString (value : StringView) (writer : JsonWriter) : Option JsonWriter :=
  (writer.writeElement [34]).bind fun writer =>
    let text := if value.bytes.length = 0 then value.atData.map CString.bytes else some value.bytes
    text.map fun text =>
      { writer with stringBufferOutput := (escapeString text writer.stringBufferOutput).writeChar 34 }

/-- What every function for a name does in the end. -/
def addPropertyName : JsonWriter → Option JsonWriter := modifyState fun state => { state with propertyNameAdded := true }

/-- `newProperty(std::string_view)`. -/
def newProperty (name : StringView) (writer : JsonWriter) : Option JsonWriter :=
  (writer.writeEscapedString name).bind fun writer => (writer.writeChar 58).addPropertyName

/-- `newProperty(const char*)`. -/
def newPropertyOfCString (name : CString) (writer : JsonWriter) : Option JsonWriter :=
  writer.newProperty ⟨[], some name⟩

/-- A property with a name that needs no escaping. -/
def newPropertyWithSafeName (name : List UInt8) (writer : JsonWriter) : Option JsonWriter :=
  (writer.writeElement [34]).bind fun writer => ((writer.writeString name).writeString [34, 58]).addPropertyName

/-- A property whose quotes and colon are part of what is passed. -/
def newPropertyRaw (name : List UInt8) (writer : JsonWriter) : Option JsonWriter := (writer.writeString name).addPropertyName

/-- Writes `true` or `false`. -/
def writeBool (value : Bool) (writer : JsonWriter) : Option JsonWriter :=
  writer.writeElement (asciiBytes (if value then "true" else "false"))

/-- `writeNumber`. There is no comma before the minimum of a signed type. -/
def writeNumber (number : Integer) (includeComma : Bool) (writer : JsonWriter) : Option JsonWriter :=
  if number.type.isSigned ∧ number.value = number.type.min then some (writer.writeString (minimumText number.type.sizeOf))
  else if (number.digitsBuffer includeComma).length ≤ maxDigitsOfNumber number.type.sizeOf + 3 then
    some (writer.writeString (number.digitsBuffer includeComma))
  else none

/-- `operator<<` of the types of integers. -/
def writeInteger (number : Integer) (writer : JsonWriter) : Option JsonWriter :=
  writer.isCommaNeeded.bind fun comma => comma.2.writeNumber number comma.1

/-- `operator<<(const JsonReadyStringBase&)`. -/
def writeReadyString (value : JsonReadyString) (writer : JsonWriter) : Option JsonWriter :=
  if value.isConstructed = false then none
  else if value.needsJsonEscape then writer.writeEscapedString value.string
  else writer.isCommaNeeded.map fun comma =>
    (if comma.1 then comma.2.writeChar 44 else comma.2).writeString value.quotedString

/-! ### Calls -/

/-- The calls of a writer. -/
inductive Call
  | null | startArray | endArray | startObject | endObject
  | bool (value : Bool)
  | integer (number : Integer)
  | string (value : List UInt8)
  | view (value : StringView)
  | readyString (value : JsonReadyString)
  | newProperty (name : StringView)
  | newPropertyOfCString (name : CString)
  | newPropertyWithSafeName (name : List UInt8)
  | newPropertyRaw (name : List UInt8)

/-- What a call makes of the writer, if it is defined. -/
def perform (writer : JsonWriter) : Call → Option JsonWriter
  | .null => writer.null
  | .startArray => writer.startArray
  | .endArray => writer.endArray
  | .startObject => writer.startObject
  | .endObject => writer.endObject
  | .bool value => writer.writeBool value
  | .integer number => writer.writeInteger number
  | .string value => writer.writeEscapedString (viewOfString value)
  | .view value => writer.writeEscapedString value
  | .readyString value => writer.writeReadyString value
  | .newProperty name => writer.newProperty name
  | .newPropertyOfCString name => writer.newPropertyOfCString name
  | .newPropertyWithSafeName name => writer.newPropertyWithSafeName name
  | .newPropertyRaw name => writer.newPropertyRaw name

/-- The calls one after the other. -/
def performAll (writer : JsonWriter) (calls : List Call) : Option JsonWriter := calls.foldlM perform writer

end JsonWriter

end Forum.FastJsonWriter
