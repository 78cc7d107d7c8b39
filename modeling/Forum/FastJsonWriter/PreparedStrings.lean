import Forum.FastJsonWriter.StringContainer
import Forum.FastJsonWriter.WrittenText
import Forum.Library.Runs

/-!
# Prepared strings

`JsonReadyStringBase`: a container with a text that has its quotation marks already, unless it needs to be escaped, and behind
it what the derived class adds. The clients of such strings construct them, copy, move, assign and exchange them, and destroy
them in any order. Each string stays what it was constructed from, wherever it is put: `runs_prepared`.

What a constructor that throws leaves is a state without the object.
-/

namespace Forum.FastJsonWriter

open Library

/-- `SizeType` of a derived class, and its `getExtraSize`. -/
class DerivedString (σ : Type*) extends SizeType σ where
  getExtraSize : σ → ℕ

variable {stackSize : ℕ} {σ θ : Type*} [DerivedString σ]

namespace JsonReadyStringBase

/-! ### Functions -/

/-- The constructor, when `extraBytesNeeded` returns so many bytes. -/
def construct (p : Place) (source : List UInt8) (extraBytesNeeded : ℕ) (fresh : Fresh) (s : Containers stackSize σ θ) :
    Option (Containers stackSize σ θ) :=
  let sourceSize := source.length
  let escapeNeeded := isEscapeNeeded source
  let bytesNeeded := (if escapeNeeded then sourceSize else sourceSize + 2) + extraBytesNeeded
  ((s.construct p fresh).resize p bytesNeeded fresh).bind fun s =>
    (s.setSize p (SizeType.setBoolean escapeNeeded)).bind fun s =>
      if escapeNeeded then s.write p 0 source
      else (s.write p 0 [34]).bind fun s => (s.write p (1 + sourceSize) [34]).bind fun s => s.write p 1 source

variable (p : Place) (s : Containers stackSize σ θ)

/-- `needsJsonEscape`, as it was stored beside the size. -/
def needsJsonEscape : Option Bool := (s.objects p).map fun c => SizeType.boolean c.size_

/-- The text without its quotation marks. It is not unescaped. -/
def string : Option (List UInt8) :=
  (s.objects p).bind fun c =>
    let strSize := sizeSub (SizeType.size c.size_) (DerivedString.getExtraSize c.size_)
    if SizeType.boolean c.size_ then s.read p 0 strSize
    -- without the quotation marks
    else s.read p 1 (sizeSub strSize 2)

/-- The text with its quotation marks, empty when it needs to be escaped. -/
def quotedString : Option (List UInt8) :=
  (s.objects p).bind fun c =>
    if SizeType.boolean c.size_ then some []
    else s.read p 0 (sizeSub (SizeType.size c.size_) (DerivedString.getExtraSize c.size_))

/-- `operator<<` of a writer. What `strlen` would find at an empty string is not known. -/
def writeTo (writer : JsonWriter) : Option JsonWriter :=
  (needsJsonEscape p s).bind fun escape =>
    if escape then (string p s).bind fun text => writer.writeEscapedString ⟨text, none⟩
    else
      writer.isCommaNeeded.bind fun comma =>
        (quotedString p s).map fun text => (if comma.1 then comma.2.writeChar 44 else comma.2).writeString text

end JsonReadyStringBase

/-- What is written for a string that is escaped and quoted. -/
def JsonWriter.writeQuoted (source : List UInt8) (writer : JsonWriter) : Option JsonWriter :=
  (writer.writeElement [34]).map fun writer =>
    { writer with stringBufferOutput := (escapeString source writer.stringBufferOutput).writeChar 34 }

/-- A text that needs to be escaped is written between quotation marks. -/
theorem JsonWriter.writeEscapedString_eq_writeQuoted (writer : JsonWriter) {source : List UInt8} (hescape : isEscapeNeeded source = true)
    (atData : Option CString) : writer.writeEscapedString ⟨source, atData⟩ = writer.writeQuoted source := by
  have hne : source.length ≠ 0 := by
    intro hzero
    rw [List.length_eq_zero_iff.1 hzero] at hescape
    cases hescape
  unfold JsonWriter.writeEscapedString JsonWriter.writeQuoted
  dsimp only
  rw [if_neg hne]
  cases writer.writeElement [34] <;> rfl

/-- So is one with its quotation marks that does not need to be. -/
theorem JsonWriter.map_writeString_eq_writeQuoted (writer : JsonWriter) {source : List UInt8} (hescape : ¬ isEscapeNeeded source = true) :
    (writer.isCommaNeeded.map fun comma =>
      (if comma.1 then comma.2.writeChar 44 else comma.2).writeString (34 :: (source ++ [34]))) =
        writer.writeQuoted source := by
  have hplain : source.flatMap escaped = source :=
    flatMap_escaped_of_not_isEscapeNeeded (by rwa [Bool.not_eq_true] at hescape)
  have hwritten : ∀ buffer : StringBuffer, (escapeString source (buffer.write [34])).writeChar 34 =
      buffer.write (34 :: (source ++ [34])) := by
    intro buffer
    rw [escapeString_eq, hplain, StringBuffer.writeChar_eq, StringBuffer.write_write, StringBuffer.write_write]
    rfl
  have hcomma : ∀ buffer : StringBuffer, buffer.write [44, 34] = (buffer.write [44]).write [34] := fun buffer =>
    (buffer.write_write [44] [34]).symm
  unfold JsonWriter.writeQuoted JsonWriter.writeElement
  rw [Option.map_map]
  cases writer.isCommaNeeded with
  | none => rfl
  | some comma =>
    rw [Option.map_some, Option.map_some, Function.comp_apply]
    unfold JsonWriter.writeString JsonWriter.writeChar
    split_ifs
    · dsimp only
      rw [hcomma, hwritten, StringBuffer.writeChar_eq]
    · dsimp only
      rw [hwritten]

/-! ### Escapes -/

/-- A character that stands for itself, or one escape. -/
inductive IsUnit : List UInt8 → Prop
  | plain {c : UInt8} (hcontrol : ¬ c < 32) (hquote : c ≠ 34) (hslash : c ≠ 92) : IsUnit [c]
  | simple {escape c : UInt8} (h : JsonValue.simpleEscape escape = some c) : IsUnit [92, escape]
  | unicode {a b c d byte : UInt8} (h : JsonValue.unicodeEscape a b c d = some byte) : IsUnit [92, 117, a, b, c, d]

/-- A text that may stand between quotation marks, and is read as the source. -/
structure Escapes (source text : List UInt8) : Prop where
  control : ∀ byte ∈ text, ¬ byte < 32
  /-- No quotation mark is without a backslash, and no backslash is alone. -/
  units : ∃ units : List (List UInt8), text = units.flatten ∧ ∀ unit ∈ units, IsUnit unit
  decodes : JsonValue.lexString (text ++ [34]) = some (source, [])

theorem isUnit_escaped (c : UInt8) : IsUnit (escaped c) := by
  rcases toEscape_cases c with ⟨hnone, hquote, hslash, hcontrol⟩ | ⟨hcode, hcontrol⟩ | ⟨hsome, hlt, -, hescape⟩
  · rw [escaped, if_pos hnone]
    exact .plain hcontrol hquote hslash
  · rw [escaped, hcode, if_neg (by decide), if_neg (by decide)]
    exact .unicode (unicodeEscape_hexDigits hcontrol)
  · rw [escaped, if_neg hsome, if_pos hlt]
    exact .simple hescape

theorem not_control_of_mem_escaped {c byte : UInt8} (h : byte ∈ escaped c) : ¬ byte < 32 := by
  have hall : ∀ n : Fin 256, (escaped (UInt8.ofNat n)).all (fun byte => !decide (byte < 32)) = true := by decide +kernel
  have hc := hall ⟨c.toNat, c.toNat_lt⟩
  rw [show UInt8.ofNat c.toNat = c from UInt8.ofNat_toNat] at hc
  have hbyte := List.all_eq_true.1 hc byte h
  rwa [Bool.not_eq_true', decide_eq_false_iff_not] at hbyte

/-- `escapeString` writes a text that is read as the source. -/
theorem exists_escapes (source : List UInt8) : ∃ text, Escapes source text ∧
    ∀ destination : StringBuffer, escapeString source destination = destination.write text := by
  refine ⟨source.flatMap escaped, ⟨fun byte hbyte => ?_, ⟨source.map escaped, rfl, fun unit hunit => ?_⟩, ?_⟩,
    escapeString_eq source⟩
  · obtain ⟨c, -, hc⟩ := List.mem_flatMap.1 hbyte
    exact not_control_of_mem_escaped hc
  · obtain ⟨c, -, rfl⟩ := List.mem_map.1 hunit
    exact isUnit_escaped c
  · exact lexString_flatMap_escaped source []

/-! ### What a string is stored as -/

/-- The text in the container: the source, or the source with quotation marks. -/
def preparedText (source : List UInt8) : List UInt8 := if isEscapeNeeded source then source else 34 :: (source ++ [34])

theorem length_preparedText (source : List UInt8) :
    (preparedText source).length = if isEscapeNeeded source then source.length else source.length + 2 := by
  unfold preparedText
  split_ifs
  · rfl
  · rw [List.length_cons, List.length_append, List.length_singleton]

theorem exists_split {bytes : List UInt8} {n : ℕ} (h : n ≤ bytes.length) :
    ∃ first last, bytes = first ++ last ∧ first.length = n ∧ last.length = bytes.length - n :=
  ⟨bytes.take n, bytes.drop n, (List.take_append_drop n bytes).symm, by rw [List.length_take]; omega, List.length_drop⟩

/-- What is written one after the other is the text between its quotation marks. -/
theorem exists_overwrite_quoted {bytes source : List UInt8} {n : ℕ} (h : bytes.length = source.length + 2 + n) :
    ∃ extra : List UInt8, extra.length = n ∧
      overwrite (overwrite (overwrite bytes 0 [34]) (1 + source.length) [34]) 1 source = 34 :: (source ++ [34]) ++ extra := by
  obtain ⟨opening, rest, rfl, hopening, hrest⟩ := exists_split (show 1 ≤ bytes.length by omega)
  obtain ⟨text, rest', rfl, htext, hrest'⟩ := exists_split (show source.length ≤ rest.length by omega)
  obtain ⟨closing, extra, rfl, hclosing, hextra⟩ := exists_split (show 1 ≤ rest'.length by omega)
  refine ⟨extra, by omega, ?_⟩
  have hfirst : overwrite (opening ++ (text ++ (closing ++ extra))) 0 [34] = [34] ++ (text ++ (closing ++ extra)) :=
    @overwrite_append [34] [] opening hopening _
  have hsecond : overwrite ([34] ++ (text ++ (closing ++ extra))) (1 + source.length) [34] =
      [34] ++ (text ++ ([34] ++ extra)) := by
    have happend := @overwrite_append [34] ([34] ++ text) closing hclosing extra
    rwa [List.length_append, List.length_singleton, htext, List.append_assoc, List.append_assoc] at happend
  have hthird : overwrite ([34] ++ (text ++ ([34] ++ extra))) 1 source = [34] ++ (source ++ ([34] ++ extra)) :=
    @overwrite_append source [34] text htext _
  rw [hfirst, hsecond, hthird]
  show [34] ++ (source ++ ([34] ++ extra)) = [34] ++ (source ++ [34]) ++ extra
  rw [List.append_assoc, List.append_assoc]

/-- A container has the text of a source, and the derived class knows what is behind it. -/
structure Prepared (source : List UInt8) (stored : Stored σ) : Prop where
  boolean : SizeType.boolean stored.size = isEscapeNeeded source
  text : ∃ extra, stored.bytes = preparedText source ++ extra ∧ DerivedString.getExtraSize stored.size = extra.length
  size : SizeType.size stored.size = stored.bytes.length

namespace JsonReadyStringBase

variable {s : Containers stackSize σ θ} {values : Place → Option (Stored σ)} {p : Place} {source : List UInt8} {fresh : Fresh}
  {stored : Stored σ}

/-- The constructor stores the text, and leaves room behind it. -/
theorem exists_construct (h : s.Represents values) (hp : values p = none) (hne : p ≠ .other) (hother : values .other = none)
    (hfresh : fresh.Usable s.heap) (extraBytesNeeded : ℕ) (hfits : (preparedText source).length + extraBytesNeeded < 2 ^ 31) :
    ∃ extra : List UInt8, extra.length = extraBytesNeeded ∧
      Containers.Yields (construct p source extraBytesNeeded fresh s) s.thread (Function.update values p
        (some ⟨SizeType.setBoolean (isEscapeNeeded source) (SizeType.ofSize ((preparedText source).length + extraBytesNeeded)),
          preparedText source ++ extra⟩)) := by
  have hempty := Containers.represents_construct h hp fresh
  obtain ⟨bytes, hlength, s₁, hs₁, hthread₁, hrepresents₁⟩ := Containers.exists_resize (p := p) hempty
    (by rw [Function.update_self]; rfl) (by rwa [Function.update_of_ne hne.symm]) hfresh hfits
  rw [Function.update_idem] at hrepresents₁
  obtain ⟨s₂, hs₂, hthread₂, hrepresents₂⟩ := Containers.exists_setSize (p := p) hrepresents₁ (Function.update_self ..)
    (SizeType.size_setBoolean (isEscapeNeeded source) _)
  rw [Function.update_idem] at hrepresents₂
  rw [length_preparedText] at hlength
  unfold construct
  dsimp only
  rw [← length_preparedText, hs₁, Option.bind_some, hs₂, Option.bind_some]
  by_cases hescape : isEscapeNeeded source = true
  · rw [if_pos hescape] at hlength ⊢
    obtain ⟨text, extra, rfl, htext, hextra⟩ := exists_split (show source.length ≤ bytes.length by omega)
    obtain ⟨s₃, hs₃, hthread₃, hrepresents₃⟩ := Containers.exists_write hrepresents₂ (Function.update_self ..) 0 source
      (by dsimp only; omega)
    have hwritten : overwrite (text ++ extra) 0 source = preparedText source ++ extra := by
      unfold preparedText
      rw [if_pos hescape]
      exact @overwrite_append source [] text htext extra
    rw [Function.update_idem, hwritten] at hrepresents₃
    exact ⟨extra, by omega, s₃, hs₃, (hthread₃.trans hthread₂).trans hthread₁, hrepresents₃⟩
  · rw [if_neg hescape] at hlength ⊢
    obtain ⟨extra, hextra, hwritten⟩ := exists_overwrite_quoted hlength
    have hlength₃ := @length_overwrite bytes [34] 0 (by rw [List.length_singleton]; omega)
    have hlength₄ := @length_overwrite (overwrite bytes 0 [34]) [34] (1 + source.length) (by rw [List.length_singleton]; omega)
    obtain ⟨s₃, hs₃, hthread₃, hrepresents₃⟩ := Containers.exists_write hrepresents₂ (Function.update_self ..) 0 [34]
      (by rw [List.length_singleton]; dsimp only; omega)
    rw [Function.update_idem] at hrepresents₃
    obtain ⟨s₄, hs₄, hthread₄, hrepresents₄⟩ := Containers.exists_write hrepresents₃ (Function.update_self ..)
      (1 + source.length) [34] (by rw [List.length_singleton]; dsimp only; omega)
    rw [Function.update_idem] at hrepresents₄
    obtain ⟨s₅, hs₅, hthread₅, hrepresents₅⟩ := Containers.exists_write hrepresents₄ (Function.update_self ..) 1 source
      (by dsimp only; omega)
    rw [Function.update_idem, hwritten, show 34 :: (source ++ [34]) = preparedText source from (if_neg hescape).symm]
      at hrepresents₅
    rw [hs₃, Option.bind_some, hs₄, Option.bind_some]
    exact ⟨extra, hextra, s₅, hs₅, hthread₅.trans (hthread₄.trans (hthread₃.trans (hthread₂.trans hthread₁))), hrepresents₅⟩

/-! ### What is read -/

theorem needsJsonEscape_eq (h : s.Represents values) (hp : values p = some stored) (hprepared : Prepared source stored) :
    needsJsonEscape p s = some (isEscapeNeeded source) := by
  obtain ⟨c, hc, hsize, -⟩ := Containers.exists_bytes h hp
  unfold needsJsonEscape
  rw [hc, Option.map_some, hsize, hprepared.boolean]

/-- The size without what the derived class has added. -/
theorem sizeSub_extra (hprepared : Prepared source stored) :
    sizeSub (SizeType.size stored.size) (DerivedString.getExtraSize stored.size) = (preparedText source).length := by
  obtain ⟨extra, hbytes, hextra⟩ := hprepared.text
  rw [hprepared.size, hextra, hbytes, List.length_append, sizeSub_of_le (Nat.le_add_left _ _), Nat.add_sub_cancel]

theorem string_eq (h : s.Represents values) (hp : values p = some stored) (hprepared : Prepared source stored) :
    string p s = some source := by
  obtain ⟨c, hc, hsize, -⟩ := Containers.exists_bytes h hp
  obtain ⟨extra, hbytes, -⟩ := hprepared.text
  have hlength := length_preparedText source
  have hall : stored.bytes.length = (preparedText source).length + extra.length := by rw [hbytes, List.length_append]
  unfold string
  rw [hc, Option.bind_some, hsize]
  dsimp only
  rw [sizeSub_extra hprepared, hprepared.boolean]
  by_cases hescape : isEscapeNeeded source = true
  · rw [if_pos hescape] at hlength
    have htext : preparedText source = source := if_pos hescape
    rw [if_pos hescape, Containers.read_eq h hp (by omega), hbytes, List.drop_zero, List.take_left, htext]
  · rw [if_neg hescape] at hlength
    have htext : preparedText source = 34 :: (source ++ [34]) := if_neg hescape
    rw [if_neg hescape, sizeSub_of_le (by omega), Containers.read_eq h hp (by omega), hbytes, htext, List.cons_append,
      List.drop_one, List.tail_cons, List.append_assoc, List.length_cons, List.length_append, List.length_singleton,
      show source.length + 1 + 1 - 2 = source.length by omega, List.take_left]

theorem quotedString_eq (h : s.Represents values) (hp : values p = some stored) (hprepared : Prepared source stored)
    (hescape : ¬ isEscapeNeeded source = true) : quotedString p s = some (34 :: (source ++ [34])) := by
  obtain ⟨c, hc, hsize, -⟩ := Containers.exists_bytes h hp
  obtain ⟨extra, hbytes, -⟩ := hprepared.text
  have hall : stored.bytes.length = (preparedText source).length + extra.length := by rw [hbytes, List.length_append]
  have htext : preparedText source = 34 :: (source ++ [34]) := if_neg hescape
  unfold quotedString
  rw [hc, Option.bind_some, hsize, sizeSub_extra hprepared, hprepared.boolean, if_neg hescape,
    Containers.read_eq h hp (by omega), hbytes, List.drop_zero, List.take_left, htext]

/-- The same is written as for the source with its escapes and quotation marks. -/
theorem writeTo_eq (h : s.Represents values) (hp : values p = some stored) (hprepared : Prepared source stored)
    (writer : JsonWriter) : writeTo p s writer = writer.writeQuoted source := by
  unfold writeTo
  rw [needsJsonEscape_eq h hp hprepared, Option.bind_some]
  by_cases hescape : isEscapeNeeded source = true
  · rw [if_pos hescape, string_eq h hp hprepared, Option.bind_some]
    exact writer.writeEscapedString_eq_writeQuoted hescape none
  · rw [if_neg hescape, quotedString_eq h hp hprepared hescape, ← writer.map_writeString_eq_writeQuoted hescape]
    cases writer.isCommaNeeded <;> rfl

end JsonReadyStringBase

/-! ### Clients -/

/-- A class of prepared strings. -/
structure StringClass (stackSize : ℕ) (σ θ : Type*) [DerivedString σ] where
  construct : Place → List UInt8 → Fresh → Containers stackSize σ θ → Option (Containers stackSize σ θ)
  /-- The sources that do not make the constructor throw. -/
  constructible : List UInt8 → Bool
  /-- The sources that are small enough. -/
  fits : List UInt8 → Prop
  stored : List UInt8 → Stored σ
  prepared : ∀ source, Prepared source (stored source)
  yields_construct : ∀ {s : Containers stackSize σ θ} {values : Place → Option (Stored σ)} {p : Place} {source : List UInt8}
    {fresh : Fresh}, s.Represents values → values p = none → p ≠ .other → values .other = none → fresh.Usable s.heap →
      fits source → ∃ thread, Containers.Yields (construct p source fresh s) thread
        (if constructible source then Function.update values p (some (stored source)) else values)

/-- What clients do with strings. -/
inductive Action
  | construct (name : ℕ) (source : List UInt8) (fresh : Fresh)
  | copyConstruct (name other : ℕ) (fresh : Fresh)
  | moveConstruct (name other : ℕ) (fresh : Fresh)
  | assign (name other : ℕ) (fresh : Fresh)
  | moveAssign (name other : ℕ)
  | swap (name other : ℕ) (fresh : Fresh)
  | destroy (name : ℕ)

/-- The strings under the names: none, one that was moved from, or one that was constructed from a source. -/
abbrev Strings := ℕ → Option (Option (List UInt8))

namespace StringClass

variable (cls : StringClass stackSize σ θ)

/-- What an action does to the containers, if it is defined. -/
def perform (s : Containers stackSize σ θ) : Action → Option (Containers stackSize σ θ)
  | .construct name source fresh => cls.construct (.object name) source fresh s
  | .copyConstruct name other fresh => s.copyConstruct (.object name) (.object other) fresh
  | .moveConstruct name other fresh => s.moveConstruct (.object name) (.object other) fresh
  | .assign name other fresh => s.assign (.object name) (.object other) fresh
  | .moveAssign name other => s.moveAssign (.object name) (.object other)
  | .swap name other fresh => s.stdSwap (.object name) (.object other) fresh
  | .destroy name => s.destroy (.object name)

/-- Clients construct objects where there are none, use and destroy objects that exist, and `new` does its part. -/
def Allowed (s : Containers stackSize σ θ) : Action → Prop
  | .construct name source fresh => s.objects (.object name) = none ∧ fresh.Usable s.heap ∧ cls.fits source
  | .copyConstruct name other fresh =>
    s.objects (.object name) = none ∧ (s.objects (.object other)).isSome ∧ fresh.Usable s.heap
  | .moveConstruct name other _ => s.objects (.object name) = none ∧ (s.objects (.object other)).isSome
  | .assign name other fresh =>
    (s.objects (.object name)).isSome ∧ (s.objects (.object other)).isSome ∧ fresh.Usable s.heap
  | .moveAssign name other => (s.objects (.object name)).isSome ∧ (s.objects (.object other)).isSome
  | .swap name other _ => (s.objects (.object name)).isSome ∧ (s.objects (.object other)).isSome
  | .destroy name => (s.objects (.object name)).isSome

instance decidableAllowed [∀ source, Decidable (cls.fits source)] (s : Containers stackSize σ θ) :
    (action : Action) → Decidable (cls.Allowed s action)
  | .construct name source fresh =>
    inferInstanceAs (Decidable (s.objects (.object name) = none ∧ fresh.Usable s.heap ∧ cls.fits source))
  | .copyConstruct name other fresh =>
    inferInstanceAs (Decidable
      (s.objects (.object name) = none ∧ (s.objects (.object other)).isSome ∧ fresh.Usable s.heap))
  | .moveConstruct name other _ =>
    inferInstanceAs (Decidable (s.objects (.object name) = none ∧ (s.objects (.object other)).isSome))
  | .assign name other fresh =>
    inferInstanceAs (Decidable
      ((s.objects (.object name)).isSome ∧ (s.objects (.object other)).isSome ∧ fresh.Usable s.heap))
  | .moveAssign name other | .swap name other _ =>
    inferInstanceAs (Decidable ((s.objects (.object name)).isSome ∧ (s.objects (.object other)).isSome))
  | .destroy name => inferInstanceAs (Decidable (s.objects (.object name)).isSome)

/-- What becomes of the strings. A move assignment exchanges them. -/
def after (strings : Strings) : Action → Strings
  | .construct name source _ => if cls.constructible source then Function.update strings name (some (some source)) else strings
  | .copyConstruct name other _ => Function.update strings name (strings other)
  | .moveConstruct name other _ => Function.update strings name (some none) ∘ Equiv.swap name other
  | .assign name other _ => Function.update strings name (strings other)
  | .moveAssign name other => strings ∘ Equiv.swap name other
  | .swap name other _ => strings ∘ Equiv.swap name other
  | .destroy name => Function.update strings name none

/-- What the containers of a string stand for. -/
def storedString (string : Option (List UInt8)) : Stored σ := string.elim ⟨SizeType.ofSize 0, []⟩ cls.stored

/-- What the objects stand for when these are the strings. Between two actions there are no local objects. -/
def valuesOf (strings : Strings) : Place → Option (Stored σ)
  | .object name => (strings name).map cls.storedString
  | _ => none

variable {cls}

theorem valuesOf_update (strings : Strings) (name : ℕ) (string : Option (Option (List UInt8))) :
    cls.valuesOf (Function.update strings name string) =
      Function.update (cls.valuesOf strings) (.object name) (string.map cls.storedString) := by
  funext p
  by_cases hp : p = .object name
  · rw [hp, Function.update_self]
    show (Function.update strings name string name).map _ = _
    rw [Function.update_self]
  · rw [Function.update_of_ne hp]
    cases p with
    | object other =>
      have hne : other ≠ name := fun heq => hp (heq ▸ rfl)
      show (Function.update strings name string other).map _ = (strings other).map _
      rw [Function.update_of_ne hne]
    | other => rfl
    | copy => rfl
    | tmp => rfl

/-- An exchange of objects is none of local variables. -/
theorem swap_local {p : Place} (hp : ∀ name, p ≠ .object name) (name other : ℕ) :
    Equiv.swap (.object name) (.object other) p = p := Equiv.swap_apply_of_ne_of_ne (hp name) (hp other)

theorem valuesOf_swap (strings : Strings) (name other : ℕ) :
    cls.valuesOf (strings ∘ Equiv.swap name other) = cls.valuesOf strings ∘ Equiv.swap (.object name) (.object other) := by
  funext p
  cases p with
  | object q =>
    have hswap : Equiv.swap (Place.object name) (.object other) (.object q) = .object (Equiv.swap name other q) := by
      simp only [Equiv.swap_apply_def, Place.object.injEq]
      split_ifs <;> rfl
    rw [Function.comp_apply, hswap]
    rfl
  | other => exact congrArg (cls.valuesOf strings) (@swap_local .other (by rintro _ ⟨⟩) name other).symm
  | copy => exact congrArg (cls.valuesOf strings) (@swap_local .copy (by rintro _ ⟨⟩) name other).symm
  | tmp => exact congrArg (cls.valuesOf strings) (@swap_local .tmp (by rintro _ ⟨⟩) name other).symm

variable (cls) in
/-- The objects hold the strings. -/
def Holds (s : Containers stackSize σ θ) (strings : Strings) : Prop := s.Represents (cls.valuesOf strings)

/-- A step, by what its functions yield. -/
theorem exists_holds {result : Option (Containers stackSize σ θ)} {thread : θ} {values : Place → Option (Stored σ)}
    {strings : Strings} (h : Containers.Yields result thread values) (hvalues : cls.valuesOf strings = values) :
    ∃ s, result = some s ∧ cls.Holds s strings := by
  obtain ⟨s, hs, -, hrepresents⟩ := h
  exact ⟨s, hs, by unfold Holds; rwa [hvalues]⟩

/-- Every action that clients may take is performed, and the objects hold what they should. -/
theorem exists_perform {s : Containers stackSize σ θ} {strings : Strings} {action : Action} (h : cls.Holds s strings)
    (hallowed : cls.Allowed s action) : ∃ s', cls.perform s action = some s' ∧ cls.Holds s' (cls.after strings action) := by
  have hobject : ∀ name, s.objects (.object name) = none → cls.valuesOf strings (.object name) = none := by
    intro name hnone
    have hiff := h.isSome_iff (.object name)
    rw [hnone] at hiff
    cases hv : cls.valuesOf strings (.object name) with
    | none => rfl
    | some v =>
      rw [hv] at hiff
      exact absurd (hiff.2 rfl) Bool.false_ne_true
  have hsome : ∀ name, (s.objects (.object name)).isSome → (cls.valuesOf strings (.object name)).isSome := fun name hname =>
    (h.isSome_iff _).1 hname
  cases action with
  | construct name source fresh =>
    obtain ⟨hnone, hfresh, hfits⟩ := hallowed
    obtain ⟨thread, hyields⟩ := cls.yields_construct h (hobject name hnone) (by rintro ⟨⟩) rfl hfresh hfits
    refine exists_holds hyields ?_
    show cls.valuesOf (if cls.constructible source then Function.update strings name (some (some source)) else strings) = _
    split_ifs
    · exact valuesOf_update strings name _
    · rfl
  | copyConstruct name other fresh =>
    obtain ⟨hnone, hother, hfresh⟩ := hallowed
    obtain ⟨stored, hstored⟩ := Option.isSome_iff_exists.1 (hsome other hother)
    obtain ⟨s', hs', hthread, hrepresents⟩ := Containers.exists_copyConstruct h (hobject name hnone) hstored hfresh
    refine exists_holds ⟨s', hs', hthread, hrepresents⟩ ?_
    rw [← hstored]
    exact valuesOf_update strings name _
  | moveConstruct name other fresh =>
    obtain ⟨hnone, hother⟩ := hallowed
    refine exists_holds (Containers.yields_moveConstruct h (hobject name hnone) (hsome other hother) fresh) ?_
    exact (valuesOf_swap _ name other).trans (by rw [valuesOf_update]; rfl)
  | assign name other fresh =>
    obtain ⟨hname, hother, hfresh⟩ := hallowed
    obtain ⟨stored, hstored⟩ := Option.isSome_iff_exists.1 (hsome other hother)
    refine exists_holds (Containers.yields_assign h (hsome name hname) hstored rfl hfresh) ?_
    rw [← hstored]
    exact valuesOf_update strings name _
  | moveAssign name other =>
    obtain ⟨hname, hother⟩ := hallowed
    exact exists_holds (Containers.yields_moveAssign h (hsome name hname) (hsome other hother)) (valuesOf_swap _ name other)
  | swap name other fresh =>
    obtain ⟨hname, hother⟩ := hallowed
    exact exists_holds (Containers.yields_stdSwap h (hsome name hname) (hsome other hother) rfl fresh)
      (valuesOf_swap _ name other)
  | destroy name =>
    obtain ⟨s', hs', hthread, hrepresents⟩ := Containers.exists_destroy h (hsome name hallowed)
    exact exists_holds ⟨s', hs', hthread, hrepresents⟩ (valuesOf_update strings name none)

/-! ### Runs -/

/-- A program begins without objects. -/
def start (thread : θ) : Containers stackSize σ θ := ⟨fun _ => none, fun _ => none, thread⟩

theorem holds_start (thread : θ) : cls.Holds (start thread) fun _ => none where
  means p := by
    have hnone : cls.valuesOf (fun _ => none) p = none := by cases p <;> rfl
    rw [hnone]
    exact .none
  allocated := fun _ _ _ ho => by cases ho
  separated := fun _ _ _ _ _ ho => by cases ho
  noLeaks := fun _ _ hb => by cases hb

/-- In every run the strings are what they were constructed from. -/
theorem exists_run (thread : θ) {actions : List Action} (hallowed : Admissible cls.perform cls.Allowed (start thread) actions) :
    ∃ s, runFrom cls.perform (start thread) actions = some s ∧ cls.Holds s (actions.foldl cls.after fun _ => none) := by
  have hstep : ∀ s strings action, cls.Holds s strings → cls.Allowed s action →
      ∃ s', cls.perform s action = some s' ∧ cls.Holds s' (cls.after strings action) := fun _ _ _ h hallowed =>
    exists_perform h hallowed
  exact exists_runFrom_simulates hstep (holds_start thread) hallowed

/-- What is read of a string, and written for it. -/
structure Reads (s : Containers stackSize σ θ) (name : ℕ) (source : List UInt8) : Prop where
  string : JsonReadyStringBase.string (.object name) s = some source
  /-- It needs to be escaped if one of its bytes does. -/
  needsJsonEscape : ∃ escape, JsonReadyStringBase.needsJsonEscape (.object name) s = some escape ∧
    (escape = true ↔ ∃ byte ∈ source, toEscape byte ≠ 0)
  writeTo : ∀ writer, JsonReadyStringBase.writeTo (.object name) s writer = writer.writeQuoted source

theorem Holds.reads {s : Containers stackSize σ θ} {strings : Strings} (h : cls.Holds s strings) {name : ℕ}
    {source : List UInt8} (hname : strings name = some (some source)) : Reads s name source := by
  have hstored : cls.valuesOf strings (.object name) = some (cls.stored source) := by
    show (strings name).map _ = _
    rw [hname]
    rfl
  refine ⟨JsonReadyStringBase.string_eq h hstored (cls.prepared source), ⟨_,
    JsonReadyStringBase.needsJsonEscape_eq h hstored (cls.prepared source), ?_⟩,
    JsonReadyStringBase.writeTo_eq h hstored (cls.prepared source)⟩
  unfold isEscapeNeeded
  rw [List.any_eq_true]
  exact exists_congr fun byte => and_congr_right fun _ => bne_iff_ne

end StringClass

/-! ### `JsonReadyString` -/

/-- 31 bits of a size, and a flag. -/
structure SizeWithBool where
  boolean : Bool
  size : ℕ

instance : DerivedString SizeWithBool where
  ofSize size := ⟨false, size % 2 ^ 31⟩
  size := SizeWithBool.size
  boolean := SizeWithBool.boolean
  setBoolean value info := { info with boolean := value }
  size_ofSize _ := rfl
  boolean_setBoolean _ _ := rfl
  size_setBoolean _ _ := rfl
  getExtraSize _ := 0

/-- `JsonReadyString`, to which nothing is added. -/
def jsonReadyString (stackSize : ℕ) (θ : Type*) : StringClass stackSize SizeWithBool θ where
  construct p source fresh s := JsonReadyStringBase.construct p source 0 fresh s
  constructible _ := true
  fits source := source.length + 2 < 2 ^ 31
  stored source := ⟨⟨isEscapeNeeded source, (preparedText source).length⟩, preparedText source⟩
  prepared source := ⟨rfl, ⟨[], (List.append_nil _).symm, rfl⟩, rfl⟩
  yields_construct {s values p source fresh} h hp hne hother hfresh hfits := by
    have hlength : (preparedText source).length < 2 ^ 31 := by
      rw [length_preparedText]
      split_ifs <;> omega
    obtain ⟨extra, hextra, hyields⟩ := JsonReadyStringBase.exists_construct h hp hne hother hfresh 0 hlength
    rw [List.length_eq_zero_iff.1 hextra, List.append_nil, Nat.add_zero] at hyields
    refine ⟨s.thread, ?_⟩
    rw [if_pos rfl]
    have hinfo : SizeType.setBoolean (isEscapeNeeded source) (SizeType.ofSize (preparedText source).length) =
        (⟨isEscapeNeeded source, (preparedText source).length⟩ : SizeWithBool) :=
      congrArg (SizeWithBool.mk _) (Nat.mod_eq_of_lt hlength)
    rwa [hinfo] at hyields

instance (θ : Type*) (source : List UInt8) : Decidable ((jsonReadyString stackSize θ).fits source) :=
  inferInstanceAs (Decidable (source.length + 2 < 2 ^ 31))

/-- A string that fits is written with its escapes and quotation marks. -/
theorem JsonWriter.writeReadyString_eq {value : JsonReadyString} (h : value.source.length + 2 < 2 ^ 31) (writer : JsonWriter) :
    writer.writeReadyString value = writer.writeQuoted value.source := by
  have hneeded : value.bytesNeeded < 2 ^ 31 := by
    unfold JsonReadyString.bytesNeeded
    split_ifs <;> omega
  have hsize := JsonReadyString.size_eq hneeded
  have hconstructed : value.isConstructed = true := by
    unfold JsonReadyString.isConstructed
    rw [hsize, Bool.or_eq_true, decide_eq_true_eq, decide_eq_true_eq]
    exact Nat.lt_or_ge _ _
  have htake : value.content.take value.size = value.content := by
    rw [hsize, ← value.length_content, List.take_length]
  unfold JsonWriter.writeReadyString JsonReadyString.string JsonReadyString.quotedString
  rw [if_neg (by rw [hconstructed]; decide), htake]
  by_cases hescape : value.needsJsonEscape = true
  · have hcontent : value.content = value.source := if_pos hescape
    rw [if_pos hescape, hcontent]
    exact writer.writeEscapedString_eq_writeQuoted hescape _
  · have hcontent : value.content = 34 :: (value.source ++ [34]) := if_neg hescape
    rw [if_neg hescape, hcontent]
    exact writer.map_writeString_eq_writeQuoted hescape

/-- The writer writes a string that a container holds as it writes one of the source. -/
theorem writeTo_jsonReadyString {θ : Type*} {s : Containers stackSize SizeWithBool θ} {strings : Strings}
    (h : (jsonReadyString stackSize θ).Holds s strings) {name : ℕ} {source : List UInt8}
    (hname : strings name = some (some source)) (hfits : (jsonReadyString stackSize θ).fits source) (writer : JsonWriter) :
    JsonReadyStringBase.writeTo (.object name) s writer = writer.writeReadyString ⟨stackSize, source⟩ :=
  ((h.reads hname).writeTo writer).trans (@JsonWriter.writeReadyString_eq ⟨stackSize, source⟩ hfits writer).symm

end Forum.FastJsonWriter
