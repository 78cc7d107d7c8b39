import Forum.FastJsonWriter.NestedUse

/-!
# Reading back what was written

The text of a well-nested use is read back as its value exactly when the use is fine.

Texts are compared with tokens piece by piece (`ReadsAs`): a piece that is written wrongly is the first place where the
tokens differ. A string without its last quotation mark is no such piece, as the tokens behind it are any; then the text as
a whole has too few quotation marks.
-/

namespace Forum.FastJsonWriter

open Library
open Library.JsonValue (lex lexString parse memberTokens elementTokens)

/-! ### Strings and names -/

theorem lexString_quoted (value : List UInt8) : lexString (value.flatMap escaped ++ [34]) = some (value, []) :=
  lexString_flatMap_escaped value []

/-- What is written of a view is the view exactly when it is fine. -/
theorem StringView.fine_iff {view : StringView} {value : List UInt8} (h : view.written = some value) :
    view.Fine ↔ value = view.bytes := by
  unfold written at h
  split_ifs at h with hlength
  · have hnil := List.eq_nil_of_length_eq_zero hlength
    obtain ⟨name, hname, rfl⟩ := Option.map_eq_some_iff.1 h
    rw [hnil]
    constructor
    · intro hfine
      obtain ⟨other, hother, hempty⟩ := hfine hnil
      rw [hname] at hother
      cases hother
      exact hempty
    · exact fun hempty _ => ⟨name, hname, hempty⟩
  · cases h
    refine ⟨fun _ => rfl, fun _ hnil => absurd ?_ hlength⟩
    rw [hnil]
    rfl

namespace JsonReadyString

variable {r : JsonReadyString}

theorem size_lt (h : ¬ r.bytesNeeded < 2 ^ 31) : r.size < r.bytesNeeded :=
  Nat.lt_of_lt_of_le (Nat.mod_lt _ (by decide)) (Nat.not_lt.1 h)

/-- What is written of a string that needs to be escaped is the string exactly when its size fits. -/
theorem fits_iff_of_escape (hescape : r.needsJsonEscape = true) {value : List UInt8} (h : r.string.written = some value) :
    r.bytesNeeded < 2 ^ 31 ↔ value = r.source := by
  have hcontent : r.content = r.source := if_pos hescape
  have hlength := r.length_content
  rw [hcontent] at hlength
  unfold StringView.written string at h
  dsimp only at h
  rw [hcontent] at h
  split_ifs at h with hempty hzero
  · cases h
    constructor
    · intro hfits
      rw [size_eq hfits, ← hlength, List.take_length] at hempty
      have hnil := List.eq_nil_of_length_eq_zero hempty
      unfold needsJsonEscape at hescape
      rw [hnil] at hescape
      cases hescape
    · intro heq
      have hnone := (CString.ofMemory r.source).zero_notMem
      rw [heq] at hnone
      exact absurd hzero hnone
  · cases h
  · cases h
    constructor
    · intro hfits
      rw [size_eq hfits, ← hlength, List.take_length]
    · intro heq
      by_contra hfits
      have hlt := size_lt hfits
      have := congrArg List.length heq
      rw [List.length_take] at this
      omega

end JsonReadyString

/-- A text stands for a string, behind its first quotation mark. -/
def IsQuoted (piece value : List UInt8) : Prop := ∃ text, piece = 34 :: text ∧ lexString text = some (value, [])

theorem isQuoted_quoted (value : List UInt8) : IsQuoted (quoted value) value := ⟨_, rfl, lexString_quoted value⟩

/-- The text of a string is one, and the right one when it is fine; or it lacks a quotation mark. -/
theorem Text.piece_cases {text : Text} {piece : List UInt8} (h : text.piece = some piece) :
    (∃ value, IsQuoted piece value ∧ (text.Fine ↔ value = text.value)) ∨ (QuotesAtMost 1 piece ∧ ¬ text.Fine) := by
  cases text with
  | string value =>
    obtain ⟨written, hwritten, rfl⟩ := Option.map_eq_some_iff.1 h
    refine Or.inl ⟨written, isQuoted_quoted written, iff_of_true trivial ?_⟩
    refine (StringView.fine_iff hwritten).1 fun hnil => ⟨_, rfl, ?_⟩
    show List.takeWhile _ value = []
    rw [show value = [] from hnil]
    rfl
  | view view =>
    obtain ⟨written, hwritten, rfl⟩ := Option.map_eq_some_iff.1 h
    exact Or.inl ⟨written, isQuoted_quoted written, StringView.fine_iff hwritten⟩
  | readyString r =>
    dsimp only [Text.piece] at h
    split_ifs at h with _ hescape
    · obtain ⟨written, hwritten, rfl⟩ := Option.map_eq_some_iff.1 h
      exact Or.inl ⟨written, isQuoted_quoted written, JsonReadyString.fits_iff_of_escape hescape hwritten⟩
    · cases h
      have hplain : isEscapeNeeded r.source = false := Bool.eq_false_iff.2 hescape
      have hcontent : r.content = 34 :: (r.source ++ [34]) := if_neg hescape
      have hlength := r.length_content
      by_cases hfits : r.bytesNeeded < 2 ^ 31
      · have hpiece : r.quotedString = 34 :: (r.source ++ [34]) := by
          unfold JsonReadyString.quotedString
          rw [JsonReadyString.size_eq hfits, ← hlength, List.take_length, hcontent]
        have hread := lexString_quoted r.source
        rw [flatMap_escaped_of_not_isEscapeNeeded hplain] at hread
        exact Or.inl ⟨r.source, ⟨_, hpiece, hread⟩, iff_of_true hfits rfl⟩
      · refine Or.inr ⟨?_, hfits⟩
        have hlt := JsonReadyString.size_lt hfits
        rw [hcontent, List.length_cons, List.length_append, List.length_singleton] at hlength
        unfold JsonReadyString.quotedString
        rw [hcontent]
        cases hsize : r.size with
        | zero =>
          rw [List.take_zero]
          exact fun place place' m hplace hscan => by
            cases hscan
            exact ⟨hplace, Nat.zero_le _⟩
        | succ size =>
          rw [List.take_succ_cons, List.take_append_of_le_length (by omega)]
          refine QuotesAtMost.append QuotesAtMost.quote (QuotesAtMost.plain fun c hc => ?_)
          have hnone := toEscape_of_not_isEscapeNeeded hplain c (List.mem_of_mem_take hc)
          constructor
          · rintro rfl
            exact absurd hnone (by decide)
          · rintro rfl
            exact absurd hnone (by decide)

/-- The text of a name is that of a string and a colon. -/
theorem Name.piece_cases {name : Name} {piece : List UInt8} (h : name.piece = some piece) :
    ∃ text value, piece = text ++ [58] ∧ IsQuoted text value ∧ (name.Fine ↔ value = name.value) := by
  cases name with
  | property view =>
    obtain ⟨written, hwritten, rfl⟩ := Option.map_eq_some_iff.1 h
    exact ⟨_, written, rfl, isQuoted_quoted written, StringView.fine_iff hwritten⟩
  | propertyOfCString name =>
    cases h
    exact ⟨_, name.bytes, rfl, isQuoted_quoted _, iff_of_true trivial rfl⟩
  | safe name =>
    cases h
    have hread := lexString_quoted name.bytes
    rw [flatMap_escaped_of_not_isEscapeNeeded name.isSafe] at hread
    exact ⟨34 :: (name.bytes ++ [34]), name.bytes, by simp, ⟨_, rfl, hread⟩, iff_of_true trivial rfl⟩
  | raw name =>
    cases h
    exact ⟨34 :: (name.text ++ [34]), name.value, by simp, ⟨_, rfl, name.lexString_text⟩, iff_of_true trivial rfl⟩

/-! ### Texts and tokens -/

/-- A text before which a number may end. -/
def NotDigit (rest : List UInt8) : Prop := ∀ byte, rest.head? = some byte → isDigit byte = false

theorem notDigit_cons {byte : UInt8} (h : isDigit byte = false) (rest : List UInt8) : NotDigit (byte :: rest) := by
  rintro _ ⟨rfl⟩
  exact h

/-- Before what is allowed to follow it, a text is split into tokens: into these exactly when it is fine, and otherwise there
is a difference, whatever follows. -/
def ReadsAs (allowed : List UInt8 → Prop) (text : List UInt8) (tokens : List JsonToken) (fine : Prop) : Prop :=
  ∃ read, (∀ rest, allowed rest → lex (text ++ rest) = (lex rest).map (read ++ ·)) ∧ (fine → read = tokens) ∧
    ∀ r r', read ++ r = tokens ++ r' → fine ∧ r = r'

namespace ReadsAs

variable {allowed allowed' : List UInt8 → Prop} {text text' : List UInt8} {tokens tokens' : List JsonToken} {fine fine' : Prop}

theorem exact (h : ∀ rest, allowed rest → lex (text ++ rest) = (lex rest).map (tokens ++ ·)) :
    ReadsAs allowed text tokens True :=
  ⟨tokens, h, fun _ => rfl, fun _ _ heq => ⟨trivial, List.append_cancel_left heq⟩⟩

theorem mono (h : ReadsAs allowed text tokens fine) (hallowed : ∀ rest, allowed' rest → allowed rest) :
    ReadsAs allowed' text tokens fine := by
  obtain ⟨read, hlex, hfine, hdiff⟩ := h
  exact ⟨read, fun rest hrest => hlex rest (hallowed rest hrest), hfine, hdiff⟩

theorem append (h : ReadsAs allowed text tokens fine) (h' : ReadsAs allowed' text' tokens' fine')
    (hallowed : ∀ rest, allowed' rest → allowed (text' ++ rest)) :
    ReadsAs allowed' (text ++ text') (tokens ++ tokens') (fine ∧ fine') := by
  obtain ⟨read, hlex, hfine, hdiff⟩ := h
  obtain ⟨read', hlex', hfine', hdiff'⟩ := h'
  refine ⟨read ++ read', fun rest hrest => ?_, fun hboth => by rw [hfine hboth.1, hfine' hboth.2], fun r r' heq => ?_⟩
  · rw [List.append_assoc, hlex _ (hallowed rest hrest), hlex' rest hrest, Option.map_map]
    congr 1
    funext more
    exact (List.append_assoc _ _ _).symm
  · rw [List.append_assoc, List.append_assoc] at heq
    obtain ⟨hfirst, heq⟩ := hdiff _ _ heq
    obtain ⟨hsecond, heq⟩ := hdiff' _ _ heq
    exact ⟨⟨hfirst, hsecond⟩, heq⟩

theorem comma (comma : Bool) : ReadsAs (fun _ => True) (commaBytes comma) (JsonToken.separator comma) True := by
  refine exact fun rest _ => ?_
  cases comma with
  | false => exact (Option.map_id_apply).symm
  | true => exact JsonValue.lex_comma rest

theorem quoted {piece value expected : List UInt8} (h : IsQuoted piece value) (hfine : fine ↔ value = expected) :
    ReadsAs (fun _ => True) piece [.string expected] fine := by
  obtain ⟨text, rfl, hread⟩ := h
  refine ⟨[.string value], fun rest _ => ?_, fun h => by rw [hfine.1 h], fun r r' heq => ?_⟩
  · exact JsonValue.lex_string (JsonValue.lexString_append hread rest)
  · injection heq with hhead htail
    injection hhead with hvalue
    exact ⟨hfine.2 hvalue, htail⟩

end ReadsAs

/-- The quotation marks that tokens need. -/
def quotesOf (tokens : List JsonToken) : ℕ := 2 * tokens.countP JsonToken.isString

@[simp] theorem quotesOf_append (first second : List JsonToken) : quotesOf (first ++ second) = quotesOf first + quotesOf second := by
  unfold quotesOf
  rw [List.countP_append]
  omega

/-- A text has no more quotation marks than its tokens need, and if it is not split into tokens as it should, has fewer. -/
def Written (allowed : List UInt8 → Prop) (text : List UInt8) (tokens : List JsonToken) (fine : Prop) : Prop :=
  ∃ n ≤ quotesOf tokens, QuotesAtMost n text ∧ (ReadsAs allowed text tokens fine ∨ n < quotesOf tokens ∧ ¬ fine)

namespace Written

variable {allowed allowed' : List UInt8 → Prop} {text text' : List UInt8} {tokens tokens' : List JsonToken} {fine fine' : Prop}

theorem append (h : Written allowed text tokens fine) (h' : Written allowed' text' tokens' fine')
    (hallowed : ∀ rest, allowed' rest → allowed (text' ++ rest)) :
    Written allowed' (text ++ text') (tokens ++ tokens') (fine ∧ fine') := by
  obtain ⟨n, hn, hquotes, hreads⟩ := h
  obtain ⟨n', hn', hquotes', hreads'⟩ := h'
  refine ⟨n + n', by rw [quotesOf_append]; omega, hquotes.append hquotes', ?_⟩
  rw [quotesOf_append]
  rcases hreads with hreads | ⟨hlt, hnot⟩
  · rcases hreads' with hreads' | ⟨hlt', hnot'⟩
    · exact Or.inl (hreads.append hreads' hallowed)
    · exact Or.inr ⟨by omega, fun hboth => hnot' hboth.2⟩
  · exact Or.inr ⟨by omega, fun hboth => hnot hboth.1⟩

theorem congr (h : Written allowed text tokens fine) (hfine : fine ↔ fine') : Written allowed text tokens fine' := by
  rw [← propext hfine]
  exact h

theorem mono (h : Written allowed text tokens fine) (hallowed : ∀ rest, allowed' rest → allowed rest) :
    Written allowed' text tokens fine := by
  obtain ⟨n, hn, hquotes, hreads | hnot⟩ := h
  · exact ⟨n, hn, hquotes, Or.inl (hreads.mono hallowed)⟩
  · exact ⟨n, hn, hquotes, Or.inr hnot⟩

/-- A text without quotation marks. -/
theorem plain (htext : ∀ byte ∈ text, byte ≠ 34 ∧ byte ≠ 92) (h : ReadsAs allowed text tokens fine) :
    Written allowed text tokens fine := ⟨0, Nat.zero_le _, QuotesAtMost.plain htext, Or.inl h⟩

theorem comma (comma : Bool) : Written (fun _ => True) (commaBytes comma) (JsonToken.separator comma) True := by
  refine plain ?_ (ReadsAs.comma comma)
  cases comma <;> exact forall_mem_of_all (by decide)

theorem behindComma (h : Written allowed text tokens fine) (comma : Bool) :
    Written allowed (commaBytes comma ++ text) (JsonToken.separator comma ++ tokens) fine :=
  ((Written.comma comma).append h fun _ _ => trivial).congr (by simp)

theorem quoted {piece value expected : List UInt8} (h : IsQuoted piece value) (hfine : fine ↔ value = expected) :
    Written (fun _ => True) piece [.string expected] fine := by
  refine ⟨2, Nat.le_refl 2, ?_, Or.inl (ReadsAs.quoted h hfine)⟩
  obtain ⟨text, rfl, hread⟩ := h
  exact QuotesAtMost.quote.append (QuotesAtMost.ofString hread)

/-- Between brackets. -/
theorem enclosed (h : Written allowed text tokens fine) {first last : UInt8} {opening closing : JsonToken}
    (hfirst : ∀ rest, lex (first :: rest) = (lex rest).map (opening :: ·))
    (hlast : ∀ rest, lex (last :: rest) = (lex rest).map (closing :: ·))
    (hplain : ∀ byte ∈ [first, last], byte ≠ 34 ∧ byte ≠ 92) (hallowed : ∀ rest, allowed (last :: rest)) :
    Written (fun _ => True) (first :: (text ++ [last])) (opening :: (tokens ++ [closing])) fine := by
  simp only [List.forall_mem_cons] at hplain
  have hopen : Written (fun _ => True) [first] [opening] True :=
    plain (by simpa using hplain.1) (ReadsAs.exact fun rest _ => hfirst rest)
  have hclose : Written (fun _ => True) [last] [closing] True :=
    plain (by simpa using hplain.2.1) (ReadsAs.exact fun rest _ => hlast rest)
  exact (hopen.append (h.append hclose fun rest _ => hallowed rest) fun _ _ => trivial).congr (by simp)

end Written

theorem written_text {text : Text} {piece : List UInt8} (h : text.piece = some piece) :
    Written (fun _ => True) piece [.string text.value] text.Fine := by
  rcases Text.piece_cases h with ⟨value, hquoted, hfine⟩ | ⟨hquotes, hnot⟩
  · exact Written.quoted hquoted hfine
  · exact ⟨1, Nat.le_succ 1, hquotes, Or.inr ⟨Nat.lt_succ_self 1, hnot⟩⟩

theorem written_name {name : Name} {piece : List UInt8} (h : name.piece = some piece) :
    Written (fun _ => True) piece [.string name.value, .colon] name.Fine := by
  obtain ⟨text, value, rfl, hquoted, hfine⟩ := Name.piece_cases h
  have hcolon : Written (fun _ => True) [58] [.colon] True :=
    Written.plain (forall_mem_of_all (by decide)) (ReadsAs.exact fun rest _ => JsonValue.lex_colon rest)
  exact ((Written.quoted hquoted hfine).append hcolon fun _ _ => trivial).congr (by simp)

theorem numberText_plain (value : ℤ) : ∀ byte ∈ numberText value, byte ≠ 34 ∧ byte ≠ 92 := by
  intro byte hbyte
  rcases List.mem_append.1 hbyte with hsign | hdigit
  · split_ifs at hsign
    · rw [List.mem_singleton.1 hsign]
      decide
    · cases hsign
  · exact JsonValue.isDigit_plain ((digitsOf_spec value.natAbs).1 byte hdigit)

/-- A number behind its comma, unless that is left out. -/
theorem written_integer (number : Integer) (comma : Bool) :
    Written NotDigit (commaBytes (comma && !number.IsMinimum) ++ numberText number.value)
      (JsonToken.separator comma ++ [.number number.value]) (comma = true → ¬ number.IsMinimum) := by
  have hread : ReadsAs NotDigit (numberText number.value) [.number number.value] True :=
    ReadsAs.exact fun rest hrest => lex_numberText number.value hrest
  have hnumber := Written.plain (numberText_plain number.value) hread
  by_cases hbad : comma = true ∧ number.IsMinimum
  · rw [hbad.1, show decide number.IsMinimum = true from decide_eq_true hbad.2]
    obtain ⟨read, hlex, hfine, -⟩ := hread
    refine Written.plain (numberText_plain number.value) ⟨read, hlex, fun hnot => absurd hbad.2 (hnot rfl), fun r r' heq => ?_⟩
    rw [hfine trivial] at heq
    cases heq
  · have hcomma : (comma && !number.IsMinimum) = comma := by
      cases comma with
      | false => rfl
      | true => rw [show decide number.IsMinimum = false from decide_eq_false fun hmin => hbad ⟨rfl, hmin⟩]; rfl
    rw [hcomma]
    exact (hnumber.behindComma comma).congr (iff_of_true trivial fun hcomma hmin => hbad ⟨hcomma, hmin⟩)

theorem written_word {text : List UInt8} {token : JsonToken} (hplain : ∀ byte ∈ text, byte ≠ 34 ∧ byte ≠ 92)
    (h : ∀ rest, lex (text ++ rest) = (lex rest).map (token :: ·)) (comma : Bool) :
    Written NotDigit (commaBytes comma ++ text) (JsonToken.separator comma ++ [token]) True :=
  (Written.plain hplain (ReadsAs.exact fun rest (_ : NotDigit rest) => h rest)).behindComma comma

namespace Use

/-- Behind another element, nothing begins with a digit. -/
theorem notDigit_written {use : Use} {text : List UInt8} (h : use.written true = some text) (rest : List UInt8) :
    NotDigit (text ++ rest) := by
  cases use with
  | null =>
    cases h
    exact notDigit_cons (by decide) _
  | bool value =>
    cases h
    exact notDigit_cons (by decide) _
  | integer number =>
    rw [written, Bool.true_and] at h
    cases h
    by_cases hmin : number.IsMinimum
    · have hneg : number.value < 0 := by
        rw [hmin.2, IntegerType.min, if_pos hmin.1]
        exact Int.neg_neg_of_pos (Int.pow_pos (by decide))
      rw [show decide number.IsMinimum = true from decide_eq_true hmin]
      unfold numberText
      rw [if_pos hneg]
      exact notDigit_cons (by decide) _
    · rw [show decide number.IsMinimum = false from decide_eq_false hmin]
      exact notDigit_cons (by decide) _
  | string text =>
    obtain ⟨piece, -, rfl⟩ := Option.map_eq_some_iff.1 h
    exact notDigit_cons (by decide) _
  | array elements =>
    rw [written] at h
    obtain ⟨piece, -, rfl⟩ := Option.map_eq_some_iff.1 h
    exact notDigit_cons (by decide) _
  | object members =>
    rw [written] at h
    obtain ⟨piece, -, rfl⟩ := Option.map_eq_some_iff.1 h
    exact notDigit_cons (by decide) _

theorem notDigit_writtenElements {elements : List Use} {text rest : List UInt8}
    (h : writtenElements true elements = some text) (hrest : NotDigit rest) : NotDigit (text ++ rest) := by
  cases elements with
  | nil =>
    cases h
    exact hrest
  | cons use elements =>
    rw [writtenElements] at h
    obtain ⟨first, hfirst, h⟩ := Option.bind_eq_some_iff.1 h
    obtain ⟨more, -, rfl⟩ := Option.map_eq_some_iff.1 h
    rw [List.append_assoc]
    exact notDigit_written hfirst _

theorem notDigit_writtenMembers {members : List (Name × Use)} {text rest : List UInt8}
    (h : writtenMembers true members = some text) (hrest : NotDigit rest) : NotDigit (text ++ rest) := by
  cases members with
  | nil =>
    cases h
    exact hrest
  | cons member members =>
    obtain ⟨name, use⟩ := member
    rw [writtenMembers] at h
    obtain ⟨piece, -, h⟩ := Option.bind_eq_some_iff.1 h
    obtain ⟨first, -, h⟩ := Option.bind_eq_some_iff.1 h
    obtain ⟨more, -, rfl⟩ := Option.map_eq_some_iff.1 h
    exact notDigit_cons (by decide) _

mutual

/-- The text of a use, by induction on the use. -/
theorem written_spec : ∀ (use : Use) (comma : Bool) (text : List UInt8), use.written comma = some text →
    Written NotDigit text (JsonToken.separator comma ++ use.value.tokens) (use.Fine comma)
  | null, comma, text, h => by
    cases h
    rw [value, JsonValue.tokens]
    exact (written_word (forall_mem_of_all (by decide)) JsonValue.lex_null comma).congr (by simp [Fine])
  | bool value, comma, text, h => by
    cases h
    rw [Use.value, JsonValue.tokens]
    exact (written_word (by cases value <;> exact forall_mem_of_all (by decide)) (JsonValue.lex_bool value) comma).congr (by simp [Fine])
  | integer number, comma, text, h => by
    cases h
    rw [value, JsonValue.tokens]
    exact (written_integer number comma).congr (by rw [Fine])
  | string source, comma, text, h => by
    obtain ⟨piece, hpiece, rfl⟩ := Option.map_eq_some_iff.1 h
    rw [value, JsonValue.tokens]
    exact (((written_text hpiece).behindComma comma).mono fun _ _ => trivial).congr (by rw [Fine])
  | array elements, comma, text, h => by
    rw [written] at h
    obtain ⟨inner, hinner, rfl⟩ := Option.map_eq_some_iff.1 h
    rw [value, JsonValue.tokens]
    have henclosed := (writtenElements_spec elements false inner hinner).enclosed JsonValue.lex_arrayStart JsonValue.lex_arrayEnd
      (forall_mem_of_all (by decide)) (notDigit_cons (by decide))
    exact ((henclosed.behindComma comma).mono fun _ _ => trivial).congr (by rw [Fine])
  | object members, comma, text, h => by
    rw [written] at h
    obtain ⟨inner, hinner, rfl⟩ := Option.map_eq_some_iff.1 h
    rw [value, JsonValue.tokens]
    have henclosed := (writtenMembers_spec members false inner hinner).enclosed JsonValue.lex_objectStart JsonValue.lex_objectEnd
      (forall_mem_of_all (by decide)) (notDigit_cons (by decide))
    exact ((henclosed.behindComma comma).mono fun _ _ => trivial).congr (by rw [Fine])

theorem writtenElements_spec : ∀ (elements : List Use) (comma : Bool) (text : List UInt8),
    writtenElements comma elements = some text →
    Written NotDigit text (elementTokens comma (elementValues elements)) (ElementsFine comma elements)
  | [], comma, text, h => by
    cases h
    rw [elementValues, elementTokens]
    exact (Written.plain (forall_mem_of_all (by decide)) (ReadsAs.exact fun rest _ => Option.map_id_apply.symm)).congr (by rw [ElementsFine])
  | use :: elements, comma, text, h => by
    rw [writtenElements] at h
    obtain ⟨first, hfirst, h⟩ := Option.bind_eq_some_iff.1 h
    obtain ⟨more, hmore, rfl⟩ := Option.map_eq_some_iff.1 h
    rw [elementValues, elementTokens, ← List.append_assoc]
    exact ((written_spec use comma first hfirst).append (writtenElements_spec elements true more hmore)
      fun rest hrest => notDigit_writtenElements hmore hrest).congr (by rw [ElementsFine])

theorem writtenMembers_spec : ∀ (members : List (Name × Use)) (comma : Bool) (text : List UInt8),
    writtenMembers comma members = some text →
    Written NotDigit text (memberTokens comma (memberValues members)) (MembersFine members)
  | [], comma, text, h => by
    cases h
    rw [memberValues, memberTokens]
    exact (Written.plain (forall_mem_of_all (by decide)) (ReadsAs.exact fun rest _ => Option.map_id_apply.symm)).congr (by rw [MembersFine])
  | (name, use) :: members, comma, text, h => by
    rw [writtenMembers] at h
    obtain ⟨piece, hpiece, h⟩ := Option.bind_eq_some_iff.1 h
    obtain ⟨first, hfirst, h⟩ := Option.bind_eq_some_iff.1 h
    obtain ⟨more, hmore, rfl⟩ := Option.map_eq_some_iff.1 h
    have hvalue := (written_spec use false first hfirst).append (writtenMembers_spec members true more hmore)
      fun rest hrest => notDigit_writtenMembers hmore hrest
    have hmember := (written_name hpiece).append hvalue fun _ _ => trivial
    rw [memberValues, memberTokens]
    exact (hmember.behindComma comma).congr (by rw [MembersFine])

end

end Use

/-! ### What is fine is written -/

theorem StringView.exists_written {view : StringView} (h : view.Fine) : ∃ value, view.written = some value := by
  unfold written
  split_ifs with hlength
  · obtain ⟨name, hname, -⟩ := h (List.eq_nil_of_length_eq_zero hlength)
    exact ⟨name.bytes, by rw [hname, Option.map_some]⟩
  · exact ⟨view.bytes, rfl⟩

theorem Text.exists_piece {text : Text} (h : text.Fine) : ∃ piece, text.piece = some piece := by
  cases text with
  | string value =>
    have hfine : (viewOfString value).Fine := by
      intro hnil
      refine ⟨_, rfl, ?_⟩
      show List.takeWhile _ value = []
      rw [show value = [] from hnil]
      rfl
    obtain ⟨written, hwritten⟩ := StringView.exists_written hfine
    exact ⟨quoted written, Option.map_eq_some_iff.2 ⟨written, hwritten, rfl⟩⟩
  | view view =>
    obtain ⟨written, hwritten⟩ := StringView.exists_written h
    exact ⟨quoted written, Option.map_eq_some_iff.2 ⟨written, hwritten, rfl⟩⟩
  | readyString r =>
    have hsize : r.size = r.bytesNeeded := JsonReadyString.size_eq h
    have hroom : ¬ r.isConstructed = false := by
      unfold JsonReadyString.isConstructed
      rw [hsize, Bool.or_eq_false_iff, decide_eq_false_iff_not, decide_eq_false_iff_not]
      omega
    dsimp only [Text.piece]
    rw [if_neg hroom]
    split_ifs with hescape
    · have hfine : r.string.Fine := by
        intro hnil
        have hlength := r.length_content
        have hcontent : r.content = r.source := if_pos hescape
        have hnil : r.content.take r.size = [] := hnil
        rw [hsize, ← hlength, List.take_length, hcontent] at hnil
        unfold JsonReadyString.needsJsonEscape at hescape
        rw [hnil] at hescape
        cases hescape
      obtain ⟨written, hwritten⟩ := StringView.exists_written hfine
      exact ⟨quoted written, Option.map_eq_some_iff.2 ⟨written, hwritten, rfl⟩⟩
    · exact ⟨_, rfl⟩

theorem Name.exists_piece {name : Name} (h : name.Fine) : ∃ piece, name.piece = some piece := by
  cases name with
  | property view =>
    obtain ⟨written, hwritten⟩ := StringView.exists_written h
    exact ⟨quoted written ++ [58], Option.map_eq_some_iff.2 ⟨written, hwritten, rfl⟩⟩
  | propertyOfCString name => exact ⟨_, rfl⟩
  | safe name => exact ⟨_, rfl⟩
  | raw name => exact ⟨_, rfl⟩

namespace Use

mutual

theorem exists_written : ∀ (use : Use) (comma : Bool), use.Fine comma → ∃ text, use.written comma = some text
  | null, _, _ => ⟨_, rfl⟩
  | bool _, _, _ => ⟨_, rfl⟩
  | integer _, _, _ => ⟨_, rfl⟩
  | string _, comma, h => by
    rw [Fine] at h
    obtain ⟨piece, hpiece⟩ := Text.exists_piece h
    exact ⟨commaBytes comma ++ piece, by rw [written, hpiece, Option.map_some]⟩
  | array elements, comma, h => by
    rw [Fine] at h
    obtain ⟨inner, hinner⟩ := exists_writtenElements elements false h
    exact ⟨_, by rw [written, hinner, Option.map_some]⟩
  | object members, comma, h => by
    rw [Fine] at h
    obtain ⟨inner, hinner⟩ := exists_writtenMembers members false h
    exact ⟨_, by rw [written, hinner, Option.map_some]⟩

theorem exists_writtenElements : ∀ (elements : List Use) (comma : Bool), ElementsFine comma elements →
    ∃ text, writtenElements comma elements = some text
  | [], _, _ => ⟨[], rfl⟩
  | use :: elements, comma, h => by
    rw [ElementsFine] at h
    obtain ⟨first, hfirst⟩ := exists_written use comma h.1
    obtain ⟨more, hmore⟩ := exists_writtenElements elements true h.2
    exact ⟨first ++ more, by rw [writtenElements, hfirst, Option.bind_some, hmore, Option.map_some]⟩

theorem exists_writtenMembers : ∀ (members : List (Name × Use)) (comma : Bool), MembersFine members →
    ∃ text, writtenMembers comma members = some text
  | [], _, _ => ⟨[], rfl⟩
  | (name, use) :: members, comma, h => by
    rw [MembersFine] at h
    obtain ⟨piece, hpiece⟩ := Name.exists_piece h.1
    obtain ⟨first, hfirst⟩ := exists_written use false h.2.1
    obtain ⟨more, hmore⟩ := exists_writtenMembers members true h.2.2
    exact ⟨commaBytes comma ++ (piece ++ (first ++ more)), by
      rw [writtenMembers, hpiece, Option.bind_some, hfirst, Option.bind_some, hmore, Option.map_some]⟩

end

/-! ### The writer and its text -/

variable {growWith : ℕ} {hgrow : 128 ≤ growWith} {use : Use}

/-- The calls for a use, made of a new writer with this buffer, write a text that is read back as the value of the use. -/
def WritesValue (growWith : ℕ) (hgrow : 128 ≤ growWith) (use : Use) : Prop :=
  ∃ writer, (JsonWriter.construct (.construct growWith hgrow)).performAll use.calls = some writer ∧
    parse writer.stringBufferOutput.view = some use.value

theorem writesValue_iff_written (hdepth : use.depth ≤ maxStateDepth - 1) :
    use.WritesValue growWith hgrow ↔ ∃ text, use.written false = some text ∧ parse text = some use.value := by
  have hrun := performAll_calls use (.construct growWith hgrow) ⟨false, false, false⟩ []
    (by unfold maxStateDepth at hdepth ⊢; rw [List.length_nil]; omega)
  unfold WritesValue
  rw [show JsonWriter.construct _ = ⟨_, _⟩ from rfl, hrun]
  constructor
  · rintro ⟨writer, hwriter, hparse⟩
    obtain ⟨text, htext, rfl⟩ := Option.map_eq_some_iff.1 hwriter
    exact ⟨text, htext, hparse⟩
  · rintro ⟨text, htext, hparse⟩
    exact ⟨_, Option.map_eq_some_iff.2 ⟨text, htext, rfl⟩, hparse⟩

/-- If the text had fewer quotation marks than its tokens need, it would not be split into them. -/
theorem parse_written_iff : (∃ text, use.written false = some text ∧ parse text = some use.value) ↔ use.Fine false := by
  constructor
  · rintro ⟨text, htext, hparse⟩
    rw [JsonValue.parse_eq_some_iff] at hparse
    obtain ⟨n, hn, hquotes, hreads | ⟨hlt, -⟩⟩ := written_spec use false text htext
    · obtain ⟨read, hlex, -, hdiff⟩ := hreads
      have hread := hlex [] fun byte hbyte => by cases hbyte
      rw [List.append_nil, hparse, JsonValue.lex_nil] at hread
      have hsame : read ++ [] = JsonToken.separator false ++ use.value.tokens ++ [] := by
        rw [List.append_nil (JsonToken.separator false ++ use.value.tokens)]
        exact (Option.some.inj hread).symm
      exact (hdiff [] [] hsame).1
    · exact absurd (JsonValue.le_of_lex hparse hquotes) (Nat.not_le.2 hlt)
  · intro hfine
    obtain ⟨text, htext⟩ := exists_written use false hfine
    refine ⟨text, htext, JsonValue.parse_eq_some_iff.2 ?_⟩
    obtain ⟨n, hn, hquotes, hreads | ⟨-, hnot⟩⟩ := written_spec use false text htext
    · obtain ⟨read, hlex, htokens, -⟩ := hreads
      have hread := hlex [] fun byte hbyte => by cases hbyte
      rw [List.append_nil, JsonValue.lex_nil, htokens hfine] at hread
      rw [hread]
      simp [JsonToken.separator]
    · exact absurd hfine hnot

/-- The calls for a use that is not nested too deeply write its value exactly when the use is fine. -/
theorem writesValue_iff {growWith : ℕ} (hgrow : 128 ≤ growWith) {use : Use} (hdepth : use.depth ≤ maxStateDepth - 1) :
    use.WritesValue growWith hgrow ↔ use.Fine false :=
  (writesValue_iff_written hdepth).trans parse_written_iff

/-- `{"a":[null,-2147483648],"b":""}`, with a minimum behind another element but for its type. -/
theorem writesValue_object :
    (object [(.raw ⟨[97], [97], by decide +kernel⟩, array [null, integer ⟨.long, -2147483648, by decide, by decide⟩]),
      (.raw ⟨[98], [98], by decide +kernel⟩, string (.readyString ⟨8, []⟩))]).WritesValue 128 (Nat.le_refl 128) :=
  (writesValue_iff (Nat.le_refl 128) (by decide)).2
    ⟨trivial, ⟨trivial, fun _ hmin => absurd hmin.2 (by decide), trivial⟩, trivial,
      show JsonReadyString.bytesNeeded _ < _ by decide, trivial⟩

/-- `[0-2147483648]` is no array, and an empty view of a text is not the text. -/
theorem not_writesValue_minimum :
    ¬ (array [integer ⟨.int, 0, by decide, by decide⟩,
        integer ⟨.int, -2147483648, by decide, by decide⟩]).WritesValue 1024 (by decide) ∧
      ¬ (string (.view ⟨[], some ⟨[97], by decide⟩⟩)).WritesValue 1024 (by decide) := by
  constructor
  · rw [writesValue_iff_written (by decide), parse_written_iff]
    intro hfine
    exact hfine.2.1 rfl ⟨rfl, by decide⟩
  · rw [writesValue_iff_written (by decide), parse_written_iff]
    intro hfine
    obtain ⟨name, hname, hempty⟩ := hfine rfl
    cases hname
    cases hempty

end Use

end Forum.FastJsonWriter
