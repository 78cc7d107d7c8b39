import Mathlib.Data.List.TakeWhile
import Mathlib.Data.Int.Notation
import Forum.Library.Ascii
import Forum.Library.Hexadecimal

/-!
# JSON texts

The text of a value, as bytes: it is split into tokens, and the tokens of a value are those that the grammar says.
Numbers are integers, and the bytes of strings that are not ASCII are taken as they are. Between tokens there may be
whitespace.

`parse_eq_some_iff`: a text is parsed to a value exactly when its tokens are the tokens of that value.
-/

namespace Forum.Library

/-- The values, with the members of an object in their order. -/
inductive JsonValue
  | null
  | bool (value : Bool)
  | number (value : ℤ)
  | string (value : List UInt8)
  | array (elements : List JsonValue)
  | object (members : List (List UInt8 × JsonValue))

/-- What a text is split into. -/
inductive JsonToken
  | null
  | bool (value : Bool)
  | number (value : ℤ)
  | string (value : List UInt8)
  | arrayStart | arrayEnd | objectStart | objectEnd | comma | colon
  deriving DecidableEq, Repr

namespace JsonToken

/-- A comma, if there is one. -/
def separator (comma : Bool) : List JsonToken := if comma then [.comma] else []

end JsonToken

namespace JsonValue

/-! ### The grammar -/

mutual

/-- The tokens of a value. -/
def tokens : JsonValue → List JsonToken
  | null => [.null]
  | bool value => [.bool value]
  | number value => [.number value]
  | string value => [.string value]
  | array elements => .arrayStart :: (elementTokens false elements ++ [.arrayEnd])
  | object members => .objectStart :: (memberTokens false members ++ [.objectEnd])

/-- The tokens of elements, with or without a comma before the first one. -/
def elementTokens : Bool → List JsonValue → List JsonToken
  | _, [] => []
  | comma, value :: elements => JsonToken.separator comma ++ (tokens value ++ elementTokens true elements)

/-- The same for the members of an object. -/
def memberTokens : Bool → List (List UInt8 × JsonValue) → List JsonToken
  | _, [] => []
  | comma, (name, value) :: members =>
    JsonToken.separator comma ++ (.string name :: .colon :: (tokens value ++ memberTokens true members))

end

/-! ### Reading tokens -/

/-- What follows a comma, if there is one to be. -/
def dropSeparator : Bool → List JsonToken → Option (List JsonToken)
  | false, tokens => some tokens
  | true, .comma :: tokens => some tokens
  | true, _ => none

/-- The name of a member, and what follows its colon. -/
def readName : List JsonToken → Option (List UInt8 × List JsonToken)
  | .string name :: .colon :: tokens => some (name, tokens)
  | _ => none

mutual

/-- The first value of some tokens, and the rest of them; values are nested no deeper than the first argument says. -/
def readValue : ℕ → List JsonToken → Option (JsonValue × List JsonToken)
  | 0, _ => none
  | _ + 1, .null :: rest => some (.null, rest)
  | _ + 1, .bool value :: rest => some (.bool value, rest)
  | _ + 1, .number value :: rest => some (.number value, rest)
  | _ + 1, .string value :: rest => some (.string value, rest)
  | n + 1, .arrayStart :: rest => (readElements n false rest).map fun read => (.array read.1, read.2)
  | n + 1, .objectStart :: rest => (readMembers n false rest).map fun read => (.object read.1, read.2)
  | _ + 1, _ => none

/-- Reads the elements of an array up to its end. -/
def readElements : ℕ → Bool → List JsonToken → Option (List JsonValue × List JsonToken)
  | 0, _, _ => none
  | n + 1, comma, rest =>
    if rest.head? = some .arrayEnd then some ([], rest.tail)
    else
      (dropSeparator comma rest).bind fun rest =>
        (readValue n rest).bind fun value =>
          (readElements n true value.2).map fun read => (value.1 :: read.1, read.2)

/-- Reads the members of an object up to its end. -/
def readMembers : ℕ → Bool → List JsonToken → Option (List (List UInt8 × JsonValue) × List JsonToken)
  | 0, _, _ => none
  | n + 1, comma, rest =>
    if rest.head? = some .objectEnd then some ([], rest.tail)
    else
      (dropSeparator comma rest).bind fun rest =>
        (readName rest).bind fun name =>
          (readValue n name.2).bind fun value =>
            (readMembers n true value.2).map fun read => ((name.1, value.1) :: read.1, read.2)

end

/-- The value that has these tokens. -/
def ofTokens (tokens : List JsonToken) : Option JsonValue :=
  match readValue tokens.length tokens with
  | some (value, []) => some value
  | _ => none

@[simp] theorem dropSeparator_append (comma : Bool) (rest : List JsonToken) :
    dropSeparator comma (JsonToken.separator comma ++ rest) = some rest := by
  cases comma <;> rfl

theorem eq_of_dropSeparator {comma : Bool} {tokens rest : List JsonToken} (h : dropSeparator comma tokens = some rest) :
    tokens = JsonToken.separator comma ++ rest := by
  cases comma with
  | false => exact Option.some.inj h
  | true =>
    unfold dropSeparator at h
    split at h
    · rename_i heq
      cases heq
    · rw [← Option.some.inj h]
      rfl
    · cases h

theorem eq_of_readName {tokens rest : List JsonToken} {name : List UInt8} (h : readName tokens = some (name, rest)) :
    tokens = .string name :: .colon :: rest := by
  unfold readName at h
  split at h
  · cases h
    rfl
  · cases h

/-- The first token of a value ends nothing, and there is one. -/
theorem tokens_eq_cons (value : JsonValue) : ∃ token rest, value.tokens = token :: rest ∧ token ≠ .arrayEnd := by
  cases value with
  | null => exact ⟨_, _, by rw [tokens], by decide⟩
  | bool value => exact ⟨_, _, by rw [tokens], by simp⟩
  | number value => exact ⟨_, _, by rw [tokens], by simp⟩
  | string value => exact ⟨_, _, by rw [tokens], by simp⟩
  | array elements => exact ⟨_, _, by rw [tokens], by decide⟩
  | object members => exact ⟨_, _, by rw [tokens], by decide⟩

theorem length_tokens_pos (value : JsonValue) : 0 < value.tokens.length := by
  obtain ⟨token, rest, heq, -⟩ := value.tokens_eq_cons
  rw [heq]
  exact Nat.succ_pos _

/-! #### What is read has these tokens -/

/-- By induction on the depth that is left. -/
theorem tokens_of_read (n : ℕ) :
    (∀ {tokens rest : List JsonToken} {value : JsonValue}, readValue n tokens = some (value, rest) →
      tokens = value.tokens ++ rest) ∧
    (∀ {comma : Bool} {tokens rest : List JsonToken} {elements : List JsonValue},
      readElements n comma tokens = some (elements, rest) →
      tokens = elementTokens comma elements ++ .arrayEnd :: rest) ∧
    ∀ {comma : Bool} {tokens rest : List JsonToken} {members : List (List UInt8 × JsonValue)},
      readMembers n comma tokens = some (members, rest) →
      tokens = memberTokens comma members ++ .objectEnd :: rest := by
  induction n with
  | zero =>
    refine ⟨fun h => ?_, fun h => ?_, fun h => ?_⟩
    · rw [readValue] at h
      cases h
    · rw [readElements] at h
      cases h
    · rw [readMembers] at h
      cases h
  | succ n ih =>
    obtain ⟨hvalue, helements, hmembers⟩ := ih
    refine ⟨fun {tokens rest value} h => ?_, fun {comma tokens rest elements} h => ?_,
      fun {comma tokens rest members} h => ?_⟩
    · unfold readValue at h
      split at h
      · rename_i heq
        cases heq
      · cases h
        rw [JsonValue.tokens]
        rfl
      · cases h
        rw [JsonValue.tokens]
        rfl
      · cases h
        rw [JsonValue.tokens]
        rfl
      · cases h
        rw [JsonValue.tokens]
        rfl
      · rename_i heq
        cases heq
        obtain ⟨read, hread, heq⟩ := Option.map_eq_some_iff.1 h
        cases heq
        rw [helements hread, JsonValue.tokens]
        simp
      · rename_i heq
        cases heq
        obtain ⟨read, hread, heq⟩ := Option.map_eq_some_iff.1 h
        cases heq
        rw [hmembers hread, JsonValue.tokens]
        simp
      · cases h
    · unfold readElements at h
      split_ifs at h with hend
      · cases h
        obtain ⟨tail, rfl⟩ := List.head?_eq_some_iff.1 hend
        rw [elementTokens]
        rfl
      · obtain ⟨behind, hdrop, h⟩ := Option.bind_eq_some_iff.1 h
        obtain ⟨first, hfirst, h⟩ := Option.bind_eq_some_iff.1 h
        obtain ⟨more, hmore, heq⟩ := Option.map_eq_some_iff.1 h
        cases heq
        rw [eq_of_dropSeparator hdrop, hvalue hfirst, helements hmore, elementTokens]
        simp
    · unfold readMembers at h
      split_ifs at h with hend
      · cases h
        obtain ⟨tail, rfl⟩ := List.head?_eq_some_iff.1 hend
        rw [memberTokens]
        rfl
      · obtain ⟨behind, hdrop, h⟩ := Option.bind_eq_some_iff.1 h
        obtain ⟨name, hname, h⟩ := Option.bind_eq_some_iff.1 h
        obtain ⟨first, hfirst, h⟩ := Option.bind_eq_some_iff.1 h
        obtain ⟨more, hmore, heq⟩ := Option.map_eq_some_iff.1 h
        cases heq
        rw [eq_of_dropSeparator hdrop, eq_of_readName hname, hvalue hfirst, hmembers hmore, memberTokens]
        simp

/-! #### What has these tokens is read -/

mutual

theorem readValue_tokens : ∀ (value : JsonValue) (rest : List JsonToken) (n : ℕ), value.tokens.length ≤ n →
    readValue n (value.tokens ++ rest) = some (value, rest)
  | .null, rest, n, hn => by
    obtain ⟨n, rfl⟩ := Nat.exists_eq_succ_of_ne_zero (Nat.ne_of_gt (Nat.lt_of_lt_of_le (length_tokens_pos _) hn))
    rw [tokens, List.singleton_append, readValue]
  | .bool value, rest, n, hn => by
    obtain ⟨n, rfl⟩ := Nat.exists_eq_succ_of_ne_zero (Nat.ne_of_gt (Nat.lt_of_lt_of_le (length_tokens_pos _) hn))
    rw [tokens, List.singleton_append, readValue]
  | .number value, rest, n, hn => by
    obtain ⟨n, rfl⟩ := Nat.exists_eq_succ_of_ne_zero (Nat.ne_of_gt (Nat.lt_of_lt_of_le (length_tokens_pos _) hn))
    rw [tokens, List.singleton_append, readValue]
  | .string value, rest, n, hn => by
    obtain ⟨n, rfl⟩ := Nat.exists_eq_succ_of_ne_zero (Nat.ne_of_gt (Nat.lt_of_lt_of_le (length_tokens_pos _) hn))
    rw [tokens, List.singleton_append, readValue]
  | .array elements, rest, n, hn => by
    obtain ⟨n, rfl⟩ := Nat.exists_eq_succ_of_ne_zero (Nat.ne_of_gt (Nat.lt_of_lt_of_le (length_tokens_pos _) hn))
    rw [tokens, List.length_cons, List.length_append] at hn
    rw [tokens, List.cons_append, List.append_assoc, List.singleton_append, readValue,
      readElements_tokens elements false rest n (Nat.le_of_succ_le_succ hn), Option.map_some]
  | .object members, rest, n, hn => by
    obtain ⟨n, rfl⟩ := Nat.exists_eq_succ_of_ne_zero (Nat.ne_of_gt (Nat.lt_of_lt_of_le (length_tokens_pos _) hn))
    rw [tokens, List.length_cons, List.length_append] at hn
    rw [tokens, List.cons_append, List.append_assoc, List.singleton_append, readValue,
      readMembers_tokens members false rest n (Nat.le_of_succ_le_succ hn), Option.map_some]

theorem readElements_tokens : ∀ (elements : List JsonValue) (comma : Bool) (rest : List JsonToken) (n : ℕ),
    (elementTokens comma elements).length + 1 ≤ n →
    readElements n comma (elementTokens comma elements ++ .arrayEnd :: rest) = some (elements, rest)
  | [], comma, rest, n, hn => by
    obtain ⟨n, rfl⟩ := Nat.exists_eq_succ_of_ne_zero (Nat.ne_of_gt (Nat.lt_of_lt_of_le (Nat.succ_pos _) hn))
    rw [elementTokens, List.nil_append, readElements]
    exact if_pos rfl
  | value :: elements, comma, rest, n, hn => by
    obtain ⟨n, rfl⟩ := Nat.exists_eq_succ_of_ne_zero (Nat.ne_of_gt (Nat.lt_of_lt_of_le (Nat.succ_pos _) hn))
    obtain ⟨token, behind, hfirst, hend⟩ := value.tokens_eq_cons
    have hpos := value.length_tokens_pos
    rw [elementTokens, List.length_append, List.length_append] at hn
    have hhead : (JsonToken.separator comma ++ (value.tokens ++ (elementTokens true elements ++ .arrayEnd :: rest))).head? ≠
        some .arrayEnd := by
      rw [hfirst]
      cases comma with
      | false => simpa [JsonToken.separator] using hend
      | true => simp [JsonToken.separator]
    rw [elementTokens, List.append_assoc, List.append_assoc, readElements, if_neg hhead, dropSeparator_append, Option.bind_some,
      readValue_tokens value _ n (by omega), Option.bind_some,
      readElements_tokens elements true rest n (by omega), Option.map_some]

theorem readMembers_tokens : ∀ (members : List (List UInt8 × JsonValue)) (comma : Bool) (rest : List JsonToken) (n : ℕ),
    (memberTokens comma members).length + 1 ≤ n →
    readMembers n comma (memberTokens comma members ++ .objectEnd :: rest) = some (members, rest)
  | [], comma, rest, n, hn => by
    obtain ⟨n, rfl⟩ := Nat.exists_eq_succ_of_ne_zero (Nat.ne_of_gt (Nat.lt_of_lt_of_le (Nat.succ_pos _) hn))
    rw [memberTokens, List.nil_append, readMembers]
    exact if_pos rfl
  | (name, value) :: members, comma, rest, n, hn => by
    obtain ⟨n, rfl⟩ := Nat.exists_eq_succ_of_ne_zero (Nat.ne_of_gt (Nat.lt_of_lt_of_le (Nat.succ_pos _) hn))
    have hpos := value.length_tokens_pos
    rw [memberTokens, List.length_append, List.length_cons, List.length_cons, List.length_append] at hn
    have hhead : (JsonToken.separator comma ++ (.string name :: .colon ::
        (value.tokens ++ (memberTokens true members ++ .objectEnd :: rest)))).head? ≠ some .objectEnd := by
      cases comma <;> simp [JsonToken.separator]
    rw [memberTokens, List.append_assoc, List.cons_append, List.cons_append, List.append_assoc, readMembers, if_neg hhead,
      dropSeparator_append, Option.bind_some, readName, Option.bind_some, readValue_tokens value _ n (by omega),
      Option.bind_some, readMembers_tokens members true rest n (by omega), Option.map_some]

end

theorem ofTokens_eq_some_iff {tokens : List JsonToken} {value : JsonValue} :
    ofTokens tokens = some value ↔ tokens = value.tokens := by
  constructor
  · intro h
    unfold ofTokens at h
    split at h
    · rename_i heq
      cases h
      exact ((tokens_of_read _).1 heq).trans (List.append_nil _)
    · cases h
  · rintro rfl
    have hread := readValue_tokens value [] value.tokens.length (Nat.le_refl _)
    rw [List.append_nil] at hread
    unfold ofTokens
    rw [hread]

/-! ### Splitting a text into tokens -/

/-- The characters that may stand between tokens. -/
def isWhitespace (byte : UInt8) : Bool := byte == 32 || byte == 9 || byte == 10 || byte == 13

/-- The character behind `\u`: one of ASCII. -/
def unicodeEscape (a b c d : UInt8) : Option UInt8 :=
  match hexDigitValue a, hexDigitValue b, hexDigitValue c, hexDigitValue d with
  | some 0, some 0, some high, some low => if high < 8 then some (UInt8.ofNat (16 * high + low)) else none
  | _, _, _, _ => none

/-- The character behind a backslash. -/
def simpleEscape (byte : UInt8) : Option UInt8 :=
  if byte = 34 ∨ byte = 92 ∨ byte = 47 then some byte
  else if byte = 98 then some 8
  else if byte = 116 then some 9
  else if byte = 110 then some 10
  else if byte = 102 then some 12
  else if byte = 114 then some 13
  else none

/-- A string behind its first quotation mark, and what follows it. -/
def lexString : List UInt8 → Option (List UInt8 × List UInt8)
  | [] => none
  | byte :: rest =>
    if byte = 34 then some ([], rest)
    else if byte = 92 then
      match rest with
      | [] => none
      | escape :: rest =>
        if escape = 117 then
          match rest with
          | a :: b :: c :: d :: rest =>
            (unicodeEscape a b c d).bind fun byte => (lexString rest).map fun read => (byte :: read.1, read.2)
          | _ => none
        else (simpleEscape escape).bind fun byte => (lexString rest).map fun read => (byte :: read.1, read.2)
    else if byte < 32 then none
    else (lexString rest).map fun read => (byte :: read.1, read.2)

theorem lexString_quote (rest : List UInt8) : lexString (34 :: rest) = some ([], rest) := by
  unfold lexString
  exact if_pos rfl

theorem lexString_plain {byte : UInt8} (hquote : byte ≠ 34) (hslash : byte ≠ 92) (hcontrol : ¬ byte < 32)
    (rest : List UInt8) : lexString (byte :: rest) = (lexString rest).map fun read => (byte :: read.1, read.2) := by
  conv => lhs; unfold lexString
  exact (if_neg hquote).trans ((if_neg hslash).trans (if_neg hcontrol))

theorem lexString_simpleEscape {escape byte : UInt8} (hescape : escape ≠ 117) (h : simpleEscape escape = some byte)
    (rest : List UInt8) :
    lexString (92 :: escape :: rest) = (lexString rest).map fun read => (byte :: read.1, read.2) := by
  conv => lhs; unfold lexString
  refine (if_neg (by decide)).trans ((if_pos rfl).trans ((if_neg hescape).trans ?_))
  rw [h, Option.bind_some]

theorem lexString_unicodeEscape {a b c d byte : UInt8} (h : unicodeEscape a b c d = some byte) (rest : List UInt8) :
    lexString (92 :: 117 :: a :: b :: c :: d :: rest) = (lexString rest).map fun read => (byte :: read.1, read.2) := by
  conv => lhs; unfold lexString
  refine (if_neg (by decide)).trans ((if_pos rfl).trans ((if_pos rfl).trans ?_))
  show (unicodeEscape a b c d).bind _ = _
  rw [h, Option.bind_some]

/-- What follows a string does not matter. -/
theorem lexString_append {text value rest : List UInt8} (h : lexString text = some (value, rest)) (behind : List UInt8) :
    lexString (text ++ behind) = some (value, rest ++ behind) := by
  fun_induction lexString text generalizing value rest with
  | case1 => cases h
  | case2 =>
    cases h
    exact lexString_quote _
  | case3 => cases h
  | case4 a b c d text _ ih =>
    obtain ⟨escaped, hescaped, h⟩ := Option.bind_eq_some_iff.1 h
    obtain ⟨read, hread, heq⟩ := Option.map_eq_some_iff.1 h
    cases heq
    simp only [List.cons_append]
    rw [lexString_unicodeEscape hescaped, ih hread, Option.map_some]
  | case5 => cases h
  | case6 escape text hescape _ ih =>
    obtain ⟨escaped, hescaped, h⟩ := Option.bind_eq_some_iff.1 h
    obtain ⟨read, hread, heq⟩ := Option.map_eq_some_iff.1 h
    cases heq
    simp only [List.cons_append]
    rw [lexString_simpleEscape hescape hescaped, ih hread, Option.map_some]
  | case7 => cases h
  | case8 byte text hquote hslash hcontrol ih =>
    obtain ⟨read, hread, heq⟩ := Option.map_eq_some_iff.1 h
    cases heq
    rw [List.cons_append, lexString_plain hquote hslash hcontrol, ih hread, Option.map_some]

/-- The digits of a number, and what follows them: they do not begin with a zero, unless that is all there is. -/
def lexDigits (bytes : List UInt8) : Option (ℕ × List UInt8) :=
  let digits := bytes.takeWhile isDigit
  if digits = [] ∨ (digits.head? = some 48 ∧ digits.length ≠ 1) then none
  else some (decimalNumber digits, bytes.dropWhile isDigit)

/-- A number, and what follows it. -/
def lexNumber : List UInt8 → Option (ℤ × List UInt8)
  | 45 :: bytes => (lexDigits bytes).map fun read => (-(read.1 : ℤ), read.2)
  | bytes => (lexDigits bytes).map fun read => ((read.1 : ℤ), read.2)

/-- The first token, and what follows it. -/
def nextToken (byte : UInt8) (rest : List UInt8) : Option (JsonToken × List UInt8) :=
  if byte = 91 then some (.arrayStart, rest)
  else if byte = 93 then some (.arrayEnd, rest)
  else if byte = 123 then some (.objectStart, rest)
  else if byte = 125 then some (.objectEnd, rest)
  else if byte = 44 then some (.comma, rest)
  else if byte = 58 then some (.colon, rest)
  else if byte = 34 then (lexString rest).map fun read => (.string read.1, read.2)
  else if (byte :: rest).take 4 = asciiBytes "null" then some (.null, rest.drop 3)
  else if (byte :: rest).take 4 = asciiBytes "true" then some (.bool true, rest.drop 3)
  else if (byte :: rest).take 5 = asciiBytes "false" then some (.bool false, rest.drop 4)
  else (lexNumber (byte :: rest)).map fun read => (.number read.1, read.2)

theorem length_lexString : ∀ {bytes value rest : List UInt8}, lexString bytes = some (value, rest) →
    rest.length ≤ bytes.length := by
  intro bytes
  fun_induction lexString bytes with
  | case1 =>
    intro value rest h
    cases h
  | case2 rest =>
    intro value rest' h
    cases h
    exact Nat.le_succ _
  | case3 =>
    intro value rest h
    cases h
  | case4 a b c d rest _ ih =>
    intro value rest' h
    obtain ⟨escaped, -, h⟩ := Option.bind_eq_some_iff.1 h
    obtain ⟨read, hread, heq⟩ := Option.map_eq_some_iff.1 h
    cases heq
    have := ih hread
    simp only [List.length_cons]
    omega
  | case5 =>
    intro value rest h
    cases h
  | case6 escape rest _ _ ih =>
    intro value rest' h
    obtain ⟨escaped, -, h⟩ := Option.bind_eq_some_iff.1 h
    obtain ⟨read, hread, heq⟩ := Option.map_eq_some_iff.1 h
    cases heq
    have := ih hread
    simp only [List.length_cons]
    omega
  | case7 =>
    intro value rest h
    cases h
  | case8 byte rest _ _ _ ih =>
    intro value rest' h
    obtain ⟨read, hread, heq⟩ := Option.map_eq_some_iff.1 h
    cases heq
    have := ih hread
    simp only [List.length_cons]
    omega

/-- A number has a digit. -/
theorem length_lexDigits {bytes rest : List UInt8} {value : ℕ} (h : lexDigits bytes = some (value, rest)) :
    rest.length < bytes.length := by
  unfold lexDigits at h
  dsimp only at h
  split_ifs at h with hbad
  cases h
  have hsplit := congrArg List.length (List.takeWhile_append_dropWhile (p := isDigit) (l := bytes))
  rw [List.length_append] at hsplit
  have hpos := List.length_pos_iff.2 fun hnone => hbad (Or.inl hnone)
  omega

theorem length_lexNumber {bytes rest : List UInt8} {value : ℤ} (h : lexNumber bytes = some (value, rest)) :
    rest.length < bytes.length := by
  unfold lexNumber at h
  split at h
  · obtain ⟨read, hread, heq⟩ := Option.map_eq_some_iff.1 h
    cases heq
    exact Nat.lt_succ_of_lt (length_lexDigits hread)
  · obtain ⟨read, hread, heq⟩ := Option.map_eq_some_iff.1 h
    cases heq
    exact length_lexDigits hread

theorem length_nextToken {byte : UInt8} {rest rest' : List UInt8} {token : JsonToken}
    (h : nextToken byte rest = some (token, rest')) : rest'.length ≤ rest.length := by
  unfold nextToken at h
  split_ifs at h
  iterate 6
    · cases h
      exact Nat.le_refl _
  · obtain ⟨read, hread, heq⟩ := Option.map_eq_some_iff.1 h
    cases heq
    exact length_lexString hread
  iterate 3
    · cases h
      rw [List.length_drop]
      exact Nat.sub_le _ _
  · obtain ⟨read, hread, heq⟩ := Option.map_eq_some_iff.1 h
    cases heq
    exact Nat.le_of_lt_succ (length_lexNumber hread)

/-- The tokens of a text. -/
def lex : List UInt8 → Option (List JsonToken)
  | [] => some []
  | byte :: rest =>
    if isWhitespace byte then lex rest
    else
      match h : nextToken byte rest with
      | none => none
      | some (token, rest') => (lex rest').map (token :: ·)
termination_by bytes => bytes.length
decreasing_by
  · exact Nat.lt_succ_self _
  · exact Nat.lt_succ_of_le (length_nextToken h)

@[simp] theorem lex_nil : lex [] = some [] := by rw [lex]

/-- A text that begins with a token. -/
theorem lex_of_nextToken {byte : UInt8} {rest rest' : List UInt8} {token : JsonToken} (hbyte : isWhitespace byte = false)
    (h : nextToken byte rest = some (token, rest')) : lex (byte :: rest) = (lex rest').map (token :: ·) := by
  rw [lex, if_neg (by rw [hbyte]; decide)]
  split <;> rename_i heq <;> rw [h] at heq <;> cases heq
  rfl

/-- The value of a text. -/
def parse (bytes : List UInt8) : Option JsonValue := (lex bytes).bind ofTokens

/-- A text is parsed to a value exactly when its tokens are those of the value. -/
theorem parse_eq_some_iff {bytes : List UInt8} {value : JsonValue} :
    parse bytes = some value ↔ lex bytes = some value.tokens := by
  unfold parse
  rw [Option.bind_eq_some_iff]
  constructor
  · rintro ⟨tokens, hlex, htokens⟩
    rw [hlex, ofTokens_eq_some_iff.1 htokens]
  · exact fun h => ⟨_, h, ofTokens_eq_some_iff.2 rfl⟩

/-! ### Texts of tokens -/

theorem lex_arrayStart (rest : List UInt8) : lex (91 :: rest) = (lex rest).map (.arrayStart :: ·) :=
  lex_of_nextToken (by decide) rfl

theorem lex_arrayEnd (rest : List UInt8) : lex (93 :: rest) = (lex rest).map (.arrayEnd :: ·) :=
  lex_of_nextToken (by decide) rfl

theorem lex_objectStart (rest : List UInt8) : lex (123 :: rest) = (lex rest).map (.objectStart :: ·) :=
  lex_of_nextToken (by decide) rfl

theorem lex_objectEnd (rest : List UInt8) : lex (125 :: rest) = (lex rest).map (.objectEnd :: ·) :=
  lex_of_nextToken (by decide) rfl

theorem lex_comma (rest : List UInt8) : lex (44 :: rest) = (lex rest).map (.comma :: ·) :=
  lex_of_nextToken (by decide) rfl

theorem lex_colon (rest : List UInt8) : lex (58 :: rest) = (lex rest).map (.colon :: ·) :=
  lex_of_nextToken (by decide) rfl

theorem lex_null (rest : List UInt8) : lex (asciiBytes "null" ++ rest) = (lex rest).map (.null :: ·) :=
  lex_of_nextToken (by decide) rfl

theorem lex_bool (value : Bool) (rest : List UInt8) :
    lex (asciiBytes (if value then "true" else "false") ++ rest) = (lex rest).map (.bool value :: ·) := by
  cases value with
  | true => exact lex_of_nextToken (by decide) rfl
  | false => exact lex_of_nextToken (by decide) rfl

theorem lex_string {text value rest : List UInt8} (h : lexString text = some (value, rest)) :
    lex (34 :: text) = (lex rest).map (.string value :: ·) := by
  refine lex_of_nextToken (by decide) ?_
  show (lexString text).map _ = _
  rw [h]
  rfl

/-- What begins with a sign or with a digit is a number. -/
theorem nextToken_number (byte : UInt8) (hbyte : byte = 45 ∨ isDigit byte = true) (rest : List UInt8) :
    isWhitespace byte = false ∧
      nextToken byte rest = (lexNumber (byte :: rest)).map fun read => (.number read.1, read.2) := by
  have hne : ∀ c : UInt8, ¬ (c = 45 ∨ isDigit c = true) → byte ≠ c := fun c hc heq => hc (heq ▸ hbyte)
  have hword : ∀ {n : ℕ} {word : List UInt8} {c : UInt8}, ¬ (c = 45 ∨ isDigit c = true) → word.head? = some c →
      (byte :: rest).take (n + 1) ≠ word := by
    rintro n word c hc hhead rfl
    exact hne c hc (Option.some.inj hhead)
  constructor
  · unfold isWhitespace
    simp [hne 32 (by decide), hne 9 (by decide), hne 10 (by decide), hne 13 (by decide)]
  · unfold nextToken
    rw [if_neg (hne 91 (by decide)), if_neg (hne 93 (by decide)), if_neg (hne 123 (by decide)),
      if_neg (hne 125 (by decide)), if_neg (hne 44 (by decide)), if_neg (hne 58 (by decide)), if_neg (hne 34 (by decide)),
      if_neg (hword (c := 110) (by decide) rfl), if_neg (hword (c := 116) (by decide) rfl),
      if_neg (hword (c := 102) (by decide) rfl)]

/-- Digits that do not begin with a needless zero, with or without a sign. -/
theorem lex_number {negative : Bool} {digits rest : List UInt8} (hdigits : ∀ digit ∈ digits, isDigit digit)
    (hnonempty : digits ≠ []) (hzero : digits.head? = some 48 → digits.length = 1)
    (hrest : ∀ byte, rest.head? = some byte → isDigit byte = false) :
    lex ((if negative then [45] else []) ++ digits ++ rest) =
      (lex rest).map (.number (if negative then -(decimalNumber digits : ℤ) else decimalNumber digits) :: ·) := by
  have htake : (digits ++ rest).takeWhile isDigit = digits := by
    rw [List.takeWhile_append_of_pos hdigits]
    cases rest with
    | nil => rw [List.takeWhile_nil, List.append_nil]
    | cons byte rest => rw [List.takeWhile_cons_of_neg (by rw [hrest byte rfl]; decide), List.append_nil]
  have hdrop : (digits ++ rest).dropWhile isDigit = rest := by
    rw [List.dropWhile_append_of_pos hdigits]
    cases rest with
    | nil => rfl
    | cons byte rest => rw [List.dropWhile_cons_of_neg (by rw [hrest byte rfl]; decide)]
  have hread : lexDigits (digits ++ rest) = some (decimalNumber digits, rest) := by
    unfold lexDigits
    dsimp only
    rw [htake, hdrop, if_neg]
    rintro (h | ⟨h, hlength⟩)
    · exact hnonempty h
    · exact hlength (hzero h)
  cases negative with
  | true =>
    obtain ⟨hspace, htoken⟩ := nextToken_number 45 (Or.inl rfl) (digits ++ rest)
    refine lex_of_nextToken hspace (htoken.trans ?_)
    rw [lexNumber, hread]
    rfl
  | false =>
    obtain ⟨digit, digits, rfl⟩ := List.exists_cons_of_ne_nil hnonempty
    have hdigit := hdigits digit List.mem_cons_self
    obtain ⟨hspace, htoken⟩ := nextToken_number digit (Or.inr hdigit) (digits ++ rest)
    refine lex_of_nextToken hspace (htoken.trans ?_)
    have hnumber : lexNumber (digit :: (digits ++ rest)) =
        (lexDigits (digit :: (digits ++ rest))).map fun read => ((read.1 : ℤ), read.2) := by
      unfold lexNumber
      split
      · rename_i heq
        cases heq
        exact absurd hdigit (by decide)
      · rfl
    rw [hnumber, ← List.cons_append, hread]
    rfl

end JsonValue

end Forum.Library
