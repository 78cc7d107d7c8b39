import Forum.Library.JsonText

/-!
# Quotation marks in JSON texts

A text that can be split into tokens has two quotation marks for each of its strings, those that are escaped not
counted. So a text that is put together of pieces with fewer of them does not have these tokens, wherever its strings
begin and end: `JsonValue.le_of_lex`.
-/

namespace Forum.Library

/-- Where a scan for quotation marks stands: outside of strings, inside of one, or behind a backslash in one. -/
inductive QuotePlace
  | outside | inside | escaped
  deriving DecidableEq

namespace QuotePlace

/-- The place behind a byte, and the quotation marks it counts for. Outside of strings there is no backslash. -/
def next : QuotePlace → UInt8 → Option (QuotePlace × ℕ)
  | outside, byte => if byte = 34 then some (inside, 1) else if byte = 92 then none else some (outside, 0)
  | inside, byte => if byte = 34 then some (outside, 1) else if byte = 92 then some (escaped, 0) else some (inside, 0)
  | escaped, _ => some (inside, 0)

/-- The place behind a text, and the quotation marks in it. -/
def scan : QuotePlace → List UInt8 → Option (QuotePlace × ℕ)
  | place, [] => some (place, 0)
  | place, byte :: rest =>
    (place.next byte).bind fun step => (scan step.1 rest).map fun scanned => (scanned.1, step.2 + scanned.2)

theorem scan_cons {place place' : QuotePlace} {byte : UInt8} {n : ℕ} (h : place.next byte = some (place', n))
    (rest : List UInt8) :
    place.scan (byte :: rest) = (place'.scan rest).map fun scanned => (scanned.1, n + scanned.2) := by
  rw [scan, h]
  rfl

theorem scan_append (place : QuotePlace) (text rest : List UInt8) :
    place.scan (text ++ rest) = (place.scan text).bind fun first =>
      (first.1.scan rest).map fun scanned => (scanned.1, first.2 + scanned.2) := by
  induction text generalizing place with
  | nil =>
    simp [scan]
  | cons byte text ih =>
    rw [List.cons_append, scan, scan]
    cases place.next byte with
    | none => rfl
    | some step =>
      simp only [Option.bind_some, ih]
      cases step.1.scan text with
      | none => rfl
      | some first => simp [Function.comp_def, Nat.add_assoc]

/-- A byte that is neither a quotation mark nor a backslash. -/
theorem next_plain {place : QuotePlace} {byte : UInt8} (hplace : place ≠ escaped) (hquote : byte ≠ 34) (hslash : byte ≠ 92) :
    place.next byte = some (place, 0) := by
  cases place with
  | outside => rw [next, if_neg hquote, if_neg hslash]
  | inside => rw [next, if_neg hquote, if_neg hslash]
  | escaped => exact absurd rfl hplace

theorem scan_plain {place : QuotePlace} {text : List UInt8} (hplace : place ≠ escaped)
    (htext : ∀ byte ∈ text, byte ≠ 34 ∧ byte ≠ 92) : place.scan text = some (place, 0) := by
  induction text with
  | nil => rfl
  | cons byte text ih =>
    obtain ⟨hquote, hslash⟩ := htext byte List.mem_cons_self
    rw [scan_cons (next_plain hplace hquote hslash), ih fun other hother => htext other (List.mem_cons_of_mem _ hother)]
    rfl

end QuotePlace

open QuotePlace

namespace JsonToken

/-- Is it a string? -/
def isString : JsonToken → Bool
  | string _ => true
  | _ => false

end JsonToken

namespace JsonValue

/-! ### Texts that are split into tokens -/

theorem hexDigitValue_plain {byte : UInt8} {value : ℕ} (h : hexDigitValue byte = some value) : byte ≠ 34 ∧ byte ≠ 92 := by
  constructor
  · rintro rfl
    rw [show hexDigitValue 34 = none by decide] at h
    cases h
  · rintro rfl
    rw [show hexDigitValue 92 = none by decide] at h
    cases h

theorem unicodeEscape_plain {a b c d byte : UInt8} (h : unicodeEscape a b c d = some byte) :
    ∀ other ∈ [a, b, c, d], other ≠ 34 ∧ other ≠ 92 := by
  unfold unicodeEscape at h
  split at h
  · rename_i ha hb hc hd
    simp only [List.mem_cons, List.not_mem_nil, or_false]
    rintro other (rfl | rfl | rfl | rfl)
    · exact hexDigitValue_plain ha
    · exact hexDigitValue_plain hb
    · exact hexDigitValue_plain hc
    · exact hexDigitValue_plain hd
  · cases h

/-- A string is left with one quotation mark. -/
theorem scan_lexString {text value rest : List UInt8} (h : lexString text = some (value, rest)) :
    inside.scan text = (outside.scan rest).map fun scanned => (scanned.1, 1 + scanned.2) := by
  fun_induction lexString text generalizing value rest with
  | case1 => cases h
  | case2 text =>
    cases h
    exact scan_cons rfl text
  | case3 => cases h
  | case4 a b c d text _ ih =>
    obtain ⟨escaped, hescaped, h⟩ := Option.bind_eq_some_iff.1 h
    obtain ⟨read, hread, heq⟩ := Option.map_eq_some_iff.1 h
    cases heq
    have hdigits := @scan_plain inside _ (by decide) (unicodeEscape_plain hescaped)
    rw [scan_cons rfl, scan_cons rfl, show a :: b :: c :: d :: text = [a, b, c, d] ++ text from rfl, scan_append, hdigits,
      Option.bind_some, ih hread]
    simp [Function.comp_def]
  | case5 => cases h
  | case6 escape text _ _ ih =>
    obtain ⟨escaped, -, h⟩ := Option.bind_eq_some_iff.1 h
    obtain ⟨read, hread, heq⟩ := Option.map_eq_some_iff.1 h
    cases heq
    rw [scan_cons rfl, scan_cons rfl, ih hread]
    simp [Function.comp_def]
  | case7 => cases h
  | case8 byte text hquote hslash _ ih =>
    obtain ⟨read, hread, heq⟩ := Option.map_eq_some_iff.1 h
    cases heq
    rw [scan_cons (next_plain (by decide) hquote hslash), ih hread]
    simp [Function.comp_def]

theorem isDigit_plain {byte : UInt8} (h : isDigit byte = true) : byte ≠ 34 ∧ byte ≠ 92 := by
  constructor
  · rintro rfl
    exact absurd h (by decide)
  · rintro rfl
    exact absurd h (by decide)

theorem scan_lexDigits {text rest : List UInt8} {value : ℕ} (h : lexDigits text = some (value, rest)) {place : QuotePlace}
    (hplace : place ≠ escaped) : place.scan text = place.scan rest := by
  unfold lexDigits at h
  dsimp only at h
  split_ifs at h
  cases h
  calc place.scan text = place.scan (text.takeWhile isDigit ++ text.dropWhile isDigit) := by
        rw [List.takeWhile_append_dropWhile]
    _ = place.scan (text.dropWhile isDigit) := by
        rw [scan_append, scan_plain hplace fun byte hbyte => isDigit_plain (List.mem_takeWhile_imp hbyte)]
        simp

theorem scan_lexNumber {text rest : List UInt8} {value : ℤ} (h : lexNumber text = some (value, rest)) {place : QuotePlace}
    (hplace : place ≠ escaped) : place.scan text = place.scan rest := by
  unfold lexNumber at h
  split at h
  · obtain ⟨read, hread, heq⟩ := Option.map_eq_some_iff.1 h
    cases heq
    rw [scan_cons (next_plain hplace (by decide) (by decide)), scan_lexDigits hread hplace]
    simp
  · obtain ⟨read, hread, heq⟩ := Option.map_eq_some_iff.1 h
    cases heq
    exact scan_lexDigits hread hplace

/-- The words of the grammar have no quotation marks. -/
theorem scan_word {word text : List UInt8} {n : ℕ} (hword : text.take (n + 1) = word)
    (hplain : ∀ byte ∈ word, byte ≠ 34 ∧ byte ≠ 92) : outside.scan text = outside.scan (text.drop (n + 1)) := by
  calc outside.scan text = outside.scan (text.take (n + 1) ++ text.drop (n + 1)) := by rw [List.take_append_drop]
    _ = outside.scan (text.drop (n + 1)) := by
        rw [scan_append, hword, scan_plain (by decide) hplain]
        simp

/-- A string counts for two quotation marks, any other token for none. -/
theorem scan_nextToken {byte : UInt8} {text rest : List UInt8} {token : JsonToken}
    (h : nextToken byte text = some (token, rest)) :
    outside.scan (byte :: text) =
      (outside.scan rest).map fun scanned => (scanned.1, (if token.isString then 2 else 0) + scanned.2) := by
  have hplain : ∀ c : UInt8, byte = c → c ≠ 34 → c ≠ 92 →
      outside.scan (byte :: text) = (outside.scan text).map fun scanned => (scanned.1, 0 + scanned.2) := by
    rintro c rfl hquote hslash
    exact scan_cons (next_plain (by decide) hquote hslash) text
  unfold nextToken at h
  split_ifs at h with h₁ h₂ h₃ h₄ h₅ h₆ hquote hnull htrue hfalse
  · cases h
    exact hplain _ h₁ (by decide) (by decide)
  · cases h
    exact hplain _ h₂ (by decide) (by decide)
  · cases h
    exact hplain _ h₃ (by decide) (by decide)
  · cases h
    exact hplain _ h₄ (by decide) (by decide)
  · cases h
    exact hplain _ h₅ (by decide) (by decide)
  · cases h
    exact hplain _ h₆ (by decide) (by decide)
  · obtain ⟨read, hread, heq⟩ := Option.map_eq_some_iff.1 h
    cases heq
    rw [hquote, scan_cons rfl, scan_lexString hread, Option.map_map]
    congr 1
    funext scanned
    simp only [Function.comp_apply, JsonToken.isString, if_true]
    congr 1
    omega
  · cases h
    rw [scan_word hnull (forall_mem_of_all (by decide))]
    simp [JsonToken.isString]
  · cases h
    rw [scan_word htrue (forall_mem_of_all (by decide))]
    simp [JsonToken.isString]
  · cases h
    rw [scan_word hfalse (forall_mem_of_all (by decide))]
    simp [JsonToken.isString]
  · obtain ⟨read, hread, heq⟩ := Option.map_eq_some_iff.1 h
    cases heq
    rw [scan_lexNumber hread (by decide)]
    simp [JsonToken.isString]

/-- The quotation marks of a text that is split into tokens. -/
theorem scan_lex {text : List UInt8} {tokens : List JsonToken} (h : lex text = some tokens) :
    outside.scan text = some (outside, 2 * tokens.countP JsonToken.isString) := by
  fun_induction lex text generalizing tokens with
  | case1 =>
    cases h
    rfl
  | case2 byte rest hspace ih =>
    have hplain : byte ≠ 34 ∧ byte ≠ 92 := by
      constructor
      · rintro rfl
        exact absurd hspace (by decide)
      · rintro rfl
        exact absurd hspace (by decide)
    rw [scan_cons (next_plain (by decide) hplain.1 hplain.2), ih h]
    simp
  | case3 => cases h
  | case4 byte rest _ token rest' htoken ih =>
    obtain ⟨more, hmore, rfl⟩ := Option.map_eq_some_iff.1 h
    rw [scan_nextToken htoken, ih hmore, List.countP_cons, Option.map_some]
    congr 2
    split_ifs <;> omega

end JsonValue

/-! ### Texts put together of pieces -/

/-- A text has at most some quotation marks, wherever it stands, and does not end behind a backslash. -/
def QuotesAtMost (n : ℕ) (text : List UInt8) : Prop :=
  ∀ place place' : QuotePlace, ∀ m, place ≠ escaped → place.scan text = some (place', m) → place' ≠ escaped ∧ m ≤ n

namespace QuotesAtMost

variable {m n : ℕ} {text rest : List UInt8}

theorem append (htext : QuotesAtMost m text) (hrest : QuotesAtMost n rest) : QuotesAtMost (m + n) (text ++ rest) := by
  intro place place' k hplace h
  rw [scan_append] at h
  obtain ⟨first, hfirst, h⟩ := Option.bind_eq_some_iff.1 h
  obtain ⟨second, hsecond, heq⟩ := Option.map_eq_some_iff.1 h
  cases heq
  obtain ⟨hplace', hm⟩ := htext _ _ _ hplace hfirst
  obtain ⟨hend, hn⟩ := hrest _ _ _ hplace' hsecond
  exact ⟨hend, Nat.add_le_add hm hn⟩

theorem plain (htext : ∀ byte ∈ text, byte ≠ 34 ∧ byte ≠ 92) : QuotesAtMost 0 text := by
  intro place place' k hplace h
  rw [scan_plain hplace htext] at h
  cases h
  exact ⟨hplace, Nat.le_refl _⟩

theorem quote : QuotesAtMost 1 [34] := by
  intro place place' k hplace h
  cases place with
  | outside =>
    cases h
    exact ⟨by decide, Nat.le_refl _⟩
  | inside =>
    cases h
    exact ⟨by decide, Nat.le_refl _⟩
  | escaped => exact absurd rfl hplace

/-- What is read as a string ends with a quotation mark. Read as no string, it has no other, or a backslash before. -/
theorem ofString {value : List UInt8} (h : JsonValue.lexString text = some (value, [])) : QuotesAtMost 1 text := by
  intro place place' k hplace hscan
  cases place with
  | inside =>
    rw [JsonValue.scan_lexString h] at hscan
    cases hscan
    exact ⟨by decide, Nat.le_refl _⟩
  | escaped => exact absurd rfl hplace
  | outside =>
    induction text generalizing value k with
    | nil => cases h
    | cons byte text ih =>
      by_cases hquote : byte = 34
      · subst hquote
        unfold JsonValue.lexString at h
        rw [if_pos rfl] at h
        cases h
        cases hscan
        exact ⟨by decide, Nat.le_refl _⟩
      · by_cases hslash : byte = 92
        · subst hslash
          cases hscan
        · unfold JsonValue.lexString at h
          rw [if_neg hquote, if_neg hslash] at h
          split_ifs at h
          obtain ⟨⟨more, left⟩, hread, heq⟩ := Option.map_eq_some_iff.1 h
          cases heq
          rw [scan_cons (next_plain (by decide) hquote hslash)] at hscan
          obtain ⟨scanned, hscanned, heq⟩ := Option.map_eq_some_iff.1 hscan
          cases heq
          obtain ⟨hend, hle⟩ := ih hread _ hscanned
          exact ⟨hend, by omega⟩

end QuotesAtMost

/-- A text whose pieces have fewer quotation marks than its tokens need is not split into them. -/
theorem JsonValue.le_of_lex {n : ℕ} {text : List UInt8} {tokens : List JsonToken} (h : lex text = some tokens)
    (htext : QuotesAtMost n text) : 2 * tokens.countP JsonToken.isString ≤ n :=
  (htext _ _ _ (by decide) (scan_lex h)).2

end Forum.Library
