import Mathlib.Data.List.Forall2
import Forum.Http.CookieTrims
import Forum.Http.HttpResponseBuilder
import Forum.Http.PercentEncoding

/-!
# Cookies there and back

`writeCookie` escapes what its table reserves, and `interpretCookies` decodes what a client sends back. The table leaves
the percent sign alone, a semicolon behind the last cookie is taken for a part of its value, and a last cookie that ends
with its equality sign is not taken at all. Moreover `percentEncode` returns a view of an array of its own, which is gone
when `writeCookie` reads it. `cookies_roundTrip_iff`: there is no cookie that is safe from that; as long as nothing has
been written over the array, the cookies that were written are read exactly where none of the other things happens.
-/

namespace Forum.Http

open Forum.Library

/-! ### What is written -/

/-- `CookieExtra`. -/
structure CookieExtra where
  expires : Option ℤ := none
  cookieMaxAge : Option ℕ := none
  cookieDomain : List UInt8 := []
  cookiePath : List UInt8 := []
  isSecure : Bool := false
  isHttpOnly : Bool := false

/-- `ReservedCharactersForCookies`: control characters, the blank, the quotation mark, the comma, the semicolon, the
equality sign, the backslash and all bytes from 127 on. -/
def reservedCharactersForCookies (c : UInt8) : Bool :=
  decide (c ≤ 32 ∨ c = 34 ∨ c = 44 ∨ c = 59 ∨ c = 61 ∨ c = 92 ∨ 127 ≤ c)

/-- The most bytes that are encoded. -/
def maxPercentEncodingInputSize : ℕ := 2000

/-- The room for what is encoded: three bytes for each. -/
def maxPercentEncodingOutputSize : ℕ := maxPercentEncodingInputSize * 3

/-- What is read of bytes in an array that is gone: as many bytes. Others may have been written over them. -/
structure DeadArray where
  read : List UInt8 → List UInt8
  length_read : ∀ bytes, (read bytes).length = bytes.length

namespace DeadArray

/-- Nothing has been written over the bytes. -/
def intact : DeadArray := ⟨id, fun _ => rfl⟩

/-- One byte has been written over all of them. -/
def filled (byte : UInt8) : DeadArray := ⟨fun bytes => List.replicate bytes.length byte, fun _ => List.length_replicate⟩

end DeadArray

/-- What `writeCookie` encodes, each into an array of its own. -/
inductive EncodedPart
  | name | value | cookieDomain | cookiePath

/-- What `writeCookie` writes behind the value of a cookie. How a date is written is a parameter. -/
def cookieAttributes (writeHttpDateGMT : ℤ → List UInt8) (dead : EncodedPart → DeadArray) (extra : CookieExtra) :
    List UInt8 :=
  (match extra.expires with
    | some value => asciiBytes "; Expires=" ++ writeHttpDateGMT value
    | none => []) ++
  (match extra.cookieMaxAge with
    | some seconds => asciiBytes "; Max-Age=" ++ decimalDigits seconds
    | none => []) ++
  (if extra.cookieDomain = [] then []
    else asciiBytes "; Domain=" ++
      (dead .cookieDomain).read (urlEncode maxPercentEncodingOutputSize extra.cookieDomain)) ++
  (if extra.cookiePath = [] then []
    else asciiBytes "; Path=" ++ (dead .cookiePath).read
      (percentEncode maxPercentEncodingOutputSize reservedCharactersForUrlEncodingWithoutSlash extra.cookiePath)) ++
  (if extra.isSecure then asciiBytes "; Secure" else []) ++ (if extra.isHttpOnly then asciiBytes "; HttpOnly" else []) ++
  asciiBytes "\r\n"

/-- What `percentEncode` makes of a name or a value, in an array of its own. -/
def cookieText (input : List UInt8) : List UInt8 :=
  percentEncode maxPercentEncodingOutputSize reservedCharactersForCookies input

/-- `writeCookie`. It reads the arrays of `percentEncode` when that has returned. -/
def HttpResponseBuilder.writeCookie (writeHttpDateGMT : ℤ → List UInt8) (dead : EncodedPart → DeadArray)
    (name value : List UInt8) (extra : CookieExtra) (b : HttpResponseBuilder) : HttpResponseBuilder :=
  ((((b.write (asciiBytes "Set-Cookie: ")).write ((dead .name).read (cookieText name))).write (asciiBytes "=")).write
    ((dead .value).read (cookieText value))).write (cookieAttributes writeHttpDateGMT dead extra)

/-! ### What a client sends back -/

/-- The name and the value in the line of a cookie. -/
def cookiePart (line : List UInt8) : List UInt8 :=
  (line.drop (asciiBytes "Set-Cookie: ").length).takeWhile fun c => c != 59 && c != 13

/-- A header of cookies, with or without a semicolon at its end. -/
def cookieHeader (parts : List (List UInt8)) (final : Bool) : List UInt8 :=
  List.intercalate [59, 32] parts ++ if final then [59] else []

/-- Everything behind a value begins with a semicolon, or is the end of the line. -/
theorem cookieAttributes_cons (writeHttpDateGMT : ℤ → List UInt8) (dead : EncodedPart → DeadArray) (extra : CookieExtra) :
    ∃ c rest, cookieAttributes writeHttpDateGMT dead extra = c :: rest ∧ (c != 59 && c != 13) = false := by
  obtain ⟨expires, cookieMaxAge, cookieDomain, cookiePath, isSecure, isHttpOnly⟩ := extra
  unfold cookieAttributes
  cases expires with
  | some value => exact ⟨59, _, rfl, rfl⟩
  | none =>
    cases cookieMaxAge with
    | some seconds => exact ⟨59, _, rfl, rfl⟩
    | none =>
      dsimp only
      split_ifs
      all_goals first
        | exact ⟨59, _, rfl, rfl⟩
        | exact ⟨13, _, rfl, rfl⟩

/-- Nothing of a cookie is taken for a separator. -/
theorem not_mem_cookieText {input : List UInt8} (h : input.length < maxPercentEncodingInputSize) {c : UInt8}
    (hreserved : reservedCharactersForCookies c = true)
    (hescape : c ≠ 37 ∧ ¬ (48 ≤ c ∧ c ≤ 57) ∧ ¬ (65 ≤ c ∧ c ≤ 70)) : c ∉ cookieText input := by
  unfold cookieText
  rw [percentEncode_of_le (by unfold maxPercentEncodingOutputSize; omega)]
  exact not_mem_percentEncode hreserved hescape input

theorem not_mem_cookie {name value : List UInt8} (hname : name.length < maxPercentEncodingInputSize)
    (hvalue : value.length < maxPercentEncodingInputSize) {c : UInt8} (hreserved : reservedCharactersForCookies c = true)
    (hescape : c ≠ 37 ∧ ¬ (48 ≤ c ∧ c ≤ 57) ∧ ¬ (65 ≤ c ∧ c ≤ 70)) (hsign : c ≠ 61) :
    c ∉ cookieText name ++ 61 :: cookieText value := by
  have hinName := not_mem_cookieText hname hreserved hescape
  have hinValue := not_mem_cookieText hvalue hreserved hescape
  simp [hinName, hinValue, hsign]

/-- A client sends back what was read for the name and for the value, if no cookie ends there. -/
theorem cookiePart_writeCookie (writeHttpDateGMT : ℤ → List UInt8) {dead : EncodedPart → DeadArray} {name value : List UInt8}
    (extra : CookieExtra)
    (hread : ∀ byte ∈ (dead .name).read (cookieText name) ++ 61 :: (dead .value).read (cookieText value),
      byte ≠ 59 ∧ byte ≠ 13) :
    cookiePart (HttpResponseBuilder.writeCookie writeHttpDateGMT dead name value extra {}).written =
      (dead .name).read (cookieText name) ++ 61 :: (dead .value).read (cookieText value) := by
  obtain ⟨c, rest, hattributes, hc⟩ := cookieAttributes_cons writeHttpDateGMT dead extra
  have hwritten : (HttpResponseBuilder.writeCookie writeHttpDateGMT dead name value extra {}).written =
      asciiBytes "Set-Cookie: " ++
        (((dead .name).read (cookieText name) ++ 61 :: (dead .value).read (cookieText value)) ++ c :: rest) := by
    rw [← hattributes]
    unfold HttpResponseBuilder.writeCookie HttpResponseBuilder.write
    dsimp only
    simp only [List.nil_append, List.append_assoc]
    rfl
  have hpart : ∀ byte ∈ (dead .name).read (cookieText name) ++ 61 :: (dead .value).read (cookieText value),
      (byte != 59 && byte != 13) = true := by
    intro byte hbyte
    obtain ⟨hsemicolon, hreturn⟩ := hread byte hbyte
    simp [hsemicolon, hreturn]
  unfold cookiePart
  rw [hwritten, List.drop_left]
  exact (takeWhile_append_cons hpart hc).1

/-- What was encoded for the name and for the value, if nothing has been written over it. -/
theorem cookiePart_intact (writeHttpDateGMT : ℤ → List UInt8) {name value : List UInt8}
    (hname : name.length < maxPercentEncodingInputSize) (hvalue : value.length < maxPercentEncodingInputSize)
    (extra : CookieExtra) :
    cookiePart (HttpResponseBuilder.writeCookie writeHttpDateGMT (fun _ => .intact) name value extra {}).written =
      cookieText name ++ 61 :: cookieText value := by
  refine @cookiePart_writeCookie _ (fun _ => .intact) _ _ extra fun byte hbyte => ⟨?_, ?_⟩
  · rintro rfl
    exact not_mem_cookie hname hvalue (by decide) (by decide) (by decide) hbyte
  · rintro rfl
    exact not_mem_cookie hname hvalue (by decide) (by decide) (by decide) hbyte

/-! ### What is decoded -/

/-- A character as the table for cookies leaves it. -/
theorem percentEncodeCharacter_cases (table : UInt8 → Bool) (c : UInt8) :
    (∃ first second, percentEncodeCharacter table c = [37, first, second] ∧ first ≠ 37 ∧ second ≠ 37 ∧
      hexParsingValue first * 16 + hexParsingValue second = c) ∨
    percentEncodeCharacter table c = [c] ∧ table c = false := by
  have hdigit : ∀ n : Fin 256, n.val < 16 → hexToStringUpperCase (UInt8.ofNat n) ≠ 37 := by decide +kernel
  have hplain : ∀ digit : UInt8, digit.toNat < 16 → hexToStringUpperCase digit ≠ 37 := fun digit hlt => by
    have := hdigit ⟨digit.toNat, digit.toNat_lt⟩ hlt
    rwa [UInt8.ofNat_toNat] at this
  have hlt := c.toNat_lt
  unfold percentEncodeCharacter
  split_ifs with htable
  · refine Or.inl ⟨_, _, rfl, hplain _ ?_, hplain _ ?_, hexParsingValue_hexToStringUpperCase c⟩
    · rw [UInt8.toNat_div, show (16 : UInt8).toNat = 16 from rfl]
      omega
    · rw [UInt8.toNat_mod, show (16 : UInt8).toNat = 16 from rfl]
      omega
  · exact Or.inr ⟨rfl, by simpa using htable⟩

/-- However many characters of an encoded text are taken by an escape in front of it, what is left is decoded to no more
than this. -/
theorem length_decodeUrl_drop_le (table : UInt8 → Bool) (input text : List UInt8) :
    (decodeUrl (input.flatMap (percentEncodeCharacter table) ++ text)).length ≤ input.length + text.length ∧
    (decodeUrl ((input.flatMap (percentEncodeCharacter table) ++ text).drop 1)).length ≤ input.length + text.length + 1 ∧
    (decodeUrl ((input.flatMap (percentEncodeCharacter table) ++ text).drop 2)).length ≤ input.length + text.length := by
  induction input with
  | nil =>
    have hdrop : ∀ n, (decodeUrl (text.drop n)).length ≤ text.length := fun n =>
      Nat.le_trans (length_decodeUrl_le _) (by rw [List.length_drop]; omega)
    have hzero := hdrop 0
    have hone := hdrop 1
    have htwo := hdrop 2
    rw [List.drop_zero] at hzero
    rw [List.flatMap_nil, List.nil_append, List.length_nil]
    omega
  | cons c input ih =>
    obtain ⟨hzero, hone, htwo⟩ := ih
    rw [List.flatMap_cons, List.append_assoc, List.length_cons]
    generalize input.flatMap (percentEncodeCharacter table) ++ text = rest at *
    rcases percentEncodeCharacter_cases table c with ⟨first, second, hescape, hfirst, hsecond, -⟩ | ⟨hplain, -⟩
    · rw [hescape]
      show (decodeUrl (37 :: first :: second :: rest)).length ≤ _ ∧
        (decodeUrl (first :: second :: rest)).length ≤ _ ∧ (decodeUrl (second :: rest)).length ≤ _
      rw [decodeUrl_percent, decodeUrl_cons hfirst, decodeUrl_cons hsecond, List.length_cons, List.length_cons,
        List.length_cons]
      omega
    · rw [hplain]
      show (decodeUrl (c :: rest)).length ≤ _ ∧ (decodeUrl rest).length ≤ _ ∧ (decodeUrl (rest.drop 1)).length ≤ _
      refine ⟨?_, by omega, by omega⟩
      by_cases hc : c = 37
      · rw [hc]
        match rest, htwo with
        | [], _ | [_], _ => exact Nat.zero_le _
        | first :: second :: rest, htwo =>
          rw [decodeUrl_percent, List.length_cons]
          exact Nat.le_trans (Nat.succ_le_succ htwo) (by omega)
      · rw [decodeUrl_cons hc, List.length_cons]
        omega

theorem hexParsingValue_spec (byte : UInt8) : (hexParsingValue byte).toNat < 16 ∧
    ((hexParsingValue byte).toNat = 2 → byte = 50) ∧ ((hexParsingValue byte).toNat = 5 → byte = 53) := by
  have hall : ∀ n : Fin 256, (hexParsingValue (UInt8.ofNat n)).toNat < 16 ∧
      ((hexParsingValue (UInt8.ofNat n)).toNat = 2 → UInt8.ofNat n = 50) ∧
        ((hexParsingValue (UInt8.ofNat n)).toNat = 5 → UInt8.ofNat n = 53) := by decide +kernel
  have := hall ⟨byte.toNat, byte.toNat_lt⟩
  rwa [UInt8.ofNat_toNat] at this

/-- An escape of a percent sign has these two digits. -/
theorem eq_of_hexParsingValue {first second : UInt8} (h : hexParsingValue first * 16 + hexParsingValue second = 37) :
    first = 50 ∧ second = 53 := by
  obtain ⟨hfirst, htwo, -⟩ := hexParsingValue_spec first
  obtain ⟨hsecond, -, hfive⟩ := hexParsingValue_spec second
  have hnumber := congrArg UInt8.toNat h
  rw [UInt8.toNat_add, UInt8.toNat_mul, show (16 : UInt8).toNat = 16 from rfl,
    show (37 : UInt8).toNat = 37 from rfl] at hnumber
  exact ⟨htwo (by omega), hfive (by omega)⟩

/-- Where an encoded text begins with a character that is no percent sign, that was not encoded. -/
theorem exists_of_flatMap_eq_cons {table : UInt8 → Bool} {input text rest : List UInt8} {c : UInt8} (hc : c ≠ 37)
    (htext : text.head? ≠ some c) (h : input.flatMap (percentEncodeCharacter table) ++ text = c :: rest) :
    ∃ input', input = c :: input' ∧ rest = input'.flatMap (percentEncodeCharacter table) ++ text := by
  cases input with
  | nil =>
    rw [List.flatMap_nil, List.nil_append] at h
    exact absurd (by rw [h]; rfl) htext
  | cons d input =>
    rw [List.flatMap_cons, List.append_assoc] at h
    rcases percentEncodeCharacter_cases table d with ⟨first, second, hescape, -⟩ | ⟨hplain, -⟩
    · rw [hescape] at h
      exact absurd (List.cons.inj h).1.symm hc
    · rw [hplain] at h
      obtain ⟨rfl, hrest⟩ := List.cons.inj h
      exact ⟨input, rfl, hrest.symm⟩

/-- A text that is decoded to what was encoded, with nothing or a semicolon behind it, has no percent sign where the table
leaves it. -/
theorem not_mem_of_decodeUrl_eq {table : UInt8 → Bool} (htable : table 37 = false) {input text : List UInt8}
    (htext : text = [] ∨ text = [59])
    (h : decodeUrl (input.flatMap (percentEncodeCharacter table) ++ text) = input) : 37 ∉ input := by
  induction input with
  | nil => exact List.not_mem_nil
  | cons c input ih =>
    rw [List.flatMap_cons, List.append_assoc] at h
    rcases percentEncodeCharacter_cases table c with ⟨first, second, hescape, -, -, hvalue⟩ | ⟨hplain, htableC⟩
    · rw [hescape] at h
      have h' := (decodeUrl_percent first second _).symm.trans h
      rw [hvalue] at h'
      have hrest := ih (List.cons.inj h').2
      have hc : c ≠ 37 := by
        rintro rfl
        unfold percentEncodeCharacter at hescape
        rw [htable, if_neg (by decide)] at hescape
        cases hescape
      simp [hrest, hc.symm]
    · rw [hplain] at h
      by_cases hc : c = 37
      · exfalso
        subst hc
        have hlength : text.length ≤ 1 := by
          rcases htext with rfl | rfl <;> decide
        generalize hrest : input.flatMap (percentEncodeCharacter table) ++ text = rest at h
        match rest, h with
        | [], h | [_], h => cases h
        | first :: second :: rest, h =>
          -- the escape is "25", and what was encoded begins with it
          obtain ⟨hvalue, hdecoded⟩ := List.cons.inj ((decodeUrl_percent first second rest).symm.trans h)
          obtain ⟨rfl, rfl⟩ := eq_of_hexParsingValue hvalue
          obtain ⟨input', rfl, hrest'⟩ := exists_of_flatMap_eq_cons (by decide)
            (by rcases htext with rfl | rfl <;> decide) hrest
          obtain ⟨input'', rfl, hrest''⟩ := exists_of_flatMap_eq_cons (by decide)
            (by rcases htext with rfl | rfl <;> decide) hrest'.symm
          have hle := (length_decodeUrl_drop_le table input'' text).1
          rw [← hrest'', hdecoded, List.length_cons, List.length_cons] at hle
          omega
      · have h' := (decodeUrl_cons hc _).symm.trans h
        have hrest := ih (List.cons.inj h').2
        simp [hrest, Ne.symm hc]

/-- A text is decoded to what was encoded when it has no percent sign. -/
theorem decodeUrl_cookieText_iff {input : List UInt8} (h : input.length < maxPercentEncodingInputSize) :
    decodeUrl (cookieText input) = input ↔ 37 ∉ input := by
  unfold cookieText
  rw [percentEncode_of_le (by unfold maxPercentEncodingOutputSize; omega)]
  constructor
  · intro hdecoded
    refine @not_mem_of_decodeUrl_eq reservedCharactersForCookies rfl _ _ (Or.inl rfl) ?_
    rwa [List.append_nil]
  · intro hnone
    have hdecoded := @decodeUrl_flatMap reservedCharactersForCookies input (fun c hc heq => absurd (heq ▸ hc) hnone) []
    rwa [List.append_nil, decodeUrl_nil, List.append_nil] at hdecoded

/-- With a semicolon behind it, it never is. -/
theorem decodeUrl_cookieText_semicolon {input : List UInt8} (h : input.length < maxPercentEncodingInputSize) :
    decodeUrl (cookieText input ++ [59]) ≠ input := by
  unfold cookieText
  rw [percentEncode_of_le (by unfold maxPercentEncodingOutputSize; omega)]
  intro hdecoded
  have hnone := @not_mem_of_decodeUrl_eq reservedCharactersForCookies rfl _ _ (Or.inr rfl) hdecoded
  rw [decodeUrl_flatMap (fun c hc heq => absurd (heq ▸ hc) hnone)] at hdecoded
  have hlength := congrArg List.length hdecoded
  rw [List.length_append, decodeUrl_cons (by decide), decodeUrl_nil, List.length_singleton] at hlength
  omega

namespace Parser

variable {σ : Type*}

/-! ### The loop -/

/-- Trimming goes on over so many spaces. -/
theorem trimStart_fst {p : Parser σ} {start spaces : ℕ} (value : View) (hspaces : ∀ j < spaces, p.get (start + j) = 32)
    (hstop : p.get (start + spaces) ≠ 32) : (p.trimStart value start).1 = start + spaces := by
  obtain ⟨hspaces', hstop'⟩ := spacesFrom p start
  unfold trimStart
  dsimp only
  rcases Nat.lt_trichotomy ((p.headerBuffer.drop start).takeWhile (· == 32)).length spaces with hlt | heq | hgt
  · exact absurd (hspaces _ hlt) hstop'
  · rw [heq]
  · exact absurd (hspaces' _ hgt) hstop

/-- It takes nothing off a text that does not end with a space. -/
theorem trimEnd_fst {p : Parser σ} {finish : ℕ} (value : View) (hstop : p.get (finish - 1) ≠ 32) :
    (p.trimEnd value finish).1 = finish := by
  unfold trimEnd
  dsimp only
  cases finish with
  | zero => exact Nat.zero_sub _
  | succ finish =>
    rw [Nat.add_sub_cancel, Ne, get_eq_space_iff] at hstop
    unfold spacesBefore
    rw [if_neg hstop, Nat.sub_zero]

/-- A cookie ends: its name and its value are decoded, without the spaces in front of its name. -/
theorem interpretCookieCharacter_end {i finish spaces : ℕ} {l : CookieLoop} {p : Parser σ} {name content : List UInt8}
    (value : View) (hstate : l.state = .value) (hend : p.get i = 59 ∨ i + 1 = finish)
    {valueEnd : ℕ} (hvalueEnd : valueEnd = if i + 1 = finish then i + 1 else i)
    (hspaces : ∀ j < spaces, p.get (l.nameStart + j) = 32) (hnameFirst : p.get (l.nameStart + spaces) ≠ 32)
    (hnameLast : p.get (l.nameEnd - 1) ≠ 32) (hvalueFirst : p.get l.valueStart ≠ 32)
    (hvalueLast : p.get (valueEnd - 1) ≠ 32) (hname : l.nameStart + spaces ≤ l.nameEnd) (hbetween : l.nameEnd ≤ l.valueStart)
    (hcontent : l.valueStart ≤ valueEnd) (hsize : valueEnd ≤ p.headerSize)
    (hnameText : View.bytes ⟨l.nameStart + spaces, l.nameEnd - (l.nameStart + spaces)⟩ p.headerBuffer = name)
    (hcontentText : View.bytes ⟨l.valueStart, valueEnd - l.valueStart⟩ p.headerBuffer = content) :
    ∃ q, p.interpretCookieCharacter value i finish l = (.next i, q) ∧
      Yields (·.cookies) (l.nameStart + spaces) valueEnd [(decodeUrl name, decodeUrl content)] p q := by
  unfold interpretCookieCharacter
  rw [hstate]
  dsimp only
  rw [if_pos hend, ← hvalueEnd]
  have hfirst : (p.trimStart value l.nameStart).1 = l.nameStart + spaces := trimStart_fst value hspaces hnameFirst
  generalize hp₁ : (p.trimStart value l.nameStart).2 = p₁
  have hget₁ : ∀ j, p₁.get j = p.get j := fun j => by rw [← hp₁]; rfl
  have hsecond : (p₁.trimEnd value l.nameEnd).1 = l.nameEnd := trimEnd_fst value (by rwa [hget₁])
  generalize hp₂ : (p₁.trimEnd value l.nameEnd).2 = p₂
  have hget₂ : ∀ j, p₂.get j = p.get j := fun j => by rw [← hp₂]; exact hget₁ j
  have hthird : (p₂.trimStart value l.valueStart).1 = l.valueStart :=
    @trimStart_fst _ p₂ l.valueStart 0 value (fun j hj => absurd hj (Nat.not_lt_zero j)) (by rwa [Nat.add_zero, hget₂])
  generalize hp₃ : (p₂.trimStart value l.valueStart).2 = p₃
  have hget₃ : ∀ j, p₃.get j = p.get j := fun j => by rw [← hp₃]; exact hget₂ j
  have hfourth : (p₃.trimEnd value valueEnd).1 = valueEnd := trimEnd_fst value (by rwa [hget₃])
  generalize hp₄ : (p₃.trimEnd value valueEnd).2 = p₄
  rw [hfirst, hsecond, hthird, hfourth]
  have hsame : p₄ = { p with accesses := p₄.accesses } := by rw [← hp₄, ← hp₃, ← hp₂, ← hp₁]; rfl
  refine ⟨_, rfl, @Yields.of_accesses _ _ _ _ _ p _ p₄.accesses ?_⟩
  rw [← hsame]
  refine Yields.of_pair hname hbetween hcontent ?_ ?_ ?_ ?_ ?_
  · rw [hsame]
    exact hsize
  · rw [hsame]
    exact hnameText
  · rw [hsame]
    exact hcontentText
  · exact fun _ => rfl
  · exact fun _ => rfl

section Loop

variable {finish : ℕ} {l : CookieLoop} {p : Parser σ} (value : View)

/-- A round of the loop. -/
theorem interpretCookieLoop_cons (c : UInt8) (text : List UInt8) :
    p.interpretCookieLoop value finish (c :: text).length l =
      (p.interpretCookieCharacter value (finish - (text.length + 1)) finish l).2.interpretCookieLoop value finish text.length
        (p.interpretCookieCharacter value (finish - (text.length + 1)) finish l).1 := rfl

/-- The loop passes a text without separators. -/
theorem interpretCookieLoop_skip {skipped text : List UInt8} (h : Left finish (skipped ++ text) p)
    (hskipped : ∀ c ∈ skipped, c ≠ 59 ∧ (l.state = .name → c ≠ 61)) (htext : text ≠ []) :
    p.interpretCookieLoop value finish (skipped ++ text).length l = p.interpretCookieLoop value finish text.length l := by
  induction skipped with
  | nil => rfl
  | cons c skipped ih =>
    rw [List.cons_append] at h
    obtain ⟨hc, hrest⟩ := h.cons
    obtain ⟨hsemicolon, hsign⟩ := hskipped c List.mem_cons_self
    have hlength : 0 < (skipped ++ text).length := List.length_pos_iff.2 (by simp [htext])
    have hle := h.le
    rw [List.length_cons] at hle
    have hother : p.interpretCookieCharacter value (finish - ((skipped ++ text).length + 1)) finish l = (l, p) := by
      have hnot : ¬ (p.get (finish - ((skipped ++ text).length + 1)) = 59 ∨
          finish - ((skipped ++ text).length + 1) + 1 = finish) := by
        rw [hc]
        exact fun hend => hend.elim hsemicolon (by omega)
      unfold interpretCookieCharacter
      cases hstate : l.state with
      | name =>
        dsimp only
        rw [if_neg (by rw [hc]; exact hsign hstate), if_neg hnot]
      | value => exact if_neg hnot
    rw [List.cons_append, interpretCookieLoop_cons, hother]
    exact ih hrest fun c hc => hskipped c (List.mem_cons_of_mem _ hc)

/-- The loop passes a name, and its equality sign. -/
theorem interpretCookieLoop_name {before text : List UInt8} (h : Left finish (before ++ 61 :: text) p)
    (hbefore : ∀ c ∈ before, c ≠ 59 ∧ c ≠ 61) (hstate : l.state = .name) :
    p.interpretCookieLoop value finish (before ++ 61 :: text).length l =
      p.interpretCookieLoop value finish text.length
        { l with state := .value, nameEnd := finish - (text.length + 1), valueStart := finish - (text.length + 1) + 1,
                 valueEnd := finish - (text.length + 1) + 1 } := by
  rw [interpretCookieLoop_skip value h (fun c hc => ⟨(hbefore c hc).1, fun _ => (hbefore c hc).2⟩) (List.cons_ne_nil _ _),
    interpretCookieLoop_cons]
  have hsign : p.interpretCookieCharacter value (finish - (text.length + 1)) finish l =
      ({ l with state := .value, nameEnd := finish - (text.length + 1), valueStart := finish - (text.length + 1) + 1,
                valueEnd := finish - (text.length + 1) + 1 }, p) := by
    unfold interpretCookieCharacter
    rw [hstate]
    exact if_pos h.rest.cons.1
  rw [hsign]

/-- A cookie, which ends with a semicolon or with the text. At the end of the text the last character is one of its value,
whatever it is. -/
theorem interpretCookieLoop_cookie {blanks name content rest : List UInt8} {c : UInt8}
    (h : Left finish (blanks ++ (name ++ 61 :: (content ++ c :: rest))) p) (hblanks : ∀ b ∈ blanks, b = 32)
    (hname : name ≠ [] ∧ ∀ b ∈ name, b ≠ 32 ∧ b ≠ 59 ∧ b ≠ 61) (hcontent : ∀ b ∈ content, b ≠ 32 ∧ b ≠ 59) (hc : c ≠ 32)
    (hend : c = 59 ∨ rest = []) (hstate : l.state = .name)
    (hstart : l.nameStart = finish - (blanks ++ (name ++ 61 :: (content ++ c :: rest))).length) :
    ∃ q, p.interpretCookieLoop value finish (blanks ++ (name ++ 61 :: (content ++ c :: rest))).length l =
        q.interpretCookieLoop value finish rest.length (.next (finish - (rest.length + 1))) ∧ Left finish rest q ∧
      Yields (·.cookies) l.nameStart (finish - rest.length)
        [(decodeUrl name, decodeUrl (if rest = [] then content ++ [c] else content))] p q := by
  have hle := h.le
  have hsize := h.size
  have hnameLeft := h.rest
  have hvalueLeft := hnameLeft.rest.cons.2
  have hlast := hvalueLeft.rest.cons
  have hnameLength : 0 < name.length := List.length_pos_iff.2 hname.1
  have hlastIff : finish - (rest.length + 1) + 1 = finish ↔ rest = [] := by
    rw [← List.length_eq_zero_iff]
    have := hvalueLeft.rest.le
    rw [List.length_cons] at this
    omega
  -- no space from the name to the end of the cookie
  have hplain : ∀ j, l.nameStart + blanks.length ≤ j → j ≤ finish - (rest.length + 1) → p.get j ≠ 32 := by
    intro j hj hle'
    have htext : name ++ 61 :: (content ++ c :: rest) = (name ++ 61 :: (content ++ [c])) ++ rest := by simp
    rw [htext] at hnameLeft
    have hmem := hnameLeft.get_mem (i := j) (by
      simp only [List.length_append, List.length_cons, List.length_nil] at hle hstart ⊢
      omega) (by
      simp only [List.length_append, List.length_cons] at hle
      omega)
    intro heq
    rw [heq] at hmem
    simp only [List.mem_append, List.mem_cons, List.not_mem_nil, or_false] at hmem
    rcases hmem with hmem | hmem | hmem | hmem
    · exact (hname.2 32 hmem).1 rfl
    · cases hmem
    · exact (hcontent 32 hmem).1 rfl
    · exact hc hmem.symm
  have hspaces : ∀ j < blanks.length, p.get (l.nameStart + j) = 32 := fun j hj => by
    refine hblanks _ (h.get_mem (by rw [hstart]; exact Nat.le_add_right _ _) ?_)
    simp only [List.length_append, List.length_cons] at hle hstart ⊢
    omega
  have hnameText := hnameLeft.part
  have hcontentText := hvalueLeft.part
  simp only [List.length_append, List.length_cons] at hle hstart hnameText hcontentText
  obtain ⟨i, hi⟩ : ∃ i, i = finish - (rest.length + 1) := ⟨_, rfl⟩
  rw [← hi] at hlastIff hlast hplain
  obtain ⟨valueEnd, hvalueEnd⟩ : ∃ valueEnd, valueEnd = if i + 1 = finish then i + 1 else i := ⟨_, rfl⟩
  have hvalueEndLe : i ≤ valueEnd ∧ valueEnd ≤ i + 1 := by
    rw [hvalueEnd]
    split_ifs <;> omega
  obtain ⟨l', hl'⟩ : ∃ l' : CookieLoop, l' = { l with
      state := .value, nameEnd := l.nameStart + blanks.length + name.length
      valueStart := l.nameStart + blanks.length + name.length + 1
      valueEnd := l.nameStart + blanks.length + name.length + 1 } := ⟨_, rfl⟩
  obtain ⟨hstate', hnameStart, hnameEnd, hvalueStart⟩ : l'.state = .value ∧ l'.nameStart = l.nameStart ∧
      l'.nameEnd = l.nameStart + blanks.length + name.length ∧
        l'.valueStart = l.nameStart + blanks.length + name.length + 1 := by
    rw [hl']
    exact ⟨rfl, rfl, rfl, rfl⟩
  have hnameEndText : View.bytes ⟨l'.nameStart + blanks.length, l'.nameEnd - (l'.nameStart + blanks.length)⟩
      p.headerBuffer = name := by
    rw [show l'.nameEnd - (l'.nameStart + blanks.length) = name.length by omega, hnameStart,
      show l.nameStart + blanks.length = finish - (name.length + (content.length + (rest.length + 1) + 1)) by omega]
    exact hnameText
  have hcontentEndText : View.bytes ⟨l'.valueStart, valueEnd - l'.valueStart⟩ p.headerBuffer =
      if rest = [] then content ++ [c] else content := by
    rw [show l'.valueStart = finish - (content.length + (rest.length + 1)) by omega]
    by_cases hempty : rest = []
    · have hwhole := @Left.part _ finish [] p (content ++ [c]) (by rwa [List.append_nil, ← hempty])
      rw [if_pos (hlastIff.2 hempty)] at hvalueEnd
      rw [if_pos hempty]
      simp only [List.length_append, List.length_cons, List.append_nil, List.length_nil] at hwhole
      rw [hempty, List.length_nil] at hi hle ⊢
      rw [show valueEnd - (finish - (content.length + (0 + 1))) = content.length + (0 + 1) by omega]
      exact hwhole
    · rw [if_neg fun heq => hempty (hlastIff.1 heq)] at hvalueEnd
      rw [if_neg hempty, show valueEnd - (finish - (content.length + (rest.length + 1))) = content.length by omega]
      exact hcontentText
  obtain ⟨q, hround, hyields⟩ := interpretCookieCharacter_end value hstate'
    (by rw [hlast.1, hlastIff]; exact hend) hvalueEnd (by rw [hnameStart]; exact hspaces)
    (by rw [hnameStart]; exact hplain _ (Nat.le_refl _) (by omega)) (hplain _ (by omega) (by omega))
    (hplain _ (by omega) (by omega)) (hplain _ (by omega) (by omega)) (by omega) (by omega) (by omega) (by omega)
    hnameEndText hcontentEndText
  refine ⟨q, ?_, hlast.2.of_outside hyields.interprets.headerSize fun j hj => hyields.outside j (Or.inr ?_), ?_⟩
  · have hassoc : blanks ++ (name ++ 61 :: (content ++ c :: rest)) = (blanks ++ name) ++ 61 :: (content ++ c :: rest) :=
      (List.append_assoc _ _ _).symm
    have hsign : finish - ((content ++ c :: rest).length + 1) = l.nameStart + blanks.length + name.length := by
      rw [List.length_append, List.length_cons]
      omega
    rw [hassoc] at h ⊢
    rw [interpretCookieLoop_name value h ?_ hstate, hsign, ← hl', interpretCookieLoop_skip value hvalueLeft ?_
      (List.cons_ne_nil _ _), interpretCookieLoop_cons, ← hi, hround]
    · intro b hb
      refine ⟨(hcontent b hb).2, fun hnameState => ?_⟩
      rw [hstate'] at hnameState
      cases hnameState
    · intro b hb
      rcases List.mem_append.1 hb with hb | hb
      · rw [hblanks b hb]
        decide
      · exact ⟨(hname.2 b hb).2.1, (hname.2 b hb).2.2⟩
  · omega
  · exact hyields.mono (by omega) (by omega)

/-! ### Headers of cookies -/

/-- Whether a name and a value, as they stand in a header, are told apart from what is around them. -/
structure IsPlain (pair : List UInt8 × List UInt8) : Prop where
  nonempty : pair.1 ≠ []
  name : ∀ b ∈ pair.1, b ≠ 32 ∧ b ≠ 59 ∧ b ≠ 61
  value : ∀ b ∈ pair.2, b ≠ 32 ∧ b ≠ 59

/-- The cookies that are found in a header of such pairs. At its end a semicolon is a part of the last value, and a value
that is empty is not looked for. -/
def foundCookies (final : Bool) : List (List UInt8 × List UInt8) → List (List UInt8 × List UInt8)
  | [] => []
  | [pair] =>
    if final then [(decodeUrl pair.1, decodeUrl (pair.2 ++ [59]))]
    else if pair.2 = [] then []
    else [(decodeUrl pair.1, decodeUrl pair.2)]
  | pair :: next :: rest => (decodeUrl pair.1, decodeUrl pair.2) :: foundCookies final (next :: rest)

/-- A name and a value as they stand in a header. -/
def pairText (pair : List UInt8 × List UInt8) : List UInt8 := pair.1 ++ 61 :: pair.2

theorem cookieHeader_cons (part next : List UInt8) (rest : List (List UInt8)) (final : Bool) :
    cookieHeader (part :: next :: rest) final = part ++ 59 :: 32 :: cookieHeader (next :: rest) final := by
  unfold cookieHeader
  rw [List.intercalate_cons_cons]
  simp

theorem cookieHeader_singleton (part : List UInt8) (final : Bool) :
    cookieHeader [part] final = part ++ if final then [59] else [] := by
  unfold cookieHeader
  rw [List.intercalate_singleton]

/-- The last cookie of a header. -/
theorem interpretCookieLoop_last {pair : List UInt8 × List UInt8} (hpair : IsPlain pair) (final : Bool)
    {blanks : List UInt8} (hblanks : ∀ b ∈ blanks, b = 32)
    (h : Left finish (blanks ++ (pairText pair ++ if final then [59] else [])) p) (hstate : l.state = .name)
    (hstart : l.nameStart = finish - (blanks ++ (pairText pair ++ if final then [59] else [])).length) :
    Yields (·.cookies) l.nameStart finish (foundCookies final [pair]) p
      (p.interpretCookieLoop value finish (blanks ++ (pairText pair ++ if final then [59] else [])).length l) := by
  obtain ⟨name, content⟩ := pair
  have hname := hpair.name
  have hcontent := hpair.value
  dsimp only at hname hcontent
  unfold foundCookies
  cases final with
  | true =>
    have htext : blanks ++ (pairText (name, content) ++ if true then [59] else []) =
        blanks ++ (name ++ 61 :: (content ++ 59 :: [])) := by simp [pairText]
    rw [htext] at h hstart ⊢
    obtain ⟨q, hloop, -, hyields⟩ := interpretCookieLoop_cookie value h hblanks ⟨hpair.nonempty, hname⟩ hcontent
      (by decide) (Or.inl rfl) hstate hstart
    rw [hloop]
    exact hyields
  | false =>
    rw [if_neg Bool.false_ne_true, List.append_nil] at h hstart
    rw [if_neg Bool.false_ne_true, if_neg Bool.false_ne_true, List.append_nil]
    rcases List.eq_nil_or_concat content with rfl | ⟨content, c, rfl⟩
    · -- the loop ends behind the equality sign
      rw [if_pos rfl]
      have hbefore : ∀ b ∈ blanks ++ name, b ≠ 59 ∧ b ≠ 61 := by
        intro b hb
        rcases List.mem_append.1 hb with hb | hb
        · rw [hblanks b hb]
          decide
        · exact (hname b hb).2
      have htext : blanks ++ pairText (name, []) = (blanks ++ name) ++ 61 :: [] := by simp [pairText]
      rw [htext] at h ⊢
      rw [interpretCookieLoop_name value h hbefore hstate]
      exact Yields.refl _ _ _ p
    · rw [List.concat_eq_append] at h hstart hcontent ⊢
      rw [if_neg (by simp)]
      have htext : blanks ++ pairText (name, content ++ [c]) = blanks ++ (name ++ 61 :: (content ++ c :: [])) := by
        simp [pairText]
      rw [htext] at h hstart ⊢
      obtain ⟨q, hloop, -, hyields⟩ := interpretCookieLoop_cookie value h hblanks ⟨hpair.nonempty, hname⟩
        (fun b hb => hcontent b (List.mem_append_left _ hb)) (hcontent c (by simp)).1 (Or.inr rfl) hstate hstart
      rw [hloop]
      exact hyields

/-- The cookies of a header are found one after the other, with a blank in front of each but the first. -/
theorem interpretCookieLoop_header {pairs : List (List UInt8 × List UInt8)} (hne : pairs ≠ [])
    (hpairs : ∀ pair ∈ pairs, IsPlain pair) (final : Bool) {blanks : List UInt8} (hblanks : ∀ b ∈ blanks, b = 32)
    (h : Left finish (blanks ++ cookieHeader (pairs.map pairText) final) p) (hstate : l.state = .name)
    (hstart : l.nameStart = finish - (blanks ++ cookieHeader (pairs.map pairText) final).length) :
    Yields (·.cookies) l.nameStart finish (foundCookies final pairs) p
      (p.interpretCookieLoop value finish (blanks ++ cookieHeader (pairs.map pairText) final).length l) := by
  induction pairs generalizing blanks l p with
  | nil => exact absurd rfl hne
  | cons pair pairs ih =>
    obtain ⟨hpair, hrest⟩ := List.forall_mem_cons.1 hpairs
    cases pairs with
    | nil =>
      rw [List.map_cons, List.map_nil, cookieHeader_singleton] at h hstart ⊢
      exact interpretCookieLoop_last value hpair final hblanks h hstate hstart
    | cons next pairs =>
      obtain ⟨others, hothers⟩ : ∃ others, others = cookieHeader ((next :: pairs).map pairText) final := ⟨_, rfl⟩
      have htext : blanks ++ cookieHeader ((pair :: next :: pairs).map pairText) final =
          blanks ++ (pair.1 ++ 61 :: (pair.2 ++ 59 :: (32 :: others))) := by
        rw [hothers, List.map_cons, List.map_cons, cookieHeader_cons]
        simp [pairText]
      rw [htext] at h hstart ⊢
      obtain ⟨q, hloop, hleft, hyields⟩ := interpretCookieLoop_cookie value h hblanks ⟨hpair.nonempty, hpair.name⟩
        hpair.value (by decide) (Or.inl rfl) hstate hstart
      rw [if_neg (List.cons_ne_nil _ _)] at hyields
      have hlength := h.le
      simp only [List.length_append, List.length_cons] at hlength hstart
      have hheader : [32] ++ cookieHeader ((next :: pairs).map pairText) final = 32 :: others := by rw [hothers]; rfl
      have hlater := @ih (.next (finish - ((32 :: others).length + 1))) q (List.cons_ne_nil _ _) hrest [32] (by simp)
        (by rw [hheader]; exact hleft) rfl (by
          rw [hheader, List.length_cons]
          show finish - (others.length + 1 + 1) + 1 = _
          omega)
      rw [hheader] at hlater
      rw [hloop]
      refine hyields.trans (hlater.mono ?_ (Nat.le_refl _)) ?_ (Nat.sub_le _ _)
      · show _ ≤ finish - ((32 :: others).length + 1) + 1
        omega
      · rw [List.length_cons]
        omega

/-- What has no name is added without one. -/
theorem interpretCookieCharacter_unnamed {i : ℕ} (hstate : l.state = .name) (hsign : p.get i ≠ 61)
    (hend : p.get i = 59 ∨ i + 1 = finish) : ∃ view, (p.interpretCookieCharacter value i finish l).2.request.cookies =
      p.request.cookies ++ [view] := by
  unfold interpretCookieCharacter
  rw [hstate]
  dsimp only
  rw [if_neg hsign, if_pos hend]
  generalize (if i + 1 = finish then i + 1 else i) = valueEnd
  obtain ⟨-, hwrites⟩ := Rewrites.viewBetween (p.trimStart value l.valueStart).1
    ((p.trimStart value l.valueStart).2.trimEnd value valueEnd).1
    ((p.trimStart value l.valueStart).2.trimEnd value valueEnd).2
  generalize viewBetween _ _ _ = view at hwrites ⊢
  refine ⟨({}, view.1), ?_⟩
  show view.2.request.cookies ++ _ = _
  rw [hwrites.request]
  rfl

end Loop

/-- The whole of a value is interpreted when its length fits an `int`. -/
theorem interpretCookies_eq {value : View} (hsize : value.size < 2 ^ 31) (p : Parser σ) : p.interpretCookies value =
    p.interpretCookieLoop value (value.start + value.size) value.size
      ⟨.name, value.start, value.start, value.start, value.start⟩ := by
  have hsame : castSize (castInt value.size) = value.size := by
    unfold castSize castInt
    rw [Int.bmod_eq_of_le (by omega) (by omega)]
    omega
  unfold interpretCookies
  dsimp only
  rw [hsame]

/-- A header of cookies is read by `interpretCookies`. -/
theorem interpretCookies_header {pairs : List (List UInt8 × List UInt8)} (hne : pairs ≠ [])
    (hpairs : ∀ pair ∈ pairs, IsPlain pair) (final : Bool) {value : View} {p : Parser σ}
    (hvalue : value.Within p.headerSize) (hsize : value.size < 2 ^ 31)
    (hheader : value.bytes p.headerBuffer = cookieHeader (pairs.map pairText) final) :
    Yields (·.cookies) value.start (value.start + value.size) (foundCookies final pairs) p (p.interpretCookies value) := by
  have hlength : (cookieHeader (pairs.map pairText) final).length = value.size := hheader ▸ length_bytes hvalue
  have hleft : Left (value.start + value.size) (cookieHeader (pairs.map pairText) final) p := by
    refine ⟨by omega, hvalue, ?_⟩
    rw [hlength, Nat.add_sub_cancel]
    exact hheader
  have hfound := @interpretCookieLoop_header _ (value.start + value.size)
    ⟨.name, value.start, value.start, value.start, value.start⟩ p value pairs hne hpairs final [] (by simp) hleft rfl
    (by rw [List.nil_append, hlength, Nat.add_sub_cancel])
  rw [List.nil_append, hlength] at hfound
  rw [interpretCookies_eq hsize]
  exact hfound

/-! ### There and back -/

/-- A cookie as it stands in a header. -/
def cookieTexts (cookie : List UInt8 × List UInt8) : List UInt8 × List UInt8 := (cookieText cookie.1, cookieText cookie.2)

/-- Nothing is lost of a text that is not empty. -/
theorem cookieText_eq_nil_iff {input : List UInt8} (h : input.length < maxPercentEncodingInputSize) :
    cookieText input = [] ↔ input = [] := by
  unfold cookieText
  rw [percentEncode_of_le (by unfold maxPercentEncodingOutputSize; omega), List.flatMap_eq_nil_iff]
  constructor
  · intro hall
    rw [List.eq_nil_iff_forall_not_mem]
    intro c hc
    rcases percentEncodeCharacter_cases reservedCharactersForCookies c with ⟨first, second, hescape, -⟩ | ⟨hplain, -⟩
    · cases hescape.symm.trans (hall c hc)
    · cases hplain.symm.trans (hall c hc)
  · rintro rfl c hc
    exact absurd hc List.not_mem_nil

/-- The lengths for which there is room, with a name. -/
def HasRoom (cookie : List UInt8 × List UInt8) : Prop :=
  cookie.1 ≠ [] ∧ cookie.1.length < maxPercentEncodingInputSize ∧ cookie.2.length < maxPercentEncodingInputSize

theorem HasRoom.isPlain {cookie : List UInt8 × List UInt8} (h : HasRoom cookie) : IsPlain (cookieTexts cookie) := by
  obtain ⟨hnonempty, hname, hvalue⟩ := h
  refine ⟨fun hempty => hnonempty ((cookieText_eq_nil_iff hname).1 hempty), fun b hb => ⟨?_, ?_, ?_⟩, fun b hb => ⟨?_, ?_⟩⟩
  all_goals
    rintro rfl
    first
      | exact not_mem_cookieText hname (by decide) (by decide) hb
      | exact not_mem_cookieText hvalue (by decide) (by decide) hb

/-- No more cookies are found than were written. -/
theorem length_foundCookies_le (final : Bool) (pairs : List (List UInt8 × List UInt8)) :
    (foundCookies final pairs).length ≤ pairs.length := by
  fun_induction foundCookies final pairs with
  | case1 => exact Nat.le_refl _
  | case2 | case3 | case4 => simp
  | case5 pair next rest ih => exact Nat.succ_le_succ ih

/-- What is found is what was written, exactly where nothing is lost. -/
theorem foundCookies_eq_iff {cookies : List (List UInt8 × List UInt8)} (hne : cookies ≠ [])
    (hcookies : ∀ cookie ∈ cookies, HasRoom cookie) (final : Bool) :
    foundCookies final (cookies.map cookieTexts) = cookies ↔
      final = false ∧ (∀ cookie ∈ cookies, 37 ∉ cookie.1 ∧ 37 ∉ cookie.2) ∧
        ∀ cookie, cookies.getLast? = some cookie → cookie.2 ≠ [] := by
  induction cookies with
  | nil => exact absurd rfl hne
  | cons cookie cookies ih =>
    obtain ⟨⟨-, hname, hvalue⟩, hrest⟩ := List.forall_mem_cons.1 hcookies
    cases cookies with
    | nil =>
      show foundCookies final [cookieTexts cookie] = [cookie] ↔ _
      unfold foundCookies
      cases final with
      | true =>
        rw [if_pos rfl]
        refine iff_of_false (fun heq => ?_) fun h => Bool.noConfusion h.1
        exact decodeUrl_cookieText_semicolon hvalue (congrArg Prod.snd (List.cons.inj heq).1)
      | false =>
        rw [if_neg Bool.false_ne_true]
        unfold cookieTexts
        dsimp only
        by_cases hempty : cookie.2 = []
        · rw [if_pos ((cookieText_eq_nil_iff hvalue).2 hempty)]
          exact iff_of_false (List.cons_ne_nil _ _).symm fun h => h.2.2 cookie rfl hempty
        · rw [if_neg fun heq => hempty ((cookieText_eq_nil_iff hvalue).1 heq)]
          have hpair : [(decodeUrl (cookieText cookie.1), decodeUrl (cookieText cookie.2))] = [cookie] ↔
              37 ∉ cookie.1 ∧ 37 ∉ cookie.2 := by
            rw [← decodeUrl_cookieText_iff hname, ← decodeUrl_cookieText_iff hvalue, List.cons.injEq, Prod.ext_iff]
            exact and_iff_left rfl
          refine hpair.trans ⟨fun h => ⟨rfl, fun c hc => ?_, fun c hc => ?_⟩, fun h => h.2.1 cookie List.mem_cons_self⟩
          · rw [List.mem_singleton.1 hc]
            exact h
          · cases hc
            exact hempty
    | cons next cookies =>
      show (decodeUrl (cookieText cookie.1), decodeUrl (cookieText cookie.2)) ::
        foundCookies final ((next :: cookies).map cookieTexts) = cookie :: next :: cookies ↔ _
      rw [List.cons.injEq, Prod.ext_iff, decodeUrl_cookieText_iff hname, decodeUrl_cookieText_iff hvalue,
        ih (List.cons_ne_nil _ _) hrest, List.getLast?_cons_cons, @List.forall_mem_cons _ _ cookie]
      exact ⟨fun ⟨hcookie, hfinal, hothers, hlast⟩ => ⟨hfinal, ⟨hcookie, hothers⟩, hlast⟩,
        fun ⟨hfinal, ⟨hcookie, hothers⟩, hlast⟩ => ⟨hcookie, hfinal, hothers, hlast⟩⟩

/-- If nothing has been written over the arrays, the cookies that were written and sent back are read, as they were, exactly
when nothing is behind the last one, no name and no value has a percent sign, and the last value is not empty. There are
never more than there is room for. -/
theorem interpretCookies_intact (writeHttpDateGMT : ℤ → List UInt8)
    {cookies : List ((List UInt8 × List UInt8) × CookieExtra)} (hcount : cookies.length ≤ HttpRequest.MaxCookies)
    (hcookies : ∀ cookie ∈ cookies, HasRoom cookie.1)
    (final : Bool) {value : View} {p : Parser σ} (hvalue : value.Within p.headerSize) (hsize : value.size < 2 ^ 31)
    (hnone : p.request.cookies = [])
    (hheader : value.bytes p.headerBuffer = cookieHeader (cookies.map fun cookie => cookiePart
      (HttpResponseBuilder.writeCookie writeHttpDateGMT (fun _ => .intact) cookie.1.1 cookie.1.2 cookie.2 {}).written) final) :
    ((p.interpretCookies value).shownPairs (p.interpretCookies value).request.cookies = cookies.map (·.1) ↔
      final = false ∧ (∀ cookie ∈ cookies, 37 ∉ cookie.1.1 ∧ 37 ∉ cookie.1.2) ∧
        ∀ cookie, cookies.getLast? = some cookie → cookie.1.2 ≠ []) ∧
      (p.interpretCookies value).request.cookies.length ≤ HttpRequest.MaxCookies := by
  have hfits : ∀ cookie ∈ cookies.map (·.1), HasRoom cookie := by
    intro cookie hcookie
    obtain ⟨written, hwritten, rfl⟩ := List.mem_map.1 hcookie
    exact hcookies written hwritten
  have hparts : (cookies.map fun cookie => cookiePart
      (HttpResponseBuilder.writeCookie writeHttpDateGMT (fun _ => .intact) cookie.1.1 cookie.1.2 cookie.2 {}).written) =
      ((cookies.map (·.1)).map cookieTexts).map pairText := by
    rw [List.map_map, List.map_map]
    refine List.map_congr_left fun cookie hcookie => ?_
    obtain ⟨-, hname, hcontent⟩ := hcookies cookie hcookie
    exact cookiePart_intact writeHttpDateGMT hname hcontent cookie.2
  rw [hparts] at hheader
  have hlength := length_bytes hvalue
  by_cases hempty : cookies = []
  · subst hempty
    cases final with
    | false =>
      rw [hheader] at hlength
      have hsame : p.interpretCookies value = p := by
        rw [interpretCookies_eq hsize, ← hlength]
        rfl
      rw [hsame, hnone]
      exact ⟨iff_of_true rfl ⟨rfl, by simp, by simp⟩, Nat.zero_le _⟩
    | true =>
      -- a semicolon alone is a cookie without a name
      have hone : value.size = 1 := by
        rw [hheader] at hlength
        exact hlength.symm
      have hleft : Left (value.start + 1) [59] p := ⟨Nat.le_add_left _ _, hone ▸ hvalue, by
        rw [List.length_singleton, Nat.add_sub_cancel, ← hone]
        exact hheader⟩
      have hsemicolon : p.get (value.start + 1 - 1) = 59 := hleft.cons.1
      obtain ⟨cookie, hcookie⟩ := @interpretCookieCharacter_unnamed _ (value.start + 1)
        ⟨.name, value.start, value.start, value.start, value.start⟩ p value (value.start + 1 - 1) rfl
        (by rw [hsemicolon]; decide) (Or.inl hsemicolon)
      have hread : (p.interpretCookies value).request.cookies = [cookie] := by
        rw [interpretCookies_eq hsize, hone]
        rw [hnone, List.nil_append] at hcookie
        exact hcookie
      rw [hread]
      exact ⟨iff_of_false (List.cons_ne_nil _ _) fun h => Bool.noConfusion h.1, Nat.le_of_ble_eq_true rfl⟩
  · have hyields := interpretCookies_header (by simpa using hempty) (fun pair hpair => by
      obtain ⟨cookie, hcookie, rfl⟩ := List.mem_map.1 hpair
      exact (hfits cookie hcookie).isPlain) final hvalue hsize hheader
    obtain ⟨views, -, hfield, hshown⟩ := hyields.views
    rw [hnone, List.nil_append] at hfield
    have hroom := length_foundCookies_le final ((cookies.map (·.1)).map cookieTexts)
    rw [hfield, hshown, foundCookies_eq_iff (by simpa using hempty) hfits]
    refine ⟨?_, ?_⟩
    · simp
    · rw [← hshown] at hroom
      simp only [shownPairs, List.length_map] at hroom
      exact Nat.le_trans hroom hcount

/-! ### What was written over the arrays -/

/-- A parser whose header buffer holds a text. -/
def holding (text : List UInt8) : Parser Unit :=
  { tryLexicalConvert := fun _ => none, headerBufferSize := 4096, maxContentLength := 0, pushBodyBytesState := (),
    headerBuffer := text }

/-- What a client may send back for a cookie, whatever has been written over the arrays. -/
def MaySend (writeHttpDateGMT : ℤ → List UInt8) (cookie : (List UInt8 × List UInt8) × CookieExtra) (part : List UInt8) :
    Prop :=
  ∃ dead, part =
    cookiePart (HttpResponseBuilder.writeCookie writeHttpDateGMT dead cookie.1.1 cookie.1.2 cookie.2 {}).written

/-- The cookies are read as they were, whatever the client may send back for them. -/
def RoundTrips (writeHttpDateGMT : ℤ → List UInt8) (cookies : List ((List UInt8 × List UInt8) × CookieExtra))
    (final : Bool) : Prop :=
  ∀ parts, List.Forall₂ (MaySend writeHttpDateGMT) cookies parts → ∀ (value : View) (p : Parser Unit),
    value.Within p.headerSize → value.size < 2 ^ 31 → p.request.cookies = [] →
    value.bytes p.headerBuffer = cookieHeader parts final →
      (p.interpretCookies value).shownPairs (p.interpretCookies value).request.cookies = cookies.map (·.1)

theorem length_cookieText_le {input : List UInt8} (h : input.length < maxPercentEncodingInputSize) :
    (cookieText input).length ≤ maxPercentEncodingOutputSize := by
  have hcharacters : ∀ text : List UInt8,
      (text.flatMap (percentEncodeCharacter reservedCharactersForCookies)).length ≤ text.length * 3 := by
    intro text
    induction text with
    | nil => exact Nat.zero_le _
    | cons c text ih =>
      have hc : (percentEncodeCharacter reservedCharactersForCookies c).length ≤ 3 := by
        unfold percentEncodeCharacter
        split_ifs
        · exact Nat.le_refl 3
        · exact Nat.le_of_ble_eq_true rfl
      rw [List.flatMap_cons, List.length_append, List.length_cons]
      omega
  unfold cookieText
  rw [percentEncode_of_le (by unfold maxPercentEncodingOutputSize; omega)]
  exact (hcharacters input).trans (by unfold maxPercentEncodingOutputSize; omega)

theorem length_cookieHeader_le {parts : List (List UInt8)} {n : ℕ} (h : ∀ part ∈ parts, part.length ≤ n) (final : Bool) :
    (cookieHeader parts final).length ≤ parts.length * (n + 2) + 1 := by
  induction parts with
  | nil =>
    have hempty : (cookieHeader [] final).length ≤ 1 := by cases final <;> decide
    rw [List.length_nil, Nat.zero_mul]
    exact hempty
  | cons part rest ih =>
    obtain ⟨hpart, hrest⟩ := List.forall_mem_cons.1 h
    have hlength := ih hrest
    cases rest with
    | nil =>
      rw [cookieHeader_singleton, List.length_append]
      have hlast : (if final then [59] else [] : List UInt8).length ≤ 1 := by cases final <;> decide
      rw [List.length_singleton]
      omega
    | cons next rest =>
      rw [cookieHeader_cons, List.length_append, List.length_cons, List.length_cons,
        @List.length_cons _ part, Nat.succ_mul]
      omega

/-- The first cookie that is found has the first name. -/
theorem fst_of_foundCookies {final : Bool} {pair cookie : List UInt8 × List UInt8}
    {pairs cookies : List (List UInt8 × List UInt8)} (h : foundCookies final (pair :: pairs) = cookie :: cookies) :
    decodeUrl pair.1 = cookie.1 := by
  cases pairs with
  | nil =>
    unfold foundCookies at h
    split_ifs at h with hfinal hempty
    · exact congrArg Prod.fst (List.cons.inj h).1
    · exact congrArg Prod.fst (List.cons.inj h).1
  | cons next pairs => exact congrArg Prod.fst (List.cons.inj h).1

/-- The texts of a cookie in arrays that one byte was written over. -/
def filledTexts (byte : UInt8) (cookie : List UInt8 × List UInt8) : List UInt8 × List UInt8 :=
  (List.replicate (cookieText cookie.1).length byte, List.replicate (cookieText cookie.2).length byte)

section FilledTexts

variable {byte : UInt8} {cookie : List UInt8 × List UInt8}

theorem maySend_filledTexts (writeHttpDateGMT : ℤ → List UInt8) (extra : CookieExtra) (hsemicolon : byte ≠ 59)
    (hreturn : byte ≠ 13) : MaySend writeHttpDateGMT (cookie, extra) (pairText (filledTexts byte cookie)) := by
  refine ⟨fun _ => .filled byte, (@cookiePart_writeCookie _ (fun _ => .filled byte) _ _ extra fun b hb => ?_).symm⟩
  rcases List.mem_append.1 hb with hb | hb
  · rw [List.eq_of_mem_replicate hb]
    exact ⟨hsemicolon, hreturn⟩
  · rcases List.mem_cons.1 hb with rfl | hb
    · decide
    · rw [List.eq_of_mem_replicate hb]
      exact ⟨hsemicolon, hreturn⟩

theorem isPlain_filledTexts (h : HasRoom cookie) (hblank : byte ≠ 32) (hsemicolon : byte ≠ 59) (hsign : byte ≠ 61) :
    IsPlain (filledTexts byte cookie) where
  nonempty hempty := h.1 ((cookieText_eq_nil_iff h.2.1).1
    (List.length_eq_zero_iff.1 (by simpa [filledTexts] using hempty)))
  name b hb := by
    rw [List.eq_of_mem_replicate hb]
    exact ⟨hblank, hsemicolon, hsign⟩
  value b hb := by
    rw [List.eq_of_mem_replicate hb]
    exact ⟨hblank, hsemicolon⟩

theorem length_pairText_filledTexts (h : HasRoom cookie) :
    (pairText (filledTexts byte cookie)).length ≤ 2 * maxPercentEncodingOutputSize + 1 := by
  have hname := length_cookieText_le h.2.1
  have hvalue := length_cookieText_le h.2.2
  unfold pairText filledTexts
  rw [List.length_append, List.length_cons, List.length_replicate, List.length_replicate]
  omega

/-- The name begins with the byte. -/
theorem decodeUrl_filledTexts (h : HasRoom cookie) (hpercent : byte ≠ 37) :
    (decodeUrl (filledTexts byte cookie).1).head? = some byte := by
  cases htext : cookieText cookie.1 with
  | nil => exact absurd ((cookieText_eq_nil_iff h.2.1).1 htext) h.1
  | cons first rest =>
    unfold filledTexts
    rw [htext, List.length_cons, List.replicate_succ, decodeUrl_cons hpercent]
    rfl

end FilledTexts

/-- A header of texts of cookies fits into an `int`. -/
theorem length_cookieHeader_lt {parts : List (List UInt8)} (hcount : parts.length ≤ HttpRequest.MaxCookies)
    (hparts : ∀ part ∈ parts, part.length ≤ 2 * maxPercentEncodingOutputSize + 1) (final : Bool) :
    (cookieHeader parts final).length < 2 ^ 31 := by
  have hlength := length_cookieHeader_le hparts final
  have hbound : HttpRequest.MaxCookies * (2 * maxPercentEncodingOutputSize + 1 + 2) + 1 < 2 ^ 31 := by decide
  have hmul := Nat.mul_le_mul_right (2 * maxPercentEncodingOutputSize + 1 + 2) hcount
  omega

/-- No cookie is safe: its name may be read as a repetition of a byte that it does not begin with. -/
theorem not_roundTrips_cons (writeHttpDateGMT : ℤ → List UInt8) {cookie : (List UInt8 × List UInt8) × CookieExtra}
    {cookies : List ((List UInt8 × List UInt8) × CookieExtra)}
    (hcount : (cookie :: cookies).length ≤ HttpRequest.MaxCookies)
    (hcookies : ∀ written ∈ cookie :: cookies, HasRoom written.1) (final : Bool) :
    ¬ RoundTrips writeHttpDateGMT (cookie :: cookies) final := by
  intro hround
  obtain ⟨byte, hother, hletter⟩ : ∃ byte : UInt8, cookie.1.1.head? ≠ some byte ∧ (byte = 97 ∨ byte = 98) := by
    by_cases hhead : cookie.1.1.head? = some 97
    · exact ⟨98, by rw [hhead]; decide, Or.inr rfl⟩
    · exact ⟨97, hhead, Or.inl rfl⟩
  obtain ⟨hblank, hsemicolon, hsign, hreturn, hpercent⟩ :
      byte ≠ 32 ∧ byte ≠ 59 ∧ byte ≠ 61 ∧ byte ≠ 13 ∧ byte ≠ 37 := by
    rcases hletter with rfl | rfl <;> decide
  obtain ⟨pairs, hpairs⟩ : ∃ pairs, pairs = (cookie :: cookies).map fun written => filledTexts byte written.1 := ⟨_, rfl⟩
  have hsends : List.Forall₂ (MaySend writeHttpDateGMT) (cookie :: cookies) (pairs.map pairText) := by
    rw [hpairs, List.map_map, List.forall₂_map_right_iff]
    exact List.forall₂_same.2 fun written _ => maySend_filledTexts writeHttpDateGMT written.2 hsemicolon hreturn
  have hplain : ∀ pair ∈ pairs, IsPlain pair := by
    rw [hpairs, List.forall_mem_map]
    exact fun written hwritten => isPlain_filledTexts (hcookies written hwritten) hblank hsemicolon hsign
  have hlengths : ∀ part ∈ pairs.map pairText, part.length ≤ 2 * maxPercentEncodingOutputSize + 1 := by
    rw [hpairs, List.map_map, List.forall_mem_map]
    exact fun written hwritten => length_pairText_filledTexts (hcookies written hwritten)
  obtain ⟨header, hheader⟩ : ∃ header, header = cookieHeader (pairs.map pairText) final := ⟨_, rfl⟩
  have hsize : header.length < 2 ^ 31 := by
    rw [hheader]
    refine length_cookieHeader_lt ?_ hlengths final
    rwa [hpairs, List.length_map, List.length_map]
  have hbytes : View.bytes ⟨0, header.length⟩ (holding header).headerBuffer = header := by
    unfold View.bytes holding
    rw [List.drop_zero, List.take_length]
  have hwithin : View.Within ⟨0, header.length⟩ (holding header).headerSize := (Nat.zero_add _).le
  have hsome : pairs ≠ [] := by simp [hpairs]
  have hyields := interpretCookies_header hsome hplain final hwithin hsize (hbytes.trans hheader)
  obtain ⟨views, -, hfield, hshown⟩ := hyields.views
  have hsame := hround _ hsends ⟨0, header.length⟩ (holding header) hwithin hsize rfl (hbytes.trans hheader)
  rw [show (holding header).request.cookies = [] from rfl, List.nil_append] at hfield
  rw [hfield, hshown, hpairs] at hsame
  have hfirst := decodeUrl_filledTexts (hcookies cookie List.mem_cons_self) hpercent
  rw [fst_of_foundCookies hsame] at hfirst
  exact hother hfirst

/-- Cookies are read as they were, whatever is read of arrays that are gone, exactly when there are none, and nothing is
sent back. As long as nothing has been written over the arrays, they are exactly when nothing is behind the last one, no
name and no value has a percent sign, and the last value is not empty. There are never more than there is room for then. -/
theorem cookies_roundTrip_iff (writeHttpDateGMT : ℤ → List UInt8)
    {cookies : List ((List UInt8 × List UInt8) × CookieExtra)} (hcount : cookies.length ≤ HttpRequest.MaxCookies)
    (hcookies : ∀ cookie ∈ cookies, cookie.1.1 ≠ [] ∧ cookie.1.1.length < maxPercentEncodingInputSize ∧
      cookie.1.2.length < maxPercentEncodingInputSize)
    (final : Bool) :
    (RoundTrips writeHttpDateGMT cookies final ↔ cookies = [] ∧ final = false) ∧
      ∀ (value : View) (p : Parser σ), value.Within p.headerSize → value.size < 2 ^ 31 → p.request.cookies = [] →
        value.bytes p.headerBuffer = cookieHeader (cookies.map fun cookie =>
          cookiePart (HttpResponseBuilder.writeCookie writeHttpDateGMT (fun _ => .intact) cookie.1.1 cookie.1.2
            cookie.2 {}).written) final →
        ((p.interpretCookies value).shownPairs (p.interpretCookies value).request.cookies = cookies.map (·.1) ↔
          final = false ∧ (∀ cookie ∈ cookies, 37 ∉ cookie.1.1 ∧ 37 ∉ cookie.1.2) ∧
            ∀ cookie, cookies.getLast? = some cookie → cookie.1.2 ≠ []) ∧
          (p.interpretCookies value).request.cookies.length ≤ HttpRequest.MaxCookies := by
  refine ⟨?_, fun value p hvalue hsize hnone hheader =>
    interpretCookies_intact writeHttpDateGMT hcount hcookies final hvalue hsize hnone hheader⟩
  cases cookies with
  | nil =>
    rw [and_iff_right rfl]
    constructor
    · intro hround
      have hread := hround [] .nil ⟨0, (cookieHeader [] final).length⟩ (holding (cookieHeader [] final))
      cases final with
      | false => rfl
      | true =>
        have hread := hread (by decide) (by decide) rfl rfl
        have hintact := (interpretCookies_intact writeHttpDateGMT hcount hcookies true (by decide) (by decide) rfl rfl :
          (((holding [59]).interpretCookies ⟨0, 1⟩).shownPairs _ = _ ↔ _) ∧ _)
        exact Bool.noConfusion (hintact.1.1 hread).1
    · rintro rfl parts hparts value p hvalue hsize hnone hheader
      cases hparts
      exact (interpretCookies_intact writeHttpDateGMT hcount hcookies false hvalue hsize hnone hheader).1.2
        ⟨rfl, by simp, by simp⟩
  | cons cookie cookies =>
    refine iff_of_false (not_roundTrips_cons writeHttpDateGMT hcount hcookies final) ?_
    rintro ⟨hempty, -⟩
    cases hempty

/-- Two cookies without a percent sign, whose values have separators and a byte that is no character. They are read as they
were if nothing is written over the arrays, and may be read as others. -/
theorem cookies_roundTrip_separators :
    ¬ RoundTrips (fun _ => []) [((asciiBytes "auth", asciiBytes "a b;="), {}), ((asciiBytes "k", [200]), {})] false ∧
    ((holding (asciiBytes "Cookie: auth=a%20b%3B%3D; k=%C8")).interpretCookies ⟨8, 23⟩).shownPairs
        ((holding (asciiBytes "Cookie: auth=a%20b%3B%3D; k=%C8")).interpretCookies ⟨8, 23⟩).request.cookies =
      [(asciiBytes "auth", asciiBytes "a b;="), (asciiBytes "k", [200])] := by
  have hspec := @cookies_roundTrip_iff Unit (fun _ => [])
    [((asciiBytes "auth", asciiBytes "a b;="), {}), ((asciiBytes "k", [200]), {})] (by decide) (by decide +kernel) false
  refine ⟨fun hround => List.cons_ne_nil _ _ (hspec.1.1 hround).1, ?_⟩
  exact (hspec.2 ⟨8, 23⟩ (holding (asciiBytes "Cookie: auth=a%20b%3B%3D; k=%C8")) (by unfold View.Within; decide)
    (by decide) rfl (by decide +kernel)).1.2 ⟨rfl, by decide +kernel, by decide +kernel⟩

/-- A semicolon behind the last cookie is read as a part of its value, a percent sign is read as an escape, a last
value that is empty is not read, and what has been written over an array is read as a name. -/
theorem cookies_roundTrip_lost :
    (cookieHeader [cookiePart
        (HttpResponseBuilder.writeCookie (fun _ => []) (fun _ => .intact) [97] [98] {} {}).written] true = [97, 61, 98, 59] ∧
      ((holding [97, 61, 98, 59]).interpretCookies ⟨0, 4⟩).shownPairs
        ((holding [97, 61, 98, 59]).interpretCookies ⟨0, 4⟩).request.cookies = [([97], [98, 59])]) ∧
    (cookieHeader [cookiePart
        (HttpResponseBuilder.writeCookie (fun _ => []) (fun _ => .intact) [97] [37, 52, 49] {} {}).written] false =
        [97, 61, 37, 52, 49] ∧
      ((holding [97, 61, 37, 52, 49]).interpretCookies ⟨0, 5⟩).shownPairs
        ((holding [97, 61, 37, 52, 49]).interpretCookies ⟨0, 5⟩).request.cookies = [([97], [65])]) ∧
    (cookieHeader [cookiePart
        (HttpResponseBuilder.writeCookie (fun _ => []) (fun _ => .intact) [97] [] {} {}).written] false = [97, 61] ∧
      ((holding [97, 61]).interpretCookies ⟨0, 2⟩).shownPairs
        ((holding [97, 61]).interpretCookies ⟨0, 2⟩).request.cookies = []) ∧
    (cookieHeader [cookiePart
        (HttpResponseBuilder.writeCookie (fun _ => []) (fun _ => .filled 98) [97] [98] {} {}).written] false = [98, 61, 98] ∧
      ((holding [98, 61, 98]).interpretCookies ⟨0, 3⟩).shownPairs
        ((holding [98, 61, 98]).interpretCookies ⟨0, 3⟩).request.cookies = [([98], [98])]) := by
  decide +kernel

end Parser

end Forum.Http
