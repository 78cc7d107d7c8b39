import Forum.Library.HttpMessage
import Forum.Http.HttpConnection

/-!
# Responses

`HttpResponseBuilder` writes a response call by call, and `buildSimpleResponseFromStatusCode` one without a body. Both
compute the last digit of a code from its last two digits, and the length of a body goes through an `int`. So what they
write is read back when the code has a zero in the middle and the length fits (`responses_parse_iff`).
-/

namespace Forum.Http

open Library

/-! ### The builder -/

/-- What has been written. -/
structure HttpResponseBuilder where
  protocolState : ProtocolState := .NothingWritten
  written : List UInt8 := []
  deriving DecidableEq

namespace HttpResponseBuilder

/-- Appends bytes to what is written. -/
def write (data : List UInt8) (b : HttpResponseBuilder) : HttpResponseBuilder := { b with written := b.written ++ data }

/-- The first line of a response. The digits are put into a line that is there. -/
def writeResponseCode (majorVersion minorVersion : ℕ) (code : HttpStatusCode) (b : HttpResponseBuilder) :
    HttpResponseBuilder :=
  let buffer := ((((asciiBytes "HTTP/x.y zzz ").set 5 (digitCharacter majorVersion)).set 7
    (digitCharacter minorVersion)).set 9 (digitCharacter (code.toNat / 100))).set 10 (digitCharacter (code.toNat / 10 % 10))
  let buffer := buffer.set 11 (digitCharacter (code.toNat % 100))
  { ((b.write buffer).write (asciiBytes code.text)).write (asciiBytes "\r\n") with protocolState := .ResponseCodeWritten }

/-- A header with its value. -/
def writeHeader (name value : List UInt8) (b : HttpResponseBuilder) : HttpResponseBuilder :=
  (((b.write name).write (asciiBytes ": ")).write value).write (asciiBytes "\r\n")

/-- `writeHeader` of an `int`, which `%d` prints. -/
def writeIntHeader (name : List UInt8) (value : ℤ) (b : HttpResponseBuilder) : HttpResponseBuilder :=
  b.writeHeader name (decimalText value)

/-- `writeBody`. The prefix comes first. -/
def writeBody (value front : List UInt8) (b : HttpResponseBuilder) : HttpResponseBuilder :=
  { ((b.write (asciiBytes "\r\n")).write front).write value with protocolState := .BodyWritten }

/-- `static_cast<int>` of a sum of sizes. -/
def lengthAsInt (value front : List UInt8) : ℤ := Int.bmod (((value.length + front.length) % 2 ^ 64 : ℕ) : ℤ) (2 ^ 32)

/-- The length of the body, and the body. -/
def writeBodyAndContentLength (value front : List UInt8) (b : HttpResponseBuilder) : HttpResponseBuilder :=
  (b.writeIntHeader (asciiBytes "Content-Length") (lengthAsInt value front)).writeBody value front

/-- A response with headers and a body. -/
def response (majorVersion minorVersion : ℕ) (code : HttpStatusCode) (headers : List (List UInt8 × List UInt8))
    (value front : List UInt8) : List UInt8 :=
  ((headers.foldl (fun b header => b.writeHeader header.1 header.2)
    (writeResponseCode majorVersion minorVersion code {})).writeBodyAndContentLength value front).written

/-! ### What is written -/

theorem toNat_lt (code : HttpStatusCode) : code.toNat < 1000 := by
  cases code <;> decide

theorem isLineBreak_text (code : HttpStatusCode) : ∀ byte ∈ asciiBytes code.text, isLineBreak byte = false := by
  cases code <;> exact forall_mem_of_all (by decide)

theorem toNat_digitCharacter {digit : ℕ} (h : digit < 100) : (digitCharacter digit).toNat = digit + 48 := by
  unfold digitCharacter
  rw [UInt8.toNat_ofNat']
  omega

theorem isDigit_digitCharacter {digit : ℕ} (h : digit < 100) : isDigit (digitCharacter digit) = true ↔ digit < 10 := by
  rw [isDigit_iff, toNat_digitCharacter h]
  omega

theorem isLineBreak_digitCharacter {digit : ℕ} (h : digit < 100) : isLineBreak (digitCharacter digit) = false := by
  refine decide_eq_false ?_
  have htoNat := toNat_digitCharacter h
  rintro (heq | heq)
  · rw [heq, show (13 : UInt8).toNat = 13 from rfl] at htoNat
    omega
  · rw [heq, show (10 : UInt8).toNat = 10 from rfl] at htoNat
    omega

theorem decimalNumber_digitCharacter {digit : ℕ} (h : digit < 10) : decimalNumber [digitCharacter digit] = digit := by
  unfold decimalNumber
  rw [List.foldl_cons, List.foldl_nil, toNat_digitCharacter (by omega)]
  omega

theorem written_writeHeader (name value : List UInt8) (b : HttpResponseBuilder) :
    (b.writeHeader name value).written = b.written ++ headerLine (name, value) := by
  unfold writeHeader write headerLine
  simp only [List.append_assoc]
  rfl

/-- The headers are written line by line. -/
theorem written_headers (headers : List (List UInt8 × List UInt8)) (b : HttpResponseBuilder) :
    (headers.foldl (fun b header => b.writeHeader header.1 header.2) b).written =
      b.written ++ headers.flatMap headerLine := by
  induction headers generalizing b with
  | nil => rw [List.flatMap_nil, List.append_nil]; rfl
  | cons header headers ih =>
    rw [List.foldl_cons, ih, written_writeHeader, List.flatMap_cons, List.append_assoc]

theorem written_writeBody (value front : List UInt8) (b : HttpResponseBuilder) :
    (b.writeBody value front).written = b.written ++ (crlf ++ (front ++ value)) := by
  unfold writeBody write
  simp only [List.append_assoc]
  rfl

/-- The first line, without its end. -/
def statusLine (majorVersion minorVersion : ℕ) (code : HttpStatusCode) : List UInt8 :=
  asciiBytes "HTTP/" ++ [digitCharacter majorVersion] ++ asciiBytes "." ++ [digitCharacter minorVersion] ++ asciiBytes " " ++
    [digitCharacter (code.toNat / 100), digitCharacter (code.toNat / 10 % 10), digitCharacter (code.toNat % 100)] ++
    asciiBytes " " ++ asciiBytes code.text

theorem written_writeResponseCode (majorVersion minorVersion : ℕ) (code : HttpStatusCode) :
    (writeResponseCode majorVersion minorVersion code {}).written = statusLine majorVersion minorVersion code ++ crlf := rfl

/-- What a first line with headers and a body is read as. -/
theorem parseResponse_statusLine {majorVersion minorVersion : ℕ} {code : HttpStatusCode}
    {headers : List (List UInt8 × List UInt8)} (hmajor : majorVersion < 10) (hminor : minorVersion < 10)
    (hheaders : ∀ header ∈ headers, IsHeader header) (body : List UInt8) :
    parseResponse (statusLine majorVersion minorVersion code ++ (crlf ++ (headers.flatMap headerLine ++ (crlf ++ body)))) =
      if code.toNat / 10 % 10 = 0 then
        some ⟨majorVersion, minorVersion, code.toNat, asciiBytes code.text, headers, body⟩
      else none := by
  have hcode := toNat_lt code
  have hline : ∀ byte ∈ [digitCharacter majorVersion, digitCharacter minorVersion, digitCharacter (code.toNat / 100),
      digitCharacter (code.toNat / 10 % 10), digitCharacter (code.toNat % 100)] ++ asciiBytes code.text,
      isLineBreak byte = false := by
    intro byte hbyte
    rcases List.mem_append.1 hbyte with hdigit | htext
    · simp only [List.mem_cons, List.not_mem_nil, or_false] at hdigit
      rcases hdigit with rfl | rfl | rfl | rfl | rfl <;> exact isLineBreak_digitCharacter (by omega)
    · exact isLineBreak_text code byte htext
  have hdigits : [digitCharacter majorVersion, digitCharacter minorVersion, digitCharacter (code.toNat / 100),
      digitCharacter (code.toNat / 10 % 10), digitCharacter (code.toNat % 100)].all isDigit = true ↔
      code.toNat / 10 % 10 = 0 := by
    simp only [List.all_cons, List.all_nil, Bool.and_true, Bool.and_eq_true]
    rw [isDigit_digitCharacter (by omega), isDigit_digitCharacter (by omega), isDigit_digitCharacter (by omega),
      isDigit_digitCharacter (by omega), isDigit_digitCharacter (by omega)]
    omega
  unfold statusLine
  rw [parseResponse_bytes hline hheaders]
  by_cases hzero : code.toNat / 10 % 10 = 0
  · have hnumber : decimalNumber [digitCharacter (code.toNat / 100), digitCharacter (code.toNat / 10 % 10),
        digitCharacter (code.toNat % 100)] = code.toNat := by
      unfold decimalNumber
      simp only [List.foldl_cons, List.foldl_nil]
      rw [toNat_digitCharacter (by omega), toNat_digitCharacter (by omega), toNat_digitCharacter (by omega)]
      omega
    rw [if_pos (hdigits.2 hzero), if_pos hzero, decimalNumber_digitCharacter hmajor, decimalNumber_digitCharacter hminor,
      hnumber]
  · rw [if_neg fun hall => hzero (hdigits.1 hall), if_neg hzero]

/-! ### What is read back -/

/-- The digits and the sign end no line, and are no space. -/
theorem isHeader_contentLength (length : ℤ) : IsHeader (asciiBytes "Content-Length", decimalText length) := by
  have hdigit : ∀ byte ∈ decimalText length, byte = 45 ∨ isDigit byte = true := by
    intro byte hbyte
    unfold decimalText at hbyte
    rcases List.mem_append.1 hbyte with hsign | hdigits
    · split_ifs at hsign
      · exact Or.inl (List.mem_singleton.1 hsign)
      · cases hsign
    · exact Or.inr ((decimalDigits_spec _).1 byte hdigits)
  have hname : ∀ byte ∈ asciiBytes "Content-Length", byte ≠ 58 ∧ isControl byte = false :=
    forall_mem_of_all (by decide)
  refine ⟨hname, fun byte hbyte => decide_eq_false ?_, fun hhead => ?_⟩
  · rintro (rfl | rfl)
    · rcases hdigit _ hbyte with heq | heq <;> revert heq <;> decide
    · rcases hdigit _ hbyte with heq | heq <;> revert heq <;> decide
  · rcases hdigit 32 (List.mem_of_mem_head? hhead) with heq | heq <;> revert heq <;> decide

/-- The length is written as it is when it fits an `int`. -/
theorem lengthAsInt_eq_iff (value front : List UInt8) :
    lengthAsInt value front = (front ++ value).length ↔ (front ++ value).length < 2 ^ 31 := by
  have hlow : -(2 ^ 32 : ℤ) ≤ 2 * lengthAsInt value front := by
    have := Int.le_bmod (x := (((value.length + front.length) % 2 ^ 64 : ℕ) : ℤ)) (m := 2 ^ 32) (by decide)
    unfold lengthAsInt
    omega
  unfold lengthAsInt
  rw [List.length_append]
  constructor
  · intro heq
    have hlt := Int.bmod_lt (x := (((value.length + front.length) % 2 ^ 64 : ℕ) : ℤ)) (m := 2 ^ 32) (by decide)
    omega
  · intro hlt
    rw [Int.bmod_eq_of_le (by omega) (by omega)]
    omega

theorem response_eq (majorVersion minorVersion : ℕ) (code : HttpStatusCode) (headers : List (List UInt8 × List UInt8))
    (value front : List UInt8) :
    response majorVersion minorVersion code headers value front = statusLine majorVersion minorVersion code ++ (crlf ++
      ((headers ++ [(asciiBytes "Content-Length", decimalText (lengthAsInt value front))]).flatMap headerLine ++
        (crlf ++ (front ++ value)))) := by
  unfold response writeBodyAndContentLength writeIntHeader
  rw [written_writeBody, written_writeHeader, written_headers, written_writeResponseCode, List.flatMap_append,
    List.flatMap_singleton]
  simp only [List.append_assoc]

theorem buildSimpleResponse_eq (code : HttpStatusCode) (majorVersion minorVersion : ℕ) :
    buildSimpleResponseFromStatusCode code majorVersion minorVersion = statusLine majorVersion minorVersion code ++ (crlf ++
      ([(asciiBytes "Connection", asciiBytes "close"), (asciiBytes "Content-Length", asciiBytes "0")].flatMap headerLine ++
        (crlf ++ []))) := by
  unfold buildSimpleResponseFromStatusCode statusLine
  rw [List.append_assoc _ simpleResponseHeaders, List.append_assoc _ (asciiBytes "\r\n")]
  rfl

/-- A response, and a simple one, are read back as they were written when the code has a zero in the middle and the length
of the body fits an `int`. -/
theorem responses_parse_iff {majorVersion minorVersion : ℕ} {code : HttpStatusCode}
    {headers : List (List UInt8 × List UInt8)} {value front : List UInt8} (hmajor : majorVersion < 10)
    (hminor : minorVersion < 10) (hheaders : ∀ header ∈ headers, IsHeader header) :
    (parseResponse (response majorVersion minorVersion code headers value front) =
        some ⟨majorVersion, minorVersion, code.toNat, asciiBytes code.text,
          headers ++ [(asciiBytes "Content-Length", decimalText (front ++ value).length)], front ++ value⟩ ↔
      code.toNat / 10 % 10 = 0 ∧ (front ++ value).length < 2 ^ 31) ∧
    (parseResponse (buildSimpleResponseFromStatusCode code majorVersion minorVersion) =
        some ⟨majorVersion, minorVersion, code.toNat, asciiBytes code.text,
          [(asciiBytes "Connection", asciiBytes "close"), (asciiBytes "Content-Length", asciiBytes "0")], []⟩ ↔
      code.toNat / 10 % 10 = 0) := by
  constructor
  · have hall : ∀ header ∈ headers ++ [(asciiBytes "Content-Length", decimalText (lengthAsInt value front))],
        IsHeader header := by
      intro header hheader
      rcases List.mem_append.1 hheader with hmem | hmem
      · exact hheaders header hmem
      · rw [List.mem_singleton.1 hmem]
        exact isHeader_contentLength _
    rw [response_eq, parseResponse_statusLine hmajor hminor hall, ← lengthAsInt_eq_iff]
    split_ifs with hzero
    · constructor
      · intro heq
        have hsame := congrArg HttpMessage.headers (Option.some.inj heq)
        have hlast := List.append_cancel_left hsame
        rw [List.cons.injEq, Prod.mk.injEq] at hlast
        exact ⟨hzero, decimalText_inj hlast.1.2⟩
      · rintro ⟨-, heq⟩
        rw [heq]
    · exact ⟨fun heq => (by cases heq), fun h => absurd h.1 hzero⟩
  · rw [buildSimpleResponse_eq, parseResponse_statusLine hmajor hminor (by decide)]
    split_ifs with hzero
    · exact ⟨fun _ => hzero, fun _ => rfl⟩
    · exact ⟨fun heq => (by cases heq), fun h => absurd h hzero⟩

/-- A response with a header, a prefix and a body is read back. -/
theorem responses_parse_ok :
    parseResponse (response 1 1 .OK [(asciiBytes "Server", asciiBytes "a b ")] (asciiBytes "[]") (asciiBytes ")],")) =
      some ⟨1, 1, 200, asciiBytes "OK", [(asciiBytes "Server", asciiBytes "a b "),
        (asciiBytes "Content-Length", decimalText 5)], asciiBytes ")]," ++ asciiBytes "[]"⟩ :=
  (@responses_parse_iff 1 1 .OK [(asciiBytes "Server", asciiBytes "a b ")] (asciiBytes "[]") (asciiBytes ")],")
    (by decide) (by decide) (by decide)).1.2 ⟨by decide, by decide⟩

/-- The last digit of a length that is required is a semicolon, and a body too long is announced with a negative length. -/
theorem not_responses_parse_length_required :
    parseResponse (response 1 1 .Length_Required [] [] []) = none ∧
      parseResponse (buildSimpleResponseFromStatusCode .Length_Required 1 1) = none ∧
        lengthAsInt (List.replicate (2 ^ 31) 0) [] = -2 ^ 31 := by
  refine ⟨by decide, by decide, ?_⟩
  unfold lengthAsInt
  rw [List.length_replicate]
  decide

end HttpResponseBuilder

end Forum.Http
