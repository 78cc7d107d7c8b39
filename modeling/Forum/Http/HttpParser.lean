import Mathlib.Algebra.Group.Nat.Defs
import Mathlib.Data.Int.Basic
import Mathlib.Logic.Function.Basic
import Forum.Http.HttpConstants

/-!
# The parser of requests

`Http::Parser` copies the header of a request into a buffer and keeps views of it. It is given the bytes of the
request in chunks: each of its states is a function that takes what it needs of a chunk, and returns when the
chunk is used up or when the state is done. The buffer is what was written of it, so its length is `headerSize_`.

What a parser does to memory is noted: where it writes, and where the loops that trim a cookie read.
-/

namespace Forum.Http

open Forum.Library

/-! ### Strings -/

/-- A view into the header buffer. A null view is empty. -/
structure View where
  start : ℕ := 0
  size : ℕ := 0
  deriving DecidableEq, Repr

/-- What a view shows. -/
def View.bytes (view : View) (headerBuffer : List UInt8) : List UInt8 := (headerBuffer.drop view.start).take view.size

/-- `HexParsingValues`. -/
def hexParsingValue (byte : UInt8) : UInt8 :=
  if 48 ≤ byte ∧ byte ≤ 57 then byte - 48
  else if 65 ≤ byte ∧ byte ≤ 70 then byte - 55
  else if 97 ≤ byte ∧ byte ≤ 102 then byte - 87
  else 0

/-- `matchStringUpperOrLower`, where `against` is the text in lower case and then in upper case. -/
def matchStringUpperOrLower (source : List UInt8) (lower upper : String) : Bool :=
  source.length == lower.length &&
    (source.zip ((asciiBytes lower).zip (asciiBytes upper))).all fun c => c.1 == c.2.1 || c.1 == c.2.2

/-- The number of 64 bits that a text is converted to. The digits may have a sign; a minus wraps around. -/
def sizeOfText (text : List UInt8) : Option ℕ :=
  let digits := if text.head? = some 43 ∨ text.head? = some 45 then text.tail else text
  if digits ≠ [] ∧ digits.all isDigit ∧ decimalNumber digits < 2 ^ 64 then
    if text.head? = some 45 then some ((2 ^ 64 - decimalNumber digits) % 2 ^ 64) else some (decimalNumber digits)
  else none

/-- `static_cast<int>` of a size. -/
def castInt (size : ℕ) : ℤ := (size : ℤ).bmod (2 ^ 32)

/-- An `int` where a `size_t` is expected. -/
def castSize (value : ℤ) : ℕ := (value % 2 ^ 64).toNat

/-! ### The parser -/

/-- `HttpRequest`. There are as many query pairs, cookies and buffers as are counted; the rest of their arrays is
empty. -/
structure HttpRequest where
  verb : HttpVerb := .UNKNOWN
  path : View := {}
  versionMajor : ℕ := 1
  versionMinor : ℕ := 0
  keepConnectionAlive : Bool := false
  /-- The address, if it was found. -/
  remoteAddress : Option (List UInt8) := none
  headers : HttpHeader → View := fun _ => {}
  queryPairs : List (View × View) := []
  cookies : List (View × View) := []
  requestContentBuffers : List (List UInt8) := []

/-- The most query pairs of a request. -/
def HttpRequest.MaxQueryPairs : ℕ := 64

/-- The most cookies of a request. -/
def HttpRequest.MaxCookies : ℕ := 32

/-- The functions that `currentParser_` points to. -/
inductive ParserFn
  | parseVerb | parsePath | parseVersion | parseNewLine | parseHeaderName | parseHeaderSpacing | parseHeaderValue
  | parseBody
  deriving DecidableEq, Repr

/-- What a parser does to memory. -/
inductive Access
  /-- It writes to the header buffer. -/
  | write (index : ℕ)
  /-- A loop that trims a part of a value reads the header buffer. -/
  | trim (value : View) (index : ℕ)
  deriving DecidableEq, Repr

/-- `Parser`. The body is pushed into a state that is not its own. -/
structure Parser (σ : Type*) where
  /-- `try_lexical_convert` to a `size_t`. -/
  tryLexicalConvert : List UInt8 → Option ℕ
  headerBufferSize : ℕ
  maxContentLength : ℕ
  pushBodyBytesState : σ
  headerBuffer : List UInt8 := []
  request : HttpRequest := {}
  valid : Bool := true
  finished : Bool := false
  errorCode : HttpStatusCode := .Bad_Request
  currentParser : ParserFn := .parseVerb
  parsePathStartsAt : ℕ := 0
  parseVersionStartsAt : ℕ := 0
  parseHeaderNameStartsAt : ℕ := 0
  parseCurrentHeaderName : View := {}
  parseHeaderValueStartsAt : ℕ := 0
  parseCurrentHeaderValue : View := {}
  expectedContentLength : ℕ := 0
  requestBodyBytesProcessed : ℕ := 0
  accesses : List Access := []

namespace Parser

variable {σ : Type*}

/-- `headerSize_`. -/
def headerSize (p : Parser σ) : ℕ := p.headerBuffer.length

/-- `headerBuffer_[headerSize_++] = c`. -/
def append (c : UInt8) (p : Parser σ) : Parser σ :=
  { p with headerBuffer := p.headerBuffer ++ [c], accesses := .write p.headerSize :: p.accesses }

/-- `headerBuffer_[index] = c`, where something was written before. -/
def set (index : ℕ) (c : UInt8) (p : Parser σ) : Parser σ :=
  { p with headerBuffer := p.headerBuffer.set index c, accesses := .write index :: p.accesses }

/-- `headerBuffer_[index]`. -/
def get (p : Parser σ) (index : ℕ) : UInt8 := p.headerBuffer.getD index 0

/-- A change of the request. -/
def updateRequest (change : HttpRequest → HttpRequest) (p : Parser σ) : Parser σ := { p with request := change p.request }

/-- `currentParser_ = next`. -/
def goTo (next : ParserFn) (p : Parser σ) : Parser σ := { p with currentParser := next }

/-- `valid_ = false`, with an error code. -/
def reject (errorCode : HttpStatusCode) (p : Parser σ) : Parser σ := { p with valid := false, errorCode := errorCode }

/-- `decodeUrlEncodingInPlace`: how much it writes. -/
def decodeUrlEncodingInPlace (source destination : ℕ) : ℕ → Parser σ → ℕ × Parser σ
  | 0, p => (0, p)
  | size + 1, p =>
    if p.get source = 37 then
      match size with
      | size + 2 =>
        let c := hexParsingValue (p.get (source + 1)) * 16 + hexParsingValue (p.get (source + 2))
        let rest := decodeUrlEncodingInPlace (source + 3) (destination + 1) size (p.set destination c)
        (rest.1 + 1, rest.2)
      | _ => (0, p)
    else
      let rest := decodeUrlEncodingInPlace (source + 1) (destination + 1) size (p.set destination (p.get source))
      (rest.1 + 1, rest.2)

/-- `viewAfterDecodingUrlEncodingInPlace`. -/
def viewAfterDecodingUrlEncodingInPlace (start size : ℕ) (p : Parser σ) : View × Parser σ :=
  let decoded := decodeUrlEncodingInPlace start start size p
  (⟨start, decoded.1⟩, decoded.2)

/-- The same for what is between two positions, with a null view if there is nothing. -/
def viewBetween (start finish : ℕ) (p : Parser σ) : View × Parser σ :=
  if start < finish then viewAfterDecodingUrlEncodingInPlace start (finish - start) p else ({}, p)

/-- `trimLeadingChar`. -/
def trimLeadingChar (view : View) (toTrim : UInt8) (p : Parser σ) : View :=
  let toRemove := ((view.bytes p.headerBuffer).takeWhile (· == toTrim)).length
  ⟨view.start + toRemove, view.size - toRemove⟩

/-! #### The path and its query -/

/-- The states of `interpretPathString`. -/
inductive PathState
  | path | key | value
  deriving DecidableEq, Repr

/-- The variables of its loop. -/
structure PathLoop where
  state : PathState := .path
  keyStart : ℕ := 0
  keyEnd : ℕ := 0
  valueStart : ℕ := 0
  valueEnd : ℕ := 0

/-- A round of the loop, at character `i` of `n`. -/
def interpretPathCharacter (i n : ℕ) (l : PathLoop) (p : Parser σ) : PathLoop × Parser σ :=
  let pathStart := p.parsePathStartsAt
  let c := p.get (pathStart + i)
  match l.state with
  | .path =>
    if c = 63 ∨ i + 1 = n then
      let path := viewAfterDecodingUrlEncodingInPlace pathStart i p
      ({ l with state := .key, keyStart := i + 1, keyEnd := i + 1 },
        path.2.updateRequest ({ · with path := path.1 }))
    else (l, p)
  | .key =>
    if c = 61 then ({ l with keyEnd := i, state := .value, valueStart := i + 1, valueEnd := i + 1 }, p) else (l, p)
  | .value =>
    if c = 38 ∨ i + 1 = n then
      let key := viewBetween (pathStart + l.keyStart) (pathStart + l.keyEnd) p
      let value := viewBetween (pathStart + l.valueStart) (pathStart + i) key.2
      ({ l with valueEnd := i, keyStart := i + 1, keyEnd := i + 1, state := .key },
        value.2.updateRequest fun request => { request with queryPairs := request.queryPairs ++ [(key.1, value.1)] })
    else (l, p)

/-- The loop, with `remaining` characters to go. -/
def interpretPathLoop (n : ℕ) : ℕ → PathLoop → Parser σ → Parser σ
  | 0, _, p => p
  | remaining + 1, l, p =>
    let next := interpretPathCharacter (n - (remaining + 1)) n l p
    interpretPathLoop n remaining next.1 next.2

/-- `interpretPathString`. -/
def interpretPathString (p : Parser σ) : Parser σ :=
  let n := (castInt p.request.path.size).toNat
  interpretPathLoop n n {} p

/-! #### Cookies -/

/-- `while (cookieStart[start] == ' ') start += 1`, on a part of the value. -/
def trimStart (value : View) (start : ℕ) (p : Parser σ) : ℕ × Parser σ :=
  let spaces := ((p.headerBuffer.drop start).takeWhile (· == 32)).length
  (start + spaces,
    { p with accesses := (List.range' start (spaces + 1)).map (.trim value) ++ p.accesses })

/-- How many spaces end where `finish` is. -/
def spacesBefore (headerBuffer : List UInt8) : ℕ → ℕ
  | 0 => 0
  | finish + 1 => if headerBuffer[finish]? = some 32 then spacesBefore headerBuffer finish + 1 else 0

/-- `while (cookieStart[finish - 1] == ' ') finish -= 1`. -/
def trimEnd (value : View) (finish : ℕ) (p : Parser σ) : ℕ × Parser σ :=
  let spaces := spacesBefore p.headerBuffer finish
  (finish - spaces,
    { p with accesses := (List.range' (finish - 1 - spaces) (spaces + 1)).map (.trim value) ++ p.accesses })

/-- The states of `interpretCookies`. -/
inductive CookieState
  | name | value
  deriving DecidableEq, Repr

/-- The variables of its loop. The positions are those in the header buffer. -/
structure CookieLoop where
  state : CookieState := .name
  nameStart : ℕ
  nameEnd : ℕ
  valueStart : ℕ
  valueEnd : ℕ

/-- The loop behind a cookie. -/
def CookieLoop.next (i : ℕ) : CookieLoop := ⟨.name, i + 1, i + 1, i + 1, i + 1⟩

/-- The cookie is added to the request. -/
def addCookie (name value : View) (p : Parser σ) : Parser σ :=
  p.updateRequest fun request => { request with cookies := request.cookies ++ [(name, value)] }

/-- A round of the loop, at position `i` of a value that ends at `finish`. -/
def interpretCookieCharacter (value : View) (i finish : ℕ) (l : CookieLoop) (p : Parser σ) : CookieLoop × Parser σ :=
  let c := p.get i
  match l.state with
  | .name =>
    if c = 61 then ({ l with nameEnd := i, state := .value, valueStart := i + 1, valueEnd := i + 1 }, p)
    else if c = 59 ∨ i + 1 = finish then
      let valueEnd := if i + 1 = finish then i + 1 else i
      let valueStart := trimStart value l.valueStart p
      let valueEnd := trimEnd value valueEnd valueStart.2
      let view := viewBetween valueStart.1 valueEnd.1 valueEnd.2
      (.next i, view.2.addCookie {} view.1)
    else (l, p)
  | .value =>
    if c = 59 ∨ i + 1 = finish then
      let valueEnd := if i + 1 = finish then i + 1 else i
      let nameStart := trimStart value l.nameStart p
      let nameEnd := trimEnd value l.nameEnd nameStart.2
      let valueStart := trimStart value l.valueStart nameEnd.2
      let valueEnd := trimEnd value valueEnd valueStart.2
      let name := viewBetween nameStart.1 nameEnd.1 valueEnd.2
      let view := viewBetween valueStart.1 valueEnd.1 name.2
      (.next i, view.2.addCookie name.1 view.1)
    else (l, p)

/-- The loop, with `remaining` characters to go. -/
def interpretCookieLoop (value : View) (finish : ℕ) : ℕ → CookieLoop → Parser σ → Parser σ
  | 0, _, p => p
  | remaining + 1, l, p =>
    let next := interpretCookieCharacter value (finish - (remaining + 1)) finish l p
    interpretCookieLoop value finish remaining next.1 next.2

/-- `interpretCookies`. -/
def interpretCookies (value : View) (p : Parser σ) : Parser σ :=
  let size := castSize (castInt value.size)
  interpretCookieLoop value (value.start + size) size ⟨.name, value.start, value.start, value.start, value.start⟩ p

/-! #### Headers -/

/-- The value of a header. -/
def header (p : Parser σ) (name : HttpHeader) : List UInt8 := (p.request.headers name).bytes p.headerBuffer

/-- `interpretImportantHeaders`, without the cookies. -/
def importantHeaders (p : Parser σ) : Parser σ :=
  let p := { p with expectedContentLength := (p.tryLexicalConvert (p.header .Content_Length)).getD 0 }
  let keepConnectionAlive := matchStringUpperOrLower (p.header .Connection) "keep-alive" "KEEP-ALIVE"
  let p := p.updateRequest ({ · with keepConnectionAlive := keepConnectionAlive })
  if (p.request.headers .Expect).size ≠ 0 then p.reject .Expectation_Failed else p

/-- `interpretImportantHeaders`. -/
def interpretImportantHeaders (p : Parser σ) : Parser σ :=
  p.importantHeaders.interpretCookies (p.importantHeaders.request.headers .Cookie)

/-- `onFinishedParsingHeaders`. -/
def onFinishedParsingHeaders (p : Parser σ) : Parser σ := p.interpretImportantHeaders

/-! #### The states -/

/-- `copyUntil`: whether the character was reached, the rest of the chunk, and the parser. -/
def copyUntil (toSearch : UInt8) : List UInt8 → Parser σ → Bool × List UInt8 × Parser σ
  | [], p => (false, [], p)
  | c :: buffer, p =>
    if p.headerSize ≥ p.headerBufferSize then (false, c :: buffer, p.reject .Payload_Too_Large)
    else if c = toSearch then (true, buffer, p.append c)
    else copyUntil toSearch buffer (p.append c)

/-- A state that copies up to a character and goes on with what follows it. -/
def parseUntil (toSearch : UInt8) (parsed : Parser σ → Parser σ) (buffer : List UInt8) (p : Parser σ) :
    List UInt8 × Parser σ :=
  match copyUntil toSearch buffer p with
  | (true, rest, p) => (rest, parsed p)
  | (false, rest, p) => (rest, p)

/-- `parseHttpVerb`. -/
def parseHttpVerb (buffer : List UInt8) : HttpVerb :=
  if matchStringUpperOrLower buffer "get" "GET" then .GET
  else if matchStringUpperOrLower buffer "put" "PUT" then .PUT
  else if matchStringUpperOrLower buffer "post" "POST" then .POST
  else if matchStringUpperOrLower buffer "patch" "PATCH" then .PATCH
  else if matchStringUpperOrLower buffer "delete" "DELETE" then .DELETE
  else .UNKNOWN

/-- `parseVerb`, behind the blank. -/
def verbParsed (p : Parser σ) : Parser σ :=
  let verb := parseHttpVerb (p.headerBuffer.take (p.headerSize - 1))
  let p := p.updateRequest ({ · with verb := verb })
  if verb = .UNKNOWN then { p with valid := false }
  else { p with currentParser := .parsePath, parsePathStartsAt := p.headerSize }

/-- The end of `parsePath`. -/
def pathInterpreted (p : Parser σ) : Parser σ :=
  { p.updateRequest ({ · with path := p.trimLeadingChar p.request.path 47 }) with
    currentParser := .parseVersion
    parseVersionStartsAt := p.headerSize }

/-- `parsePath`, behind the blank. -/
def pathParsed (p : Parser σ) : Parser σ :=
  (p.updateRequest ({ · with path := ⟨p.parsePathStartsAt, p.headerSize - p.parsePathStartsAt⟩ })).interpretPathString
    |>.pathInterpreted

/-- `parseVersion`, behind the carriage return. -/
def versionParsed (p : Parser σ) : Parser σ :=
  if p.headerSize - 1 - p.parseVersionStartsAt ≠ 8 then p.reject .HTTP_Version_Not_Supported
  else if p.get (p.parseVersionStartsAt + 5) ≠ 49 then p.reject .HTTP_Version_Not_Supported
  else
    let digit := p.get (p.parseVersionStartsAt + 7)
    let p := p.updateRequest ({ · with versionMajor := 1 })
    if digit = 48 then (p.updateRequest ({ · with versionMinor := 0 })).goTo .parseNewLine
    else if digit = 49 then (p.updateRequest ({ · with versionMinor := 1 })).goTo .parseNewLine
    else p.reject .HTTP_Version_Not_Supported

/-- `parseHeaderName`, behind the colon. -/
def headerNameParsed (p : Parser σ) : Parser σ :=
  { p with
    parseCurrentHeaderName := ⟨p.parseHeaderNameStartsAt, p.headerSize - 1 - p.parseHeaderNameStartsAt⟩
    currentParser := .parseHeaderSpacing }

/-- `parseHeaderValue`, behind the carriage return. -/
def headerValueParsed (p : Parser σ) : Parser σ :=
  let value : View := ⟨p.parseHeaderValueStartsAt, p.headerSize - 1 - p.parseHeaderValueStartsAt⟩
  let p := { p with parseCurrentHeaderValue := value }.goTo .parseNewLine
  match matchHttpHeader (p.parseCurrentHeaderName.bytes p.headerBuffer) with
  | some name => p.updateRequest fun request => { request with headers := Function.update request.headers name value }
  | none => p

/-- `parseNewLine`, when the header was interpreted. -/
def headersParsed (p : Parser σ) : Parser σ :=
  if p.request.verb = .GET ∨ p.request.verb = .DELETE ∨ p.expectedContentLength < 1 then { p with finished := true }
  else if (p.request.headers .Transfer_Encoding).size ≠ 0 ∨ (p.request.headers .Content_Encoding).size ≠ 0 then
    p.reject .Not_Implemented
  else p.goTo .parseBody

/-- `parseNewLine`, when the line feed was added. -/
def newLineParsed (p : Parser σ) : Parser σ :=
  if p.headerSize > 4 ∧ p.get (p.headerSize - 3) = 10 ∧ p.get (p.headerSize - 4) = 13 then
    p.onFinishedParsingHeaders.headersParsed
  else { p with currentParser := .parseHeaderName, parseHeaderNameStartsAt := p.headerSize }

variable (pushBodyBytes : List UInt8 → σ → Bool × σ)

/-- `parseBody`, when the length of the body is allowed: the chunk is pushed, and it is the last one if the body is
complete with it. -/
def pushBody (buffer : List UInt8) (p : Parser σ) : Parser σ :=
  let pushed := pushBodyBytes buffer p.pushBodyBytesState
  let requestBodyBytesProcessed := p.requestBodyBytesProcessed + buffer.length
  { p with
    pushBodyBytesState := pushed.2
    valid := if pushed.1 then p.valid else false
    errorCode := if pushed.1 then p.errorCode else .Payload_Too_Large
    requestBodyBytesProcessed := requestBodyBytesProcessed
    finished := if requestBodyBytesProcessed ≥ p.expectedContentLength then true else p.finished }

/-- `(this->*currentParser_)(buffer, size)`: what is left of the chunk, and the parser. -/
def parse (buffer : List UInt8) (p : Parser σ) : List UInt8 × Parser σ :=
  match p.currentParser, buffer with
  | _, [] => ([], p)
  | .parseVerb, buffer => parseUntil 32 verbParsed buffer p
  | .parsePath, buffer => parseUntil 32 pathParsed buffer p
  | .parseVersion, buffer => parseUntil 13 versionParsed buffer p
  | .parseNewLine, c :: rest =>
    if c ≠ 10 ∨ p.headerSize ≥ p.headerBufferSize ∨ p.headerSize < 1 ∨ p.get (p.headerSize - 1) ≠ 13 then
      (rest, p.reject .Payload_Too_Large)
    else (rest, (p.append 10).newLineParsed)
  | .parseHeaderName, c :: rest =>
    if c = 13 then
      if p.headerSize ≥ p.headerBufferSize then (c :: rest, p.reject .Payload_Too_Large)
      else (rest, (p.append 13).goTo .parseNewLine)
    else parseUntil 58 headerNameParsed (c :: rest) p
  | .parseHeaderSpacing, buffer =>
    match buffer.dropWhile (· == 32) with
    | [] => ([], p)
    | rest => (rest, { p with currentParser := .parseHeaderValue, parseHeaderValueStartsAt := p.headerSize })
  | .parseHeaderValue, buffer => parseUntil 13 headerValueParsed buffer p
  | .parseBody, buffer =>
    if p.expectedContentLength > p.maxContentLength then (buffer, p.reject .Payload_Too_Large)
    else ([], p.pushBody pushBodyBytes buffer)

/-- The states that copy up to a character, whatever a chunk begins with. -/
def copies : ParserFn → Option (UInt8 × (Parser σ → Parser σ))
  | .parseVerb => some (32, verbParsed)
  | .parsePath => some (32, pathParsed)
  | .parseVersion => some (13, versionParsed)
  | .parseHeaderValue => some (13, headerValueParsed)
  | _ => none

theorem parse_of_copies {p : Parser σ} {toSearch : UInt8} {parsed : Parser σ → Parser σ}
    (h : copies p.currentParser = some (toSearch, parsed)) {buffer : List UInt8} (hbuffer : buffer ≠ []) :
    p.parse pushBodyBytes buffer = parseUntil toSearch parsed buffer p := by
  obtain ⟨c, rest, rfl⟩ := List.exists_cons_of_ne_nil hbuffer
  unfold parse
  cases hcurrent : p.currentParser <;> rw [hcurrent] at h <;> cases h <;> rfl

/-! #### What the states take -/

/-- May the loop of `process` go on? -/
def Active (p : Parser σ) : Prop := p.valid = true ∧ p.finished = false

instance (p : Parser σ) : Decidable p.Active := inferInstanceAs (Decidable (_ ∧ _))

/-- What gets smaller with each state: the rest of the chunk, and for the spaces in front of a value and for errors,
which need not take anything, what the parser can still do without. -/
def work (buffer : List UInt8) (p : Parser σ) : ℕ :=
  3 * buffer.length + (if p.currentParser = .parseHeaderSpacing then 1 else 0) + (if p.valid then 1 else 0)

theorem work_le (buffer : List UInt8) (p : Parser σ) : p.work buffer ≤ 3 * buffer.length + 2 := by
  unfold work
  split_ifs <;> omega

theorem le_work (buffer : List UInt8) (p : Parser σ) : 3 * buffer.length ≤ p.work buffer := by
  unfold work
  omega

/-- Copying takes something, or ends in an error. -/
theorem copyUntil_cases (toSearch : UInt8) {buffer : List UInt8} (hbuffer : buffer ≠ []) (p : Parser σ) :
    (copyUntil toSearch buffer p).2.1.length < buffer.length ∨
      ∃ p', copyUntil toSearch buffer p = (false, buffer, p') ∧ p'.valid = false ∧
        p'.currentParser = p.currentParser := by
  have hle : ∀ (buffer : List UInt8) (p : Parser σ), (copyUntil toSearch buffer p).2.1.length ≤ buffer.length := by
    intro buffer
    induction buffer with
    | nil => exact fun p => Nat.le_refl _
    | cons c buffer ih =>
      intro p
      unfold copyUntil
      split_ifs
      · exact Nat.le_refl _
      · exact Nat.le_succ _
      · exact Nat.le_trans (ih _) (Nat.le_succ _)
  cases buffer with
  | nil => exact absurd rfl hbuffer
  | cons c buffer =>
    unfold copyUntil
    split_ifs
    · exact Or.inr ⟨_, rfl, rfl, rfl⟩
    · exact Or.inl (Nat.lt_succ_self _)
    · exact Or.inl (Nat.lt_succ_of_le (hle _ _))

theorem work_parseUntil_lt (toSearch : UInt8) (parsed : Parser σ → Parser σ) {buffer : List UInt8} (hbuffer : buffer ≠ [])
    {p : Parser σ} (hvalid : p.valid = true) :
    (parseUntil toSearch parsed buffer p).2.work (parseUntil toSearch parsed buffer p).1 < p.work buffer := by
  have hwork := p.le_work buffer
  rcases copyUntil_cases toSearch hbuffer p with hlt | ⟨p', heq, hinvalid, hcurrent⟩
  · have hrest : (parseUntil toSearch parsed buffer p).1 = (copyUntil toSearch buffer p).2.1 := by
      unfold parseUntil
      split <;> rename_i h <;> rw [h]
    have hle := (parseUntil toSearch parsed buffer p).2.work_le (parseUntil toSearch parsed buffer p).1
    rw [hrest] at hle ⊢
    omega
  · unfold parseUntil
    rw [heq]
    unfold work
    rw [hinvalid, hvalid, hcurrent]
    simp

/-- Every state does some of the work. -/
theorem work_parse_lt {buffer : List UInt8} (hbuffer : buffer ≠ []) {p : Parser σ} (hvalid : p.valid = true) :
    (p.parse pushBodyBytes buffer).2.work (p.parse pushBodyBytes buffer).1 < p.work buffer := by
  cases buffer with
  | nil => exact absurd rfl hbuffer
  | cons c buffer =>
    have hsmaller : ∀ (rest : List UInt8) (p' : Parser σ), rest.length ≤ buffer.length →
        p'.work rest < p.work (c :: buffer) := fun rest p' hrest => by
      have hle := p'.work_le rest
      have hge := p.le_work (c :: buffer)
      rw [List.length_cons] at hge
      omega
    have hrejected : ∀ errorCode, (p.reject errorCode).work (c :: buffer) < p.work (c :: buffer) := fun errorCode => by
      unfold work reject
      rw [hvalid]
      simp
    cases hcopies : copies (σ := σ) p.currentParser with
    | some copied =>
      rw [parse_of_copies pushBodyBytes hcopies hbuffer]
      exact work_parseUntil_lt copied.1 copied.2 hbuffer hvalid
    | none =>
    unfold parse
    cases hcurrent : p.currentParser with
    | parseVerb | parsePath | parseVersion | parseHeaderValue => rw [hcurrent] at hcopies; cases hcopies
    | parseNewLine =>
      dsimp only
      split_ifs
      · exact hsmaller _ _ (Nat.le_refl _)
      · exact hsmaller _ _ (Nat.le_refl _)
    | parseHeaderName =>
      dsimp only
      split_ifs
      · exact hrejected _
      · exact hsmaller _ _ (Nat.le_refl _)
      · exact work_parseUntil_lt 58 headerNameParsed hbuffer hvalid
    | parseHeaderSpacing =>
      dsimp only
      split
      · exact hsmaller [] _ (Nat.zero_le _)
      · have hlength := (List.dropWhile_suffix (l := c :: buffer) (· == 32)).length_le
        unfold work
        rw [hcurrent, if_pos rfl, if_neg (by simp)]
        dsimp only
        omega
    | parseBody =>
      dsimp only
      split_ifs
      all_goals first
        | exact hrejected _
        | exact hsmaller [] _ (Nat.zero_le _)

/-- The loop of `process`. -/
def processLoop (buffer : List UInt8) (p : Parser σ) : Parser σ :=
  if buffer ≠ [] ∧ p.Active then
    processLoop (p.parse pushBodyBytes buffer).1 (p.parse pushBodyBytes buffer).2
  else p
termination_by p.work buffer
decreasing_by
  rename_i h
  exact work_parse_lt pushBodyBytes h.1 h.2.1

/-- `process`. -/
def process (buffer : List UInt8) (p : Parser σ) : Parser σ :=
  if p.finished then p else processLoop pushBodyBytes buffer p

/-- `reset`. What was noted of the accesses to memory is forgotten too. -/
def reset (p : Parser σ) : Parser σ :=
  { tryLexicalConvert := p.tryLexicalConvert
    headerBufferSize := p.headerBufferSize
    maxContentLength := p.maxContentLength
    pushBodyBytesState := p.pushBodyBytesState }

end Parser

end Forum.Http
