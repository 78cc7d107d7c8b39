import Forum.Http.ParserChunks

/-!
# Connections that are kept alive

A connection reads a request with its parser, hands it to the router or refuses it, and writes a response. When that is
written it is released, or everything that belongs to the request is reset and the next one is read. `likeFresh_iff`
says when the requests that come on one connection are served as on connections of their own.
-/

namespace Forum.Http

open Forum.Library

/-! ### Buffers -/

/-- `ReadWriteBufferArray`: the bytes that are used of its buffers, and what the pool answers when it is asked for
another one. -/
structure ReadWriteBufferArray where
  buffers : List (List UInt8) := []
  notEnoughRoom : Bool := false
  pool : List Bool := []
  deriving DecidableEq

namespace ReadWriteBufferArray

/-- `usedBytesInLatestBuffer_`. -/
def usedBytesInLatestBuffer (a : ReadWriteBufferArray) : ℕ := (a.buffers.getLast?.map List.length).getD 0

/-- The buffers, with more bytes in the latest one. -/
def appendToLatest (bytes : List UInt8) (a : ReadWriteBufferArray) : List (List UInt8) :=
  a.buffers.dropLast ++ (a.buffers.getLast?.map (· ++ bytes)).toList

/-- The loop of `write`, for what comes behind the latest buffer; so many more buffers may be requested. -/
def writeToNewBuffers (bufferSize : ℕ) : ℕ → List UInt8 → ReadWriteBufferArray → Bool × ReadWriteBufferArray
  | _, [], a => (true, a)
  | 0, _ :: _, a => (false, { a with notEnoughRoom := true })
  | more + 1, c :: input, a =>
    if a.pool.head? = some true then
      writeToNewBuffers bufferSize more ((c :: input).drop bufferSize)
        { a with buffers := a.buffers ++ [(c :: input).take bufferSize], pool := a.pool.tail }
    else (false, { a with notEnoughRoom := true, pool := a.pool.tail })

/-- `write`: whether there was enough room. -/
def write (bufferSize maxNrOfBuffers : ℕ) (input : List UInt8) (a : ReadWriteBufferArray) : Bool × ReadWriteBufferArray :=
  let room := if a.buffers = [] then 0 else bufferSize - a.usedBytesInLatestBuffer
  writeToNewBuffers bufferSize (maxNrOfBuffers - a.buffers.length) (input.drop room)
    { a with buffers := a.appendToLatest (input.take room) }

/-- `size`. -/
def size (bufferSize : ℕ) (a : ReadWriteBufferArray) : ℕ :=
  if a.buffers = [] then 0 else (a.buffers.length - 1) * bufferSize + a.usedBytesInLatestBuffer

/-- `constBufferWrapper`. Without buffers, it goes over an empty one. -/
def constBufferWrapper (a : ReadWriteBufferArray) : List (List UInt8) := if a.buffers = [] then [[]] else a.buffers

/-- `reset`. -/
def reset (a : ReadWriteBufferArray) : ReadWriteBufferArray := { a with buffers := [], notEnoughRoom := false }

end ReadWriteBufferArray

/-! ### Responses -/

/-- `HttpResponseBuilder::ProtocolState`. -/
inductive ProtocolState
  | NothingWritten | ResponseCodeWritten | BodyWritten
  deriving DecidableEq, Repr

/-- A digit, as a character. -/
def digitCharacter (digit : ℕ) : UInt8 := UInt8.ofNat (digit + 48)

/-- `simpleResponseHeaders`. -/
def simpleResponseHeaders : List UInt8 := asciiBytes "Connection: close\r\nContent-Length: 0\r\n"

/-- `buildSimpleResponseFromStatusCode`. The last character of the code is computed from its last two digits. -/
def buildSimpleResponseFromStatusCode (code : HttpStatusCode) (majorVersion minorVersion : ℕ) : List UInt8 :=
  asciiBytes "HTTP/" ++ [digitCharacter majorVersion] ++ asciiBytes "." ++ [digitCharacter minorVersion] ++ asciiBytes " " ++
    [digitCharacter (code.toNat / 100), digitCharacter (code.toNat / 10 % 10), digitCharacter (code.toNat % 100)] ++
    asciiBytes " " ++ asciiBytes code.text ++ asciiBytes "\r\n" ++ simpleResponseHeaders ++ asciiBytes "\r\n"

/-! ### Connections -/

/-- The constants of `Buffer`, and what a connection is constructed with. -/
structure ConnectionSettings where
  /-- `try_lexical_convert` to a `size_t`. -/
  tryLexicalConvert : List UInt8 → Option ℕ
  readBufferSize : ℕ
  writeBufferSize : ℕ
  maximumBuffersForRequestBody : ℕ
  maximumBuffersForResponse : ℕ
  trustIpFromXForwardedFor : Bool

/-- What a connection finds around it during a request: what the pools of buffers answer, the address at the other end of
the socket, how addresses are read, and what the router writes for a request, whose views are into the header buffer. -/
structure Surroundings where
  readBufferPool : List Bool
  writeBufferPool : List Bool
  remoteEndpoint : Option (List UInt8)
  addressFromString : List UInt8 → Option (List UInt8)
  forward : HttpRequest → List UInt8 → ProtocolState → List (List UInt8) × ProtocolState

/-- `HttpConnection`. The buffers of the request body are those that the parser pushes to. -/
structure HttpConnection where
  keepConnectionAlive : Bool := false
  responseBuffer : ReadWriteBufferArray := {}
  responseBuilder : ProtocolState := .NothingWritten
  parser : Parser ReadWriteBufferArray

/-- What a connection does with a request: what it hands to the router, if it does, and what it writes. -/
structure Answer where
  handed : Option (HttpRequest × List UInt8)
  response : List UInt8

namespace HttpConnection

/-- `getRemoteAddress`. -/
def getRemoteAddress (settings : ConnectionSettings) (env : Surroundings) (parser : Parser ReadWriteBufferArray) :
    Option (List UInt8) :=
  if settings.trustIpFromXForwardedFor then
    env.addressFromString (((parser.header .X_Forwarded_For).take 127).takeWhile (· != 0))
  else env.remoteEndpoint

/-- What `writeStatusCode` writes. -/
def statusCodeResponse (code : HttpStatusCode) (c : HttpConnection) : List UInt8 :=
  buildSimpleResponseFromStatusCode code c.parser.request.versionMajor c.parser.request.versionMinor

/-- The request as `processRequest` hands it to the router. -/
def requestToForward (settings : ConnectionSettings) (env : Surroundings) (c : HttpConnection) : HttpRequest :=
  { c.parser.request with
    requestContentBuffers :=
      (c.parser.request.requestContentBuffers ++ c.parser.pushBodyBytesState.constBufferWrapper).take
        settings.maximumBuffersForRequestBody
    remoteAddress := getRemoteAddress settings env c.parser }

/-- The connection when the router has written. -/
def forwarded (settings : ConnectionSettings) (env : Surroundings) (c : HttpConnection) : HttpConnection :=
  let request := c.requestToForward settings env
  let written := env.forward request c.parser.headerBuffer c.responseBuilder
  { keepConnectionAlive := request.keepConnectionAlive
    responseBuffer := written.1.foldl
      (fun buffer data => (buffer.write settings.writeBufferSize settings.maximumBuffersForResponse data).2) c.responseBuffer
    responseBuilder := written.2
    parser := { c.parser with request := request } }

/-- `processRequest`. -/
def processRequest (settings : ConnectionSettings) (env : Surroundings) (c : HttpConnection) : Answer × HttpConnection :=
  let after := c.forwarded settings env
  ({ handed := some (c.requestToForward settings env, c.parser.headerBuffer)
     response :=
      if after.responseBuffer.size settings.writeBufferSize = 0 ∨ after.responseBuffer.notEnoughRoom then
        after.statusCodeResponse .Internal_Server_Error
      else after.responseBuffer.constBufferWrapper.flatten }, after)

/-- `onReadBody`. -/
def onReadBody (settings : ConnectionSettings) : List UInt8 → ReadWriteBufferArray → Bool × ReadWriteBufferArray :=
  ReadWriteBufferArray.write settings.readBufferSize settings.maximumBuffersForRequestBody

/-- `onBytesRead`: what was done, if the request is not to be read any further. -/
def onBytesRead (settings : ConnectionSettings) (env : Surroundings) (bytes : List UInt8) (c : HttpConnection) :
    Option Answer × HttpConnection :=
  let c := { c with parser := c.parser.process (onReadBody settings) bytes }
  if c.parser.valid = false then (some { handed := none, response := c.statusCodeResponse c.parser.errorCode }, c)
  else if c.parser.finished = false then (none, c)
  else
    let processed := c.processRequest settings env
    (some processed.1, processed.2)

/-- `onWritten`: the connection that reads the next request, if it is not released. -/
def onWritten (c : HttpConnection) : Option HttpConnection :=
  if c.keepConnectionAlive then
    some { c with
      parser := { c.parser.reset with pushBodyBytesState := c.parser.pushBodyBytesState.reset }
      responseBuffer := c.responseBuffer.reset
      responseBuilder := .NothingWritten }
  else none

/-- A new connection. -/
def newConnection (settings : ConnectionSettings) : HttpConnection where
  parser :=
    { tryLexicalConvert := settings.tryLexicalConvert
      headerBufferSize := settings.readBufferSize
      maxContentLength := settings.readBufferSize * settings.maximumBuffersForRequestBody
      pushBodyBytesState := {} }

/-- The connection finds other pools around it. -/
def enter (env : Surroundings) (c : HttpConnection) : HttpConnection :=
  { c with
    parser := { c.parser with pushBodyBytesState := { c.parser.pushBodyBytesState with pool := env.readBufferPool } }
    responseBuffer := { c.responseBuffer with pool := env.writeBufferPool } }

end HttpConnection

/-- A request, in the chunks in which it comes, and what the connection finds around it meanwhile. -/
structure Exchange where
  env : Surroundings
  chunks : List (List UInt8)

namespace HttpConnection

variable (settings : ConnectionSettings)

/-- The chunks of a request are read up to the one with which it is answered, if that is the last one. -/
def readChunks (env : Surroundings) : List (List UInt8) → HttpConnection → Option (Answer × HttpConnection)
  | [], _ => none
  | chunk :: chunks, c =>
    match c.onBytesRead settings env chunk with
    | (none, c) => readChunks env chunks c
    | (some answer, c) => if chunks = [] then some (answer, c) else none

/-- A request is read and answered; then the connection is kept, or released. -/
def serve (exchange : Exchange) (c : HttpConnection) : Option (Answer × Option HttpConnection) :=
  (readChunks settings exchange.env exchange.chunks (c.enter exchange.env)).map fun read => (read.1, read.2.onWritten)

/-- What is seen of it from outside: the answer, and whether the connection is kept. -/
def behaviour (exchange : Exchange) (c : HttpConnection) : Option (Answer × Bool) :=
  (c.serve settings exchange).map fun served => (served.1, served.2.isSome)

/-- The connection behind these requests, if it is still open. -/
def after : List Exchange → HttpConnection → Option HttpConnection
  | [], c => some c
  | exchange :: exchanges, c =>
    match c.serve settings exchange with
    | some (_, some c) => after exchanges c
    | _ => none

/-- Every request that comes while the connection is open is served as on a new one. -/
def LikeFresh (exchanges : List Exchange) : Prop :=
  ∀ before exchange behind, exchanges = before ++ exchange :: behind →
    ∀ c, after settings before (newConnection settings) = some c →
      c.behaviour settings exchange = (newConnection settings).behaviour settings exchange

/-! ### Requests that the parser rejects -/

/-- The parser behind the last of these chunks, if it is done with that one and not before. -/
def readByParser : List (List UInt8) → Parser ReadWriteBufferArray → Option (Parser ReadWriteBufferArray)
  | [], _ => none
  | chunk :: chunks, p =>
    if (p.process (onReadBody settings) chunk).Active then readByParser chunks (p.process (onReadBody settings) chunk)
    else if chunks = [] then some (p.process (onReadBody settings) chunk) else none

/-- A new parser rejects the request. -/
def Rejected (exchange : Exchange) : Prop :=
  ∃ p, readByParser settings exchange.chunks ((newConnection settings).enter exchange.env).parser = some p ∧ p.valid = false

/-! ### Connections that were kept -/

/-- A connection that was reset: only that it is kept alive is left of the last request. -/
def Kept (c : HttpConnection) : Prop :=
  ∀ env : Surroundings, c.enter env = { (newConnection settings).enter env with keepConnectionAlive := true }

/-- The parser has the constants that it was constructed with. -/
def OfSettings (c : HttpConnection) : Prop := Parser.SameConstants (newConnection settings).parser c.parser

variable {settings}

theorem Kept.ofSettings {c : HttpConnection} (h : c.Kept settings) : c.OfSettings settings := by
  have henter := congrArg HttpConnection.parser (h ⟨[], [], none, fun _ => none, fun _ _ state => ([], state)⟩)
  have hconvert := congrArg Parser.tryLexicalConvert henter
  have hheader := congrArg Parser.headerBufferSize henter
  have hcontent := congrArg Parser.maxContentLength henter
  exact ⟨hconvert, hheader, hcontent⟩

/-- What was written is forgotten. -/
theorem OfSettings.onWritten {c c' : HttpConnection} (h : c.OfSettings settings) (hwritten : c.onWritten = some c') :
    c'.Kept settings := by
  unfold HttpConnection.onWritten at hwritten
  split_ifs at hwritten with hkeep
  obtain rfl := Option.some.inj hwritten
  intro env
  unfold enter newConnection Parser.reset
  dsimp only
  rw [h.tryLexicalConvert, h.headerBufferSize, h.maxContentLength, hkeep]
  rfl

theorem OfSettings.onBytesRead {c : HttpConnection} (h : c.OfSettings settings) (env : Surroundings) (bytes : List UInt8) :
    (c.onBytesRead settings env bytes).2.OfSettings settings := by
  have hparser : ({ c with parser := c.parser.process (onReadBody settings) bytes } : HttpConnection).OfSettings settings :=
    h.trans (Parser.sameConstants_process (onReadBody settings) bytes c.parser)
  unfold HttpConnection.onBytesRead
  dsimp only
  split_ifs
  · exact hparser
  · exact hparser
  · exact ⟨hparser.tryLexicalConvert, hparser.headerBufferSize, hparser.maxContentLength⟩

theorem OfSettings.readChunks {env : Surroundings} {chunks : List (List UInt8)} {c : HttpConnection} (h : c.OfSettings settings)
    {answer : Answer} {c' : HttpConnection} (hread : c.readChunks settings env chunks = some (answer, c')) :
    c'.OfSettings settings := by
  induction chunks generalizing c with
  | nil => cases hread
  | cons chunk chunks ih =>
    have hstep := h.onBytesRead env chunk
    unfold HttpConnection.readChunks at hread
    split at hread <;> rename_i heq <;> rw [heq] at hstep
    · exact ih hstep hread
    · split_ifs at hread
      cases hread
      exact hstep

/-- Behind one request or more, an open connection was kept. -/
theorem kept_after {exchanges : List Exchange} {c c' : HttpConnection} (hc : c.OfSettings settings)
    (hopen : c.after settings exchanges = some c') : c' = c ∧ exchanges = [] ∨ c'.Kept settings := by
  induction exchanges generalizing c with
  | nil => exact Or.inl ⟨(Option.some.inj hopen).symm, rfl⟩
  | cons exchange exchanges ih =>
    right
    unfold HttpConnection.after at hopen
    split at hopen
    · rename_i answer next hserve
      unfold serve at hserve
      obtain ⟨read, hread, heq⟩ := Option.map_eq_some_iff.1 hserve
      have hsettings : (c.enter exchange.env).OfSettings settings :=
        ⟨hc.tryLexicalConvert, hc.headerBufferSize, hc.maxContentLength⟩
      have hkept := (hsettings.readChunks hread).onWritten (congrArg Prod.snd heq)
      rcases ih hkept.ofSettings hopen with ⟨rfl, -⟩ | hkept'
      · exact hkept
      · exact hkept'
    · cases hopen

/-! ### What is left of a request -/

/-- A chunk is read: the request is rejected, goes on, or is answered. -/
theorem readChunks_cons (env : Surroundings) (chunk : List UInt8) (chunks : List (List UInt8)) (c : HttpConnection)
    {p : Parser ReadWriteBufferArray} (hp : c.parser.process (onReadBody settings) chunk = p) :
    c.readChunks settings env (chunk :: chunks) =
      if p.valid = false then
        if chunks = [] then
          some ({ handed := none, response := ({ c with parser := p } : HttpConnection).statusCodeResponse p.errorCode },
            { c with parser := p })
        else none
      else if p.finished = false then ({ c with parser := p } : HttpConnection).readChunks settings env chunks
      else if chunks = [] then some (({ c with parser := p } : HttpConnection).processRequest settings env) else none := by
  subst hp
  rw [readChunks]
  unfold onBytesRead
  dsimp only
  by_cases hvalid : (c.parser.process (onReadBody settings) chunk).valid = false
  · rw [if_pos hvalid, if_pos hvalid]
  · rw [if_neg hvalid, if_neg hvalid]
    by_cases hfinished : (c.parser.process (onReadBody settings) chunk).finished = false
    · rw [if_pos hfinished, if_pos hfinished]
    · rw [if_neg hfinished, if_neg hfinished]

variable (settings) in
/-- That a connection was kept alive is seen only when the next request is rejected. -/
theorem readChunks_keepConnectionAlive (env : Surroundings) (keep : Bool) (chunks : List (List UInt8)) (c : HttpConnection) :
    ({ c with keepConnectionAlive := keep } : HttpConnection).readChunks settings env chunks =
      (c.readChunks settings env chunks).map fun read =>
        (read.1, if read.2.parser.valid then read.2 else { read.2 with keepConnectionAlive := keep }) := by
  induction chunks generalizing c with
  | nil => rfl
  | cons chunk chunks ih =>
    obtain ⟨p, hp⟩ : ∃ p, c.parser.process (onReadBody settings) chunk = p := ⟨_, rfl⟩
    rw [readChunks_cons env chunk chunks { c with keepConnectionAlive := keep } hp, readChunks_cons env chunk chunks c hp]
    split_ifs with hvalid hlast hfinished hlast
    · rw [Option.map_some, if_neg (by rw [hvalid]; decide)]
      rfl
    · rfl
    · exact ih { c with parser := p }
    · have hsame : (({ c with parser := p } : HttpConnection).processRequest settings env).2.parser.valid = p.valid := rfl
      rw [Option.map_some, if_pos (by rw [hsame]; simpa using hvalid)]
      rfl
    · rfl

variable (settings) in
/-- The connection is done with a request where the parser is, and says as little about it. -/
theorem readByParser_eq (env : Surroundings) (chunks : List (List UInt8)) (c : HttpConnection) :
    (readByParser settings chunks c.parser).map Parser.valid =
      (c.readChunks settings env chunks).map fun read => read.2.parser.valid := by
  induction chunks generalizing c with
  | nil => rfl
  | cons chunk chunks ih =>
    obtain ⟨p, hp⟩ : ∃ p, c.parser.process (onReadBody settings) chunk = p := ⟨_, rfl⟩
    rw [readChunks_cons env chunk chunks c hp]
    unfold readByParser
    rw [hp]
    by_cases hactive : p.Active
    · rw [if_pos hactive, if_neg (by rw [hactive.1]; decide), if_pos hactive.2]
      exact ih { c with parser := p }
    · rw [if_neg hactive]
      split_ifs with hlast hvalid hfinished hvalid hfinished
      · rfl
      · exact absurd ⟨by simpa using hvalid, hfinished⟩ hactive
      · rfl
      · rfl
      · exact absurd ⟨by simpa using hvalid, hfinished⟩ hactive
      · rfl

theorem rejected_iff (exchange : Exchange) : Rejected settings exchange ↔ ∃ read,
    ((newConnection settings).enter exchange.env).readChunks settings exchange.env exchange.chunks = some read ∧
      read.2.parser.valid = false := by
  have heq := readByParser_eq settings exchange.env exchange.chunks ((newConnection settings).enter exchange.env)
  constructor
  · rintro ⟨p, hp, hvalid⟩
    rw [hp, Option.map_some, hvalid] at heq
    exact Option.map_eq_some_iff.1 heq.symm
  · rintro ⟨read, hread, hvalid⟩
    rw [hread, Option.map_some, hvalid] at heq
    exact Option.map_eq_some_iff.1 heq

/-- A rejected request leaves a new connection to be released. -/
theorem keepConnectionAlive_of_rejected {env : Surroundings} {chunks : List (List UInt8)} {c : HttpConnection}
    {read : Answer × HttpConnection} (hread : c.readChunks settings env chunks = some read)
    (hvalid : read.2.parser.valid = false) : read.2.keepConnectionAlive = c.keepConnectionAlive := by
  have hsame := readChunks_keepConnectionAlive settings env c.keepConnectionAlive chunks c
  rw [hread, Option.map_some, if_neg (by rw [hvalid]; decide)] at hsame
  exact congrArg (fun read : Answer × HttpConnection => read.2.keepConnectionAlive) (Option.some.inj hsame)

/-- A connection that was kept serves a request as a new one does, unless it is rejected. -/
theorem behaviour_kept_iff {c : HttpConnection} (hc : c.Kept settings) (exchange : Exchange) :
    c.behaviour settings exchange = (newConnection settings).behaviour settings exchange ↔ ¬ Rejected settings exchange := by
  rw [rejected_iff]
  unfold behaviour serve
  rw [hc exchange.env, readChunks_keepConnectionAlive]
  cases hread : ((newConnection settings).enter exchange.env).readChunks settings exchange.env exchange.chunks with
  | none => simp
  | some read =>
    simp only [Option.map_some]
    by_cases hvalid : read.2.parser.valid = false
    · have hfresh : read.2.keepConnectionAlive = false := keepConnectionAlive_of_rejected hread hvalid
      rw [if_neg (by rw [hvalid]; decide)]
      unfold onWritten
      simp [hfresh, hvalid]
    · rw [if_pos (by simpa using hvalid)]
      simp [hvalid]

variable (settings)

/-- The requests on a connection are served as on new ones exactly when none behind the first one is rejected: the
connection is kept open then, because the request before it asked for that. -/
theorem likeFresh_iff (exchanges : List Exchange) : LikeFresh settings exchanges ↔
    ∀ before exchange behind, exchanges = before ++ exchange :: behind → before ≠ [] →
      (after settings before (newConnection settings)).isSome → ¬ Rejected settings exchange := by
  have hsettings : (newConnection settings).OfSettings settings := .refl _
  constructor
  · intro hlike before exchange behind heq hbefore hopen
    obtain ⟨c, hc⟩ := Option.isSome_iff_exists.1 hopen
    rcases kept_after hsettings hc with ⟨-, hnil⟩ | hkept
    · exact absurd hnil hbefore
    · exact (behaviour_kept_iff hkept exchange).1 (hlike before exchange behind heq c hc)
  · intro hnone before exchange behind heq c hc
    rcases kept_after hsettings hc with ⟨rfl, -⟩ | hkept
    · rfl
    · by_cases hbefore : before = []
      · rw [hbefore] at hc
        obtain rfl := Option.some.inj hc
        rfl
      · exact (behaviour_kept_iff hkept exchange).2 (hnone before exchange behind heq hbefore (by rw [hc]; rfl))

/-! #### Two requests -/

/-- A connection with small buffers. -/
def smallSettings : ConnectionSettings := ⟨sizeOfText, 64, 64, 2, 2, false⟩

/-- The router answers everything in the same way. -/
def alwaysOk : Surroundings where
  readBufferPool := []
  writeBufferPool := [true]
  remoteEndpoint := none
  addressFromString _ := none
  forward _ _ state := ([asciiBytes "HTTP/1.1 200 OK\r\n\r\n"], state)

/-- A request after which the connection is kept, and then what is no request: on a new connection that is answered and
the connection is released, but behind the first request it is kept. -/
theorem not_likeFresh_rejected : ¬ LikeFresh smallSettings
    [⟨alwaysOk, [asciiBytes "GET / HTTP/1.1\r\nConnection: keep-alive\r\n\r\n"]⟩, ⟨alwaysOk, [asciiBytes "HELLO "]⟩] := by
  intro hlike
  have hrounds : ∀ (bytes : List UInt8) (c : HttpConnection), c.parser.process (onReadBody smallSettings) bytes =
      c.parser.processRounds (onReadBody smallSettings) (3 * bytes.length + 2) bytes := fun bytes c => by
    rw [Parser.process_eq, Parser.processLoop_eq_rounds _ (Parser.work_le _ _)]
  obtain ⟨c, hc⟩ : ∃ c, after smallSettings
      [⟨alwaysOk, [asciiBytes "GET / HTTP/1.1\r\nConnection: keep-alive\r\n\r\n"]⟩] (newConnection smallSettings) =
        some c := by
    unfold after serve
    rw [readChunks_cons _ _ _ _ (hrounds _ _), if_neg (by decide +kernel), if_neg (by decide +kernel), if_pos rfl]
    unfold onWritten
    rw [Option.map_some, if_pos (by decide +kernel)]
    exact ⟨_, rfl⟩
  have hsame := hlike [_] ⟨alwaysOk, [asciiBytes "HELLO "]⟩ [] rfl c hc
  have hread : readByParser smallSettings [asciiBytes "HELLO "] ((newConnection smallSettings).enter alwaysOk).parser =
      some (((newConnection smallSettings).enter alwaysOk).parser.processRounds (onReadBody smallSettings) 20
        (asciiBytes "HELLO ")) := by
    unfold readByParser
    rw [hrounds, if_neg (by decide +kernel), if_pos rfl]
    rfl
  have hsettings : (newConnection smallSettings).OfSettings smallSettings := .refl _
  rcases kept_after hsettings hc with ⟨-, hnil⟩ | hkept
  · cases hnil
  · exact (behaviour_kept_iff hkept _).1 hsame ⟨_, hread, by decide +kernel⟩

end HttpConnection

end Forum.Http
