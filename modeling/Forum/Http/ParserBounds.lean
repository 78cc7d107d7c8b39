import Forum.Http.CookieTrims
import Forum.Http.ParserChunks

/-!
# The buffers of the parser

What the parser writes to the header buffer, and the views it keeps of it, stay inside it: copying checks for room, and
decoding writes where something was read. But there is no check for the number of query pairs and of cookies, and none
in the loops that trim a cookie. `staysInBounds_iff` says when the parser stays in all of its buffers.
-/

namespace Forum.Http

open Forum.Library

namespace Parser

variable {σ : Type*}

/-- The parser did not leave its buffers. -/
structure InBounds (p : Parser σ) : Prop where
  headerSize : p.headerSize ≤ p.headerBufferSize
  writes : ∀ i, .write i ∈ p.accesses → i < p.headerBufferSize
  path : p.request.path.Within p.headerSize
  headers : ∀ name, (p.request.headers name).Within p.headerSize
  queryPairs : ∀ pair ∈ p.request.queryPairs, pair.1.Within p.headerSize ∧ pair.2.Within p.headerSize
  cookies : ∀ cookie ∈ p.request.cookies, cookie.1.Within p.headerSize ∧ cookie.2.Within p.headerSize
  nrOfQueryPairs : p.request.queryPairs.length ≤ HttpRequest.MaxQueryPairs
  nrOfCookies : p.request.cookies.length ≤ HttpRequest.MaxCookies
  trims : ∀ value i, .trim value i ∈ p.accesses → value.Contains i

/-! ### Requests that fit -/

/-- The path that was read has no more pairs than there is room for. -/
def PathFits (p : Parser σ) : Prop :=
  pairsIn .path (View.bytes ⟨p.parsePathStartsAt, (castInt (p.headerSize - p.parsePathStartsAt)).toNat⟩ p.headerBuffer) ≤
    HttpRequest.MaxQueryPairs

instance (p : Parser σ) : Decidable p.PathFits := inferInstanceAs (Decidable (_ ≤ _))

/-- The cookies that were read are no more than there is room for, and the loops that trim them come to something else
than spaces. -/
structure CookiesFit (p : Parser σ) : Prop where
  size : (p.request.headers .Cookie).size < 2 ^ 31
  count : cookiesIn .name (p.header .Cookie) ≤ HttpRequest.MaxCookies
  inside : trimsInside .name true true (p.header .Cookie) = true

instance (p : Parser σ) : Decidable p.CookiesFit :=
  decidable_of_iff ((p.request.headers .Cookie).size < 2 ^ 31 ∧ cookiesIn .name (p.header .Cookie) ≤ HttpRequest.MaxCookies ∧
    trimsInside .name true true (p.header .Cookie) = true) ⟨fun h => ⟨h.1, h.2.1, h.2.2⟩, fun h => ⟨h.size, h.count, h.inside⟩⟩

/-- With this chunk, the header ends. -/
def EndsHeader (buffer : List UInt8) (p : Parser σ) : Prop :=
  p.currentParser = .parseNewLine ∧ buffer.head? = some 10 ∧ p.headerSize < p.headerBufferSize ∧
    p.get (p.headerSize - 1) = 13 ∧ (p.append 10).headerSize > 4 ∧
    (p.append 10).get ((p.append 10).headerSize - 3) = 10 ∧ (p.append 10).get ((p.append 10).headerSize - 4) = 13

instance (buffer : List UInt8) (p : Parser σ) : Decidable (p.EndsHeader buffer) := inferInstanceAs (Decidable (_ ∧ _))

/-- What a round of the loop of `process` is about to interpret fits. -/
structure Fits (buffer : List UInt8) (p : Parser σ) : Prop where
  path : p.currentParser = .parsePath → (copyUntil 32 buffer p).1 = true → (copyUntil 32 buffer p).2.2.PathFits
  cookies : p.EndsHeader buffer → (p.append 10).CookiesFit

instance (buffer : List UInt8) (p : Parser σ) : Decidable (p.Fits buffer) :=
  decidable_of_iff ((p.currentParser = .parsePath → (copyUntil 32 buffer p).1 = true → (copyUntil 32 buffer p).2.2.PathFits) ∧
    (p.EndsHeader buffer → (p.append 10).CookiesFit)) ⟨fun h => ⟨h.1, h.2⟩, fun h => ⟨h.path, h.cookies⟩⟩

/-! ### What holds in every round -/

/-- What holds of a parser that is in bounds, between the rounds. -/
structure Sound (p : Parser σ) : Prop where
  bounds : p.InBounds
  pathStart : p.parsePathStartsAt ≤ p.headerSize
  valueStart : p.parseHeaderValueStartsAt ≤ p.headerSize
  begun : p.currentParser ≠ .parseVerb → 0 < p.headerSize
  inValue : p.currentParser = .parseHeaderValue → 0 < p.parseHeaderValueStartsAt
  cookieStart : (p.request.headers .Cookie).size = 0 ∨ 0 < (p.request.headers .Cookie).start
  noPairs : p.currentParser = .parseVerb ∨ p.currentParser = .parsePath → p.request.queryPairs = []
  noCookies : p.Active → p.currentParser ≠ .parseBody → p.request.cookies = []

/-- A change of what is not about memory. -/
theorem InBounds.transfer {p q : Parser σ} (h : p.InBounds) (hsize : q.headerBufferSize = p.headerBufferSize)
    (hbuffer : q.headerBuffer = p.headerBuffer) (haccesses : q.accesses = p.accesses)
    (hpath : q.request.path = p.request.path) (hheaders : q.request.headers = p.request.headers)
    (hpairs : q.request.queryPairs = p.request.queryPairs) (hcookies : q.request.cookies = p.request.cookies) :
    q.InBounds := by
  have hlength : q.headerSize = p.headerSize := congrArg List.length hbuffer
  constructor
  · rw [hsize, hlength]; exact h.headerSize
  · rw [hsize, haccesses]; exact h.writes
  · rw [hpath, hlength]; exact h.path
  · rw [hheaders, hlength]; exact h.headers
  · rw [hpairs, hlength]; exact h.queryPairs
  · rw [hcookies, hlength]; exact h.cookies
  · rw [hpairs]; exact h.nrOfQueryPairs
  · rw [hcookies]; exact h.nrOfCookies
  · rw [haccesses]; exact h.trims

theorem headerSize_append (c : UInt8) (p : Parser σ) : (p.append c).headerSize = p.headerSize + 1 :=
  List.length_append

/-- A character is copied where there is room for it. -/
theorem InBounds.append {p : Parser σ} (h : p.InBounds) (hroom : p.headerSize < p.headerBufferSize) (c : UInt8) :
    (p.append c).InBounds := by
  have hle : p.headerSize ≤ (p.append c).headerSize := by
    rw [headerSize_append]
    exact Nat.le_succ _
  refine ⟨by rw [headerSize_append]; exact hroom, fun i hi => ?_, h.path.mono hle, fun name => (h.headers name).mono hle,
    fun pair hpair => ⟨(h.queryPairs pair hpair).1.mono hle, (h.queryPairs pair hpair).2.mono hle⟩,
    fun cookie hcookie => ⟨(h.cookies cookie hcookie).1.mono hle, (h.cookies cookie hcookie).2.mono hle⟩,
    h.nrOfQueryPairs, h.nrOfCookies, fun value i hi => ?_⟩
  · rcases List.mem_cons.1 hi with heq | hi
    · obtain rfl : i = p.headerSize := by injection heq
      exact hroom
    · exact h.writes i hi
  · rcases List.mem_cons.1 hi with heq | hi
    · cases heq
    · exact h.trims value i hi

namespace Sound

variable {p : Parser σ}

theorem append (h : p.Sound) (hroom : p.headerSize < p.headerBufferSize) (c : UInt8) : (p.append c).Sound := by
  have hle : p.headerSize ≤ (p.append c).headerSize := by
    rw [headerSize_append]
    exact Nat.le_succ _
  exact ⟨h.bounds.append hroom c, Nat.le_trans h.pathStart hle, Nat.le_trans h.valueStart hle,
    fun hcurrent => Nat.lt_of_lt_of_le (h.begun hcurrent) hle, h.inValue, h.cookieStart, h.noPairs, h.noCookies⟩

/-- An error changes nothing that has to do with memory. -/
theorem invalid (h : p.Sound) {q : Parser σ} (hq : q = { p with valid := q.valid, errorCode := q.errorCode })
    (hvalid : q.valid = false) : q.Sound := by
  refine ⟨h.bounds.transfer ?_ ?_ ?_ ?_ ?_ ?_ ?_, ?_, ?_, ?_, ?_, ?_, ?_, fun hactive => ?_⟩
  all_goals try rw [hq]
  · exact h.pathStart
  · exact h.valueStart
  · exact h.begun
  · exact h.inValue
  · exact h.cookieStart
  · exact h.noPairs
  · exact absurd hactive.1 (by rw [hvalid]; decide)

theorem reject (h : p.Sound) (errorCode : HttpStatusCode) : (p.reject errorCode).Sound := h.invalid rfl rfl

/-- What characters and errors keep, copying keeps. -/
theorem copyUntil (h : p.Sound) (toSearch : UInt8) (buffer : List UInt8) : (copyUntil toSearch buffer p).2.2.Sound := by
  induction buffer generalizing p with
  | nil => exact h
  | cons c buffer ih =>
    unfold Parser.copyUntil
    split_ifs with hfull
    · exact h.reject _
    · exact h.append (Nat.lt_of_not_le hfull) c
    · exact ih (h.append (Nat.lt_of_not_le hfull) c)

end Sound

/-- Where a character was found, it was copied. -/
theorem copyUntil_found (toSearch : UInt8) (buffer : List UInt8) {p : Parser σ}
    (h : (copyUntil toSearch buffer p).1 = true) : 0 < (copyUntil toSearch buffer p).2.2.headerSize := by
  induction buffer generalizing p with
  | nil => cases h
  | cons c buffer ih =>
    unfold copyUntil at h ⊢
    split_ifs at h ⊢
    · rw [headerSize_append]
      exact Nat.succ_pos _
    · exact ih h

/-! ### The states -/

theorem castInt_le (size : ℕ) : (castInt size).toNat ≤ size := by
  unfold castInt
  rw [Int.bmod_def]
  split_ifs <;> omega

theorem within_trimLeadingChar_iff {view : View} {n : ℕ} (toTrim : UInt8) (p : Parser σ) :
    (p.trimLeadingChar view toTrim).Within n ↔ view.Within n := by
  have hle : ((view.bytes p.headerBuffer).takeWhile (· == toTrim)).length ≤ view.size := by
    refine Nat.le_trans (List.takeWhile_prefix _).length_le ?_
    unfold View.bytes
    rw [List.length_take]
    exact Nat.min_le_left _ _
  unfold View.Within trimLeadingChar
  dsimp only
  omega

theorem inBounds_pathInterpreted_iff (p : Parser σ) : p.pathInterpreted.InBounds ↔ p.InBounds := by
  constructor
  · exact fun h => ⟨h.headerSize, h.writes, (within_trimLeadingChar_iff 47 p).1 h.path, h.headers, h.queryPairs, h.cookies,
      h.nrOfQueryPairs, h.nrOfCookies, h.trims⟩
  · exact fun h => ⟨h.headerSize, h.writes, (within_trimLeadingChar_iff 47 p).2 h.path, h.headers, h.queryPairs, h.cookies,
      h.nrOfQueryPairs, h.nrOfCookies, h.trims⟩

/-- What interpreting a path in front of `finish` leaves of a parser that is in bounds. -/
theorem InBounds.readsPath {p q : Parser σ} {finish count : ℕ} (h : p.InBounds) (hread : ReadsPath finish count p q)
    (hfinish : finish ≤ p.headerSize) (hnone : p.request.queryPairs = []) :
    q.InBounds ↔ count ≤ HttpRequest.MaxQueryPairs := by
  obtain ⟨indexes, hindexes, haccesses⟩ := hread.accesses
  obtain ⟨pairs, hpairs, hqueryPairs, rfl⟩ := hread.pairs
  rw [hnone, List.nil_append] at hqueryPairs
  have hsize := hread.interprets.headerSize
  have hbuffer : q.headerBufferSize = p.headerBufferSize := by rw [hread.interprets.same]
  constructor
  · intro hq
    have := hq.nrOfQueryPairs
    rwa [hqueryPairs] at this
  · intro hcount
    refine ⟨by rw [hsize, hbuffer]; exact h.headerSize, fun i hi => ?_, ?_, fun name => ?_, fun pair hpair => ?_, ?_,
      by rw [hqueryPairs]; exact hcount, ?_, fun value i hi => ?_⟩
    · rw [haccesses] at hi
      rw [hbuffer]
      rcases List.mem_append.1 hi with hi | hi
      · obtain ⟨j, hj, heq⟩ := List.mem_map.1 hi
        obtain rfl : j = i := by injection heq
        exact Nat.lt_of_lt_of_le (hindexes j hj) (Nat.le_trans hfinish h.headerSize)
      · exact h.writes i hi
    · rw [hsize]
      rcases hread.path with hpath | hpath
      · rw [hpath]
        exact h.path
      · exact hpath.mono hfinish
    · rw [hsize, hread.same]
      exact h.headers name
    · rw [hqueryPairs] at hpair
      rw [hsize]
      exact ⟨(hpairs pair hpair).1.mono hfinish, (hpairs pair hpair).2.mono hfinish⟩
    · rw [hsize, hread.same]
      exact h.cookies
    · rw [hread.same]
      exact h.nrOfCookies
    · rw [haccesses] at hi
      rcases List.mem_append.1 hi with hi | hi
      · obtain ⟨j, -, heq⟩ := List.mem_map.1 hi
        cases heq
      · exact h.trims value i hi

/-- What interpreting the cookies leaves of a parser that is in bounds. -/
theorem InBounds.readsCookies {p q : Parser σ} {value : View} {count : ℕ} {inside : Prop} (h : p.InBounds)
    (hread : ReadsCookies value (value.start + value.size) count inside p q) (hvalue : value.Within p.headerSize)
    (hnone : p.request.cookies = []) : q.InBounds ↔ count ≤ HttpRequest.MaxCookies ∧ inside := by
  obtain ⟨accesses, hforms, hinside, haccesses⟩ := hread.accesses
  obtain ⟨cookies, hcookies, hrequest, rfl⟩ := hread.cookies
  rw [hnone, List.nil_append] at hrequest
  have hsize := hread.interprets.headerSize
  have hbuffer : q.headerBufferSize = p.headerBufferSize := by rw [hread.interprets.same]
  rw [hinside]
  constructor
  · refine fun hq => ⟨by have := hq.nrOfCookies; rwa [hrequest] at this, fun i hi => hq.trims value i ?_⟩
    rw [haccesses]
    exact List.mem_append_left _ hi
  · rintro ⟨hcount, hall⟩
    refine ⟨by rw [hsize, hbuffer]; exact h.headerSize, fun i hi => ?_, ?_, fun name => ?_, ?_, fun cookie hcookie => ?_,
      ?_, by rw [hrequest]; exact hcount, fun value' i hi => ?_⟩
    · rw [haccesses] at hi
      rw [hbuffer]
      rcases List.mem_append.1 hi with hi | hi
      · rcases hforms _ hi with ⟨j, heq, hj⟩ | ⟨j, heq⟩
        · obtain rfl : i = j := by injection heq
          exact Nat.lt_of_lt_of_le hj (Nat.le_trans hvalue h.headerSize)
        · cases heq
      · exact h.writes i hi
    · rw [hsize, hread.same]
      exact h.path
    · rw [hsize, hread.same]
      exact h.headers name
    · rw [hsize, hread.same]
      exact h.queryPairs
    · rw [hrequest] at hcookie
      rw [hsize]
      exact ⟨(hcookies cookie hcookie).1.mono hvalue, (hcookies cookie hcookie).2.mono hvalue⟩
    · rw [hread.same]
      exact h.nrOfQueryPairs
    · rw [haccesses] at hi
      rcases List.mem_append.1 hi with hi | hi
      · rcases hforms _ hi with ⟨j, heq, -⟩ | ⟨j, heq⟩
        · cases heq
        · obtain rfl : value' = value := by injection heq
          exact hall i hi
      · exact h.trims value' i hi

namespace Sound

variable {p : Parser σ}

theorem verbParsed (h : p.Sound) (hcurrent : p.currentParser = .parseVerb) (hpos : 0 < p.headerSize) :
    p.verbParsed.Sound := by
  unfold Parser.verbParsed
  dsimp only
  split_ifs
  · exact ⟨h.bounds.transfer rfl rfl rfl rfl rfl rfl rfl, h.pathStart, h.valueStart, h.begun, h.inValue, h.cookieStart,
      h.noPairs, fun hactive => absurd hactive.1 Bool.false_ne_true⟩
  · exact ⟨h.bounds.transfer rfl rfl rfl rfl rfl rfl rfl, Nat.le_refl _, h.valueStart, fun _ => hpos,
      fun hnext => ParserFn.noConfusion hnext, h.cookieStart, fun _ => h.noPairs (Or.inl hcurrent),
      fun hactive _ => h.noCookies hactive (by rw [hcurrent]; decide)⟩

/-- The parser that interprets the path. -/
theorem readsPath (h : p.Sound) : ∃ q, p.pathParsed = q.pathInterpreted ∧
    ReadsPath (p.parsePathStartsAt + (castInt (p.headerSize - p.parsePathStartsAt)).toNat)
      (pairsIn .path (View.bytes ⟨p.parsePathStartsAt, (castInt (p.headerSize - p.parsePathStartsAt)).toNat⟩ p.headerBuffer))
      (p.updateRequest ({ · with path := ⟨p.parsePathStartsAt, p.headerSize - p.parsePathStartsAt⟩ })) q :=
  ⟨_, rfl, ReadsPath.interpretPathString (p := p.updateRequest ({ · with path :=
    ⟨p.parsePathStartsAt, p.headerSize - p.parsePathStartsAt⟩ })) rfl
    (Nat.add_le_of_le_sub' h.pathStart (castInt_le (p.headerSize - p.parsePathStartsAt)))⟩

/-- The path is in bounds if it has no more pairs than there is room for. -/
theorem pathParsed_iff (h : p.Sound) (hcurrent : p.currentParser = .parsePath) : p.pathParsed.InBounds ↔ p.PathFits := by
  obtain ⟨q, heq, hread⟩ := h.readsPath
  have hstart := h.pathStart
  have hpath : (⟨p.parsePathStartsAt, p.headerSize - p.parsePathStartsAt⟩ : View).Within p.headerSize := by
    unfold View.Within
    dsimp only
    omega
  have hfirst : (p.updateRequest ({ · with path :=
      ⟨p.parsePathStartsAt, p.headerSize - p.parsePathStartsAt⟩ })).InBounds :=
    ⟨h.bounds.headerSize, h.bounds.writes, hpath, h.bounds.headers, h.bounds.queryPairs, h.bounds.cookies,
      h.bounds.nrOfQueryPairs, h.bounds.nrOfCookies, h.bounds.trims⟩
  rw [heq, inBounds_pathInterpreted_iff]
  exact hfirst.readsPath hread (Nat.add_le_of_le_sub' h.pathStart (castInt_le (p.headerSize - p.parsePathStartsAt)))
    (h.noPairs (Or.inr hcurrent))

theorem pathParsed (h : p.Sound) (hcurrent : p.currentParser = .parsePath) (hfits : p.PathFits) : p.pathParsed.Sound := by
  have hbounds := (h.pathParsed_iff hcurrent).2 hfits
  obtain ⟨q, heq, hread⟩ := h.readsPath
  rw [heq] at hbounds ⊢
  have hsize : q.headerSize = p.headerSize := hread.interprets.headerSize
  have hsame := hread.interprets.same
  have hrequest := hread.same
  refine ⟨hbounds, ?_, ?_, fun _ => ?_, fun hnext => ParserFn.noConfusion hnext, ?_,
    fun hnext => hnext.elim (fun hnext => ParserFn.noConfusion hnext) fun hnext => ParserFn.noConfusion hnext,
    fun hactive _ => ?_⟩
  · show q.parsePathStartsAt ≤ q.headerSize
    rw [hsize, hsame]
    exact h.pathStart
  · show q.parseHeaderValueStartsAt ≤ q.headerSize
    rw [hsize, hsame]
    exact h.valueStart
  · show 0 < q.headerSize
    rw [hsize]
    exact h.begun (by rw [hcurrent]; decide)
  · show (q.request.headers .Cookie).size = 0 ∨ 0 < (q.request.headers .Cookie).start
    rw [hrequest]
    exact h.cookieStart
  · show q.request.cookies = []
    have hp : q.Active := hactive
    rw [hsame] at hp
    rw [hrequest]
    exact h.noCookies hp (by rw [hcurrent]; decide)

theorem versionParsed (h : p.Sound) (hcurrent : p.currentParser = .parseVersion) : p.versionParsed.Sound := by
  have hpos : 0 < p.headerSize := h.begun (by rw [hcurrent]; decide)
  have hcookies : p.Active → p.request.cookies = [] := fun hactive => h.noCookies hactive (by rw [hcurrent]; decide)
  unfold Parser.versionParsed
  dsimp only
  split_ifs
  · exact h.reject _
  · exact h.reject _
  · exact ⟨h.bounds.transfer rfl rfl rfl rfl rfl rfl rfl, h.pathStart, h.valueStart, fun _ => hpos,
      fun hnext => ParserFn.noConfusion hnext, h.cookieStart,
      fun hnext => hnext.elim (fun hnext => ParserFn.noConfusion hnext) fun hnext => ParserFn.noConfusion hnext,
      fun hactive _ => hcookies hactive⟩
  · exact ⟨h.bounds.transfer rfl rfl rfl rfl rfl rfl rfl, h.pathStart, h.valueStart, fun _ => hpos,
      fun hnext => ParserFn.noConfusion hnext, h.cookieStart,
      fun hnext => hnext.elim (fun hnext => ParserFn.noConfusion hnext) fun hnext => ParserFn.noConfusion hnext,
      fun hactive _ => hcookies hactive⟩
  · exact ⟨h.bounds.transfer rfl rfl rfl rfl rfl rfl rfl, h.pathStart, h.valueStart, h.begun, h.inValue, h.cookieStart,
      h.noPairs, fun hactive => absurd hactive.1 Bool.false_ne_true⟩

theorem headerNameParsed (h : p.Sound) (hcurrent : p.currentParser = .parseHeaderName) : p.headerNameParsed.Sound := by
  have hpos : 0 < p.headerSize := h.begun (by rw [hcurrent]; decide)
  exact ⟨h.bounds.transfer rfl rfl rfl rfl rfl rfl rfl, h.pathStart, h.valueStart, fun _ => hpos,
    fun hnext => ParserFn.noConfusion hnext, h.cookieStart,
    fun hnext => hnext.elim (fun hnext => ParserFn.noConfusion hnext) fun hnext => ParserFn.noConfusion hnext,
    fun hactive _ => h.noCookies hactive (by rw [hcurrent]; decide)⟩

/-- A value that is kept begins behind what was read before it. -/
theorem headerValueParsed (h : p.Sound) (hcurrent : p.currentParser = .parseHeaderValue) : p.headerValueParsed.Sound := by
  have hpos : 0 < p.headerSize := h.begun (by rw [hcurrent]; decide)
  have hcookies : p.Active → p.request.cookies = [] := fun hactive => h.noCookies hactive (by rw [hcurrent]; decide)
  have hstart := h.valueStart
  have hvalue : (⟨p.parseHeaderValueStartsAt, p.headerSize - 1 - p.parseHeaderValueStartsAt⟩ : View).Within p.headerSize := by
    unfold View.Within
    dsimp only
    omega
  unfold Parser.headerValueParsed
  dsimp only
  split
  · rename_i name _
    refine ⟨⟨h.bounds.headerSize, h.bounds.writes, h.bounds.path, fun other => ?_, h.bounds.queryPairs, h.bounds.cookies,
      h.bounds.nrOfQueryPairs, h.bounds.nrOfCookies, h.bounds.trims⟩, h.pathStart, h.valueStart, fun _ => hpos,
      fun hnext => ParserFn.noConfusion hnext, ?_,
      fun hnext => hnext.elim (fun hnext => ParserFn.noConfusion hnext) fun hnext => ParserFn.noConfusion hnext,
      fun hactive _ => hcookies hactive⟩
    · show (Function.update p.request.headers name _ other).Within p.headerSize
      by_cases hother : other = name
      · rw [hother, Function.update_self]
        exact hvalue
      · rw [Function.update_of_ne hother]
        exact h.bounds.headers other
    · show (Function.update p.request.headers name _ .Cookie).size = 0 ∨
        0 < (Function.update p.request.headers name _ .Cookie).start
      by_cases hother : HttpHeader.Cookie = name
      · rw [← hother, Function.update_self]
        exact Or.inr (h.inValue hcurrent)
      · rw [Function.update_of_ne hother]
        exact h.cookieStart
  · exact ⟨h.bounds.transfer rfl rfl rfl rfl rfl rfl rfl, h.pathStart, h.valueStart, fun _ => hpos,
      fun hnext => ParserFn.noConfusion hnext, h.cookieStart,
      fun hnext => hnext.elim (fun hnext => ParserFn.noConfusion hnext) fun hnext => ParserFn.noConfusion hnext,
      fun hactive _ => hcookies hactive⟩

/-! #### The end of the header -/

theorem importantHeaders_same (p : Parser σ) : p.importantHeaders.headerBuffer = p.headerBuffer ∧
    p.importantHeaders.request.headers = p.request.headers ∧ p.importantHeaders.request.cookies = p.request.cookies := by
  unfold Parser.importantHeaders
  dsimp only
  split_ifs <;> exact ⟨rfl, rfl, rfl⟩

theorem importantHeaders (h : p.Sound) : p.importantHeaders.Sound := by
  unfold Parser.importantHeaders
  dsimp only
  split_ifs
  · exact ⟨h.bounds.transfer rfl rfl rfl rfl rfl rfl rfl, h.pathStart, h.valueStart, h.begun, h.inValue, h.cookieStart,
      h.noPairs, fun hactive => absurd hactive.1 Bool.false_ne_true⟩
  · exact ⟨h.bounds.transfer rfl rfl rfl rfl rfl rfl rfl, h.pathStart, h.valueStart, h.begun, h.inValue, h.cookieStart,
      h.noPairs, h.noCookies⟩

/-- The parser that interprets the cookies. -/
theorem readsCookies (h : p.Sound) (hsize : (p.request.headers .Cookie).size < 2 ^ 31) :
    ReadsCookies (p.request.headers .Cookie) ((p.request.headers .Cookie).start + (p.request.headers .Cookie).size)
      (cookiesIn .name (p.header .Cookie)) (trimsInside .name true true (p.header .Cookie) = true) p.importantHeaders
      p.onFinishedParsingHeaders := by
  obtain ⟨hbuffer, hheaders, -⟩ := importantHeaders_same p
  have hlength : p.importantHeaders.headerSize = p.headerSize := congrArg List.length hbuffer
  have hread := ReadsCookies.interpretCookies (p := p.importantHeaders) h.cookieStart hsize
    (by rw [hlength]; exact h.bounds.headers _)
  rw [hbuffer] at hread
  unfold Parser.onFinishedParsingHeaders interpretImportantHeaders
  rw [hheaders]
  exact hread

theorem onFinishedParsingHeaders_iff (h : p.Sound) (hsize : (p.request.headers .Cookie).size < 2 ^ 31)
    (hnone : p.request.cookies = []) : p.onFinishedParsingHeaders.InBounds ↔ p.CookiesFit := by
  obtain ⟨hbuffer, -, hcookies⟩ := importantHeaders_same p
  have hlength : p.importantHeaders.headerSize = p.headerSize := congrArg List.length hbuffer
  rw [h.importantHeaders.bounds.readsCookies (h.readsCookies hsize) (by rw [hlength]; exact h.bounds.headers _)
    (hcookies.trans hnone)]
  exact ⟨fun hfits => ⟨hsize, hfits.1, hfits.2⟩, fun hfits => ⟨hfits.count, hfits.inside⟩⟩

end Sound

theorem inBounds_headersParsed_iff (p : Parser σ) : p.headersParsed.InBounds ↔ p.InBounds := by
  unfold headersParsed
  split_ifs <;> exact ⟨fun h => h.transfer rfl rfl rfl rfl rfl rfl rfl, fun h => h.transfer rfl rfl rfl rfl rfl rfl rfl⟩

namespace Sound

variable {p : Parser σ}

theorem headersParsed {q : Parser σ} (hbounds : q.InBounds) (hpathStart : q.parsePathStartsAt ≤ q.headerSize)
    (hvalueStart : q.parseHeaderValueStartsAt ≤ q.headerSize) (hpos : 0 < q.headerSize)
    (hcurrent : q.currentParser = .parseNewLine)
    (hcookieStart : (q.request.headers .Cookie).size = 0 ∨ 0 < (q.request.headers .Cookie).start) :
    q.headersParsed.Sound := by
  have hne : ∀ {current : ParserFn}, current ≠ .parseNewLine → q.currentParser ≠ current := fun h heq =>
    h (heq.symm.trans hcurrent)
  have hbounds' := (inBounds_headersParsed_iff q).2 hbounds
  unfold Parser.headersParsed at hbounds' ⊢
  split_ifs at hbounds' ⊢
  · exact ⟨hbounds', hpathStart, hvalueStart, fun _ => hpos, fun h => absurd h (hne (by decide)), hcookieStart,
      fun h => h.elim (fun h => absurd h (hne (by decide))) fun h => absurd h (hne (by decide)),
      fun hactive => absurd hactive.2 (by simp)⟩
  · exact ⟨hbounds', hpathStart, hvalueStart, fun _ => hpos, fun h => absurd h (hne (by decide)), hcookieStart,
      fun h => h.elim (fun h => absurd h (hne (by decide))) fun h => absurd h (hne (by decide)),
      fun hactive => absurd hactive.1 Bool.false_ne_true⟩
  · exact ⟨hbounds', hpathStart, hvalueStart, fun _ => hpos, fun h => ParserFn.noConfusion h, hcookieStart,
      fun h => h.elim (fun h => ParserFn.noConfusion h) fun h => ParserFn.noConfusion h, fun _ hbody => absurd rfl hbody⟩

/-- The header ends, and what was read of it fits. -/
theorem finished (h : p.Sound) (hcurrent : p.currentParser = .parseNewLine) (hnone : p.request.cookies = [])
    (hfits : p.CookiesFit) : p.onFinishedParsingHeaders.headersParsed.Sound := by
  have hread := h.readsCookies hfits.size
  obtain ⟨hbuffer, hheaders, -⟩ := importantHeaders_same p
  have himportant := h.importantHeaders
  have hsize := hread.interprets.headerSize
  have hsame := hread.interprets.same
  have hcurrent' : p.importantHeaders.currentParser = .parseNewLine := (currentParser_importantHeaders p).trans hcurrent
  refine headersParsed ((h.onFinishedParsingHeaders_iff hfits.size hnone).2 hfits) ?_ ?_ ?_ ?_ ?_
  · rw [hsize, hsame]
    exact himportant.pathStart
  · rw [hsize, hsame]
    exact himportant.valueStart
  · rw [hsize]
    exact himportant.begun (by rw [hcurrent']; decide)
  · rw [currentParser_onFinishedParsingHeaders]
    exact hcurrent
  · rw [hread.same]
    exact himportant.cookieStart

end Sound

/-! ### A round -/

variable (pushBodyBytes : List UInt8 → σ → Bool × σ)

theorem parse_of_endsHeader {p : Parser σ} {buffer : List UInt8} (h : p.EndsHeader buffer) :
    (p.parse pushBodyBytes buffer).2 = (p.append 10).onFinishedParsingHeaders.headersParsed := by
  obtain ⟨hcurrent, hhead, hroom, hreturn, hdone⟩ := h
  obtain ⟨rest, rfl⟩ := List.head?_eq_some_iff.1 hhead
  have hsize := headerSize_append 10 p
  have hnot : ¬ ((10 : UInt8) ≠ 10 ∨ p.headerSize ≥ p.headerBufferSize ∨ p.headerSize < 1 ∨ p.get (p.headerSize - 1) ≠ 13) := by
    rintro (hne | hfull | hempty | hne)
    · exact hne rfl
    · omega
    · omega
    · exact hne hreturn
  simp only [parse, hcurrent, if_neg hnot]
  unfold newLineParsed
  rw [if_pos hdone]

theorem parse_of_found {p : Parser σ} {buffer : List UInt8} (hcurrent : p.currentParser = .parsePath)
    (hfound : (copyUntil 32 buffer p).1 = true) :
    (p.parse pushBodyBytes buffer).2 = (copyUntil 32 buffer p).2.2.pathParsed := by
  have hbuffer : buffer ≠ [] := by
    rintro rfl
    cases hfound
  rw [parse_of_copies pushBodyBytes (by rw [hcurrent]; rfl) hbuffer]
  unfold parseUntil
  split <;> rename_i h <;> rw [h] at hfound ⊢
  cases hfound

namespace Sound

variable {p : Parser σ}

theorem parseUntil (h : p.Sound) {toSearch : UInt8} {parsed : Parser σ → Parser σ} {buffer : List UInt8}
    (hparsed : ∀ q : Parser σ, q.Sound → q.currentParser = p.currentParser → 0 < q.headerSize →
      Parser.copyUntil toSearch buffer p = (true, (Parser.copyUntil toSearch buffer p).2.1, q) → (parsed q).Sound) :
    (parseUntil toSearch parsed buffer p).2.Sound := by
  have hcopy := h.copyUntil toSearch buffer
  have hcurrent := (currentParser_copyUntil toSearch buffer p).1
  have hpos := copyUntil_found toSearch buffer (p := p)
  unfold Parser.parseUntil
  split <;> rename_i heq <;> rw [heq] at hcopy hcurrent hpos
  · exact hparsed _ hcopy hcurrent (hpos rfl) (by rw [heq])
  · exact hcopy

/-- A line feed ends a line, or the header. -/
theorem newLineParsed (h : p.Sound) (hactive : p.Active) (hcurrent : p.currentParser = .parseNewLine)
    {buffer : List UInt8} (hhead : buffer.head? = some 10) (hroom : p.headerSize < p.headerBufferSize)
    (hreturn : p.get (p.headerSize - 1) = 13) (hfits : p.EndsHeader buffer → (p.append 10).CookiesFit) :
    (p.append 10).newLineParsed.Sound := by
  have hnone : p.request.cookies = [] := h.noCookies hactive (by rw [hcurrent]; decide)
  have happend := h.append hroom 10
  have hpos : 0 < (p.append 10).headerSize := by
    rw [headerSize_append]
    exact Nat.succ_pos _
  unfold Parser.newLineParsed
  split_ifs with hdone
  · exact happend.finished hcurrent hnone (hfits ⟨hcurrent, hhead, hroom, hreturn, hdone⟩)
  · exact ⟨happend.bounds.transfer rfl rfl rfl rfl rfl rfl rfl, happend.pathStart, happend.valueStart, fun _ => hpos,
      fun hnext => ParserFn.noConfusion hnext, h.cookieStart,
      fun hnext => hnext.elim (fun hnext => ParserFn.noConfusion hnext) fun hnext => ParserFn.noConfusion hnext,
      fun _ _ => hnone⟩

/-- A round that interprets what fits keeps a parser sound. -/
theorem parse (h : p.Sound) (hactive : p.Active) {buffer : List UInt8} (hfits : p.Fits buffer) :
    (p.parse pushBodyBytes buffer).2.Sound := by
  cases buffer with
  | nil =>
    rw [parse_nil]
    exact h
  | cons c buffer =>
    have hbuffer : c :: buffer ≠ [] := List.cons_ne_nil c buffer
    cases hcurrent : p.currentParser with
    | parseVerb =>
      rw [parse_of_copies pushBodyBytes (by rw [hcurrent]; rfl) hbuffer]
      exact h.parseUntil fun q hq hsame hpos _ => hq.verbParsed (hsame.trans hcurrent) hpos
    | parsePath =>
      rw [parse_of_copies pushBodyBytes (by rw [hcurrent]; rfl) hbuffer]
      refine h.parseUntil fun q hq hsame _ hfound => hq.pathParsed (hsame.trans hcurrent) ?_
      have hpath := hfits.path hcurrent (by rw [hfound])
      rwa [hfound] at hpath
    | parseVersion =>
      rw [parse_of_copies pushBodyBytes (by rw [hcurrent]; rfl) hbuffer]
      exact h.parseUntil fun q hq hsame _ _ => hq.versionParsed (hsame.trans hcurrent)
    | parseNewLine =>
      have hcookies := hfits.cookies
      simp only [Parser.parse, hcurrent]
      split_ifs with hrefused
      · exact h.reject _
      · have hhead : (c :: buffer).head? = some 10 := by
          by_contra hne
          exact hrefused (Or.inl fun hc => hne (by rw [hc]; rfl))
        exact h.newLineParsed hactive hcurrent hhead (by by_contra hfull; exact hrefused (Or.inr (Or.inl (by omega))))
          (by by_contra hne; exact hrefused (Or.inr (Or.inr (Or.inr hne)))) hcookies
    | parseHeaderName =>
      have hpos : 0 < p.headerSize := h.begun (by rw [hcurrent]; decide)
      simp only [Parser.parse, hcurrent]
      split_ifs with hreturn hfull
      · exact h.reject _
      · have happend := h.append (Nat.lt_of_not_le hfull) 13
        exact ⟨happend.bounds.transfer rfl rfl rfl rfl rfl rfl rfl, happend.pathStart, happend.valueStart,
          fun _ => by show 0 < (p.append 13).headerSize; rw [headerSize_append]; exact Nat.succ_pos _,
          fun hnext => ParserFn.noConfusion hnext, h.cookieStart,
          fun hnext => hnext.elim (fun hnext => ParserFn.noConfusion hnext) fun hnext => ParserFn.noConfusion hnext,
          fun hactive _ => h.noCookies hactive (by rw [hcurrent]; decide)⟩
      · exact h.parseUntil fun q hq hsame _ _ => hq.headerNameParsed (hsame.trans hcurrent)
    | parseHeaderSpacing =>
      have hpos : 0 < p.headerSize := h.begun (by rw [hcurrent]; decide)
      simp only [Parser.parse, hcurrent]
      split
      · exact h
      · exact ⟨h.bounds.transfer rfl rfl rfl rfl rfl rfl rfl, h.pathStart, Nat.le_refl _, fun _ => hpos, fun _ => hpos,
          h.cookieStart,
          fun hnext => hnext.elim (fun hnext => ParserFn.noConfusion hnext) fun hnext => ParserFn.noConfusion hnext,
          fun hactive _ => h.noCookies hactive (by rw [hcurrent]; decide)⟩
    | parseHeaderValue =>
      rw [parse_of_copies pushBodyBytes (by rw [hcurrent]; rfl) hbuffer]
      exact h.parseUntil fun q hq hsame _ _ => hq.headerValueParsed (hsame.trans hcurrent)
    | parseBody =>
      rw [parse_body pushBodyBytes hcurrent hbuffer]
      split_ifs
      · exact h.reject _
      · exact ⟨h.bounds.transfer rfl rfl rfl rfl rfl rfl rfl, h.pathStart, h.valueStart, h.begun, h.inValue, h.cookieStart,
          h.noPairs, fun _ hbody => absurd hcurrent hbody⟩

/-- A round that leaves the parser in bounds interpreted what fits. -/
theorem fits (h : p.Sound) (hactive : p.Active) (hsize : p.headerBufferSize < 2 ^ 31) {buffer : List UInt8}
    (hbounds : (p.parse pushBodyBytes buffer).2.InBounds) : p.Fits buffer := by
  constructor
  · intro hcurrent hfound
    rw [parse_of_found pushBodyBytes hcurrent hfound] at hbounds
    exact ((h.copyUntil 32 buffer).pathParsed_iff ((currentParser_copyUntil 32 buffer p).1.trans hcurrent)).1 hbounds
  · intro hends
    rw [parse_of_endsHeader pushBodyBytes hends, inBounds_headersParsed_iff] at hbounds
    obtain ⟨hcurrent, -, hroom, -⟩ := hends
    have happend := h.append hroom 10
    have hwithin := happend.bounds.headers .Cookie
    have hle := happend.bounds.headerSize
    have hcookie : ((p.append 10).request.headers .Cookie).size < 2 ^ 31 := by
      unfold View.Within at hwithin
      have hsame : (p.append 10).headerBufferSize = p.headerBufferSize := rfl
      omega
    exact (happend.onFinishedParsingHeaders_iff hcookie (h.noCookies hactive (by rw [hcurrent]; decide))).1 hbounds

end Sound

/-! ### Runs -/

/-- The rounds of the loop of `process`: what is left of the chunk, and the parser. -/
def roundsOf : ℕ → List UInt8 → Parser σ → List (List UInt8 × Parser σ)
  | 0, _, _ => []
  | rounds + 1, buffer, p =>
    if buffer ≠ [] ∧ p.Active then
      (buffer, p) :: roundsOf rounds (p.parse pushBodyBytes buffer).1 (p.parse pushBodyBytes buffer).2
    else []

/-- The rounds when a request comes in these chunks. Every call has as many as there is work for it. -/
def runRounds : List (List UInt8) → Parser σ → List (List UInt8 × Parser σ)
  | [], _ => []
  | chunk :: chunks, p => roundsOf pushBodyBytes (p.work chunk) chunk p ++ runRounds chunks (p.process pushBodyBytes chunk)

/-- The loop of `process` ends. -/
inductive Terminates : List UInt8 → Parser σ → Prop
  | intro (buffer : List UInt8) (p : Parser σ)
      (next : buffer ≠ [] → p.Active → Terminates (p.parse pushBodyBytes buffer).1 (p.parse pushBodyBytes buffer).2) :
      Terminates buffer p

theorem terminates (buffer : List UInt8) (p : Parser σ) : Terminates pushBodyBytes buffer p := by
  induction hwork : p.work buffer using Nat.strongRecOn generalizing buffer p with
  | _ n ih => exact .intro buffer p fun hbuffer hactive => ih _ (hwork ▸ work_parse_lt pushBodyBytes hbuffer hactive.1) _ _ rfl

/-- The parser stays in its buffers while a request comes in these chunks, and every call ends. -/
structure StaysInBounds (chunks : List (List UInt8)) (p : Parser σ) : Prop where
  start : p.InBounds
  rounds : ∀ round ∈ runRounds pushBodyBytes chunks p, (round.2.parse pushBodyBytes round.1).2.InBounds
  terminates : ∀ chunk ∈ chunks, ∀ q : Parser σ, Terminates pushBodyBytes chunk q

variable {pushBodyBytes}

theorem Sound.roundsOf {rounds : ℕ} {buffer : List UInt8} {p : Parser σ} (h : p.Sound)
    (hfits : ∀ round ∈ roundsOf pushBodyBytes rounds buffer p, round.2.Fits round.1) :
    (∀ round ∈ Parser.roundsOf pushBodyBytes rounds buffer p, (round.2.parse pushBodyBytes round.1).2.InBounds) ∧
      (processRounds pushBodyBytes rounds buffer p).Sound := by
  induction rounds generalizing buffer p with
  | zero => exact ⟨fun round hround => absurd hround List.not_mem_nil, h⟩
  | succ rounds ih =>
    unfold Parser.roundsOf at hfits ⊢
    unfold processRounds
    split_ifs at hfits ⊢ with hgo
    · have hnext := h.parse pushBodyBytes hgo.2 (hfits _ List.mem_cons_self)
      obtain ⟨hrounds, hsound⟩ := ih hnext fun round hround => hfits round (List.mem_cons_of_mem _ hround)
      refine ⟨fun round hround => ?_, hsound⟩
      rcases List.mem_cons.1 hround with rfl | hround
      · exact hnext.bounds
      · exact hrounds round hround
    · exact ⟨fun round hround => absurd hround List.not_mem_nil, h⟩

theorem Sound.runRounds {chunks : List (List UInt8)} {p : Parser σ} (h : p.Sound)
    (hfits : ∀ round ∈ runRounds pushBodyBytes chunks p, round.2.Fits round.1) :
    ∀ round ∈ Parser.runRounds pushBodyBytes chunks p, (round.2.parse pushBodyBytes round.1).2.InBounds := by
  induction chunks generalizing p with
  | nil => exact fun round hround => absurd hround List.not_mem_nil
  | cons chunk chunks ih =>
    unfold Parser.runRounds at hfits ⊢
    rw [List.forall_mem_append] at hfits ⊢
    obtain ⟨hrounds, hsound⟩ := h.roundsOf hfits.1
    have hprocess : p.process pushBodyBytes chunk = processRounds pushBodyBytes (p.work chunk) chunk p := by
      rw [process_eq, processLoop_eq_rounds pushBodyBytes (Nat.le_refl _)]
    rw [hprocess] at hfits ⊢
    exact ⟨hrounds, ih hsound hfits.2⟩

/-- Where the rounds leave the parser in bounds, what they interpret fits. -/
theorem Sound.fits_roundsOf {rounds : ℕ} {buffer : List UInt8} {p : Parser σ} (h : p.Sound)
    (hsize : p.headerBufferSize < 2 ^ 31) (hbounds : ∀ round ∈ Parser.roundsOf pushBodyBytes rounds buffer p,
      (round.2.parse pushBodyBytes round.1).2.InBounds) :
    ∀ round ∈ Parser.roundsOf pushBodyBytes rounds buffer p, round.2.Fits round.1 := by
  induction rounds generalizing buffer p with
  | zero => exact fun round hround => absurd hround List.not_mem_nil
  | succ rounds ih =>
    unfold Parser.roundsOf at hbounds ⊢
    split_ifs at hbounds ⊢ with hgo
    · have hfits := h.fits pushBodyBytes hgo.2 hsize (hbounds _ List.mem_cons_self)
      intro round hround
      rcases List.mem_cons.1 hround with rfl | hround
      · exact hfits
      · have hsame := (sameConstants_parse pushBodyBytes buffer p).headerBufferSize
        exact ih (h.parse pushBodyBytes hgo.2 hfits) (hsame ▸ hsize)
          (fun round hround => hbounds round (List.mem_cons_of_mem _ hround)) round hround
    · exact fun round hround => absurd hround List.not_mem_nil

theorem Sound.fits_runRounds {chunks : List (List UInt8)} {p : Parser σ} (h : p.Sound)
    (hsize : p.headerBufferSize < 2 ^ 31) (hbounds : ∀ round ∈ Parser.runRounds pushBodyBytes chunks p,
      (round.2.parse pushBodyBytes round.1).2.InBounds) :
    ∀ round ∈ Parser.runRounds pushBodyBytes chunks p, round.2.Fits round.1 := by
  induction chunks generalizing p with
  | nil => exact fun round hround => absurd hround List.not_mem_nil
  | cons chunk chunks ih =>
    unfold Parser.runRounds at hbounds ⊢
    rw [List.forall_mem_append] at hbounds ⊢
    have hfits := h.fits_roundsOf hsize hbounds.1
    have hprocess : p.process pushBodyBytes chunk = processRounds pushBodyBytes (p.work chunk) chunk p := by
      rw [process_eq, processLoop_eq_rounds pushBodyBytes (Nat.le_refl _)]
    rw [hprocess] at hbounds ⊢
    have hsame := (sameConstants_processRounds pushBodyBytes (work chunk p) chunk p).headerBufferSize
    exact ⟨hfits, ih (h.roundsOf hfits).2 (hsame ▸ hsize) hbounds.2⟩

/-! ### The buffers -/

variable (pushBodyBytes)

/-- A new parser. -/
def newParser (tryLexicalConvert : List UInt8 → Option ℕ) (headerBufferSize maxContentLength : ℕ)
    (pushBodyBytesState : σ) : Parser σ :=
  { tryLexicalConvert, headerBufferSize, maxContentLength, pushBodyBytesState }

theorem sound_newParser (tryLexicalConvert : List UInt8 → Option ℕ) (headerBufferSize maxContentLength : ℕ)
    (pushBodyBytesState : σ) :
    (newParser tryLexicalConvert headerBufferSize maxContentLength pushBodyBytesState).Sound where
  bounds := ⟨Nat.zero_le _, fun _ h => absurd h List.not_mem_nil, View.within_empty 0, fun _ => View.within_empty 0,
    fun _ h => absurd h List.not_mem_nil, fun _ h => absurd h List.not_mem_nil, Nat.zero_le _, Nat.zero_le _,
    fun _ _ h => absurd h List.not_mem_nil⟩
  pathStart := Nat.le_refl 0
  valueStart := Nat.le_refl 0
  begun h := absurd rfl h
  inValue h := ParserFn.noConfusion h
  cookieStart := Or.inl rfl
  noPairs _ := rfl
  noCookies _ _ := rfl

/-- In any chunks, the parser stays in its buffers if the path has no more pairs and the cookies are no more than there is
room for, and if the cookies can be trimmed. With a header buffer of less than two gigabytes it does not otherwise. -/
theorem staysInBounds_iff (tryLexicalConvert : List UInt8 → Option ℕ) (headerBufferSize maxContentLength : ℕ)
    (pushBodyBytesState : σ) (chunks : List (List UInt8)) :
    ((∀ round ∈ runRounds pushBodyBytes chunks
          (newParser tryLexicalConvert headerBufferSize maxContentLength pushBodyBytesState),
        round.2.Fits round.1) →
      StaysInBounds pushBodyBytes chunks (newParser tryLexicalConvert headerBufferSize maxContentLength pushBodyBytesState)) ∧
    (headerBufferSize < 2 ^ 31 →
      StaysInBounds pushBodyBytes chunks (newParser tryLexicalConvert headerBufferSize maxContentLength pushBodyBytesState) →
      ∀ round ∈ runRounds pushBodyBytes chunks
          (newParser tryLexicalConvert headerBufferSize maxContentLength pushBodyBytesState),
        round.2.Fits round.1) := by
  have hsound := sound_newParser tryLexicalConvert headerBufferSize maxContentLength pushBodyBytesState
  exact ⟨fun hfits => ⟨hsound.bounds, hsound.runRounds hfits, fun _ _ q => terminates pushBodyBytes _ q⟩,
    fun hsize hstays => hsound.fits_runRounds hsize hstays.rounds⟩

/-- A request with a query and with cookies, in two chunks. -/
theorem staysInBounds_get : StaysInBounds (fun _ s => (true, s))
    [asciiBytes "GET /?a=b&c=%20d HTTP/1.1\r\nCookie: ", asciiBytes "a = b; c=d;\r\n\r\n"] (newParser sizeOfText 64 64 ()) :=
  (staysInBounds_iff _ sizeOfText 64 64 () _).1 (by
    simp only [runRounds, process_eq, processLoop_eq_rounds _ (work_le _ _)]
    decide +kernel)

/-- Three requests with which it leaves them: with too many pairs, with too many cookies, and with a name that is blank. -/
theorem not_staysInBounds_blankName :
    ¬ StaysInBounds (fun _ s => (true, s))
        [asciiBytes "GET /?" ++ (List.replicate 65 (asciiBytes "a=b&")).flatten ++ asciiBytes " "]
        (newParser sizeOfText 512 64 ()) ∧
      ¬ StaysInBounds (fun _ s => (true, s))
        [asciiBytes "GET / HTTP/1.1\r\nCookie: " ++ (List.replicate 33 (asciiBytes "a=b;")).flatten ++
          asciiBytes "\r\n\r\n"] (newParser sizeOfText 512 64 ()) ∧
      ¬ StaysInBounds (fun _ s => (true, s)) [asciiBytes "GET / HTTP/1.1\r\nCookie: =b\r\n\r\n"]
        (newParser sizeOfText 512 64 ()) := by
  have hfits : ∀ {chunks : List (List UInt8)},
      StaysInBounds (fun _ s => (true, s)) chunks (newParser sizeOfText 512 64 ()) →
      ∀ round ∈ runRounds (fun _ s => (true, s)) chunks (newParser sizeOfText 512 64 ()), round.2.Fits round.1 := fun hstays =>
    (sound_newParser sizeOfText 512 64 ()).fits_runRounds (by decide) hstays.rounds
  refine ⟨fun hstays => ?_, fun hstays => ?_, fun hstays => ?_⟩
  all_goals
    have hall := hfits hstays
    revert hall
    decide +kernel

end Parser

end Forum.Http
