import Forum.Http.HttpParser

/-!
# What the states of the parser change

The path and the cookies are interpreted where they are in the header buffer: that changes the buffer and the request,
and nothing else of the parser. A state other than that of the body leaves the body alone.
-/

namespace Forum.Http

namespace Parser

variable {σ : Type*}

/-- Between `p` and `q`, only what was read was interpreted. -/
structure Interprets (p q : Parser σ) : Prop where
  same : q = { p with headerBuffer := q.headerBuffer, request := q.request, accesses := q.accesses }
  headerSize : q.headerSize = p.headerSize

namespace Interprets

theorem refl (p : Parser σ) : Interprets p p := ⟨rfl, rfl⟩

theorem trans {p q r : Parser σ} (hpq : Interprets p q) (hqr : Interprets q r) : Interprets p r :=
  ⟨by rw [hqr.same, hpq.same], hqr.headerSize.trans hpq.headerSize⟩

/-- A change of the request only. -/
theorem updateRequest (change : HttpRequest → HttpRequest) (p : Parser σ) : Interprets p (p.updateRequest change) :=
  ⟨rfl, rfl⟩

theorem set (index : ℕ) (c : UInt8) (p : Parser σ) : Interprets p (p.set index c) := ⟨rfl, List.length_set⟩

theorem decodeUrlEncodingInPlace (source destination size : ℕ) (p : Parser σ) :
    Interprets p (p.decodeUrlEncodingInPlace source destination size).2 := by
  fun_induction Parser.decodeUrlEncodingInPlace source destination size p with
  | case1 => exact refl _
  | case2 _ _ _ _ _ _ _ ih => exact (set _ _ _).trans ih
  | case3 => exact refl _
  | case4 _ _ _ _ _ _ ih => exact (set _ _ _).trans ih

theorem viewAfterDecodingUrlEncodingInPlace (start size : ℕ) (p : Parser σ) :
    Interprets p (p.viewAfterDecodingUrlEncodingInPlace start size).2 :=
  decodeUrlEncodingInPlace start start size p

theorem viewBetween (start finish : ℕ) (p : Parser σ) : Interprets p (p.viewBetween start finish).2 := by
  unfold Parser.viewBetween
  split_ifs
  · exact viewAfterDecodingUrlEncodingInPlace _ _ p
  · exact refl p

theorem interpretPathCharacter (i n : ℕ) (l : PathLoop) (p : Parser σ) :
    Interprets p (p.interpretPathCharacter i n l).2 := by
  unfold Parser.interpretPathCharacter
  dsimp only
  split <;> split_ifs <;> dsimp only
  · exact (viewAfterDecodingUrlEncodingInPlace p.parsePathStartsAt i p).trans (updateRequest _ _)
  · exact refl p
  · exact refl p
  · exact refl p
  · exact ((viewBetween _ _ p).trans (viewBetween _ _ _)).trans (updateRequest _ _)
  · exact refl p

theorem interpretPathLoop (n remaining : ℕ) (l : PathLoop) (p : Parser σ) :
    Interprets p (p.interpretPathLoop n remaining l) := by
  induction remaining generalizing l p with
  | zero => exact refl p
  | succ remaining ih => exact (interpretPathCharacter _ n l p).trans (ih _ _)

theorem interpretPathString (p : Parser σ) : Interprets p p.interpretPathString := interpretPathLoop _ _ _ p

theorem trimStart (value : View) (start : ℕ) (p : Parser σ) : Interprets p (p.trimStart value start).2 := ⟨rfl, rfl⟩

theorem trimEnd (value : View) (finish : ℕ) (p : Parser σ) : Interprets p (p.trimEnd value finish).2 := ⟨rfl, rfl⟩

theorem addCookie (name value : View) (p : Parser σ) : Interprets p (p.addCookie name value) := updateRequest _ p

theorem interpretCookieCharacter (value : View) (i finish : ℕ) (l : CookieLoop) (p : Parser σ) :
    Interprets p (p.interpretCookieCharacter value i finish l).2 := by
  unfold Parser.interpretCookieCharacter
  dsimp only
  split <;> split_ifs <;> dsimp only
  · exact refl p
  · exact (((trimStart value _ p).trans (trimEnd value _ _)).trans (viewBetween _ _ _)).trans (addCookie _ _ _)
  · exact (((trimStart value _ p).trans (trimEnd value _ _)).trans (viewBetween _ _ _)).trans (addCookie _ _ _)
  · exact refl p
  · exact ((((trimStart value _ p).trans (trimEnd value _ _)).trans ((trimStart value _ _).trans
      (trimEnd value _ _))).trans ((viewBetween _ _ _).trans (viewBetween _ _ _))).trans (addCookie _ _ _)
  · exact ((((trimStart value _ p).trans (trimEnd value _ _)).trans ((trimStart value _ _).trans
      (trimEnd value _ _))).trans ((viewBetween _ _ _).trans (viewBetween _ _ _))).trans (addCookie _ _ _)
  · exact refl p

theorem interpretCookieLoop (value : View) (finish remaining : ℕ) (l : CookieLoop) (p : Parser σ) :
    Interprets p (p.interpretCookieLoop value finish remaining l) := by
  induction remaining generalizing l p with
  | zero => exact refl p
  | succ remaining ih => exact (interpretCookieCharacter value _ finish l p).trans (ih _ _)

theorem interpretCookies (value : View) (p : Parser σ) : Interprets p (p.interpretCookies value) :=
  interpretCookieLoop value _ _ _ p

end Interprets

/-- What a parser is constructed with is the same. -/
structure SameConstants (p q : Parser σ) : Prop where
  tryLexicalConvert : q.tryLexicalConvert = p.tryLexicalConvert
  headerBufferSize : q.headerBufferSize = p.headerBufferSize
  maxContentLength : q.maxContentLength = p.maxContentLength

theorem SameConstants.refl (p : Parser σ) : SameConstants p p := ⟨rfl, rfl, rfl⟩

theorem SameConstants.trans {p q r : Parser σ} (hpq : SameConstants p q) (hqr : SameConstants q r) : SameConstants p r :=
  ⟨hqr.tryLexicalConvert.trans hpq.tryLexicalConvert, hqr.headerBufferSize.trans hpq.headerBufferSize,
    hqr.maxContentLength.trans hpq.maxContentLength⟩

/-- Between `p` and `q`, no byte of the body was processed. -/
structure KeepsBody (p q : Parser σ) : Prop extends SameConstants p q where
  pushBodyBytesState : q.pushBodyBytesState = p.pushBodyBytesState
  requestBodyBytesProcessed : q.requestBodyBytesProcessed = p.requestBodyBytesProcessed

namespace KeepsBody

theorem refl (p : Parser σ) : KeepsBody p p := ⟨⟨rfl, rfl, rfl⟩, rfl, rfl⟩

theorem trans {p q r : Parser σ} (hpq : KeepsBody p q) (hqr : KeepsBody q r) : KeepsBody p r :=
  ⟨hpq.toSameConstants.trans hqr.toSameConstants, hqr.pushBodyBytesState.trans hpq.pushBodyBytesState,
    hqr.requestBodyBytesProcessed.trans hpq.requestBodyBytesProcessed⟩

theorem append (c : UInt8) (p : Parser σ) : KeepsBody p (p.append c) := ⟨⟨rfl, rfl, rfl⟩, rfl, rfl⟩

theorem reject (errorCode : HttpStatusCode) (p : Parser σ) : KeepsBody p (p.reject errorCode) := ⟨⟨rfl, rfl, rfl⟩, rfl, rfl⟩

end KeepsBody

theorem Interprets.keepsBody {p q : Parser σ} (h : Interprets p q) : KeepsBody p q := by
  rw [h.same]
  exact ⟨⟨rfl, rfl, rfl⟩, rfl, rfl⟩

theorem Interprets.currentParser {p q : Parser σ} (h : Interprets p q) : q.currentParser = p.currentParser := by
  rw [h.same]

theorem Interprets.parsePathStartsAt {p q : Parser σ} (h : Interprets p q) : q.parsePathStartsAt = p.parsePathStartsAt := by
  rw [h.same]

theorem Interprets.active_iff {p q : Parser σ} (h : Interprets p q) : q.Active ↔ p.Active := by
  unfold Active
  rw [h.same]

theorem keepsBody_importantHeaders (p : Parser σ) : KeepsBody p p.importantHeaders := by
  unfold importantHeaders
  dsimp only
  split_ifs <;> exact ⟨⟨rfl, rfl, rfl⟩, rfl, rfl⟩

theorem keepsBody_onFinishedParsingHeaders (p : Parser σ) : KeepsBody p p.onFinishedParsingHeaders := by
  unfold onFinishedParsingHeaders interpretImportantHeaders
  exact (keepsBody_importantHeaders p).trans (Interprets.interpretCookies _ _).keepsBody

theorem keepsBody_verbParsed (p : Parser σ) : KeepsBody p p.verbParsed := by
  unfold verbParsed
  dsimp only
  split_ifs <;> exact ⟨⟨rfl, rfl, rfl⟩, rfl, rfl⟩

theorem keepsBody_pathInterpreted (p : Parser σ) : KeepsBody p p.pathInterpreted := ⟨⟨rfl, rfl, rfl⟩, rfl, rfl⟩

theorem keepsBody_pathParsed (p : Parser σ) : KeepsBody p p.pathParsed :=
  ((Interprets.updateRequest _ p).trans (.interpretPathString _)).keepsBody.trans (keepsBody_pathInterpreted _)

theorem keepsBody_versionParsed (p : Parser σ) : KeepsBody p p.versionParsed := by
  unfold versionParsed
  dsimp only
  split_ifs <;> exact ⟨⟨rfl, rfl, rfl⟩, rfl, rfl⟩

theorem keepsBody_headerNameParsed (p : Parser σ) : KeepsBody p p.headerNameParsed := ⟨⟨rfl, rfl, rfl⟩, rfl, rfl⟩

theorem keepsBody_headerValueParsed (p : Parser σ) : KeepsBody p p.headerValueParsed := by
  unfold headerValueParsed
  dsimp only
  split <;> exact ⟨⟨rfl, rfl, rfl⟩, rfl, rfl⟩

theorem keepsBody_headersParsed (p : Parser σ) : KeepsBody p p.headersParsed := by
  unfold headersParsed
  split_ifs <;> exact ⟨⟨rfl, rfl, rfl⟩, rfl, rfl⟩

/-- A state that copies up to a character leaves the body alone behind it. -/
theorem keepsBody_of_copies {current : ParserFn} {toSearch : UInt8} {parsed : Parser σ → Parser σ}
    (h : copies current = some (toSearch, parsed)) (p : Parser σ) : KeepsBody p (parsed p) := by
  cases current <;> cases h
  · exact keepsBody_verbParsed p
  · exact keepsBody_pathParsed p
  · exact keepsBody_versionParsed p
  · exact keepsBody_headerValueParsed p

theorem keepsBody_newLineParsed (p : Parser σ) : KeepsBody p p.newLineParsed := by
  unfold newLineParsed
  split_ifs
  · exact (keepsBody_onFinishedParsingHeaders p).trans (keepsBody_headersParsed _)
  · exact ⟨⟨rfl, rfl, rfl⟩, rfl, rfl⟩

theorem keepsBody_parseUntil {parsed : Parser σ → Parser σ} (hparsed : ∀ p, KeepsBody p (parsed p)) (toSearch : UInt8)
    (buffer : List UInt8) (p : Parser σ) : KeepsBody p (parseUntil toSearch parsed buffer p).2 := by
  have hcopy : KeepsBody p (copyUntil toSearch buffer p).2.2 := by
    induction buffer generalizing p with
    | nil => exact .refl p
    | cons c buffer ih =>
      unfold copyUntil
      split_ifs
      · exact .reject _ p
      · exact .append c p
      · exact (KeepsBody.append c p).trans (ih _)
  unfold parseUntil
  split <;> rename_i h <;> rw [h] at hcopy
  · exact hcopy.trans (hparsed _)
  · exact hcopy

/-! ### The next state -/

theorem currentParser_copyUntil (toSearch : UInt8) (buffer : List UInt8) (p : Parser σ) :
    (copyUntil toSearch buffer p).2.2.currentParser = p.currentParser ∧
      (copyUntil toSearch buffer p).2.2.parseHeaderNameStartsAt = p.parseHeaderNameStartsAt ∧
      p.headerSize ≤ (copyUntil toSearch buffer p).2.2.headerSize := by
  induction buffer generalizing p with
  | nil => exact ⟨rfl, rfl, Nat.le_refl _⟩
  | cons c buffer ih =>
    have happend : p.headerSize ≤ (p.append c).headerSize := by
      show _ ≤ (p.headerBuffer ++ [c]).length
      rw [List.length_append]
      exact Nat.le_add_right _ _
    unfold copyUntil
    split_ifs
    · exact ⟨rfl, rfl, Nat.le_refl _⟩
    · exact ⟨rfl, rfl, happend⟩
    · obtain ⟨hcurrent, hstarts, hle⟩ := ih (p.append c)
      exact ⟨hcurrent, hstarts, Nat.le_trans happend hle⟩

theorem currentParser_verbParsed (p : Parser σ) :
    p.verbParsed.currentParser = p.currentParser ∨ p.verbParsed.currentParser = .parsePath := by
  unfold verbParsed
  dsimp only
  split_ifs
  · exact Or.inl rfl
  · exact Or.inr rfl

theorem currentParser_versionParsed (p : Parser σ) :
    p.versionParsed.currentParser = p.currentParser ∨ p.versionParsed.currentParser = .parseNewLine := by
  unfold versionParsed
  dsimp only
  split_ifs
  all_goals first
    | exact Or.inl rfl
    | exact Or.inr rfl

theorem currentParser_headerValueParsed (p : Parser σ) : p.headerValueParsed.currentParser = .parseNewLine := by
  unfold headerValueParsed
  dsimp only
  split <;> rfl

theorem currentParser_importantHeaders (p : Parser σ) : p.importantHeaders.currentParser = p.currentParser := by
  unfold importantHeaders
  dsimp only
  split_ifs <;> rfl

theorem currentParser_onFinishedParsingHeaders (p : Parser σ) :
    p.onFinishedParsingHeaders.currentParser = p.currentParser := by
  unfold onFinishedParsingHeaders interpretImportantHeaders
  exact (Interprets.interpretCookies _ _).currentParser.trans (currentParser_importantHeaders p)

theorem currentParser_headersParsed {p : Parser σ} (h : p.currentParser ≠ .parseHeaderName) :
    p.headersParsed.currentParser ≠ .parseHeaderName := by
  unfold headersParsed
  split_ifs
  · exact h
  · exact h
  · exact ParserFn.noConfusion

theorem currentParser_pathParsed (p : Parser σ) : p.pathParsed.currentParser = .parseVersion := rfl

theorem currentParser_headerNameParsed (p : Parser σ) : p.headerNameParsed.currentParser = .parseHeaderSpacing := rfl

/-- A state that copies up to a character goes to one that comes before the next line. -/
theorem currentParser_of_copies {current : ParserFn} {toSearch : UInt8} {parsed : Parser σ → Parser σ}
    (h : copies current = some (toSearch, parsed)) {p : Parser σ} (hp : p.currentParser = current) :
    (parsed p).currentParser ≠ .parseHeaderName ∧ (parsed p).currentParser ≠ .parseBody := by
  cases current <;> cases h
  · rcases currentParser_verbParsed p with heq | heq <;> rw [heq]
    · rw [hp]
      decide
    · decide
  · rw [currentParser_pathParsed]
    decide
  · rcases currentParser_versionParsed p with heq | heq <;> rw [heq]
    · rw [hp]
      decide
    · decide
  · rw [currentParser_headerValueParsed]
    decide

variable (pushBodyBytes : List UInt8 → σ → Bool × σ)

@[simp] theorem parse_nil (p : Parser σ) : p.parse pushBodyBytes [] = ([], p) := by
  unfold parse
  cases p.currentParser <;> rfl

/-- Only the state of the body processes bytes of the body. -/
theorem keepsBody_parse {p : Parser σ} (hbody : p.currentParser ≠ .parseBody) (buffer : List UInt8) :
    KeepsBody p (p.parse pushBodyBytes buffer).2 := by
  cases buffer with
  | nil =>
    rw [parse_nil]
    exact .refl p
  | cons c buffer =>
    cases hcopies : copies (σ := σ) p.currentParser with
    | some copied =>
      rw [parse_of_copies pushBodyBytes hcopies (List.cons_ne_nil c buffer)]
      exact keepsBody_parseUntil (keepsBody_of_copies hcopies) _ _ _
    | none =>
    unfold parse
    cases hcurrent : p.currentParser with
    | parseVerb | parsePath | parseVersion | parseHeaderValue => rw [hcurrent] at hcopies; cases hcopies
    | parseNewLine =>
      dsimp only
      split_ifs
      · exact .reject _ p
      · exact (KeepsBody.append _ p).trans (keepsBody_newLineParsed _)
    | parseHeaderName =>
      dsimp only
      split_ifs
      · exact .reject _ p
      · exact ⟨⟨rfl, rfl, rfl⟩, rfl, rfl⟩
      · exact keepsBody_parseUntil keepsBody_headerNameParsed _ _ _
    | parseHeaderSpacing =>
      dsimp only
      split
      · exact .refl p
      · exact ⟨⟨rfl, rfl, rfl⟩, rfl, rfl⟩
    | parseBody => exact absurd hcurrent hbody

/-- No state takes more than the chunk. -/
theorem length_parse_le (buffer : List UInt8) (p : Parser σ) : (p.parse pushBodyBytes buffer).1.length ≤ buffer.length := by
  have huntil : ∀ (toSearch : UInt8) (parsed : Parser σ → Parser σ) (buffer : List UInt8),
      (parseUntil toSearch parsed buffer p).1.length ≤ buffer.length := by
    intro toSearch parsed buffer
    have hrest : (parseUntil toSearch parsed buffer p).1 = (copyUntil toSearch buffer p).2.1 := by
      unfold parseUntil
      split <;> rename_i h <;> rw [h]
    rw [hrest]
    by_cases hbuffer : buffer = []
    · rw [hbuffer]
      exact Nat.le_refl _
    · rcases copyUntil_cases toSearch hbuffer p with hlt | ⟨p', heq, -⟩
      · exact Nat.le_of_lt hlt
      · rw [heq]
  cases buffer with
  | nil => rw [parse_nil]
  | cons c buffer =>
    cases hcopies : copies (σ := σ) p.currentParser with
    | some copied =>
      rw [parse_of_copies pushBodyBytes hcopies (List.cons_ne_nil c buffer)]
      exact huntil copied.1 copied.2 _
    | none =>
    unfold parse
    cases hcurrent : p.currentParser with
    | parseVerb | parsePath | parseVersion | parseHeaderValue => rw [hcurrent] at hcopies; cases hcopies
    | parseNewLine =>
      dsimp only
      split_ifs <;> exact Nat.le_succ _
    | parseHeaderName =>
      dsimp only
      split_ifs
      · exact Nat.le_refl _
      · exact Nat.le_succ _
      · exact huntil 58 headerNameParsed _
    | parseHeaderSpacing =>
      dsimp only
      split
      · exact Nat.zero_le _
      · exact (List.dropWhile_suffix (l := c :: buffer) (· == 32)).length_le
    | parseBody =>
      dsimp only
      split_ifs
      · exact Nat.le_refl _
      · exact Nat.zero_le _

/-! ### The loop -/

theorem processLoop_of_not_active {p : Parser σ} (hp : ¬ p.Active) (buffer : List UInt8) :
    processLoop pushBodyBytes buffer p = p := by
  rw [processLoop, if_neg fun h => hp h.2]

@[simp] theorem processLoop_nil (p : Parser σ) : processLoop pushBodyBytes [] p = p := by
  rw [processLoop, if_neg fun h => h.1 rfl]

theorem processLoop_of_active {buffer : List UInt8} (hbuffer : buffer ≠ []) {p : Parser σ} (hp : p.Active) :
    processLoop pushBodyBytes buffer p =
      processLoop pushBodyBytes (p.parse pushBodyBytes buffer).1 (p.parse pushBodyBytes buffer).2 := by
  rw [processLoop, if_pos ⟨hbuffer, hp⟩]

/-- The check of `process` for a parser that is done is one that its loop makes too. -/
theorem process_eq (buffer : List UInt8) (p : Parser σ) : p.process pushBodyBytes buffer = p.processLoop pushBodyBytes buffer := by
  unfold process
  split_ifs with hfinished
  · exact (processLoop_of_not_active pushBodyBytes (fun h => by rw [h.2] at hfinished; cases hfinished) buffer).symm
  · rfl

/-- The loop of `process`, for at most so many rounds. -/
def processRounds : ℕ → List UInt8 → Parser σ → Parser σ
  | 0, _, p => p
  | rounds + 1, buffer, p =>
    if buffer ≠ [] ∧ p.Active then
      processRounds rounds (p.parse pushBodyBytes buffer).1 (p.parse pushBodyBytes buffer).2
    else p

/-- With as many rounds as there is work, it is the loop. -/
theorem processLoop_eq_rounds {rounds : ℕ} {buffer : List UInt8} {p : Parser σ} (hrounds : p.work buffer ≤ rounds) :
    processLoop pushBodyBytes buffer p = processRounds pushBodyBytes rounds buffer p := by
  induction rounds generalizing buffer p with
  | zero =>
    have hbuffer : buffer = [] := List.eq_nil_of_length_eq_zero (by have := p.le_work buffer; omega)
    rw [hbuffer, processLoop_nil]
    rfl
  | succ rounds ih =>
    unfold processRounds
    split_ifs with hgo
    · have hless := work_parse_lt pushBodyBytes hgo.1 hgo.2.1
      rw [processLoop_of_active pushBodyBytes hgo.1 hgo.2]
      exact ih (by omega)
    · rw [processLoop, if_neg hgo]

end Parser

end Forum.Http
