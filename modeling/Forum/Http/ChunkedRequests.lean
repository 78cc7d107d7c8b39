import Mathlib.Data.List.Induction
import Forum.Http.ParserChunks

/-!
# How a request arrives does not matter

Up to the two places where a chunk matters to the parser: `arrivesAnyWay_iff` says of a request without carriage
returns inside its header names that it is read in the same way in any chunks exactly when nothing follows its body,
and `cutHarmless_iff` says where a chunk may end, whatever follows it.
-/

namespace Forum.Http

open Forum.Library

/-- Where bodies are pushed: it refuses what there is no room for. -/
structure BodySink where
  room : ℕ
  pushed : List UInt8 := []
  deriving DecidableEq

/-- Keeps the bytes, and says whether there was room for them. -/
def BodySink.push (bytes : List UInt8) (sink : BodySink) : Bool × BodySink :=
  (sink.pushed.length + bytes.length ≤ sink.room, { sink with pushed := sink.pushed ++ bytes })

namespace Parser

theorem appends_push : Appends BodySink.push := by
  intro a b sink _
  unfold BodySink.push
  simp only [List.length_append, List.append_assoc, Nat.add_assoc]

/-! ### What is seen of a parser -/

/-- What a parser says about a request, and what was pushed of the body. -/
structure Outcome where
  valid : Bool
  finished : Bool
  errorCode : HttpStatusCode
  verb : HttpVerb
  path : List UInt8
  queryPairs : List (List UInt8 × List UInt8)
  versionMajor : ℕ
  versionMinor : ℕ
  headers : HttpHeader → List UInt8
  cookies : List (List UInt8 × List UInt8)
  keepConnectionAlive : Bool
  body : List UInt8

/-- Pairs of views as pairs of texts. -/
def pairBytes (p : Parser BodySink) (pairs : List (View × View)) : List (List UInt8 × List UInt8) :=
  pairs.map fun pair => (pair.1.bytes p.headerBuffer, pair.2.bytes p.headerBuffer)

/-- What a parser says about the request it has read. -/
def outcome (p : Parser BodySink) : Outcome where
  valid := p.valid
  finished := p.finished
  errorCode := p.errorCode
  verb := p.request.verb
  path := p.request.path.bytes p.headerBuffer
  queryPairs := p.pairBytes p.request.queryPairs
  versionMajor := p.request.versionMajor
  versionMinor := p.request.versionMinor
  headers := p.header
  cookies := p.pairBytes p.request.cookies
  keepConnectionAlive := p.request.keepConnectionAlive
  body := p.pushBodyBytesState.pushed

/-- The chunks are processed one after the other. -/
def run (chunks : List (List UInt8)) (p : Parser BodySink) : Parser BodySink :=
  chunks.foldl (fun p chunk => p.process BodySink.push chunk) p

/-- What comes next is the first byte of the body. -/
structure AtBody (p : Parser BodySink) : Prop where
  active : p.Active
  current : p.currentParser = .parseBody
  processed : p.requestBodyBytesProcessed = 0
  pushed : p.pushBodyBytesState.pushed = []
  expected : 0 < p.expectedContentLength

section Requests

variable (tryLexicalConvert : List UInt8 → Option ℕ) (headerBufferSize maxContentLength room : ℕ)

/-- A new parser. -/
def start : Parser BodySink :=
  { tryLexicalConvert, headerBufferSize, maxContentLength, pushBodyBytesState := ⟨room, []⟩ }

/-- The parser behind these bytes, in one call. -/
def after (bytes : List UInt8) : Parser BodySink :=
  (start tryLexicalConvert headerBufferSize maxContentLength room).process BodySink.push bytes

/-- The request is read in the same way in any chunks, and its body is what follows the header. -/
structure ArrivesAnyWay (request : List UInt8) : Prop where
  chunks : ∀ chunks : List (List UInt8), (∀ chunk ∈ chunks, chunk ≠ []) → chunks.flatten = request →
    (run chunks (start tryLexicalConvert headerBufferSize maxContentLength room)).outcome =
      (after tryLexicalConvert headerBufferSize maxContentLength room request).outcome
  /-- What is pushed follows the header. -/
  body : (after tryLexicalConvert headerBufferSize maxContentLength room request).pushBodyBytesState.pushed ≠ [] →
    ∃ header content, request = header ++ content ∧
      (after tryLexicalConvert headerBufferSize maxContentLength room header).AtBody
  /-- Exactly the first bytes behind the header are pushed, as many as its length says. -/
  content : ∀ header content, request = header ++ content →
    (after tryLexicalConvert headerBufferSize maxContentLength room header).AtBody →
    (after tryLexicalConvert headerBufferSize maxContentLength room request).valid = true →
    (after tryLexicalConvert headerBufferSize maxContentLength room request).finished = true →
    (after tryLexicalConvert headerBufferSize maxContentLength room request).pushBodyBytesState.pushed =
        content.take (after tryLexicalConvert headerBufferSize maxContentLength room header).expectedContentLength ∧
      (after tryLexicalConvert headerBufferSize maxContentLength room header).expectedContentLength ≤ content.length

/-- No carriage return comes inside the name of a header, where a chunk with it would end the header. -/
def NoReturnInsideName (request : List UInt8) : Prop :=
  ∀ before behind, request = before ++ 13 :: behind →
    ¬ (after tryLexicalConvert headerBufferSize maxContentLength room before).InsideHeaderName

/-- Nothing follows the bytes with which the body is complete or refused. -/
def NothingBehindBody (request : List UInt8) : Prop :=
  ∀ before behind, request = before ++ behind → behind ≠ [] →
    ¬ (after tryLexicalConvert headerBufferSize maxContentLength room before).BodyEnded

/-- Whatever follows these bytes, it does not matter whether a chunk ends with them. -/
def CutHarmless (before : List UInt8) : Prop :=
  ∀ behind, ((after tryLexicalConvert headerBufferSize maxContentLength room before).process BodySink.push behind).outcome =
    (after tryLexicalConvert headerBufferSize maxContentLength room (before ++ behind)).outcome

end Requests

section

variable {tryLexicalConvert : List UInt8 → Option ℕ} {headerBufferSize maxContentLength room : ℕ}

theorem consistent_start : (start tryLexicalConvert headerBufferSize maxContentLength room).Consistent :=
  ⟨ParserFn.noConfusion, fun _ => rfl⟩

variable (tryLexicalConvert headerBufferSize maxContentLength room) in
theorem not_insideHeaderName_start : ¬ (start tryLexicalConvert headerBufferSize maxContentLength room).InsideHeaderName :=
  fun h => ParserFn.noConfusion h.current

theorem after_eq (bytes : List UInt8) : after tryLexicalConvert headerBufferSize maxContentLength room bytes =
    processLoop BodySink.push bytes (start tryLexicalConvert headerBufferSize maxContentLength room) := process_eq _ _ _

@[simp] theorem after_nil : after tryLexicalConvert headerBufferSize maxContentLength room [] =
    start tryLexicalConvert headerBufferSize maxContentLength room := by
  rw [after_eq, processLoop_nil]

/-- Inside a name, only a carriage return is read in another way at the beginning of a chunk. -/
theorem processLoop_insideHeaderName {p : Parser BodySink} (hinside : p.InsideHeaderName) {behind : List UInt8}
    (hbehind : behind ≠ []) (hreturn : behind.head? ≠ some 13) :
    processLoop BodySink.push behind p =
      processLoop BodySink.push (parseUntil 58 headerNameParsed behind p).1 (parseUntil 58 headerNameParsed behind p).2 := by
  rw [processLoop_of_active BodySink.push hbehind hinside.active]
  obtain ⟨c, behind, rfl⟩ := List.exists_cons_of_ne_nil hbehind
  have hparse : p.parse BodySink.push (c :: behind) = parseUntil 58 headerNameParsed (c :: behind) p := by
    simp only [parse, hinside.current]
    exact if_neg fun h => hreturn (by rw [h]; rfl)
  rw [hparse]

/-- A chunk may end where the parser is not inside a name, and where the body does not end. -/
theorem process_after {before behind : List UInt8}
    (hreturn : (after tryLexicalConvert headerBufferSize maxContentLength room before).InsideHeaderName →
      behind.head? ≠ some 13)
    (hbody : behind ≠ [] → ¬ (after tryLexicalConvert headerBufferSize maxContentLength room before).BodyEnded) :
    (after tryLexicalConvert headerBufferSize maxContentLength room before).process BodySink.push behind =
      after tryLexicalConvert headerBufferSize maxContentLength room (before ++ behind) := by
  obtain ⟨houtside, hmore⟩ := processLoop_append BodySink.push appends_push before consistent_start
    (not_insideHeaderName_start tryLexicalConvert headerBufferSize maxContentLength room)
  rw [process_eq, after_eq (before ++ behind)]
  rw [← after_eq] at houtside hmore
  by_cases hinside : (after tryLexicalConvert headerBufferSize maxContentLength room before).InsideHeaderName
  · by_cases hbehind : behind = []
    · rw [hbehind, processLoop_nil, List.append_nil, after_eq]
    · rw [hmore behind hinside hbehind, processLoop_insideHeaderName hinside hbehind (hreturn hinside)]
  · exact (houtside behind hinside hbody).symm

/-- In any chunks, the parser gets to where it gets in one call. -/
theorem run_eq_after {request : List UInt8}
    (hname : NoReturnInsideName tryLexicalConvert headerBufferSize maxContentLength room request)
    (hbody : NothingBehindBody tryLexicalConvert headerBufferSize maxContentLength room request) {chunks : List (List UInt8)}
    (hchunks : chunks.flatten = request) :
    run chunks (start tryLexicalConvert headerBufferSize maxContentLength room) =
      after tryLexicalConvert headerBufferSize maxContentLength room request := by
  subst hchunks
  induction chunks using List.reverseRecOn with
  | nil => exact after_nil.symm
  | append_singleton chunks chunk ih =>
    rw [List.flatten_concat] at hname hbody ⊢
    have hfirst := ih
      (fun before behind heq => hname before (behind ++ chunk) (by rw [heq, List.append_assoc, List.cons_append]))
      (fun before behind heq hbehind => hbody before (behind ++ chunk) (by rw [heq, List.append_assoc])
        (List.append_ne_nil_of_left_ne_nil hbehind chunk))
    unfold run at hfirst ⊢
    rw [List.foldl_append, hfirst]
    refine process_after (fun hinside hreturn => ?_) fun hchunk => hbody _ _ rfl hchunk
    obtain ⟨behind, rfl⟩ := List.head?_eq_some_iff.1 hreturn
    exact hname _ _ rfl hinside

/-! ### The bytes of the body -/

/-- The body is read only if there is one. -/
theorem expected_headersParsed {p : Parser BodySink} (hcurrent : p.currentParser ≠ .parseBody)
    (hnext : p.headersParsed.currentParser = .parseBody) : 0 < p.headersParsed.expectedContentLength := by
  unfold headersParsed at hnext ⊢
  split_ifs at hnext ⊢ with hnone hencoded
  · exact absurd hnext hcurrent
  · exact absurd hnext hcurrent
  · show 0 < p.expectedContentLength
    omega

theorem expected_newLineParsed {p : Parser BodySink} (hcurrent : p.currentParser ≠ .parseBody)
    (hnext : p.newLineParsed.currentParser = .parseBody) : 0 < p.newLineParsed.expectedContentLength := by
  unfold newLineParsed at hnext ⊢
  split_ifs at hnext ⊢
  exact expected_headersParsed ((currentParser_onFinishedParsingHeaders p).trans_ne hcurrent) hnext

/-- A state other than that of the body gets to it with the last byte it takes, if there is a body. -/
theorem parse_to_body {p : Parser BodySink} (hbody : p.currentParser ≠ .parseBody) {buffer : List UInt8}
    (hbuffer : buffer ≠ []) (hnext : (p.parse BodySink.push buffer).2.currentParser = .parseBody) :
    (p.parse BodySink.push buffer).1.length < buffer.length ∧
      0 < (p.parse BodySink.push buffer).2.expectedContentLength := by
  have huntil : ∀ {toSearch : UInt8} {parsed : Parser BodySink → Parser BodySink},
      (∀ q : Parser BodySink, q.currentParser = p.currentParser → (parsed q).currentParser ≠ .parseBody) →
      (parseUntil toSearch parsed buffer p).2.currentParser ≠ .parseBody := by
    intro toSearch parsed hparsed
    have hcopy := (currentParser_copyUntil toSearch buffer p).1
    unfold parseUntil
    split <;> rename_i h <;> rw [h] at hcopy
    · exact hparsed _ hcopy
    · exact hcopy.trans_ne hbody
  obtain ⟨c, buffer, rfl⟩ := List.exists_cons_of_ne_nil hbuffer
  cases hcopies : copies (σ := BodySink) p.currentParser with
  | some copied =>
    rw [parse_of_copies BodySink.push hcopies hbuffer] at hnext
    exact absurd hnext (huntil fun q hq => (currentParser_of_copies hcopies hq).2)
  | none =>
    cases hcurrent : p.currentParser with
    | parseVerb | parsePath | parseVersion | parseHeaderValue => rw [hcurrent] at hcopies; cases hcopies
    | parseNewLine =>
      simp only [parse, hcurrent] at hnext ⊢
      split_ifs at hnext ⊢
      · exact absurd (hcurrent.symm.trans hnext) (by decide)
      · exact ⟨Nat.lt_succ_self _, expected_newLineParsed (p := p.append 10) hbody hnext⟩
    | parseHeaderName =>
      simp only [parse, hcurrent] at hnext
      split_ifs at hnext
      · exact absurd (hcurrent.symm.trans hnext) (by decide)
      · exact ParserFn.noConfusion hnext
      · exact absurd hnext (huntil fun q _ => by rw [currentParser_headerNameParsed]; decide)
    | parseHeaderSpacing =>
      simp only [parse, hcurrent] at hnext
      split at hnext
      · exact absurd (hcurrent.symm.trans hnext) (by decide)
      · exact ParserFn.noConfusion hnext
    | parseBody => exact absurd hcurrent hbody

/-- A chunk of one byte does not both end the header and begin the body. -/
theorem keepsBody_processLoop {buffer : List UInt8} (hbuffer : buffer.length ≤ 1) {p : Parser BodySink}
    (hbody : p.currentParser ≠ .parseBody) : KeepsBody p (processLoop BodySink.push buffer p) := by
  induction hwork : p.work buffer using Nat.strongRecOn generalizing buffer p with
  | _ n ih =>
    by_cases hgo : buffer ≠ [] ∧ p.Active
    · have hkeeps := keepsBody_parse BodySink.push hbody buffer
      rw [processLoop_of_active BodySink.push hgo.1 hgo.2]
      by_cases hnext : (p.parse BodySink.push buffer).2.currentParser = .parseBody
      · have hlength := (parse_to_body hbody hgo.1 hnext).1
        rw [List.eq_nil_of_length_eq_zero (by omega : (p.parse BodySink.push buffer).1.length = 0), processLoop_nil]
        exact hkeeps
      · have hless := work_parse_lt BodySink.push hgo.1 hgo.2.1
        have hlength := length_parse_le BodySink.push buffer p
        exact hkeeps.trans (ih _ (hwork ▸ hless) (hlength.trans hbuffer) hnext rfl)
    · rw [processLoop, if_neg hgo]
      exact .refl p

/-- As many bytes are pushed as are counted. -/
theorem processed_eq_length (bytes : List UInt8) (p : Parser BodySink)
    (hp : p.requestBodyBytesProcessed = p.pushBodyBytesState.pushed.length) :
    (processLoop BodySink.push bytes p).requestBodyBytesProcessed =
      (processLoop BodySink.push bytes p).pushBodyBytesState.pushed.length := by
  induction hwork : p.work bytes using Nat.strongRecOn generalizing bytes p with
  | _ n ih =>
    by_cases hgo : bytes ≠ [] ∧ p.Active
    · by_cases hbody : p.currentParser = .parseBody
      · rw [processLoop_body BodySink.push hgo.1 hgo.2 hbody]
        split_ifs
        · exact hp
        · show p.requestBodyBytesProcessed + bytes.length = (p.pushBodyBytesState.pushed ++ bytes).length
          rw [hp, List.length_append]
      · have hless := work_parse_lt BodySink.push hgo.1 hgo.2.1
        have hkeeps := keepsBody_parse BodySink.push hbody bytes
        rw [processLoop_of_active BodySink.push hgo.1 hgo.2]
        refine ih _ (hwork ▸ hless) _ _ ?_ rfl
        rw [hkeeps.requestBodyBytesProcessed, hkeeps.pushBodyBytesState, hp]
    · rw [processLoop, if_neg hgo]
      exact hp

/-- In the state of the body, there is one. -/
theorem expected_processLoop (bytes : List UInt8) (p : Parser BodySink)
    (hp : p.currentParser = .parseBody → 0 < p.expectedContentLength) :
    (processLoop BodySink.push bytes p).currentParser = .parseBody →
      0 < (processLoop BodySink.push bytes p).expectedContentLength := by
  induction hwork : p.work bytes using Nat.strongRecOn generalizing bytes p with
  | _ n ih =>
    by_cases hgo : bytes ≠ [] ∧ p.Active
    · by_cases hbody : p.currentParser = .parseBody
      · rw [processLoop_body BodySink.push hgo.1 hgo.2 hbody]
        split_ifs <;> exact fun _ => hp hbody
      · have hless := work_parse_lt BodySink.push hgo.1 hgo.2.1
        rw [processLoop_of_active BodySink.push hgo.1 hgo.2]
        exact ih _ (hwork ▸ hless) _ _ (fun hnext => (parse_to_body hbody hgo.1 hnext).2) rfl
    · rw [processLoop, if_neg hgo]
      exact hp

/-- When the body ended with these bytes, one call pushes all that follows them too. -/
theorem pushed_of_bodyEnded {bytes : List UInt8} {p : Parser BodySink} (hc : p.Consistent)
    (hprocessed : p.requestBodyBytesProcessed = 0) (hp : p.Active)
    (hended : (processLoop BodySink.push bytes p).BodyEnded) (behind : List UInt8) :
    (processLoop BodySink.push (bytes ++ behind) p).pushBodyBytesState.pushed =
      (processLoop BodySink.push bytes p).pushBodyBytesState.pushed ++ behind := by
  induction hwork : p.work bytes using Nat.strongRecOn generalizing bytes p with
  | _ n ih =>
    have hbytes : bytes ≠ [] := by
      rintro rfl
      rw [processLoop_nil] at hended
      exact hended.done hp
    have hmore : bytes ++ behind ≠ [] := List.append_ne_nil_of_left_ne_nil hbytes behind
    by_cases hbody : p.currentParser = .parseBody
    · rw [processLoop_body BodySink.push hbytes hp hbody] at hended ⊢
      rw [processLoop_body BodySink.push hmore hp hbody]
      split_ifs at hended ⊢
      · exact absurd hended.processed (by show ¬ 0 < p.requestBodyBytesProcessed; omega)
      · exact (List.append_assoc _ _ _).symm
    · have hkeeps := keepsBody_parse BodySink.push hbody bytes
      have hzero := hkeeps.requestBodyBytesProcessed.trans hprocessed
      rw [processLoop_of_active BodySink.push hbytes hp] at hended ⊢
      rw [processLoop_of_active BodySink.push hmore hp]
      rcases parse_append BodySink.push hbytes hp hc hbody with ⟨-, hwithin⟩ | ⟨q, hq⟩
      · rw [hwithin]
        have hactive : (p.parse BodySink.push bytes).2.Active := by
          by_contra hdone
          rw [processLoop_of_not_active BodySink.push hdone] at hended
          exact absurd hended.processed (by omega)
        have hless := work_parse_lt BodySink.push hbytes hp.1
        exact ih _ (hwork ▸ hless) (consistent_parse BodySink.push hc hbody bytes) hzero hactive hended rfl
      · rw [hq.chunk, processLoop_nil] at hended
        exact absurd hq.active hended.done

/-- Behind the header, the parser pushes what it is given. -/
theorem after_of_atBody {header content : List UInt8}
    (hheader : (after tryLexicalConvert headerBufferSize maxContentLength room header).AtBody) :
    after tryLexicalConvert headerBufferSize maxContentLength room (header ++ content) =
      processLoop BodySink.push content (after tryLexicalConvert headerBufferSize maxContentLength room header) := by
  rw [← process_eq, process_after (fun hinside => absurd hheader.current (by rw [hinside.current]; decide)) fun _ hended => ?_]
  exact absurd hended.processed (by rw [hheader.processed]; exact Nat.lt_irrefl 0)

theorem processed_after (bytes : List UInt8) :
    (after tryLexicalConvert headerBufferSize maxContentLength room bytes).requestBodyBytesProcessed =
      (after tryLexicalConvert headerBufferSize maxContentLength room bytes).pushBodyBytesState.pushed.length := by
  rw [after_eq]
  exact processed_eq_length bytes _ rfl

theorem expected_after {bytes : List UInt8}
    (hcurrent : (after tryLexicalConvert headerBufferSize maxContentLength room bytes).currentParser = .parseBody) :
    0 < (after tryLexicalConvert headerBufferSize maxContentLength room bytes).expectedContentLength := by
  rw [after_eq] at hcurrent ⊢
  exact expected_processLoop bytes _ ParserFn.noConfusion hcurrent

/-- A body that is pushed begins behind a header. -/
theorem exists_header {request : List UInt8}
    (hname : NoReturnInsideName tryLexicalConvert headerBufferSize maxContentLength room request)
    (hbody : NothingBehindBody tryLexicalConvert headerBufferSize maxContentLength room request)
    (hpushed : (after tryLexicalConvert headerBufferSize maxContentLength room request).pushBodyBytesState.pushed ≠ []) :
    ∃ header content, request = header ++ content ∧
      (after tryLexicalConvert headerBufferSize maxContentLength room header).AtBody := by
  induction request using List.reverseRecOn with
  | nil =>
    rw [after_nil] at hpushed
    exact absurd rfl hpushed
  | append_singleton request c ih =>
    have hstep : (after tryLexicalConvert headerBufferSize maxContentLength room request).process BodySink.push [c] =
        after tryLexicalConvert headerBufferSize maxContentLength room (request ++ [c]) := by
      refine process_after (fun hinside hreturn => ?_) fun _ => hbody request [c] rfl (List.cons_ne_nil _ _)
      obtain rfl : c = 13 := by simpa using hreturn
      exact hname request [] rfl hinside
    by_cases hempty : (after tryLexicalConvert headerBufferSize maxContentLength room request).pushBodyBytesState.pushed = []
    · have hactive : (after tryLexicalConvert headerBufferSize maxContentLength room request).Active := by
        by_contra hdone
        rw [← hstep, process_eq, processLoop_of_not_active BodySink.push hdone] at hpushed
        exact hpushed hempty
      have hcurrent : (after tryLexicalConvert headerBufferSize maxContentLength room request).currentParser = .parseBody := by
        by_contra hcurrent
        have hone : [c].length ≤ 1 := Nat.le_refl 1
        rw [← hstep, process_eq, (keepsBody_processLoop hone hcurrent).pushBodyBytesState] at hpushed
        exact hpushed hempty
      exact ⟨request, [c], rfl, hactive, hcurrent, by rw [processed_after, hempty]; rfl, hempty, expected_after hcurrent⟩
    · obtain ⟨header, content, rfl, hheader⟩ := ih
        (fun before behind heq => hname before (behind ++ [c]) (by rw [heq, List.append_assoc, List.cons_append]))
        (fun before behind heq hbehind => hbody before (behind ++ [c]) (by rw [heq, List.append_assoc])
          (List.append_ne_nil_of_left_ne_nil hbehind _)) hempty
      exact ⟨header, content ++ [c], List.append_assoc _ _ _, hheader⟩

/-- When nothing follows the body, it is what was announced. -/
theorem pushed_eq_take {header content : List UInt8}
    (hbody : NothingBehindBody tryLexicalConvert headerBufferSize maxContentLength room (header ++ content))
    (hheader : (after tryLexicalConvert headerBufferSize maxContentLength room header).AtBody)
    (hvalid : (after tryLexicalConvert headerBufferSize maxContentLength room (header ++ content)).valid = true)
    (hfinished : (after tryLexicalConvert headerBufferSize maxContentLength room (header ++ content)).finished = true) :
    (after tryLexicalConvert headerBufferSize maxContentLength room (header ++ content)).pushBodyBytesState.pushed =
        content.take (after tryLexicalConvert headerBufferSize maxContentLength room header).expectedContentLength ∧
      (after tryLexicalConvert headerBufferSize maxContentLength room header).expectedContentLength ≤ content.length := by
  have hafter : ∀ content, after tryLexicalConvert headerBufferSize maxContentLength room (header ++ content) =
      processLoop BodySink.push content (after tryLexicalConvert headerBufferSize maxContentLength room header) :=
    fun content =>
    after_of_atBody hheader
  have hended : ∀ before behind, content = before ++ behind → behind ≠ [] →
      ¬ (processLoop BodySink.push before
        (after tryLexicalConvert headerBufferSize maxContentLength room header)).BodyEnded := by
    intro before behind heq hbehind
    rw [← hafter]
    exact hbody _ behind (by rw [heq, List.append_assoc]) hbehind
  rw [hafter] at hvalid hfinished ⊢
  generalize after tryLexicalConvert headerBufferSize maxContentLength room header = p at hheader hended hvalid hfinished ⊢
  by_cases hcontent : content = []
  · rw [hcontent, processLoop_nil, hheader.active.2] at hfinished
    cases hfinished
  rw [processLoop_body BodySink.push hcontent hheader.active hheader.current] at hvalid hfinished ⊢
  split_ifs at hvalid hfinished ⊢ with hlength
  · cases hvalid
  have hcomplete : p.expectedContentLength ≤ content.length := by
    by_contra hmore
    unfold pushBody at hfinished
    dsimp only at hfinished
    rw [hheader.processed, Nat.zero_add, if_neg hmore, hheader.active.2] at hfinished
    cases hfinished
  have hexact : content.length ≤ p.expectedContentLength := by
    by_contra hmore
    -- the body would have ended with as many bytes as are expected
    have hpos := hheader.expected
    have hlength' : (content.take p.expectedContentLength).length = p.expectedContentLength := by
      rw [List.length_take, Nat.min_eq_left hcomplete]
    have hbefore : content.take p.expectedContentLength ≠ [] := List.length_pos_iff.1 (by omega)
    have hbehind : content.drop p.expectedContentLength ≠ [] := by
      rw [Ne, List.drop_eq_nil_iff]
      exact hmore
    refine hended _ _ (List.take_append_drop _ _).symm hbehind ?_
    rw [processLoop_body BodySink.push hbefore hheader.active hheader.current, if_neg hlength]
    refine ⟨hheader.current, fun hactive => ?_, ?_⟩
    · have hfinished' := hactive.2
      unfold pushBody at hfinished'
      dsimp only at hfinished'
      rw [hheader.processed, Nat.zero_add, hlength', if_pos (Nat.le_refl _)] at hfinished'
      cases hfinished'
    · show 0 < p.requestBodyBytesProcessed + (content.take p.expectedContentLength).length
      omega
  refine ⟨?_, hcomplete⟩
  show p.pushBodyBytesState.pushed ++ content = _
  rw [hheader.pushed, List.nil_append, List.take_of_length_le hexact]

/-- A request without carriage returns inside its header names is read in the same way in any chunks exactly when
nothing follows its body. -/
theorem arrivesAnyWay_of_noReturnInsideName {request : List UInt8}
    (hname : NoReturnInsideName tryLexicalConvert headerBufferSize maxContentLength room request) :
    ArrivesAnyWay tryLexicalConvert headerBufferSize maxContentLength room request ↔
      NothingBehindBody tryLexicalConvert headerBufferSize maxContentLength room request := by
  constructor
  · rintro harrives before behind rfl hbehind hended
    have hbefore : before ≠ [] := by
      rintro rfl
      rw [after_nil] at hended
      exact hended.done ⟨rfl, rfl⟩
    have hchunks := harrives.chunks [before, behind] (by simp [hbefore, hbehind]) (by simp)
    have hpushed := congrArg Outcome.body hchunks
    have hrun : run [before, behind] (start tryLexicalConvert headerBufferSize maxContentLength room) =
        after tryLexicalConvert headerBufferSize maxContentLength room before := by
      show (after tryLexicalConvert headerBufferSize maxContentLength room before).process BodySink.push behind = _
      rw [process_eq, processLoop_of_not_active BodySink.push hended.done]
    rw [hrun] at hpushed
    rw [after_eq] at hended
    have hmore := pushed_of_bodyEnded consistent_start rfl ⟨rfl, rfl⟩ hended behind
    rw [← after_eq, ← after_eq] at hmore
    have hsame : (after tryLexicalConvert headerBufferSize maxContentLength room before).pushBodyBytesState.pushed =
        (after tryLexicalConvert headerBufferSize maxContentLength room before).pushBodyBytesState.pushed ++ behind :=
      hpushed.trans hmore
    exact hbehind (List.self_eq_append_right.1 hsame)
  · intro hbody
    refine ⟨fun chunks _ hchunks => by rw [run_eq_after hname hbody hchunks], exists_header hname hbody, ?_⟩
    rintro header content rfl hheader hvalid hfinished
    exact pushed_eq_take hbody hheader hvalid hfinished

/-! ### Where a chunk may end -/

/-- Behind a carriage return, only a line feed is taken, if there is room for it. -/
theorem parse_newLine_refused {p : Parser BodySink} (hcurrent : p.currentParser = .parseNewLine) (c : UInt8)
    (behind : List UInt8) (h : c ≠ 10 ∨ p.headerSize ≥ p.headerBufferSize) :
    p.parse BodySink.push (c :: behind) = (behind, p.reject .Payload_Too_Large) := by
  simp only [parse, hcurrent]
  rw [if_pos]
  rcases h with h | h
  · exact Or.inl h
  · exact Or.inr (Or.inl h)

/-- In a buffer that is full with it, a carriage return inside a name is refused in either way. -/
theorem outcome_processLoop_return {p : Parser BodySink} (hinside : p.InsideHeaderName)
    (hfull : p.headerBufferSize ≤ p.headerSize + 1) (behind : List UInt8) :
    (processLoop BodySink.push (13 :: behind) p).outcome =
      (processLoop BodySink.push (parseUntil 58 headerNameParsed (13 :: behind) p).1
        (parseUntil 58 headerNameParsed (13 :: behind) p).2).outcome := by
  have hrejected : ∀ (q : Parser BodySink) (rest : List UInt8),
      processLoop BodySink.push rest (q.reject .Payload_Too_Large) = q.reject .Payload_Too_Large := fun q rest =>
    processLoop_of_not_active BodySink.push (fun h => absurd h.1 (by simp [reject])) rest
  rw [processLoop_of_active BodySink.push (List.cons_ne_nil 13 behind) hinside.active]
  by_cases hroom : p.headerSize ≥ p.headerBufferSize
  · have hparse : p.parse BodySink.push (13 :: behind) = (13 :: behind, p.reject .Payload_Too_Large) := by
      simp only [parse, hinside.current, if_true, if_pos hroom]
    have huntil : parseUntil 58 headerNameParsed (13 :: behind) p = (13 :: behind, p.reject .Payload_Too_Large) := by
      simp only [parseUntil, copyUntil, if_pos hroom]
    rw [hparse, huntil]
  · have hparse : p.parse BodySink.push (13 :: behind) = (behind, (p.append 13).goTo .parseNewLine) := by
      simp only [parse, hinside.current, if_true, if_neg hroom]
    have hsize : (p.append 13).headerSize ≥ (p.append 13).headerBufferSize := by
      show p.headerBufferSize ≤ (p.headerBuffer ++ [13]).length
      rw [List.length_append]
      exact hfull
    rw [hparse]
    cases behind with
    | nil =>
      have huntil : parseUntil 58 headerNameParsed [13] p = ([], p.append 13) := by
        simp only [parseUntil, copyUntil, if_neg hroom, if_neg (by decide : ¬ (13 : UInt8) = 58)]
      rw [huntil, processLoop_nil, processLoop_nil]
      rfl
    | cons c behind =>
      have huntil : parseUntil 58 headerNameParsed (13 :: c :: behind) p =
          (c :: behind, (p.append 13).reject .Payload_Too_Large) := by
        simp only [parseUntil, copyUntil, if_neg hroom, if_neg (by decide : ¬ (13 : UInt8) = 58), if_pos hsize]
      have hactive : ((p.append 13).goTo .parseNewLine).Active := hinside.active
      have hline := parse_newLine_refused (p := (p.append 13).goTo .parseNewLine) rfl c behind (Or.inr hsize)
      rw [huntil, hrejected, processLoop_of_active BodySink.push (List.cons_ne_nil c behind) hactive, hline, hrejected]
      rfl

/-- With room for it, a carriage return that does not end a line is refused in a chunk of its own, and is a part of the
name otherwise. -/
theorem valid_processLoop_return {p : Parser BodySink} (hinside : p.InsideHeaderName)
    (hroom : p.headerSize + 2 ≤ p.headerBufferSize) :
    (processLoop BodySink.push [13, 0] p).valid = false ∧
      (processLoop BodySink.push (parseUntil 58 headerNameParsed [13, 0] p).1
        (parseUntil 58 headerNameParsed [13, 0] p).2).valid = true := by
  have hfirst : ¬ p.headerSize ≥ p.headerBufferSize := by omega
  have hsecond : ¬ (p.append 13).headerSize ≥ (p.append 13).headerBufferSize := by
    show ¬ p.headerBufferSize ≤ (p.headerBuffer ++ [13]).length
    rw [List.length_append]
    exact Nat.not_le.2 hroom
  constructor
  · have hparse : p.parse BodySink.push [13, 0] = ([0], (p.append 13).goTo .parseNewLine) := by
      simp only [parse, hinside.current, if_true, if_neg hfirst]
    have hactive : ((p.append 13).goTo .parseNewLine).Active := hinside.active
    have hline := parse_newLine_refused (p := (p.append 13).goTo .parseNewLine) rfl 0 [] (Or.inl (by decide))
    rw [processLoop_of_active BodySink.push (List.cons_ne_nil 13 [0]) hinside.active, hparse,
      processLoop_of_active BodySink.push (List.cons_ne_nil 0 []) hactive, hline, processLoop_nil]
    rfl
  · have huntil : parseUntil 58 headerNameParsed [13, 0] p = ([], (p.append 13).append 0) := by
      simp only [parseUntil, copyUntil, if_neg hfirst, if_neg hsecond, if_neg (by decide : ¬ (13 : UInt8) = 58),
        if_neg (by decide : ¬ (0 : UInt8) = 58)]
    rw [huntil, processLoop_nil]
    exact hinside.active.1

/-- A chunk may end anywhere but inside a name with room for more of it, and where the body ends. -/
theorem cutHarmless_iff (before : List UInt8) : CutHarmless tryLexicalConvert headerBufferSize maxContentLength room before ↔
    ¬ ((after tryLexicalConvert headerBufferSize maxContentLength room before).InsideHeaderName ∧
        (after tryLexicalConvert headerBufferSize maxContentLength room before).headerSize + 2 ≤
          (after tryLexicalConvert headerBufferSize maxContentLength room before).headerBufferSize) ∧
      ¬ (after tryLexicalConvert headerBufferSize maxContentLength room before).BodyEnded := by
  have hmore := (processLoop_append BodySink.push appends_push before consistent_start
    (not_insideHeaderName_start tryLexicalConvert headerBufferSize maxContentLength room)).2
  simp only [← after_eq] at hmore
  constructor
  · refine fun hharmless => ⟨fun ⟨hinside, hroom⟩ => ?_, fun hended => ?_⟩
    · have hvalid := congrArg Outcome.valid (hharmless [13, 0])
      rw [hmore _ hinside (List.cons_ne_nil _ _), process_eq] at hvalid
      obtain ⟨hrefused, hread⟩ := valid_processLoop_return hinside hroom
      exact Bool.noConfusion (hrefused.symm.trans (Eq.trans hvalid hread))
    · have hpushed := congrArg Outcome.body (hharmless [0])
      rw [process_eq, processLoop_of_not_active BodySink.push hended.done] at hpushed
      rw [after_eq] at hended
      have hall := pushed_of_bodyEnded consistent_start rfl ⟨rfl, rfl⟩ hended [0]
      rw [← after_eq, ← after_eq] at hall
      exact List.cons_ne_nil _ _ (List.self_eq_append_right.1 (Eq.trans hpushed hall))
  · rintro ⟨hname, hbody⟩ behind
    by_cases hreturn : (after tryLexicalConvert headerBufferSize maxContentLength room before).InsideHeaderName ∧
        behind.head? = some 13
    · obtain ⟨hinside, hhead⟩ := hreturn
      obtain ⟨behind, rfl⟩ := List.head?_eq_some_iff.1 hhead
      rw [process_eq, hmore _ hinside (List.cons_ne_nil _ _)]
      exact outcome_processLoop_return hinside (by by_contra hroom; exact hname ⟨hinside, by omega⟩) behind
    · rw [process_after (fun hinside hhead => hreturn ⟨hinside, hhead⟩) fun _ => hbody]

end

/-! ### Requests in chunks -/

section

variable (tryLexicalConvert : List UInt8 → Option ℕ) (headerBufferSize maxContentLength room : ℕ)

/-- Requests in which no name has a carriage return are read in the same way in any chunks exactly when nothing follows
their body. And whatever a request goes on with, a chunk may end in it exactly where the parser is not inside a name with
room for more of it, and where the body did not end. -/
theorem arrivesAnyWay_iff :
    (∀ request, NoReturnInsideName tryLexicalConvert headerBufferSize maxContentLength room request →
      (ArrivesAnyWay tryLexicalConvert headerBufferSize maxContentLength room request ↔
        NothingBehindBody tryLexicalConvert headerBufferSize maxContentLength room request)) ∧
    ∀ before, CutHarmless tryLexicalConvert headerBufferSize maxContentLength room before ↔
      ¬ ((after tryLexicalConvert headerBufferSize maxContentLength room before).InsideHeaderName ∧
        (after tryLexicalConvert headerBufferSize maxContentLength room before).headerSize + 2 ≤
          (after tryLexicalConvert headerBufferSize maxContentLength room before).headerBufferSize) ∧
      ¬ (after tryLexicalConvert headerBufferSize maxContentLength room before).BodyEnded :=
  ⟨fun _ => arrivesAnyWay_of_noReturnInsideName, cutHarmless_iff⟩

/-! #### Two requests -/

theorem after_eq_rounds (bytes : List UInt8) : after tryLexicalConvert headerBufferSize maxContentLength room bytes =
    processRounds BodySink.push (3 * bytes.length + 2) bytes
      (start tryLexicalConvert headerBufferSize maxContentLength room) := by
  rw [after_eq, processLoop_eq_rounds BodySink.push (work_le _ _)]

/-- Both conditions are about the beginnings of a request. -/
theorem noReturnInsideName_of_take {request : List UInt8} (h : ∀ i < request.length, request[i]? = some 13 →
    ¬ (after tryLexicalConvert headerBufferSize maxContentLength room (request.take i)).InsideHeaderName) :
    NoReturnInsideName tryLexicalConvert headerBufferSize maxContentLength room request := by
  rintro before behind rfl
  have hbefore := h before.length (by rw [List.length_append, List.length_cons]; omega) (by simp)
  rwa [List.take_left] at hbefore

theorem nothingBehindBody_of_take {request : List UInt8}
    (h : ∀ i < request.length,
      ¬ (after tryLexicalConvert headerBufferSize maxContentLength room (request.take i)).BodyEnded) :
    NothingBehindBody tryLexicalConvert headerBufferSize maxContentLength room request := by
  rintro before behind rfl hbehind
  have hbefore := h before.length (by
    rw [List.length_append]
    exact Nat.lt_add_of_pos_right (List.length_pos_iff.2 hbehind))
  rwa [List.take_left] at hbefore

end

theorem arrivesAnyWay_put : ArrivesAnyWay sizeOfText 64 64 64 (asciiBytes "PUT / HTTP/1.1\r\nContent-Length: 1\r\n\r\na") :=
  ((arrivesAnyWay_iff sizeOfText 64 64 64).1 _
    (noReturnInsideName_of_take sizeOfText 64 64 64 (by simp only [after_eq_rounds]; decide +kernel))).2
    (nothingBehindBody_of_take sizeOfText 64 64 64 (by simp only [after_eq_rounds]; decide +kernel))

/-- A carriage return inside a name is a part of it, or ends the header if a chunk begins with it; and what follows the
body is pushed with it. -/
theorem not_arrivesAnyWay_return :
    ¬ ArrivesAnyWay sizeOfText 64 64 64 (asciiBytes "GET / HTTP/1.1\r\nA\rB:c\r\n\r\n") ∧
      ¬ ArrivesAnyWay sizeOfText 64 64 64 (asciiBytes "PUT / HTTP/1.1\r\nContent-Length: 1\r\n\r\nab") := by
  constructor
  · intro harrives
    have hvalid := congrArg Outcome.valid
      (harrives.chunks [asciiBytes "GET / HTTP/1.1\r\nA", asciiBytes "\rB:c\r\n\r\n"] (by decide +kernel) (by decide +kernel))
    have hone : (after sizeOfText 64 64 64 (asciiBytes "GET / HTTP/1.1\r\nA\rB:c\r\n\r\n")).valid = true := by
      rw [after_eq_rounds]
      decide +kernel
    have htwo : (run [asciiBytes "GET / HTTP/1.1\r\nA", asciiBytes "\rB:c\r\n\r\n"]
        (start sizeOfText 64 64 64)).valid = false := by
      show ((after sizeOfText 64 64 64 (asciiBytes "GET / HTTP/1.1\r\nA")).process BodySink.push
        (asciiBytes "\rB:c\r\n\r\n")).valid = false
      rw [process_eq, processLoop_eq_rounds BodySink.push (work_le _ _), after_eq_rounds]
      decide +kernel
    exact Bool.noConfusion (htwo.symm.trans (Eq.trans hvalid hone))
  · intro harrives
    have hpushed := (harrives.content (asciiBytes "PUT / HTTP/1.1\r\nContent-Length: 1\r\n\r\n") [97, 98]
      (by decide +kernel)
      ⟨by rw [after_eq_rounds]; decide +kernel, by rw [after_eq_rounds]; decide +kernel,
        by rw [after_eq_rounds]; decide +kernel, by rw [after_eq_rounds]; decide +kernel,
        by rw [after_eq_rounds]; decide +kernel⟩
      (by rw [after_eq_rounds]; decide +kernel) (by rw [after_eq_rounds]; decide +kernel)).1
    rw [after_eq_rounds, after_eq_rounds] at hpushed
    revert hpushed
    decide +kernel

end Parser

end Forum.Http
