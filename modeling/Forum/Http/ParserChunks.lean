import Mathlib.Data.List.TakeWhile
import Forum.Http.ParserSteps

/-!
# Requests that arrive in chunks

A parser keeps what it has read of a request between two calls of `process`, so that it should not matter where a
chunk ends. It matters in two places. A header name begins with whatever the parser is given next, and a carriage
return there ends the header: so does one that comes at the beginning of a chunk, in the middle of a name. And the
body is pushed by the chunk, with what follows the body in it.
-/

namespace Forum.Http

open Forum.Library

namespace Parser

variable {σ : Type*}

/-! ### Copying -/

/-- Copying stops within the chunk, whatever follows it, or takes all of it and goes on with what follows. -/
theorem copyUntil_append (toSearch : UInt8) (a : List UInt8) (p : Parser σ) :
    ((copyUntil toSearch a p).1 = true ∨ (copyUntil toSearch a p).2.2.valid = false) ∧
      (∀ b, copyUntil toSearch (a ++ b) p =
        ((copyUntil toSearch a p).1, (copyUntil toSearch a p).2.1 ++ b, (copyUntil toSearch a p).2.2)) ∨
      copyUntil toSearch a p = (false, [], a.foldl (fun p c => p.append c) p) ∧
        ∀ b, copyUntil toSearch (a ++ b) p = copyUntil toSearch b (a.foldl (fun p c => p.append c) p) := by
  induction a generalizing p with
  | nil => exact Or.inr ⟨rfl, fun b => rfl⟩
  | cons c a ih =>
    by_cases hfull : p.headerSize ≥ p.headerBufferSize
    · left
      have hstop : ∀ b, copyUntil toSearch (c :: b) p = (false, c :: b, p.reject .Payload_Too_Large) := fun b => by
        rw [copyUntil, if_pos hfull]
      refine ⟨Or.inr (by rw [hstop]; rfl), fun b => ?_⟩
      rw [List.cons_append, hstop, hstop]
      rfl
    · by_cases hc : c = toSearch
      · left
        have hfound : ∀ b, copyUntil toSearch (c :: b) p = (true, b, p.append c) := fun b => by
          rw [copyUntil, if_neg hfull, if_pos hc]
        refine ⟨Or.inl (by rw [hfound]), fun b => ?_⟩
        rw [List.cons_append, hfound, hfound]
      · have hstep : ∀ b, copyUntil toSearch (c :: b) p = copyUntil toSearch b (p.append c) := fun b => by
          rw [copyUntil, if_neg hfull, if_neg hc]
        rcases ih (p.append c) with ⟨hstopped, hwithin⟩ | ⟨hall, hmore⟩
        · left
          refine ⟨by rwa [hstep], fun b => ?_⟩
          rw [List.cons_append, hstep, hstep, hwithin]
        · right
          refine ⟨by rw [hstep, hall, List.foldl_cons], fun b => ?_⟩
          rw [List.cons_append, hstep, hmore, List.foldl_cons]

/-- What copying a whole chunk leaves of a parser. -/
theorem foldl_append_eq (a : List UInt8) (p : Parser σ) : ∃ accesses, a.foldl (fun p c => p.append c) p =
    { p with headerBuffer := p.headerBuffer ++ a, accesses := accesses } := by
  induction a generalizing p with
  | nil => exact ⟨p.accesses, by rw [List.foldl_nil, List.append_nil]⟩
  | cons c a ih =>
    obtain ⟨accesses, haccesses⟩ := ih (p.append c)
    refine ⟨accesses, ?_⟩
    rw [List.foldl_cons, haccesses]
    show { p with headerBuffer := p.headerBuffer ++ [c] ++ a, accesses := accesses } = _
    rw [List.append_assoc, List.singleton_append]

/-- The parser is inside the name of a header. -/
structure InsideHeaderName (p : Parser σ) : Prop where
  active : p.Active
  current : p.currentParser = .parseHeaderName
  started : p.parseHeaderNameStartsAt < p.headerSize

instance (p : Parser σ) : Decidable p.InsideHeaderName :=
  decidable_of_iff (p.Active ∧ p.currentParser = .parseHeaderName ∧ p.parseHeaderNameStartsAt < p.headerSize)
    ⟨fun h => ⟨h.1, h.2.1, h.2.2⟩, fun h => ⟨h.active, h.current, h.started⟩⟩

theorem parseUntil_append (toSearch : UInt8) (parsed : Parser σ → Parser σ) {p : Parser σ}
    (hparsed : ∀ q : Parser σ, q.currentParser = p.currentParser → (parsed q).currentParser ≠ .parseHeaderName)
    (a : List UInt8) :
    ¬ (parseUntil toSearch parsed a p).2.InsideHeaderName ∧
      (∀ b, parseUntil toSearch parsed (a ++ b) p =
        ((parseUntil toSearch parsed a p).1 ++ b, (parseUntil toSearch parsed a p).2)) ∨
      ∃ q accesses, q = { p with headerBuffer := p.headerBuffer ++ a, accesses := accesses } ∧
        parseUntil toSearch parsed a p = ([], q) ∧
        ∀ b, parseUntil toSearch parsed (a ++ b) p = parseUntil toSearch parsed b q := by
  have hcurrent := (currentParser_copyUntil toSearch a p).1
  unfold parseUntil
  rcases copyUntil_append toSearch a p with ⟨hstopped, hwithin⟩ | ⟨hall, hmore⟩
  · left
    constructor
    · rcases hcopy : copyUntil toSearch a p with ⟨_ | _, rest, q⟩
      · rw [hcopy] at hstopped
        intro hinside
        rcases hstopped with h | h
        · cases h
        · exact absurd (h.symm.trans hinside.active.1) (by decide)
      · rw [hcopy] at hcurrent
        exact fun hinside => hparsed q hcurrent hinside.current
    · intro b
      rw [hwithin]
      rcases copyUntil toSearch a p with ⟨_ | _, rest, p'⟩ <;> rfl
  · right
    obtain ⟨accesses, haccesses⟩ := foldl_append_eq a p
    exact ⟨_, accesses, haccesses, by rw [hall], fun b => by rw [hmore]⟩

/-! ### A state of the parser -/

/-- What holds of a parser between two states. -/
structure Consistent (p : Parser σ) : Prop where
  name : p.currentParser = .parseHeaderName → p.parseHeaderNameStartsAt ≤ p.headerSize
  body : p.currentParser ≠ .parseBody → p.requestBodyBytesProcessed = 0

/-- Behind a line feed, a name has not begun yet. -/
theorem not_insideHeaderName_newLineParsed {p : Parser σ} (hcurrent : p.currentParser = .parseNewLine) :
    ¬ (p.append 10).newLineParsed.InsideHeaderName := by
  intro hinside
  unfold newLineParsed at hinside
  split_ifs at hinside
  · refine currentParser_headersParsed ?_ hinside.current
    rw [currentParser_onFinishedParsingHeaders]
    show p.currentParser ≠ _
    rw [hcurrent]
    decide
  · exact Nat.lt_irrefl _ hinside.started

variable (pushBodyBytes : List UInt8 → σ → Bool × σ)

/-- After `a`, of which the parser `q` took all: it goes on in the same state with what follows. -/
structure GoesOn (p : Parser σ) (a : List UInt8) (q : Parser σ) : Prop where
  chunk : p.parse pushBodyBytes a = ([], q)
  active : q.Active
  consistent : q.Consistent
  current : q.currentParser = p.currentParser
  insideHeaderName : q.currentParser = .parseHeaderName → q.InsideHeaderName
  /-- What follows is read as more of a name, if the parser is inside one. -/
  more : ∀ b, b ≠ [] → p.parse pushBodyBytes (a ++ b) =
    if q.currentParser = .parseHeaderName then parseUntil 58 headerNameParsed b q else q.parse pushBodyBytes b

/-- A state that copies a chunk goes on behind it. -/
theorem goesOn_of_copied {p q : Parser σ} (hp : p.Active) (hc : p.Consistent) {a : List UInt8} (ha : a ≠ []) {accesses : List Access}
    (hq : q = { p with headerBuffer := p.headerBuffer ++ a, accesses := accesses })
    (hchunk : p.parse pushBodyBytes a = ([], q))
    (hmore : ∀ b, b ≠ [] → p.parse pushBodyBytes (a ++ b) =
      if q.currentParser = .parseHeaderName then parseUntil 58 headerNameParsed b q else q.parse pushBodyBytes b) :
    GoesOn pushBodyBytes p a q := by
  subst hq
  have hlength : p.headerSize < (p.headerBuffer ++ a).length := by
    rw [List.length_append]
    exact Nat.lt_add_of_pos_right (List.length_pos_iff.2 ha)
  exact ⟨hchunk, hp, ⟨fun h => (Nat.le_of_lt (Nat.lt_of_le_of_lt (hc.name h) hlength)), hc.body⟩, rfl,
    fun h => ⟨hp, h, Nat.lt_of_le_of_lt (hc.name h) hlength⟩, hmore⟩

/-- A state of the parser other than that of the body ends within a chunk, whatever follows it, or goes on behind it. -/
theorem parse_append {a : List UInt8} (ha : a ≠ []) {p : Parser σ} (hp : p.Active) (hc : p.Consistent)
    (hbody : p.currentParser ≠ .parseBody) :
    ¬ (p.parse pushBodyBytes a).2.InsideHeaderName ∧
      (∀ b, p.parse pushBodyBytes (a ++ b) =
        ((p.parse pushBodyBytes a).1 ++ b, (p.parse pushBodyBytes a).2)) ∨
    ∃ q, GoesOn pushBodyBytes p a q := by
  obtain ⟨c, a, rfl⟩ := List.exists_cons_of_ne_nil ha
  cases hcopies : copies (σ := σ) p.currentParser with
  | some copied =>
    have hparse : ∀ {q : Parser σ} {b : List UInt8}, q.currentParser = p.currentParser → b ≠ [] →
        q.parse pushBodyBytes b = parseUntil copied.1 copied.2 b q := fun hq hb =>
      parse_of_copies pushBodyBytes (by rw [hq]; exact hcopies) hb
    rcases parseUntil_append copied.1 copied.2 (fun q hq => (currentParser_of_copies hcopies hq).1) (c :: a) with
      ⟨hinside, hwithin⟩ | ⟨q, accesses, hq, hall, hmore⟩
    · left
      refine ⟨by rwa [hparse rfl ha], fun b => ?_⟩
      rw [hparse rfl ha, List.cons_append, hparse rfl (List.cons_ne_nil _ _), ← List.cons_append, hwithin]
    · right
      have hcurrent : q.currentParser = p.currentParser := by rw [hq]
      refine ⟨q, goesOn_of_copied pushBodyBytes hp hc ha hq (by rw [hparse rfl ha, hall]) fun b hb => ?_⟩
      rw [List.cons_append, hparse rfl (List.cons_ne_nil _ _), ← List.cons_append, hmore, hparse hcurrent hb, if_neg]
      intro h
      rw [← hcurrent, h] at hcopies
      cases hcopies
  | none =>
    cases hcurrent : p.currentParser with
    | parseVerb | parsePath | parseVersion | parseHeaderValue => rw [hcurrent] at hcopies; cases hcopies
    | parseNewLine =>
      left
      simp only [parse, hcurrent, List.cons_append]
      constructor
      · split_ifs
        · exact fun hinside => absurd hinside.active.1 (by simp [reject])
        · exact not_insideHeaderName_newLineParsed hcurrent
      · intro b
        split_ifs <;> rfl
    | parseHeaderName =>
      by_cases hreturn : c = 13
      · left
        simp only [parse, hcurrent, List.cons_append, if_pos hreturn]
        constructor
        · split_ifs
          · exact fun hinside => absurd hinside.active.1 (by simp [reject])
          · exact fun hinside => ParserFn.noConfusion hinside.current
        · intro b
          split_ifs <;> rfl
      · have hparse : ∀ b, p.parse pushBodyBytes (c :: b) = parseUntil 58 headerNameParsed (c :: b) p := fun b => by
          simp only [parse, hcurrent, if_neg hreturn]
        rcases parseUntil_append 58 headerNameParsed (p := p)
            (fun q _ => by rw [currentParser_headerNameParsed]; decide) (c :: a) with
          ⟨hinside, hwithin⟩ | ⟨q, accesses, hq, hall, hmore⟩
        · left
          refine ⟨by rwa [hparse], fun b => ?_⟩
          rw [hparse, List.cons_append, hparse, ← List.cons_append, hwithin]
        · right
          have hsame : q.currentParser = p.currentParser := by rw [hq]
          refine ⟨q, goesOn_of_copied pushBodyBytes hp hc ha hq (by rw [hparse, hall]) fun b hb => ?_⟩
          rw [List.cons_append, hparse, ← List.cons_append, hmore, if_pos (hsame.trans hcurrent)]
    | parseHeaderSpacing =>
      by_cases hspaces : (c :: a).dropWhile (· == 32) = []
      · right
        refine ⟨p, ?_, hp, hc, rfl, fun h => ?_, fun b hb => ?_⟩
        · simp only [parse, hcurrent]
          rw [hspaces]
        · rw [hcurrent] at h
          cases h
        · obtain ⟨d, b, rfl⟩ := List.exists_cons_of_ne_nil hb
          rw [hcurrent, if_neg (by simp)]
          simp only [parse, hcurrent, List.cons_append]
          rw [← List.cons_append, List.dropWhile_append_of_pos (fun x hx => List.dropWhile_eq_nil_iff.1 hspaces x hx)]
      · left
        obtain ⟨d, rest, hrest⟩ := List.exists_cons_of_ne_nil hspaces
        simp only [parse, hcurrent, List.cons_append]
        constructor
        · exact fun hinside => ParserFn.noConfusion hinside.current
        · intro b
          rw [← List.cons_append, List.dropWhile_append, if_neg (by simpa using hspaces), hrest]
          rfl
    | parseBody => exact absurd hcurrent hbody

/-- A state that does not go to that of a name keeps a parser consistent. -/
theorem Consistent.of_ne {p q : Parser σ} (hc : p.Consistent) (hbody : p.currentParser ≠ .parseBody) (h : KeepsBody p q)
    (hname : q.currentParser ≠ .parseHeaderName) : q.Consistent :=
  ⟨fun heq => absurd heq hname, fun _ => h.requestBodyBytesProcessed.trans (hc.body hbody)⟩

/-- A copying state stays what it is, or ends. -/
theorem consistent_parseUntil {p : Parser σ} (hc : p.Consistent) (hbody : p.currentParser ≠ .parseBody)
    {parsed : Parser σ → Parser σ} (hkeeps : ∀ p, KeepsBody p (parsed p))
    (hparsed : ∀ q : Parser σ, q.currentParser = p.currentParser → (parsed q).currentParser ≠ .parseHeaderName)
    (toSearch : UInt8) (buffer : List UInt8) : (parseUntil toSearch parsed buffer p).2.Consistent := by
  have hkeep := keepsBody_parseUntil hkeeps toSearch buffer p
  obtain ⟨hcurrent, hstarts, hle⟩ := currentParser_copyUntil toSearch buffer p
  unfold parseUntil at hkeep ⊢
  split at hkeep <;> rename_i h <;> rw [h] at hcurrent hstarts hle
  · exact hc.of_ne hbody hkeep (hparsed _ hcurrent)
  · refine ⟨fun hname => ?_, fun _ => hkeep.requestBodyBytesProcessed.trans (hc.body hbody)⟩
    rw [hstarts]
    exact (hc.name (hcurrent.symm.trans hname)).trans hle

/-- Behind a line feed, a name begins where the buffer ends, or the header is done. -/
theorem consistent_newLineParsed {p : Parser σ} (hcurrent : p.currentParser = .parseNewLine)
    (hprocessed : p.requestBodyBytesProcessed = 0) : p.newLineParsed.Consistent := by
  refine ⟨fun hname => ?_, fun _ => (keepsBody_newLineParsed p).requestBodyBytesProcessed.trans hprocessed⟩
  unfold newLineParsed at hname ⊢
  split_ifs at hname ⊢
  · refine absurd hname (currentParser_headersParsed ?_)
    rw [currentParser_onFinishedParsingHeaders, hcurrent]
    decide
  · exact Nat.le_refl _

theorem consistent_parse {p : Parser σ} (hc : p.Consistent) (hbody : p.currentParser ≠ .parseBody) (buffer : List UInt8) :
    (p.parse pushBodyBytes buffer).2.Consistent := by
  cases buffer with
  | nil =>
    rw [parse_nil]
    exact hc
  | cons c buffer =>
    cases hcopies : copies (σ := σ) p.currentParser with
    | some copied =>
      rw [parse_of_copies pushBodyBytes hcopies (List.cons_ne_nil c buffer)]
      exact consistent_parseUntil hc hbody (keepsBody_of_copies hcopies)
        (fun q hq => (currentParser_of_copies hcopies hq).1) _ _
    | none =>
    unfold parse
    cases hcurrent : p.currentParser with
    | parseVerb | parsePath | parseVersion | parseHeaderValue => rw [hcurrent] at hcopies; cases hcopies
    | parseNewLine =>
      dsimp only
      split_ifs
      · exact hc.of_ne hbody (.reject _ p) (by show p.currentParser ≠ _; rw [hcurrent]; decide)
      · exact consistent_newLineParsed hcurrent (hc.body hbody)
    | parseHeaderName =>
      dsimp only
      split_ifs
      · exact ⟨hc.name, hc.body⟩
      · exact ⟨ParserFn.noConfusion, fun _ => hc.body hbody⟩
      · exact consistent_parseUntil hc hbody keepsBody_headerNameParsed
          (fun q hq => by rw [currentParser_headerNameParsed]; decide) _ _
    | parseHeaderSpacing =>
      dsimp only
      split
      · exact hc
      · exact ⟨ParserFn.noConfusion, fun _ => hc.body hbody⟩
    | parseBody => exact absurd hcurrent hbody

/-! ### The body -/

/-- What is pushed in two parts is pushed as a whole, as long as there is room. -/
def Appends : Prop := ∀ a b s, (pushBodyBytes a s).1 = true → pushBodyBytes (a ++ b) s = pushBodyBytes b (pushBodyBytes a s).2

/-- Bytes of the body were pushed, and with them the body was complete, or was refused. -/
structure BodyEnded (p : Parser σ) : Prop where
  current : p.currentParser = .parseBody
  done : ¬ p.Active
  processed : 0 < p.requestBodyBytesProcessed

instance (p : Parser σ) : Decidable p.BodyEnded :=
  decidable_of_iff (p.currentParser = .parseBody ∧ ¬ p.Active ∧ 0 < p.requestBodyBytesProcessed)
    ⟨fun h => ⟨h.1, h.2.1, h.2.2⟩, fun h => ⟨h.current, h.done, h.processed⟩⟩

theorem parse_body {p : Parser σ} (hbody : p.currentParser = .parseBody) {a : List UInt8} (ha : a ≠ []) :
    p.parse pushBodyBytes a =
      if p.expectedContentLength > p.maxContentLength then (a, p.reject .Payload_Too_Large)
      else ([], p.pushBody pushBodyBytes a) := by
  obtain ⟨c, a, rfl⟩ := List.exists_cons_of_ne_nil ha
  simp only [parse, hbody]

/-- No state changes the sizes of the buffers. -/
theorem sameConstants_parse (buffer : List UInt8) (p : Parser σ) : SameConstants p (p.parse pushBodyBytes buffer).2 := by
  by_cases hbuffer : buffer = []
  · rw [hbuffer, parse_nil]
    exact .refl p
  · by_cases hbody : p.currentParser = .parseBody
    · rw [parse_body pushBodyBytes hbody hbuffer]
      split_ifs <;> exact ⟨rfl, rfl, rfl⟩
    · exact (keepsBody_parse pushBodyBytes hbody buffer).toSameConstants

theorem sameConstants_processRounds (rounds : ℕ) (buffer : List UInt8) (p : Parser σ) :
    SameConstants p (processRounds pushBodyBytes rounds buffer p) := by
  induction rounds generalizing buffer p with
  | zero => exact .refl p
  | succ rounds ih =>
    unfold processRounds
    split_ifs
    · exact (sameConstants_parse pushBodyBytes buffer p).trans (ih _ _)
    · exact .refl p

theorem sameConstants_process (buffer : List UInt8) (p : Parser σ) : SameConstants p (p.process pushBodyBytes buffer) := by
  rw [process_eq, processLoop_eq_rounds pushBodyBytes (Nat.le_refl _)]
  exact sameConstants_processRounds pushBodyBytes _ buffer p

/-- The state of the body rejects the request, or takes the whole chunk. -/
theorem processLoop_body {a : List UInt8} (ha : a ≠ []) {p : Parser σ} (hp : p.Active) (hbody : p.currentParser = .parseBody) :
    processLoop pushBodyBytes a p =
      if p.expectedContentLength > p.maxContentLength then p.reject .Payload_Too_Large
      else p.pushBody pushBodyBytes a := by
  rw [processLoop_of_active pushBodyBytes ha hp, parse_body pushBodyBytes hbody ha]
  split_ifs
  · exact processLoop_of_not_active pushBodyBytes (fun h => absurd h.1 (by simp [reject])) _
  · exact processLoop_nil pushBodyBytes _

variable {pushBodyBytes} in
/-- Where the body does not end with a chunk, there was room for it, and more is expected. -/
theorem of_not_bodyEnded {a : List UInt8} (ha : a ≠ []) {p : Parser σ} (hbody : p.currentParser = .parseBody)
    (h : ¬ (p.pushBody pushBodyBytes a).BodyEnded) :
    (pushBodyBytes a p.pushBodyBytesState).1 = true ∧
      p.requestBodyBytesProcessed + a.length < p.expectedContentLength := by
  have hactive : (p.pushBody pushBodyBytes a).Active := by
    by_contra hdone
    exact h ⟨hbody, hdone, Nat.lt_of_lt_of_le (List.length_pos_iff.2 ha) (Nat.le_add_left _ _)⟩
  obtain ⟨hvalid, hfinished⟩ := hactive
  unfold pushBody at hvalid hfinished
  dsimp only at hvalid hfinished
  constructor
  · by_contra hrefused
    rw [if_neg hrefused] at hvalid
    cases hvalid
  · by_contra hcomplete
    rw [if_pos (Nat.le_of_not_lt hcomplete)] at hfinished
    cases hfinished

/-- The body goes on where a chunk ends, unless it ended there. -/
theorem processLoop_body_append (hpush : Appends pushBodyBytes) {a : List UInt8} (ha : a ≠ []) {p : Parser σ} (hp : p.Active)
    (hbody : p.currentParser = .parseBody) {b : List UInt8} (hb : b ≠ [])
    (hended : ¬ (processLoop pushBodyBytes a p).BodyEnded) :
    processLoop pushBodyBytes (a ++ b) p = processLoop pushBodyBytes b (processLoop pushBodyBytes a p) := by
  have hab : a ++ b ≠ [] := List.append_ne_nil_of_left_ne_nil ha b
  rw [processLoop_body pushBodyBytes ha hp hbody] at hended ⊢
  rw [processLoop_body pushBodyBytes hab hp hbody]
  split_ifs at hended ⊢ with hlength
  · exact (processLoop_of_not_active pushBodyBytes (fun h => absurd h.1 (by simp [reject])) _).symm
  · obtain ⟨hroom, hmore⟩ := of_not_bodyEnded ha hbody hended
    have hfirst : p.pushBody pushBodyBytes a = { p with
        pushBodyBytesState := (pushBodyBytes a p.pushBodyBytesState).2
        requestBodyBytesProcessed := p.requestBodyBytesProcessed + a.length } := by
      unfold pushBody
      dsimp only
      rw [if_pos hroom, if_pos hroom, if_neg (Nat.not_le.2 hmore)]
    have hsecond := processLoop_body pushBodyBytes hb (p := p.pushBody pushBodyBytes a) (by rw [hfirst]; exact hp)
      (by rw [hfirst]; exact hbody)
    rw [hsecond, hfirst, if_neg hlength]
    unfold pushBody
    rw [hpush a b _ hroom, List.length_append, ← Nat.add_assoc]

/-! ### Two chunks -/

/-- What follows a chunk is read as by the parser behind that chunk, unless the body ended there; but inside a name it
is read as more of the name. -/
theorem processLoop_append (hpush : Appends pushBodyBytes) (a : List UInt8) {p : Parser σ} (hc : p.Consistent)
    (hinside : ¬ p.InsideHeaderName) :
    (∀ b, ¬ (processLoop pushBodyBytes a p).InsideHeaderName →
      (b ≠ [] → ¬ (processLoop pushBodyBytes a p).BodyEnded) →
      processLoop pushBodyBytes (a ++ b) p = processLoop pushBodyBytes b (processLoop pushBodyBytes a p)) ∧
    ∀ b, (processLoop pushBodyBytes a p).InsideHeaderName → b ≠ [] →
      processLoop pushBodyBytes (a ++ b) p =
        processLoop pushBodyBytes (parseUntil 58 headerNameParsed b (processLoop pushBodyBytes a p)).1
          (parseUntil 58 headerNameParsed b (processLoop pushBodyBytes a p)).2 := by
  induction hwork : p.work a using Nat.strongRecOn generalizing a p with
  | _ n ih =>
    by_cases hp : p.Active
    · by_cases ha : a = []
      · subst ha
        rw [processLoop_nil]
        exact ⟨fun b _ _ => rfl, fun b h => absurd h hinside⟩
      · have hstep : ∀ b, processLoop pushBodyBytes (a ++ b) p =
            processLoop pushBodyBytes (p.parse pushBodyBytes (a ++ b)).1 (p.parse pushBodyBytes (a ++ b)).2 := fun b =>
          processLoop_of_active pushBodyBytes (List.append_ne_nil_of_left_ne_nil ha b) hp
        by_cases hbody : p.currentParser = .parseBody
        · have hcurrent : (processLoop pushBodyBytes a p).currentParser ≠ .parseHeaderName := by
            rw [processLoop_body pushBodyBytes ha hp hbody]
            split_ifs <;> show p.currentParser ≠ _ <;> rw [hbody] <;> decide
          refine ⟨fun b _ hended => ?_, fun b h => absurd h.current hcurrent⟩
          by_cases hb : b = []
          · rw [hb, List.append_nil, processLoop_nil]
          · exact processLoop_body_append pushBodyBytes hpush ha hp hbody hb (hended hb)
        · rcases parse_append pushBodyBytes ha hp hc hbody with ⟨houtside, hwithin⟩ | ⟨q, hq⟩
          · have hless := work_parse_lt pushBodyBytes ha hp.1
            rw [processLoop_of_active pushBodyBytes ha hp]
            simp only [hstep, hwithin]
            exact ih _ (hwork ▸ hless) _ (consistent_parse pushBodyBytes hc hbody a) houtside rfl
          · have hchunk : processLoop pushBodyBytes a p = q := by
              rw [processLoop_of_active pushBodyBytes ha hp, hq.chunk, processLoop_nil]
            rw [hchunk]
            refine ⟨fun b hnot _ => ?_, fun b hin hb => ?_⟩
            · by_cases hb : b = []
              · rw [hb, List.append_nil, processLoop_nil, hchunk]
              · rw [hstep, hq.more b hb, if_neg fun h => hnot (hq.insideHeaderName h),
                  processLoop_of_active pushBodyBytes hb hq.active]
            · rw [hstep, hq.more b hb, if_pos hin.current]
    · rw [processLoop_of_not_active pushBodyBytes hp]
      refine ⟨fun b _ _ => ?_, fun b h => absurd h hinside⟩
      rw [processLoop_of_not_active pushBodyBytes hp, processLoop_of_not_active pushBodyBytes hp]

end Parser

end Forum.Http
