import Forum.Http.ParserBounds
import Forum.Http.PercentEncoding

/-!
# Request targets

`interpretPathString` looks for the separators of a path, its keys and its values while it decodes what is in front of
them. Each loop over a part ends at the first separator of its state, and the blank behind the target is where the last
value ends. `requestLine_parsed`: what is in an encoded target is what the parser finds in it.
-/

namespace Forum.Http

open Forum.Library

/-! ### What is sent -/

/-- A query: its pairs, joined by ampersands. -/
def queryString (pairs : List (List UInt8 × List UInt8)) : List UInt8 :=
  List.intercalate [38] (pairs.map fun pair => pair.1 ++ 61 :: pair.2)

/-- The target of a request: a path, and the pairs of its query. -/
def requestTarget (outputSize : ℕ) (path : List UInt8) (pairs : List (List UInt8 × List UInt8)) : List UInt8 :=
  47 :: percentEncode outputSize reservedCharactersForUrlEncodingWithoutSlash path ++
    63 :: queryString (pairs.map fun pair => (urlEncode outputSize pair.1, urlEncode outputSize pair.2))

/-- The verb in a request line. -/
def HttpVerb.text : HttpVerb → String
  | .GET => "GET"
  | .PUT => "PUT"
  | .POST => "POST"
  | .PATCH => "PATCH"
  | .DELETE => "DELETE"
  | .UNKNOWN => ""

/-- The first line of a request. -/
def requestLine (verb : HttpVerb) (target : List UInt8) (minorVersion : ℕ) : List UInt8 :=
  asciiBytes verb.text ++ 32 :: (target ++ 32 :: (asciiBytes "HTTP/1." ++ [UInt8.ofNat (48 + minorVersion), 13, 10]))

theorem queryString_singleton (pair : List UInt8 × List UInt8) : queryString [pair] = pair.1 ++ 61 :: pair.2 :=
  List.intercalate_singleton

theorem queryString_cons_cons (pair next : List UInt8 × List UInt8) (pairs : List (List UInt8 × List UInt8)) :
    queryString (pair :: next :: pairs) = pair.1 ++ 61 :: (pair.2 ++ 38 :: queryString (next :: pairs)) := by
  unfold queryString
  rw [List.map_cons, List.map_cons, List.intercalate_cons_cons, List.append_assoc, List.singleton_append, List.append_assoc,
    List.cons_append]

namespace Parser

variable {σ : Type*}

/-! ### The loop -/

/-- The character that ends a part. -/
def PathState.separator : PathState → UInt8
  | .path => 63
  | .key => 61
  | .value => 38

/-- The text is what is left of a path of `n` characters. -/
structure Reads (n : ℕ) (text : List UInt8) (p : Parser σ) : Prop where
  le : text.length ≤ n
  left : Left (p.parsePathStartsAt + n) text p

namespace Reads

variable {n : ℕ} {text : List UInt8} {p : Parser σ}

theorem size (h : Reads n text p) : p.parsePathStartsAt + n ≤ p.headerSize := h.left.size

theorem cons {c : UInt8} (h : Reads n (c :: text) p) :
    p.get (p.parsePathStartsAt + (n - (text.length + 1))) = c ∧ Reads n text p := by
  have hle := h.le
  obtain ⟨hc, hleft⟩ := h.left.cons
  rw [List.length_cons] at hle
  rw [Nat.add_sub_assoc hle] at hc
  exact ⟨hc, by omega, hleft⟩

/-- A part of the text. -/
theorem part {part : List UInt8} (h : Reads n (part ++ text) p) :
    View.bytes ⟨p.parsePathStartsAt + (n - (part ++ text).length), part.length⟩ p.headerBuffer = part := by
  rw [← Nat.add_sub_assoc h.le]
  exact h.left.part

theorem of_outside {q : Parser σ} (h : Reads n text p) (hq : Interprets p q)
    (hsame : ∀ i, p.parsePathStartsAt + (n - text.length) ≤ i → q.get i = p.get i) : Reads n text q := by
  refine ⟨h.le, ?_⟩
  rw [hq.parsePathStartsAt]
  refine h.left.of_outside hq.headerSize fun i hi => hsame i ?_
  rwa [← Nat.add_sub_assoc h.le]

end Reads

/-- A round of the loop. -/
theorem interpretPathLoop_cons (n : ℕ) (c : UInt8) (text : List UInt8) (l : PathLoop) (p : Parser σ) :
    p.interpretPathLoop n (c :: text).length l =
      (p.interpretPathCharacter (n - (text.length + 1)) n l).2.interpretPathLoop n text.length
        (p.interpretPathCharacter (n - (text.length + 1)) n l).1 := rfl

/-- A character that is no separator, and not the last one, is passed. -/
theorem interpretPathCharacter_other {i n : ℕ} {l : PathLoop} {p : Parser σ}
    (hc : p.get (p.parsePathStartsAt + i) ≠ l.state.separator) (hi : i + 1 ≠ n) :
    p.interpretPathCharacter i n l = (l, p) := by
  unfold interpretPathCharacter
  cases hstate : l.state with
  | path | value =>
    rw [hstate] at hc
    exact if_neg fun h => h.elim hc hi
  | key =>
    rw [hstate] at hc
    exact if_neg hc

/-- The loop passes a text without separators. -/
theorem interpretPathLoop_skip {n : ℕ} {skipped text : List UInt8} {l : PathLoop} {p : Parser σ}
    (h : Reads n (skipped ++ text) p) (hskipped : l.state.separator ∉ skipped) (htext : text ≠ []) :
    p.interpretPathLoop n (skipped ++ text).length l = p.interpretPathLoop n text.length l ∧ Reads n text p := by
  induction skipped with
  | nil => exact ⟨rfl, h⟩
  | cons c skipped ih =>
    rw [List.cons_append] at h
    obtain ⟨hc, hrest⟩ := h.cons
    have hlength : 0 < (skipped ++ text).length := List.length_pos_iff.2 (by simp [htext])
    have hle := h.le
    rw [List.length_cons] at hle
    have hother : p.interpretPathCharacter (n - ((skipped ++ text).length + 1)) n l = (l, p) :=
      interpretPathCharacter_other (by rw [hc]; exact fun heq => hskipped (heq ▸ List.mem_cons_self)) (by omega)
    rw [List.cons_append, interpretPathLoop_cons, hother]
    exact ih hrest fun hmem => hskipped (List.mem_cons_of_mem c hmem)

section Separators

variable {i n : ℕ} {l : PathLoop} {p : Parser σ}

/-- The path ends, at its question mark. -/
theorem interpretPathCharacter_path (hstate : l.state = .path) (hc : p.get (p.parsePathStartsAt + i) = 63) :
    p.interpretPathCharacter i n l = ({ l with state := .key, keyStart := i + 1, keyEnd := i + 1 },
      (p.viewAfterDecodingUrlEncodingInPlace p.parsePathStartsAt i).2.updateRequest
        ({ · with path := (p.viewAfterDecodingUrlEncodingInPlace p.parsePathStartsAt i).1 })) := by
  unfold interpretPathCharacter
  rw [hstate]
  exact if_pos (Or.inl hc)

/-- A key ends, at its equality sign. -/
theorem interpretPathCharacter_key (hstate : l.state = .key) (hc : p.get (p.parsePathStartsAt + i) = 61) :
    p.interpretPathCharacter i n l =
      ({ l with keyEnd := i, state := .value, valueStart := i + 1, valueEnd := i + 1 }, p) := by
  unfold interpretPathCharacter
  rw [hstate]
  exact if_pos hc

/-- A value ends, at an ampersand or with the path. -/
theorem interpretPathCharacter_value (hstate : l.state = .value)
    (hend : p.get (p.parsePathStartsAt + i) = 38 ∨ i + 1 = n) :
    p.interpretPathCharacter i n l =
      let key := p.viewBetween (p.parsePathStartsAt + l.keyStart) (p.parsePathStartsAt + l.keyEnd)
      let value := key.2.viewBetween (p.parsePathStartsAt + l.valueStart) (p.parsePathStartsAt + i)
      ({ l with valueEnd := i, keyStart := i + 1, keyEnd := i + 1, state := .key },
        value.2.updateRequest fun request => { request with queryPairs := request.queryPairs ++ [(key.1, value.1)] }) := by
  unfold interpretPathCharacter
  rw [hstate]
  exact if_pos hend

end Separators

/-- A pair of the query, whatever ends it. -/
theorem interpretPathLoop_pair {n : ℕ} {key value text : List UInt8} {separator : UInt8} {l : PathLoop} {p : Parser σ}
    (h : Reads n (key ++ 61 :: (value ++ separator :: text)) p) (hkey : 61 ∉ key) (hvalue : 38 ∉ value)
    (hseparator : separator = 38 ∨ text = []) (hstate : l.state = .key)
    (hstart : l.keyStart = n - (key ++ 61 :: (value ++ separator :: text)).length) :
    ∃ (l' : PathLoop) (q : Parser σ), l'.state = .key ∧ l'.keyStart = n - text.length ∧ Reads n text q ∧
      p.interpretPathLoop n (key ++ 61 :: (value ++ separator :: text)).length l =
        q.interpretPathLoop n text.length l' ∧
      Yields (·.queryPairs) (p.parsePathStartsAt + l.keyStart) (p.parsePathStartsAt + (n - text.length))
        [(decodeUrl key, decodeUrl value)] p q := by
  have hle := h.le
  have hsize := h.size
  have hkeyPart := h.part
  obtain ⟨hskip, hequal⟩ := interpretPathLoop_skip h (by rw [hstate]; exact hkey) (List.cons_ne_nil _ _)
  obtain ⟨hc, hrest⟩ := hequal.cons
  have hvaluePart := hrest.part
  simp only [List.length_append, List.length_cons] at hle hstart hkeyPart hvaluePart
  have hsign : n - ((value ++ separator :: text).length + 1) = l.keyStart + key.length := by
    rw [List.length_append, List.length_cons]
    omega
  rw [hsign] at hc
  have hkeyEnd := interpretPathCharacter_key (n := n) hstate hc
  obtain ⟨hskip', hlast⟩ := @interpretPathLoop_skip _ n value (separator :: text)
    { l with keyEnd := l.keyStart + key.length, state := .value, valueStart := l.keyStart + key.length + 1,
             valueEnd := l.keyStart + key.length + 1 } p hrest hvalue (List.cons_ne_nil _ _)
  have hlastIndex : n - (text.length + 1) = l.keyStart + key.length + 1 + value.length := by omega
  obtain ⟨hc', htext⟩ := hlast.cons
  have hend : p.get (p.parsePathStartsAt + (l.keyStart + key.length + 1 + value.length)) = 38 ∨
      l.keyStart + key.length + 1 + value.length + 1 = n := by
    rw [hlastIndex] at hc'
    rw [hc']
    refine hseparator.imp_right fun hempty => ?_
    rw [hempty, List.length_nil] at hlastIndex
    omega
  have hvalueEnd := @interpretPathCharacter_value _ _ _
    { l with keyEnd := l.keyStart + key.length, state := .value, valueStart := l.keyStart + key.length + 1,
             valueEnd := l.keyStart + key.length + 1 } p rfl hend
  have hkeyText : View.bytes ⟨p.parsePathStartsAt + l.keyStart, p.parsePathStartsAt + (l.keyStart + key.length) -
      (p.parsePathStartsAt + l.keyStart)⟩ p.headerBuffer = key := by
    rw [show p.parsePathStartsAt + (l.keyStart + key.length) - (p.parsePathStartsAt + l.keyStart) = key.length by omega,
      hstart]
    exact hkeyPart
  have hvalueText : View.bytes ⟨p.parsePathStartsAt + (l.keyStart + key.length + 1),
      p.parsePathStartsAt + (l.keyStart + key.length + 1 + value.length) -
        (p.parsePathStartsAt + (l.keyStart + key.length + 1))⟩ p.headerBuffer = value := by
    rw [show p.parsePathStartsAt + (l.keyStart + key.length + 1 + value.length) -
        (p.parsePathStartsAt + (l.keyStart + key.length + 1)) = value.length by omega,
      show l.keyStart + key.length + 1 = n - (value.length + (text.length + 1)) by omega]
    exact hvaluePart
  obtain ⟨key', hkey'⟩ : ∃ key', key' =
      p.viewBetween (p.parsePathStartsAt + l.keyStart) (p.parsePathStartsAt + (l.keyStart + key.length)) := ⟨_, rfl⟩
  obtain ⟨value', hvalue'⟩ : ∃ value', value' = key'.2.viewBetween (p.parsePathStartsAt + (l.keyStart + key.length + 1))
      (p.parsePathStartsAt + (l.keyStart + key.length + 1 + value.length)) := ⟨_, rfl⟩
  have hyields : Yields (·.queryPairs) (p.parsePathStartsAt + l.keyStart) (p.parsePathStartsAt + (n - text.length))
      [(decodeUrl key, decodeUrl value)] p (value'.2.updateRequest fun request =>
        { request with queryPairs := request.queryPairs ++ [(key'.1, value'.1)] }) := by
    rw [hvalue', hkey']
    refine Yields.mono (Yields.of_pair ?_ ?_ ?_ ?_ hkeyText hvalueText ?_ ?_) (Nat.le_refl _) ?_
    · omega
    · omega
    · omega
    · omega
    · exact fun _ => rfl
    · exact fun _ => rfl
    · omega
  refine ⟨⟨.key, l.keyStart + key.length + 1 + value.length + 1, l.keyStart + key.length + 1 + value.length + 1,
    l.keyStart + key.length + 1, l.keyStart + key.length + 1 + value.length⟩, _, rfl, ?_,
    htext.of_outside hyields.interprets fun i hi => hyields.outside i (Or.inr hi), ?_, hyields⟩
  · dsimp only
    omega
  · rw [hskip, interpretPathLoop_cons, hsign, hkeyEnd, hskip', interpretPathLoop_cons, hlastIndex, hvalueEnd, hvalue', hkey']

/-- The pairs of a query, in front of the blank. -/
theorem interpretPathLoop_pairs {n : ℕ} {pairs : List (List UInt8 × List UInt8)} {l : PathLoop} {p : Parser σ}
    (h : Reads n (queryString pairs ++ [32]) p)
    (hpairs : ∀ pair ∈ pairs, 61 ∉ pair.1 ∧ 38 ∉ pair.2) (hstate : l.state = .key)
    (hstart : l.keyStart = n - (queryString pairs ++ [32]).length) :
    Yields (·.queryPairs) (p.parsePathStartsAt + l.keyStart) (p.parsePathStartsAt + n)
      (pairs.map fun pair => (decodeUrl pair.1, decodeUrl pair.2)) p
      (p.interpretPathLoop n (queryString pairs ++ [32]).length l) := by
  induction pairs generalizing l p with
  | nil =>
    obtain ⟨hc, -⟩ := @Reads.cons _ n [] p 32 h
    have hblank : p.interpretPathCharacter (n - 1) n l = (l, p) := by
      unfold interpretPathCharacter
      rw [hstate]
      exact if_neg (by rw [show n - 1 = n - ([].length + 1) from rfl, hc]; decide)
    show Yields _ _ _ _ p (p.interpretPathCharacter (n - 1) n l).2
    rw [hblank]
    exact .refl _ _ _ p
  | cons pair pairs ih =>
    obtain ⟨hkey, hvalue⟩ := hpairs pair List.mem_cons_self
    have hle := h.le
    cases pairs with
    | nil =>
      have htext : queryString [pair] ++ [32] = pair.1 ++ 61 :: (pair.2 ++ 32 :: []) := by
        rw [queryString_singleton, List.append_assoc, List.cons_append]
      rw [htext] at h hstart ⊢
      obtain ⟨l', q, -, -, -, hloop, hyields⟩ := interpretPathLoop_pair h hkey hvalue (Or.inr rfl) hstate hstart
      rw [hloop]
      exact hyields
    | cons next pairs =>
      have htext : queryString (pair :: next :: pairs) ++ [32] =
          pair.1 ++ 61 :: (pair.2 ++ 38 :: (queryString (next :: pairs) ++ [32])) := by
        rw [queryString_cons_cons, List.append_assoc, List.cons_append, List.append_assoc, List.cons_append]
      rw [htext] at h hstart hle ⊢
      obtain ⟨l', q, hstate', hstart', hreads, hloop, hyields⟩ :=
        interpretPathLoop_pair h hkey hvalue (Or.inl rfl) hstate hstart
      have hrest := ih hreads (fun pair hpair => hpairs pair (List.mem_cons_of_mem _ hpair)) hstate' hstart'
      rw [hyields.interprets.parsePathStartsAt, hstart'] at hrest
      rw [hloop]
      simp only [List.length_append, List.length_cons, List.length_nil] at hle hstart
      refine hyields.trans hrest ?_ (by omega)
      rw [List.length_append, List.length_singleton]
      omega

/-- The path and the pairs of a target, in front of the blank. -/
theorem interpretPathString_target {path : List UInt8} {pairs : List (List UInt8 × List UInt8)} {p : Parser σ}
    (hshown : p.request.path.bytes p.headerBuffer = path ++ 63 :: (queryString pairs ++ [32]))
    (hstart : p.request.path.start = p.parsePathStartsAt) (hwithin : p.request.path.Within p.headerSize)
    (hsize : p.request.path.size < 2 ^ 31) (hpath : 63 ∉ path) (hpairs : ∀ pair ∈ pairs, 61 ∉ pair.1 ∧ 38 ∉ pair.2)
    (hnone : p.request.queryPairs = []) :
    (p.interpretPathString.request.path.Within p.headerSize ∧
      p.interpretPathString.request.path.bytes p.interpretPathString.headerBuffer = decodeUrl path) ∧
      (∀ view ∈ p.interpretPathString.request.queryPairs, view.1.Within p.headerSize ∧ view.2.Within p.headerSize) ∧
        p.interpretPathString.shownPairs p.interpretPathString.request.queryPairs =
          pairs.map fun pair => (decodeUrl pair.1, decodeUrl pair.2) := by
  have hlength := length_bytes hwithin
  unfold View.Within at hwithin
  rw [hstart] at hwithin
  have hreads : Reads p.request.path.size (path ++ 63 :: (queryString pairs ++ [32])) p := by
    refine ⟨by rw [← hshown, hlength], by rw [← hshown, hlength]; omega, hwithin, ?_⟩
    rw [← hshown, hlength, Nat.add_sub_cancel, ← hstart]
  have hn : (castInt p.request.path.size).toNat = p.request.path.size := by
    unfold castInt
    rw [Int.bmod_eq_of_le (by omega) (by omega)]
    rfl
  have hpathPart := hreads.part
  rw [hshown] at hlength
  obtain ⟨hskip, hmark⟩ := interpretPathLoop_skip (l := {}) hreads hpath (List.cons_ne_nil _ _)
  obtain ⟨hc, hquery⟩ := hmark.cons
  have htotal : path.length + ((queryString pairs ++ [32]).length + 1) = p.request.path.size := by
    have htotal := hlength
    rwa [List.length_append, List.length_cons] at htotal
  have hindex : p.request.path.size - ((queryString pairs ++ [32]).length + 1) = path.length := by omega
  rw [hindex] at hc
  rw [hlength, Nat.sub_self, Nat.add_zero] at hpathPart
  rw [hlength] at hskip
  have hend := @interpretPathCharacter_path _ _ p.request.path.size {} p rfl hc
  obtain ⟨hview, hwrites⟩ := Rewrites.viewAfterDecodingUrlEncodingInPlace p.parsePathStartsAt path.length p
  have hbytes := @bytes_viewAfterDecodingUrlEncodingInPlace _ p.parsePathStartsAt path.length p (by omega)
  rw [hpathPart] at hbytes
  generalize p.viewAfterDecodingUrlEncodingInPlace p.parsePathStartsAt path.length = decoded at *
  have hinterprets := hwrites.interprets.trans (.updateRequest ({ · with path := decoded.1 }) decoded.2)
  have hyields := interpretPathLoop_pairs (l := { ({} : PathLoop) with
      state := .key, keyStart := path.length + 1, keyEnd := path.length + 1 })
    (hquery.of_outside hinterprets fun i hi => hwrites.outside i (Or.inr (by omega))) hpairs rfl (by
      dsimp only
      omega)
  have hresult : p.interpretPathString = (decoded.2.updateRequest ({ · with path := decoded.1 })).interpretPathLoop
      p.request.path.size (queryString pairs ++ [32]).length { ({} : PathLoop) with
        state := .key, keyStart := path.length + 1, keyEnd := path.length + 1 } := by
    unfold interpretPathString
    dsimp only
    rw [hn, hskip, interpretPathLoop_cons, hindex, hend]
  rw [hresult]
  constructor
  · rw [hyields.path]
    refine ⟨hview.mono (by omega),
      (bytes_of_within hyields.interprets.headerSize hview fun i hi => hyields.outside i (Or.inl ?_)).trans hbytes⟩
    dsimp only
    rw [hinterprets.parsePathStartsAt]
    omega
  · obtain ⟨views, hwithin, hfield, hshown⟩ := hyields.views
    have hempty : (decoded.2.updateRequest ({ · with path := decoded.1 })).request.queryPairs = [] :=
      (congrArg HttpRequest.queryPairs hwrites.request).trans hnone
    rw [hfield, hempty, List.nil_append]
    refine ⟨fun view hview => ?_, hshown⟩
    have hle : (decoded.2.updateRequest ({ · with path := decoded.1 })).parsePathStartsAt + p.request.path.size ≤
        p.headerSize := by
      rw [hinterprets.parsePathStartsAt]
      omega
    exact ⟨(hwithin view hview).1.mono hle, (hwithin view hview).2.mono hle⟩

/-- A view without its leading characters. -/
theorem bytes_trimLeadingChar (view : View) (toTrim : UInt8) (p : Parser σ) :
    (p.trimLeadingChar view toTrim).bytes p.headerBuffer =
      (view.bytes p.headerBuffer).dropWhile (· == toTrim) := by
  have hdrop : ∀ text : List UInt8,
      text.drop (text.takeWhile (· == toTrim)).length = text.dropWhile (· == toTrim) := fun text => by
    have hsplit := List.takeWhile_append_dropWhile (p := (· == toTrim)) (l := text)
    calc text.drop (text.takeWhile (· == toTrim)).length =
        (text.takeWhile (· == toTrim) ++ text.dropWhile (· == toTrim)).drop (text.takeWhile (· == toTrim)).length := by
          rw [hsplit]
      _ = text.dropWhile (· == toTrim) := List.drop_left
  rw [← hdrop]
  unfold trimLeadingChar View.bytes
  dsimp only
  rw [List.drop_take, List.drop_drop]

/-! ### The request line -/

/-- A part of a line is copied up to the character behind it, where there is room for it. -/
theorem copyUntil_part {toSearch : UInt8} {part : List UInt8} (hpart : toSearch ∉ part) (rest : List UInt8) {p : Parser σ}
    (hroom : p.headerSize + part.length < p.headerBufferSize) : ∃ accesses,
      copyUntil toSearch (part ++ toSearch :: rest) p = (true, rest,
        { p with headerBuffer := p.headerBuffer ++ (part ++ [toSearch]), accesses := accesses }) := by
  induction part generalizing p with
  | nil =>
    refine ⟨(p.append toSearch).accesses, ?_⟩
    rw [List.nil_append, copyUntil, if_neg (Nat.not_le.2 (by simpa using hroom)), if_pos rfl]
    rfl
  | cons c part ih =>
    rw [List.length_cons] at hroom
    obtain ⟨accesses, hcopy⟩ := @ih (fun hmem => hpart (List.mem_cons_of_mem c hmem)) (p.append c) (by
      rw [headerSize_append]
      show p.headerSize + 1 + part.length < p.headerBufferSize
      omega)
    refine ⟨accesses, ?_⟩
    rw [List.cons_append, copyUntil, if_neg (by omega), if_neg (fun heq : c = toSearch => hpart (heq ▸ List.mem_cons_self)),
      hcopy]
    show (true, rest, { p with headerBuffer := p.headerBuffer ++ [c] ++ (part ++ [toSearch]), accesses := accesses }) = _
    rw [List.append_assoc, List.singleton_append, List.cons_append]

/-- A state that copies goes on behind its part. -/
theorem parse_part {pushBodyBytes : List UInt8 → σ → Bool × σ} {p : Parser σ} {toSearch : UInt8}
    {parsed : Parser σ → Parser σ} (h : copies p.currentParser = some (toSearch, parsed)) {part : List UInt8}
    (hpart : toSearch ∉ part) (rest : List UInt8) (hroom : p.headerSize + part.length < p.headerBufferSize) : ∃ accesses,
      p.parse pushBodyBytes (part ++ toSearch :: rest) =
        (rest, parsed { p with headerBuffer := p.headerBuffer ++ (part ++ [toSearch]), accesses := accesses }) := by
  obtain ⟨accesses, hcopy⟩ := copyUntil_part hpart rest hroom
  refine ⟨accesses, ?_⟩
  rw [parse_of_copies pushBodyBytes h (by simp), parseUntil, hcopy]

/-- What a parser has found in a request line so far. -/
structure Finds (verb : HttpVerb) (path : List UInt8) (pairs : List (List UInt8 × List UInt8)) (p : Parser σ) : Prop where
  active : p.Active
  verb : p.request.verb = verb
  path : p.request.path.Within p.headerSize ∧ p.request.path.bytes p.headerBuffer = path
  within : ∀ view ∈ p.request.queryPairs, view.1.Within p.headerSize ∧ view.2.Within p.headerSize
  pairs : p.shownPairs p.request.queryPairs = pairs

theorem bytes_append {view : View} {headerBuffer : List UInt8} (h : view.Within headerBuffer.length) (more : List UInt8) :
    view.bytes (headerBuffer ++ more) = view.bytes headerBuffer := by
  unfold View.Within at h
  unfold View.bytes
  rw [List.drop_append_of_le_length (by omega), List.take_append_of_le_length (by rw [List.length_drop]; omega)]

/-- Reading on changes nothing of it. -/
theorem Finds.append {verb : HttpVerb} {path : List UInt8} {pairs : List (List UInt8 × List UInt8)} {p q : Parser σ}
    (h : p.Finds verb path pairs) (hactive : q.Active) {more : List UInt8} (hbuffer : q.headerBuffer = p.headerBuffer ++ more)
    (hrequest : q.request.verb = p.request.verb ∧ q.request.path = p.request.path ∧
      q.request.queryPairs = p.request.queryPairs) : q.Finds verb path pairs := by
  obtain ⟨hverb, hpath, hpairs⟩ := hrequest
  have hle : p.headerSize ≤ q.headerSize := by
    unfold headerSize
    rw [hbuffer, List.length_append]
    exact Nat.le_add_right _ _
  refine ⟨hactive, hverb.trans h.verb, ?_, ?_, ?_⟩
  · rw [hpath, hbuffer, bytes_append h.path.1]
    exact ⟨h.path.1.mono hle, h.path.2⟩
  · rw [hpairs]
    exact fun view hview => ⟨(h.within view hview).1.mono hle, (h.within view hview).2.mono hle⟩
  · rw [hpairs, ← h.pairs]
    refine List.map_congr_left fun view hview => ?_
    rw [hbuffer, bytes_append (h.within view hview).1, bytes_append (h.within view hview).2]

theorem pathInterpreted_starts (p : Parser σ) :
    p.pathInterpreted.parseVersionStartsAt = p.pathInterpreted.headerSize ∧
      p.pathInterpreted.headerSize = p.headerSize := ⟨rfl, rfl⟩

theorem pathParsed_starts (p : Parser σ) :
    p.pathParsed.parseVersionStartsAt = p.pathParsed.headerSize ∧ p.pathParsed.headerSize = p.headerSize := by
  unfold pathParsed
  obtain ⟨hstarts, hsize⟩ := pathInterpreted_starts ((p.updateRequest
    ({ · with path := ⟨p.parsePathStartsAt, p.headerSize - p.parsePathStartsAt⟩ })).interpretPathString)
  exact ⟨hstarts, hsize.trans (Interprets.interpretPathString _).headerSize⟩

/-- The path that was found is trimmed. -/
theorem finds_pathInterpreted {verb : HttpVerb} {path : List UInt8} {pairs : List (List UInt8 × List UInt8)} {p : Parser σ}
    (h : p.Finds verb path pairs) : p.pathInterpreted.Finds verb (path.dropWhile (· == 47)) pairs := by
  refine ⟨h.active, h.verb, ⟨?_, ?_⟩, h.within, h.pairs⟩
  · exact (within_trimLeadingChar_iff 47 p).2 h.path.1
  · rw [← h.path.2]
    exact bytes_trimLeadingChar p.request.path 47 p

theorem finds_interpretPathString {path : List UInt8} {pairs : List (List UInt8 × List UInt8)} {p : Parser σ}
    (hshown : p.request.path.bytes p.headerBuffer = path ++ 63 :: (queryString pairs ++ [32]))
    (hstart : p.request.path.start = p.parsePathStartsAt) (hwithin : p.request.path.Within p.headerSize)
    (hsize : p.request.path.size < 2 ^ 31) (hpath : 63 ∉ path) (hpairs : ∀ pair ∈ pairs, 61 ∉ pair.1 ∧ 38 ∉ pair.2)
    (hnone : p.request.queryPairs = []) (hactive : p.Active) :
    p.interpretPathString.Finds p.request.verb (decodeUrl path)
      (pairs.map fun pair => (decodeUrl pair.1, decodeUrl pair.2)) := by
  obtain ⟨hfound, hviews, hshownPairs⟩ := interpretPathString_target hshown hstart hwithin hsize hpath hpairs hnone
  have hinterprets := Interprets.interpretPathString p
  have hread := ReadsPath.interpretPathString (p := p) rfl (by
    have hle := castInt_le p.request.path.size
    unfold View.Within at hwithin
    omega)
  refine ⟨hinterprets.active_iff.2 hactive, hread.verb, ?_, ?_, hshownPairs⟩
  · rw [hinterprets.headerSize]
    exact hfound
  · rw [hinterprets.headerSize]
    exact hviews

theorem finds_pathParsed {path : List UInt8} {pairs : List (List UInt8 × List UInt8)} {p : Parser σ}
    (hstart : p.parsePathStartsAt ≤ p.headerSize)
    (hshown : View.bytes ⟨p.parsePathStartsAt, p.headerSize - p.parsePathStartsAt⟩ p.headerBuffer =
      path ++ 63 :: (queryString pairs ++ [32]))
    (hsize : p.headerSize < 2 ^ 31) (hpath : 63 ∉ path) (hpairs : ∀ pair ∈ pairs, 61 ∉ pair.1 ∧ 38 ∉ pair.2)
    (hnone : p.request.queryPairs = []) (hactive : p.Active) :
    p.pathParsed.Finds p.request.verb ((decodeUrl path).dropWhile (· == 47))
      (pairs.map fun pair => (decodeUrl pair.1, decodeUrl pair.2)) := by
  refine finds_pathInterpreted (finds_interpretPathString
    (p := p.updateRequest ({ · with path := ⟨p.parsePathStartsAt, p.headerSize - p.parsePathStartsAt⟩ })) hshown rfl ?_ ?_
    hpath hpairs hnone hactive)
  · exact Nat.le_of_eq (Nat.add_sub_cancel' hstart)
  · exact Nat.lt_of_le_of_lt (Nat.sub_le _ _) hsize

/-! #### Its three parts -/

section Line

variable {pushBodyBytes : List UInt8 → σ → Bool × σ} {p : Parser σ}

theorem parseHttpVerb_text {verb : HttpVerb} (h : verb ≠ .UNKNOWN) :
    parseHttpVerb (asciiBytes verb.text) = verb ∧ 32 ∉ asciiBytes verb.text := by
  cases verb
  case UNKNOWN => exact absurd rfl h
  all_goals decide

theorem processLoop_verb {verb : HttpVerb} (hverb : verb ≠ .UNKNOWN) (hactive : p.Active)
    (hcurrent : p.currentParser = .parseVerb) (hempty : p.headerBuffer = []) (rest : List UInt8)
    (hroom : (asciiBytes verb.text).length < p.headerBufferSize) : ∃ accesses,
      p.processLoop pushBodyBytes (asciiBytes verb.text ++ 32 :: rest) = processLoop pushBodyBytes rest
        { p with
          headerBuffer := asciiBytes verb.text ++ [32]
          request := { p.request with verb := verb }
          currentParser := .parsePath
          parsePathStartsAt := (asciiBytes verb.text ++ [32]).length
          accesses := accesses } := by
  obtain ⟨hparse, hblank⟩ := parseHttpVerb_text hverb
  obtain ⟨accesses, hpart⟩ := @parse_part _ pushBodyBytes p 32 verbParsed (by rw [hcurrent]; rfl) _ hblank rest (by
    unfold headerSize
    rwa [hempty, List.length_nil, Nat.zero_add])
  refine ⟨accesses, ?_⟩
  rw [processLoop_of_active pushBodyBytes (by simp) hactive, hpart, hempty, List.nil_append]
  refine congrArg (processLoop pushBodyBytes rest) ?_
  have hfound : parseHttpVerb ((asciiBytes verb.text ++ [32]).take ((asciiBytes verb.text ++ [32]).length - 1)) = verb := by
    rw [List.length_append, List.length_singleton, Nat.add_sub_cancel, List.take_left, hparse]
  unfold verbParsed headerSize
  dsimp only
  rw [hfound, if_neg hverb]
  rfl

theorem processLoop_target {path : List UInt8} {pairs : List (List UInt8 × List UInt8)} (hactive : p.Active)
    (hcurrent : p.currentParser = .parsePath) (hstart : p.parsePathStartsAt = p.headerSize)
    (hnone : p.request.queryPairs = []) (hblank : 32 ∉ path ++ 63 :: queryString pairs) (hpath : 63 ∉ path)
    (hpairs : ∀ pair ∈ pairs, 61 ∉ pair.1 ∧ 38 ∉ pair.2) (rest : List UInt8)
    (hroom : p.headerSize + (path ++ 63 :: queryString pairs).length < p.headerBufferSize)
    (hsize : p.headerBufferSize < 2 ^ 31) : ∃ q : Parser σ,
      p.processLoop pushBodyBytes (path ++ 63 :: queryString pairs ++ 32 :: rest) = q.processLoop pushBodyBytes rest ∧
        q.Finds p.request.verb ((decodeUrl path).dropWhile (· == 47))
          (pairs.map fun pair => (decodeUrl pair.1, decodeUrl pair.2)) ∧
        q.currentParser = .parseVersion ∧ q.parseVersionStartsAt = q.headerSize ∧
        q.headerSize = p.headerSize + (path ++ 63 :: queryString pairs).length + 1 ∧
        q.headerBufferSize = p.headerBufferSize := by
  obtain ⟨accesses, hpart⟩ := @parse_part _ pushBodyBytes p 32 pathParsed (by rw [hcurrent]; rfl) _ hblank rest hroom
  obtain ⟨q, hq⟩ : ∃ q, q = ({ p with
    headerBuffer := p.headerBuffer ++ (path ++ 63 :: queryString pairs ++ [32]), accesses := accesses } : Parser σ) := ⟨_, rfl⟩
  have hlength : q.headerSize = p.headerSize + (path ++ 63 :: queryString pairs).length + 1 := by
    rw [hq]
    unfold headerSize
    dsimp only
    rw [List.length_append, List.length_append, List.length_singleton, Nat.add_assoc]
  have hfirst : q.parsePathStartsAt = p.headerSize := by rw [hq]; exact hstart
  have hshown : View.bytes ⟨q.parsePathStartsAt, q.headerSize - q.parsePathStartsAt⟩ q.headerBuffer =
      path ++ 63 :: (queryString pairs ++ [32]) := by
    have htaken : q.headerSize - p.headerSize = (path ++ 63 :: queryString pairs ++ [32]).length := by
      rw [List.length_append, List.length_singleton]
      omega
    rw [hfirst, htaken, hq]
    unfold View.bytes headerSize
    dsimp only
    rw [List.drop_left, List.take_length, List.append_assoc, List.cons_append]
  have hverb : q.request.verb = p.request.verb := by rw [hq]
  have hbuffer : q.headerBufferSize = p.headerBufferSize := by rw [hq]
  have hfinds := finds_pathParsed (by omega) hshown (by omega) hpath hpairs (by rw [hq]; exact hnone)
    (by rw [hq]; exact hactive)
  obtain ⟨hstarts, hsame⟩ := pathParsed_starts q
  refine ⟨q.pathParsed, ?_, ?_, currentParser_pathParsed q, hstarts, hsame.trans hlength, ?_⟩
  · rw [processLoop_of_active pushBodyBytes (by simp) hactive, hpart, hq]
  · rw [← hverb]
    exact hfinds
  · rw [← hbuffer]
    exact (keepsBody_pathParsed q).headerBufferSize

/-- A character that was added behind what was read before. -/
theorem get_append {before more : List UInt8} (hbuffer : p.headerBuffer = before ++ more) (i : ℕ) :
    p.get (before.length + i) = more.getD i 0 := by
  unfold get
  rw [hbuffer, List.getD_append_right _ _ _ _ (Nat.le_add_right _ _), Nat.add_sub_cancel_left]

/-- The digit of a minor version. -/
theorem minorVersion_cases {minorVersion : ℕ} (h : minorVersion ≤ 1) :
    UInt8.ofNat (48 + minorVersion) = 48 ∨ UInt8.ofNat (48 + minorVersion) = 49 := by
  rcases Nat.le_one_iff_eq_zero_or_eq_one.1 h with rfl | rfl
  · exact Or.inl rfl
  · exact Or.inr rfl

/-- A version that is accepted. -/
theorem versionParsed_accepted (hsize : p.headerSize - 1 - p.parseVersionStartsAt = 8)
    (hmajor : p.get (p.parseVersionStartsAt + 5) = 49)
    (hminor : p.get (p.parseVersionStartsAt + 7) = 48 ∨ p.get (p.parseVersionStartsAt + 7) = 49) :
    ∃ versionMinor, p.versionParsed = { p with
      request := { p.request with versionMajor := 1, versionMinor := versionMinor }
      currentParser := .parseNewLine } := by
  unfold versionParsed
  rw [if_neg (fun h => h hsize), if_neg (fun h => h hmajor)]
  rcases hminor with hdigit | hdigit
  · refine ⟨0, ?_⟩
    dsimp only
    rw [if_pos hdigit]
    rfl
  · refine ⟨1, ?_⟩
    dsimp only
    rw [hdigit, if_neg (by decide), if_pos rfl]
    rfl

/-- The line feed behind a line that is not empty. -/
theorem processLoop_lineFeed (hactive : p.Active) (hcurrent : p.currentParser = .parseNewLine)
    (hroom : p.headerSize < p.headerBufferSize) (hpos : 1 < p.headerSize) (hreturn : p.get (p.headerSize - 1) = 13)
    (hline : (p.append 10).get (p.headerSize - 2) ≠ 10) :
    p.processLoop pushBodyBytes [10] =
      { p.append 10 with currentParser := .parseHeaderName, parseHeaderNameStartsAt := (p.append 10).headerSize } := by
  have hparse : p.parse pushBodyBytes [10] = ([], (p.append 10).newLineParsed) := by
    simp only [parse, hcurrent]
    refine if_neg ?_
    rintro (hne | hfull | hempty | hne)
    · exact hne rfl
    · omega
    · omega
    · exact hne hreturn
  rw [processLoop_of_active pushBodyBytes (List.cons_ne_nil _ _) hactive, hparse, processLoop_nil]
  unfold newLineParsed
  refine if_neg ?_
  rintro ⟨-, hbefore, -⟩
  rw [headerSize_append, show p.headerSize + 1 - 3 = p.headerSize - 2 by omega] at hbefore
  exact hline hbefore

theorem processLoop_version {verb : HttpVerb} {path : List UInt8} {pairs : List (List UInt8 × List UInt8)} {minorVersion : ℕ}
    (hminor : minorVersion ≤ 1) (h : p.Finds verb path pairs) (hcurrent : p.currentParser = .parseVersion)
    (hstart : p.parseVersionStartsAt = p.headerSize) (hroom : p.headerSize + 10 ≤ p.headerBufferSize) :
    (p.processLoop pushBodyBytes (asciiBytes "HTTP/1." ++ [UInt8.ofNat (48 + minorVersion), 13, 10])).Finds
      verb path pairs := by
  have hline : asciiBytes "HTTP/1." ++ [UInt8.ofNat (48 + minorVersion), 13, 10] =
      (asciiBytes "HTTP/1." ++ [UInt8.ofNat (48 + minorVersion)]) ++ 13 :: [10] := by
    rw [List.append_assoc]
    rfl
  have hdigit := minorVersion_cases hminor
  generalize UInt8.ofNat (48 + minorVersion) = digit at *
  have hreturn : 13 ∉ asciiBytes "HTTP/1." ++ [digit] := by
    rcases hdigit with rfl | rfl <;> decide
  obtain ⟨accesses, hpart⟩ := @parse_part _ pushBodyBytes p 13 versionParsed (by rw [hcurrent]; rfl) _ hreturn [10] (by
    show p.headerSize + 8 < p.headerBufferSize
    omega)
  obtain ⟨q, hq⟩ : ∃ q, q = ({ p with
    headerBuffer := p.headerBuffer ++ (asciiBytes "HTTP/1." ++ [digit] ++ [13]), accesses := accesses } : Parser σ) :=
    ⟨_, rfl⟩
  have hbuffer : q.headerBuffer = p.headerBuffer ++ (asciiBytes "HTTP/1." ++ [digit] ++ [13]) := by rw [hq]
  have hlength : q.headerSize = p.headerSize + 9 := by
    unfold headerSize
    rw [hbuffer, List.length_append]
    rfl
  have hget := get_append hbuffer
  have hfirst : q.parseVersionStartsAt = p.headerBuffer.length := by rw [hq]; exact hstart
  obtain ⟨versionMinor, haccepted⟩ := @versionParsed_accepted _ q
    (by rw [hlength, hfirst]; unfold headerSize; omega) (by rw [hfirst, hget]; rfl) (by rw [hfirst, hget]; exact hdigit)
  obtain ⟨r, hr⟩ : ∃ r, r = q.versionParsed := ⟨_, rfl⟩
  have hbuffer' : r.headerBuffer = p.headerBuffer ++ (asciiBytes "HTTP/1." ++ [digit] ++ [13]) := by
    rw [hr, haccepted]
    exact hbuffer
  have hlength' : r.headerSize = p.headerBuffer.length + 9 := by
    rw [hr, haccepted]
    exact hlength
  have hactive : r.Active := by
    rw [hr, haccepted, hq]
    exact h.active
  have hlast : (r.append 10).headerBuffer =
      p.headerBuffer ++ (asciiBytes "HTTP/1." ++ [digit] ++ [13] ++ [10]) := by
    show r.headerBuffer ++ [10] = _
    rw [hbuffer', List.append_assoc]
  have hfeed := @processLoop_lineFeed _ pushBodyBytes r hactive (by rw [hr, haccepted]) (by
    rw [hlength', hr, haccepted, hq]
    exact Nat.lt_of_lt_of_le (Nat.add_lt_add_left (by decide) _) hroom) (by omega)
    (by rw [hlength', show p.headerBuffer.length + 9 - 1 = p.headerBuffer.length + 8 by omega, get_append hbuffer']; rfl)
    (by
      rw [hlength', show p.headerBuffer.length + 9 - 2 = p.headerBuffer.length + 7 by omega, get_append hlast]
      show digit ≠ 10
      rcases hdigit with rfl | rfl <;> decide)
  rw [hline, processLoop_of_active pushBodyBytes (by simp) h.active, hpart, ← hq, ← hr, hfeed]
  refine h.append hactive hlast ?_
  rw [hr, haccepted, hq]
  exact ⟨rfl, rfl, rfl⟩

end Line

/-! ### What is found -/

theorem not_mem_queryString {c : UInt8} (hc : c ≠ 61 ∧ c ≠ 38) {pairs : List (List UInt8 × List UInt8)}
    (hpairs : ∀ pair ∈ pairs, c ∉ pair.1 ∧ c ∉ pair.2) : c ∉ queryString pairs := by
  induction pairs with
  | nil => exact List.not_mem_nil
  | cons pair pairs ih =>
    obtain ⟨hkey, hvalue⟩ := hpairs pair List.mem_cons_self
    have hpair : c ∉ pair.1 ++ 61 :: pair.2 := by
      simp [hkey, hvalue, hc.1]
    cases pairs with
    | nil => rwa [queryString_singleton]
    | cons next pairs =>
      rw [queryString_cons_cons]
      have hrest := ih fun pair hpair => hpairs pair (List.mem_cons_of_mem _ hpair)
      simp [hkey, hvalue, hc, hrest]

/-- What is encoded for a target has none of the characters that end its parts. -/
theorem not_mem_encoded {outputSize : ℕ} {input : List UInt8} (h : input.length * 3 ≤ outputSize) :
    (32 ∉ urlEncode outputSize input ∧ 38 ∉ urlEncode outputSize input ∧ 61 ∉ urlEncode outputSize input) ∧
      32 ∉ percentEncode outputSize reservedCharactersForUrlEncodingWithoutSlash input ∧
        63 ∉ percentEncode outputSize reservedCharactersForUrlEncodingWithoutSlash input := by
  unfold urlEncode
  rw [percentEncode_of_le h, percentEncode_of_le h]
  exact ⟨⟨not_mem_percentEncode (by decide) (by decide) _, not_mem_percentEncode (by decide) (by decide) _,
    not_mem_percentEncode (by decide) (by decide) _⟩, not_mem_percentEncode (by decide) (by decide) _,
    not_mem_percentEncode (by decide) (by decide) _⟩

/-- What either table encodes is decoded. -/
theorem decodeUrl_percentEncode {outputSize : ℕ} {input : List UInt8} (h : input.length * 3 ≤ outputSize)
    {table : UInt8 → Bool} (htable : table 37 = true) : decodeUrl (percentEncode outputSize table input) = input := by
  have hdecoded := @decodeUrl_flatMap table input (fun c _ hc => by rw [hc, htable]) []
  rwa [List.append_nil, decodeUrl_nil, List.append_nil, ← percentEncode_of_le h table] at hdecoded

theorem finds_requestLine {outputSize : ℕ} {verb : HttpVerb} {path : List UInt8} {pairs : List (List UInt8 × List UInt8)}
    {minorVersion headerBufferSize : ℕ} (hverb : verb ≠ .UNKNOWN) (hminor : minorVersion ≤ 1) (hslash : path.head? ≠ some 47)
    (hpath : path.length * 3 ≤ outputSize)
    (hpairs : ∀ pair ∈ pairs, pair.1.length * 3 ≤ outputSize ∧ pair.2.length * 3 ≤ outputSize)
    (hfits : (requestLine verb (requestTarget outputSize path pairs) minorVersion).length ≤ headerBufferSize)
    (hsize : headerBufferSize < 2 ^ 31) (tryLexicalConvert : List UInt8 → Option ℕ) (maxContentLength : ℕ)
    (pushBodyBytesState : σ) (pushBodyBytes : List UInt8 → σ → Bool × σ) :
    ((newParser tryLexicalConvert headerBufferSize maxContentLength pushBodyBytesState).process pushBodyBytes
      (requestLine verb (requestTarget outputSize path pairs) minorVersion)).Finds verb path pairs := by
  obtain ⟨hpathBlank, hpathMark⟩ := (not_mem_encoded hpath).2
  have hencoded : ∀ pair ∈ pairs.map fun pair => (urlEncode outputSize pair.1, urlEncode outputSize pair.2),
      (61 ∉ pair.1 ∧ 38 ∉ pair.2) ∧ 32 ∉ pair.1 ∧ 32 ∉ pair.2 := by
    intro pair hpair
    obtain ⟨original, horiginal, rfl⟩ := List.mem_map.1 hpair
    obtain ⟨hkey, hvalue⟩ := hpairs original horiginal
    obtain ⟨hkeyBlank, -, hkeySign⟩ := (not_mem_encoded hkey).1
    obtain ⟨hvalueBlank, hvalueAmpersand, -⟩ := (not_mem_encoded hvalue).1
    exact ⟨⟨hkeySign, hvalueAmpersand⟩, hkeyBlank, hvalueBlank⟩
  have hdecoded : (pairs.map fun pair => (urlEncode outputSize pair.1, urlEncode outputSize pair.2)).map
      (fun pair => (decodeUrl pair.1, decodeUrl pair.2)) = pairs := by
    rw [List.map_map]
    refine (List.map_congr_left fun pair hpair => ?_).trans (List.map_id pairs)
    obtain ⟨hkey, hvalue⟩ := hpairs pair hpair
    exact Prod.ext (decodeUrl_percentEncode hkey (by decide)) (decodeUrl_percentEncode hvalue (by decide))
  have htrimmed : (decodeUrl (47 :: percentEncode outputSize reservedCharactersForUrlEncodingWithoutSlash path)).dropWhile
      (· == 47) = path := by
    rw [decodeUrl_cons (by decide), decodeUrl_percentEncode hpath (by decide), List.dropWhile_cons_of_pos (by decide)]
    cases path with
    | nil => rfl
    | cons c path => exact List.dropWhile_cons_of_neg fun hc => hslash (congrArg some (beq_iff_eq.1 hc))
  have hblank : 32 ∉ (47 :: percentEncode outputSize reservedCharactersForUrlEncodingWithoutSlash path) ++
      63 :: queryString (pairs.map fun pair => (urlEncode outputSize pair.1, urlEncode outputSize pair.2)) := by
    have hquery := not_mem_queryString (by decide) fun pair hpair => (hencoded pair hpair).2
    simp [hpathBlank, hquery]
  have hmark : 63 ∉ 47 :: percentEncode outputSize reservedCharactersForUrlEncodingWithoutSlash path := by
    simp [hpathMark]
  unfold requestLine requestTarget at hfits ⊢
  generalize 47 :: percentEncode outputSize reservedCharactersForUrlEncodingWithoutSlash path = encodedPath at *
  generalize pairs.map (fun pair => (urlEncode outputSize pair.1, urlEncode outputSize pair.2)) = encodedPairs at *
  simp only [List.length_append, List.length_cons] at hfits
  rw [process_eq]
  obtain ⟨accesses, hverbLoop⟩ := @processLoop_verb _ pushBodyBytes
    (newParser tryLexicalConvert headerBufferSize maxContentLength pushBodyBytesState) verb hverb ⟨rfl, rfl⟩ rfl rfl
    (encodedPath ++ 63 :: queryString encodedPairs ++ 32 ::
      (asciiBytes "HTTP/1." ++ [UInt8.ofNat (48 + minorVersion), 13, 10]))
    (by show (asciiBytes verb.text).length < headerBufferSize; omega)
  rw [hverbLoop]
  obtain ⟨q, htargetLoop, hfinds, hcurrent, hstarts, hlength, hbuffer⟩ := @processLoop_target _ pushBodyBytes
    { newParser tryLexicalConvert headerBufferSize maxContentLength pushBodyBytesState with
      headerBuffer := asciiBytes verb.text ++ [32]
      request := { (newParser tryLexicalConvert headerBufferSize maxContentLength pushBodyBytesState).request with verb := verb }
      currentParser := .parsePath
      parsePathStartsAt := (asciiBytes verb.text ++ [32]).length
      accesses := accesses } encodedPath encodedPairs ⟨rfl, rfl⟩ rfl rfl rfl hblank hmark
    (fun pair hpair => (hencoded pair hpair).1) (asciiBytes "HTTP/1." ++ [UInt8.ofNat (48 + minorVersion), 13, 10]) (by
      unfold headerSize newParser
      simp only [List.length_append, List.length_cons, List.length_nil]
      omega) hsize
  rw [htrimmed, hdecoded] at hfinds
  rw [htargetLoop]
  refine processLoop_version hminor hfinds hcurrent hstarts ?_
  rw [hlength, hbuffer]
  unfold headerSize newParser
  have hversion : (asciiBytes "HTTP/1.").length = 7 := rfl
  simp only [List.length_append, List.length_cons, List.length_nil]
  simp only [List.length_nil] at hfits
  omega

/-- Either table escapes the percent sign. -/
theorem reserved_percent {table : UInt8 → Bool} (h : table = reservedCharactersForUrlEncoding ∨
    table = reservedCharactersForUrlEncodingWithoutSlash) : table 37 = true := by
  rcases h with rfl | rfl <;> rfl

/-- A request line is parsed to the path and the pairs that its target was encoded from. What either table encodes is
decoded, where it is, to what it was. What is decoded gets no longer, and is written no further than it is read. -/
theorem requestLine_parsed {outputSize : ℕ} {verb : HttpVerb} {path : List UInt8} {pairs : List (List UInt8 × List UInt8)}
    {minorVersion headerBufferSize : ℕ} (hverb : verb ≠ .UNKNOWN) (hminor : minorVersion ≤ 1) (hslash : path.head? ≠ some 47)
    (hcount : pairs.length ≤ HttpRequest.MaxQueryPairs) (hpath : path.length * 3 ≤ outputSize)
    (hpairs : ∀ pair ∈ pairs, pair.1.length * 3 ≤ outputSize ∧ pair.2.length * 3 ≤ outputSize)
    (hfits : (requestLine verb (requestTarget outputSize path pairs) minorVersion).length ≤ headerBufferSize)
    (hsize : headerBufferSize < 2 ^ 31) (tryLexicalConvert : List UInt8 → Option ℕ) (maxContentLength : ℕ)
    (pushBodyBytesState : σ) (pushBodyBytes : List UInt8 → σ → Bool × σ) :
    (∃ p, p = (newParser tryLexicalConvert headerBufferSize maxContentLength pushBodyBytesState).process pushBodyBytes
        (requestLine verb (requestTarget outputSize path pairs) minorVersion) ∧
      p.valid = true ∧ p.request.verb = verb ∧ p.request.path.bytes p.headerBuffer = path ∧
        p.shownPairs p.request.queryPairs = pairs ∧ p.request.queryPairs.length ≤ HttpRequest.MaxQueryPairs) ∧
    (∀ (p : Parser σ) (start outputSize : ℕ) (text : List UInt8) (table : UInt8 → Bool),
      table = reservedCharactersForUrlEncoding ∨ table = reservedCharactersForUrlEncodingWithoutSlash →
      text.length * 3 ≤ outputSize → start + (percentEncode outputSize table text).length ≤ p.headerSize →
      View.bytes ⟨start, (percentEncode outputSize table text).length⟩ p.headerBuffer = percentEncode outputSize table text →
      (p.viewAfterDecodingUrlEncodingInPlace start (percentEncode outputSize table text).length).1.bytes
        (p.viewAfterDecodingUrlEncodingInPlace start (percentEncode outputSize table text).length).2.headerBuffer = text) ∧
    ∀ (p : Parser σ) (start size : ℕ), (p.decodeUrlEncodingInPlace start start size).1 ≤ size ∧
      (p.decodeUrlEncodingInPlace start start size).2.accesses =
        ((p.decodePositions start start size).map fun position => .write position.2).reverse ++ p.accesses ∧
      ∀ position ∈ p.decodePositions start start size, position.2 ≤ position.1 := by
  refine ⟨⟨_, rfl, ?_⟩, ?_, ?_⟩
  · have hfinds := finds_requestLine hverb hminor hslash hpath hpairs hfits hsize tryLexicalConvert maxContentLength
      pushBodyBytesState pushBodyBytes
    refine ⟨hfinds.active.1, hfinds.verb, hfinds.path.2, hfinds.pairs, ?_⟩
    have hlength := congrArg List.length hfinds.pairs
    unfold shownPairs at hlength
    rw [List.length_map] at hlength
    rw [hlength]
    exact hcount
  · intro p start outputSize text table htable hlength hwithin hshown
    rw [bytes_viewAfterDecodingUrlEncodingInPlace hwithin, hshown]
    exact decodeUrl_percentEncode hlength (reserved_percent htable)
  · intro p start size
    obtain ⟨hle, -⟩ := Rewrites.decodeUrlEncodingInPlace start start size p
    exact ⟨hle, accesses_decodeUrlEncodingInPlace start start size p,
      fun position hposition => le_of_mem_decodePositions (Nat.le_refl start) hposition⟩

/-- A target with a blank and a slash in its path, separators in a key, and an empty key and an empty value. -/
theorem requestLine_parsed_separators :
    ∃ p, p = (newParser sizeOfText 4096 0 ()).process (fun _ state => (true, state))
        (requestLine .GET (requestTarget 6000 (asciiBytes "a b/c") [(asciiBytes "k&=", []), ([], [37, 200])]) 1) ∧
      p.valid = true ∧ p.request.verb = .GET ∧ p.request.path.bytes p.headerBuffer = asciiBytes "a b/c" ∧
        p.shownPairs p.request.queryPairs = [(asciiBytes "k&=", []), ([], [37, 200])] ∧
          p.request.queryPairs.length ≤ HttpRequest.MaxQueryPairs :=
  (requestLine_parsed (by decide) (by decide) (by decide) (by decide) (by decide) (by decide) (by decide) (by decide)
    sizeOfText 0 () fun _ state => (true, state)).1

end Parser

end Forum.Http
