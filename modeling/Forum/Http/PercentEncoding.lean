import Forum.Http.PathWrites

/-!
# Percent encoding

`percentEncode` escapes the characters that a table reserves, and `decodeUrlEncodingInPlace` reads the escapes back where
they are: it writes no further than it has read. So what it leaves is a function of the text that was there, and it is
the text that was encoded if the table reserves the percent sign.
-/

namespace Forum.Http

/-! ### Encoding -/

/-- `ReservedCharactersForUrlEncoding`: all but letters, digits, the hyphen, the dot, the underscore and the tilde. -/
def reservedCharactersForUrlEncoding (c : UInt8) : Bool :=
  !decide (48 ≤ c ∧ c ≤ 57 ∨ 65 ≤ c ∧ c ≤ 90 ∨ 97 ≤ c ∧ c ≤ 122 ∨ c = 45 ∨ c = 46 ∨ c = 95 ∨ c = 126)

/-- `ReservedCharactersForUrlEncodingWithoutSlash`. -/
def reservedCharactersForUrlEncodingWithoutSlash (c : UInt8) : Bool := reservedCharactersForUrlEncoding c && c != 47

/-- `HexToStringUpperCase`. -/
def hexToStringUpperCase (digit : UInt8) : UInt8 := if digit < 10 then 48 + digit else 55 + digit

/-- A character of what `percentEncode` reads. -/
def percentEncodeCharacter (table : UInt8 → Bool) (c : UInt8) : List UInt8 :=
  if table c then [37, hexToStringUpperCase (c / 16), hexToStringUpperCase (c % 16)] else [c]

/-- `percentEncode`. The view is empty if the output might not be long enough. -/
def percentEncode (outputSize : ℕ) (table : UInt8 → Bool) (input : List UInt8) : List UInt8 :=
  if input.length * 3 > outputSize then [] else input.flatMap (percentEncodeCharacter table)

/-- `urlEncode`. -/
def urlEncode (outputSize : ℕ) (input : List UInt8) : List UInt8 :=
  percentEncode outputSize reservedCharactersForUrlEncoding input

theorem percentEncode_of_le {outputSize : ℕ} {input : List UInt8} (h : input.length * 3 ≤ outputSize)
    (table : UInt8 → Bool) : percentEncode outputSize table input = input.flatMap (percentEncodeCharacter table) :=
  if_neg (Nat.not_lt.2 h)

/-- An escape has a percent sign and two digits of upper case. -/
theorem mem_percentEncodeCharacter {table : UInt8 → Bool} {c byte : UInt8} (h : byte ∈ percentEncodeCharacter table c) :
    byte = 37 ∨ (48 ≤ byte ∧ byte ≤ 57) ∨ (65 ≤ byte ∧ byte ≤ 70) ∨ byte = c ∧ table c = false := by
  have hdigit : ∀ n : Fin 256, (n.val < 16 → 48 ≤ hexToStringUpperCase (UInt8.ofNat n) ∧
      hexToStringUpperCase (UInt8.ofNat n) ≤ 57 ∨ 65 ≤ hexToStringUpperCase (UInt8.ofNat n) ∧
      hexToStringUpperCase (UInt8.ofNat n) ≤ 70) := by decide +kernel
  have hhex : ∀ digit : UInt8, digit.toNat < 16 → byte = hexToStringUpperCase digit →
      (48 ≤ byte ∧ byte ≤ 57) ∨ (65 ≤ byte ∧ byte ≤ 70) := fun digit hlt heq => by
    have := hdigit ⟨digit.toNat, digit.toNat_lt⟩ hlt
    rwa [UInt8.ofNat_toNat, ← heq] at this
  unfold percentEncodeCharacter at h
  split_ifs at h with htable
  · rcases List.mem_cons.1 h with rfl | h
    · exact Or.inl rfl
    rcases List.mem_cons.1 h with heq | h
    · have hlt := c.toNat_lt
      rcases hhex (c / 16) (by rw [UInt8.toNat_div, show (16 : UInt8).toNat = 16 from rfl]; omega) heq with h | h
      · exact Or.inr (Or.inl h)
      · exact Or.inr (Or.inr (Or.inl h))
    · rcases hhex (c % 16) (by rw [UInt8.toNat_mod, show (16 : UInt8).toNat = 16 from rfl]; omega)
        (List.mem_singleton.1 h) with h | h
      · exact Or.inr (Or.inl h)
      · exact Or.inr (Or.inr (Or.inl h))
  · exact Or.inr (Or.inr (Or.inr ⟨List.mem_singleton.1 h, by simpa using htable⟩))

/-- A character that is reserved, and that is no part of an escape, is not in what is encoded. -/
theorem not_mem_percentEncode {table : UInt8 → Bool} {byte : UInt8} (hreserved : table byte = true)
    (hescape : byte ≠ 37 ∧ ¬ (48 ≤ byte ∧ byte ≤ 57) ∧ ¬ (65 ≤ byte ∧ byte ≤ 70)) (input : List UInt8) :
    byte ∉ input.flatMap (percentEncodeCharacter table) := by
  intro hmem
  obtain ⟨c, -, hc⟩ := List.mem_flatMap.1 hmem
  rcases mem_percentEncodeCharacter hc with heq | hdigit | hletter | ⟨rfl, hkept⟩
  · exact hescape.1 heq
  · exact hescape.2.1 hdigit
  · exact hescape.2.2 hletter
  · rw [hreserved] at hkept
    cases hkept

/-! ### Decoding -/

/-- What `decodeUrlEncodingInPlace` makes of a text. -/
def decodeUrl : List UInt8 → List UInt8
  | [] => []
  | c :: text =>
    if c = 37 then
      match text with
      | first :: second :: text => (hexParsingValue first * 16 + hexParsingValue second) :: decodeUrl text
      | _ => []
    else c :: decodeUrl text

@[simp] theorem decodeUrl_nil : decodeUrl [] = [] := rfl

theorem decodeUrl_cons {c : UInt8} (h : c ≠ 37) (text : List UInt8) : decodeUrl (c :: text) = c :: decodeUrl text := by
  rw [decodeUrl.eq_def]
  exact if_neg h

theorem decodeUrl_percent (first second : UInt8) (text : List UInt8) : decodeUrl (37 :: first :: second :: text) =
    (hexParsingValue first * 16 + hexParsingValue second) :: decodeUrl text := by
  rw [decodeUrl.eq_def]
  exact if_pos rfl

/-- A percent sign without two characters behind it ends the text. -/
theorem decodeUrl_percent_of_length {text : List UInt8} (h : text.length < 2) : decodeUrl (37 :: text) = [] := by
  match text, h with
  | [], _ => rfl
  | [_], _ => rfl
  | _ :: _ :: _, h => exact absurd h (by simp)

/-- The digits of a byte are read back. -/
theorem hexParsingValue_hexToStringUpperCase (c : UInt8) :
    hexParsingValue (hexToStringUpperCase (c / 16)) * 16 + hexParsingValue (hexToStringUpperCase (c % 16)) = c := by
  have hall : ∀ n : Fin 256, hexParsingValue (hexToStringUpperCase (UInt8.ofNat n / 16)) * 16 +
      hexParsingValue (hexToStringUpperCase (UInt8.ofNat n % 16)) = UInt8.ofNat n := by decide +kernel
  have := hall ⟨c.toNat, c.toNat_lt⟩
  rwa [UInt8.ofNat_toNat] at this

/-- What was encoded is decoded, whatever follows it, as far as no percent sign was left alone. -/
theorem decodeUrl_flatMap {table : UInt8 → Bool} {input : List UInt8} (h : ∀ c ∈ input, c = 37 → table c = true)
    (text : List UInt8) :
    decodeUrl (input.flatMap (percentEncodeCharacter table) ++ text) = input ++ decodeUrl text := by
  induction input with
  | nil => rfl
  | cons c input ih =>
    have ih := ih fun c hc => h c (List.mem_cons_of_mem _ hc)
    rw [List.flatMap_cons, List.append_assoc]
    by_cases htable : table c = true
    · rw [percentEncodeCharacter, if_pos htable, List.cons_append, List.cons_append, List.cons_append, List.nil_append,
        decodeUrl_percent, ih, hexParsingValue_hexToStringUpperCase]
      rfl
    · rw [percentEncodeCharacter, if_neg htable, List.cons_append, List.nil_append,
        decodeUrl_cons (fun hc => htable (h c List.mem_cons_self hc)), ih]
      rfl

/-- Decoding makes a text no longer. -/
theorem length_decodeUrl_le (text : List UInt8) : (decodeUrl text).length ≤ text.length := by
  fun_induction decodeUrl text with
  | case1 => exact Nat.le_refl 0
  | case2 first second text ih => exact Nat.succ_le_succ (Nat.le_succ_of_le (Nat.le_succ_of_le ih))
  | case3 => exact Nat.zero_le _
  | case4 c text _ ih => exact Nat.succ_le_succ ih

namespace Parser

variable {σ : Type*}

/-! ### In place -/

theorem headerSize_set (index : ℕ) (c : UInt8) (p : Parser σ) : (p.set index c).headerSize = p.headerSize :=
  List.length_set

theorem get_set_self {index : ℕ} (c : UInt8) {p : Parser σ} (h : index < p.headerSize) : (p.set index c).get index = c := by
  show (p.headerBuffer.set index c).getD index 0 = c
  rw [List.getD_eq_getElem _ _ (by rw [List.length_set]; exact h), List.getElem_set_self]

/-- What a view shows depends on what is in it. -/
theorem bytes_eq_of_get {p q : Parser σ} (hsize : q.headerSize = p.headerSize) {start size : ℕ}
    (hsame : ∀ i, start ≤ i → i < start + size → q.get i = p.get i) :
    View.bytes ⟨start, size⟩ q.headerBuffer = View.bytes ⟨start, size⟩ p.headerBuffer := by
  induction size generalizing start with
  | zero =>
    unfold View.bytes
    rw [List.take_zero, List.take_zero]
  | succ size ih =>
    rcases Nat.lt_or_ge start p.headerSize with hlt | hge
    · rw [bytes_succ hlt, bytes_succ (hsize ▸ hlt), hsame start (Nat.le_refl _) (by omega),
        ih fun i hi hlt => hsame i (by omega) (by omega)]
    · unfold View.bytes headerSize at *
      dsimp only
      rw [List.drop_eq_nil_of_le hge, List.drop_eq_nil_of_le (by omega)]

theorem length_bytes {p : Parser σ} {view : View} (h : view.Within p.headerSize) :
    (view.bytes p.headerBuffer).length = view.size := by
  unfold View.Within headerSize at h
  unfold View.bytes
  rw [List.length_take, List.length_drop]
  omega

/-- What is decoded in place, at a destination that is not behind the source, is what the text is decoded to. -/
theorem bytes_decodeUrlEncodingInPlace {source destination size : ℕ} {p : Parser σ} (hle : destination ≤ source)
    (hsize : source + size ≤ p.headerSize) :
    View.bytes ⟨destination, (p.decodeUrlEncodingInPlace source destination size).1⟩
        (p.decodeUrlEncodingInPlace source destination size).2.headerBuffer =
      decodeUrl (View.bytes ⟨source, size⟩ p.headerBuffer) := by
  -- the byte that a round writes is in front of what later rounds write, and not behind what they read
  have hround : ∀ {source destination taken size : ℕ} {c : UInt8} {p : Parser σ}, destination ≤ source →
      source + taken + size ≤ p.headerSize → 0 < taken →
      View.bytes ⟨destination + 1,
          ((p.set destination c).decodeUrlEncodingInPlace (source + taken) (destination + 1) size).1⟩
          ((p.set destination c).decodeUrlEncodingInPlace (source + taken) (destination + 1) size).2.headerBuffer =
        decodeUrl (View.bytes ⟨source + taken, size⟩ (p.set destination c).headerBuffer) →
      View.bytes ⟨destination,
          ((p.set destination c).decodeUrlEncodingInPlace (source + taken) (destination + 1) size).1 + 1⟩
          ((p.set destination c).decodeUrlEncodingInPlace (source + taken) (destination + 1) size).2.headerBuffer =
        c :: decodeUrl (View.bytes ⟨source + taken, size⟩ p.headerBuffer) := by
    intro source destination taken size c p hle hsize htaken hrest
    obtain ⟨-, hwrites⟩ := Rewrites.decodeUrlEncodingInPlace (source + taken) (destination + 1) size (p.set destination c)
    have hlength := hwrites.interprets.headerSize.trans (headerSize_set destination c p)
    rw [bytes_succ (by rw [hlength]; omega), hrest, hwrites.outside destination (Or.inl (Nat.lt_succ_self _)),
      get_set_self c (by omega), bytes_eq_of_get (headerSize_set destination c p)
        fun i hi _ => (Rewrites.set destination c p).outside i (Or.inr (by omega))]
  fun_induction Parser.decodeUrlEncodingInPlace source destination size p with
  | case1 =>
    unfold View.bytes
    rw [List.take_zero, List.take_zero, decodeUrl_nil]
  | case2 source destination p hpercent size c rest ih =>
    have hread : View.bytes ⟨source, size + 2 + 1⟩ p.headerBuffer =
        37 :: p.get (source + 1) :: p.get (source + 2) :: View.bytes ⟨source + 3, size⟩ p.headerBuffer := by
      rw [bytes_succ (by omega), bytes_succ (by omega), bytes_succ (by omega), hpercent]
    rw [hread, decodeUrl_percent]
    exact hround hle (by omega) (by decide) (ih (by omega) (by rw [headerSize_set]; omega))
  | case3 source destination size p hpercent hshort =>
    have hsize' : size < 2 := by
      by_contra hlong
      exact hshort (size - 2) (by omega)
    rw [bytes_succ (by omega), hpercent, decodeUrl_percent_of_length (by
      rw [length_bytes (by unfold View.Within; dsimp only; omega)]
      exact hsize')]
    unfold View.bytes
    rw [List.take_zero]
  | case4 source destination size p hplain rest ih =>
    have hread : View.bytes ⟨source, size + 1⟩ p.headerBuffer =
        p.get source :: View.bytes ⟨source + 1, size⟩ p.headerBuffer := bytes_succ (by omega) size
    rw [hread, decodeUrl_cons hplain]
    exact hround hle (by omega) (by decide) (ih (by omega) (by rw [headerSize_set]; omega))

theorem bytes_viewAfterDecodingUrlEncodingInPlace {start size : ℕ} {p : Parser σ} (hsize : start + size ≤ p.headerSize) :
    (p.viewAfterDecodingUrlEncodingInPlace start size).1.bytes
        (p.viewAfterDecodingUrlEncodingInPlace start size).2.headerBuffer =
      decodeUrl (View.bytes ⟨start, size⟩ p.headerBuffer) :=
  bytes_decodeUrlEncodingInPlace (Nat.le_refl start) hsize

theorem bytes_viewBetween {start finish : ℕ} {p : Parser σ} (hfinish : finish ≤ p.headerSize) :
    (p.viewBetween start finish).1.bytes (p.viewBetween start finish).2.headerBuffer =
      decodeUrl (View.bytes ⟨start, finish - start⟩ p.headerBuffer) := by
  unfold viewBetween
  split_ifs with h
  · exact bytes_viewAfterDecodingUrlEncodingInPlace (by omega)
  · rw [Nat.sub_eq_zero_of_le (Nat.le_of_not_lt h)]
    unfold View.bytes
    rw [List.take_zero, List.take_zero, decodeUrl_nil]

/-- Where the rounds of `decodeUrlEncodingInPlace` that write read, and where they write. -/
def decodePositions (source destination : ℕ) : ℕ → Parser σ → List (ℕ × ℕ)
  | 0, _ => []
  | size + 1, p =>
    if p.get source = 37 then
      match size with
      | size + 2 =>
        (source, destination) :: decodePositions (source + 3) (destination + 1) size
          (p.set destination (hexParsingValue (p.get (source + 1)) * 16 + hexParsingValue (p.get (source + 2))))
      | _ => []
    else (source, destination) :: decodePositions (source + 1) (destination + 1) size (p.set destination (p.get source))

/-- They are where it writes. -/
theorem accesses_decodeUrlEncodingInPlace (source destination size : ℕ) (p : Parser σ) :
    (p.decodeUrlEncodingInPlace source destination size).2.accesses =
      ((p.decodePositions source destination size).map fun position => .write position.2).reverse ++ p.accesses := by
  fun_induction Parser.decodeUrlEncodingInPlace source destination size p with
  | case1 => rfl
  | case2 source destination p hpercent size c rest ih =>
    rw [decodePositions, if_pos hpercent, List.map_cons, List.reverse_cons, List.append_assoc]
    exact ih
  | case3 source destination size p hpercent hshort =>
    rcases size with _ | _ | size
    · unfold decodePositions
      rw [if_pos hpercent]
      rfl
    · unfold decodePositions
      rw [if_pos hpercent]
      rfl
    · exact absurd rfl (hshort size)
  | case4 source destination size p hplain rest ih =>
    unfold decodePositions
    rw [if_neg hplain, List.map_cons, List.reverse_cons, List.append_assoc]
    exact ih

/-- What is written is never behind what is read. -/
theorem le_of_mem_decodePositions {source destination size : ℕ} {p : Parser σ} (hle : destination ≤ source)
    {position : ℕ × ℕ} (h : position ∈ p.decodePositions source destination size) : position.2 ≤ position.1 := by
  fun_induction Parser.decodePositions source destination size p with
  | case1 => exact absurd h List.not_mem_nil
  | case2 source destination p _ size ih =>
    rcases List.mem_cons.1 h with rfl | h
    · exact hle
    · exact ih (by omega) h
  | case3 => exact absurd h List.not_mem_nil
  | case4 source destination size p _ ih =>
    rcases List.mem_cons.1 h with rfl | h
    · exact hle
    · exact ih (by omega) h

/-! ### Pairs of views -/

/-- What pairs of views show. -/
def shownPairs (p : Parser σ) (pairs : List (View × View)) : List (List UInt8 × List UInt8) :=
  pairs.map fun pair => (pair.1.bytes p.headerBuffer, pair.2.bytes p.headerBuffer)

/-- Between `p` and `q`, the bytes from `start` to `finish` were decoded to these pairs, which a field of the request got
at its end. -/
structure Yields (field : HttpRequest → List (View × View)) (start finish : ℕ) (pairs : List (List UInt8 × List UInt8))
    (p q : Parser σ) : Prop where
  interprets : Interprets p q
  outside : ∀ i, i < start ∨ finish ≤ i → q.get i = p.get i
  path : q.request.path = p.request.path
  views : ∃ views : List (View × View), (∀ view ∈ views, view.1.Within finish ∧ view.2.Within finish) ∧
    field q.request = field p.request ++ views ∧ q.shownPairs views = pairs

/-- What a view shows stays when nothing in front of its end is written. -/
theorem bytes_of_within {p q : Parser σ} (hsize : q.headerSize = p.headerSize) {view : View} {finish : ℕ}
    (hview : view.Within finish) (hsame : ∀ i, i < finish → q.get i = p.get i) :
    view.bytes q.headerBuffer = view.bytes p.headerBuffer :=
  bytes_eq_of_get hsize fun i _ hi => hsame i (Nat.lt_of_lt_of_le hi hview)

namespace Yields

variable {field : HttpRequest → List (View × View)}

theorem refl (field : HttpRequest → List (View × View)) (start finish : ℕ) (p : Parser σ) :
    Yields field start finish [] p p :=
  ⟨.refl p, fun _ _ => rfl, rfl, [], fun _ h => absurd h List.not_mem_nil, (List.append_nil _).symm, rfl⟩

theorem trans {start middle finish : ℕ} {before after : List (List UInt8 × List UInt8)} {p q r : Parser σ}
    (hpq : Yields field start middle before p q) (hqr : Yields field middle finish after q r) (hstart : start ≤ middle)
    (hfinish : middle ≤ finish) : Yields field start finish (before ++ after) p r := by
  obtain ⟨first, hfirst, hfield, hshown⟩ := hpq.views
  obtain ⟨second, hsecond, hfield', hshown'⟩ := hqr.views
  refine ⟨hpq.interprets.trans hqr.interprets,
    fun i hi => (hqr.outside i (by omega)).trans (hpq.outside i (by omega)), hqr.path.trans hpq.path, first ++ second, ?_,
    by rw [hfield', hfield, List.append_assoc], ?_⟩
  · intro view hview
    rcases List.mem_append.1 hview with hview | hview
    · exact ⟨(hfirst view hview).1.mono hfinish, (hfirst view hview).2.mono hfinish⟩
    · exact hsecond view hview
  · have hkept : r.shownPairs first = q.shownPairs first := by
      refine List.map_congr_left fun view hview => ?_
      have hsame : ∀ i, i < middle → r.get i = q.get i := fun i hi => hqr.outside i (Or.inl hi)
      rw [bytes_of_within hqr.interprets.headerSize (hfirst view hview).1 hsame,
        bytes_of_within hqr.interprets.headerSize (hfirst view hview).2 hsame]
    unfold shownPairs at hkept hshown hshown' ⊢
    rw [List.map_append, hkept, hshown, hshown']

theorem mono {start finish start' finish' : ℕ} {pairs : List (List UInt8 × List UInt8)} {p q : Parser σ}
    (h : Yields field start finish pairs p q) (hstart : start' ≤ start) (hfinish : finish ≤ finish') :
    Yields field start' finish' pairs p q := by
  obtain ⟨views, hviews, hfield, hshown⟩ := h.views
  exact ⟨h.interprets, fun i hi => h.outside i (by omega), h.path, views,
    fun view hview => ⟨(hviews view hview).1.mono hfinish, (hviews view hview).2.mono hfinish⟩, hfield, hshown⟩

/-- What was noted before does not matter. -/
theorem of_accesses {start finish : ℕ} {pairs : List (List UInt8 × List UInt8)} {p q : Parser σ} {accesses : List Access}
    (h : Yields field start finish pairs { p with accesses := accesses } q) : Yields field start finish pairs p q :=
  ⟨(⟨rfl, rfl⟩ : Interprets p { p with accesses := accesses }).trans h.interprets, h.outside, h.path, h.views⟩

/-- The two parts of a pair are decoded one after the other. -/
theorem of_pair {keyStart keyEnd valueStart valueEnd : ℕ} {p : Parser σ} (hkey : keyStart ≤ keyEnd)
    (hbetween : keyEnd ≤ valueStart) (hvalue : valueStart ≤ valueEnd) (hsize : valueEnd ≤ p.headerSize)
    {key value : List UInt8} (hkeyText : View.bytes ⟨keyStart, keyEnd - keyStart⟩ p.headerBuffer = key)
    (hvalueText : View.bytes ⟨valueStart, valueEnd - valueStart⟩ p.headerBuffer = value)
    {change : HttpRequest → HttpRequest} (hpath : ∀ request, (change request).path = request.path)
    (hchange : ∀ request, field (change request) = field request ++ [((p.viewBetween keyStart keyEnd).1,
      ((p.viewBetween keyStart keyEnd).2.viewBetween valueStart valueEnd).1)]) :
    Yields field keyStart valueEnd [(decodeUrl key, decodeUrl value)] p
      (((p.viewBetween keyStart keyEnd).2.viewBetween valueStart valueEnd).2.updateRequest change) := by
  subst hkeyText hvalueText
  obtain ⟨hkeyView, hkeyWrites⟩ := Rewrites.viewBetween keyStart keyEnd p
  have hkeyBytes := @bytes_viewBetween _ keyStart keyEnd p (by omega)
  generalize p.viewBetween keyStart keyEnd = key at *
  obtain ⟨hvalueView, hvalueWrites⟩ := Rewrites.viewBetween valueStart valueEnd key.2
  have hvalueBytes := @bytes_viewBetween _ valueStart valueEnd key.2
    (by rw [hkeyWrites.interprets.headerSize]; exact hsize)
  generalize key.2.viewBetween valueStart valueEnd = value at *
  refine ⟨(hkeyWrites.interprets.trans hvalueWrites.interprets).trans (.updateRequest change _), fun i hi => ?_, ?_,
    [(key.1, value.1)], ?_, ?_, ?_⟩
  · exact (hvalueWrites.outside i (by omega)).trans (hkeyWrites.outside i (by omega))
  · rw [← hkeyWrites.request, ← hvalueWrites.request]
    exact hpath _
  · intro view hview
    rw [List.mem_singleton.1 hview]
    exact ⟨hkeyView.mono (by omega), hvalueView⟩
  · rw [← hkeyWrites.request, ← hvalueWrites.request]
    exact hchange _
  · show [(key.1.bytes value.2.headerBuffer, value.1.bytes value.2.headerBuffer)] = _
    rw [bytes_of_within hvalueWrites.interprets.headerSize hkeyView
      (fun i hi => hvalueWrites.outside i (Or.inl (by omega))), hkeyBytes, hvalueBytes,
      bytes_eq_of_get hkeyWrites.interprets.headerSize fun i hi _ => hkeyWrites.outside i (Or.inr (by omega))]

end Yields

/-! ### What is left of a part -/

/-- The text is what is left of a part of the header buffer that goes up to `finish`. -/
structure Left (finish : ℕ) (text : List UInt8) (p : Parser σ) : Prop where
  le : text.length ≤ finish
  size : finish ≤ p.headerSize
  shown : View.bytes ⟨finish - text.length, text.length⟩ p.headerBuffer = text

namespace Left

variable {finish : ℕ} {text : List UInt8} {p : Parser σ}

theorem cons {c : UInt8} (h : Left finish (c :: text) p) : p.get (finish - (text.length + 1)) = c ∧ Left finish text p := by
  obtain ⟨hle, hsize, hshown⟩ := h
  rw [List.length_cons] at hle hshown
  rw [bytes_succ (by omega)] at hshown
  obtain ⟨hc, htext⟩ := List.cons.inj hshown
  refine ⟨hc, by omega, hsize, ?_⟩
  rwa [show finish - text.length = finish - (text.length + 1) + 1 by omega]

theorem part {part : List UInt8} (h : Left finish (part ++ text) p) :
    View.bytes ⟨finish - (part ++ text).length, part.length⟩ p.headerBuffer = part := by
  have htake := congrArg (List.take part.length) h.shown
  rw [List.take_left] at htake
  unfold View.bytes at htake ⊢
  dsimp only at htake ⊢
  rwa [List.take_take, Nat.min_eq_left (by rw [List.length_append]; omega)] at htake

theorem rest {part : List UInt8} (h : Left finish (part ++ text) p) : Left finish text p := by
  induction part with
  | nil => exact h
  | cons c part ih => exact ih h.cons.2

/-- The characters of a part are where it is. -/
theorem get_mem {part : List UInt8} (h : Left finish (part ++ text) p) {i : ℕ} (hi : finish - (part ++ text).length ≤ i)
    (hlt : i < finish - text.length) : p.get i ∈ part := by
  induction part with
  | nil => exact absurd hlt (Nat.not_lt.2 hi)
  | cons c part ih =>
    rw [List.cons_append] at h hi
    obtain ⟨hc, hrest⟩ := h.cons
    rw [List.length_cons] at hi
    rcases Nat.lt_or_eq_of_le hi with hlater | heq
    · exact List.mem_cons_of_mem c (ih hrest (by omega))
    · rw [← heq, hc]
      exact List.mem_cons_self

/-- What is left stays when only characters in front of it were written. -/
theorem of_outside {q : Parser σ} (h : Left finish text p) (hsize : q.headerSize = p.headerSize)
    (hsame : ∀ i, finish - text.length ≤ i → q.get i = p.get i) : Left finish text q :=
  ⟨h.le, hsize ▸ h.size, (bytes_congr hsize hsame _).trans h.shown⟩

end Left

end Parser

end Forum.Http
