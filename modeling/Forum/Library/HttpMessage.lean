import Forum.Library.Decimal

/-!
# Responses of HTTP/1.x

A response as its bytes: a line with the version, the three digits of a code and a phrase, lines with a name, a colon and
a value, an empty line, and the body. `parseResponse` reads this format, and `parseResponse_bytes` says what it reads from
a text that is put together this way, whatever the three characters of the code are.
-/

namespace Forum.Library

/-- A response: its status line, its headers and its body. -/
structure HttpMessage where
  versionMajor : ℕ
  versionMinor : ℕ
  statusCode : ℕ
  reasonPhrase : List UInt8
  headers : List (List UInt8 × List UInt8)
  body : List UInt8
  deriving DecidableEq

/-- A carriage return and a line feed. -/
def crlf : List UInt8 := [13, 10]

/-- Does a line end, or break, at this character? -/
def isLineBreak (byte : UInt8) : Bool := byte = 13 ∨ byte = 10

/-- Is it a control character? -/
def isControl (byte : UInt8) : Bool := byte < 32 ∨ byte = 127

/-- A line, up to its end, and what follows it. -/
def readLine : List UInt8 → Option (List UInt8 × List UInt8)
  | [] => none
  | byte :: rest =>
    if byte = 13 then if rest.head? = some 10 then some ([], rest.tail) else none
    else if byte = 10 then none
    else (readLine rest).map fun (line, rest) => (byte :: line, rest)

/-- The first line: `HTTP/`, a version, a code and a phrase. -/
def readStatusLine : List UInt8 → Option (ℕ × ℕ × ℕ × List UInt8)
  | 72 :: 84 :: 84 :: 80 :: 47 :: major :: 46 :: minor :: 32 :: hundreds :: tens :: ones :: 32 :: phrase =>
    if [major, minor, hundreds, tens, ones].all isDigit then
      some (decimalNumber [major], decimalNumber [minor], decimalNumber [hundreds, tens, ones], phrase)
    else none
  | _ => none

/-- A header: its name goes to the first colon, its value begins behind the spaces after it. -/
def readHeader (line : List UInt8) : Option (List UInt8 × List UInt8) :=
  match line.dropWhile (· ≠ 58) with
  | [] => none
  | _ :: value =>
    if (line.takeWhile (· ≠ 58)).any isControl then none
    else some (line.takeWhile (· ≠ 58), value.dropWhile (· = 32))

/-- The headers, up to an empty line, and what follows it. There are no more lines than bytes. -/
def readHeaders : ℕ → List UInt8 → Option (List (List UInt8 × List UInt8) × List UInt8)
  | 0, _ => none
  | lines + 1, bytes =>
    match readLine bytes with
    | none => none
    | some ([], rest) => some ([], rest)
    | some (line, rest) =>
      (readHeader line).bind fun header =>
        (readHeaders lines rest).map fun (headers, body) => (header :: headers, body)

/-- Reads a response. -/
def parseResponse (bytes : List UInt8) : Option HttpMessage :=
  (readLine bytes).bind fun (line, rest) =>
    (readStatusLine line).bind fun (major, minor, code, phrase) =>
      (readHeaders rest.length rest).map fun (headers, body) => ⟨major, minor, code, phrase, headers, body⟩

/-- A line of a header. -/
def headerLine (header : List UInt8 × List UInt8) : List UInt8 := header.1 ++ [58, 32] ++ header.2 ++ crlf

/-- A name that goes up to its colon, and a value that goes from its space to the end of its line. -/
def IsHeader (header : List UInt8 × List UInt8) : Prop :=
  (∀ byte ∈ header.1, byte ≠ 58 ∧ isControl byte = false) ∧ (∀ byte ∈ header.2, isLineBreak byte = false) ∧
    header.2.head? ≠ some 32

instance (header : List UInt8 × List UInt8) : Decidable (IsHeader header) :=
  let _ : Decidable (∀ byte ∈ header.1, byte ≠ 58 ∧ isControl byte = false) := List.decidableBAll _ _
  let _ : Decidable (∀ byte ∈ header.2, isLineBreak byte = false) := List.decidableBAll _ _
  inferInstanceAs (Decidable (_ ∧ _ ∧ _))

/-! ### What is read back -/

theorem readLine_crlf {line : List UInt8} (h : ∀ byte ∈ line, isLineBreak byte = false) (rest : List UInt8) :
    readLine (line ++ (crlf ++ rest)) = some (line, rest) := by
  induction line with
  | nil => rfl
  | cons byte line ih =>
    have hbyte : ¬ (byte = 13 ∨ byte = 10) := of_decide_eq_false (h byte List.mem_cons_self)
    rw [List.cons_append, readLine, if_neg fun heq => hbyte (Or.inl heq), if_neg fun heq => hbyte (Or.inr heq),
      ih fun other hother => h other (List.mem_cons_of_mem _ hother)]
    rfl

theorem takeWhile_append_cons {p : UInt8 → Bool} {list rest : List UInt8} {byte : UInt8} (h : ∀ b ∈ list, p b = true)
    (hbyte : p byte = false) :
    (list ++ byte :: rest).takeWhile p = list ∧ (list ++ byte :: rest).dropWhile p = byte :: rest := by
  induction list with
  | nil => exact ⟨List.takeWhile_cons_of_neg (by rw [hbyte]; decide), List.dropWhile_cons_of_neg (by rw [hbyte]; decide)⟩
  | cons b list ih =>
    obtain ⟨htake, hdrop⟩ := ih fun other hother => h other (List.mem_cons_of_mem _ hother)
    have hb := h b List.mem_cons_self
    rw [List.cons_append, List.takeWhile_cons_of_pos hb, List.dropWhile_cons_of_pos hb, htake, hdrop]
    exact ⟨rfl, rfl⟩

/-- A header is read from its line. -/
theorem readHeader_line {header : List UInt8 × List UInt8} (h : IsHeader header) :
    readHeader (header.1 ++ [58, 32] ++ header.2) = some header := by
  obtain ⟨hname, -, hvalue⟩ := h
  obtain ⟨htake, hdrop⟩ := @takeWhile_append_cons (· ≠ 58) header.1 (32 :: header.2) 58
    (fun b hb => decide_eq_true (hname b hb).1) (by decide)
  have hcontrol : header.1.any isControl = false := by
    rw [List.any_eq_false]
    intro b hb
    rw [(hname b hb).2]
    decide
  have hspaces : (32 :: header.2).dropWhile (· = 32) = header.2 := by
    rw [List.dropWhile_cons_of_pos (by decide)]
    cases hcase : header.2 with
    | nil => rfl
    | cons b value =>
      rw [hcase] at hvalue
      refine List.dropWhile_cons_of_neg ?_
      rw [decide_eq_true_eq]
      exact fun heq => hvalue (congrArg some heq)
  unfold readHeader
  rw [List.append_assoc, show [58, 32] ++ header.2 = (58 : UInt8) :: 32 :: header.2 from rfl, htake, hdrop]
  dsimp only
  rw [hcontrol, hspaces]
  rfl

theorem isLineBreak_line {header : List UInt8 × List UInt8} (h : IsHeader header) :
    ∀ byte ∈ header.1 ++ [58, 32] ++ header.2, isLineBreak byte = false := by
  intro byte hbyte
  rcases List.mem_append.1 hbyte with hbyte | hbyte
  · rcases List.mem_append.1 hbyte with hbyte | hbyte
    · have hcontrol := (h.1 byte hbyte).2
      refine decide_eq_false ?_
      rintro (rfl | rfl)
      · revert hcontrol
        decide
      · revert hcontrol
        decide
    · have hall : ∀ b ∈ ([58, 32] : List UInt8), isLineBreak b = false := forall_mem_of_all (by decide)
      exact hall byte hbyte
  · exact h.2.1 byte hbyte

/-- Headers are read from their lines, by induction on them. -/
theorem readHeaders_lines {headers : List (List UInt8 × List UInt8)} (h : ∀ header ∈ headers, IsHeader header)
    {lines : ℕ} (hlines : headers.length < lines) (body : List UInt8) :
    readHeaders lines (headers.flatMap headerLine ++ (crlf ++ body)) = some (headers, body) := by
  induction headers generalizing lines with
  | nil =>
    obtain ⟨lines, rfl⟩ := Nat.exists_eq_add_of_lt hlines
    rfl
  | cons header headers ih =>
    cases lines with
    | zero => cases hlines
    | succ lines =>
      have hheader := h header List.mem_cons_self
      have hrest := ih (fun other hother => h other (List.mem_cons_of_mem _ hother)) (Nat.lt_of_succ_lt_succ hlines)
      rw [List.flatMap_cons, List.append_assoc]
      unfold headerLine readHeaders
      rw [List.append_assoc _ crlf, readLine_crlf (isLineBreak_line hheader)]
      have hne : header.1 ++ [58, 32] ++ header.2 ≠ [] := by
        intro hnil
        have hlength := congrArg List.length hnil
        simp at hlength
      split
      · rename_i heq
        cases heq
      · rename_i heq
        exact absurd (congrArg Prod.fst (Option.some.inj heq)) hne
      · rename_i heq
        cases heq
        rw [readHeader_line hheader, Option.bind_some]
        unfold headerLine at hrest
        rw [hrest]
        rfl

theorem length_le_flatMap (headers : List (List UInt8 × List UInt8)) :
    headers.length ≤ (headers.flatMap headerLine).length := by
  induction headers with
  | nil => exact Nat.le_refl _
  | cons header headers ih =>
    rw [List.flatMap_cons, List.length_append, List.length_cons]
    have hline : 0 < (headerLine header).length := by
      unfold headerLine crlf
      rw [List.length_append]
      exact Nat.lt_add_left _ (by decide)
    omega

/-- What is read from the parts of a response. -/
theorem parseResponse_bytes {major minor hundreds tens ones : UInt8} {phrase : List UInt8}
    {headers : List (List UInt8 × List UInt8)}
    (hline : ∀ byte ∈ [major, minor, hundreds, tens, ones] ++ phrase, isLineBreak byte = false)
    (hheaders : ∀ header ∈ headers, IsHeader header) (body : List UInt8) :
    parseResponse ((asciiBytes "HTTP/" ++ [major] ++ asciiBytes "." ++ [minor] ++ asciiBytes " " ++ [hundreds, tens, ones] ++
        asciiBytes " " ++ phrase) ++ (crlf ++ (headers.flatMap headerLine ++ (crlf ++ body)))) =
      if [major, minor, hundreds, tens, ones].all isDigit then
        some ⟨decimalNumber [major], decimalNumber [minor], decimalNumber [hundreds, tens, ones], phrase, headers, body⟩
      else none := by
  have hnone : ∀ byte ∈ asciiBytes "HTTP/" ++ [major] ++ asciiBytes "." ++ [minor] ++ asciiBytes " " ++
      [hundreds, tens, ones] ++ asciiBytes " " ++ phrase, isLineBreak byte = false := by
    intro byte hbyte
    have hparts : byte ∈ asciiBytes "HTTP/" ++ asciiBytes "." ++ asciiBytes " " ∨
        byte ∈ [major, minor, hundreds, tens, ones] ++ phrase := by
      simp only [List.mem_append, List.mem_cons, List.not_mem_nil, or_false] at hbyte ⊢
      tauto
    rcases hparts with hfixed | hpart
    · have hall : ∀ b ∈ asciiBytes "HTTP/" ++ asciiBytes "." ++ asciiBytes " ", isLineBreak b = false := forall_mem_of_all (by decide)
      exact hall byte hfixed
    · exact hline byte hpart
  unfold parseResponse
  rw [readLine_crlf hnone, Option.bind_some]
  dsimp only
  have hstatus : readStatusLine (asciiBytes "HTTP/" ++ [major] ++ asciiBytes "." ++ [minor] ++ asciiBytes " " ++
      [hundreds, tens, ones] ++ asciiBytes " " ++ phrase) =
      if [major, minor, hundreds, tens, ones].all isDigit then
        some (decimalNumber [major], decimalNumber [minor], decimalNumber [hundreds, tens, ones], phrase)
      else none := rfl
  rw [hstatus]
  split_ifs
  · rw [Option.bind_some, readHeaders_lines hheaders]
    · rfl
    · have hlength := length_le_flatMap headers
      rw [List.length_append, List.length_append, show crlf.length = 2 from rfl]
      omega
  · rfl

end Forum.Library
