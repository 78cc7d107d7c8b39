import Forum.Http.PathWrites

/-!
# Where the loops that trim a cookie read

The names and the values of cookies are trimmed by loops that go on while there are spaces, and are decoded in place.
What is written stays in front of what is read next. Where the loops stop depends on the text alone: they stay inside
it if they come to a character that is no space, in one direction before the end of the text and in the other before
its beginning.
-/

namespace Forum.Http

/-- The position is one of the view. -/
def View.Contains (view : View) (i : ℕ) : Prop := view.start ≤ i ∧ i < view.start + view.size

instance (view : View) (i : ℕ) : Decidable (view.Contains i) := inferInstanceAs (Decidable (_ ∧ _))

namespace Parser

variable {σ : Type*}

/-! ### What the text says -/

/-- How many cookies are in the rest of a text, from a state of the loop on: one for each semicolon, and one at the end
unless a name ends there. -/
def cookiesIn : CookieState → List UInt8 → ℕ
  | _, [] => 0
  | .name, c :: rest =>
    if c = 61 then cookiesIn .value rest
    else if c = 59 ∨ rest = [] then cookiesIn .name rest + 1 else cookiesIn .name rest
  | .value, c :: rest => if c = 59 ∨ rest = [] then cookiesIn .name rest + 1 else cookiesIn .value rest

@[simp] theorem cookiesIn_nil (state : CookieState) : cookiesIn state [] = 0 := by cases state <;> rfl

theorem cookiesIn_name (c : UInt8) (rest : List UInt8) : cookiesIn .name (c :: rest) =
    if c = 61 then cookiesIn .value rest
    else if c = 59 ∨ rest = [] then cookiesIn .name rest + 1 else cookiesIn .name rest := rfl

theorem cookiesIn_value (c : UInt8) (rest : List UInt8) : cookiesIn .value (c :: rest) =
    if c = 59 ∨ rest = [] then cookiesIn .name rest + 1 else cookiesIn .value rest := rfl

/-- Does the rest of a text leave the trimming loops inside it? In the state of a name, `edge` says that the text begins
with this cookie; in that of a value, that it begins with the name of this cookie and that the name is blank. In both
states `blank` says that there were only spaces so far. -/
def trimsInside : CookieState → Bool → Bool → List UInt8 → Bool
  | _, _, _, [] => true
  | .name, edge, blank, c :: rest =>
    if c = 61 then trimsInside .value (edge && blank) true rest
    else if c = 59 ∨ rest = [] then
      !(blank && if rest = [] then c == 32 else edge) && trimsInside .name false true rest
    else trimsInside .name edge (blank && c == 32) rest
  | .value, edge, blank, c :: rest =>
    if c = 59 ∨ rest = [] then
      (!edge && !(rest.isEmpty && blank && c == 32)) && trimsInside .name false true rest
    else trimsInside .value edge (blank && c == 32) rest

@[simp] theorem trimsInside_nil (state : CookieState) (edge blank : Bool) : trimsInside state edge blank [] = true := by
  cases state <;> rfl

theorem trimsInside_name (edge blank : Bool) (c : UInt8) (rest : List UInt8) : trimsInside .name edge blank (c :: rest) =
    if c = 61 then trimsInside .value (edge && blank) true rest
    else if c = 59 ∨ rest = [] then
      !(blank && if rest = [] then c == 32 else edge) && trimsInside .name false true rest
    else trimsInside .name edge (blank && c == 32) rest := rfl

theorem trimsInside_value (edge blank : Bool) (c : UInt8) (rest : List UInt8) : trimsInside .value edge blank (c :: rest) =
    if c = 59 ∨ rest = [] then
      (!edge && !(rest.isEmpty && blank && c == 32)) && trimsInside .name false true rest
    else trimsInside .value edge (blank && c == 32) rest := rfl

/-! ### The loops -/

theorem get_eq_space_iff {p : Parser σ} {i : ℕ} : p.get i = 32 ↔ p.headerBuffer[i]? = some 32 := by
  unfold get
  rw [List.getD_eq_getElem?_getD]
  cases p.headerBuffer[i]? with
  | none => simp
  | some c => simp

/-- Going on from a position, the loop stops at the first character that is no space. -/
theorem spacesFrom (p : Parser σ) (start : ℕ) :
    (∀ j < ((p.headerBuffer.drop start).takeWhile (· == 32)).length, p.get (start + j) = 32) ∧
      p.get (start + ((p.headerBuffer.drop start).takeWhile (· == 32)).length) ≠ 32 := by
  have hget : ∀ j, p.get (start + j) = 32 ↔ (p.headerBuffer.drop start)[j]? = some 32 := fun j => by
    rw [get_eq_space_iff, List.getElem?_drop]
  simp only [hget, ne_eq]
  generalize p.headerBuffer.drop start = text
  induction text with
  | nil => simp
  | cons c text ih =>
    by_cases hc : c = 32
    · rw [List.takeWhile_cons_of_pos (by simpa using hc), List.length_cons, hc]
      refine ⟨fun j hj => ?_, by simpa using ih.2⟩
      cases j with
      | zero => rfl
      | succ j => exact ih.1 j (Nat.lt_of_succ_lt_succ hj)
    · rw [List.takeWhile_cons_of_neg (by simpa using hc)]
      exact ⟨fun j hj => absurd hj (Nat.not_lt_zero j), by simpa using hc⟩

/-- Going back from a position, it stops behind the last one. -/
theorem spacesBefore_spec (p : Parser σ) (finish : ℕ) :
    spacesBefore p.headerBuffer finish ≤ finish ∧
      (∀ j, finish - spacesBefore p.headerBuffer finish ≤ j → j < finish → p.get j = 32) ∧
      (spacesBefore p.headerBuffer finish < finish →
        p.get (finish - 1 - spacesBefore p.headerBuffer finish) ≠ 32) := by
  induction finish with
  | zero => exact ⟨Nat.le_refl 0, fun j _ hj => absurd hj (Nat.not_lt_zero j), fun h => absurd h (Nat.lt_irrefl 0)⟩
  | succ finish ih =>
    obtain ⟨hle, hspaces, hstop⟩ := ih
    unfold spacesBefore
    split_ifs with hspace
    · refine ⟨Nat.succ_le_succ hle, fun j hj hlt => ?_, fun hlt => ?_⟩
      · rcases Nat.lt_or_ge j finish with hj' | hj'
        · exact hspaces j (by omega) hj'
        · obtain rfl : j = finish := by omega
          exact get_eq_space_iff.2 hspace
      · have hindex : finish + 1 - 1 - (spacesBefore p.headerBuffer finish + 1) =
            finish - 1 - spacesBefore p.headerBuffer finish := by omega
        rw [hindex]
        exact hstop (by omega)
    · refine ⟨Nat.zero_le _, fun j hj hlt => by omega, fun _ => ?_⟩
      rw [Nat.add_sub_cancel, Nat.sub_zero, Ne, get_eq_space_iff]
      exact hspace

/-- The text has a character that is no space, from one position to another. -/
def HasText (p : Parser σ) (start finish : ℕ) : Prop := ∃ j, start ≤ j ∧ j < finish ∧ p.get j ≠ 32

theorem trimStart_inside {p : Parser σ} {value : View} {start : ℕ} (hstart : value.start ≤ start) :
    (∀ i, Access.trim value i ∈ (List.range' start (((p.headerBuffer.drop start).takeWhile (· == 32)).length + 1)).map
        (Access.trim value) → value.Contains i) ↔ p.HasText start (value.start + value.size) := by
  obtain ⟨hspaces, hstop⟩ := p.spacesFrom start
  generalize ((p.headerBuffer.drop start).takeWhile (· == 32)).length = spaces at *
  constructor
  · intro hinside
    have hlast := hinside (start + spaces) (List.mem_map.2 ⟨_, List.mem_range'_1.2 (by omega), rfl⟩)
    exact ⟨start + spaces, Nat.le_add_right _ _, hlast.2, hstop⟩
  · rintro ⟨j, hj, hfinish, htext⟩ i hi
    obtain ⟨i', hi', heq⟩ := List.mem_map.1 hi
    obtain rfl : i' = i := by injection heq
    rw [List.mem_range'_1] at hi'
    have hle : start + spaces ≤ j := by
      by_contra hlt
      refine htext ?_
      have := hspaces (j - start) (by omega)
      rwa [Nat.add_sub_cancel' hj] at this
    exact ⟨by omega, by omega⟩

theorem trimEnd_inside {p : Parser σ} {value : View} (hvalue : 0 < value.start) {finish : ℕ}
    (hfinish : finish ≤ value.start + value.size) :
    (∀ i, Access.trim value i ∈ (List.range' (finish - 1 - spacesBefore p.headerBuffer finish)
        (spacesBefore p.headerBuffer finish + 1)).map (Access.trim value) → value.Contains i) ↔
      p.HasText value.start finish := by
  obtain ⟨hle, hspaces, hstop⟩ := p.spacesBefore_spec finish
  generalize spacesBefore p.headerBuffer finish = spaces at *
  constructor
  · intro hinside
    have hfirst := hinside (finish - 1 - spaces) (List.mem_map.2 ⟨_, List.mem_range'_1.2 (by omega), rfl⟩)
    have hstart := hfirst.1
    exact ⟨finish - 1 - spaces, hstart, by omega, hstop (by omega)⟩
  · rintro ⟨j, hj, hlt, htext⟩ i hi
    obtain ⟨i', hi', heq⟩ := List.mem_map.1 hi
    obtain rfl : i' = i := by injection heq
    rw [List.mem_range'_1] at hi'
    have hbefore : j < finish - spaces := by
      by_contra hge
      exact htext (hspaces j (by omega) hlt)
    exact ⟨by omega, by omega⟩

/-! ### What a round does -/

/-- Between `p` and `q`, a part of the value in front of `finish` was interpreted, with so many cookies in it; the loops
that trim them read the value only, or not. -/
structure ReadsCookies (value : View) (finish count : ℕ) (inside : Prop) (p q : Parser σ) : Prop where
  interprets : Interprets p q
  behind : ∀ i, finish ≤ i → q.get i = p.get i
  accesses : ∃ accesses : List Access,
    (∀ access ∈ accesses, (∃ i, access = .write i ∧ i < finish) ∨ ∃ i, access = .trim value i) ∧
    (inside ↔ ∀ i, .trim value i ∈ accesses → value.Contains i) ∧ q.accesses = accesses ++ p.accesses
  cookies : ∃ cookies : List (View × View), (∀ cookie ∈ cookies, cookie.1.Within finish ∧ cookie.2.Within finish) ∧
    q.request.cookies = p.request.cookies ++ cookies ∧ cookies.length = count
  same : q.request = { p.request with cookies := q.request.cookies }

namespace ReadsCookies

variable {value : View} {finish count : ℕ} {inside : Prop} {p q r : Parser σ}

theorem refl (value : View) (finish : ℕ) (p : Parser σ) : ReadsCookies value finish 0 True p p :=
  ⟨.refl p, fun _ _ => rfl, ⟨[], by simp, by simp, rfl⟩, ⟨[], by simp, by simp, rfl⟩, rfl⟩

theorem trans {finish' m n : ℕ} {inside' : Prop} (hpq : ReadsCookies value finish m inside p q)
    (hqr : ReadsCookies value finish' n inside' q r) (hfinish : finish ≤ finish') :
    ReadsCookies value finish' (m + n) (inside ∧ inside') p r := by
  obtain ⟨first, hfirst, hinside, hp⟩ := hpq.accesses
  obtain ⟨second, hsecond, hinside', hq⟩ := hqr.accesses
  obtain ⟨before, hbefore, hcookies, rfl⟩ := hpq.cookies
  obtain ⟨after, hafter, hcookies', rfl⟩ := hqr.cookies
  refine ⟨hpq.interprets.trans hqr.interprets,
    fun i hi => (hqr.behind i hi).trans (hpq.behind i (Nat.le_trans hfinish hi)),
    ⟨second ++ first, fun access haccess => ?_, ?_, by rw [hq, hp, List.append_assoc]⟩,
    ⟨before ++ after, fun cookie hcookie => ?_, by rw [hcookies', hcookies, List.append_assoc], List.length_append⟩,
    by rw [hqr.same, hpq.same]⟩
  · rcases List.mem_append.1 haccess with haccess | haccess
    · exact hsecond access haccess
    · exact (hfirst access haccess).imp_left fun ⟨i, heq, hi⟩ => ⟨i, heq, Nat.lt_of_lt_of_le hi hfinish⟩
  · rw [hinside, hinside']
    constructor
    · rintro ⟨hin, hin'⟩ i hi
      exact (List.mem_append.1 hi).elim (hin' i) (hin i)
    · exact fun hall => ⟨fun i hi => hall i (List.mem_append_right _ hi), fun i hi => hall i (List.mem_append_left _ hi)⟩
  · rcases List.mem_append.1 hcookie with hcookie | hcookie
    · exact ⟨(hbefore cookie hcookie).1.mono hfinish, (hbefore cookie hcookie).2.mono hfinish⟩
    · exact hafter cookie hcookie

theorem congr {inside' : Prop} (h : ReadsCookies value finish count inside p q) (heq : inside ↔ inside') :
    ReadsCookies value finish count inside' p q :=
  propext heq ▸ h

theorem of_rewrites {start : ℕ} (value : View) (h : Rewrites start finish p q) : ReadsCookies value finish 0 True p q := by
  obtain ⟨indexes, hindexes, haccesses⟩ := h.accesses
  refine ⟨h.interprets, fun i hi => h.outside i (Or.inr hi), ⟨indexes.map .write, fun access haccess => ?_, ?_, haccesses⟩,
    ⟨[], by simp, by rw [h.request, List.append_nil], rfl⟩, by rw [h.request]⟩
  · obtain ⟨i, hi, rfl⟩ := List.mem_map.1 haccess
    exact Or.inl ⟨i, rfl, (hindexes i hi).2⟩
  · refine ⟨fun _ i hi => ?_, fun _ => trivial⟩
    obtain ⟨j, -, heq⟩ := List.mem_map.1 hi
    cases heq

theorem trimStart {start : ℕ} (hstart : value.start ≤ start) (p : Parser σ) :
    ReadsCookies value 0 0 (p.HasText start (value.start + value.size)) p (p.trimStart value start).2 := by
  refine ⟨.trimStart value start p, fun _ _ => rfl, ⟨_, fun access haccess => ?_, (trimStart_inside hstart).symm, rfl⟩,
    ⟨[], by simp, (List.append_nil _).symm, rfl⟩, rfl⟩
  obtain ⟨i, -, rfl⟩ := List.mem_map.1 haccess
  exact Or.inr ⟨i, rfl⟩

theorem trimEnd (hvalue : 0 < value.start) {finish : ℕ} (hfinish : finish ≤ value.start + value.size) (p : Parser σ)
    : ReadsCookies value 0 0 (p.HasText value.start finish) p (p.trimEnd value finish).2 := by
  refine ⟨.trimEnd value finish p, fun _ _ => rfl,
    ⟨_, fun access haccess => ?_, (trimEnd_inside hvalue hfinish).symm, rfl⟩,
    ⟨[], by simp, (List.append_nil _).symm, rfl⟩, rfl⟩
  obtain ⟨i, -, rfl⟩ := List.mem_map.1 haccess
  exact Or.inr ⟨i, rfl⟩

theorem addCookie (value : View) {finish : ℕ} {name content : View} (hname : name.Within finish)
    (hcontent : content.Within finish) (p : Parser σ) : ReadsCookies value finish 1 True p (p.addCookie name content) :=
  ⟨.addCookie name content p, fun _ _ => rfl, ⟨[], by simp, by simp, rfl⟩,
    ⟨[(name, content)], by simp [hname, hcontent], rfl, rfl⟩, rfl⟩

/-- A part of the value is trimmed on both sides, and what is left of it is decoded. -/
theorem trimmed (hvalue : 0 < value.start) {start finish : ℕ} (hstart : value.start ≤ start)
    (hfinish : finish ≤ value.start + value.size) (p : Parser σ) :
    ReadsCookies value 0 0 (p.HasText start (value.start + value.size) ∧ p.HasText value.start finish) p
      ((p.trimStart value start).2.trimEnd value finish).2 :=
  (trimStart hstart p).trans (trimEnd hvalue hfinish (p.trimStart value start).2) (Nat.le_refl 0)

theorem viewBetween (value : View) (start : ℕ) {last finish : ℕ} (hlast : last ≤ finish) (p : Parser σ) :
    (p.viewBetween start last).1.Within finish ∧ ReadsCookies value finish 0 True p (p.viewBetween start last).2 := by
  obtain ⟨hview, hwrites⟩ := Rewrites.viewBetween start last p
  exact ⟨hview.mono hlast, of_rewrites value (hwrites.mono (Nat.le_refl _) hlast)⟩

theorem mono {finish' : ℕ} (h : ReadsCookies value finish count inside p q) (hfinish : finish ≤ finish') :
    ReadsCookies value finish' count inside p q :=
  (h.trans (refl value finish' q) hfinish).congr ⟨And.left, fun h => ⟨h, trivial⟩⟩

/-- A cookie without a name is added. -/
theorem unnamed (hvalue : 0 < value.start) {start finish : ℕ} (hstart : value.start ≤ start)
    (hfinish : finish ≤ value.start + value.size) (p : Parser σ) {trimmedStart trimmedEnd : ℕ × Parser σ}
    (hs : p.trimStart value start = trimmedStart) (he : trimmedStart.2.trimEnd value finish = trimmedEnd) :
    ReadsCookies value finish 1 (p.HasText start (value.start + value.size) ∧ p.HasText value.start finish) p
      ((trimmedEnd.2.viewBetween trimmedStart.1 trimmedEnd.1).2.addCookie {}
        (trimmedEnd.2.viewBetween trimmedStart.1 trimmedEnd.1).1) := by
  subst hs he
  obtain ⟨hview, hread⟩ := viewBetween value (p.trimStart value start).1
    (Nat.sub_le finish _ : ((p.trimStart value start).2.trimEnd value finish).1 ≤ finish)
    ((p.trimStart value start).2.trimEnd value finish).2
  exact (((trimmed hvalue hstart hfinish p).trans hread (Nat.zero_le _)).trans
    (addCookie value (View.within_empty finish) hview _) (Nat.le_refl _)).congr (by simp)

/-- A cookie with a name is added. -/
theorem named (hvalue : 0 < value.start) {nameStart nameEnd valueStart finish : ℕ} (hnameStart : value.start ≤ nameStart)
    (hnameEnd : nameEnd ≤ finish) (hvalueStart : value.start ≤ valueStart) (hfinish : finish ≤ value.start + value.size)
    (p : Parser σ) {a b c d : ℕ × Parser σ} {name content : View × Parser σ} (ha : p.trimStart value nameStart = a)
    (hb : a.2.trimEnd value nameEnd = b) (hc : b.2.trimStart value valueStart = c) (hd : c.2.trimEnd value finish = d)
    (hname : d.2.viewBetween a.1 b.1 = name) (hcontent : name.2.viewBetween c.1 d.1 = content) :
    ReadsCookies value finish 1
      ((p.HasText nameStart (value.start + value.size) ∧ p.HasText value.start nameEnd) ∧
        p.HasText valueStart (value.start + value.size) ∧ p.HasText value.start finish) p
      (content.2.addCookie name.1 content.1) := by
  have hfirst := trimmed hvalue hnameStart (Nat.le_trans hnameEnd hfinish) p
  rw [ha, hb] at hfirst
  have hsecond := trimmed hvalue hvalueStart hfinish b.2
  rw [hc, hd] at hsecond
  have hb' : b.1 ≤ finish := by
    rw [← hb]
    exact Nat.le_trans (Nat.sub_le nameEnd _) hnameEnd
  have hd' : d.1 ≤ finish := by
    rw [← hd]
    exact Nat.sub_le finish _
  obtain ⟨hnameView, hnameRead⟩ := viewBetween value a.1 hb' d.2
  rw [hname] at hnameView hnameRead
  obtain ⟨hview, hread⟩ := viewBetween value c.1 hd' name.2
  rw [hcontent] at hview hread
  have hsame : ∀ m n, b.2.HasText m n ↔ p.HasText m n := fun m n => by
    rw [← hb, ← ha]
    rfl
  rw [hsame, hsame] at hsecond
  exact ((((hfirst.trans hsecond (Nat.le_refl 0)).trans hnameRead (Nat.zero_le _)).trans hread (Nat.le_refl _)).trans
    (addCookie value hnameView hview _) (Nat.le_refl _)).congr (by simp)

end ReadsCookies

/-! ### The loop -/

/-- Where the loop is in a value, at position `i`: what its variables say about the text. -/
structure CookieLoop.At (value : View) (i : ℕ) (edge blank : Bool) (l : CookieLoop) (p : Parser σ) : Prop where
  start : value.start ≤ l.nameStart
  le : l.valueStart ≤ i
  /-- A cookie begins where the value does, or behind a semicolon. -/
  before : i < value.start + value.size → l.nameStart = value.start ∨ p.get (l.nameStart - 1) = 59
  blank : blank = true ↔ ∀ j, l.valueStart ≤ j → j < i → p.get j = 32
  name : l.state = .name → l.valueStart = l.nameStart ∧ (edge = true ↔ l.nameStart = value.start)
  value : l.state = .value → l.nameStart ≤ l.nameEnd ∧ l.valueStart = l.nameEnd + 1 ∧ p.get l.nameEnd = 61 ∧
    (edge = true ↔ l.nameStart = value.start ∧ ∀ j, l.nameStart ≤ j → j < l.nameEnd → p.get j = 32)

section Rounds

variable {value : View} {i : ℕ} {edge blank : Bool} {l : CookieLoop} {p : Parser σ}

/-- Text that begins at the value or behind a semicolon is blank up to some position only if it begins at the value. -/
theorem hasText_of_before {start finish : ℕ} (hvalue : 0 < value.start) (hstart : value.start ≤ start) (hle : start ≤ finish)
    (hbefore : start = value.start ∨ p.get (start - 1) = 59) :
    p.HasText value.start finish ↔ ¬ (start = value.start ∧ ∀ j, start ≤ j → j < finish → p.get j = 32) := by
  constructor
  · rintro ⟨j, hj, hlt, htext⟩ ⟨rfl, hspaces⟩
    exact htext (hspaces j hj hlt)
  · intro hnot
    by_cases heq : start = value.start
    · by_contra hnone
      refine hnot ⟨heq, fun j hj hlt => ?_⟩
      by_contra htext
      exact hnone ⟨j, by omega, hlt, htext⟩
    · exact ⟨start - 1, by omega, by omega, by rw [hbefore.resolve_left heq]; decide⟩

/-- Before the last character, there is text from a position on when the next character is a semicolon. -/
theorem hasText_of_semicolon {start finish : ℕ} (hstart : start ≤ i) (hi : i < finish) (hc : p.get i = 59) :
    p.HasText start finish :=
  ⟨i, hstart, hi, by rw [hc]; decide⟩

/-- At the last character, the text is blank from a position on if it was so far and this is a space. -/
theorem hasText_last_iff {start : ℕ} (hstart : start ≤ i) (hblank : blank = true ↔ ∀ j, start ≤ j → j < i → p.get j = 32) :
    p.HasText start (i + 1) ↔ ¬ (blank = true ∧ p.get i = 32) := by
  rw [hblank]
  constructor
  · rintro ⟨j, hj, hlt, htext⟩ ⟨hspaces, hlast⟩
    rcases Nat.lt_succ_iff_lt_or_eq.1 hlt with hlt | rfl
    · exact htext (hspaces j hj hlt)
    · exact htext hlast
  · intro hnot
    by_contra hnone
    have hall : ∀ j, start ≤ j → j < i + 1 → p.get j = 32 := fun j hj hlt => by
      by_contra htext
      exact hnone ⟨j, hj, hlt, htext⟩
    exact hnot ⟨fun j hj hlt => hall j hj (Nat.lt_succ_of_lt hlt), hall i hstart (Nat.lt_succ_self i)⟩

/-- A cookie without a name ends at this character. -/
theorem trimsInside_unnamed (hvalue : 0 < value.start) (hl : l.At value i edge blank p) (hname : l.state = .name)
    (hi : i < value.start + value.size) {rest : List UInt8} (hrest : rest = [] ↔ i + 1 = value.start + value.size)
    (hend : p.get i = 59 ∨ i + 1 = value.start + value.size) (hequal : p.get i ≠ 61) :
    (p.HasText l.valueStart (value.start + value.size) ∧
      p.HasText value.start (if i + 1 = value.start + value.size then i + 1 else i)) ∧
        trimsInside .name false true rest = true ↔
      trimsInside .name edge blank (p.get i :: rest) = true := by
  obtain ⟨hstart, hedge⟩ := hl.name hname
  have hle : value.start ≤ l.valueStart := hstart ▸ hl.start
  rw [trimsInside_name, if_neg hequal, if_pos (hend.imp_right hrest.2), Bool.and_eq_true]
  by_cases hlast : i + 1 = value.start + value.size
  · rw [if_pos hlast, if_pos (hrest.2 hlast), ← hlast, hasText_last_iff hl.le hl.blank]
    have himp : ¬ (blank = true ∧ p.get i = 32) → p.HasText value.start (i + 1) := fun h => by
      obtain ⟨j, hj, hlt, htext⟩ := (hasText_last_iff hl.le hl.blank).2 h
      exact ⟨j, Nat.le_trans hle hj, hlt, htext⟩
    simp only [Bool.not_eq_true', Bool.and_eq_false_iff, beq_eq_false_iff_ne]
    constructor
    · rintro ⟨⟨h, -⟩, hmore⟩
      exact ⟨by simpa [or_iff_not_imp_left] using h, hmore⟩
    · rintro ⟨h, hmore⟩
      have h' : ¬ (blank = true ∧ p.get i = 32) := by simpa [or_iff_not_imp_left] using h
      exact ⟨⟨h', himp h'⟩, hmore⟩
  · have hsemicolon := hend.resolve_right hlast
    rw [if_neg hlast, if_neg fun h => hlast (hrest.1 h)]
    have hfirst := hasText_of_semicolon hl.le hi hsemicolon
    have hsecond := hasText_of_before hvalue hl.start (hstart ▸ hl.le) (hl.before hi)
    rw [hsecond, ← hedge, ← hstart, ← hl.blank]
    simp only [hfirst, true_and, Bool.not_eq_true', Bool.and_eq_false_iff]
    constructor
    · rintro ⟨h, hmore⟩
      exact ⟨by cases edge <;> cases blank <;> simp_all, hmore⟩
    · rintro ⟨h, hmore⟩
      exact ⟨by cases edge <;> cases blank <;> simp_all, hmore⟩

/-- A cookie with a name ends at this character. -/
theorem trimsInside_named (hvalue : 0 < value.start) (hl : l.At value i edge blank p) (hstate : l.state = .value)
    (hi : i < value.start + value.size) {rest : List UInt8} (hrest : rest = [] ↔ i + 1 = value.start + value.size)
    (hend : p.get i = 59 ∨ i + 1 = value.start + value.size) :
    ((p.HasText l.nameStart (value.start + value.size) ∧ p.HasText value.start l.nameEnd) ∧
      p.HasText l.valueStart (value.start + value.size) ∧
        p.HasText value.start (if i + 1 = value.start + value.size then i + 1 else i)) ∧
        trimsInside .name false true rest = true ↔
      trimsInside .value edge blank (p.get i :: rest) = true := by
  obtain ⟨hle, hnext, hequal, hedge⟩ := hl.value hstate
  have hlt : l.nameEnd < i := by have := hl.le; omega
  have htext : p.get l.nameEnd ≠ 32 := by rw [hequal]; decide
  have hfirst : p.HasText l.nameStart (value.start + value.size) := ⟨l.nameEnd, hle, by omega, htext⟩
  have hfourth : p.HasText value.start (if i + 1 = value.start + value.size then i + 1 else i) := by
    refine ⟨l.nameEnd, Nat.le_trans hl.start hle, ?_, htext⟩
    split_ifs <;> omega
  have hsecond := hasText_of_before hvalue hl.start hle (hl.before hi)
  rw [← hedge] at hsecond
  have hthird : p.HasText l.valueStart (value.start + value.size) ↔ ¬ (rest.isEmpty = true ∧ blank = true ∧ p.get i = 32) := by
    by_cases hlast : i + 1 = value.start + value.size
    · rw [← hlast, hasText_last_iff hl.le hl.blank, List.isEmpty_iff, hrest]
      simp [hlast]
    · simp only [hasText_of_semicolon hl.le hi (hend.resolve_right hlast), true_iff, List.isEmpty_iff, hrest]
      exact fun h => hlast h.1
  rw [trimsInside_value, if_pos (hend.imp_right hrest.2), Bool.and_eq_true, hsecond, hthird]
  simp only [hfirst, hfourth, true_and, and_true, Bool.and_eq_true, Bool.not_eq_true', Bool.not_eq_true,
    Bool.and_eq_false_iff, beq_eq_false_iff_ne, not_and]
  constructor
  · rintro ⟨⟨h, h'⟩, hmore⟩
    refine ⟨⟨h, ?_⟩, hmore⟩
    cases hempty : rest.isEmpty
    · exact Or.inl (Or.inl rfl)
    · cases hblank : blank
      · exact Or.inl (Or.inr rfl)
      · exact Or.inr (h' hempty hblank)
  · rintro ⟨⟨h, h'⟩, hmore⟩
    refine ⟨⟨h, fun hempty hblank => ?_⟩, hmore⟩
    rcases h' with (h' | h') | h'
    · rw [hempty] at h'
      cases h'
    · rw [hblank] at h'
      cases h'
    · exact h'

/-- Behind a cookie, the loop is at the beginning of a name. -/
theorem at_next {q : Parser σ} (hi : value.start ≤ i) (hsemicolon : i + 1 < value.start + value.size → q.get i = 59) :
    (CookieLoop.next i).At value (i + 1) false true q where
  start := Nat.le_succ_of_le hi
  le := Nat.le_refl _
  before hlt := Or.inr (by simpa [CookieLoop.next] using hsemicolon hlt)
  blank := ⟨fun _ j hj hlt => absurd hlt (Nat.not_lt.2 hj), fun _ => rfl⟩
  name _ := ⟨rfl, fun h => Bool.noConfusion h, fun h => absurd h (by show ¬ i + 1 = value.start; omega)⟩
  value h := CookieState.noConfusion h

/-- One more character. -/
theorem blank_succ_iff {start : ℕ} (hstart : start ≤ i) (hblank : blank = true ↔ ∀ j, start ≤ j → j < i → p.get j = 32) :
    (blank && p.get i == 32) = true ↔ ∀ j, start ≤ j → j < i + 1 → p.get j = 32 := by
  rw [Bool.and_eq_true, hblank, beq_iff_eq]
  constructor
  · rintro ⟨hspaces, hlast⟩ j hj hlt
    rcases Nat.lt_succ_iff_lt_or_eq.1 hlt with hlt | rfl
    · exact hspaces j hj hlt
    · exact hlast
  · exact fun hall => ⟨fun j hj hlt => hall j hj (Nat.lt_succ_of_lt hlt), hall i hstart (Nat.lt_succ_self i)⟩

/-- What a round of the loop does: it adds a cookie where one ends, and goes on. -/
theorem interpretCookieCharacter_spec (hvalue : 0 < value.start) (hl : l.At value i edge blank p)
    (hi : i < value.start + value.size) : ∃ count inside edge' blank',
      ReadsCookies value (i + 1) count inside p
        (p.interpretCookieCharacter value i (value.start + value.size) l).2 ∧
      (p.interpretCookieCharacter value i (value.start + value.size) l).1.At value (i + 1) edge' blank'
        (p.interpretCookieCharacter value i (value.start + value.size) l).2 ∧
      ∀ rest : List UInt8, (rest = [] ↔ i + 1 = value.start + value.size) →
        count + cookiesIn (p.interpretCookieCharacter value i (value.start + value.size) l).1.state rest =
            cookiesIn l.state (p.get i :: rest) ∧
          (inside ∧
              trimsInside (p.interpretCookieCharacter value i (value.start + value.size) l).1.state edge' blank' rest =
                true ↔
            trimsInside l.state edge blank (p.get i :: rest) = true) := by
  have hend : (if i + 1 = value.start + value.size then i + 1 else i) ≤ i + 1 := by split_ifs <;> omega
  have hfinish : (if i + 1 = value.start + value.size then i + 1 else i) ≤ value.start + value.size := by
    split_ifs <;> omega
  have hsemicolon : ∀ {q : Parser σ} {count : ℕ} {inside : Prop},
      ReadsCookies value (if i + 1 = value.start + value.size then i + 1 else i) count inside p q →
      (p.get i = 59 ∨ i + 1 = value.start + value.size) → i + 1 < value.start + value.size → q.get i = 59 := by
    intro q count inside hread hc hlt
    rw [hread.behind i (by rw [if_neg (Nat.ne_of_lt hlt)]), hc.resolve_right (Nat.ne_of_lt hlt)]
  unfold interpretCookieCharacter
  dsimp only
  cases hstate : l.state with
  | name =>
    obtain ⟨hstart, hedge⟩ := hl.name hstate
    have hle : value.start ≤ l.valueStart := hstart ▸ hl.start
    dsimp only
    by_cases hequal : p.get i = 61
    · rw [if_pos hequal]
      refine ⟨0, True, edge && blank, true, .refl value _ p,
        ⟨hl.start, Nat.le_refl _, fun h => hl.before hi, ⟨fun _ j hj hlt => absurd hlt (Nat.not_lt.2 hj), fun _ => rfl⟩,
          fun h => CookieState.noConfusion h, fun _ => ⟨hstart ▸ hl.le, rfl, hequal, ?_⟩⟩, fun rest hrest => ?_⟩
      · rw [Bool.and_eq_true, hedge, hl.blank, hstart]
      · rw [Nat.zero_add, cookiesIn_name, if_pos hequal, trimsInside_name, if_pos hequal]
        exact ⟨rfl, by simp⟩
    rw [if_neg hequal]
    by_cases hc : p.get i = 59 ∨ i + 1 = value.start + value.size
    · rw [if_pos hc]
      have hread := ReadsCookies.unnamed hvalue hle hfinish p rfl rfl
      refine ⟨1, _, false, true, hread.mono hend, at_next (Nat.le_trans hle hl.le) (hsemicolon hread hc),
        fun rest hrest => ⟨?_, trimsInside_unnamed hvalue hl hstate hi hrest hc hequal⟩⟩
      rw [cookiesIn_name, if_neg hequal, if_pos (hc.imp_right hrest.2), Nat.add_comm]
      rfl
    · rw [if_neg hc]
      refine ⟨0, True, edge, blank && p.get i == 32, .refl value _ p,
        ⟨hl.start, Nat.le_succ_of_le hl.le, fun h => hl.before hi, blank_succ_iff hl.le hl.blank, hl.name,
          fun h => CookieState.noConfusion (hstate.symm.trans h)⟩, fun rest hrest => ?_⟩
      have hc' : ¬ (p.get i = 59 ∨ rest = []) := fun h => hc (h.imp_right hrest.1)
      rw [Nat.zero_add, hstate, cookiesIn_name, if_neg hequal, if_neg hc', trimsInside_name, if_neg hequal, if_neg hc']
      exact ⟨rfl, by simp⟩
  | value =>
    obtain ⟨hle, hnext, hequal, hedge⟩ := hl.value hstate
    have hstart : value.start ≤ l.valueStart := by have := hl.start; omega
    dsimp only
    by_cases hc : p.get i = 59 ∨ i + 1 = value.start + value.size
    · rw [if_pos hc]
      have hname : l.nameEnd ≤ if i + 1 = value.start + value.size then i + 1 else i := by
        have := hl.le
        split_ifs <;> omega
      have hread := ReadsCookies.named hvalue hl.start hname hstart hfinish p rfl rfl rfl rfl rfl rfl
      refine ⟨1, _, false, true, hread.mono hend, at_next (Nat.le_trans hstart hl.le) (hsemicolon hread hc),
        fun rest hrest => ⟨?_, trimsInside_named hvalue hl hstate hi hrest hc⟩⟩
      rw [cookiesIn_value, if_pos (hc.imp_right hrest.2), Nat.add_comm]
      rfl
    · rw [if_neg hc]
      refine ⟨0, True, edge, blank && p.get i == 32, .refl value _ p,
        ⟨hl.start, Nat.le_succ_of_le hl.le, fun h => hl.before hi, blank_succ_iff hl.le hl.blank,
          fun h => CookieState.noConfusion (hstate.symm.trans h), hl.value⟩, fun rest hrest => ?_⟩
      have hc' : ¬ (p.get i = 59 ∨ rest = []) := fun h => hc (h.imp_right hrest.1)
      rw [Nat.zero_add, hstate, cookiesIn_value, if_neg hc', trimsInside_value, if_neg hc']
      exact ⟨rfl, by simp⟩

end Rounds

namespace ReadsCookies

theorem interpretCookieLoop {value : View} (hvalue : value.size = 0 ∨ 0 < value.start) {remaining : ℕ} (hremaining : remaining ≤ value.size)
    {edge blank : Bool} {l : CookieLoop} {p : Parser σ}
    (hl : l.At value (value.start + value.size - remaining) edge blank p) (hsize : value.Within p.headerSize) :
    ReadsCookies value (value.start + value.size)
      (cookiesIn l.state (View.bytes ⟨value.start + value.size - remaining, remaining⟩ p.headerBuffer))
      (trimsInside l.state edge blank
        (View.bytes ⟨value.start + value.size - remaining, remaining⟩ p.headerBuffer) = true) p
      (p.interpretCookieLoop value (value.start + value.size) remaining l) := by
  induction remaining generalizing edge blank l p with
  | zero =>
    unfold View.bytes
    dsimp only
    rw [List.take_zero, cookiesIn_nil, trimsInside_nil]
    exact (refl value _ p).congr (by simp)
  | succ remaining ih =>
    unfold View.Within at hsize
    obtain ⟨i, hi⟩ : ∃ i, value.start + value.size = i + (remaining + 1) :=
      ⟨value.start + value.size - (remaining + 1), by omega⟩
    have hthis : value.start + value.size - (remaining + 1) = i := by omega
    have hnext : value.start + value.size - remaining = i + 1 := by omega
    rw [hthis] at hl ⊢
    rw [hnext] at ih
    obtain ⟨count, inside, edge', blank', hread, hl', hcount⟩ :=
      interpretCookieCharacter_spec (hvalue.resolve_left (by omega)) hl (by omega)
    have hsize' := hread.interprets.headerSize
    have hrest := ih (by omega) hl' (by unfold View.Within; rw [hsize']; exact hsize)
    rw [bytes_congr hsize' (fun j hj => hread.behind j hj)] at hrest
    obtain ⟨hcookies, hinside⟩ := hcount (View.bytes ⟨i + 1, remaining⟩ p.headerBuffer)
      (by rw [bytes_eq_nil_iff (by omega)]; omega)
    rw [bytes_succ (by omega), ← hcookies]
    unfold Parser.interpretCookieLoop
    rw [hthis]
    exact (hread.trans hrest (by omega)).congr hinside

/-- A value whose length fits an `int` is interpreted as a whole. -/
theorem interpretCookies {value : View} (hvalue : value.size = 0 ∨ 0 < value.start) (hlength : value.size < 2 ^ 31) {p : Parser σ}
    (hsize : value.Within p.headerSize) :
    ReadsCookies value (value.start + value.size) (cookiesIn .name (value.bytes p.headerBuffer))
      (trimsInside .name true true (value.bytes p.headerBuffer) = true) p (p.interpretCookies value) := by
  have hsame : castSize (castInt value.size) = value.size := by
    unfold castSize castInt
    rw [Int.bmod_eq_of_le (by omega) (by omega)]
    omega
  have hstart : CookieLoop.At value (value.start + value.size - value.size) true true
      ⟨.name, value.start, value.start, value.start, value.start⟩ p :=
    ⟨Nat.le_refl _, by dsimp only; omega, fun _ => Or.inl rfl, ⟨fun _ j hj hlt => by dsimp only at hj; omega, fun _ => rfl⟩,
      fun _ => ⟨rfl, by simp⟩, fun h => CookieState.noConfusion h⟩
  have hloop := interpretCookieLoop hvalue (Nat.le_refl value.size) hstart hsize
  rw [Nat.add_sub_cancel] at hloop
  unfold Parser.interpretCookies
  dsimp only
  rw [hsame]
  exact hloop

end ReadsCookies

end Parser

end Forum.Http
