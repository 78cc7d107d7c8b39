import Mathlib.Data.List.GetD
import Forum.Http.ParserSteps

/-!
# What interpreting a path writes

The path and the pairs of its query are decoded in the header buffer, each where it is: only bytes that were read before
are written, so that what follows is read as it came. How many pairs a path has does not depend on what they are decoded
to.
-/

namespace Forum.Http

/-- The view ends within the first `size` bytes. -/
def View.Within (view : View) (size : ℕ) : Prop := view.start + view.size ≤ size

instance (view : View) (size : ℕ) : Decidable (view.Within size) := inferInstanceAs (Decidable (_ ≤ _))

theorem View.Within.mono {view : View} {m n : ℕ} (h : view.Within m) (hmn : m ≤ n) : view.Within n := Nat.le_trans h hmn

theorem View.within_empty (n : ℕ) : View.Within {} n := Nat.zero_le n

namespace Parser

variable {σ : Type*}

/-! ### Bytes of the header buffer -/

theorem bytes_succ {p : Parser σ} {start : ℕ} (hstart : start < p.headerSize) (size : ℕ) :
    View.bytes ⟨start, size + 1⟩ p.headerBuffer = p.get start :: View.bytes ⟨start + 1, size⟩ p.headerBuffer := by
  unfold View.bytes get
  dsimp only
  rw [List.drop_eq_getElem_cons hstart, List.take_succ_cons, List.getD_eq_getElem _ _ hstart]

theorem bytes_eq_nil_iff {p : Parser σ} {start size : ℕ} (hfinish : start + size ≤ p.headerSize) :
    View.bytes ⟨start, size⟩ p.headerBuffer = [] ↔ size = 0 := by
  rw [← List.length_eq_zero_iff]
  unfold View.bytes
  dsimp only
  unfold headerSize at hfinish
  rw [List.length_take, List.length_drop]
  omega

/-- Where the bytes behind a position are the same, so is what a view shows there. -/
theorem bytes_congr {p q : Parser σ} (hsize : q.headerSize = p.headerSize) {start : ℕ}
    (hsame : ∀ i, start ≤ i → q.get i = p.get i) (size : ℕ) :
    View.bytes ⟨start, size⟩ q.headerBuffer = View.bytes ⟨start, size⟩ p.headerBuffer := by
  unfold headerSize at hsize
  have hdrop : q.headerBuffer.drop start = p.headerBuffer.drop start := by
    apply List.ext_getElem
    · rw [List.length_drop, List.length_drop, hsize]
    · intro i hq hp
      rw [List.length_drop] at hq hp
      have hi := hsame (start + i) (Nat.le_add_right _ _)
      unfold get at hi
      rw [List.getD_eq_getElem _ _ (by omega), List.getD_eq_getElem _ _ (by omega)] at hi
      rw [List.getElem_drop, List.getElem_drop, hi]
  unfold View.bytes
  rw [hdrop]

/-! ### Decoding -/

/-- Between `p` and `q`, only bytes from `start` to `finish` were written. -/
structure Rewrites (start finish : ℕ) (p q : Parser σ) : Prop where
  interprets : Interprets p q
  request : q.request = p.request
  outside : ∀ i, i < start ∨ finish ≤ i → q.get i = p.get i
  accesses : ∃ indexes : List ℕ, (∀ i ∈ indexes, start ≤ i ∧ i < finish) ∧
    q.accesses = indexes.map .write ++ p.accesses

namespace Rewrites

theorem refl (start finish : ℕ) (p : Parser σ) : Rewrites start finish p p :=
  ⟨.refl p, rfl, fun _ _ => rfl, [], by simp, rfl⟩

theorem mono {start finish start' finish' : ℕ} {p q : Parser σ} (h : Rewrites start finish p q) (hstart : start' ≤ start)
    (hfinish : finish ≤ finish') : Rewrites start' finish' p q := by
  obtain ⟨indexes, hindexes, haccesses⟩ := h.accesses
  refine ⟨h.interprets, h.request, fun i hi => h.outside i (by omega), indexes, fun i hi => ?_, haccesses⟩
  have := hindexes i hi
  omega

theorem trans {start finish : ℕ} {p q r : Parser σ} (hpq : Rewrites start finish p q) (hqr : Rewrites start finish q r) :
    Rewrites start finish p r := by
  obtain ⟨first, hfirst, hp⟩ := hpq.accesses
  obtain ⟨second, hsecond, hq⟩ := hqr.accesses
  refine ⟨hpq.interprets.trans hqr.interprets, hqr.request.trans hpq.request,
    fun i hi => (hqr.outside i hi).trans (hpq.outside i hi), second ++ first, fun i hi => ?_, ?_⟩
  · rcases List.mem_append.1 hi with hi | hi
    · exact hsecond i hi
    · exact hfirst i hi
  · rw [hq, hp, List.map_append, List.append_assoc]

theorem set (index : ℕ) (c : UInt8) (p : Parser σ) : Rewrites index (index + 1) p (p.set index c) := by
  refine ⟨.set index c p, rfl, fun i hi => ?_, [index], by simp, rfl⟩
  show (p.headerBuffer.set index c).getD i 0 = p.headerBuffer.getD i 0
  rw [List.getD_eq_getElem?_getD, List.getD_eq_getElem?_getD, List.getElem?_set_ne (by omega)]

/-- What is decoded is no longer than it was, and is written from the destination on. -/
theorem decodeUrlEncodingInPlace (source destination size : ℕ) (p : Parser σ) :
    (p.decodeUrlEncodingInPlace source destination size).1 ≤ size ∧
      Rewrites destination (destination + size) p (p.decodeUrlEncodingInPlace source destination size).2 := by
  fun_induction Parser.decodeUrlEncodingInPlace source destination size p with
  | case1 => exact ⟨Nat.le_refl 0, refl _ _ _⟩
  | case2 source destination p _ size c rest ih =>
    obtain ⟨hsize, hrest⟩ := ih
    exact ⟨Nat.succ_le_succ (Nat.le_succ_of_le (Nat.le_succ_of_le hsize)), ((set destination c p).mono (Nat.le_refl _) (by omega)).trans (hrest.mono (by omega) (by omega))⟩
  | case3 => exact ⟨Nat.zero_le _, refl _ _ _⟩
  | case4 source destination size p _ rest ih =>
    obtain ⟨hsize, hrest⟩ := ih
    exact ⟨Nat.succ_le_succ hsize, ((set destination _ p).mono (Nat.le_refl _) (by omega)).trans (hrest.mono (by omega) (by omega))⟩

theorem viewAfterDecodingUrlEncodingInPlace (start size : ℕ) (p : Parser σ) :
    (p.viewAfterDecodingUrlEncodingInPlace start size).1.Within (start + size) ∧
      Rewrites start (start + size) p (p.viewAfterDecodingUrlEncodingInPlace start size).2 := by
  obtain ⟨hsize, hwrites⟩ := decodeUrlEncodingInPlace start start size p
  exact ⟨Nat.add_le_add_left hsize start, hwrites⟩

theorem viewBetween (start finish : ℕ) (p : Parser σ) :
    (p.viewBetween start finish).1.Within finish ∧ Rewrites start finish p (p.viewBetween start finish).2 := by
  unfold Parser.viewBetween
  split_ifs with h
  · have hview := viewAfterDecodingUrlEncodingInPlace start (finish - start) p
    rwa [Nat.add_sub_cancel' (Nat.le_of_lt h)] at hview
  · exact ⟨View.within_empty finish, refl _ _ p⟩

end Rewrites

/-! ### The loop -/

/-- How many pairs are in the rest of a path, from a state of the loop on: each begins with the first equality sign
behind the one before it, and ends with an ampersand or with the path. -/
def pairsIn : PathState → List UInt8 → ℕ
  | _, [] => 0
  | .path, c :: rest => if c = 63 then pairsIn .key rest else pairsIn .path rest
  | .key, c :: rest => if c = 61 then pairsIn .value rest else pairsIn .key rest
  | .value, c :: rest => if c = 38 ∨ rest = [] then pairsIn .key rest + 1 else pairsIn .value rest

@[simp] theorem pairsIn_nil (state : PathState) : pairsIn state [] = 0 := by cases state <;> rfl

theorem pairsIn_path (c : UInt8) (rest : List UInt8) :
    pairsIn .path (c :: rest) = if c = 63 then pairsIn .key rest else pairsIn .path rest := rfl

theorem pairsIn_key (c : UInt8) (rest : List UInt8) :
    pairsIn .key (c :: rest) = if c = 61 then pairsIn .value rest else pairsIn .key rest := rfl

theorem pairsIn_value (c : UInt8) (rest : List UInt8) : pairsIn .value (c :: rest) =
    if c = 38 ∨ rest = [] then pairsIn .key rest + 1 else pairsIn .value rest := rfl

/-- Between `p` and `q`, a part of the path in front of `finish` was interpreted, with so many pairs in it. -/
structure ReadsPath (finish count : ℕ) (p q : Parser σ) : Prop where
  interprets : Interprets p q
  behind : ∀ i, finish ≤ i → q.get i = p.get i
  accesses : ∃ indexes : List ℕ, (∀ i ∈ indexes, i < finish) ∧ q.accesses = indexes.map .write ++ p.accesses
  path : q.request.path = p.request.path ∨ q.request.path.Within finish
  pairs : ∃ pairs : List (View × View), (∀ pair ∈ pairs, pair.1.Within finish ∧ pair.2.Within finish) ∧
    q.request.queryPairs = p.request.queryPairs ++ pairs ∧ pairs.length = count
  same : q.request = { p.request with path := q.request.path, queryPairs := q.request.queryPairs }

namespace ReadsPath

theorem refl (finish : ℕ) (p : Parser σ) : ReadsPath finish 0 p p :=
  ⟨.refl p, fun _ _ => rfl, ⟨[], by simp, rfl⟩, Or.inl rfl, ⟨[], by simp, by simp, rfl⟩, rfl⟩

theorem trans {finish finish' m n : ℕ} {p q r : Parser σ} (hpq : ReadsPath finish m p q) (hqr : ReadsPath finish' n q r)
    (hfinish : finish ≤ finish') : ReadsPath finish' (m + n) p r := by
  obtain ⟨first, hfirst, hp⟩ := hpq.accesses
  obtain ⟨second, hsecond, hq⟩ := hqr.accesses
  obtain ⟨before, hbefore, hpairs, rfl⟩ := hpq.pairs
  obtain ⟨after, hafter, hpairs', rfl⟩ := hqr.pairs
  refine ⟨hpq.interprets.trans hqr.interprets,
    fun i hi => (hqr.behind i hi).trans (hpq.behind i (Nat.le_trans hfinish hi)), ⟨second ++ first, fun i hi => ?_, ?_⟩,
    ?_, ⟨before ++ after, fun pair hpair => ?_, by rw [hpairs', hpairs, List.append_assoc], List.length_append⟩,
    by rw [hqr.same, hpq.same]⟩
  · rcases List.mem_append.1 hi with hi | hi
    · exact hsecond i hi
    · exact Nat.lt_of_lt_of_le (hfirst i hi) hfinish
  · rw [hq, hp, List.map_append, List.append_assoc]
  · rcases hqr.path with hpath | hpath
    · rw [hpath]
      exact hpq.path.imp_right fun h => h.mono hfinish
    · exact Or.inr hpath
  · rcases List.mem_append.1 hpair with hpair | hpair
    · exact ⟨(hbefore pair hpair).1.mono hfinish, (hbefore pair hpair).2.mono hfinish⟩
    · exact hafter pair hpair

/-- A new path, which was decoded. -/
theorem of_path {start finish : ℕ} {p q : Parser σ} (h : Rewrites start finish p q) {path : View}
    (hpath : path.Within finish) : ReadsPath finish 0 p (q.updateRequest ({ · with path := path })) := by
  obtain ⟨indexes, hindexes, haccesses⟩ := h.accesses
  refine ⟨h.interprets.trans (.updateRequest _ q), fun i hi => h.outside i (Or.inr hi),
    ⟨indexes, fun i hi => (hindexes i hi).2, haccesses⟩, Or.inr hpath, ⟨[], by simp, ?_, rfl⟩, ?_⟩
  · show q.request.queryPairs = _
    rw [h.request, List.append_nil]
  · unfold updateRequest
    dsimp only
    rw [h.request]

/-- A new pair, whose parts were decoded. -/
theorem of_pair {start finish : ℕ} {p q : Parser σ} (h : Rewrites start finish p q) {key value : View}
    (hkey : key.Within finish) (hvalue : value.Within finish) :
    ReadsPath finish 1 p
      (q.updateRequest fun request => { request with queryPairs := request.queryPairs ++ [(key, value)] }) := by
  obtain ⟨indexes, hindexes, haccesses⟩ := h.accesses
  refine ⟨h.interprets.trans (.updateRequest _ q), fun i hi => h.outside i (Or.inr hi),
    ⟨indexes, fun i hi => (hindexes i hi).2, haccesses⟩, Or.inl ?_,
    ⟨[(key, value)], by simp [hkey, hvalue], ?_, rfl⟩, ?_⟩
  · show q.request.path = _
    rw [h.request]
  · show q.request.queryPairs ++ _ = _
    rw [h.request]
  · unfold updateRequest
    dsimp only
    rw [h.request]

/-- A round of the loop interprets nothing behind its character. -/
theorem interpretPathCharacter {i n : ℕ} {l : PathLoop} (hkey : l.keyEnd ≤ i) (p : Parser σ) :
    (p.interpretPathCharacter i n l).1.keyEnd ≤ i + 1 ∧
    ∃ count, ReadsPath (p.parsePathStartsAt + i) count p (p.interpretPathCharacter i n l).2 ∧
      ∀ rest : List UInt8, (rest = [] ↔ i + 1 = n) →
        count + pairsIn (p.interpretPathCharacter i n l).1.state rest =
          pairsIn l.state (p.get (p.parsePathStartsAt + i) :: rest) := by
  unfold Parser.interpretPathCharacter
  dsimp only
  cases hstate : l.state with
  | path =>
    dsimp only
    split_ifs with hend
    · obtain ⟨hpath, hwrites⟩ := Rewrites.viewAfterDecodingUrlEncodingInPlace p.parsePathStartsAt i p
      refine ⟨Nat.le_refl _, 0, of_path hwrites hpath, fun rest hrest => ?_⟩
      rw [Nat.zero_add, pairsIn_path]
      by_cases hmark : p.get (p.parsePathStartsAt + i) = 63
      · rw [if_pos hmark]
      · rw [if_neg hmark, hrest.2 (hend.resolve_left hmark), pairsIn_nil, pairsIn_nil]
    · refine ⟨Nat.le_succ_of_le hkey, 0, refl _ p, fun rest _ => ?_⟩
      rw [Nat.zero_add, hstate, pairsIn_path, if_neg fun h => hend (Or.inl h)]
  | key =>
    dsimp only
    split_ifs with hequal
    · refine ⟨Nat.le_succ _, 0, refl _ p, fun rest _ => ?_⟩
      rw [Nat.zero_add, pairsIn_key, if_pos hequal]
    · refine ⟨Nat.le_succ_of_le hkey, 0, refl _ p, fun rest _ => ?_⟩
      rw [Nat.zero_add, hstate, pairsIn_key, if_neg hequal]
  | value =>
    dsimp only
    split_ifs with hend
    · obtain ⟨hkeyView, hkeyWrites⟩ :=
        Rewrites.viewBetween (p.parsePathStartsAt + l.keyStart) (p.parsePathStartsAt + l.keyEnd) p
      obtain ⟨hvalueView, hvalueWrites⟩ := Rewrites.viewBetween (p.parsePathStartsAt + l.valueStart)
        (p.parsePathStartsAt + i)
        (p.viewBetween (p.parsePathStartsAt + l.keyStart) (p.parsePathStartsAt + l.keyEnd)).2
      have hfinish := Nat.add_le_add_left hkey p.parsePathStartsAt
      refine ⟨Nat.le_refl _, 1, of_pair ((hkeyWrites.mono (Nat.zero_le _) hfinish).trans
        (hvalueWrites.mono (Nat.zero_le _) (Nat.le_refl _))) (hkeyView.mono hfinish) hvalueView, fun rest hrest => ?_⟩
      rw [Nat.add_comm, pairsIn_value, if_pos (hend.imp_right hrest.2)]
    · refine ⟨Nat.le_succ_of_le hkey, 0, refl _ p, fun rest hrest => ?_⟩
      rw [Nat.zero_add, hstate, pairsIn_value, if_neg fun h => hend (h.imp_right hrest.1)]

theorem verb {finish count : ℕ} {p q : Parser σ} (h : ReadsPath finish count p q) : q.request.verb = p.request.verb := by
  rw [h.same]

theorem parsePathStartsAt {finish count : ℕ} {p q : Parser σ} (h : ReadsPath finish count p q) :
    q.parsePathStartsAt = p.parsePathStartsAt := by
  rw [h.interprets.same]

theorem interpretPathLoop {n remaining : ℕ} (hremaining : remaining ≤ n) {l : PathLoop} (hkey : l.keyEnd ≤ n - remaining)
    {p : Parser σ} (hsize : p.parsePathStartsAt + n ≤ p.headerSize) :
    ReadsPath (p.parsePathStartsAt + n)
      (pairsIn l.state (View.bytes ⟨p.parsePathStartsAt + (n - remaining), remaining⟩ p.headerBuffer)) p
      (p.interpretPathLoop n remaining l) := by
  induction remaining generalizing l p with
  | zero =>
    unfold View.bytes
    dsimp only
    rw [List.take_zero, pairsIn_nil]
    exact refl _ p
  | succ remaining ih =>
    obtain ⟨i, rfl⟩ : ∃ i, n = i + (remaining + 1) := ⟨n - (remaining + 1), by omega⟩
    have hnext : i + (remaining + 1) - remaining = i + 1 := by omega
    rw [Nat.add_sub_cancel] at hkey ⊢
    rw [hnext] at ih
    obtain ⟨hkey', count, hread, hcount⟩ := interpretPathCharacter (n := i + (remaining + 1)) hkey p
    have hrest := ih (by omega) hkey'
      (by rw [hread.parsePathStartsAt, hread.interprets.headerSize]; exact hsize)
    rw [hread.parsePathStartsAt] at hrest
    rw [bytes_succ (by omega), ← hcount _ (by rw [bytes_eq_nil_iff (by omega)]; omega),
      ← bytes_congr (q := (p.interpretPathCharacter i (i + (remaining + 1)) l).2) hread.interprets.headerSize
        (fun j hj => hread.behind j (by omega)) remaining]
    unfold Parser.interpretPathLoop
    rw [Nat.add_sub_cancel]
    exact hread.trans hrest (by omega)

/-- The whole path is interpreted as far as its length fits an `int`. -/
theorem interpretPathString {p : Parser σ} {n : ℕ} (hn : n = (castInt p.request.path.size).toNat)
    (hsize : p.parsePathStartsAt + n ≤ p.headerSize) :
    ReadsPath (p.parsePathStartsAt + n)
      (pairsIn .path (View.bytes ⟨p.parsePathStartsAt, n⟩ p.headerBuffer)) p p.interpretPathString := by
  have hloop := interpretPathLoop (l := {}) (Nat.le_refl n) (Nat.zero_le _) hsize
  rw [Nat.sub_self, Nat.add_zero] at hloop
  unfold Parser.interpretPathString
  dsimp only
  rw [← hn]
  exact hloop

end ReadsPath

end Parser

end Forum.Http
