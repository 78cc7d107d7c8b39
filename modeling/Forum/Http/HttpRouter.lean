import Mathlib.Data.Int.Notation
import Mathlib.Data.List.Basic
import Mathlib.Data.List.Induction
import Mathlib.Tactic.SplitIfs
import Forum.Library.Ascii
import Forum.Http.HttpConstants

/-!
# Routes

`HttpRouter` keeps the routes of each first character and verb by length, the longest first, and runs the first one that
the path begins with, in lower case and with a slash at its end. What follows in the path is handed to it in parts.

Each access to the path and to the buffers is checked here: a computation without a result has left them. `forward_iff`
says when the longest route is run, with all the parts.
-/

namespace Forum.Http

open Library

/-! ### The router -/

/-- The longest path of a route. -/
def MaxRouteSize : ℕ := 128

/-- How many lists of routes there are for a verb. -/
def FirstIndexMaxValue : ℕ := 128

/-- The most parts of a path behind its route. -/
def MaxExtraPathParts : ℕ := 32

/-- An array of a capacity, with another element. -/
def pushBack {α : Type*} (capacity : ℕ) (a : α) (list : List α) : Option (List α) :=
  if list.length < capacity then some (list ++ [a]) else none

/-- `StringViewByLengthGreater`. -/
def ByLengthGreater (first second : List UInt8) : Prop :=
  second.length < first.length ∨ second.length = first.length ∧ second < first

instance (first second : List UInt8) : Decidable (ByLengthGreater first second) :=
  inferInstanceAs (Decidable (_ ∨ _))

variable {η : Type*}

/-- `std::map::emplace`. -/
def emplace (path : List UInt8) (handler : η) : List (List UInt8 × η) → List (List UInt8 × η)
  | [] => [(path, handler)]
  | entry :: entries =>
    if ByLengthGreater path entry.1 then (path, handler) :: entry :: entries
    else if ByLengthGreater entry.1 path then entry :: emplace path handler entries
    else entry :: entries

/-- `HttpRouter`: its routes, in lists by the first character of their path and their verb, and the default one. -/
structure HttpRouter (η : Type*) where
  routes : ℕ → HttpVerb → List (List UInt8 × η) := fun _ _ => []
  defaultRoute : Option η := none

/-- A call of `addRoute`. -/
structure Route (η : Type*) where
  path : List UInt8
  verb : HttpVerb
  handler : η

/-- What comes of a request: a handler runs with the extra parts of the path, or nothing was found. -/
inductive Forwarded (η : Type*)
  | handled (handler : η) (extraPathParts : List (List UInt8))
  | notFound
  deriving DecidableEq

/-- The list that the routes of a path are in. -/
def getFirstIndexForRoutes (path : List UInt8) : ℕ :=
  (match path with
    | [] => 0
    | first :: _ => first.toNat) % FirstIndexMaxValue

/-- The loop of `extractExtraPathParts`, from a position, with the start of the current part. The length of the last part is
a difference of sizes: when the start is behind the end, it is too large a number. -/
def extractParts (path : List UInt8) : ℕ → ℕ → ℕ → List (List UInt8) → Option (List (List UInt8))
  | 0, _, start, parts =>
    let lastPartLength : ℤ := path.length - start
    if 0 < lastPartLength ∧ lastPartLength ≤ path.length then
      pushBack MaxExtraPathParts ((path.drop start).take lastPartLength.toNat) parts
    else some parts
  | remaining + 1, i, start, parts =>
    if MaxExtraPathParts - 1 ≤ parts.length then some parts
    else
      (path[i]?).bind fun c =>
        if c = 47 then
          (pushBack MaxExtraPathParts ((path.drop start).take (i - start)) parts).bind fun parts =>
            extractParts path remaining (i + 1) (i + 1) parts
        else extractParts path remaining (i + 1) start parts

/-- The parts of a path behind its route. `none` when a character outside the path is read. -/
def extractExtraPathParts (path : List UInt8) (nrOfPathCharactersUsedInRoute : ℕ) : Option (List (List UInt8)) :=
  if 0 < nrOfPathCharactersUsedInRoute then
    (path[nrOfPathCharactersUsedInRoute - 1]?).bind fun c =>
      let used := if c ≠ 47 ∧ nrOfPathCharactersUsedInRoute < path.length then nrOfPathCharactersUsedInRoute + 1
        else nrOfPathCharactersUsedInRoute
      extractParts path (path.length - used) used used []
  else extractParts path path.length 0 0 []

namespace HttpRouter

/-- Adds a route to its list. -/
def addRoute (route : Route η) (router : HttpRouter η) : HttpRouter η :=
  let routes (index : ℕ) (verb : HttpVerb) :=
    if index = getFirstIndexForRoutes route.path ∧ verb = route.verb then
      emplace route.path route.handler (router.routes index verb)
    else router.routes index verb
  { router with routes := routes }

/-- The routes are added in this order. -/
def ofRoutes (routes : List (Route η)) (defaultRoute : Option η) : HttpRouter η :=
  routes.foldl (fun router route => router.addRoute route) { defaultRoute := defaultRoute }

/-- `tempPath`. Without characters, the one that is compared with a slash is in front of the buffer. -/
def tempPath (path : List UInt8) : Option (List UInt8) :=
  (((path.take MaxRouteSize).map toLower).getLast?).bind fun last =>
    if last ≠ 47 then pushBack (MaxRouteSize + 1) 47 ((path.take MaxRouteSize).map toLower)
    else some ((path.take MaxRouteSize).map toLower)

/-- `forward`. The handlers of routes can be called. -/
def forward (router : HttpRouter η) (verb : HttpVerb) (path : List UInt8) : Option (Forwarded η) :=
  (tempPath path).bind fun tempPath =>
    match (router.routes (getFirstIndexForRoutes tempPath) verb).find? (fun entry =>
      entry.1.length ≤ tempPath.length ∧ entry.1 <+: tempPath) with
    | some entry => (extractExtraPathParts path entry.1.length).map (.handled entry.2)
    | none =>
      match router.defaultRoute with
      | some handler => (extractExtraPathParts path 0).map (.handled handler)
      | none => some .notFound

end HttpRouter

/-! ### What is to be forwarded -/

/-- A path in lower case, with a slash at its end. -/
def fullPath (path : List UInt8) : List UInt8 :=
  if path.getLast? = some 47 then path.map toLower else path.map toLower ++ [47]

/-- The segments between slashes. There is none behind a slash at the end. -/
def segments (path : List UInt8) : List (List UInt8) :=
  if (path.splitOn 47).getLast? = some [] then (path.splitOn 47).dropLast else path.splitOn 47

/-- A path that can be matched. -/
def IsRoute (path : List UInt8) : Prop := path.getLast? = some 47 ∧ path.length ≤ MaxRouteSize

/-- The route is the longest one of a verb that a path begins with. -/
def IsLongest (routes : List (Route η)) (verb : HttpVerb) (path : List UInt8) (route : Route η) : Prop :=
  (route ∈ routes ∧ route.verb = verb ∧ route.path <+: fullPath path) ∧
    ∀ other ∈ routes, other.verb = verb → other.path <+: fullPath path → other.path.length ≤ route.path.length

/-- The longest route is run with as many segments of the rest as fit the array, or the default route when there is none. -/
def IsForwarded (routes : List (Route η)) (defaultRoute : Option η) (verb : HttpVerb) (path : List UInt8)
    (forwarded : Forwarded η) : Prop :=
  (∃ route, IsLongest routes verb path route ∧
    forwarded = .handled route.handler ((segments (path.drop route.path.length)).take MaxExtraPathParts)) ∨
  (∀ route, ¬ IsLongest routes verb path route) ∧ forwarded = match defaultRoute with
    | some handler => .handled handler ((segments path).take MaxExtraPathParts)
    | none => .notFound

/-! ### The order of the routes -/

theorem eq_of_not_byLengthGreater {first second : List UInt8} (h : ¬ ByLengthGreater first second)
    (h' : ¬ ByLengthGreater second first) : first = second := by
  have hlength : first.length = second.length := by
    unfold ByLengthGreater at h h'
    omega
  refine List.le_antisymm (fun hlt => h (Or.inr ⟨hlength.symm, hlt⟩)) fun hlt => h' (Or.inr ⟨hlength, hlt⟩)

theorem mem_emplace {path : List UInt8} {handler : η} {entries : List (List UInt8 × η)}
    (hnew : ∀ entry ∈ entries, entry.1 ≠ path) (entry : List UInt8 × η) :
    entry ∈ emplace path handler entries ↔ entry = (path, handler) ∨ entry ∈ entries := by
  induction entries with
  | nil =>
    unfold emplace
    rw [List.mem_singleton]
    simp
  | cons first entries ih =>
    have hrest := ih fun other hother => hnew other (List.mem_cons_of_mem _ hother)
    unfold emplace
    split_ifs with hbefore hbehind
    · exact List.mem_cons
    · rw [List.mem_cons, hrest, List.mem_cons]
      exact or_left_comm
    · exact absurd (eq_of_not_byLengthGreater hbehind hbefore) (hnew first List.mem_cons_self)

/-- The longest entries come first. -/
def ByLength (entries : List (List UInt8 × η)) : Prop :=
  entries.Pairwise fun first second => second.1.length ≤ first.1.length

theorem mem_of_mem_emplace {path : List UInt8} {handler : η} {entries : List (List UInt8 × η)} {entry : List UInt8 × η}
    (h : entry ∈ emplace path handler entries) : entry = (path, handler) ∨ entry ∈ entries := by
  induction entries with
  | nil => exact Or.inl (List.mem_singleton.1 h)
  | cons first entries ih =>
    unfold emplace at h
    split_ifs at h
    · exact List.mem_cons.1 h
    · rcases List.mem_cons.1 h with rfl | h
      · exact Or.inr List.mem_cons_self
      · exact (ih h).imp_right (List.mem_cons_of_mem _)
    · exact Or.inr h

theorem byLength_emplace {path : List UInt8} {handler : η} {entries : List (List UInt8 × η)} (h : ByLength entries) :
    ByLength (emplace path handler entries) := by
  induction entries with
  | nil => exact List.pairwise_singleton _ _
  | cons first entries ih =>
    obtain ⟨hfirst, hrest⟩ := List.pairwise_cons.1 h
    unfold emplace
    split_ifs with hbefore hbehind
    · have hle : first.1.length ≤ path.length := by
        unfold ByLengthGreater at hbefore
        omega
      refine List.pairwise_cons.2 ⟨fun entry hentry => ?_, h⟩
      rcases List.mem_cons.1 hentry with rfl | hentry
      · exact hle
      · exact Nat.le_trans (hfirst entry hentry) hle
    · have hle : path.length ≤ first.1.length := by
        unfold ByLengthGreater at hbehind
        omega
      refine List.pairwise_cons.2 ⟨fun entry hentry => ?_, ih hrest⟩
      rcases mem_of_mem_emplace hentry with rfl | hentry
      · exact hle
      · exact hfirst entry hentry
    · exact h

/-- The first match of a sorted list is a longest one. -/
theorem find?_longest {entries : List (List UInt8 × η)} (h : ByLength entries) {p : List UInt8 × η → Bool}
    {entry : List UInt8 × η} (hfind : entries.find? p = some entry) :
    ∀ other ∈ entries, p other = true → other.1.length ≤ entry.1.length := by
  induction entries with
  | nil => cases hfind
  | cons first entries ih =>
    obtain ⟨hfirst, hrest⟩ := List.pairwise_cons.1 h
    intro other hother hp
    rw [List.find?_cons] at hfind
    cases hcase : p first with
    | true =>
      rw [hcase] at hfind
      cases hfind
      rcases List.mem_cons.1 hother with rfl | hother
      · exact Nat.le_refl _
      · exact hfirst other hother
    | false =>
      rw [hcase] at hfind
      rcases List.mem_cons.1 hother with rfl | hother
      · rw [hcase] at hp
        cases hp
      · exact ih hrest hfind other hother hp

namespace HttpRouter

/-- The routes of different paths are kept under their first character and verb, by length. -/
theorem ofRoutes_spec {routes : List (Route η)} (defaultRoute : Option η)
    (hdistinct : routes.Pairwise fun a b => a.verb = b.verb → a.path ≠ b.path) :
    (ofRoutes routes defaultRoute).defaultRoute = defaultRoute ∧ ∀ index verb,
      ByLength ((ofRoutes routes defaultRoute).routes index verb) ∧
        ∀ entry, entry ∈ (ofRoutes routes defaultRoute).routes index verb ↔
          ∃ route ∈ routes, route.verb = verb ∧ getFirstIndexForRoutes route.path = index ∧
            entry = (route.path, route.handler) := by
  induction routes using List.reverseRecOn with
  | nil => exact ⟨rfl, fun index verb => ⟨List.Pairwise.nil, fun entry => by simp [ofRoutes]⟩⟩
  | append_singleton routes route ih =>
    obtain ⟨hbefore, -, hnew⟩ := List.pairwise_append.1 hdistinct
    obtain ⟨hdefault, hroutes⟩ := ih hbefore
    have hstep : ofRoutes (routes ++ [route]) defaultRoute = (ofRoutes routes defaultRoute).addRoute route := by
      unfold ofRoutes
      rw [List.foldl_append]
      rfl
    rw [hstep]
    refine ⟨hdefault, fun index verb => ?_⟩
    obtain ⟨hsorted, hmem⟩ := hroutes index verb
    unfold addRoute
    dsimp only
    split_ifs with hplace
    · obtain ⟨rfl, rfl⟩ := hplace
      refine ⟨byLength_emplace hsorted, fun entry => ?_⟩
      rw [mem_emplace, hmem]
      · constructor
        · rintro (rfl | ⟨other, hother, hrest⟩)
          · exact ⟨route, by simp, rfl, rfl, rfl⟩
          · exact ⟨other, by simp [hother], hrest⟩
        · rintro ⟨other, hother, hverb, hindex, rfl⟩
          rcases List.mem_append.1 hother with hother | hother
          · exact Or.inr ⟨other, hother, hverb, hindex, rfl⟩
          · rw [List.mem_singleton.1 hother]
            exact Or.inl rfl
      · intro other hother
        obtain ⟨old, hold, hverb, -, rfl⟩ := (hmem other).1 hother
        exact hnew old hold route (List.mem_singleton.2 rfl) hverb
    · refine ⟨hsorted, fun entry => ?_⟩
      rw [hmem]
      constructor
      · rintro ⟨other, hother, hrest⟩
        exact ⟨other, by simp [hother], hrest⟩
      · rintro ⟨other, hother, hverb, hindex, rfl⟩
        rcases List.mem_append.1 hother with hother | hother
        · exact ⟨other, hother, hverb, hindex, rfl⟩
        · rw [List.mem_singleton.1 hother] at hverb hindex
          exact absurd ⟨hindex.symm, hverb.symm⟩ hplace

end HttpRouter

/-! ### The extra parts -/

theorem segments_of_not_mem {part : List UInt8} (h : 47 ∉ part) : segments part = if part = [] then [] else [part] := by
  unfold segments
  rw [List.splitOn_eq_singleton h, List.getLast?_singleton]
  split_ifs with hlast hnil
  · rfl
  · exact absurd (Option.some.inj hlast) hnil
  · rename_i hnil
    exact absurd (congrArg some hnil) hlast
  · rfl

theorem segments_append {part : List UInt8} (h : 47 ∉ part) (rest : List UInt8) :
    segments (part ++ 47 :: rest) = part :: segments rest := by
  have hne : rest.splitOn 47 ≠ [] := List.splitOn_ne_nil 47 rest
  unfold segments
  rw [List.splitOn_append_cons_self_of_not_mem h, List.getLast?_cons_of_ne_nil hne]
  split_ifs
  · rw [List.dropLast_cons_of_ne_nil hne]
  · rfl

/-- By induction on what remains: the parts are those so far and the segments from the start of the current one, one less
than the array has room for. -/
theorem extractParts_eq {path : List UInt8} {remaining i start : ℕ} {parts : List (List UInt8)}
    (hend : i + remaining = path.length) (hstart : start ≤ i) (hslash : 47 ∉ (path.drop start).take (i - start))
    (hroom : parts.length < 31 ∨ parts.length = 31 ∧ start = i) :
    extractParts path remaining i start parts = some ((parts ++ segments (path.drop start)).take 31) := by
  induction remaining generalizing i start parts with
  | zero =>
    have hall : (path.drop start).take (i - start) = path.drop start :=
      List.take_of_length_le (by rw [List.length_drop]; omega)
    rw [hall] at hslash
    unfold extractParts pushBack
    dsimp only
    rw [segments_of_not_mem hslash]
    by_cases hnil : path.drop start = []
    · have hparts : (parts ++ []).take 31 = parts := by
        rw [List.append_nil, List.take_of_length_le (by omega)]
      have hlast : path.length ≤ start := List.drop_eq_nil_iff.1 hnil
      rw [if_pos hnil, hparts, if_neg (by omega)]
    · have hlast : start < path.length := by
        rw [List.drop_eq_nil_iff] at hnil
        omega
      have hcapacity : parts.length < MaxExtraPathParts := by
        unfold MaxExtraPathParts
        omega
      rw [if_neg hnil, if_pos (by omega), if_pos hcapacity, List.take_of_length_le (by rw [List.length_drop]; omega),
        List.take_of_length_le (by rw [List.length_append, List.length_singleton]; omega)]
  | succ remaining ih =>
    have hlt : i < path.length := by omega
    unfold extractParts
    split_ifs with hfull
    · have hlength : parts.length = 31 := by
        unfold MaxExtraPathParts at hfull
        omega
      rw [List.take_left' hlength]
    · have hroom : parts.length < 31 := by
        unfold MaxExtraPathParts at hfull
        omega
      have hsplit : path.drop start = (path.drop start).take (i - start) ++ path[i] :: path.drop (i + 1) := by
        rw [← List.drop_eq_getElem_cons hlt]
        have := List.take_append_drop (i - start) (path.drop start)
        rw [List.drop_drop, show start + (i - start) = i by omega] at this
        exact this.symm
      rw [List.getElem?_eq_getElem hlt, Option.bind_some]
      split_ifs with hc
      · rw [hc] at hsplit
        unfold pushBack
        rw [if_pos (by unfold MaxExtraPathParts; omega), Option.bind_some,
          ih (by omega) (Nat.le_refl _) (by rw [Nat.sub_self]; exact List.not_mem_nil)
            (by rw [List.length_append, List.length_singleton]; omega)]
        conv =>
          rhs
          rw [hsplit, segments_append hslash]
        rw [List.append_assoc]
        rfl
      · refine ih (by omega) (by omega) ?_ (Or.inl hroom)
        rw [hsplit, show i + 1 - start = (i - start) + 1 by omega, List.take_append,
          List.length_take, List.length_drop]
        intro hmem
        rcases List.mem_append.1 hmem with hmem | hmem
        · exact hslash (List.mem_of_mem_take hmem)
        · rw [show i - start + 1 - min (i - start) (path.length - start) = 1 by omega, List.take_succ_cons, List.take_zero,
            List.mem_singleton] at hmem
          exact hc hmem.symm

/-- Without a route, the parts are those of the whole path. -/
theorem extractExtraPathParts_zero (path : List UInt8) :
    extractExtraPathParts path 0 = some ((segments path).take 31) := by
  unfold extractExtraPathParts
  rw [if_neg (by decide), extractParts_eq (Nat.zero_add _) (Nat.le_refl _) List.not_mem_nil (Or.inl (by decide))]
  rfl

/-- Behind a slash of the path, the parts are those of the rest. -/
theorem extractExtraPathParts_of_slash {path : List UInt8} {used : ℕ} (hpos : 0 < used) (hslash : path[used - 1]? = some 47) :
    extractExtraPathParts path used = some ((segments (path.drop used)).take 31) := by
  have hlt := (List.getElem?_eq_some_iff.1 hslash).1
  unfold extractExtraPathParts
  rw [if_pos hpos, hslash, Option.bind_some]
  dsimp only
  rw [if_neg (by simp), extractParts_eq (by omega) (Nat.le_refl _) (by rw [Nat.sub_self]; exact List.not_mem_nil)
    (Or.inl (by decide))]
  rfl

/-- Behind another character one more is skipped. -/
theorem extractExtraPathParts_of_ne_slash {path : List UInt8} {used : ℕ} {c : UInt8} (hpos : 0 < used)
    (hget : path[used - 1]? = some c) (hc : c ≠ 47) :
    extractExtraPathParts path used = some ((segments (path.drop (used + 1))).take 31) := by
  have hlt := (List.getElem?_eq_some_iff.1 hget).1
  unfold extractExtraPathParts
  rw [if_pos hpos, hget, Option.bind_some]
  dsimp only
  split_ifs with hmore
  · rw [extractParts_eq (by omega) (Nat.le_refl _) (by rw [Nat.sub_self]; exact List.not_mem_nil) (Or.inl (by decide))]
    rfl
  · have hend : path.length ≤ used := Nat.le_of_not_lt fun h => hmore ⟨hc, h⟩
    have hnone : path.drop used = path.drop (used + 1) := by
      rw [List.drop_eq_nil_of_le hend, List.drop_eq_nil_of_le (by omega)]
    rw [extractParts_eq (by omega) (Nat.le_refl _) (by rw [Nat.sub_self]; exact List.not_mem_nil) (Or.inl (by decide)), hnone]
    rfl

/-- A route that is longer than the path leaves it. -/
theorem extractExtraPathParts_of_lt {path : List UInt8} {used : ℕ} (h : path.length < used) :
    extractExtraPathParts path used = none := by
  unfold extractExtraPathParts
  rw [if_pos (by omega), List.getElem?_eq_none (by omega), Option.bind_none]

/-! ### What a path begins with -/

theorem toLower_eq_slash (c : UInt8) : toLower c = 47 ↔ c = 47 := by
  have hall : ∀ n : Fin 256, toLower (UInt8.ofNat n) = 47 ↔ UInt8.ofNat n = 47 := by decide +kernel
  have hc := hall ⟨c.toNat, c.toNat_lt⟩
  rwa [UInt8.ofNat_toNat] at hc

theorem getLast?_map_toLower (path : List UInt8) : (path.map toLower).getLast? = some 47 ↔ path.getLast? = some 47 := by
  rw [List.getLast?_map]
  constructor
  · intro h
    obtain ⟨c, hc, hlower⟩ := Option.map_eq_some_iff.1 h
    rw [hc, (toLower_eq_slash c).1 hlower]
  · intro h
    rw [h]
    rfl

theorem take_fullPath {path : List UInt8} (h : MaxRouteSize ≤ path.length) :
    (fullPath path).take MaxRouteSize = (path.take MaxRouteSize).map toLower := by
  unfold fullPath
  split_ifs
  · rw [List.map_take]
  · rw [List.take_append_of_le_length (by rw [List.length_map]; exact h), List.map_take]

namespace HttpRouter

theorem tempPath_nil : tempPath [] = none := rfl

/-- A path that has characters begins with the same short texts as what is compared with the routes. -/
theorem tempPath_begins {path : List UInt8} (h : path ≠ []) : ∃ temp, tempPath path = some temp ∧
    ∀ route : List UInt8, route.length ≤ MaxRouteSize → (route <+: temp ↔ route <+: fullPath path) := by
  have hne : (path.take MaxRouteSize).map toLower ≠ [] := by
    intro hnil
    rw [List.map_eq_nil_iff, List.take_eq_nil_iff] at hnil
    rcases hnil with hzero | hnil
    · cases hzero
    · exact h hnil
  have hlength : ((path.take MaxRouteSize).map toLower).length ≤ MaxRouteSize := by
    rw [List.length_map, List.length_take]
    exact Nat.min_le_left _ _
  obtain ⟨temp, htemp, hfirst⟩ : ∃ temp, tempPath path = some temp ∧
      (temp = (path.take MaxRouteSize).map toLower ∧ ((path.take MaxRouteSize).map toLower).getLast? = some 47 ∨
        temp = (path.take MaxRouteSize).map toLower ++ [47] ∧
          ((path.take MaxRouteSize).map toLower).getLast? ≠ some 47) := by
    unfold tempPath pushBack
    rw [List.getLast?_eq_some_getLast hne, Option.bind_some]
    split_ifs with hlast hroom
    · exact ⟨_, rfl, Or.inr ⟨rfl, fun heq => hlast (Option.some.inj heq)⟩⟩
    · exact absurd (show _ < MaxRouteSize + 1 by omega) hroom
    · exact ⟨_, rfl, Or.inl ⟨rfl, congrArg some (not_not.1 hlast)⟩⟩
  refine ⟨temp, htemp, fun route hroute => ?_⟩
  by_cases hshort : path.length < MaxRouteSize
  · have htake : path.take MaxRouteSize = path := List.take_of_length_le (by omega)
    rw [htake, getLast?_map_toLower] at hfirst
    have hfull : temp = fullPath path := by
      unfold fullPath
      rcases hfirst with ⟨heq, hlast⟩ | ⟨heq, hlast⟩
      · rw [if_pos hlast, heq]
      · rw [if_neg fun hslash => hlast ((getLast?_map_toLower path).2 hslash), heq]
    rw [hfull]
  · have htemp' : temp.take MaxRouteSize = (path.take MaxRouteSize).map toLower := by
      have hsize : ((path.take MaxRouteSize).map toLower).length = MaxRouteSize := by
        rw [List.length_map, List.length_take]
        omega
      rcases hfirst with ⟨heq, -⟩ | ⟨heq, -⟩
      · rw [heq, List.take_of_length_le (by omega)]
      · rw [heq, List.take_left' hsize]
    have hbegins : ∀ list : List UInt8, route <+: list ↔ route <+: list.take MaxRouteSize := by
      intro list
      rw [List.prefix_take_iff]
      exact ⟨fun hpre => ⟨hpre, hroute⟩, fun hpre => hpre.1⟩
    rw [hbegins temp, hbegins (fullPath path), htemp', take_fullPath (by omega)]

theorem firstIndex_eq {route path : List UInt8} (hne : route ≠ []) (h : route <+: path) :
    getFirstIndexForRoutes route = getFirstIndexForRoutes path := by
  obtain ⟨rest, rfl⟩ := h
  cases route with
  | nil => exact absurd rfl hne
  | cons c route => rfl

end HttpRouter

theorem IsRoute.ne_nil {path : List UInt8} (h : IsRoute path) : path ≠ [] := by
  rintro rfl
  cases h.1

/-- The slash at the end of a route is in the path, when that is not shorter. -/
theorem getElem?_route {route path : List UInt8} (hroute : IsRoute route) (h : route <+: fullPath path)
    (hle : route.length ≤ path.length) : path[route.length - 1]? = some 47 := by
  have hpos := List.length_pos_iff.2 hroute.ne_nil
  have hlast : (fullPath path)[route.length - 1]? = some 47 := by
    obtain ⟨rest, hrest⟩ := h
    rw [← hrest, List.getElem?_append_left (by omega), ← List.getLast?_eq_getElem?, hroute.1]
  have hlower : (path.map toLower)[route.length - 1]? = some 47 := by
    unfold fullPath at hlast
    split_ifs at hlast
    · exact hlast
    · rwa [List.getElem?_append_left (by rw [List.length_map]; omega)] at hlast
  rw [List.getElem?_map] at hlower
  obtain ⟨c, hc, hslash⟩ := Option.map_eq_some_iff.1 hlower
  rw [hc, (toLower_eq_slash c).1 hslash]

/-! ### What is forwarded -/

theorem IsLongest.length_eq {routes : List (Route η)} {verb : HttpVerb} {path : List UInt8} {route other : Route η}
    (h : IsLongest routes verb path route) (h' : IsLongest routes verb path other) :
    route.path.length = other.path.length :=
  Nat.le_antisymm (h'.2 route h.1.1 h.1.2.1 h.1.2.2) (h.2 other h'.1.1 h'.1.2.1 h'.1.2.2)

namespace HttpRouter

variable {routes : List (Route η)} {defaultRoute : Option η} {verb : HttpVerb} {path : List UInt8}

/-- A path that has characters goes to a longest route, or to the default one when there is none. -/
theorem forward_longest (defaultRoute : Option η) (verb : HttpVerb)
    (hdistinct : routes.Pairwise fun a b => a.verb = b.verb → a.path ≠ b.path)
    (hroutes : ∀ route ∈ routes, route.path ≠ [] ∧ route.path.length ≤ MaxRouteSize) (hpath : path ≠ []) :
    (∃ route, IsLongest routes verb path route ∧ forward (ofRoutes routes defaultRoute) verb path =
      (extractExtraPathParts path route.path.length).map (.handled route.handler)) ∨
    (∀ route, ¬ IsLongest routes verb path route) ∧ forward (ofRoutes routes defaultRoute) verb path =
      match defaultRoute with
      | some handler => (extractExtraPathParts path 0).map (.handled handler)
      | none => some .notFound := by
  obtain ⟨temp, htemp, hbegins⟩ := tempPath_begins hpath
  obtain ⟨hdefault, hspec⟩ := ofRoutes_spec defaultRoute hdistinct
  obtain ⟨hsorted, hmem⟩ := hspec (getFirstIndexForRoutes temp) verb
  have hfound : ∀ route ∈ routes, route.verb = verb → route.path <+: fullPath path →
      (route.path, route.handler) ∈ (ofRoutes routes defaultRoute).routes (getFirstIndexForRoutes temp) verb ∧
        route.path <+: temp := by
    intro route hroute hverb hpre
    have htemp' := (hbegins route.path (hroutes route hroute).2).2 hpre
    exact ⟨(hmem _).2 ⟨route, hroute, hverb, firstIndex_eq (hroutes route hroute).1 htemp', rfl⟩, htemp'⟩
  unfold forward
  rw [htemp, Option.bind_some, hdefault]
  cases hfind : ((ofRoutes routes defaultRoute).routes (getFirstIndexForRoutes temp) verb).find? (fun entry =>
      decide (entry.1.length ≤ temp.length ∧ entry.1 <+: temp)) with
  | some entry =>
    left
    obtain ⟨route, hroute, hverb, -, rfl⟩ := (hmem entry).1 (List.mem_of_find?_eq_some hfind)
    have hmatch := List.find?_some hfind
    rw [decide_eq_true_eq] at hmatch
    refine ⟨route, ⟨⟨hroute, hverb, (hbegins _ (hroutes route hroute).2).1 hmatch.2⟩, fun other hother hsame hpre => ?_⟩, rfl⟩
    obtain ⟨hentry, hpre'⟩ := hfound other hother hsame hpre
    exact find?_longest hsorted hfind _ hentry (decide_eq_true ⟨hpre'.length_le, hpre'⟩)
  | none =>
    right
    refine ⟨fun route hlongest => ?_, rfl⟩
    obtain ⟨hentry, hpre⟩ := hfound route hlongest.1.1 hlongest.1.2.1 hlongest.1.2.2
    rw [List.find?_eq_none] at hfind
    exact hfind _ hentry (decide_eq_true ⟨hpre.length_le, hpre⟩)

/-- The routes that can be matched end in a slash. -/
theorem forward_eq (defaultRoute : Option η) (verb : HttpVerb)
    (hdistinct : routes.Pairwise fun a b => a.verb = b.verb → a.path ≠ b.path)
    (hroutes : ∀ route ∈ routes, IsRoute route.path) (hpath : path ≠ []) :
    (∃ route, IsLongest routes verb path route ∧ forward (ofRoutes routes defaultRoute) verb path =
      (extractExtraPathParts path route.path.length).map (.handled route.handler)) ∨
    (∀ route, ¬ IsLongest routes verb path route) ∧ forward (ofRoutes routes defaultRoute) verb path =
      match defaultRoute with
      | some handler => (extractExtraPathParts path 0).map (.handled handler)
      | none => some .notFound :=
  forward_longest defaultRoute verb hdistinct (fun route hroute => ⟨(hroutes route hroute).ne_nil, (hroutes route hroute).2⟩)
    hpath

end HttpRouter

/-- The path has characters, the longest route is no longer than the path, and there are not as many segments as the array
has room for. -/
def FitsRouting (routes : List (Route η)) (defaultRoute : Option η) (verb : HttpVerb) (path : List UInt8) : Prop :=
  path ≠ [] ∧
  (∀ route, IsLongest routes verb path route → route.path.length ≤ path.length ∧
    (segments (path.drop route.path.length)).length < MaxExtraPathParts) ∧
  ((∀ route, ¬ IsLongest routes verb path route) → defaultRoute ≠ none → (segments path).length < MaxExtraPathParts)

theorem take_eq_take_iff {α : Type*} (list : List α) : list.take 31 = list.take MaxExtraPathParts ↔
    list.length < MaxExtraPathParts := by
  unfold MaxExtraPathParts
  constructor
  · intro heq
    have hlength := congrArg List.length heq
    rw [List.length_take, List.length_take] at hlength
    omega
  · intro hlt
    rw [List.take_of_length_le (by omega), List.take_of_length_le (by omega)]

/-- Whatever routes are registered in whatever order, a request is forwarded as it is to be, without leaving the path and
the buffers, when the path fits. -/
theorem forward_iff {routes : List (Route η)} {defaultRoute : Option η} {verb : HttpVerb} {path : List UInt8}
    (hdistinct : routes.Pairwise fun a b => a.verb = b.verb → a.path ≠ b.path)
    (hroutes : ∀ route ∈ routes, IsRoute route.path) :
    (∃ forwarded, HttpRouter.forward (HttpRouter.ofRoutes routes defaultRoute) verb path = some forwarded ∧
      IsForwarded routes defaultRoute verb path forwarded) ↔ FitsRouting routes defaultRoute verb path := by
  by_cases hpath : path = []
  · rw [hpath]
    constructor
    · rintro ⟨forwarded, hforward, -⟩
      unfold HttpRouter.forward at hforward
      rw [HttpRouter.tempPath_nil, Option.bind_none] at hforward
      cases hforward
    · exact fun hfits => absurd rfl hfits.1
  rcases HttpRouter.forward_eq defaultRoute verb hdistinct hroutes hpath with
    ⟨route, hlongest, hforward⟩ | ⟨hnone, hforward⟩
  · rw [hforward]
    by_cases hle : route.path.length ≤ path.length
    · have hroute := hroutes route hlongest.1.1
      rw [extractExtraPathParts_of_slash (List.length_pos_iff.2 hroute.ne_nil)
        (getElem?_route hroute hlongest.1.2.2 hle), Option.map_some]
      constructor
      · rintro ⟨forwarded, hsome, hforwarded⟩
        cases hsome
        rcases hforwarded with ⟨other, hother, heq⟩ | ⟨hnone, -⟩
        · rw [← hlongest.length_eq hother, Forwarded.handled.injEq, take_eq_take_iff] at heq
          refine ⟨hpath, fun third hthird => ?_, fun hnone => absurd hlongest (hnone route)⟩
          rw [← hlongest.length_eq hthird]
          exact ⟨hle, heq.2⟩
        · exact absurd hlongest (hnone route)
      · intro hfits
        refine ⟨_, rfl, Or.inl ⟨route, hlongest, ?_⟩⟩
        rw [(take_eq_take_iff _).2 (hfits.2.1 route hlongest).2]
    · rw [extractExtraPathParts_of_lt (by omega), Option.map_none]
      constructor
      · rintro ⟨forwarded, hsome, -⟩
        cases hsome
      · exact fun hfits => absurd (hfits.2.1 route hlongest).1 hle
  · rw [hforward]
    cases hdefault : defaultRoute with
    | none =>
      constructor
      · exact fun _ => ⟨hpath, fun route hroute => absurd hroute (hnone route), fun _ hsome => absurd rfl hsome⟩
      · exact fun _ => ⟨_, rfl, Or.inr ⟨hnone, rfl⟩⟩
    | some handler =>
      dsimp only
      rw [extractExtraPathParts_zero, Option.map_some]
      constructor
      · rintro ⟨forwarded, hsome, hforwarded⟩
        cases hsome
        rcases hforwarded with ⟨other, hother, -⟩ | ⟨-, heq⟩
        · exact absurd hother (hnone other)
        · dsimp only at heq
          rw [Forwarded.handled.injEq, take_eq_take_iff] at heq
          exact ⟨hpath, fun route hroute => absurd hroute (hnone route), fun _ _ => heq.2⟩
      · intro hfits
        refine ⟨_, rfl, Or.inr ⟨hnone, ?_⟩⟩
        dsimp only
        rw [(take_eq_take_iff _).2 (hfits.2.2 hnone (by simp))]

/-- Three routes, and a path whose rest has two segments. -/
theorem forward_twoSegments :
    ∃ forwarded, HttpRouter.forward (HttpRouter.ofRoutes [⟨asciiBytes "users/", .GET, 0⟩, ⟨asciiBytes "users/id/", .GET, 1⟩,
        ⟨asciiBytes "users/", .POST, 2⟩] (some 3)) .GET (asciiBytes "Users/ID/a/b") = some forwarded ∧
      IsForwarded [⟨asciiBytes "users/", .GET, 0⟩, ⟨asciiBytes "users/id/", .GET, 1⟩, ⟨asciiBytes "users/", .POST, 2⟩]
        (some 3) .GET (asciiBytes "Users/ID/a/b") forwarded := by
  have hshort : ∀ route ∈ [(⟨asciiBytes "users/", .GET, 0⟩ : Route ℕ), ⟨asciiBytes "users/id/", .GET, 1⟩,
      ⟨asciiBytes "users/", .POST, 2⟩], route.path.length ≤ (asciiBytes "Users/ID/a/b").length ∧
        (segments ((asciiBytes "Users/ID/a/b").drop route.path.length)).length < MaxExtraPathParts := by decide
  refine (forward_iff (by decide) (fun route hroute => ?_)).2
    ⟨by decide, fun route hroute => hshort route hroute.1.1, fun _ _ => by decide⟩
  revert route
  unfold IsRoute
  decide

/-- An empty path, a path that lacks the slash of its route, and a path with as many segments as the array has room
for. -/
theorem not_forward :
    HttpRouter.forward (HttpRouter.ofRoutes [] (some 0)) .GET [] = none ∧
    HttpRouter.forward (HttpRouter.ofRoutes [⟨asciiBytes "users/", .GET, 0⟩] none) .GET (asciiBytes "users") = none ∧
    HttpRouter.forward (HttpRouter.ofRoutes [] (some 0)) .GET (List.replicate 32 47) =
        some (.handled 0 (List.replicate 31 [])) ∧
      (segments (List.replicate 32 47)).take MaxExtraPathParts = List.replicate 32 [] := by
  refine ⟨rfl, by decide, by decide, by decide⟩

end Forum.Http
