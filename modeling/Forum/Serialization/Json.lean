import Mathlib.Algebra.Order.Ring.Int
import Forum.Entities.Store

/-!
# What is written out

What a `JsonWriter` is made to write, as a tree: the text it writes follows from that. The properties of
an object are listed in the order in which they are written. Collections are written page by page.
-/

namespace Forum.Serialization

open Forum.Entities

/-- What a `JsonWriter` writes. -/
inductive Json
  | null
  | bool (value : Bool)
  | number (value : ℤ)
  | string (value : String)
  /-- An id, written as the text of its uuid. -/
  | uuid (value : IdType)
  | array (values : List Json)
  | object (properties : List (String × Json))

/-- Is it `null`? -/
def Json.isNull : Json → Bool
  | .null => true
  | _ => false

/-- The properties of an object. -/
abbrev Properties := List (String × Json)

/-- The names of what an object has. -/
def Json.names : Json → List String
  | .object properties => properties.map Prod.fst
  | _ => []

/-- Properties that are written on a condition. -/
def writeIf (condition : Bool) (properties : Properties) : Properties := if condition then properties else []

theorem mem_map_writeIf {condition : Bool} {properties : Properties} {name : String} :
    name ∈ (writeIf condition properties).map Prod.fst ↔ condition ∧ name ∈ properties.map Prod.fst := by
  cases condition <;> simp [writeIf]

/-! ### Walking over a page -/

section

variable {α : Type*}

/-- What is left of a result in an `int_fast32_t` of so many bits. -/
def intFast32 (bits : ℕ) (value : ℤ) : ℤ := value.bmod (2 ^ bits)

/-- `nth` converts to a `size_type`, and does not go past the end. -/
def nth (collection : List α) (value : ℤ) : ℕ := min (value % 2 ^ 64).toNat collection.length

/-- `for (it = …; it != n; ++it)`, with the elements from the iterator on. There is none behind the end. -/
def walkForwards (last : ℕ) : List α → ℕ → Option (List α)
  | [], it => if it = last then some [] else none
  | element :: rest, it => if it = last then some [] else (walkForwards last rest (it + 1)).map (element :: ·)

/-- `for (it = itStart; it != itEnd;) { --it; … }`. There is nothing before `begin`. -/
def walkBackwards (collection : List α) (itEnd : ℕ) : ℕ → Option (List α)
  | 0 => if 0 = itEnd then some [] else none
  | it + 1 =>
    if it + 1 = itEnd then some []
    else collection[it]?.bind fun element => (walkBackwards collection itEnd it).map (element :: ·)

/-- The elements that both functions walk over for a page. -/
def selectPage (bits : ℕ) (collection : List α) (pageNumber pageSize : ℤ) (ascending : Bool) : Option (List α) :=
  let totalCount := intFast32 bits collection.length
  let firstElementIndex := max 0 (intFast32 bits (pageNumber * pageSize))
  if ascending then
    walkForwards (nth collection (intFast32 bits (firstElementIndex + pageSize)))
      (collection.drop (nth collection firstElementIndex)) (nth collection firstElementIndex)
  else
    let itStart := nth collection (max (intFast32 bits (totalCount - firstElementIndex)) 0)
    let itEnd := nth collection (max (intFast32 bits (intFast32 bits (totalCount - firstElementIndex) - pageSize)) 0)
    if itStart ≠ 0 then walkBackwards collection itEnd itStart else some []

/-- The messages that `writeDiscussionThreadMessages` puts into its `privilegeChecks`. -/
def messagesToCheck (bits : ℕ) (collection : List IdType) (pageNumber pageSize : ℤ) (ascending : Bool) :
    Option (List IdType) := selectPage bits collection pageNumber pageSize ascending

end

/-! ### The elements that are walked over -/

section

variable {α : Type*} {collection : List α} {a : α}

theorem mem_of_mem_walkForwards {last it : ℕ} {rest elements : List α} (h : walkForwards last rest it = some elements)
    (ha : a ∈ elements) : a ∈ rest := by
  induction rest generalizing it elements with
  | nil =>
    unfold walkForwards at h
    split_ifs at h
    rwa [← Option.some.inj h] at ha
  | cons element rest ih =>
    unfold walkForwards at h
    split_ifs at h
    · rw [← Option.some.inj h] at ha
      exact absurd ha List.not_mem_nil
    · obtain ⟨others, hothers, rfl⟩ := Option.map_eq_some_iff.1 h
      rcases List.mem_cons.1 ha with rfl | ha
      · exact List.mem_cons_self
      · exact List.mem_cons_of_mem _ (ih hothers ha)

theorem mem_of_mem_walkBackwards {itEnd it : ℕ} {elements : List α} (h : walkBackwards collection itEnd it = some elements)
    (ha : a ∈ elements) : a ∈ collection := by
  induction it generalizing elements with
  | zero =>
    unfold walkBackwards at h
    split_ifs at h
    rw [← Option.some.inj h] at ha
    exact absurd ha List.not_mem_nil
  | succ it ih =>
    unfold walkBackwards at h
    split_ifs at h
    · rw [← Option.some.inj h] at ha
      exact absurd ha List.not_mem_nil
    · obtain ⟨element, hget, hrest⟩ := Option.bind_eq_some_iff.1 h
      obtain ⟨others, hothers, rfl⟩ := Option.map_eq_some_iff.1 hrest
      rcases List.mem_cons.1 ha with rfl | ha
      · exact List.mem_of_getElem? hget
      · exact ih hothers ha

/-- Only elements of the collection are walked over. -/
theorem mem_of_mem_selectPage {bits : ℕ} {pageNumber pageSize : ℤ} {ascending : Bool} {elements : List α}
    (h : selectPage bits collection pageNumber pageSize ascending = some elements) (ha : a ∈ elements) : a ∈ collection := by
  unfold selectPage at h
  dsimp only at h
  split_ifs at h
  · exact List.mem_of_mem_drop (mem_of_mem_walkForwards h ha)
  · exact mem_of_mem_walkBackwards h ha
  · rw [← Option.some.inj h] at ha
    exact absurd ha List.not_mem_nil

end

theorem mem_of_mem_messagesToCheck {bits : ℕ} {collection : List IdType} {pageNumber pageSize : ℤ} {ascending : Bool}
    {message : IdType} (h : message ∈ (messagesToCheck bits collection pageNumber pageSize ascending).getD []) :
    message ∈ collection := by
  cases helements : messagesToCheck bits collection pageNumber pageSize ascending with
  | none =>
    rw [helements] at h
    exact absurd h List.not_mem_nil
  | some elements =>
    rw [helements] at h
    exact mem_of_mem_selectPage helements h

end Forum.Serialization
