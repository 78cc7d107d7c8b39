import Forum.Library.OrderedIndex

/-!
# Unique indexes

An index in which no two elements have the same key: looking up a key finds the element that has it.
As with the other indexes, an element whose key changes is looked up before the change and replaced
after it; the replacement is refused when another element has the new key.
-/

namespace Forum.Library

variable {ι κ : Type*} [DecidableEq κ]

/-- The position of the element with a key; the end if there is none. -/
def findKey (key : ι → κ) (k : κ) (l : List ι) : ℕ := l.findIdx fun y => decide (key y = k)

/-- `l` lists exactly the elements of `s`, each once, and no two of them have the same key. -/
structure UniqueIndexes (key : ι → κ) (l : List ι) (s : Finset ι) : Prop where
  nodup : l.Nodup
  mem_iff : ∀ y, y ∈ l ↔ y ∈ s
  distinct : ∀ x ∈ s, ∀ y ∈ s, key x = key y → x = y

namespace UniqueIndexes

variable {key key' : ι → κ} {l : List ι} {s : Finset ι} {x : ι} {k : κ}

omit [DecidableEq κ] in
theorem empty (key : ι → κ) : UniqueIndexes key [] ∅ := ⟨List.nodup_nil, by simp, by simp⟩

omit [DecidableEq κ] in
/-- A unique index reads the keys of its elements only. -/
theorem congr (h : UniqueIndexes key l s) (hk : ∀ y ∈ s, key' y = key y) : UniqueIndexes key' l s where
  nodup := h.nodup
  mem_iff := h.mem_iff
  distinct x hx y hy hxy := h.distinct x hx y hy (by rw [← hk x hx, ← hk y hy, hxy])

/-- A lookup finds the element with the key, if there is one. -/
theorem getElem?_findKey (h : UniqueIndexes key l s) : l[findKey key k l]? = some x ↔ x ∈ s ∧ key x = k := by
  constructor
  · intro hfound
    obtain ⟨hlt, hget⟩ := List.getElem?_eq_some_iff.1 hfound
    have hkey : key l[findKey key k l] = k := of_decide_eq_true (List.findIdx_getElem (w := hlt))
    rw [hget] at hkey
    exact ⟨(h.mem_iff x).1 (List.mem_of_getElem? hfound), hkey⟩
  · rintro ⟨hx, hk⟩
    have hlt : findKey key k l < l.length :=
      List.findIdx_lt_length_of_exists ⟨x, (h.mem_iff x).2 hx, decide_eq_true hk⟩
    have hkey := of_decide_eq_true (List.findIdx_getElem (w := hlt))
    have hmem : l[findKey key k l] ∈ s := (h.mem_iff _).1 (List.getElem_mem hlt)
    rw [List.getElem?_eq_getElem hlt, h.distinct _ hmem x hx (hkey.trans hk.symm)]

/-- A lookup finds nothing if no element has the key. -/
theorem findKey_lt_iff (h : UniqueIndexes key l s) : findKey key k l < l.length ↔ ∃ x ∈ s, key x = k := by
  constructor
  · intro hlt
    exact ⟨_, h.getElem?_findKey.1 (List.getElem?_eq_getElem hlt)⟩
  · rintro ⟨x, hx⟩
    exact (List.getElem?_eq_some_iff.1 (h.getElem?_findKey.2 hx)).1

omit [DecidableEq κ] in
theorem insertItem [LinearOrder κ] [DecidableEq ι] (h : UniqueIndexes key l s) (hx : ∀ y ∈ s, key y ≠ key x) :
    UniqueIndexes key (Library.insertItem key x l) (insert x s) where
  nodup := (perm_insertItem key x l).nodup_iff.2
    (List.nodup_cons.2 ⟨fun hm => hx x ((h.mem_iff x).1 hm) rfl, h.nodup⟩)
  mem_iff y := by rw [(perm_insertItem key x l).mem_iff, List.mem_cons, h.mem_iff, Finset.mem_insert]
  distinct a ha b hb hab := by
    rcases Finset.mem_insert.1 ha with hax | ha <;> rcases Finset.mem_insert.1 hb with hbx | hb
    · rw [hax, hbx]
    · exact absurd (hax ▸ hab.symm) (hx b hb)
    · exact absurd (hbx ▸ hab) (hx a ha)
    · exact h.distinct a ha b hb hab

/-- Erasing the element that a lookup finds. -/
theorem eraseIdx [DecidableEq ι] (h : UniqueIndexes key l s) (hx : x ∈ s) :
    UniqueIndexes key (l.eraseIdx (findKey key (key x) l)) (s.erase x) := by
  rw [eraseIdx_eq_erase h.nodup (h.getElem?_findKey.2 ⟨hx, rfl⟩)]
  refine ⟨h.nodup.erase x, fun y => ?_, fun a ha b hb => ?_⟩
  · rw [h.nodup.mem_erase_iff, h.mem_iff, Finset.mem_erase]
  · exact h.distinct a (Finset.mem_of_mem_erase ha) b (Finset.mem_of_mem_erase hb)

/-- Replacing an element that was looked up before its key changed. -/
theorem replace [LinearOrder κ] [DecidableEq ι] (h : UniqueIndexes key l s) (hx : x ∈ s) (hk : ∀ y ∈ s, y ≠ x → key' y = key y)
    (hnew : ∀ y ∈ s, y ≠ x → key' y ≠ key' x) :
    findKey key (key x) l < l.length ∧ (∀ y ∈ l.eraseIdx (findKey key (key x) l), key' y ≠ key' x) ∧
      UniqueIndexes key' (Library.insertItem key' x (l.eraseIdx (findKey key (key x) l))) s := by
  have hothers := (h.eraseIdx hx).congr fun y hy =>
    hk y (Finset.mem_of_mem_erase hy) (Finset.ne_of_mem_erase hy)
  have hdistinct : ∀ y ∈ s.erase x, key' y ≠ key' x := fun y hy =>
    hnew y (Finset.mem_of_mem_erase hy) (Finset.ne_of_mem_erase hy)
  refine ⟨h.findKey_lt_iff.2 ⟨x, hx, rfl⟩, fun y hy => hdistinct y ((hothers.mem_iff y).1 hy), ?_⟩
  have hinsert := hothers.insertItem hdistinct
  rwa [Finset.insert_erase hx] at hinsert

end UniqueIndexes

end Forum.Library
