import Forum.Library.Fold
import Forum.Library.ParentChain

/-!
# Hierarchies

Nodes with a pointer to their parent and the set of their children, kept side by side. A hierarchy
is a forest when the two say the same and following parents always ends. `insert`, `move` and
`remove` are what may be done to one, with what each needs for a forest to stay a forest; only the
nodes matter, what is stored for others is never seen.
-/

namespace Forum.Library

/-- Nodes, with parent pointers and sets of children. -/
structure Hierarchy (α : Type*) where
  /-- The nodes. -/
  nodes : Finset α
  /-- The parent of each node; a root has none. -/
  parent : α → Option α
  /-- The children of each node. -/
  children : α → Finset α

namespace Hierarchy

variable {α : Type*}

/-- The two hierarchies have the same nodes, and these the same parents and children. -/
structure Agrees (h h' : Hierarchy α) : Prop where
  nodes : h'.nodes = h.nodes
  parent : ∀ a ∈ h.nodes, h'.parent a = h.parent a
  children : ∀ a ∈ h.nodes, h'.children a = h.children a

/-- Parents and children are nodes and say the same, and every node leads to a root. -/
structure IsForest (h : Hierarchy α) : Prop where
  parent_mem : ∀ a ∈ h.nodes, ∀ p, h.parent a = some p → p ∈ h.nodes
  children_mem : ∀ p ∈ h.nodes, h.children p ⊆ h.nodes
  mem_children : ∀ p ∈ h.nodes, ∀ a ∈ h.nodes, a ∈ h.children p ↔ h.parent a = some p
  rooted : ∀ a ∈ h.nodes, ∃ l, Ancestors h.parent a l

namespace IsForest

variable {h h' : Hierarchy α} {a c : α} {l : List α}

theorem ancestors_mem (hf : IsForest h) (ha : a ∈ h.nodes) (hl : Ancestors h.parent a l) : ∀ b ∈ l, b ∈ h.nodes :=
  hl.mem_of_closed hf.parent_mem ha

theorem agrees (hf : IsForest h) (heq : Agrees h h') : IsForest h' where
  parent_mem a ha p hp := by
    rw [heq.nodes] at ha ⊢
    exact hf.parent_mem a ha p (by rw [← heq.parent a ha, hp])
  children_mem p hp := by
    rw [heq.nodes] at hp ⊢
    rw [heq.children p hp]
    exact hf.children_mem p hp
  mem_children p hp a ha := by
    rw [heq.nodes] at hp ha
    rw [heq.children p hp, heq.parent a ha]
    exact hf.mem_children p hp a ha
  rooted a ha := by
    rw [heq.nodes] at ha
    obtain ⟨l, hl⟩ := hf.rooted a ha
    exact ⟨l, hl.congr (heq.parent a ha) fun b hb => heq.parent b (hf.ancestors_mem ha hl b hb)⟩

/-- A walk from a node is complete when its fuel allows for as many ancestors as there are nodes. -/
theorem ancestors_parentChain [DecidableEq α] (hf : IsForest h) (ha : a ∈ h.nodes) {fuel : ℕ}
    (hfuel : h.nodes.card ≤ fuel) : Ancestors h.parent a (parentChain h.parent fuel a) := by
  obtain ⟨l, hl⟩ := hf.rooted a ha
  have hlength := hl.length_lt ha (hf.ancestors_mem ha hl)
  rw [hl.parentChain_eq (by omega)]
  exact hl

/-- Going down from node to child ends: a recursion into the children needs no more fuel than there
are nodes. -/
theorem descend (hf : IsForest h) {P : ℕ → α → Prop}
    (step : ∀ fuel, ∀ a ∈ h.nodes, (∀ child ∈ h.children a, P fuel child) → P (fuel + 1) a) :
    ∀ a ∈ h.nodes, P h.nodes.card a := by
  classical
  -- by the number of nodes that were not passed on the way down
  suffices ∀ n l a, h.nodes.card - l.length ≤ n → a ∈ h.nodes → Ancestors h.parent a l → P n a by
    intro a ha
    obtain ⟨l, hl⟩ := hf.rooted a ha
    exact this _ l a (Nat.sub_le _ _) ha hl
  intro n
  induction n with
  | zero =>
    intro l a hn ha hl
    have hlength := hl.length_lt ha (hf.ancestors_mem ha hl)
    omega
  | succ n ih =>
    intro l a hn ha hl
    refine step n a ha fun child hchild => ?_
    have hmem := hf.children_mem a ha hchild
    have hparent := (hf.mem_children a ha child hmem).1 hchild
    exact ih (a :: l) child (by rw [List.length_cons]; omega) hmem (.step hparent hl)

end IsForest

/-! ### Operations -/

variable [DecidableEq α] (h : Hierarchy α) {a p c : α}

/-- A new node without children, below a node or as a root. -/
def insert (a : α) (parent : Option α) : Hierarchy α where
  nodes := Insert.insert a h.nodes
  parent := Function.update h.parent a parent
  children :=
    match parent with
    | none => Function.update h.children a ∅
    | some p =>
      let children := Function.update h.children a ∅
      Function.update children p (Insert.insert a (children p))

/-- A node leaves its parent and goes below another node or becomes a root. -/
def move (a : α) (newParent : Option α) : Hierarchy α where
  nodes := h.nodes
  parent := Function.update h.parent a newParent
  children := fun p =>
    if newParent = some p then Insert.insert a ((h.children p).erase a)
    else if h.parent a = some p then (h.children p).erase a
    else h.children p

/-- A node without children leaves, and its parent with it. -/
def remove (a : α) : Hierarchy α where
  nodes := h.nodes.erase a
  parent := h.parent
  children := fun p => if h.parent a = some p then (h.children p).erase a else h.children p

namespace IsForest

variable {h}

theorem insert (hf : IsForest h) (ha : a ∉ h.nodes) {parent : Option α} (hp : ∀ p ∈ parent, p ∈ h.nodes) :
    IsForest (h.insert a parent) := by
  have hne : ∀ {b}, b ∈ h.nodes → b ≠ a := fun hb heq => ha (heq ▸ hb)
  -- the pointers of the nodes that were there are not touched
  have hold : ∀ b ∈ h.nodes, (h.insert a parent).parent b = h.parent b := fun b hb =>
    Function.update_of_ne (hne hb) _ _
  have hself : (h.insert a parent).parent a = parent := Function.update_self _ _ _
  have hchildren : ∀ b ∈ h.nodes, ∀ x, x ∈ (h.insert a parent).children b ↔ x ∈ h.children b ∨ x = a ∧ parent = some b := by
    intro b hb x
    cases parent with
    | none => simp [Hierarchy.insert, Function.update_of_ne (hne hb)]
    | some p =>
      have hpa := hne (hp p rfl)
      by_cases hbp : b = p
      · subst hbp
        simp [Hierarchy.insert, Function.update_of_ne hpa, or_comm]
      · simp [Hierarchy.insert, Function.update_of_ne hbp, Function.update_of_ne (hne hb), Ne.symm hbp]
  have hchildren_self : (h.insert a parent).children a = ∅ := by
    cases parent with
    | none => simp [Hierarchy.insert]
    | some p => simp [Hierarchy.insert, Function.update_of_ne (hne (hp p rfl)).symm]
  have hrooted : ∀ b ∈ h.nodes, ∃ l, Ancestors (h.insert a parent).parent b l := by
    intro b hb
    obtain ⟨l, hl⟩ := hf.rooted b hb
    exact ⟨l, hl.congr (hold b hb) fun c hc => hold c (hf.ancestors_mem hb hl c hc)⟩
  refine ⟨?_, ?_, ?_, ?_⟩
  · intro b hb p hbp
    refine Finset.mem_insert_of_mem ?_
    rcases Finset.mem_insert.1 hb with rfl | hb
    · exact hp p (hself ▸ hbp)
    · exact hf.parent_mem b hb p (by rw [← hold b hb, hbp])
  · intro p hpn x hx
    rcases Finset.mem_insert.1 hpn with rfl | hpn
    · rw [hchildren_self] at hx
      cases hx
    · rcases (hchildren p hpn x).1 hx with hx | ⟨rfl, -⟩
      · exact Finset.mem_insert_of_mem (hf.children_mem p hpn hx)
      · exact Finset.mem_insert_self _ _
  · intro p hpn' b hb
    rcases Finset.mem_insert.1 hpn' with rfl | hpn
    · rw [hchildren_self]
      refine ⟨fun hx => absurd hx (Finset.notMem_empty _), fun hbp => ?_⟩
      rcases Finset.mem_insert.1 hb with rfl | hb
      · exact absurd (hp _ (hself ▸ hbp)) ha
      · exact absurd (hf.parent_mem b hb _ (by rw [← hold b hb, hbp])) ha
    · rw [hchildren p hpn]
      rcases Finset.mem_insert.1 hb with rfl | hb
      · rw [hself]
        refine ⟨fun hx => hx.elim (fun hx => absurd (hf.children_mem p hpn hx) ha) fun hx => hx.2, fun hx => .inr ⟨rfl, hx⟩⟩
      · rw [hold b hb, hf.mem_children p hpn b hb]
        exact ⟨fun hx => hx.resolve_right fun hx => hne hb hx.1, .inl⟩
  · intro b hb
    rcases Finset.mem_insert.1 hb with rfl | hb
    · cases parent with
      | none => exact ⟨[], .root hself⟩
      | some p =>
        obtain ⟨l, hl⟩ := hrooted p (hp p rfl)
        exact ⟨p :: l, .step hself hl⟩
    · exact hrooted b hb

theorem mem_children_move (hf : IsForest h) (ha : a ∈ h.nodes) (newParent : Option α) (hp : p ∈ h.nodes) {x : α} :
    x ∈ (h.move a newParent).children p ↔ x ≠ a ∧ x ∈ h.children p ∨ x = a ∧ newParent = some p := by
  unfold Hierarchy.move
  dsimp only
  by_cases hnew : newParent = some p
  · rw [if_pos hnew, Finset.mem_insert, Finset.mem_erase]
    simp [hnew, or_comm]
  · rw [if_neg hnew]
    by_cases hold : h.parent a = some p
    · rw [if_pos hold, Finset.mem_erase]
      simp [hnew]
    · rw [if_neg hold]
      -- `a` is not among the children of `p`
      have hnot : a ∉ h.children p := fun hx => hold ((hf.mem_children p hp a ha).1 hx)
      simp only [hnew, and_false, or_false]
      refine ⟨fun hx => ⟨?_, hx⟩, And.right⟩
      rintro rfl
      exact hnot hx

/-- A node may move below a node that is neither itself nor among its descendants. -/
theorem move (hf : IsForest h) (ha : a ∈ h.nodes) {newParent : Option α}
    (hp : ∀ p ∈ newParent, p ∈ h.nodes ∧ p ≠ a ∧ ∀ l, Ancestors h.parent p l → a ∉ l) : IsForest (h.move a newParent) := by
  have hself : (h.move a newParent).parent a = newParent := Function.update_self _ _ _
  have hold : ∀ b, b ≠ a → (h.move a newParent).parent b = h.parent b := fun b hb => Function.update_of_ne hb _ _
  refine ⟨?_, ?_, ?_, ?_⟩
  · intro b hb p hbp
    by_cases hba : b = a
    · subst hba
      exact (hp p (hself ▸ hbp)).1
    · exact hf.parent_mem b hb p (by rw [← hold b hba, hbp])
  · intro p hpn x hx
    rcases (hf.mem_children_move ha newParent hpn).1 hx with ⟨-, hx⟩ | ⟨rfl, -⟩
    · exact hf.children_mem p hpn hx
    · exact ha
  · intro p hpn b hb
    rw [hf.mem_children_move ha newParent hpn]
    by_cases hba : b = a
    · subst hba
      rw [hself]
      simp
    · rw [hold b hba, ← hf.mem_children p hpn b hb]
      simp [hba]
  · intro b hb
    obtain ⟨l, hl⟩ := hf.rooted b hb
    refine hl.exists_update fun p hpnew => ?_
    obtain ⟨hpn, hpa, hpl⟩ := hp p hpnew
    obtain ⟨l, hl⟩ := hf.rooted p hpn
    exact ⟨l, hl, by simp [Ne.symm hpa, hpl l hl]⟩

/-- When all its children become roots, a node is left without any. -/
theorem foldl_move_none (hf : IsForest h) {l : List α} (hl : ∀ x ∈ l, x ∈ h.nodes) :
    IsForest (l.foldl (fun h x => h.move x none) h) ∧ (l.foldl (fun h x => h.move x none) h).nodes = h.nodes ∧
      ∀ p ∈ h.nodes, h.children p ⊆ l.toFinset → (l.foldl (fun h x => h.move x none) h).children p = ∅ := by
  induction l generalizing h with
  | nil => exact ⟨hf, rfl, fun p _ hp => Finset.subset_empty.1 hp⟩
  | cons x l ih =>
    have hx := hl x List.mem_cons_self
    have hmove : IsForest (h.move x none) := hf.move hx (by simp)
    obtain ⟨hforest, hnodes, hchildren⟩ := ih hmove fun y hy => hl y (List.mem_cons_of_mem _ hy)
    refine ⟨hforest, hnodes, fun p hp hsub => hchildren p hp fun y hy => ?_⟩
    rcases (hf.mem_children_move hx none hp).1 hy with ⟨hyx, hy⟩ | ⟨-, hnone⟩
    · simpa [hyx] using hsub hy
    · cases hnone

/-- Below itself or one of its descendants a node would not lead to a root any more. -/
theorem not_isForest_move (ha : a ∈ h.nodes)
    (hcycle : p = a ∨ ∃ l, Ancestors h.parent p l ∧ a ∈ l) : ¬IsForest (h.move a (some p)) := by
  intro hmove
  obtain ⟨l, hl⟩ := hmove.rooted a ha
  have hself : (h.move a (some p)).parent a = some p := Function.update_self _ _ _
  cases hl with
  | root hroot => rw [hself] at hroot; cases hroot
  | @step _ q l hq hrest =>
    rw [hself] at hq
    cases hq
    refine (Ancestors.step hself hrest).not_mem_self ?_
    rcases hcycle with rfl | ⟨l', hl', hmem⟩
    · exact List.mem_cons_self
    · -- the old way from `p` to `a` is still there
      exact hl'.mem_of_update hmem hrest

/-- A node that is nobody's parent may leave. -/
theorem remove (hf : IsForest h) (ha : a ∈ h.nodes) (hleaf : h.children a = ∅) : IsForest (h.remove a) := by
  have hparent : ∀ b ∈ h.nodes, h.parent b ≠ some a := by
    intro b hb hba
    have hmem := (hf.mem_children a ha b hb).2 hba
    rw [hleaf] at hmem
    cases hmem
  have hchildren : ∀ p ∈ h.nodes, ∀ x, x ∈ (h.remove a).children p ↔ x ≠ a ∧ x ∈ h.children p := by
    intro p hpn x
    unfold Hierarchy.remove
    dsimp only
    by_cases hold : h.parent a = some p
    · rw [if_pos hold, Finset.mem_erase]
    · rw [if_neg hold]
      have hnot : a ∉ h.children p := fun hx => hold ((hf.mem_children p hpn a ha).1 hx)
      refine ⟨fun hx => ⟨?_, hx⟩, And.right⟩
      rintro rfl
      exact hnot hx
  refine ⟨?_, ?_, ?_, ?_⟩
  · intro b hb p hbp
    have hb := Finset.mem_of_mem_erase hb
    refine Finset.mem_erase.2 ⟨fun hpa => ?_, hf.parent_mem b hb p hbp⟩
    exact hparent b hb (hpa ▸ hbp)
  · intro p hpn x hx
    have hpn := Finset.mem_of_mem_erase hpn
    obtain ⟨hxa, hx⟩ := (hchildren p hpn x).1 hx
    exact Finset.mem_erase.2 ⟨hxa, hf.children_mem p hpn hx⟩
  · intro p hpn b hb
    obtain ⟨hba, hb⟩ := Finset.mem_erase.1 hb
    have hpn := Finset.mem_of_mem_erase hpn
    rw [hchildren p hpn, hf.mem_children p hpn b hb]
    exact ⟨And.right, fun hx => ⟨hba, hx⟩⟩
  · exact fun b hb => hf.rooted b (Finset.mem_of_mem_erase hb)

end IsForest

end Hierarchy

end Forum.Library
