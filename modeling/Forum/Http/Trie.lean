import Forum.Library.Ascii
import Forum.Library.Grouping
import Forum.Library.Hexadecimal

/-!
# The immutable trie

`ImmutableTrie`: the nodes of a trie are in one array, and so are their arrays of children, which are carved out of another
one while the recursion descends. How many nodes there will be is counted before, by a recursion of its own that groups the
keys the same way.

`Trie.find_spec`: every string finds the value of the last entry whose key matches it, character by character. The
construction uses the arrays up, each node once, and the space that is reserved for the values.
-/

namespace Forum.Http

open Library

/-! ### Alternatives of a key -/

/-- `GetKeyAlternatives`. Two keys that have an alternative in common have the same ones. -/
structure KeyAlternatives (Key : Type*) where
  get : Key → List Key
  get_eq_of_mem : ∀ {a b c}, c ∈ get a → c ∈ get b → get a = get b

/-- A key stands for itself alone. -/
def getSingleKey (Key : Type*) : KeyAlternatives Key where
  get value := [value]
  get_eq_of_mem := by
    intro a b c ha hb
    rw [← List.mem_singleton.1 ha, ← List.mem_singleton.1 hb]

theorem toLower_toUpper (c : UInt8) :
    toLower (toUpper c) = toLower c ∧ toLower (toLower c) = toLower c ∧ toUpper (toLower c) = toUpper c ∧
      (c = toLower c ∨ c = toUpper c) := by
  have hall : ∀ n : Fin 256, toLower (toUpper (UInt8.ofNat n)) = toLower (UInt8.ofNat n) ∧
      toLower (toLower (UInt8.ofNat n)) = toLower (UInt8.ofNat n) ∧
        toUpper (toLower (UInt8.ofNat n)) = toUpper (UInt8.ofNat n) ∧
          (UInt8.ofNat n = toLower (UInt8.ofNat n) ∨ UInt8.ofNat n = toUpper (UInt8.ofNat n)) := by decide +kernel
  exact forall_byte hall c

/-- The characters in lower case and in upper case are those that are equal without regard to case. -/
theorem mem_upperLower_iff {a c : UInt8} : c ∈ [toLower a, toUpper a] ↔ toLower a = toLower c := by
  obtain ⟨hupper, hlower, -, -⟩ := toLower_toUpper a
  obtain ⟨-, -, hraise, hcase⟩ := toLower_toUpper c
  rw [List.mem_pair]
  constructor
  · rintro (rfl | rfl)
    · exact hlower.symm
    · exact hupper.symm
  · intro h
    rcases hcase with hcase | hcase
    · exact Or.inl (hcase.trans h.symm)
    · refine Or.inr (hcase.trans ?_)
      rw [← hraise, ← h, (toLower_toUpper a).2.2.1]

/-- A letter stands for both of its cases. -/
def getAsciiUpperLowerKey : KeyAlternatives UInt8 where
  get value := [toLower value, toUpper value]
  get_eq_of_mem := by
    intro a b c ha hb
    have heq : toLower a = toLower b := (mem_upperLower_iff.1 ha).trans (mem_upperLower_iff.1 hb).symm
    rw [← (toLower_toUpper a).2.2.1, ← (toLower_toUpper b).2.2.1, heq]

variable {Key T : Type*}

/-- Each character of a text is an alternative of that of the key, which is as long. -/
def KeyAlternatives.Matches (G : KeyAlternatives Key) (key text : List Key) : Prop :=
  List.Forall₂ (fun k c => c ∈ G.get k) key text

instance KeyAlternatives.decidableMatches [DecidableEq Key] (G : KeyAlternatives Key) :
    (key text : List Key) → Decidable (G.Matches key text)
  | [], [] => .isTrue .nil
  | [], _ :: _ => .isFalse fun h => by cases h
  | _ :: _, [] => .isFalse fun h => by cases h
  | k :: key, c :: text =>
    have := G.decidableMatches key text
    decidable_of_iff (c ∈ G.get k ∧ G.Matches key text) (List.forall₂_cons (R := fun k c => c ∈ G.get k)).symm

/-! ### Memory -/

/-- A node. Its children are in so many places of the arrays of children, from an index on; its value is a place in the
values. -/
structure TrieNode (Key : Type*) where
  keys : List Key := []
  nrOfChildNodes : ℕ := 0
  children : ℕ := 0
  value : Option ℕ := none
  deriving DecidableEq

/-- `ImmutableTrie`. -/
structure Trie (Key T : Type*) where
  values : List T
  /-- The capacity of the values. -/
  reserved : ℕ
  nodes : List (TrieNode Key)
  childNodeArrays : List ℕ
  nodesCurrentlyAdded : ℕ := 0
  childNodesCurrentlyAdded : ℕ := 0

namespace Trie

/-- A change of a node. Here and below, nothing is the result of an access out of bounds. -/
def updateNode (i : ℕ) (change : TrieNode Key → TrieNode Key) (t : Trie Key T) : Option (Trie Key T) :=
  (t.nodes[i]?).map fun node => { t with nodes := t.nodes.set i (change node) }

/-- `addValueAndGetPtr`, unless the values would be reallocated. -/
def addValueAndGetPtr (value : T) (t : Trie Key T) : Option (ℕ × Trie Key T) :=
  if t.values.length < t.reserved then some (t.values.length, { t with values := t.values ++ [value] }) else none

/-- `parentNode->value = addValueAndGetPtr(value)`. -/
def setValue (parent : ℕ) (value : T) (t : Trie Key T) : Option (Trie Key T) :=
  (t.addValueAndGetPtr value).bind fun (pointer, t) => t.updateNode parent ({ · with value := some pointer })

/-- `getChildNodeArray`, with its assertion. -/
def getChildNodeArray (nrOfChildNodes : ℕ) (t : Trie Key T) : Option (ℕ × Trie Key T) :=
  if t.childNodesCurrentlyAdded + nrOfChildNodes < t.nodes.length then
    some (t.childNodesCurrentlyAdded,
      { t with childNodesCurrentlyAdded := t.childNodesCurrentlyAdded + nrOfChildNodes })
  else none

/-- `parentNode->children[parentNode->nrOfChildNodes++] = childNode`. -/
def appendChild (parent child : ℕ) (t : Trie Key T) : Option (Trie Key T) :=
  (t.nodes[parent]?).bind fun node =>
    if node.children + node.nrOfChildNodes < t.childNodeArrays.length then
      { t with childNodeArrays := t.childNodeArrays.set (node.children + node.nrOfChildNodes) child }.updateNode parent
        ({ · with nrOfChildNodes := node.nrOfChildNodes + 1 })
    else none

/-- The next node becomes a child, with its keys. -/
def addChild (parent : ℕ) (keys : List Key) (t : Trie Key T) : Option (Trie Key T) :=
  ({ t with nodesCurrentlyAdded := t.nodesCurrentlyAdded + 1 }.updateNode (t.nodesCurrentlyAdded + 1)
    ({ · with keys := keys })).bind (appendChild parent (t.nodesCurrentlyAdded + 1))

/-! ### Construction -/

section Construction

variable [LinearOrder Key] (G : KeyAlternatives Key)

/-- The keys that go on, by the alternatives of their first characters. -/
def nextKeys (keys : List (List Key)) : List (List Key × List Key) :=
  keys.filterMap fun key =>
    match key with
    | [] => none
    | c :: rest => some (G.get c, rest)

/-- The same for entries. -/
def nextLevel (entries : List (List Key × T)) : List (List Key × List Key × T) :=
  entries.filterMap fun entry =>
    match entry.1 with
    | [] => none
    | c :: rest => some (G.get c, rest, entry.2)

/-- `countRequiredNumberedOfNodes`, for keys of at most so many characters. -/
def countRequiredNumberedOfNodes : ℕ → List (List Key) → ℕ
  | 0, _ => 1
  | depth + 1, keys => 1 + ((grouped (nextKeys G keys)).map fun group => countRequiredNumberedOfNodes depth group.2).sum

/-- The values of the entries that end at a node. -/
def addValues (parent : ℕ) (entries : List (List Key × T)) (t : Trie Key T) : Option (Trie Key T) :=
  entries.foldlM (fun t entry => if entry.1 = [] then t.setValue parent entry.2 else some t) t

/-- `addKeyLevel`, for keys of less than so many characters. -/
def addKeyLevel : ℕ → ℕ → List (List Key × T) → Trie Key T → Option (Trie Key T)
  | 0, _, _, _ => none
  | depth + 1, parent, entries, t =>
    (t.addValues parent entries).bind fun t =>
      if grouped (nextLevel G entries) = [] then some t
      else
        (t.getChildNodeArray (grouped (nextLevel G entries)).length).bind fun (children, t) =>
          (t.updateNode parent ({ · with children := children })).bind fun t =>
            (grouped (nextLevel G entries)).foldlM (fun t group =>
              (t.addChild parent group.1).bind fun t => addKeyLevel depth t.nodesCurrentlyAdded group.2 t) t

/-- The length of the longest key. -/
def longestKey (entries : List (List Key × T)) : ℕ := (entries.map fun entry => entry.1.length).foldr max 0

/-- A trie before its construction, with as many nodes as are counted. -/
def reserve (entries : List (List Key × T)) : Trie Key T :=
  let nrOfNodes := countRequiredNumberedOfNodes G (longestKey entries + 1) (entries.map Prod.fst)
  { values := [], reserved := entries.length, nodes := List.replicate nrOfNodes {},
    childNodeArrays := List.replicate nrOfNodes 0 }

/-- `initialize`. -/
def initialize' (entries : List (List Key × T)) : Option (Trie Key T) :=
  (reserve G entries).addKeyLevel G (longestKey entries + 1) 0 entries

end Construction

/-! ### Search -/

/-- The first child with a character among its keys, from the child with index `i` on. -/
def matchedChild [DecidableEq Key] (t : Trie Key T) (node : TrieNode Key) (c : Key) : ℕ → ℕ → Option ℕ
  | 0, _ => none
  | remaining + 1, i =>
    (t.childNodeArrays[node.children + i]?).bind fun n =>
      if (t.nodes[n]?).any (c ∈ ·.keys) then some n else matchedChild t node c remaining (i + 1)

/-- `find`, from a node on: a place in the values, or null. -/
def findFrom [DecidableEq Key] (t : Trie Key T) : List Key → ℕ → Option ℕ
  | [], i => (t.nodes[i]?).bind TrieNode.value
  | c :: rest, i =>
    (t.nodes[i]?).bind fun node => (matchedChild t node c node.nrOfChildNodes 0).bind (findFrom t rest)

/-- The value that is stored for a text. -/
def find [DecidableEq Key] (t : Trie Key T) (text : List Key) : Option ℕ := t.findFrom text 0

/-! ### Steps -/

variable {t t' : Trie Key T}

theorem updateNode_eq {i : ℕ} {node : TrieNode Key} (hnode : t.nodes[i]? = some node)
    (change : TrieNode Key → TrieNode Key) :
    t.updateNode i change = some { t with nodes := t.nodes.set i (change node) } := by
  unfold updateNode
  rw [hnode]
  rfl

theorem setValue_eq {i : ℕ} {node : TrieNode Key} {value : T} (hnode : t.nodes[i]? = some node)
    (hroom : t.values.length < t.reserved) :
    t.setValue i value = some { t with
      values := t.values ++ [value]
      nodes := t.nodes.set i { node with value := some t.values.length } } := by
  have hadd : t.addValueAndGetPtr value = some (t.values.length, { t with values := t.values ++ [value] }) :=
    if_pos hroom
  unfold setValue
  rw [hadd]
  exact updateNode_eq (t := { t with values := t.values ++ [value] }) hnode _

theorem addChild_eq {i : ℕ} {node fresh : TrieNode Key} {keys : List Key} (hnode : t.nodes[i]? = some node)
    (hadded : i ≤ t.nodesCurrentlyAdded) (hfresh : t.nodes[t.nodesCurrentlyAdded + 1]? = some fresh)
    (hslot : node.children + node.nrOfChildNodes < t.childNodeArrays.length) :
    t.addChild i keys = some { t with
      nodesCurrentlyAdded := t.nodesCurrentlyAdded + 1
      nodes := (t.nodes.set (t.nodesCurrentlyAdded + 1) { fresh with keys := keys }).set i
        { node with nrOfChildNodes := node.nrOfChildNodes + 1 }
      childNodeArrays := t.childNodeArrays.set (node.children + node.nrOfChildNodes) (t.nodesCurrentlyAdded + 1) } := by
  have hstill : (t.nodes.set (t.nodesCurrentlyAdded + 1) { fresh with keys := keys })[i]? = some node := by
    rw [List.getElem?_set_ne (by omega)]
    exact hnode
  unfold addChild
  rw [updateNode_eq (t := { t with nodesCurrentlyAdded := t.nodesCurrentlyAdded + 1 }) hfresh, Option.bind_some]
  unfold appendChild
  rw [hstill, Option.bind_some, if_pos hslot]
  exact updateNode_eq (t := { t with
    nodesCurrentlyAdded := t.nodesCurrentlyAdded + 1
    nodes := t.nodes.set (t.nodesCurrentlyAdded + 1) { fresh with keys := keys }
    childNodeArrays := t.childNodeArrays.set (node.children + node.nrOfChildNodes) (t.nodesCurrentlyAdded + 1) }) hstill _

/-- The values of the entries that end at a node, in their order. -/
def endingValues (entries : List (List Key × T)) : List T :=
  entries.filterMap fun entry => if entry.1.isEmpty then some entry.2 else none

/-- All of them are added, and the node has the last one. -/
theorem addValues_eq {i : ℕ} {node : TrieNode Key} {entries : List (List Key × T)} (hnode : t.nodes[i]? = some node)
    (hroom : t.values.length + (endingValues entries).length ≤ t.reserved) :
    t.addValues i entries = some { t with
      values := t.values ++ endingValues entries
      nodes := t.nodes.set i { node with
        value := if endingValues entries = [] then node.value
          else some (t.values.length + (endingValues entries).length - 1) } } := by
  induction entries generalizing t node with
  | nil =>
    have hself : t.nodes.set i node = t.nodes := by
      obtain ⟨hi, rfl⟩ := List.getElem?_eq_some_iff.1 hnode
      exact List.set_getElem_self hi
    show some t = some { t with values := t.values ++ [], nodes := t.nodes.set i node }
    rw [hself, List.append_nil]
  | cons entry entries ih =>
    obtain ⟨key, value⟩ := entry
    cases key with
    | cons c key => exact ih hnode hroom
    | nil =>
      have hending : endingValues (([], value) :: entries) = value :: endingValues entries := rfl
      rw [hending, List.length_cons] at hroom ⊢
      have hstep : t.addValues i (([], value) :: entries) = (t.setValue i value).bind (addValues i entries) := rfl
      have hi : i < t.nodes.length := (List.getElem?_eq_some_iff.1 hnode).1
      have hlength : (t.values ++ [value]).length = t.values.length + 1 := List.length_append
      rw [hstep, setValue_eq hnode (by omega), Option.bind_some]
      refine (ih (List.getElem?_set_self hi) ?_).trans ?_
      · show (t.values ++ [value]).length + _ ≤ t.reserved
        omega
      · dsimp only
        rw [List.append_assoc, List.set_set, hlength]
        cases endingValues entries with
        | nil => rfl
        | cons v values =>
          rw [if_neg (List.cons_ne_nil _ _), if_neg (List.cons_ne_nil _ _), Nat.add_right_comm, Nat.add_assoc]
          rfl

/-! ### Layout -/

/-- A place in the values, or null, where a value is, or none. -/
def Points (t : Trie Key T) (pointer : Option ℕ) (value : Option T) : Prop :=
  pointer.map (t.values[·]?) = value.map some

/-- Pointers stay valid while values are only appended. -/
theorem Points.mono {pointer : Option ℕ} {value : Option T} (h : t.Points pointer value)
    (hvalues : t.values <+: t'.values) : t'.Points pointer value := by
  unfold Points at h ⊢
  cases value with
  | none =>
    rw [Option.map_none, Option.map_eq_none_iff] at h ⊢
    exact h
  | some v =>
    cases pointer with
    | none => cases h
    | some p =>
      have hv : t.values[p]? = some v := Option.some_inj.1 h
      obtain ⟨hp, rfl⟩ := List.getElem?_eq_some_iff.1 hv
      exact congrArg some (List.prefix_iff_getElem?.1 hvalues p hp)

/-- A node has the value of the last entry that ends there. -/
theorem points_addValues (t : Trie Key T) (entries : List (List Key × T)) :
    { t with values := t.values ++ endingValues entries }.Points
      (if endingValues entries = [] then none else some (t.values.length + (endingValues entries).length - 1))
      (endingValues entries).getLast? := by
  unfold Points
  dsimp only
  split_ifs with hnil
  · rw [hnil]
    rfl
  · have hpos := List.length_pos_iff.2 hnil
    rw [List.getLast?_eq_getElem?, Nat.add_sub_assoc hpos, Option.map_some,
      List.getElem?_append_right (Nat.le_add_right _ _), Nat.add_sub_cancel_left,
      List.getElem?_eq_getElem (by omega), Option.map_some]

/-- The children of a node from a place in the arrays of children on: the first one is at a place in the nodes, its own
children begin at a place in the arrays, and those that come next are stored after all that is below it. -/
def Children (t : Trie Key T) (holds : ℕ → ℕ → List (List Key × T) → Prop) (below : List (List Key × T) → ℕ) :
    ℕ → ℕ → ℕ → List (List Key × List (List Key × T)) → Prop
  | _, _, _, [] => True
  | slot, child, start, group :: groups =>
    t.childNodeArrays[slot]? = some child ∧ (t.nodes[child]?).map TrieNode.keys = some group.1 ∧
      holds child start group.2 ∧
        t.Children holds below (slot + 1) (child + 1 + below group.2) (start + below group.2) groups

section Layout

variable [LinearOrder Key] (G : KeyAlternatives Key)

/-- How many nodes are below that of the entries. -/
def descendants : ℕ → List (List Key × T) → ℕ
  | 0, _ => 0
  | depth + 1, entries =>
    (grouped (nextLevel G entries)).length +
      ((grouped (nextLevel G entries)).map fun group => descendants depth group.2).sum

omit [LinearOrder Key] in
/-- The keys are grouped the same way without the values. -/
theorem nextKeys_map (entries : List (List Key × T)) :
    nextKeys G (entries.map Prod.fst) = (nextLevel G entries).map fun entry => (entry.1, entry.2.1) := by
  unfold nextKeys nextLevel
  rw [List.filterMap_map, List.map_filterMap]
  refine List.filterMap_congr fun entry _ => ?_
  obtain ⟨key, value⟩ := entry
  cases key <;> rfl

theorem countRequiredNumberedOfNodes_eq (depth : ℕ) (entries : List (List Key × T)) :
    countRequiredNumberedOfNodes G depth (entries.map Prod.fst) = 1 + descendants G depth entries := by
  induction depth generalizing entries with
  | zero => rfl
  | succ depth ih =>
    unfold countRequiredNumberedOfNodes descendants
    rw [nextKeys_map, grouped_map Prod.fst, List.map_map]
    have hsame : ((grouped (nextLevel G entries)).map ((fun group => countRequiredNumberedOfNodes G depth group.2) ∘
        fun group => (group.1, group.2.map Prod.fst))) =
          (grouped (nextLevel G entries)).map fun group => 1 + descendants G depth group.2 :=
      List.map_congr_left fun group _ => ih group.2
    rw [hsame, List.sum_map_add, List.map_const', List.sum_replicate_nat, mul_one]

/-- What `addKeyLevel` leaves of the entries at a node whose children begin at a place in the arrays. -/
def Holds (t : Trie Key T) : ℕ → ℕ → ℕ → List (List Key × T) → Prop
  | 0, _, _, _ => False
  | depth + 1, i, start, entries =>
    ∃ node, t.nodes[i]? = some node ∧ t.Points node.value (endingValues entries).getLast? ∧
      node.nrOfChildNodes = (grouped (nextLevel G entries)).length ∧
        (grouped (nextLevel G entries) ≠ [] → node.children = start) ∧
          t.Children (t.Holds depth) (descendants G depth) start (i + 1)
            (start + (grouped (nextLevel G entries)).length) (grouped (nextLevel G entries))

end Layout

/-! ### Frames -/

/-- Nodes and places in the arrays of children that are left as they were. -/
structure Kept (t t' : Trie Key T) (nodes slots : ℕ → Prop) : Prop where
  nodes : ∀ i, nodes i → t'.nodes[i]? = t.nodes[i]?
  slots : ∀ i, slots i → t'.childNodeArrays[i]? = t.childNodeArrays[i]?
  values : t.values <+: t'.values

theorem Kept.mono {nodes slots nodes' slots' : ℕ → Prop} (h : t.Kept t' nodes slots) (hnodes : ∀ i, nodes' i → nodes i)
    (hslots : ∀ i, slots' i → slots i) : t.Kept t' nodes' slots' :=
  ⟨fun i hi => h.nodes i (hnodes i hi), fun i hi => h.slots i (hslots i hi), h.values⟩

theorem Kept.trans {t'' : Trie Key T} {nodes slots : ℕ → Prop} (h : t.Kept t' nodes slots)
    (h' : t'.Kept t'' nodes slots) : t.Kept t'' nodes slots :=
  ⟨fun i hi => (h'.nodes i hi).trans (h.nodes i hi), fun i hi => (h'.slots i hi).trans (h.slots i hi),
    h.values.trans h'.values⟩

/-- How many nodes, places in the arrays and values there are more. Nodes that come after them are as they were. -/
structure Grown (t t' : Trie Key T) (nodes slots values : ℕ) : Prop where
  nodesCurrentlyAdded : t'.nodesCurrentlyAdded = t.nodesCurrentlyAdded + nodes
  childNodesCurrentlyAdded : t'.childNodesCurrentlyAdded = t.childNodesCurrentlyAdded + slots
  values : t'.values.length = t.values.length + values
  nodes_length : t'.nodes.length = t.nodes.length
  arrays_length : t'.childNodeArrays.length = t.childNodeArrays.length
  reserved : t'.reserved = t.reserved
  later : ∀ i, t'.nodesCurrentlyAdded < i → t'.nodes[i]? = t.nodes[i]?

theorem Grown.trans {t'' : Trie Key T} {n m l n' m' l' : ℕ} (h : t.Grown t' n m l) (h' : t'.Grown t'' n' m' l') :
    t.Grown t'' (n + n') (m + m') (l + l') := by
  have hadded := h'.nodesCurrentlyAdded
  refine ⟨?_, ?_, ?_, h'.nodes_length.trans h.nodes_length, h'.arrays_length.trans h.arrays_length,
    h'.reserved.trans h.reserved, fun i hi => (h'.later i hi).trans (h.later i (by omega))⟩
  · rw [hadded, h.nodesCurrentlyAdded, Nat.add_assoc]
  · rw [h'.childNodesCurrentlyAdded, h.childNodesCurrentlyAdded, Nat.add_assoc]
  · rw [h'.values, h.values, Nat.add_assoc]

/-- There is memory for so many more nodes, places in the arrays and values. -/
structure Room (t : Trie Key T) (nodes slots values : ℕ) : Prop where
  nodes : t.nodesCurrentlyAdded + nodes < t.nodes.length
  slots : t.childNodesCurrentlyAdded + slots < t.nodes.length
  values : t.values.length + values ≤ t.reserved
  arrays : t.childNodeArrays.length = t.nodes.length
  fresh : ∀ i, t.nodesCurrentlyAdded < i → i < t.nodes.length → t.nodes[i]? = some {}

theorem Room.rest {n m l n' m' l' : ℕ} (h : t.Room (n + n') (m + m') (l + l')) (hgrown : t.Grown t' n m l) :
    t'.Room n' m' l' := by
  have hnodes := h.nodes
  have hslots := h.slots
  have hvalues := h.values
  have hlength := hgrown.nodes_length
  have hadded := hgrown.nodesCurrentlyAdded
  refine ⟨?_, ?_, ?_, ?_, fun i hi hlt => (hgrown.later i hi).trans (h.fresh i (by omega) (by omega))⟩
  · omega
  · rw [hgrown.childNodesCurrentlyAdded]
    omega
  · rw [hgrown.values, hgrown.reserved]
    omega
  · rw [hgrown.arrays_length, hlength]
    exact h.arrays

theorem Room.mono {n m l n' m' l' : ℕ} (h : t.Room n m l) (hn : n' ≤ n) (hm : m' ≤ m) (hl : l' ≤ l) :
    t.Room n' m' l' :=
  ⟨lt_of_le_of_lt (Nat.add_le_add_left hn _) h.nodes, lt_of_le_of_lt (Nat.add_le_add_left hm _) h.slots,
    (Nat.add_le_add_left hl _).trans h.values, h.arrays, h.fresh⟩

/-- The nodes of the children and below them, and the places of what is below them. -/
theorem Children.frame {holds holds' : ℕ → ℕ → List (List Key × T) → Prop} {below : List (List Key × T) → ℕ}
    {groups : List (List Key × List (List Key × T))} {slot child start : ℕ}
    (hholds : ∀ i j entries, holds i j entries →
      t.Kept t' (fun k => i ≤ k ∧ k ≤ i + below entries) (fun k => j ≤ k ∧ k < j + below entries) → holds' i j entries)
    (h : t.Children holds below slot child start groups)
    (hkept : t.Kept t'
      (fun k => child ≤ k ∧ k < child + (groups.length + (groups.map fun group => below group.2).sum))
      (fun k => slot ≤ k ∧ k < slot + groups.length ∨
        start ≤ k ∧ k < start + (groups.map fun group => below group.2).sum)) :
    t'.Children holds' below slot child start groups := by
  induction groups generalizing slot child start with
  | nil => trivial
  | cons group groups ih =>
    obtain ⟨hslot, hkeys, hchild, hrest⟩ := h
    simp only [List.length_cons, List.map_cons, List.sum_cons] at hkept
    refine ⟨?_, ?_, hholds _ _ _ hchild (hkept.mono ?_ ?_), ih hrest (hkept.mono ?_ ?_)⟩
    · rw [hkept.slots slot (Or.inl (by omega))]
      exact hslot
    · rw [hkept.nodes child (by omega)]
      exact hkeys
    all_goals
      intro k hk
      omega

theorem addValues_spec {i : ℕ} {node : TrieNode Key} (entries : List (List Key × T)) (hnode : t.nodes[i]? = some node)
    (hvalue : node.value = none) (hadded : i ≤ t.nodesCurrentlyAdded) (hroom : t.Room 0 0 (endingValues entries).length) :
    ∃ t' pointer, t.addValues i entries = some t' ∧ t.Grown t' 0 0 (endingValues entries).length ∧
      t.Kept t' (· ≠ i) (fun _ => True) ∧ t'.nodes[i]? = some { node with value := pointer } ∧
        t'.Points pointer (endingValues entries).getLast? := by
  have hi : i < t.nodes.length := (List.getElem?_eq_some_iff.1 hnode).1
  have hpoints := points_addValues t entries
  have hadd := addValues_eq hnode hroom.values
  rw [hvalue] at hadd
  refine ⟨_, _, hadd, ⟨rfl, rfl, List.length_append, List.length_set, rfl, rfl, fun k hk => ?_⟩,
    ⟨fun k hk => List.getElem?_set_ne hk.symm, fun _ _ => rfl, List.prefix_append _ _⟩, List.getElem?_set_self hi, hpoints⟩
  exact List.getElem?_set_ne (hadded.trans_lt hk).ne

/-- The places of the children of a node are taken at once. -/
theorem getChildNodeArray_spec {i n : ℕ} {node : TrieNode Key} (hnode : t.nodes[i]? = some node)
    (hadded : i ≤ t.nodesCurrentlyAdded) (hroom : t.Room 0 n 0) :
    ∃ t', ((t.getChildNodeArray n).bind fun (children, t) => t.updateNode i ({ · with children := children })) = some t' ∧
      t.Grown t' 0 n 0 ∧ t.Kept t' (· ≠ i) (fun _ => True) ∧
        t'.nodes[i]? = some { node with children := t.childNodesCurrentlyAdded } := by
  have hi : i < t.nodes.length := (List.getElem?_eq_some_iff.1 hnode).1
  have hget : t.getChildNodeArray n = some (t.childNodesCurrentlyAdded,
      { t with childNodesCurrentlyAdded := t.childNodesCurrentlyAdded + n }) := if_pos hroom.slots
  have hupdate := updateNode_eq (t := { t with childNodesCurrentlyAdded := t.childNodesCurrentlyAdded + n }) hnode
    ({ · with children := t.childNodesCurrentlyAdded })
  rw [hget]
  refine ⟨_, hupdate, ⟨rfl, rfl, rfl, List.length_set, rfl, rfl, fun k hk => ?_⟩,
    ⟨fun k hk => List.getElem?_set_ne hk.symm, fun _ _ => rfl, List.prefix_refl _⟩, List.getElem?_set_self hi⟩
  exact List.getElem?_set_ne (hadded.trans_lt hk).ne

theorem addChild_spec {i : ℕ} {node : TrieNode Key} (keys : List Key) (hnode : t.nodes[i]? = some node)
    (hadded : i ≤ t.nodesCurrentlyAdded) (hslot : node.children + node.nrOfChildNodes < t.childNodesCurrentlyAdded)
    (hroom : t.Room 1 0 0) :
    ∃ t', t.addChild i keys = some t' ∧ t.Grown t' 1 0 0 ∧
      t.Kept t' (fun k => k ≤ t.nodesCurrentlyAdded ∧ k ≠ i) (fun k => k ≠ node.children + node.nrOfChildNodes) ∧
        t'.nodes[i]? = some { node with nrOfChildNodes := node.nrOfChildNodes + 1 } ∧
          t'.nodes[t.nodesCurrentlyAdded + 1]? = some { keys := keys } ∧
            t'.childNodeArrays[node.children + node.nrOfChildNodes]? = some (t.nodesCurrentlyAdded + 1) := by
  have hnodes := hroom.nodes
  have hslots := hroom.slots
  have harrays := hroom.arrays
  refine ⟨_, addChild_eq hnode hadded (hroom.fresh _ (by omega) hnodes) (by omega), ?_, ?_, ?_, ?_, ?_⟩
  · refine ⟨rfl, rfl, rfl, ?_, List.length_set, rfl, fun k hk => ?_⟩
    · exact List.length_set.trans List.length_set
    · have hk' : t.nodesCurrentlyAdded + 1 < k := hk
      exact (List.getElem?_set_ne (by omega)).trans (List.getElem?_set_ne (by omega))
  · refine ⟨fun k hk => ?_, fun k hk => List.getElem?_set_ne hk.symm, List.prefix_refl _⟩
    exact (List.getElem?_set_ne hk.2.symm).trans (List.getElem?_set_ne (by omega))
  · exact List.getElem?_set_self (by rw [List.length_set]; omega)
  · exact (List.getElem?_set_ne (by omega)).trans (List.getElem?_set_self hnodes)
  · exact List.getElem?_set_self (by omega)

section Construction

variable [LinearOrder Key] {G : KeyAlternatives Key}

theorem Holds.frame {depth i start : ℕ} {entries : List (List Key × T)} (h : t.Holds G depth i start entries)
    (hkept : t.Kept t' (fun k => i ≤ k ∧ k ≤ i + descendants G depth entries)
      (fun k => start ≤ k ∧ k < start + descendants G depth entries)) :
    t'.Holds G depth i start entries := by
  induction depth generalizing i start entries with
  | zero => exact h
  | succ depth ih =>
    obtain ⟨node, hnode, hvalue, hcount, hplace, hchildren⟩ := h
    unfold descendants at hkept
    refine ⟨node, (hkept.nodes i (by omega)).trans hnode, hvalue.mono hkept.values, hcount, hplace,
      hchildren.frame (fun _ _ _ hholds hkept => ih hholds hkept) (hkept.mono ?_ ?_)⟩
    all_goals
      intro k hk
      omega

/-- What the construction of a node and of all below it does. -/
def Constructs (G : KeyAlternatives Key) (depth : ℕ) (entries : List (List Key × T)) : Prop :=
  ∀ (t : Trie Key T) (node : TrieNode Key), t.nodes[t.nodesCurrentlyAdded]? = some node →
    node.nrOfChildNodes = 0 → node.value = none →
      t.Room (descendants G depth entries) (descendants G depth entries) entries.length →
        ∃ t', t.addKeyLevel G depth t.nodesCurrentlyAdded entries = some t' ∧
          t.Grown t' (descendants G depth entries) (descendants G depth entries) entries.length ∧
            t.Kept t' (· < t.nodesCurrentlyAdded) (· < t.childNodesCurrentlyAdded) ∧
              (t'.nodes[t.nodesCurrentlyAdded]?).map TrieNode.keys = some node.keys ∧
                t'.Holds G depth t.nodesCurrentlyAdded t.childNodesCurrentlyAdded entries

/-- How many nodes are below those of the groups. -/
def descendantsOf (G : KeyAlternatives Key) (depth : ℕ) (groups : List (List Key × List (List Key × T))) : ℕ :=
  (groups.map fun group => descendants G depth group.2).sum

/-- How many entries the groups have. -/
def nrOfEntries (groups : List (List Key × List (List Key × T))) : ℕ := (groups.map fun group => group.2.length).sum

/-- The children of a node are added one after the other, each with what is below it. -/
theorem addChildren_spec {depth i : ℕ} {node : TrieNode Key} {groups : List (List Key × List (List Key × T))}
    (hgroups : ∀ group ∈ groups, Constructs G depth group.2) (hnode : t.nodes[i]? = some node)
    (hadded : i ≤ t.nodesCurrentlyAdded)
    (hslots : node.children + node.nrOfChildNodes + groups.length ≤ t.childNodesCurrentlyAdded)
    (hroom : t.Room (groups.length + descendantsOf G depth groups) (descendantsOf G depth groups) (nrOfEntries groups)) :
    ∃ t', groups.foldlM (fun t group =>
        (t.addChild i group.1).bind fun t => addKeyLevel G depth t.nodesCurrentlyAdded group.2 t) t = some t' ∧
      t.Grown t' (groups.length + descendantsOf G depth groups) (descendantsOf G depth groups) (nrOfEntries groups) ∧
      t.Kept t' (fun k => k ≤ t.nodesCurrentlyAdded ∧ k ≠ i) (fun k => k < t.childNodesCurrentlyAdded ∧
        (k < node.children + node.nrOfChildNodes ∨ node.children + node.nrOfChildNodes + groups.length ≤ k)) ∧
      t'.nodes[i]? = some { node with nrOfChildNodes := node.nrOfChildNodes + groups.length } ∧
      t'.Children (t'.Holds G depth) (descendants G depth) (node.children + node.nrOfChildNodes)
        (t.nodesCurrentlyAdded + 1) t.childNodesCurrentlyAdded groups := by
  induction groups generalizing t node with
  | nil =>
    exact ⟨t, rfl, ⟨rfl, rfl, rfl, rfl, rfl, rfl, fun _ _ => rfl⟩, ⟨fun _ _ => rfl, fun _ _ => rfl, List.prefix_refl _⟩,
      hnode, trivial⟩
  | cons group groups ih =>
    have hbelow : descendantsOf G depth (group :: groups) = descendants G depth group.2 + descendantsOf G depth groups :=
      rfl
    have hentries : nrOfEntries (group :: groups) = group.2.length + nrOfEntries groups := rfl
    rw [List.length_cons] at hslots
    rw [hbelow, hentries, List.length_cons] at hroom ⊢
    obtain ⟨t₁, hchild, hgrown₁, hkept₁, hnode₁, hnew, hslot⟩ :=
      addChild_spec group.1 hnode hadded (by omega) (hroom.mono (by omega) (by omega) (by omega))
    have hadded₁ := hgrown₁.nodesCurrentlyAdded
    have hplaces₁ := hgrown₁.childNodesCurrentlyAdded
    have hroom₁ : t₁.Room (descendants G depth group.2 + (groups.length + descendantsOf G depth groups))
        (descendants G depth group.2 + descendantsOf G depth groups) (group.2.length + nrOfEntries groups) :=
      Room.rest (hroom.mono (by omega) (by omega) (by omega)) hgrown₁
    rw [← hadded₁] at hnew
    obtain ⟨t₂, hlevel, hgrown₂, hkept₂, hkeys, hholds⟩ := hgroups group List.mem_cons_self t₁ _ hnew rfl rfl
      (hroom₁.mono (by omega) (by omega) (by omega))
    have hadded₂ := hgrown₂.nodesCurrentlyAdded
    have hplaces₂ := hgrown₂.childNodesCurrentlyAdded
    have hnode₂ : t₂.nodes[i]? = some { node with nrOfChildNodes := node.nrOfChildNodes + 1 } :=
      (hkept₂.nodes i (by omega)).trans hnode₁
    obtain ⟨t₃, hrest, hgrown₃, hkept₃, hnode₃, hchildren⟩ :=
      ih (fun group hgroup => hgroups group (List.mem_cons_of_mem _ hgroup)) hnode₂ (by omega)
        (by dsimp only; omega) (hroom₁.rest hgrown₂)
    dsimp only at hkept₃ hnode₃ hchildren
    rw [hadded₁] at hkept₂ hkeys hholds hadded₂
    rw [hplaces₁] at hkept₂ hholds hplaces₂
    refine ⟨t₃, ?_, ?_, ?_, ?_, ?_, ?_, ?_, ?_⟩
    · rw [List.foldlM_cons, hchild]
      show (addKeyLevel G depth t₁.nodesCurrentlyAdded group.2 t₁).bind _ = _
      rw [hlevel]
      exact hrest
    · have hall := hgrown₁.trans (hgrown₂.trans hgrown₃)
      convert hall using 1 <;> omega
    · refine (hkept₁.mono ?_ ?_).trans ((hkept₂.mono ?_ ?_).trans (hkept₃.mono ?_ ?_))
      all_goals
        intro k hk
        omega
    · rw [hnode₃, Nat.add_assoc, Nat.add_comm 1]
    · rw [hkept₃.slots _ (by omega), hkept₂.slots _ (by omega)]
      exact hslot
    · rw [hkept₃.nodes _ (by omega)]
      exact hkeys
    · refine hholds.frame (hkept₃.mono ?_ ?_)
      all_goals
        intro k hk
        omega
    · rw [hadded₂, hplaces₂, ← Nat.add_assoc, Nat.add_right_comm _ (descendants G depth group.2) 1] at hchildren
      exact hchildren

/-- Every entry ends at a node or goes on. -/
theorem length_endingValues_add (entries : List (List Key × T)) :
    (endingValues entries).length + nrOfEntries (grouped (nextLevel G entries)) = entries.length := by
  unfold nrOfEntries
  rw [sum_length_grouped]
  induction entries with
  | nil => rfl
  | cons entry entries ih =>
    obtain ⟨key, value⟩ := entry
    have hlength : ((key, value) :: entries).length = entries.length + 1 := rfl
    rw [hlength, ← ih]
    cases key with
    | nil => exact Nat.add_right_comm _ 1 _
    | cons c key => rfl

omit [LinearOrder Key] in
theorem mem_nextLevel {entries : List (List Key × T)} {keys rest : List Key} {value : T} :
    (keys, rest, value) ∈ nextLevel G entries ↔ ∃ c, G.get c = keys ∧ (c :: rest, value) ∈ entries := by
  unfold nextLevel
  rw [List.mem_filterMap]
  constructor
  · rintro ⟨⟨key, v⟩, hentry, heq⟩
    cases key with
    | nil => cases heq
    | cons c key =>
      cases heq
      exact ⟨c, rfl, hentry⟩
  · rintro ⟨c, rfl, hentry⟩
    exact ⟨_, hentry, rfl⟩

theorem constructs {depth : ℕ} {entries : List (List Key × T)} (hdepth : ∀ entry ∈ entries, entry.1.length < depth)
    (hpos : 0 < depth) : Constructs G depth entries := by
  induction depth generalizing entries with
  | zero => exact absurd hpos (Nat.lt_irrefl 0)
  | succ depth ih =>
    have hgroups : ∀ group ∈ grouped (nextLevel G entries), Constructs G depth group.2 := by
      intro group hgroup
      obtain ⟨⟨entry, hentry⟩, heq⟩ := mem_grouped.1 hgroup
      have hlt : ∀ entry, (group.1, entry) ∈ nextLevel G entries → entry.1.length < depth := by
        rintro ⟨rest, value⟩ hmem
        obtain ⟨c, -, hmem⟩ := mem_nextLevel.1 hmem
        exact Nat.lt_of_succ_lt_succ (hdepth _ hmem)
      rw [heq]
      exact ih (fun entry hmem => hlt entry (mem_valuesOf.1 hmem)) ((Nat.zero_le _).trans_lt (hlt entry hentry))
    intro t node hnode hcount hvalue hroom
    have hlength := length_endingValues_add (G := G) entries
    have hbelow : descendants G (depth + 1) entries = (grouped (nextLevel G entries)).length +
        descendantsOf G depth (grouped (nextLevel G entries)) := rfl
    have hlevel : t.addKeyLevel G (depth + 1) t.nodesCurrentlyAdded entries =
        (t.addValues t.nodesCurrentlyAdded entries).bind fun t₁ =>
          if grouped (nextLevel G entries) = [] then some t₁
          else
            ((t₁.getChildNodeArray (grouped (nextLevel G entries)).length).bind fun (children, t₂) =>
              t₂.updateNode t.nodesCurrentlyAdded ({ · with children := children })).bind fun t₂ =>
                (grouped (nextLevel G entries)).foldlM (fun t' group => (t'.addChild t.nodesCurrentlyAdded group.1).bind
                  fun t' => addKeyLevel G depth t'.nodesCurrentlyAdded group.2 t') t₂ := by
      refine congrArg (Option.bind _) (funext fun t₁ => ?_)
      rw [Option.bind_assoc]
    rw [hbelow] at hroom ⊢
    obtain ⟨t₁, pointer, hadd, hgrown₁, hkept₁, hnode₁, hpoints⟩ :=
      addValues_spec entries hnode hvalue (Nat.le_refl _)
        (hroom.mono (Nat.zero_le _) (Nat.zero_le _) (by omega))
    have hadded₁ := hgrown₁.nodesCurrentlyAdded
    have hplaces₁ := hgrown₁.childNodesCurrentlyAdded
    rw [hlevel, hadd, Option.bind_some]
    by_cases hnil : grouped (nextLevel G entries) = []
    · have hzero : (grouped (nextLevel G entries)).length + descendantsOf G depth (grouped (nextLevel G entries)) = 0 := by
        rw [hnil]
        rfl
      have hempty : nrOfEntries (grouped (nextLevel G entries)) = 0 := by
        rw [hnil]
        rfl
      rw [if_pos hnil, hzero, ← hlength, hempty]
      refine ⟨t₁, rfl, hgrown₁, hkept₁.mono (fun k hk => Nat.ne_of_lt hk) (fun _ _ => trivial), ?_, _, hnode₁, hpoints, ?_,
        fun hne => absurd hnil hne, ?_⟩
      · rw [hnode₁]
        rfl
      · rw [hnil]
        exact hcount
      · rw [hnil]
        trivial
    · have hroom₁ : t₁.Room ((grouped (nextLevel G entries)).length +
          descendantsOf G depth (grouped (nextLevel G entries))) ((grouped (nextLevel G entries)).length +
            descendantsOf G depth (grouped (nextLevel G entries))) (nrOfEntries (grouped (nextLevel G entries))) :=
        Room.rest (hroom.mono (by omega) (by omega) (by omega)) hgrown₁
      obtain ⟨t₂, hclaim, hgrown₂, hkept₂, hnode₂⟩ := getChildNodeArray_spec hnode₁ (by omega)
        (hroom₁.mono (Nat.zero_le _) (Nat.le_add_right _ _) (Nat.zero_le _))
      have hadded₂ := hgrown₂.nodesCurrentlyAdded
      have hplaces₂ := hgrown₂.childNodesCurrentlyAdded
      obtain ⟨t₃, hrest, hgrown₃, hkept₃, hnode₃, hchildren⟩ := addChildren_spec hgroups hnode₂ (by omega)
        (by dsimp only; omega) (Room.rest (hroom₁.mono (by omega) (by omega) (by omega)) hgrown₂)
      rw [if_neg hnil, hclaim, Option.bind_some]
      dsimp only at hkept₃ hnode₃ hchildren
      rw [hcount] at hkept₃ hnode₃ hchildren
      refine ⟨t₃, hrest, ?_, ?_, ?_, _, hnode₃, hpoints.mono (hkept₂.values.trans hkept₃.values), Nat.zero_add _, ?_, ?_⟩
      · have hall := hgrown₁.trans (hgrown₂.trans hgrown₃)
        convert hall using 1 <;> omega
      · refine (hkept₁.mono (fun k hk => Nat.ne_of_lt hk) fun _ _ => trivial).trans
          ((hkept₂.mono (fun k hk => Nat.ne_of_lt hk) fun _ _ => trivial).trans (hkept₃.mono ?_ ?_))
        all_goals
          intro k hk
          omega
      · rw [hnode₃]
        rfl
      · exact fun _ => hplaces₁
      · rw [hadded₂, hadded₁, hplaces₂, hplaces₁] at hchildren
        exact hchildren

/-! ### Children are nodes of their own -/

omit [LinearOrder Key] in
theorem Children.perm {holds : ℕ → ℕ → List (List Key × T) → Prop} {below : List (List Key × T) → ℕ}
    {groups : List (List Key × List (List Key × T))} {slot child start : ℕ}
    (hholds : ∀ i j entries, holds i j entries → ((List.range' j (below entries)).map (t.childNodeArrays[·]?)).Perm
      ((List.range' (i + 1) (below entries)).map some))
    (h : t.Children holds below slot child start groups) :
    ((List.range' slot groups.length ++ List.range' start (groups.map fun group => below group.2).sum).map
      (t.childNodeArrays[·]?)).Perm
        ((List.range' child (groups.length + (groups.map fun group => below group.2).sum)).map some) := by
  induction groups generalizing slot child start with
  | nil => exact List.Perm.refl _
  | cons group groups ih =>
    obtain ⟨hslot, -, hchild, hrest⟩ := h
    have hcount : (group :: groups).length + ((group :: groups).map fun group => below group.2).sum =
        (below group.2 + (groups.length + (groups.map fun group => below group.2).sum)) + 1 := by
      rw [List.length_cons, List.map_cons, List.sum_cons]
      omega
    rw [hcount, List.length_cons, List.map_cons, List.sum_cons, List.range'_succ, List.range'_succ,
      ← List.range'_append_1, ← List.range'_append_1, List.cons_append, List.map_cons, List.map_cons, hslot,
      List.map_append, List.map_append, List.map_append]
    refine List.Perm.cons _ ((List.perm_append_comm_assoc _ _ _).trans ((hholds _ _ _ hchild).append ?_))
    rw [← List.map_append]
    exact ih hrest

/-- The places that are used have each node below once. -/
theorem Holds.perm {depth i start : ℕ} {entries : List (List Key × T)} (h : t.Holds G depth i start entries) :
    ((List.range' start (descendants G depth entries)).map (t.childNodeArrays[·]?)).Perm
      ((List.range' (i + 1) (descendants G depth entries)).map some) := by
  induction depth generalizing i start entries with
  | zero => exact h.elim
  | succ depth ih =>
    obtain ⟨-, -, -, -, -, hchildren⟩ := h
    have hall := hchildren.perm fun _ _ _ hholds => ih hholds
    rw [List.range'_append_1] at hall
    exact hall

/-! ### Search -/

/-- The values of the entries whose keys match. -/
def matchingValues (G : KeyAlternatives Key) (entries : List (List Key × T)) (text : List Key) : List T :=
  entries.filterMap fun entry => if G.Matches entry.1 text then some entry.2 else none

theorem matchingValues_nil (entries : List (List Key × T)) : matchingValues G entries [] = endingValues entries := by
  unfold matchingValues endingValues
  refine List.filterMap_congr fun entry _ => ?_
  obtain ⟨key, value⟩ := entry
  cases key with
  | nil => exact if_pos List.Forall₂.nil
  | cons c key => exact if_neg fun h => by cases h

/-- What matches goes on to the group with the first character among its keys, if there is one. -/
theorem matchingValues_cons {entries : List (List Key × T)} {c : Key} {keys rest : List Key}
    (hkeys : ∀ a, c ∈ G.get a → G.get a = keys) (hc : c ∈ keys) :
    matchingValues G entries (c :: rest) = matchingValues G (valuesOf keys (nextLevel G entries)) rest := by
  unfold matchingValues valuesOf nextLevel
  rw [List.filterMap_filterMap, List.filterMap_filterMap]
  refine List.filterMap_congr fun entry _ => ?_
  obtain ⟨key, value⟩ := entry
  cases key with
  | nil => exact if_neg fun h => by cases h
  | cons a key =>
    have hiff : G.Matches (a :: key) (c :: rest) ↔ c ∈ G.get a ∧ G.Matches key rest := List.forall₂_cons
    dsimp only
    rw [Option.bind_some]
    by_cases ha : G.get a = keys
    · rw [if_pos ha]
      exact if_congr (hiff.trans (and_iff_right (ha ▸ hc))) rfl rfl
    · rw [if_neg ha]
      exact if_neg fun h => ha (hkeys a (hiff.1 h).1)

/-- The child that is found is that of the first group with the character among its keys. -/
theorem Children.matchedChild {holds : ℕ → ℕ → List (List Key × T) → Prop} {below : List (List Key × T) → ℕ}
    {groups : List (List Key × List (List Key × T))} {node : TrieNode Key} {i child start : ℕ} (c : Key)
    (h : t.Children holds below (node.children + i) child start groups) :
    (∃ group ∈ groups, c ∈ group.1 ∧ ∃ n j, t.matchedChild node c groups.length i = some n ∧ holds n j group.2) ∨
      ((∀ group ∈ groups, c ∉ group.1) ∧ t.matchedChild node c groups.length i = none) := by
  induction groups generalizing i child start with
  | nil => exact Or.inr ⟨fun _ h => absurd h List.not_mem_nil, rfl⟩
  | cons group groups ih =>
    obtain ⟨hslot, hkeys, hchild, hrest⟩ := h
    obtain ⟨childNode, hnode, hchildKeys⟩ := Option.map_eq_some_iff.1 hkeys
    have hstep : t.matchedChild node c (group :: groups).length i =
        if c ∈ group.1 then some child else t.matchedChild node c groups.length (i + 1) := by
      show (t.childNodeArrays[node.children + i]?).bind _ = _
      rw [hslot, Option.bind_some, hnode, Option.any_some, hchildKeys]
      exact if_congr (decide_eq_true_iff) rfl rfl
    rw [hstep]
    by_cases hc : c ∈ group.1
    · rw [if_pos hc]
      exact Or.inl ⟨group, List.mem_cons_self, hc, child, start, rfl, hchild⟩
    · rw [if_neg hc]
      rcases ih (i := i + 1) hrest with ⟨group', hgroup', hfound⟩ | ⟨hnone, hresult⟩
      · exact Or.inl ⟨group', List.mem_cons_of_mem _ hgroup', hfound⟩
      · refine Or.inr ⟨fun group' hgroup' => ?_, hresult⟩
        rcases List.mem_cons.1 hgroup' with rfl | hgroup'
        · exact hc
        · exact hnone group' hgroup'

theorem Holds.findFrom {depth i start : ℕ} {entries : List (List Key × T)} (h : t.Holds G depth i start entries)
    (text : List Key) : t.Points (t.findFrom text i) (matchingValues G entries text).getLast? := by
  induction text generalizing depth i start entries with
  | nil =>
    cases depth with
    | zero => exact h.elim
    | succ depth =>
      obtain ⟨node, hnode, hvalue, -⟩ := h
      show t.Points ((t.nodes[i]?).bind TrieNode.value) _
      rw [hnode, matchingValues_nil]
      exact hvalue
  | cons c rest ih =>
    cases depth with
    | zero => exact h.elim
    | succ depth =>
      obtain ⟨node, hnode, -, hcount, hplace, hchildren⟩ := h
      have hplaced : t.Children (t.Holds G depth) (descendants G depth) (node.children + 0) (i + 1)
          (start + (grouped (nextLevel G entries)).length) (grouped (nextLevel G entries)) := by
        by_cases hnil : grouped (nextLevel G entries) = []
        · rw [hnil]
          trivial
        · rw [hplace hnil]
          exact hchildren
      have hstep : t.findFrom (c :: rest) i =
          (t.matchedChild node c (grouped (nextLevel G entries)).length 0).bind (t.findFrom rest) := by
        show (t.nodes[i]?).bind _ = _
        rw [hnode, Option.bind_some, hcount]
      rw [hstep]
      rcases hplaced.matchedChild c with ⟨group, hgroup, hc, n, j, hfound, hholds⟩ | ⟨hnone, hresult⟩
      · obtain ⟨⟨value, hvalue⟩, hvalues⟩ := mem_grouped.1 hgroup
        obtain ⟨a, ha, -⟩ := mem_nextLevel.1 hvalue
        have hkeys : ∀ b, c ∈ G.get b → G.get b = group.1 := by
          intro b hb
          rw [← ha] at hc ⊢
          exact G.get_eq_of_mem hb hc
        rw [hfound, Option.bind_some, matchingValues_cons hkeys hc, ← hvalues]
        exact ih hholds
      · have hempty : matchingValues G entries (c :: rest) = [] := by
          refine List.filterMap_eq_nil_iff.2 fun entry hentry => if_neg fun hmatches => ?_
          obtain ⟨key, value⟩ := entry
          cases hmatches with
          | @cons a _ key _ ha hrest =>
            have hmem : (G.get a, key, value) ∈ nextLevel G entries := mem_nextLevel.2 ⟨a, rfl, hentry⟩
            exact hnone (G.get a, valuesOf (G.get a) (nextLevel G entries)) (mem_grouped.2 ⟨⟨_, hmem⟩, rfl⟩) ha
        rw [hresult, hempty]
        rfl

omit [LinearOrder Key] in
theorem length_le_longestKey {entries : List (List Key × T)} {entry : List Key × T} (hentry : entry ∈ entries) :
    entry.1.length ≤ longestKey entries := by
  induction entries with
  | nil => exact absurd hentry List.not_mem_nil
  | cons first entries ih =>
    have hlongest : longestKey (first :: entries) = max first.1.length (longestKey entries) := rfl
    rw [hlongest]
    rcases List.mem_cons.1 hentry with rfl | hentry
    · exact le_max_left _ _
    · exact (ih hentry).trans (le_max_right _ _)

/-- A trie of entries. It has used the memory that is counted before, each node in a place of its own, and no more values
than space is reserved for. A text finds the value of the last entry whose key matches. -/
structure IsTrieOf (G : KeyAlternatives Key) (entries : List (List Key × T)) (t : Trie Key T) : Prop where
  counted : t.nodes.length = countRequiredNumberedOfNodes G (longestKey entries + 1) (entries.map Prod.fst)
  nodes : t.nodesCurrentlyAdded + 1 = t.nodes.length
  places : t.childNodesCurrentlyAdded + 1 = t.nodes.length
  perm : (t.childNodeArrays.take t.childNodesCurrentlyAdded).Perm (List.range' 1 t.nodesCurrentlyAdded)
  values : t.values.length = entries.length
  reserved : t.reserved = entries.length
  find : ∀ text, (t.find text).map (t.values[·]?) = ((matchingValues G entries text).getLast?).map some

theorem initialize_spec (G : KeyAlternatives Key) (entries : List (List Key × T)) :
    ∃ t, initialize' G entries = some t ∧ t.IsTrieOf G entries := by
  have hcount := countRequiredNumberedOfNodes_eq G (longestKey entries + 1) entries
  have hlength : (reserve G entries).nodes.length =
      countRequiredNumberedOfNodes G (longestKey entries + 1) (entries.map Prod.fst) := List.length_replicate
  have harrays : (reserve G entries).childNodeArrays.length =
      countRequiredNumberedOfNodes G (longestKey entries + 1) (entries.map Prod.fst) := List.length_replicate
  have hfresh : ∀ i < (reserve G entries).nodes.length, (reserve G entries).nodes[i]? = some {} := by
    intro i hi
    exact List.getElem?_replicate_of_lt (by omega)
  have hroom : (reserve G entries).Room (descendants G (longestKey entries + 1) entries)
      (descendants G (longestKey entries + 1) entries) entries.length := by
    refine ⟨?_, ?_, Nat.le_of_eq (Nat.zero_add _), harrays.trans hlength.symm, fun i _ hi => hfresh i hi⟩
    · show 0 + _ < _
      omega
    · show 0 + _ < _
      omega
  have hconstructs : Constructs G (longestKey entries + 1) entries :=
    constructs (fun entry hentry => Nat.lt_succ_of_le (length_le_longestKey hentry)) (Nat.succ_pos _)
  obtain ⟨t, hlevel, hgrown, -, -, hholds⟩ := hconstructs (reserve G entries) {} (hfresh 0 (by omega)) rfl rfl hroom
  have hnodes : t.nodesCurrentlyAdded = descendants G (longestKey entries + 1) entries :=
    hgrown.nodesCurrentlyAdded.trans (Nat.zero_add _)
  have hplaces : t.childNodesCurrentlyAdded = descendants G (longestKey entries + 1) entries :=
    hgrown.childNodesCurrentlyAdded.trans (Nat.zero_add _)
  have hgrownNodes := hgrown.nodes_length
  have hgrownArrays := hgrown.arrays_length
  refine ⟨t, hlevel, hgrownNodes.trans hlength, by omega, by omega, ?_, hgrown.values.trans (Nat.zero_add _),
    hgrown.reserved, hholds.findFrom⟩
  have hused : (List.range' 0 (descendants G (longestKey entries + 1) entries)).map (t.childNodeArrays[·]?) =
      (t.childNodeArrays.take (descendants G (longestKey entries + 1) entries)).map some := by
    refine List.ext_getElem ?_ fun i _ hi => ?_
    · rw [List.length_map, List.length_range', List.length_map, List.length_take]
      omega
    · rw [List.length_map, List.length_take] at hi
      rw [List.getElem_map, List.getElem_range', List.getElem_map, List.getElem_take, Nat.one_mul, Nat.zero_add]
      exact List.getElem?_eq_getElem _
  have hperm := hholds.perm
  rw [hnodes, hplaces, ← List.map_perm_map_iff (Option.some_injective ℕ), ← hused]
  exact hperm

end Construction

theorem matches_getSingleKey_iff {key text : List Key} : (getSingleKey Key).Matches key text ↔ key = text := by
  have hsingle : ∀ a c : Key, c ∈ (getSingleKey Key).get a ↔ a = c := fun a c => List.mem_singleton.trans eq_comm
  unfold KeyAlternatives.Matches
  simp only [hsingle]
  rw [List.forall₂_eq_eq_eq]

theorem matches_getAsciiUpperLowerKey_iff {key text : List UInt8} :
    getAsciiUpperLowerKey.Matches key text ↔ key.map toLower = text.map toLower := by
  have hcase : ∀ a c : UInt8, c ∈ getAsciiUpperLowerKey.get a ↔ toLower a = toLower c := fun _ _ => mem_upperLower_iff
  unfold KeyAlternatives.Matches
  simp only [hcase]
  rw [← List.forall₂_eq_eq_eq, List.forall₂_map_left_iff, List.forall₂_map_right_iff]

/-- The trie is a map from keys: the alternatives are the character alone, or both cases of it. -/
theorem find_spec :
    (∀ {Key T : Type} [LinearOrder Key] (G : KeyAlternatives Key) (entries : List (List Key × T)),
      ∃ t, initialize' G entries = some t ∧ t.IsTrieOf G entries) ∧
    (∀ {Key : Type} {key text : List Key}, (getSingleKey Key).Matches key text ↔ key = text) ∧
    (∀ {key text : List UInt8},
      getAsciiUpperLowerKey.Matches key text ↔ key.map toLower = text.map toLower) :=
  ⟨initialize_spec, matches_getSingleKey_iff, matches_getAsciiUpperLowerKey_iff⟩

end Trie

end Forum.Http
