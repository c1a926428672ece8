import Workbench.Proofs.Tree.Render
import Mathlib.Data.List.Flatten
/-!
# Cycles of ownership

Nodes that are put under one another one at a time need not be a tree, even
if each is put in one place only: a chain of owners may come back to where it
was. This file tells the two cases apart. If a node does not lie below
itself, what it reaches is a tree, and going down ends within the size of the
arena; if no node above a node lies below itself, so does going up. Otherwise
there is always one more step to take, and what is listed on the way grows
without end.
-/

namespace Workbench

variable {α β : Type} {below : α → List α} {owner : α → Option α} {a b c : α} {n m : ℕ}

/-- **A node that lies below itself.** -/
def Cyclic (below : α → List α) (a : α) : Prop := ∃ k, Steps below (k + 1) a a

/-! ## Around a cycle -/

theorem Cyclic.mono {below' : α → List α} (h : Cyclic below a)
    (hsub : ∀ a, ∀ b ∈ below a, b ∈ below' a) : Cyclic below' a := by
  obtain ⟨k, hk⟩ := h
  exact ⟨k, hk.mono hsub⟩

/-- A node on a cycle has one below it that is on the cycle. -/
theorem Cyclic.next (h : Cyclic below a) : ∃ b ∈ below a, Cyclic below b := by
  obtain ⟨k, hk⟩ := h
  obtain ⟨b, hb, hba⟩ := hk.cases_head
  exact ⟨b, hb, k, hba.down hb⟩

/-- A node on a cycle lies below one that is on the cycle. -/
theorem Cyclic.previous (h : Cyclic below a) : ∃ b, a ∈ below b ∧ Cyclic below b := by
  obtain ⟨k, hk⟩ := h
  cases hk with
  | @down _ _ b _ hb ha => exact ⟨b, ha, k, Steps.of_mem ha hb⟩

theorem length_le_length_flatMap {l : List α} (f : α → List β) (ha : a ∈ l) :
    (f a).length ≤ (l.flatMap f).length := by
  have hsub := (List.singleton_sublist.mpr ha).flatMap f
  rw [List.flatMap_singleton] at hsub
  exact hsub.length_le

/-- **A walk that comes to a cycle is longer than it is deep.** -/
theorem Cyclic.lt_length_walk (h : Cyclic below a) (n : ℕ) : n < (walk below n a).length := by
  induction n generalizing a with
  | zero => exact Nat.zero_lt_succ 0
  | succ n ih =>
    obtain ⟨b, hb, hnext⟩ := h.next
    have hbelow := length_le_length_flatMap (walk below n) hb
    have := ih hnext
    rw [walk, List.length_cons]
    omega

/-! ## Going up -/

theorem ownerAbove_eq_none_of_le (h : ownerAbove owner n a = none) (hle : n ≤ m) :
    ownerAbove owner m a = none := by
  obtain ⟨k, rfl⟩ := Nat.exists_eq_add_of_le hle
  rw [ownerAbove_add, h, Option.bind_none]

theorem steps_of_ownerAbove (hbelow : ∀ a b, owner b = some a → b ∈ below a)
    (h : ownerAbove owner n b = some a) : Steps below n a b := by
  induction n generalizing b with
  | zero =>
    cases h
    exact Steps.here a
  | succ n ih =>
    obtain ⟨p, hp, habove⟩ := Option.bind_eq_some_iff.mp h
    exact (ih habove).down (hbelow p b hp)

/-- From a cycle there is always one more owner to go up to. -/
theorem Cyclic.ownerAbove_ne_none (howner : ∀ a, ∀ b ∈ below a, owner b = some a)
    (h : Cyclic below a) (n : ℕ) : ownerAbove owner n a ≠ none := by
  induction n generalizing a with
  | zero => exact Option.some_ne_none a
  | succ n ih =>
    obtain ⟨p, ha, hprevious⟩ := h.previous
    rw [ownerAbove, howner p a ha]
    exact ih hprevious

/-! ## Owned in one place -/

/-- **Nodes that are owned in one place**, in an arena of some size. Their
chains of owners may still come back. -/
structure OwnedOnce (below : α → List α) (owner : α → Option α) (index : α → ℕ) (size : ℕ) :
    Prop where
  inj : Function.Injective index
  pos : 0 < size
  nodup : ∀ a, (below a).Nodup
  owner_eq : ∀ a, ∀ b ∈ below a, owner b = some a
  /-- Links do not lead out of the arena. -/
  link_lt : ∀ a b, owner b = some a → index a < size ∧ index b < size

namespace OwnedOnce

variable {index : α → ℕ} {size : ℕ}

/-- **What a node reaches is a tree**, unless the node lies below itself: if
the link to its own owner is cut, it is the root of one. -/
theorem isTree [DecidableEq α] (h : OwnedOnce below owner index size) (ha : ¬ Cyclic below a) :
    IsTree below (fun b => if b = a then none else owner b) a where
  root_owner := if_pos rfl
  nodup := fun b _ => h.nodup b
  owner_eq := by
    rintro b ⟨n, hb⟩ c hc
    have hne : c ≠ a := by
      rintro rfl
      exact ha ⟨n, hb.down hc⟩
    exact (if_neg hne).trans (h.owner_eq b c hc)

theorem steps_lt [DecidableEq α] (h : OwnedOnce below owner index size) (ha : ¬ Cyclic below a)
    (hn : Steps below n a b) : n < size := by
  cases n with
  | zero => exact h.pos
  | succ n =>
    have hin : ∀ c, Reaches below a c → index c < size := by
      intro c hc
      obtain ⟨d, hd, -⟩ := hn.cases_head
      exact hc.invariant (P := (index · < size)) (h.link_lt a d (h.owner_eq a d hd)).1
        fun c _ d hd => (h.link_lt c d (h.owner_eq c d hd)).2
    exact (h.isTree ha).steps_lt index (fun _ _ _ _ heq => h.inj heq) hin hn

theorem within [DecidableEq α] (h : OwnedOnce below owner index size) (ha : ¬ Cyclic below a) :
    Within below size a := fun _ _ hn => (h.steps_lt ha hn).le

/-- No chain that ends is longer than the arena. -/
theorem ownerAbove_size [DecidableEq α] (h : OwnedOnce below owner index size)
    (hbelow : ∀ a b, owner b = some a → b ∈ below a)
    (hc : ∀ a, Reaches below a c → ¬ Cyclic below a) : ownerAbove owner size c = none := by
  cases habove : ownerAbove owner size c with
  | none => rfl
  | some a =>
    have hsteps := steps_of_ownerAbove hbelow habove
    have := h.steps_lt (hc a ⟨size, hsteps⟩) hsteps
    omega

/-- **A chain of owners ends if and only if no cycle lies above it.** -/
theorem ends_iff [DecidableEq α] (h : OwnedOnce below owner index size)
    (hbelow : ∀ a b, owner b = some a → b ∈ below a) :
    (∃ n, ownerAbove owner n c = none) ↔ ∀ a, Reaches below a c → ¬ Cyclic below a := by
  constructor
  · rintro ⟨n, hn⟩ a ⟨k, hk⟩ hcycle
    -- going up `k` owners more leads past the cycle, and on from there
    have hlonger := ownerAbove_eq_none_of_le hn (Nat.le_add_left n k)
    rw [ownerAbove_add, hk.ownerAbove fun p _ => h.owner_eq p, Option.bind_some] at hlonger
    exact hcycle.ownerAbove_ne_none h.owner_eq n hlonger
  · intro hc
    exact ⟨size, h.ownerAbove_size hbelow hc⟩

end OwnedOnce

/-! ## Listings -/

/-- **A listing that comes to its end**: it may take a number of steps, and
more than `size` of them change nothing. -/
def Finishes (size : ℕ) (list : ℕ → List β) : Prop := ∀ n, size ≤ n → list n = list size

/-- **A listing without end**: the more steps it may take, the longer it
gets. -/
def Endless (list : ℕ → List β) : Prop := ∀ n, n ≤ (list n).length

theorem Endless.not_finishes {list : ℕ → List β} (h : Endless list) (size : ℕ) :
    ¬ Finishes size list := by
  intro hends
  have hlong := h (size + (list size).length + 1)
  rw [hends (size + (list size).length + 1) (by omega)] at hlong
  omega

namespace SyntaxTree

variable {t : SyntaxTree} {id : NodeId} {parent : Option NodeId} {depth : ℕ}

theorem finishes_preorderTo (h : Within t.childrenOf n id) : Finishes n (t.preorderTo · id) := by
  intro m hm
  simp only [preorderTo_eq_walk]
  exact h.walk_eq hm

theorem endless_preorderTo (h : Cyclic t.childrenOf id) : Endless (t.preorderTo · id) := by
  intro n
  simp only [preorderTo_eq_walk]
  exact (h.lt_length_walk n).le

theorem finishes_nodeLines (h : Within t.childrenOf n id) :
    Finishes (n + 1) (t.nodeLines · parent depth id) := by
  intro m hm
  obtain ⟨m, rfl⟩ : ∃ k, m = k + 1 := ⟨m - 1, by omega⟩
  exact nodeLines_eq (fun k b hk => (h k b hk).trans (by omega)) h

theorem length_le_length_propertyLines {below : NodeId → List String} {name : String}
    {p : Property} (hc : id ∈ p.children) :
    (below id).length ≤ (t.propertyLines depth below name p).length := by
  cases p with
  | node child =>
    rw [List.mem_singleton.mp hc]
    exact le_rfl
  | nodes children => exact length_le_length_flatMap below hc
  | _ => cases hc

/-- The lines of a node include those of every node it owns. -/
theorem length_nodeLines_lt {node : AstNode} {child : NodeId} (hnode : t.node? id = some node)
    (hchild : child ∈ node.children) (n : ℕ) :
    (t.nodeLines n (some id) (depth + 1) child).length <
      (t.nodeLines (n + 1) parent depth id).length := by
  rw [AstNode.children, OrderedMap.values, List.mem_flatMap] at hchild
  obtain ⟨p, hp, hmem⟩ := hchild
  obtain ⟨⟨name, p⟩, hentry, rfl⟩ := List.mem_map.mp hp
  have hproperty : (t.nodeLines n (some id) (depth + 1) child).length ≤
      (t.propertyLines depth (t.nodeLines n (some id) (depth + 1)) name p).length :=
    length_le_length_propertyLines hmem
  have hentries := length_le_length_flatMap (fun e : String × Property =>
    t.propertyLines depth (t.nodeLines n (some id) (depth + 1)) e.1 e.2) hentry
  rw [nodeLines, hnode, List.length_cons]
  exact Nat.lt_succ_of_le (hproperty.trans hentries)

theorem endless_nodeLines (h : Cyclic t.childrenOf id) :
    Endless (t.nodeLines · parent depth id) := by
  intro n
  induction n generalizing id parent depth with
  | zero => exact Nat.zero_le _
  | succ n ih =>
    obtain ⟨child, hchild, hnext⟩ := h.next
    cases hnode : t.node? id with
    | none =>
      rw [childrenOf, hnode] at hchild
      cases hchild
    | some node =>
      rw [childrenOf_eq hnode] at hchild
      have hmore : (t.nodeLines n (some id) (depth + 1) child).length <
          (t.nodeLines (n + 1) parent depth id).length := length_nodeLines_lt hnode hchild n
      have hbelow : n ≤ (t.nodeLines n (some id) (depth + 1) child).length := ih hnext
      exact Nat.lt_of_le_of_lt hbelow hmore

theorem finishes_segmentsTo (h : ownerAbove t.ownerOf n id = none) :
    Finishes n (t.segmentsTo · id) := by
  intro m hm
  induction n generalizing m id with
  | zero => cases h
  | succ n ih =>
    obtain ⟨m, rfl⟩ : ∃ k, m = k + 1 := ⟨m - 1, by omega⟩
    show t.segmentsTo (m + 1) id = t.segmentsTo (n + 1) id
    rw [segmentsTo_succ, segmentsTo_succ]
    cases hown : t.ownerOf id with
    | none => rfl
    | some p =>
      rw [ownerAbove, hown] at h
      simp only [ih h m (by omega)]

theorem endless_segmentsTo (h : ∀ n, ownerAbove t.ownerOf n id ≠ none) :
    Endless (t.segmentsTo · id) := by
  intro n
  induction n generalizing id with
  | zero => exact Nat.zero_le _
  | succ n ih =>
    show n + 1 ≤ (t.segmentsTo (n + 1) id).length
    rw [segmentsTo_succ]
    cases hown : t.ownerOf id with
    | none => exact absurd (by rw [ownerAbove, hown]; rfl) (h 1)
    | some p =>
      obtain ⟨node, hnode, -⟩ := Option.bind_eq_some_iff.mp hown
      have habove : ∀ k, ownerAbove t.ownerOf k p ≠ none := by
        intro k hk
        exact h (k + 1) (by rw [ownerAbove, hown]; exact hk)
      have : n ≤ (t.segmentsTo n p).length := ih habove
      simp only [hnode, Option.map_some, Option.toList_some, List.length_append,
        List.length_singleton]
      omega

theorem finishes_segmentsTo_iff {size : ℕ}
    (hsize : ∀ n, ownerAbove t.ownerOf n id = none → ownerAbove t.ownerOf size id = none) :
    Finishes size (t.segmentsTo · id) ↔ ∃ n, ownerAbove t.ownerOf n id = none := by
  constructor
  · intro hends
    by_contra hnone
    exact (endless_segmentsTo fun n hn => hnone ⟨n, hn⟩).not_finishes size hends
  · rintro ⟨n, hn⟩
    exact finishes_segmentsTo (hsize n hn)

end SyntaxTree

namespace OwnedOnce

variable {t : SyntaxTree} {id : NodeId} {parent : Option NodeId} {depth size : ℕ}
  {index : NodeId → ℕ}

/-- **What a node owns is listed to its end unless the node owns itself.** -/
theorem finishes_preorderTo_iff (h : OwnedOnce t.childrenOf t.ownerOf index size) :
    Finishes size (t.preorderTo · id) ↔ ¬ Cyclic t.childrenOf id := by
  constructor
  · intro hends hcycle
    exact (SyntaxTree.endless_preorderTo hcycle).not_finishes size hends
  · intro hcycle
    exact SyntaxTree.finishes_preorderTo (h.within hcycle)

theorem finishes_nodeLines_iff (h : OwnedOnce t.childrenOf t.ownerOf index size) :
    Finishes (size + 1) (t.nodeLines · parent depth id) ↔ ¬ Cyclic t.childrenOf id := by
  constructor
  · intro hends hcycle
    exact (SyntaxTree.endless_nodeLines hcycle).not_finishes (size + 1) hends
  · intro hcycle
    exact SyntaxTree.finishes_nodeLines (h.within hcycle)

end OwnedOnce

end Workbench
