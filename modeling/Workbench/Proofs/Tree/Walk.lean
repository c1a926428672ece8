import Workbench.Tree.Basic
import Mathlib.Data.Finset.Card
import Mathlib.Data.List.Nodup
/-!
# Walks down a tree

The nodes of a tree are listed by a walk that goes down at most a given
number of steps. This file takes the ownership of nodes as it is: a list of
nodes below each node, and the owner each node names. If what a root
reaches agrees with its owners (`IsTree`), every node is reached by exactly
one number of steps, the walk lists every node once, and no path is longer
than the arena that holds the nodes.
-/

namespace Workbench

variable {α : Type}

/-- `b` lies `n` steps below `a`. -/
inductive Steps (below : α → List α) : ℕ → α → α → Prop
  /-- A node lies no step below itself. -/
  | here (a : α) : Steps below 0 a a
  /-- One step further down. -/
  | down {n : ℕ} {a b c : α} : Steps below n a b → c ∈ below b → Steps below (n + 1) a c

/-- `b` lies at or below `a`. -/
def Reaches (below : α → List α) (a b : α) : Prop := ∃ n, Steps below n a b

/-- The node `n` owners above a node. -/
def ownerAbove (owner : α → Option α) : ℕ → α → Option α
  | 0, a => some a
  | n + 1, a => (owner a).bind (ownerAbove owner n)

/-- **What a root reaches is a tree**: the root has no owner, and every node
reached owns each of its nodes once and is named by it as its owner. -/
structure IsTree (below : α → List α) (owner : α → Option α) (root : α) : Prop where
  /-- Nothing owns the root. -/
  root_owner : owner root = none
  /-- A node is owned in one place. -/
  nodup : ∀ a, Reaches below root a → (below a).Nodup
  /-- A node names its owner. -/
  owner_eq : ∀ a, Reaches below root a → ∀ b ∈ below a, owner b = some a

/-- The nodes at most `n` steps below a node, in preorder. -/
def walk (below : α → List α) : ℕ → α → List α
  | 0, a => [a]
  | n + 1, a => a :: (below a).flatMap (walk below n)

variable {below : α → List α} {owner : α → Option α} {root a b c : α} {n m : ℕ}

/-- **No list is longer than the arena**, if each of its elements has a place of
its own there. -/
theorem length_le_of_index_lt {l : List α} (h : l.Nodup) (index : α → ℕ) {size : ℕ}
    (hinj : ∀ a ∈ l, ∀ b ∈ l, index a = index b → a = b) (hin : ∀ a ∈ l, index a < size) :
    l.length ≤ size := by
  have hplaces : (l.map index).Nodup := List.Nodup.map_on hinj h
  have hrange : l.map index ⊆ List.range size := by
    intro i hi
    obtain ⟨a, ha, rfl⟩ := List.mem_map.mp hi
    exact List.mem_range.mpr (hin a ha)
  have hfits := (hplaces.subperm hrange).length_le
  rwa [List.length_map, List.length_range] at hfits

/-! ## Steps -/

theorem Reaches.refl (a : α) : Reaches below a a := ⟨0, Steps.here a⟩

theorem Reaches.down (h : Reaches below a b) (hc : c ∈ below b) : Reaches below a c := by
  obtain ⟨n, hn⟩ := h
  exact ⟨n + 1, hn.down hc⟩

/-- Steps add up. -/
theorem Steps.trans (h₁ : Steps below n a b) (h₂ : Steps below m b c) :
    Steps below (n + m) a c := by
  induction h₂ with
  | here b => exact h₁
  | down _ hc ih => exact (ih h₁).down hc

theorem Reaches.trans (h₁ : Reaches below a b) (h₂ : Reaches below b c) : Reaches below a c := by
  obtain ⟨n, hn⟩ := h₁
  obtain ⟨m, hm⟩ := h₂
  exact ⟨n + m, hn.trans hm⟩

/-- The first of several steps. -/
theorem Steps.of_mem (hb : b ∈ below a) (h : Steps below n b c) : Steps below (n + 1) a c := by
  have h₁ : Steps below 1 a b := (Steps.here a).down hb
  have h₂ := h₁.trans h
  rwa [Nat.add_comm] at h₂

theorem Reaches.of_mem (hb : b ∈ below a) (h : Reaches below b c) : Reaches below a c := by
  obtain ⟨n, hn⟩ := h
  exact ⟨n + 1, Steps.of_mem hb hn⟩

/-- Steps start at the node itself or go through a node below it. -/
theorem Steps.cases_head (h : Steps below (n + 1) a c) :
    ∃ b ∈ below a, Steps below n b c := by
  induction n generalizing c with
  | zero =>
    cases h with
    | down h₀ hc =>
      cases h₀
      exact ⟨c, hc, Steps.here c⟩
  | succ n ih =>
    cases h with
    | down h₀ hc =>
      obtain ⟨b, hb, hbc⟩ := ih h₀
      exact ⟨b, hb, hbc.down hc⟩

theorem Reaches.cases_head (h : Reaches below a c) :
    c = a ∨ ∃ b ∈ below a, Reaches below b c := by
  obtain ⟨n, hn⟩ := h
  cases n with
  | zero => cases hn; exact Or.inl rfl
  | succ n =>
    obtain ⟨b, hb, hbc⟩ := hn.cases_head
    exact Or.inr ⟨b, hb, n, hbc⟩

/-- What holds at the start and passes on to the nodes below holds of all
that is reached. -/
theorem Reaches.invariant {P : α → Prop} (h : Reaches below a b) (ha : P a)
    (hstep : ∀ b, P b → ∀ c ∈ below b, P c) : P b := by
  obtain ⟨n, hn⟩ := h
  induction hn with
  | here a => exact ha
  | down _ hc ih => exact hstep _ (ih ha) _ hc

/-- Steps stay steps when nodes get more nodes below them. -/
theorem Steps.mono {below' : α → List α} (h : Steps below n a b)
    (hsub : ∀ a, ∀ b ∈ below a, b ∈ below' a) : Steps below' n a b := by
  induction h with
  | here a => exact Steps.here a
  | down _ hc ih => exact ih.down (hsub _ _ hc)

/-- What is reached stays so when nodes get more nodes below them. -/
theorem Reaches.mono {below' : α → List α} (h : Reaches below a b)
    (hsub : ∀ a, ∀ b ∈ below a, b ∈ below' a) : Reaches below' a b := by
  obtain ⟨n, hn⟩ := h
  exact ⟨n, hn.mono hsub⟩

/-! ## Levels -/

theorem ownerAbove_add (n m : ℕ) (a : α) :
    ownerAbove owner (n + m) a = (ownerAbove owner n a).bind (ownerAbove owner m) := by
  induction n generalizing a with
  | zero => simp [ownerAbove]
  | succ n ih =>
    rw [Nat.succ_add, ownerAbove, ownerAbove]
    cases owner a with
    | none => rfl
    | some b => exact ih b

/-- Going up as many owners as there were steps down leads back. -/
theorem Steps.ownerAbove (h : Steps below n a b)
    (howner : ∀ c, Reaches below a c → ∀ d ∈ below c, owner d = some c) :
    ownerAbove owner n b = some a := by
  induction h with
  | here a => rfl
  | @down n a b c hb hc ih =>
    rw [Workbench.ownerAbove, howner b ⟨n, hb⟩ c hc]
    exact ih howner

namespace IsTree

theorem ownerAbove_of_steps (ht : IsTree below owner root) (ha : Reaches below root a)
    (h : Steps below n a b) : ownerAbove owner n b = some a :=
  h.ownerAbove fun c hc => ht.owner_eq c (ha.trans hc)

/-- **Every node has one level.** -/
theorem level_unique (ht : IsTree below owner root) (hn : Steps below n root a)
    (hm : Steps below m root a) : n = m := by
  have hroot : ∀ k, ownerAbove owner (k + 1) root = none := by
    intro k
    rw [ownerAbove, ht.root_owner]
    rfl
  have key : ∀ {i j : ℕ}, i < j → Steps below i root a → Steps below j root a → False := by
    intro i j hij hi hj
    have hui := ht.ownerAbove_of_steps (Reaches.refl root) hi
    have huj := ht.ownerAbove_of_steps (Reaches.refl root) hj
    have hsplit : j = i + ((j - i - 1) + 1) := by omega
    rw [hsplit, ownerAbove_add, hui, Option.bind_some, hroot] at huj
    cases huj
  rcases Nat.lt_trichotomy n m with h | h | h
  · exact (key h hn hm).elim
  · exact h
  · exact (key h hm hn).elim

/-- No node lies below itself. -/
theorem not_reaches_of_mem (ht : IsTree below owner root) (ha : Reaches below root a)
    (hb : b ∈ below a) : ¬ Reaches below b a := by
  rintro ⟨k, hk⟩
  obtain ⟨n, hn⟩ := ha
  have := ht.level_unique ((hn.down hb).trans hk) hn
  omega

/-- Two nodes below the same node reach nothing in common. -/
theorem eq_of_common (ht : IsTree below owner root) (ha : Reaches below root a)
    {b₁ b₂ : α} (h₁ : b₁ ∈ below a) (h₂ : b₂ ∈ below a) (hc₁ : Reaches below b₁ c)
    (hc₂ : Reaches below b₂ c) : b₁ = b₂ := by
  obtain ⟨n, hn⟩ := ha
  obtain ⟨k₁, hk₁⟩ := hc₁
  obtain ⟨k₂, hk₂⟩ := hc₂
  have hk : k₁ = k₂ := by
    have := ht.level_unique ((hn.down h₁).trans hk₁) ((hn.down h₂).trans hk₂)
    omega
  subst hk
  have hu₁ := ht.ownerAbove_of_steps ⟨_, hn.down h₁⟩ hk₁
  have hu₂ := ht.ownerAbove_of_steps ⟨_, hn.down h₂⟩ hk₂
  rw [hu₁] at hu₂
  exact Option.some.inj hu₂

/-- **No path is longer than the arena**, nor than any list in which every
node that is reached has a place of its own. -/
theorem steps_lt (ht : IsTree below owner root) (index : α → ℕ) {size : ℕ}
    (hinj : ∀ b c, Reaches below root b → Reaches below root c → index b = index c → b = c)
    (hin : ∀ b, Reaches below root b → index b < size)
    (h : Steps below n root a) : n < size := by
  -- the nodes on the way to `a` have different levels, so they are different
  have hway : ∀ i : ℕ, i ≤ n → ∃ b, Steps below i root b := by
    intro i
    induction h with
    | here a => intro hi; exact ⟨a, by rw [Nat.le_zero.mp hi]; exact Steps.here a⟩
    | @down n a b c hb hc ih =>
      intro hi
      rcases Nat.lt_or_ge n i with hlt | hge
      · exact ⟨c, by rw [Nat.le_antisymm hi hlt]; exact hb.down hc⟩
      · exact ih ht hinj hin hge
  choose f hf using hway
  let g : ℕ → ℕ := fun i => if h : i ≤ n then index (f i h) else 0
  have hmaps : ∀ i ∈ Finset.range (n + 1), g i ∈ Finset.range size := by
    intro i hi
    have hle : i ≤ n := Nat.lt_succ_iff.mp (Finset.mem_range.mp hi)
    simp only [g, dif_pos hle, Finset.mem_range]
    exact hin _ ⟨i, hf i hle⟩
  have hg : Set.InjOn g (Finset.range (n + 1)) := by
    intro i hi j hj hij
    have hi' : i ≤ n := Nat.lt_succ_iff.mp (Finset.mem_range.mp hi)
    have hj' : j ≤ n := Nat.lt_succ_iff.mp (Finset.mem_range.mp hj)
    simp only [g, dif_pos hi', dif_pos hj'] at hij
    have heq : f i hi' = f j hj' := hinj _ _ ⟨i, hf i hi'⟩ ⟨j, hf j hj'⟩ hij
    exact ht.level_unique (hf i hi') (heq ▸ hf j hj')
  have hcard := Finset.card_le_card_of_injOn g hmaps hg
  simp only [Finset.card_range] at hcard
  omega

end IsTree

/-! ## Walks -/

theorem self_mem_walk (n : ℕ) (a : α) : a ∈ walk below n a := by
  cases n <;> simp [walk]

/-- A walk only meets what it can reach. -/
theorem reaches_of_mem_walk (h : b ∈ walk below n a) : Reaches below a b := by
  induction n generalizing a with
  | zero =>
    rw [walk, List.mem_singleton] at h
    rw [h]
    exact Reaches.refl a
  | succ n ih =>
    rw [walk, List.mem_cons, List.mem_flatMap] at h
    rcases h with rfl | ⟨c, hc, hb⟩
    · exact Reaches.refl b
    · exact Reaches.of_mem hc (ih hb)

/-- A walk meets all that is near enough. -/
theorem mem_walk_of_steps (h : Steps below m a b) (hm : m ≤ n) : b ∈ walk below n a := by
  induction n generalizing a m with
  | zero =>
    have hm0 : m = 0 := by omega
    subst hm0
    cases h
    exact self_mem_walk 0 _
  | succ n ih =>
    cases m with
    | zero =>
      cases h
      exact self_mem_walk (n + 1) _
    | succ m =>
      obtain ⟨c, hc, hcb⟩ := h.cases_head
      rw [walk, List.mem_cons, List.mem_flatMap]
      exact Or.inr ⟨c, hc, ih hcb (by omega)⟩

/-- **A walk through a tree meets no node twice.** -/
theorem IsTree.nodup_walk (ht : IsTree below owner root) (ha : Reaches below root a) :
    (walk below n a).Nodup := by
  induction n generalizing a with
  | zero => simp [walk]
  | succ n ih =>
    rw [walk, List.nodup_cons, List.nodup_flatMap]
    refine ⟨?_, fun c hc => ih (ha.down hc), ?_⟩
    · rw [List.mem_flatMap]
      rintro ⟨c, hc, hac⟩
      exact ht.not_reaches_of_mem ha hc (reaches_of_mem_walk hac)
    · refine (ht.nodup a ha).imp_of_mem fun {c d} hc hd hne => ?_
      intro x hxc hxd
      exact hne (ht.eq_of_common ha hc hd (reaches_of_mem_walk hxc) (reaches_of_mem_walk hxd))

/-! ## Depth -/

/-- Nothing lies more than `n` steps below a node. -/
def Within (below : α → List α) (n : ℕ) (a : α) : Prop := ∀ m b, Steps below m a b → m ≤ n

theorem Within.below_nil (h : Within below 0 a) : below a = [] := by
  rw [List.eq_nil_iff_forall_not_mem]
  intro b hb
  have := h 1 b ((Steps.here a).down hb)
  omega

theorem Within.of_mem (h : Within below (n + 1) a) (hb : b ∈ below a) : Within below n b := by
  intro m c hc
  have := h (m + 1) c (Steps.of_mem hb hc)
  omega

theorem Within.of_reaches (h : Within below n a) (hb : Reaches below a b) : Within below n b := by
  obtain ⟨k, hk⟩ := hb
  intro m c hc
  have := h (k + m) c (hk.trans hc)
  omega

/-- Where nothing lies deeper, going further down changes nothing. -/
theorem Within.walk_eq (h : Within below n a) (hm : n ≤ m) : walk below m a = walk below n a := by
  induction n generalizing a m with
  | zero =>
    cases m with
    | zero => rfl
    | succ m => rw [walk, walk, h.below_nil, List.flatMap_nil]
  | succ n ih =>
    obtain ⟨m, rfl⟩ : ∃ k, m = k + 1 := ⟨m - 1, by omega⟩
    rw [walk, walk]
    exact congrArg (a :: ·) (List.flatMap_congr fun b hb => ih (h.of_mem hb) (by omega))

/-- Where nothing lies deeper, a walk meets exactly what is reached. -/
theorem Within.mem_walk_iff (h : Within below n a) : b ∈ walk below n a ↔ Reaches below a b := by
  constructor
  · exact reaches_of_mem_walk
  · rintro ⟨m, hm⟩
    exact mem_walk_of_steps hm (h m b hm)

end Workbench
