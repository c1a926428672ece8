import Workbench.Proofs.Tree.Render
/-!
# Arenas in preorder

A tree that is built top down and left to right has its nodes in preorder:
every node comes right before the nodes below it, and these are followed by
the next node on the same level (`Spans`). A walk through such a tree meets
the handles in their order, so that restricting the tree renames nothing.
With references in the order in which the nodes hold them, and no link out
of the arenas (`InOrder`), a tree is received as it was sent.
-/

namespace Workbench

variable {α : Type}

/-- **Trees side by side in an arena**: what the nodes in the list reach
fills the arena from `a` to `c`, in preorder. -/
inductive Spans (below : α → List α) (handle : ℕ → α) : List α → ℕ → ℕ → Prop
  /-- Nothing fills nothing. -/
  | nil (a : ℕ) : Spans below handle [] a a
  /-- A node, what is below it, and the trees after it. -/
  | cons {a b c : ℕ} {rest : List α} : Spans below handle (below (handle a)) (a + 1) b →
      Spans below handle rest b c → Spans below handle (handle a :: rest) a c

namespace Spans

variable {below below' : α → List α} {handle : ℕ → α} {roots more : List α} {a b c : ℕ}

theorem le (h : Spans below handle roots a c) : a ≤ c := by
  induction h with
  | nil a => exact Nat.le_refl a
  | cons _ _ ih₁ ih₂ => omega

/-- More trees follow. -/
theorem append (h₁ : Spans below handle roots a b) (h₂ : Spans below handle more b c) :
    Spans below handle (roots ++ more) a c := by
  induction h₁ with
  | nil a => exact h₂
  | cons hbelow _ _ ih => exact cons hbelow (ih h₂)

/-- One tree follows. -/
theorem concat (h₁ : Spans below handle roots a b)
    (h₂ : Spans below handle (below (handle b)) (b + 1) c) :
    Spans below handle (roots ++ [handle b]) a c :=
  h₁.append (cons h₂ (nil c))

/-- Only what is below the nodes in between matters. -/
theorem congr (h : Spans below handle roots a c)
    (heq : ∀ i, a ≤ i → i < c → below' (handle i) = below (handle i)) :
    Spans below' handle roots a c := by
  induction h with
  | nil a => exact nil a
  | @cons a b c rest hbelow hrest ih₁ ih₂ =>
    have hab := hbelow.le
    have hbc := hrest.le
    refine cons ?_ (ih₂ fun i hi hic => heq i (by omega) hic)
    rw [heq a (Nat.le_refl a) (by omega)]
    exact ih₁ fun i hi hib => heq i (by omega) (by omega)

/-- **A walk meets the handles in their order.** Every level takes a node, so
as many levels as there are nodes are enough. -/
theorem walk (h : Spans below handle roots a c) :
    ∀ n, c - a ≤ n → roots.flatMap (walk below n) = (List.range' a (c - a)).map handle := by
  induction h with
  | nil a =>
    intro n _
    rw [Nat.sub_self]
    rfl
  | @cons a b c rest hbelow hrest ih₁ ih₂ =>
    intro n hn
    have hab := hbelow.le
    have hbc := hrest.le
    obtain ⟨m, rfl⟩ : ∃ m, n = m + 1 := ⟨n - 1, by omega⟩
    have hsplit : c - a = (b - (a + 1) + (c - b)) + 1 := by omega
    rw [List.flatMap_cons, Workbench.walk, ih₁ m (by omega), ih₂ (m + 1) (by omega), hsplit,
      List.range'_succ, List.map_cons, ← List.range'_append_1, List.map_append, List.cons_append,
      show a + 1 + (b - (a + 1)) = b by omega]

end Spans

/-! ## Trees in order -/

namespace SyntaxTree

variable {g : Grammar} {t : SyntaxTree}

/-- References that are held in their order, each at the place it records. -/
def slotsOf (references : Array Reference) : List (RefId × Option ℕ) :=
  references.toList.zipIdx.map fun (ref, i) => (⟨i⟩, ref.index)

/-- **A tree whose arenas are in order.** -/
structure InOrder (t : SyntaxTree) : Prop where
  /-- The nodes are in preorder. -/
  ast : t.preorder = (List.range t.ast.size).map NodeId.mk
  /-- The concrete nodes are in preorder. -/
  cst : t.cstPreorder = (List.range t.cst.size).map CstId.mk
  /-- The references are in the order in which the nodes hold them. -/
  slots : t.heldSlots = slotsOf t.references
  /-- Concrete nodes point into the arena. -/
  links : ∀ id node, t.cst? id = some node → ∀ a ∈ node.astNode, a.index < t.ast.size

namespace InOrder

theorem hasCst (h : t.InOrder) (hl : t.Linked g) {id : CstId} (hid : id.index < t.cst.size) :
    t.HasCst id := by
  rw [← hl.mem_cstPreorder, h.cst, List.mem_map]
  exact ⟨id.index, List.mem_range.mpr hid, rfl⟩

end InOrder

end SyntaxTree

end Workbench
