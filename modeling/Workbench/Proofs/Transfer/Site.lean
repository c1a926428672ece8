import Mathlib.Algebra.Group.Int.Defs
import Mathlib.Algebra.Group.Nat.Defs
import Workbench.Proofs.Tree.Restrict
import Workbench.Transfer.Flatten
import Workbench.Transfer.Rebuild
/-!
# Carrying out instructions

`Does` is a run of instructions that all succeed and none of which names the
root. Runs are put together one after the other; each kind of instruction
has one lemma that says when it succeeds and what it leaves behind.
-/

namespace Workbench

namespace Transfer

/-- **Instructions that succeed one after the other**, without naming the
root. -/
inductive Does (table : ElementTable) : List Instruction → Site → Site → Prop
  | nil (s : Site) : Does table [] s s
  | cons {x : Instruction} {xs : List Instruction} {s s₁ s₂ : Site} :
    (∀ root, x ≠ .returnRoot root) → s.apply table x = .ok s₁ → Does table xs s₁ s₂ →
      Does table (x :: xs) s s₂

variable {table : ElementTable} {types : TypeGraph} {s s₁ s₂ : Site} {x : Instruction}
variable {xs ys : List Instruction}

namespace Does

theorem one (hx : ∀ root, x ≠ .returnRoot root) (h : s.apply table x = .ok s₁) :
    Does table [x] s s₁ := .cons hx h (.nil s₁)

theorem append (h₁ : Does table xs s s₁) (h₂ : Does table ys s₁ s₂) :
    Does table (xs ++ ys) s s₂ := by
  induction h₁ with
  | nil s => exact h₂
  | cons hx happly _ ih => exact .cons hx happly (ih h₂)

/-- **What comes after goes on where the instructions end.** -/
theorem run_append (h : Does table xs s s₁) :
    Site.run table types (xs ++ ys) s = Site.run table types ys s₁ := by
  induction h with
  | nil s => rfl
  | @cons x xs s s₁ s₂ hx happly _ ih =>
    rw [List.cons_append, ← ih]
    cases x with
    | returnRoot root => exact absurd rfl (hx root)
    | _ =>
      simp only [Site.run, happly]
      rfl

end Does

/-! ## Numbers of nodes -/

/-- The handles that follow leave a number alone if it is not one of theirs. -/
theorem getElem?_foldl_of_not_mem {order : List (ℕ × ℕ)} {slot : ℕ}
    (h : slot ∉ order.map Prod.fst) (numbers : Array (Option ℕ)) :
    (order.foldl (fun numbers (slot, number) => numbers.setIfInBounds slot (some number))
      numbers)[slot]? = numbers[slot]? := by
  induction order generalizing numbers with
  | nil => rfl
  | cons e order ih =>
    rw [List.map_cons, List.mem_cons, not_or] at h
    rw [List.foldl_cons, ih h.2, Array.getElem?_setIfInBounds_ne (Ne.symm h.1)]

theorem getElem?_foldl_of_mem {order : List (ℕ × ℕ)} {slot number : ℕ}
    (hnodup : (order.map Prod.fst).Nodup) (h : (slot, number) ∈ order)
    {numbers : Array (Option ℕ)} (hlt : slot < numbers.size) :
    (order.foldl (fun numbers (slot, number) => numbers.setIfInBounds slot (some number))
      numbers)[slot]? = some (some number) := by
  induction order generalizing numbers with
  | nil => cases h
  | cons e order ih =>
    rw [List.map_cons, List.nodup_cons] at hnodup
    rw [List.foldl_cons]
    rcases List.mem_cons.mp h with rfl | hmem
    · rw [getElem?_foldl_of_not_mem hnodup.1, Array.getElem?_setIfInBounds_self_of_lt hlt]
    · exact ih hnodup.2 hmem (by rw [Array.size_setIfInBounds]; exact hlt)

/-- **Every handle of the order gets its place as its number.** -/
theorem getElem?_numbering_of_mem {size slot : ℕ} {order : List ℕ} (hnodup : order.Nodup)
    (h : slot ∈ order) (hlt : slot < size) :
    (numbering size order)[slot]? = some (some (order.idxOf slot)) := by
  refine getElem?_foldl_of_mem ?_ ?_ (by rw [Array.size_replicate]; exact hlt)
  · rw [List.zipIdx_map_fst]
    exact hnodup
  · exact List.mk_mem_zipIdx_iff_getElem?.mpr (SyntaxTree.getElem?_idxOf h)

theorem idxOf_map_of_injective {α β : Type} [DecidableEq α] [DecidableEq β] {f : α → β}
    (hf : ∀ a b, f a = f b → a = b) (l : List α) (a : α) : (l.map f).idxOf (f a) = l.idxOf a := by
  induction l with
  | nil => rfl
  | cons b l ih =>
    rw [List.map_cons, List.idxOf_cons, List.idxOf_cons, ih]
    by_cases hab : b = a
    · subst hab
      rw [beq_self_eq_true, beq_self_eq_true]
    · have hne : f b ≠ f a := fun h => hab (hf b a h)
      rw [beq_false_of_ne hab, beq_false_of_ne hne]

namespace Numbered

variable {g : Grammar} {t : SyntaxTree}

theorem node?_ofTree (h : t.Linked g) {id : NodeId} (hid : t.HasNode id) :
    (ofTree t).node? id = some (t.place id) := by
  obtain ⟨node, hnode, -⟩ := h.ast_fits id hid
  have hinj : ∀ a b : NodeId, a.index = b.index → a = b := fun _ _ => NodeId.ext_index
  rw [node?, ofTree, getElem?_numbering_of_mem
    (h.nodup_preorder.map fun a b => hinj a b)
    (List.mem_map_of_mem (h.mem_preorder.mpr hid)) (SyntaxTree.index_lt_of_node? hnode),
    idxOf_map_of_injective hinj]
  rfl

theorem cst?_ofTree (h : t.Linked g) {id : CstId} (hid : t.HasCst id) :
    (ofTree t).cst? id = some (t.cstPlace id) := by
  obtain ⟨node, hnode, -⟩ := h.cst_fits id hid
  have hinj : ∀ a b : CstId, a.index = b.index → a = b := fun _ _ => CstId.ext_index
  rw [cst?, ofTree, getElem?_numbering_of_mem
    (h.nodup_cstPreorder.map fun a b => hinj a b)
    (List.mem_map_of_mem (h.mem_cstPreorder.mpr hid)) (SyntaxTree.index_lt_of_cst? hnode),
    idxOf_map_of_injective hinj]
  rfl

end Numbered

/-! ## What can be sent -/

/-- A property is not taken for something else on the way: no scalar has the
name of a built-in property, and no single node a name that starts like
one. -/
def Sendable (name : String) : Property → Prop
  | .scalar _ => name ∉ [typeProperty, containerPropertyProperty, containerIndexProperty]
  | .node _ => name.toList.head? ≠ some '$'
  | _ => True

/-- A place that fits is sent as it is. -/
theorem sentIndex_of_lt {i : ℕ} (h : i < 2 ^ 63) : sentIndex i = i := Int64.toInt_ofNat_of_lt h

/-- No place that is sent is too large for the receiver. -/
theorem sentIndex_lt (i : ℕ) : sentIndex i < 2 ^ 63 := Int64.toInt_lt _

end Transfer

/-- The places that nodes record in the lists that own them fit in 63 bits, as
those of all lists in memory do. -/
def SyntaxTree.IndicesFit (t : SyntaxTree) : Prop :=
  ∀ id node, t.HasNode id → t.node? id = some node → ∀ i ∈ node.containerIndex, i < 2 ^ 63

/-- **What a transfer keeps.** Links to abstract nodes are sent only if the
root reaches them, some names are taken, the target of a reference is not
sent at all, and a place is sent in 64 bits with a sign. -/
structure SyntaxTree.Portable (g : Grammar) (t : SyntaxTree) : Prop where
  /-- Concrete nodes point to nodes that the root reaches. -/
  links : ∀ id node, t.HasCst id → t.cst? id = some node → ∀ a ∈ node.astNode, t.HasNode a
  /-- The names of properties are free. -/
  names : ∀ id node, t.HasNode id → t.node? id = some node →
    ∀ name property, (name, property) ∈ node.properties.entries → Transfer.Sendable name property
  /-- The target of a reference is what the grammar says about its place. -/
  targets : ∀ id node, t.HasNode id → t.node? id = some node →
    ∀ name property, (name, property) ∈ node.properties.entries →
      ∀ ref ∈ property.refs, ∀ reference, t.reference? ref = some reference →
        g.typeGraph.referenceTarget? node.typeName name = some reference.target
  /-- The places that nodes record fit in what is sent. -/
  indices : t.IndicesFit

end Workbench
