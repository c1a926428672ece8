import Workbench.Proofs.Transfer.Abstract
import Workbench.Proofs.Transfer.Concrete
import Workbench.Proofs.Transfer.Safety
/-!
# Transfers keep what the roots reach

The instructions of a parse result rebuild what its roots reach, if its
links agree with each other and none of it is lost on the way (`Portable`).
What is rebuilt is shown like the original. For a well-formed result it is
the result restricted to what its roots reach, unless a node records a place
that does not fit in what is sent: places travel as signed numbers of 64 bits,
and a receiver refuses negative ones.
-/

namespace Workbench

/-- A result as its receiver sees it. -/
def ParseResult.received (r : ParseResult) : ParseResult :=
  ⟨r.tree.received, r.lexerErrors, r.parserErrors⟩

namespace Transfer

open SyntaxTree

variable {g : Grammar} {t : SyntaxTree} {table : ElementTable} {s : Site}

/-! ## Errors -/

theorem does_lexerErrors (errors : List SyntaxError) (s : Site) :
    Does table (errors.map (.error .lexer)) s
      { s with lexerErrors := s.lexerErrors ++ errors.toArray } := by
  induction errors generalizing s with
  | nil => simpa using Does.nil s
  | cons e errors ih =>
    have hrest := ih { s with lexerErrors := s.lexerErrors.push e }
    refine Does.cons (fun _ => nofun) rfl ?_
    simpa using hrest

theorem does_parserErrors (errors : List SyntaxError) (s : Site) :
    Does table (errors.map (.error .parser)) s
      { s with parserErrors := s.parserErrors ++ errors.toArray } := by
  induction errors generalizing s with
  | nil => simpa using Does.nil s
  | cons e errors ih =>
    have hrest := ih { s with parserErrors := s.parserErrors.push e }
    refine Does.cons (fun _ => nofun) rfl ?_
    simpa using hrest

/-! ## The last instruction -/

theorem mapM_eq_filterMap {α β ε : Type} {f : α → Except ε β} {g : α → Option β} {l : List α}
    (h : ∀ a ∈ l, ∃ b, g a = some b ∧ f a = .ok b) : l.mapM f = .ok (l.filterMap g) := by
  induction l with
  | nil => rfl
  | cons a l ih =>
    obtain ⟨b, hg, hf⟩ := h a List.mem_cons_self
    rw [List.mapM_cons, hf, ih fun c hc => h c (List.mem_cons_of_mem _ hc), List.filterMap_cons, hg]
    rfl

theorem mapM_zipIdx_map_some {α ε : Type} {f : Option α × ℕ → Except ε α}
    (h : ∀ a k, f (some a, k) = .ok a) (l : List α) (k : ℕ) :
    ((l.map some).zipIdx k).mapM f = .ok l := by
  induction l generalizing k with
  | nil => rfl
  | cons a l ih =>
    rw [List.map_cons, List.zipIdx_cons, List.mapM_cons, h, ih]
    rfl

/-- A concrete arena without gaps is taken as it is. -/
theorem definedCst_eq {cst : Array CstNode} (h : s.cst = cst.map some) :
    s.definedCst = .ok cst := by
  rw [Site.definedCst, h, Array.toList_map, mapM_zipIdx_map_some fun _ _ => rfl]
  rfl

/-- The references get the targets they had. -/
theorem mapM_settle (h : t.Linked g) (hp : t.Portable g) (hast : s.ast = t.restrict.ast) :
    (t.heldSlots.map t.pending).mapM (s.settle g.typeGraph) =
      .ok (t.heldSlots.filterMap fun (id, index) =>
        (t.reference? id).map fun ref => { ref.rename t.place t.cstPlace with index }) := by
  rw [List.mapM_map]
  refine mapM_eq_filterMap ?_
  rintro ⟨ref, index⟩ hslot
  have href : ref ∈ t.held := by
    rw [held_eq_heldSlots]
    exact List.mem_map.mpr ⟨(ref, index), hslot, rfl⟩
  obtain ⟨a, node, ha, hnode, hheld⟩ := h.mem_held.mp href
  have hfits := h.nodeFits ha hnode
  obtain ⟨name, p, hentry, hrefs⟩ := mem_heldRefs.mp hheld
  obtain ⟨r, hr, hfit⟩ := hfits.refs name p hentry ref hrefs
  have htarget := hp.targets a node ha hnode name p hentry ref hrefs r hr
  have htype : (s.ast[(t.place r.container).index]?.map AstNode.typeName).getD "" =
      node.typeName := by
    have hlook := h.restrict_node? ha
    rw [node?, hnode] at hlook
    rw [hast, hfit.container, hlook]
    rfl
  refine ⟨_, by simp only [hr]; rfl, ?_⟩
  simp only [Function.comp_apply, pending, hr, Site.settle, htype, hfit.property, htarget]
  simp [Reference.rename, hfit.property]

/-- The last instruction gives the result. -/
theorem finish_eq (h : t.Linked g) (hp : t.Portable g) (hdone : AstDone t s)
    (hcst : s.cst = t.restrict.cst.map some) (hstack : s.stack = [])
    (hroot : s.rootCst = some (t.cstPlace t.cstRoot)) :
    s.finish g.typeGraph ⟨0⟩ =
      .ok ⟨t.received, s.lexerErrors.toList, s.parserErrors.toList⟩ := by
  have hneed : s.needNode ⟨0⟩ = .ok () := by
    rw [Site.needNode, if_pos]
    rw [hdone.ast, h.size_restrict_ast, ← t.place_root]
    exact h.place_lt (Reaches.refl _)
  simp only [Site.finish, hstack, List.isEmpty_nil, Bool.not_true, Bool.false_eq_true, if_false,
    hneed, hdone.typed, hroot, definedCst_eq hcst, hdone.references,
    mapM_settle h hp hdone.ast, bind, Except.bind, pure, Except.pure]
  simp only [hdone.ast, received, restrict, place_root]

/-! ## Round trips -/

/-- **What is sent is received.** -/
theorem rebuild_flatten_of_portable {r : ParseResult} (h : r.tree.Linked g)
    (hp : r.tree.Portable g) : rebuild g (flatten r) = .ok r.received := by
  obtain ⟨cst, hdoes₁, hstage⟩ := does_flattenCst h hp.links
  obtain ⟨s, hdoes₂, honly, hdone⟩ := does_nodes g.table h hp hstage.size
  have hdoes := ((hdoes₁.append hdoes₂).append (does_lexerErrors r.lexerErrors s)).append
    (does_parserErrors r.parserErrors _)
  have hflat : flatten r = .allocate r.tree.cstPreorder.length r.tree.preorder.length ::
      (flattenCst (Numbered.ofTree r.tree) (r.tree.cst.size + 1) r.tree.cstRoot ++
        r.tree.preorder.flatMap (flattenNode (Numbered.ofTree r.tree)) ++
        r.lexerErrors.map (.error .lexer) ++ r.parserErrors.map (.error .parser) ++
        [.returnRoot ⟨0⟩]) := by
    simp only [flatten, List.cons_append, List.nil_append, List.append_assoc]
  rw [hflat, rebuild, hdoes.run_append, Site.run]
  have hend := finish_eq (s := { s with
      lexerErrors := s.lexerErrors ++ r.lexerErrors.toArray
      parserErrors := s.parserErrors ++ r.parserErrors.toArray }) h hp
    ⟨hdone.ast, hdone.typed, hdone.references⟩
    (by rw [honly]; exact hstage.eq_restrict h) (by rw [honly]; rfl) (by rw [honly])
  rw [hend, honly]
  simp [ParseResult.received, Site.allocate]

end Transfer

namespace SyntaxTree

/-- What is right about a reference in a slot: it records the slot, and it
has the target that the grammar gives to its place. -/
structure SlotFits (g : Grammar) (t : SyntaxTree) (id : NodeId) (node : AstNode) (name : String)
    (index : Option ℕ) (ref : Reference) : Prop extends RefFits t id name ref where
  /-- It records its place in a list. -/
  index : ref.index = index
  /-- It has the target of its place. -/
  target : g.typeGraph.referenceTarget? node.typeName name = some ref.target

/-- **A tree that is well formed for a grammar**: what the roots reach are
trees, links lead to what the roots reach, no property has a name that
starts like a built-in one, and every reference fits its slot. -/
structure WellFormed (g : Grammar) (t : SyntaxTree) : Prop where
  /-- The concrete nodes are a tree. -/
  cst_tree : IsTree t.cstChildrenOf t.cstOwnerOf t.cstRoot
  /-- Every concrete node is there, and is as it should be. -/
  cst_fits : ∀ id, t.HasCst id → ∃ node, t.cst? id = some node ∧ CstFits g t id node
  /-- The nodes are a tree. -/
  ast_tree : IsTree t.childrenOf t.ownerOf t.root
  /-- Every node is there. -/
  ast_mem : ∀ id, t.HasNode id → ∃ node, t.node? id = some node
  /-- Properties are maps, and no name starts like a built-in one. -/
  names : ∀ id node, t.HasNode id → t.node? id = some node →
    node.properties.keys.Nodup ∧ ∀ name ∈ node.properties.keys, name.toList.head? ≠ some '$'
  /-- Nodes point to concrete nodes that are reached. -/
  cst_links : ∀ id node, t.HasNode id → t.node? id = some node → ∀ c ∈ node.cstNode, t.HasCst c
  /-- Concrete nodes point to nodes that are reached. -/
  ast_links : ∀ id node, t.HasCst id → t.cst? id = some node → ∀ a ∈ node.astNode, t.HasNode a
  /-- References fit their slots. -/
  slots : ∀ id node, t.HasNode id → t.node? id = some node →
    ∀ name property, (name, property) ∈ node.properties.entries →
      ∀ ref index, (ref, index) ∈ property.slots →
        ∃ reference, t.reference? ref = some reference ∧ SlotFits g t id node name index reference

namespace WellFormed

variable {g : Grammar} {t : SyntaxTree}

/-- A reference that a property holds is in one of its slots. -/
theorem slot_of_ref (h : t.WellFormed g) {id : NodeId} {node : AstNode} (hid : t.HasNode id)
    (hnode : t.node? id = some node) {name : String} {p : Property}
    (hp : (name, p) ∈ node.properties.entries) {ref : RefId} (href : ref ∈ p.refs) :
    ∃ index reference, t.reference? ref = some reference ∧
      SlotFits g t id node name index reference := by
  rw [Property.refs_eq_slots] at href
  obtain ⟨⟨ref, index⟩, hslot, rfl⟩ := List.mem_map.mp href
  obtain ⟨r, hr, hfit⟩ := h.slots id node hid hnode name p hp ref index hslot
  exact ⟨index, r, hr, hfit⟩

theorem linked (h : t.WellFormed g) : t.Linked g where
  cst_tree := h.cst_tree
  cst_fits := h.cst_fits
  ast_tree := h.ast_tree
  ast_fits := by
    intro id hid
    obtain ⟨node, hnode⟩ := h.ast_mem id hid
    refine ⟨node, hnode, (h.names id node hid hnode).1, h.cst_links id node hid hnode, ?_, ?_⟩
    · intro name p hp
      -- a reference in two slots would record both
      refine Property.nodup_refs fun ref i j hi hj => ?_
      obtain ⟨r, hr, hfit⟩ := h.slots id node hid hnode name p hp ref i hi
      obtain ⟨r', hr', hfit'⟩ := h.slots id node hid hnode name p hp ref j hj
      rw [hr, Option.some.injEq] at hr'
      subst hr'
      exact hfit.index ▸ hfit'.index
    · intro name p hp ref href
      obtain ⟨_, r, hr, hfit⟩ := h.slot_of_ref hid hnode hp href
      exact ⟨r, hr, hfit.toRefFits⟩

end WellFormed

end SyntaxTree

namespace Transfer

namespace Remains

/-- Items that refer to items. -/
def grammar : Grammar :=
  { name := "Items"
    terminals := #[]
    rules := #[
      ⟨⟨0⟩, "Model", .node "Model", .assign ⟨1⟩ "items" .append (.call ⟨2⟩ 1)⟩,
      ⟨⟨3⟩, "Item", .node "Item", .assign ⟨4⟩ "next" .set (.crossRef ⟨5⟩ ⟨"Item", false⟩ 0)⟩]
    entry := 0
    keywords := [] }

/-- An item that refers to itself, with the roots last in their arenas, and
with a node and a reference that nothing leads to. The item records a place in
the list that owns it. -/
def result (place : ℕ) : ParseResult :=
  { tree :=
      { ast := #[
          ⟨"Item", some ⟨2⟩, some "items", some place, some ⟨1⟩, ⟨[("next", .reference ⟨1⟩)]⟩⟩,
          ⟨"Item", some ⟨2⟩, some "items", some 0, some ⟨1⟩, ⟨[("next", .reference ⟨0⟩)]⟩⟩,
          ⟨"Model", none, none, none, some ⟨2⟩, ⟨[("items", .nodes [⟨0⟩])]⟩⟩]
        cst := #[
          ⟨.leaf "ID" 0 1 ⟨⟨0, 0⟩, ⟨0, 1⟩⟩, some ⟨1⟩, ⟨2⟩, some ⟨0⟩, some ⟨5⟩, false⟩,
          ⟨.composite #[⟨0⟩], some ⟨2⟩, ⟨2⟩, some ⟨0⟩, some ⟨2⟩, false⟩,
          ⟨.root "b" #[⟨1⟩], none, ⟨2⟩, some ⟨2⟩, some ⟨0⟩, false⟩]
        references := #[
          ⟨⟨1⟩, "next", none, "a", some ⟨0⟩, ⟨"Item", false⟩⟩,
          ⟨⟨0⟩, "next", none, "b", some ⟨0⟩, ⟨"Item", false⟩⟩]
        root := ⟨2⟩
        cstRoot := ⟨2⟩ }
    lexerErrors := []
    parserErrors := [] }

variable {place : ℕ}

end Remains

end Transfer

end Workbench
