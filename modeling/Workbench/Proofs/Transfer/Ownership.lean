import Workbench.Proofs.Transfer.Rebuilt
import Workbench.Proofs.Tree.Cycle
/-!
# Ownership that was rebuilt

A link puts a node under its owner, and a node that was linked is not linked
again. Each link is looked at on its own: links may close a cycle, and the
root may be put below a node. So the owners that a rebuilt tree names are the
links, each node has one, and everything else is as the links are. A chain of
owners ends, a path is read and a node is listed or shown with what it owns
exactly if no cycle is met on the way.
-/

namespace Workbench

namespace Transfer

/-! ## Links -/

/-- The links of ownership an instruction makes: an owner, and a node that is
put under it. -/
def Instruction.links : Instruction → List (NodeId × NodeId)
  | .linkNode (.ast owner) _ (.ast child) => [(owner, child)]
  | .linkNodeArray owner _ children => children.map (owner, ·)
  | _ => []

/-- All links of ownership, in the order they are made. -/
def links (xs : List Instruction) : List (NodeId × NodeId) := xs.flatMap Instruction.links

/-- **The nodes that are put under a node.** -/
def linked (xs : List Instruction) (owner : NodeId) : List NodeId :=
  ((links xs).filter (·.1 = owner)).map Prod.snd

theorem mem_linked {xs : List Instruction} {p c : NodeId} :
    c ∈ linked xs p ↔ (p, c) ∈ links xs := by
  simp [linked]

theorem links_concat {done : List Instruction} {x : Instruction} {parent : NodeId}
    {children : List NodeId} (hx : x.links = children.map (parent, ·)) :
    links (done ++ [x]) = links done ++ children.map (parent, ·) := by
  rw [links, List.flatMap_append, List.flatMap_singleton, hx]
  rfl

variable {table : ElementTable} {s s' : Site} {done : List Instruction}

/-! ## One instruction -/

/-- **Owners change by the links of an instruction only**, and all of its links
have the same owner. The nodes that are linked had none. -/
inductive Relinked (x : Instruction) (s s' : Site) : Prop
  | intro {parent : NodeId} {children : List NodeId} {s₁ : Site}
      (hlinks : x.links = children.map (parent, ·)) (hadopt : Adopted parent children s s₁)
      (hcontained : s'.contained = s₁.contained) (howner : s'.ownerOf = s₁.ownerOf)

namespace Relinked

/-- Nothing is linked. -/
theorem keep {x : Instruction} (hx : x.links = []) (hcontained : s'.contained = s.contained)
    (howner : s'.ownerOf = s.ownerOf) : Relinked x s s' := by
  have hnone : x.links = ([] : List NodeId).map ((⟨0⟩ : NodeId), ·) := hx
  exact .intro hnone (.nil ⟨0⟩ s) hcontained howner

theorem keep_ast {x : Instruction} (hx : x.links = []) (hcontained : s'.contained = s.contained)
    (hast : s'.ast = s.ast) : Relinked x s s' := by
  refine keep hx hcontained ?_
  funext c
  rw [Site.ownerOf, hast, Site.ownerOf]

theorem setCstProperty {id : CstId} {property : String} {value : Scalar}
    (h : s.setCstProperty table id property value = .ok s') :
    Relinked (.property (.cst id) property value) s s' := by
  unfold Site.setCstProperty at h
  obtain ⟨_, -, h⟩ := bind_eq_ok h
  split at h
  · split at h
    · cases h
      exact keep_ast rfl rfl rfl
    · cases h
  · split at h
    · split at h
      · split at h
        · cases h
          exact keep_ast rfl rfl rfl
        · cases h
      · cases h
    · cases h

theorem setNodeProperty {id : NodeId} {property : String} {value : Scalar}
    (h : s.setNodeProperty id property value = .ok s') :
    Relinked (.property (.ast id) property value) s s' := by
  have hnode : ∀ f : AstNode → AstNode, (∀ node, (f node).container = node.container) →
      Relinked (.property (.ast id) property value) s (s.modifyNode id f) := fun f hf =>
    keep rfl rfl (s.ownerOf_modifyNode id hf)
  unfold Site.setNodeProperty at h
  obtain ⟨_, -, h⟩ := bind_eq_ok h
  split at h
  · split at h
    · cases h
      exact keep rfl rfl (s.ownerOf_modifyNode id fun _ => rfl)
    · cases h
  · split at h
    · split at h
      · cases h
        exact hnode _ fun _ => rfl
      · cases h
    · split at h
      · split at h
        · cases h
          exact hnode _ fun _ => rfl
        · cases h
      · cases h
        exact hnode _ fun _ => rfl

theorem link {source target : Target} {property : String}
    (h : s.link source property target = .ok s') :
    Relinked (.linkNode source property target) s s' := by
  rw [Site.link.eq_def] at h
  split at h
  · split at h
    · obtain ⟨_, -, h⟩ := bind_eq_ok h
      obtain ⟨_, -, h⟩ := bind_eq_ok h
      cases h
      exact keep_ast rfl rfl rfl
    · cases h
  · split at h
    · obtain ⟨_, -, h⟩ := bind_eq_ok h
      obtain ⟨_, -, h⟩ := bind_eq_ok h
      cases h
      exact keep rfl rfl (s.ownerOf_modifyNode _ fun _ => rfl)
    · cases h
  · split at h
    · cases h
    · obtain ⟨_, -, h⟩ := bind_eq_ok h
      obtain ⟨s₁, hadopt, h⟩ := bind_eq_ok h
      cases h
      exact .intro rfl (.adopt hadopt) rfl (s₁.ownerOf_setProperty _ _ _)
  · cases h

/-- A concrete node is defined, below another one or as the root. -/
theorem define {x : Instruction} (hx : x.links = []) {id : CstId} {kind : CstKind}
    {parent : Option CstId} {s₁ : Site} (h : s.defineCst id kind parent = .ok s₁)
    (hcontained : s'.contained = s₁.contained) (hast : s'.ast = s₁.ast) : Relinked x s s' := by
  have hdef := Defined.defineCst h
  refine keep_ast hx ?_ ?_
  · rw [hcontained, hdef.frame]
  · rw [hast, hdef.frame]

end Relinked

theorem relinked_of_apply {x : Instruction} (h : s.apply table x = .ok s') :
    Relinked x s s' := by
  cases x with
  | allocate cst ast => cases h
  | property target property value =>
    cases target with
    | cst id => exact .setCstProperty h
    | ast id => exact .setNodeProperty h
  | propertyArray node property values =>
    obtain ⟨_, -, h⟩ := bind_eq_ok h
    cases h
    exact .keep rfl rfl (s.ownerOf_setProperty _ _ _)
  | reference node property sent =>
    obtain ⟨⟨id, s₁⟩, hadd, h⟩ := bind_eq_ok h
    cases h
    obtain ⟨-, -, -, rfl⟩ := addReference_ok hadd
    exact .keep rfl rfl (Site.ownerOf_setProperty _ _ _ _)
  | referenceArray node property refs =>
    obtain ⟨⟨ids, s₁⟩, hadd, h⟩ := bind_eq_ok h
    obtain ⟨_, -, h⟩ := bind_eq_ok h
    cases h
    obtain ⟨news, -, -, rfl⟩ := addReferences_ok hadd
    exact .keep rfl rfl (Site.ownerOf_setProperty _ _ _ _)
  | linkNode source property target => exact .link h
  | linkNodeArray node property children =>
    obtain ⟨_, -, h⟩ := bind_eq_ok h
    obtain ⟨s₁, hadopt, h⟩ := bind_eq_ok h
    cases h
    exact .intro rfl (.adoptAll hadopt) rfl (s₁.ownerOf_setProperty _ _ _)
  | empty node property =>
    obtain ⟨_, -, h⟩ := bind_eq_ok h
    cases h
    exact .keep rfl rfl (s.ownerOf_setProperty _ _ _)
  | rootCstNode id text =>
    rw [Site.apply] at h
    split at h
    · cases h
    · obtain ⟨s₁, hdefine, h⟩ := bind_eq_ok h
      cases h
      exact .define rfl hdefine rfl rfl
  | compositeCstNode id =>
    obtain ⟨_, -, h⟩ := bind_eq_ok h
    obtain ⟨s₁, hdefine, h⟩ := bind_eq_ok h
    cases h
    exact .define rfl hdefine rfl rfl
  | leafCstNode id tokenType offset length range =>
    obtain ⟨_, -, hdefine⟩ := bind_eq_ok h
    exact .define rfl hdefine rfl rfl
  | popCstNode =>
    rw [Site.apply] at h
    split at h
    · cases h
      exact .keep rfl rfl rfl
    · cases h
  | error kind e =>
    cases kind with
    | lexer =>
      cases h
      exact .keep rfl rfl rfl
    | parser =>
      cases h
      exact .keep rfl rfl rfl
  | returnRoot root =>
    cases h
    exact .keep rfl rfl rfl

/-! ## All instructions -/

/-- **Owners are the links made so far**, and no node was linked twice. -/
structure Linking (done : List Instruction) (s : Site) : Prop where
  once : ((links done).map Prod.snd).Nodup
  owner : ∀ p c, s.ownerOf c = some p ↔ (p, c) ∈ links done
  contained : ∀ p c, (p, c) ∈ links done → s.contained[c.index]? = some true

namespace Linking

theorem allocate (cst ast : ℕ) : Linking [.allocate cst ast] (Site.allocate cst ast) where
  once := List.nodup_nil
  owner := by
    intro p c
    constructor
    · intro hown
      obtain ⟨node, hnode, hcontainer⟩ := Option.bind_eq_some_iff.mp hown
      rw [Site.eq_of_allocate hnode] at hcontainer
      cases hcontainer
    · exact nofun
  contained := nofun

theorem apply (h : Linking done s) (hsize : s.contained.size = s.ast.size) {x : Instruction}
    (happly : s.apply table x = .ok s') : Linking (done ++ [x]) s' := by
  obtain @⟨parent, children, s₁, hx, hadopt, hcontained, hsame⟩ := relinked_of_apply happly
  have hmore : links (done ++ [x]) = links done ++ children.map (parent, ·) := links_concat hx
  have hmem : ∀ p c, (p, c) ∈ links (done ++ [x]) ↔
      (p, c) ∈ links done ∨ p = parent ∧ c ∈ children := by
    intro p c
    rw [hmore, List.mem_append]
    refine or_congr_right ⟨?_, ?_⟩
    · intro hc
      obtain ⟨c, hc, heq⟩ := List.mem_map.mp hc
      cases heq
      exact ⟨rfl, hc⟩
    · rintro ⟨rfl, hc⟩
      exact List.mem_map.mpr ⟨c, hc, rfl⟩
  -- what was linked before is marked, so it is not among the new nodes
  have hnew : ∀ p c, (p, c) ∈ links done → c ∉ children := by
    intro p c hold hc
    have hmarked := h.contained p c hold
    rw [hadopt.free c hc] at hmarked
    cases hmarked
  refine ⟨?_, ?_, ?_⟩
  · have hsnd : (children.map (parent, ·)).map Prod.snd = children := by
      rw [List.map_map]
      exact List.map_id _
    rw [hmore, List.map_append, hsnd]
    refine h.once.append hadopt.nodup fun c hold hc => ?_
    obtain ⟨⟨p, c⟩, hlink, rfl⟩ := List.mem_map.mp hold
    exact hnew p c hlink hc
  · intro p c
    rw [hsame, hadopt.ownerOf hsize, hmem]
    split
    · next hc =>
      constructor
      · intro hp
        exact Or.inr ⟨(Option.some.inj hp).symm, hc⟩
      · rintro (hold | ⟨rfl, -⟩)
        · exact absurd hc (hnew p c hold)
        · rfl
    · next hc =>
      rw [h.owner]
      exact ⟨Or.inl, fun hlink => hlink.resolve_right fun hc' => hc hc'.2⟩
  · intro p c hlink
    rw [hcontained, hadopt.contained]
    split
    · rfl
    · next hc =>
      exact h.contained p c (((hmem p c).mp hlink).resolve_right fun hc' => hc hc'.2)

end Linking

/-! ## The result -/

/-- **Ownership is a tree**, and what follows it comes to an end: every chain
of owners, listing all nodes, reading paths, and showing the tree. -/
structure OwnershipTree (t : SyntaxTree) : Prop where
  chain : ∀ c, ∃ n, ownerAbove t.ownerOf n c = none
  root : t.ownerOf t.root = none
  preorder : Finishes t.ast.size (t.preorderTo · t.root)
  path : ∀ c, Finishes t.ast.size (t.segmentsTo · c)
  lines : Finishes (t.ast.size + 1) (t.nodeLines · none 0 t.root)

/-- **Ownership in a tree that was rebuilt** is what its links are. -/
structure Ownership (xs : List Instruction) (t : SyntaxTree) : Prop where
  /-- No node is linked twice. -/
  once : ((links xs).map Prod.snd).Nodup
  /-- A node names the owner it was linked to. -/
  owner : ∀ p c, t.ownerOf c = some p ↔ c ∈ linked xs p
  /-- A node holds nothing that it was not linked to. -/
  child : ∀ p, ∀ c ∈ t.childrenOf p, c ∈ linked xs p
  /-- A chain of owners ends unless it comes to a cycle of links. -/
  chain : ∀ c, (∃ n, ownerAbove t.ownerOf n c = none) ↔
    ∀ a, Reaches (linked xs) a c → ¬ Cyclic (linked xs) a
  /-- A chain that ends is no longer than the arena. -/
  chain_le : ∀ c n, ownerAbove t.ownerOf n c = none → ownerAbove t.ownerOf t.ast.size c = none
  /-- The path of a node is read to its end if the chain of its owners ends. -/
  path : ∀ c, Finishes t.ast.size (t.segmentsTo · c) ↔ ∃ n, ownerAbove t.ownerOf n c = none
  path_endless : ∀ c, (∀ n, ownerAbove t.ownerOf n c ≠ none) → Endless (t.segmentsTo · c)
  /-- What a node owns is listed to its end unless the node owns itself. -/
  preorder : ∀ id, Finishes t.ast.size (t.preorderTo · id) ↔ ¬ Cyclic t.childrenOf id
  preorder_endless : ∀ id, Cyclic t.childrenOf id → Endless (t.preorderTo · id)
  /-- The tree is shown to its end unless the root owns itself. -/
  lines : Finishes (t.ast.size + 1) (t.nodeLines · none 0 t.root) ↔ ¬ Cyclic t.childrenOf t.root
  lines_endless : Cyclic t.childrenOf t.root → Endless (t.nodeLines · none 0 t.root)
  /-- What the root reaches is a tree if the root was not linked. -/
  reached : (∀ p, t.root ∉ linked xs p) ↔ IsTree t.childrenOf t.ownerOf t.root
  /-- All of it is a tree if moreover no links close a cycle. -/
  tree : OwnershipTree t ↔ (∀ a, ¬ Cyclic (linked xs) a) ∧ ∀ p, t.root ∉ linked xs p

namespace Finished

variable {t : SyntaxTree}

theorem link_lt (h : Finished s t) (ho : Owning s) (p c : NodeId) (hown : t.ownerOf c = some p) :
    p.index < t.ast.size ∧ c.index < t.ast.size := by
  constructor
  · rw [h.ownerOf] at hown
    rw [h.ast]
    exact ho.owner_lt c p hown
  · obtain ⟨node, hnode, -⟩ := Option.bind_eq_some_iff.mp hown
    exact SyntaxTree.index_lt_of_node? hnode

theorem pos (h : Finished s t) : 0 < t.ast.size := by
  have := h.root
  rw [h.ast]
  omega

/-- What properties hold is owned in one place. -/
theorem ownedOnce (h : Finished s t) (ho : Owning s) :
    OwnedOnce t.childrenOf t.ownerOf NodeId.index t.ast.size where
  inj := fun _ _ => NodeId.ext_index
  pos := h.pos
  nodup := by
    intro id
    cases hnode : t.node? id with
    | none =>
      rw [SyntaxTree.childrenOf, hnode]
      exact List.nodup_nil
    | some node =>
      rw [SyntaxTree.childrenOf_eq hnode]
      rw [SyntaxTree.node?, h.ast] at hnode
      exact ho.nodup id.index node hnode
  owner_eq := h.owner ho
  link_lt := h.link_lt ho

theorem mem_linked_iff (h : Finished s t) (hl : Linking done s) (p c : NodeId) :
    t.ownerOf c = some p ↔ c ∈ linked done p := by
  rw [h.ownerOf, hl.owner, mem_linked]

/-- What is linked is owned in one place. -/
theorem ownedOnce_linked (h : Finished s t) (ho : Owning s) (hl : Linking done s) :
    OwnedOnce (linked done) t.ownerOf NodeId.index t.ast.size where
  inj := fun _ _ => NodeId.ext_index
  pos := h.pos
  nodup := fun _ => hl.once.sublist (List.filter_sublist.map Prod.snd)
  owner_eq := fun p c hc => (h.mem_linked_iff hl p c).mpr hc
  link_lt := h.link_lt ho

theorem ownership (h : Finished s t) (ho : Owning s) (hl : Linking done s) :
    Ownership done t := by
  have hchild := h.ownedOnce ho
  have hlink := h.ownedOnce_linked ho hl
  have howner := h.mem_linked_iff hl
  have hlinked : ∀ p c, t.ownerOf c = some p → c ∈ linked done p := fun p c => (howner p c).mp
  -- not the other way round: a property that is set again drops what it held
  have hheld : ∀ p, ∀ c ∈ t.childrenOf p, c ∈ linked done p := fun p c hc =>
    hlinked p c (hchild.owner_eq p c hc)
  have hfree : (∀ p, t.root ∉ linked done p) ↔ t.ownerOf t.root = none := by
    rw [Option.eq_none_iff_forall_ne_some]
    exact forall_congr' fun p => not_congr (howner p t.root).symm
  have hchain := fun c => hlink.ends_iff (c := c) hlinked
  have hle : ∀ c n, ownerAbove t.ownerOf n c = none →
      ownerAbove t.ownerOf t.ast.size c = none := fun c n hn =>
    hlink.ownerAbove_size hlinked ((hchain c).mp ⟨n, hn⟩)
  have hpath := fun c => SyntaxTree.finishes_segmentsTo_iff (hle c)
  refine
    { once := hl.once
      owner := howner
      child := hheld
      chain := hchain
      chain_le := hle
      path := hpath
      path_endless := fun c => SyntaxTree.endless_segmentsTo
      preorder := fun id => hchild.finishes_preorderTo_iff
      preorder_endless := fun id => SyntaxTree.endless_preorderTo
      lines := hchild.finishes_nodeLines_iff
      lines_endless := SyntaxTree.endless_nodeLines
      reached := ?_
      tree := ?_ }
  · rw [hfree]
    exact ⟨fun hroot => ⟨hroot, fun p _ => hchild.nodup p, fun p _ => hchild.owner_eq p⟩,
      IsTree.root_owner⟩
  · constructor
    · intro htree
      exact ⟨fun a => (hchain a).mp (htree.chain a) a (Reaches.refl a), hfree.mpr htree.root⟩
    · rintro ⟨hacyclic, hroot⟩
      have hends : ∀ c, ∃ n, ownerAbove t.ownerOf n c = none := fun c =>
        (hchain c).mpr fun a _ => hacyclic a
      have hnone : ¬ Cyclic t.childrenOf t.root := fun hcycle =>
        hacyclic t.root (hcycle.mono hheld)
      exact ⟨hends, hfree.mp hroot, hchild.finishes_preorderTo_iff.mpr hnone,
        fun c => (hpath c).mpr (hends c), hchild.finishes_nodeLines_iff.mpr hnone⟩

end Finished

/-- **Rebuilding accepts ownership that is not a tree**, and what it accepts
is a tree exactly if no links close a cycle and none leads to the root. -/
theorem ownership_of_rebuild {g : Grammar} {xs : List Instruction} {r : ParseResult}
    (h : rebuild g xs = .ok r) : Ownership xs r.tree := by
  unfold rebuild at h
  split at h
  · next cst ast rest =>
    obtain ⟨s, root, ⟨howning, hlinking⟩, hfinish⟩ :=
      Site.run_keeps (P := fun done s => Owning s ∧ Linking done s)
        (fun done s x s' hs happly =>
          ⟨hs.1.effect (effect_of_apply happly), hs.2.apply hs.1.size happly⟩)
        [.allocate cst ast] ⟨.allocate cst ast, .allocate cst ast⟩ h
    exact (Finished.of_finish hfinish).ownership howning hlinking
  · cases h

namespace Looped

/-- Two nodes that own each other, beside the root. -/
def instructions : List Instruction := [
  .allocate 1 3,
  .rootCstNode ⟨0⟩ "",
  .popCstNode,
  .property (.ast ⟨0⟩) typeProperty (.str "A"),
  .property (.ast ⟨1⟩) typeProperty (.str "B"),
  .property (.ast ⟨2⟩) typeProperty (.str "C"),
  .linkNode (.ast ⟨1⟩) "x" (.ast ⟨2⟩),
  .linkNode (.ast ⟨2⟩) "x" (.ast ⟨1⟩),
  .returnRoot ⟨0⟩]

end Looped

/-- Nodes that own each other are accepted. The chain of owners of each comes
back to it, and its path never ends. -/
theorem ownership_of_rebuild_looped :
    ∃ r, rebuild Remains.grammar Looped.instructions = .ok r ∧
      Ownership Looped.instructions r.tree ∧
      r.tree.ownerOf ⟨1⟩ = some ⟨2⟩ ∧ r.tree.ownerOf ⟨2⟩ = some ⟨1⟩ ∧
      Endless (r.tree.segmentsTo · ⟨1⟩) ∧ ¬ OwnershipTree r.tree := by
  have hsome : (rebuild Remains.grammar Looped.instructions).toOption.isSome = true := by
    decide +kernel
  cases h : rebuild Remains.grammar Looped.instructions with
  | error e =>
    rw [h] at hsome
    cases hsome
  | ok r =>
    have hown := ownership_of_rebuild h
    have hthere : (⟨2⟩ : NodeId) ∈ linked Looped.instructions ⟨1⟩ := by decide
    have hback : (⟨1⟩ : NodeId) ∈ linked Looped.instructions ⟨2⟩ := by decide
    have hcycle : Cyclic (linked Looped.instructions) ⟨1⟩ :=
      ⟨1, ((Steps.here ⟨1⟩).down hthere).down hback⟩
    refine ⟨r, rfl, hown, (hown.owner ⟨2⟩ ⟨1⟩).mpr hback, (hown.owner ⟨1⟩ ⟨2⟩).mpr hthere,
      hown.path_endless ⟨1⟩ fun n hn => ?_, fun htree => (hown.tree.mp htree).1 ⟨1⟩ hcycle⟩
    exact (hown.chain ⟨1⟩).mp ⟨n, hn⟩ ⟨1⟩ (Reaches.refl _) hcycle

end Transfer

end Workbench
