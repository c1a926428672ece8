import Workbench.Proofs.OrderedMap
import Workbench.Proofs.Transfer.Effect
/-!
# Ownership

Nodes are put under their owners one at a time, and each is put once: a node
that is owned is not given away again, not even after the property that held
it was set to something else. So all properties together hold a node at most
once, and it names the node that holds it.
-/

namespace Workbench

namespace Transfer

variable {table : ElementTable} {s s' : Site}

/-- The node that a node names as its owner. -/
def Site.ownerOf (s : Site) (id : NodeId) : Option NodeId :=
  s.ast[id.index]?.bind AstNode.container

theorem Site.ownerOf_modifyNode (s : Site) (id : NodeId) {f : AstNode → AstNode}
    (hf : ∀ node, (f node).container = node.container) :
    (s.modifyNode id f).ownerOf = s.ownerOf := by
  funext c
  rw [Site.ownerOf, Site.ownerOf, Site.modifyNode, Array.getElem?_modify]
  split
  · cases s.ast[c.index]? with
    | none => rfl
    | some node => exact hf node
  · rfl

theorem Site.ownerOf_setProperty (s : Site) (id : NodeId) (name : String) (value : Property) :
    (s.setProperty id name value).ownerOf = s.ownerOf :=
  s.ownerOf_modifyNode id fun _ => rfl

/-- Nodes that are put under their owner name it. -/
theorem Adopted.ownerOf {parent : NodeId} {children : List NodeId}
    (h : Adopted parent children s s') (hsize : s.contained.size = s.ast.size) (c : NodeId) :
    s'.ownerOf c = if c ∈ children then some parent else s.ownerOf c := by
  rw [Site.ownerOf, h.ast]
  split
  · next hc =>
    have hin : c.index < s.ast.size :=
      hsize ▸ (Array.getElem?_eq_some_iff.mp (h.free c hc)).1
    rw [Array.getElem?_eq_getElem hin]
    rfl
  · rfl

/-- **Nothing is owned twice.** A node that lost its place to another one
keeps its owner, and is not owned again. -/
structure Owning (s : Site) : Prop where
  size : s.contained.size = s.ast.size
  owner_lt : ∀ id p, s.ownerOf id = some p → p.index < s.ast.size
  /-- What a node owns names it. -/
  held : ∀ (i : ℕ) node, s.ast[i]? = some node → ∀ c ∈ node.children,
    s.contained[c.index]? = some true ∧ s.ownerOf c = some ⟨i⟩
  nodup : ∀ (i : ℕ) node, s.ast[i]? = some node → node.children.Nodup

namespace Owning

/-- Only owners and what they own counts. -/
theorem congr (h : Owning s) (hsize : s'.ast.size = s.ast.size)
    (hcontained : s'.contained = s.contained)
    (hnodes : ∀ (i : ℕ) node', s'.ast[i]? = some node' → ∃ node, s.ast[i]? = some node ∧
      node'.container = node.container ∧ node'.children = node.children) : Owning s' := by
  have howner : s'.ownerOf = s.ownerOf := by
    funext id
    rw [Site.ownerOf, Site.ownerOf]
    cases hnode : s'.ast[id.index]? with
    | none =>
      rw [Array.getElem?_eq_none_iff, hsize, ← Array.getElem?_eq_none_iff] at hnode
      rw [hnode]
    | some node' =>
      obtain ⟨node, hold, hcontainer, -⟩ := hnodes id.index node' hnode
      rw [hold, Option.bind_some, Option.bind_some, hcontainer]
  refine ⟨by rw [hcontained, hsize, h.size], ?_, ?_, ?_⟩
  · rw [howner, hsize]
    exact h.owner_lt
  · intro i node' hnode' c hc
    obtain ⟨node, hnode, -, hchildren⟩ := hnodes i node' hnode'
    rw [hcontained, howner]
    exact h.held i node hnode c (hchildren ▸ hc)
  · intro i node' hnode'
    obtain ⟨node, hnode, -, hchildren⟩ := hnodes i node' hnode'
    rw [hchildren]
    exact h.nodup i node hnode

theorem allocate (cst ast : ℕ) : Owning (Site.allocate cst ast) := by
  refine ⟨by simp [Site.allocate], ?_, ?_, ?_⟩
  · intro id p hp
    obtain ⟨node, hnode, hcontainer⟩ := Option.bind_eq_some_iff.mp hp
    rw [Site.eq_of_allocate hnode] at hcontainer
    cases hcontainer
  · intro i node hnode c hc
    rw [Site.eq_of_allocate hnode] at hc
    cases hc
  · intro i node hnode
    rw [Site.eq_of_allocate hnode]
    exact List.nodup_nil

variable {parent : NodeId} {children : List NodeId}

/-- Nodes that nothing owned get an owner, which does not hold them yet. -/
theorem adopted (h : Owning s) (hlt : parent.index < s.ast.size)
    (ha : Adopted parent children s s') :
    Owning s' ∧ ∀ c ∈ children, s'.contained[c.index]? = some true ∧
      s'.ownerOf c = some parent ∧
      ∀ (i : ℕ) node, s'.ast[i]? = some node → c ∉ node.children := by
  have howner := ha.ownerOf h.size
  have hnodes : ∀ (i : ℕ) node', s'.ast[i]? = some node' → ∃ node, s.ast[i]? = some node ∧
      node'.children = node.children := by
    intro i node' hnode'
    obtain ⟨node, hnode, rfl | rfl⟩ := ha.cases hnode'
    · exact ⟨node', hnode, rfl⟩
    · exact ⟨node, hnode, rfl⟩
  -- what is owned already is not among them
  have hother : ∀ (i : ℕ) node, s.ast[i]? = some node → ∀ c ∈ node.children, c ∉ children := by
    intro i node hnode c hc hmem
    have hfree := ha.free c hmem
    rw [(h.held i node hnode c hc).1] at hfree
    cases hfree
  refine ⟨⟨?_, ?_, ?_, ?_⟩, ?_⟩
  · rw [ha.size_contained, ha.size_ast, h.size]
  · intro id p hp
    rw [howner] at hp
    rw [ha.size_ast]
    split at hp
    · cases hp
      exact hlt
    · exact h.owner_lt id p hp
  · intro i node' hnode' c hc
    obtain ⟨node, hnode, hchildren⟩ := hnodes i node' hnode'
    rw [hchildren] at hc
    have hnot := hother i node hnode c hc
    rw [ha.contained, howner, if_neg hnot, if_neg hnot]
    exact h.held i node hnode c hc
  · intro i node' hnode'
    obtain ⟨node, hnode, hchildren⟩ := hnodes i node' hnode'
    rw [hchildren]
    exact h.nodup i node hnode
  · intro c hc
    refine ⟨by rw [ha.contained, if_pos hc], by rw [howner, if_pos hc], ?_⟩
    intro i node' hnode' hmem
    obtain ⟨node, hnode, hchildren⟩ := hnodes i node' hnode'
    exact hother i node hnode c (hchildren ▸ hmem) hc

/-- **A property is set** that owns nodes which its node does not hold yet. -/
theorem setProperty (h : Owning s) {id : NodeId} {name : String} {value : Property}
    (hnodup : value.children.Nodup)
    (hnew : ∀ c ∈ value.children, s.contained[c.index]? = some true ∧ s.ownerOf c = some id ∧
      ∀ (i : ℕ) node, s.ast[i]? = some node → c ∉ node.children) :
    Owning (s.setProperty id name value) := by
  have howner := s.ownerOf_setProperty id name value
  -- the nodes of the property come in addition to what is left of the others
  have hnodes : ∀ (i : ℕ) node', (s.setProperty id name value).ast[i]? = some node' →
      ∃ node, s.ast[i]? = some node ∧ (node'.children = node.children ∨ id.index = i ∧
        ∃ rest, rest.Sublist node.children ∧ node'.children.Perm (rest ++ value.children)) := by
    intro i node' hnode'
    obtain ⟨node, hnode, rfl | ⟨hi, rfl⟩⟩ := Site.modifyNode_cases hnode'
    · exact ⟨node', hnode, Or.inl rfl⟩
    · exact ⟨node, hnode,
        Or.inr ⟨hi, node.properties.flatMap_values_insert_perm name value Property.children⟩⟩
  constructor
  case size =>
    rw [Site.setProperty, Site.modifyNode, Array.size_modify]
    exact h.size
  case owner_lt =>
    rw [howner, Site.setProperty, Site.modifyNode, Array.size_modify]
    exact h.owner_lt
  case held =>
    intro i node' hnode' c hc
    show s.contained[c.index]? = some true ∧ _
    rw [howner]
    obtain ⟨node, hnode, hchildren | ⟨hi, rest, hrest, hperm⟩⟩ := hnodes i node' hnode'
    · exact h.held i node hnode c (hchildren ▸ hc)
    · rcases List.mem_append.mp (hperm.mem_iff.mp hc) with hc | hc
      · exact h.held i node hnode c (hrest.subset hc)
      · obtain ⟨hflag, hown, -⟩ := hnew c hc
        exact ⟨hflag, hown.trans (congrArg some (NodeId.ext_index hi))⟩
  case nodup =>
    intro i node' hnode'
    obtain ⟨node, hnode, hchildren | ⟨-, rest, hrest, hperm⟩⟩ := hnodes i node' hnode'
    · rw [hchildren]
      exact h.nodup i node hnode
    · rw [hperm.nodup_iff]
      refine ((h.nodup i node hnode).sublist hrest).append hnodup ?_
      intro c hc hmem
      exact (hnew c hmem).2.2 i node hnode (hrest.subset hc)

/-- **No instruction makes a node owned twice.** -/
theorem effect (h : Owning s) {x : Instruction} (he : Effect table s x s') : Owning s' := by
  have hsame : ∀ s' : Site, s'.ast = s.ast → s'.contained = s.contained → Owning s' := by
    intro s' hast hcontained
    refine h.congr (by rw [hast]) hcontained fun i node hnode => ?_
    exact ⟨node, hast ▸ hnode, rfl, rfl⟩
  cases he with
  | quiet hx hframe hstack => exact hsame s' (by rw [hframe]) (by rw [hframe])
  | @note x id f hx htype hcontainer hproperties hcst =>
    refine h.congr Array.size_modify rfl fun i node' hnode' => ?_
    obtain ⟨node, hnode, rfl | ⟨-, rfl⟩⟩ := Site.modifyNode_cases hnode'
    · exact ⟨node', hnode, rfl, rfl⟩
    · exact ⟨node, hnode, hcontainer node, by rw [AstNode.children, hproperties]; rfl⟩
  | @type id typeName hlt =>
    refine h.congr Array.size_modify rfl fun i node' hnode' => ?_
    obtain ⟨node, hnode, rfl | ⟨-, rfl⟩⟩ := Site.modifyNode_cases hnode'
    · exact ⟨node', hnode, rfl, rfl⟩
    · exact ⟨node, hnode, rfl, rfl⟩
  | @put x node name value news s₁ hx hlt hname hnews hrefs hadopt =>
    have hbefore := hsame { s with references := s.references ++ news.toArray } rfl rfl
    obtain ⟨hafter, hnew⟩ := hbefore.adopted hlt hadopt
    exact hafter.setProperty hadopt.nodup hnew
  | noteCst hx hkind hcontainer hroot hast hsource => exact hsame _ rfl rfl
  | root hnone hstack hdef =>
    exact hsame _ (by rw [hdef.frame]) (by rw [hdef.frame])
  | below hx hparent hchildren hroot hdef hstack =>
    exact hsame _ (by rw [hdef.frame]) (by rw [hdef.frame])

end Owning

end Transfer

end Workbench
