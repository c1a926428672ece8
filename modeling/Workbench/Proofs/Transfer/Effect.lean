import Workbench.Proofs.Grammar.Numbering
import Workbench.Proofs.Transfer.Site
/-!
# What one instruction does

There are fourteen instructions and many defects to look for in each, but a
site changes in seven ways only. `Effect` lists them with all that was
checked before the change; `effect_of_apply` says that nothing else happens.
What is kept by every effect holds of the site from which the result is taken
(`Effect.run`), so an invariant of sites has seven cases, and none of them
looks at an instruction again.
-/

namespace Workbench

namespace Transfer

/-- The concrete node an instruction defines. -/
def Instruction.defined? : Instruction → Option CstId
  | .rootCstNode id _ => some id
  | .compositeCstNode id => some id
  | .leafCstNode id _ _ _ _ => some id
  | _ => none

/-- The concrete node of a handle, if it is defined. -/
def Site.cst? (s : Site) (id : CstId) : Option CstNode := s.cst[id.index]?.join

variable {table : ElementTable} {s s' : Site}

/-! ## Checks -/

theorem index_lt_of_needNode {id : NodeId} {u : Unit} (h : s.needNode id = .ok u) :
    id.index < s.ast.size := by
  rw [Site.needNode] at h
  split at h
  · assumption
  · cases h

theorem index_lt_of_needCst {id : CstId} {u : Unit} (h : s.needCst id = .ok u) :
    id.index < s.cst.size := by
  rw [Site.needCst] at h
  split at h
  · assumption
  · cases h

theorem Site.cst?_eq_some {id : CstId} {node : CstNode} :
    s.cst? id = some node ↔ s.cst[id.index]? = some (some node) := by
  rw [Site.cst?, Option.join_eq_some_iff]

theorem Site.cst?_modifyCst (s : Site) (id : CstId) (f : CstNode → CstNode) (j : CstId) :
    (s.modifyCst id f).cst? j = if id = j then (s.cst? j).map f else s.cst? j := by
  have hindex : id.index = j.index ↔ id = j := ⟨CstId.ext_index, congrArg CstId.index⟩
  rw [Site.cst?, Site.modifyCst, Array.getElem?_modify]
  simp only [hindex]
  split
  · rw [Site.cst?]
    cases s.cst[j.index]? with
    | none => rfl
    | some slot => cases slot <;> rfl
  · rfl

/-! ## Slots -/

/-- Before anything is said, nodes have no type and own nothing. -/
theorem Site.eq_of_allocate {cst ast i : ℕ} {node : AstNode}
    (h : (Site.allocate cst ast).ast[i]? = some node) : node = AstNode.ofType "" := by
  simp only [Site.allocate, Array.getElem?_replicate] at h
  split at h
  · exact (Option.some.inj h).symm
  · cases h

theorem Site.cst?_allocate (cst ast : ℕ) (id : CstId) : (Site.allocate cst ast).cst? id = none := by
  rw [Site.cst?, Site.allocate, Array.getElem?_replicate]
  split <;> rfl

/-- A node is as it was, or is the one that was changed. -/
theorem Site.modifyNode_cases {id : NodeId} {f : AstNode → AstNode} {i : ℕ} {node' : AstNode}
    (h : (s.modifyNode id f).ast[i]? = some node') :
    ∃ node, s.ast[i]? = some node ∧ (node' = node ∨ id.index = i ∧ node' = f node) := by
  rw [Site.modifyNode, Array.getElem?_modify] at h
  split at h
  · next hi =>
    obtain ⟨node, hnode, rfl⟩ := Option.map_eq_some_iff.mp h
    exact ⟨node, hnode, Or.inr ⟨hi, rfl⟩⟩
  · exact ⟨node', h, Or.inl rfl⟩

/-! ## Owners -/

/-- **Nodes that are put under their owner.** Nothing owned them before. -/
structure Adopted (parent : NodeId) (children : List NodeId) (s s' : Site) : Prop where
  /-- Nothing else changes. -/
  frame : s' = { s with ast := s'.ast, contained := s'.contained }
  size_ast : s'.ast.size = s.ast.size
  size_contained : s'.contained.size = s.contained.size
  nodup : children.Nodup
  free : ∀ c ∈ children, s.contained[c.index]? = some false
  ast : ∀ i : ℕ, s'.ast[i]? = if (⟨i⟩ : NodeId) ∈ children then
    s.ast[i]?.map fun node => { node with container := some parent } else s.ast[i]?
  contained : ∀ i : ℕ, s'.contained[i]? =
    if (⟨i⟩ : NodeId) ∈ children then some true else s.contained[i]?

namespace Adopted

variable {s₁ : Site} {parent child : NodeId} {children : List NodeId}

/-- A node is as it was but for its owner. -/
theorem cases (h : Adopted parent children s s') {i : ℕ} {node' : AstNode}
    (hnode' : s'.ast[i]? = some node') : ∃ node, s.ast[i]? = some node ∧
      (node' = node ∨ node' = { node with container := some parent }) := by
  rw [h.ast] at hnode'
  split at hnode'
  · obtain ⟨node, hnode, rfl⟩ := Option.map_eq_some_iff.mp hnode'
    exact ⟨node, hnode, Or.inr rfl⟩
  · exact ⟨node', hnode', Or.inl rfl⟩

theorem nil (parent : NodeId) (s : Site) : Adopted parent [] s s where
  frame := rfl
  size_ast := rfl
  size_contained := rfl
  nodup := List.nodup_nil
  free := nofun
  ast := fun _ => (if_neg List.not_mem_nil).symm
  contained := fun _ => (if_neg List.not_mem_nil).symm

theorem adopt (h : s.adopt parent child = .ok s') : Adopted parent [child] s s' := by
  have hindex : ∀ i : ℕ, (⟨i⟩ : NodeId) ∈ [child] ↔ child.index = i := fun i =>
    List.mem_singleton.trans ⟨fun h => h ▸ rfl, fun h => h ▸ rfl⟩
  rw [Site.adopt] at h
  split at h
  · cases h
  · cases h
  · next hfree =>
    cases h
    refine ⟨rfl, Array.size_modify, Array.size_setIfInBounds, List.nodup_singleton _, ?_, ?_, ?_⟩
    · intro c hc
      rw [List.mem_singleton.mp hc]
      exact hfree
    · intro i
      simp only [hindex, Site.modifyNode, Array.getElem?_modify]
    · intro i
      simp only [hindex, Array.getElem?_setIfInBounds, (Array.getElem?_eq_some_iff.mp hfree).1,
        if_true]

/-- One node, and then the others. -/
theorem cons (hone : Adopted parent [child] s s₁) (hrest : Adopted parent children s₁ s') :
    Adopted parent (child :: children) s s' := by
  have hnot : child ∉ children := by
    intro hmem
    have hstill := hrest.free child hmem
    rw [hone.contained, if_pos (List.mem_singleton.mpr rfl)] at hstill
    cases hstill
  constructor
  case frame =>
    rw [hrest.frame, hone.frame]
  case size_ast => exact hrest.size_ast.trans hone.size_ast
  case size_contained => exact hrest.size_contained.trans hone.size_contained
  case nodup => exact List.nodup_cons.mpr ⟨hnot, hrest.nodup⟩
  case free =>
    intro c hc
    rcases List.mem_cons.mp hc with rfl | hc
    · exact hone.free c (List.mem_singleton.mpr rfl)
    · have hother := hrest.free c hc
      rw [hone.contained, if_neg] at hother
      · exact hother
      · rintro hmem
        exact hnot (List.mem_singleton.mp hmem ▸ hc)
  case ast =>
    intro i
    rw [hrest.ast, hone.ast]
    simp only [List.mem_cons, List.not_mem_nil, or_false]
    by_cases hi : (⟨i⟩ : NodeId) = child
    · rw [if_neg (hi ▸ hnot), if_pos hi, if_pos (Or.inl hi)]
    · simp only [hi, if_false, false_or]
  case contained =>
    intro i
    rw [hrest.contained, hone.contained]
    simp only [List.mem_cons, List.not_mem_nil, or_false]
    by_cases hi : (⟨i⟩ : NodeId) = child
    · rw [if_neg (hi ▸ hnot), if_pos hi, if_pos (Or.inl hi)]
    · simp only [hi, if_false, false_or]

theorem adoptAll (h : Site.adoptAll parent children s = .ok s') : Adopted parent children s s' := by
  induction children generalizing s with
  | nil =>
    cases h
    exact nil parent _
  | cons child children ih =>
    obtain ⟨s₁, hone, hrest⟩ := bind_eq_ok h
    exact cons (adopt hone) (ih hrest)

end Adopted

/-! ## Concrete nodes -/

/-- **A concrete node that is defined** below another one, or as the root. -/
structure Defined (id : CstId) (kind : CstKind) (parent : Option CstId) (s s' : Site) : Prop where
  /-- Nothing else changes. -/
  frame : s' = { s with cst := s'.cst }
  size : s'.cst.size = s.cst.size
  lt : id.index < s.cst.size
  fresh : s.cst? id = none
  cst? : ∀ j, s'.cst? j =
    (if j = id then some ⟨kind, parent, s.rootCst.getD id, none, none, false⟩ else s.cst? j).map
      fun node => if parent = some j then { node with kind := node.kind.mapChildren (·.push id) }
        else node

theorem Defined.defineCst {id : CstId} {kind : CstKind} {parent : Option CstId}
    (h : s.defineCst id kind parent = .ok s') : Defined id kind parent s s' := by
  rw [Site.defineCst] at h
  split at h
  · cases h
  · cases h
  · next hfresh =>
    have hlt : id.index < s.cst.size := (Array.getElem?_eq_some_iff.mp hfresh).1
    -- the slot is filled before the parent lists the node
    have hset : ∀ (new : CstNode) (j : CstId),
        (s.cst.setIfInBounds id.index (some new))[j.index]?.join =
          if j = id then some new else s.cst? j := by
      intro new j
      rw [Array.getElem?_setIfInBounds, Site.cst?]
      by_cases hj : j = id
      · rw [if_pos (congrArg CstId.index hj.symm), if_pos hj, if_pos hlt]
        rfl
      · rw [if_neg fun h => hj (CstId.ext_index h.symm), if_neg hj]
    have hnone : s.cst? id = none := by rw [Site.cst?, hfresh]; rfl
    cases parent with
    | none =>
      cases h
      refine ⟨rfl, Array.size_setIfInBounds, hlt, hnone, fun j => ?_⟩
      rw [Site.cst?, hset]
      simp only [reduceCtorEq, if_false]
      exact Option.map_id'.symm
    | some parent =>
      cases h
      refine ⟨rfl, ?_, hlt, hnone, fun j => ?_⟩
      · rw [Site.modifyCst, Array.size_modify, Array.size_setIfInBounds]
      · rw [Site.cst?_modifyCst, Site.cst?, hset]
        simp only [Option.some.injEq]
        split
        · rfl
        · exact Option.map_id'.symm

/-! ## References -/

/-- What is right about a new reference of a node. -/
def NewReference (s : Site) (node : NodeId) (r : PendingReference) : Prop :=
  r.container = node ∧ ∀ c ∈ r.sent.refNode, c.index < s.cst.size

theorem addReference_ok {node : NodeId} {property : String} {index : Option ℕ}
    {sent : SentReference} {id : RefId}
    (h : s.addReference node property index sent = .ok (id, s')) :
    node.index < s.ast.size ∧ NewReference s node ⟨node, property, index, sent⟩ ∧
      id = ⟨s.references.size⟩ ∧
      s' = { s with references := s.references.push ⟨node, property, index, sent⟩ } := by
  rw [Site.addReference] at h
  obtain ⟨_, hneed, h⟩ := bind_eq_ok h
  have hlt := index_lt_of_needNode hneed
  cases hnode : sent.refNode with
  | none =>
    rw [hnode] at h
    cases h
    refine ⟨hlt, ⟨rfl, fun c hc => ?_⟩, rfl, rfl⟩
    rw [hnode] at hc
    cases hc
  | some cst =>
    rw [hnode] at h
    obtain ⟨_, hcst, h⟩ := bind_eq_ok h
    cases h
    refine ⟨hlt, ⟨rfl, fun c hc => ?_⟩, rfl, rfl⟩
    rw [hnode, Option.mem_some_iff] at hc
    exact hc ▸ index_lt_of_needCst hcst

theorem addReferences_ok {node : NodeId} {property : String} {refs : List SentReference}
    {index : ℕ} {ids : List RefId}
    (h : Site.addReferences node property index refs s = .ok (ids, s')) :
    ∃ news : List PendingReference, (∀ r ∈ news, NewReference s node r) ∧
      (∀ id ∈ ids, id.index < s.references.size + news.length) ∧
      s' = { s with references := s.references ++ news.toArray } := by
  induction refs generalizing s index ids with
  | nil =>
    cases h
    exact ⟨[], nofun, nofun, by simp⟩
  | cons sent refs ih =>
    rw [Site.addReferences] at h
    obtain ⟨⟨id, s₁⟩, hone, h⟩ := bind_eq_ok h
    obtain ⟨⟨ids', s₂⟩, hrest, h⟩ := bind_eq_ok h
    cases h
    obtain ⟨-, hnew, rfl, rfl⟩ := addReference_ok hone
    obtain ⟨news, hnews, hids, rfl⟩ := ih hrest
    refine ⟨⟨node, property, some index, sent⟩ :: news, ?_, ?_, ?_⟩
    · rintro r hr
      rcases List.mem_cons.mp hr with rfl | hr
      · exact hnew
      · exact hnews r hr
    · intro id hid
      rw [List.length_cons]
      rcases List.mem_cons.mp hid with rfl | hid
      · show s.references.size < _
        omega
      · have hlt := hids id hid
        rw [Array.size_push] at hlt
        omega
    · simp

/-! ## Effects -/

/-- **What an instruction does.** -/
inductive Effect (table : ElementTable) (s : Site) : Instruction → Site → Prop
  /-- Errors are noted, or open nodes closed. -/
  | quiet {x : Instruction} {s' : Site} (hx : x.defined? = none)
      (hframe : s' = { s with
        stack := s'.stack, lexerErrors := s'.lexerErrors, parserErrors := s'.parserErrors })
      (hstack : ∀ id ∈ s'.stack, id ∈ s.stack) : Effect table s x s'
  /-- Something is noted about a node: where it is owned, or what it is made
  of. -/
  | note {x : Instruction} {id : NodeId} {f : AstNode → AstNode} (hx : x.defined? = none)
      (htype : ∀ node, (f node).typeName = node.typeName)
      (hcontainer : ∀ node, (f node).container = node.container)
      (hproperties : ∀ node, (f node).properties = node.properties)
      (hcst : ∀ node, ∀ c ∈ (f node).cstNode, c ∈ node.cstNode ∨ c.index < s.cst.size)
      (hindex : ∀ node, ∀ i ∈ (f node).containerIndex, i ∈ node.containerIndex ∨
        x = .property (.ast id) containerIndexProperty (.int (Int.ofNat i))) :
      Effect table s x (s.modifyNode id f)
  /-- A node is given a type. -/
  | type {id : NodeId} {typeName : String} (hlt : id.index < s.ast.size) :
      Effect table s (.property (.ast id) typeProperty (.str typeName))
        { s.modifyNode id fun node => { node with typeName } with
          typed := s.typed.setIfInBounds id.index true }
  /-- A property is set. It owns nodes that nothing owned before, and holds
  references that are there. -/
  | put {x : Instruction} {node : NodeId} {name : String} {value : Property}
      {news : List PendingReference} {s₁ : Site} (hx : x.defined? = none)
      (hlt : node.index < s.ast.size) (hname : Sendable name value)
      (hnews : ∀ r ∈ news, NewReference s node r)
      (hrefs : ∀ r ∈ value.refs, r.index < s.references.size + news.length)
      (hadopt : Adopted node value.children
        { s with references := s.references ++ news.toArray } s₁) :
      Effect table s x (s₁.setProperty node name value)
  /-- Something is noted about a concrete node. -/
  | noteCst {x : Instruction} {id : CstId} {f : CstNode → CstNode} (hx : x.defined? = none)
      (hkind : ∀ node, (f node).kind = node.kind)
      (hcontainer : ∀ node, (f node).container = node.container)
      (hroot : ∀ node, (f node).root = node.root)
      (hast : ∀ node, ∀ a ∈ (f node).astNode, a ∈ node.astNode ∨ a.index < s.ast.size)
      (hsource : ∀ node, ∀ e ∈ (f node).source, e ∈ node.source ∨
        e.index < table.entries.size) :
      Effect table s x (s.modifyCst id f)
  /-- The concrete root is defined. -/
  | root {id : CstId} {text : String} {s₁ : Site} (hnone : s.rootCst = none)
      (hstack : s.stack = []) (hdef : Defined id (.root text #[]) none s s₁) :
      Effect table s (.rootCstNode id text) { s₁ with rootCst := some id, stack := [id] }
  /-- A concrete node is defined in the innermost open one. -/
  | below {x : Instruction} {id parent : CstId} {kind : CstKind} {outer stack : List CstId}
      {s₁ : Site} (hx : x.defined? = some id) (hparent : s.stack = parent :: outer)
      (hchildren : kind.children = #[]) (hroot : kind.isRoot = false)
      (hdef : Defined id kind (some parent) s s₁)
      (hstack : stack = s.stack ∨ kind.isLeaf = false ∧ stack = id :: s.stack) :
      Effect table s x { s₁ with stack }

namespace Effect

/-- A property that holds no references. -/
theorem put_owned {s₁ : Site} {x : Instruction} {node : NodeId} {name : String} {value : Property}
    (hx : x.defined? = none) (hlt : node.index < s.ast.size) (hname : Sendable name value)
    (hrefs : value.refs = []) (hadopt : Adopted node value.children s s₁) :
    Effect table s x (s₁.setProperty node name value) := by
  have hnews : ∀ r ∈ ([] : List PendingReference), NewReference s node r := nofun
  have hsame :
      { s with references := s.references ++ ([] : List PendingReference).toArray } = s := by
    simp
  exact .put hx hlt hname hnews (by rw [hrefs]; nofun) (by rw [hsame]; exact hadopt)

/-- A property that owns and holds nothing. -/
theorem put_plain {x : Instruction} {node : NodeId} {name : String} {value : Property}
    (hx : x.defined? = none) (hlt : node.index < s.ast.size) (hname : Sendable name value)
    (hchildren : value.children = []) (hrefs : value.refs = []) :
    Effect table s x (s.setProperty node name value) := by
  refine .put_owned hx hlt hname hrefs ?_
  rw [hchildren]
  exact .nil node s

theorem setCstProperty {x : Instruction} (hx : x.defined? = none) {id : CstId} {property : String}
    {value : Scalar} (h : s.setCstProperty table id property value = .ok s') :
    Effect table s x s' := by
  unfold Site.setCstProperty at h
  obtain ⟨_, -, h⟩ := bind_eq_ok h
  split at h
  · split at h
    · cases h
      exact .noteCst hx (fun _ => rfl) (fun _ => rfl) (fun _ => rfl) (fun _ _ ha => Or.inl ha)
        (fun _ _ he => Or.inl he)
    · cases h
  · split at h
    · split at h
      · next raw =>
        split at h
        · next source hdecode =>
          cases h
          exact .noteCst hx (fun _ => rfl) (fun _ => rfl) (fun _ => rfl) (fun _ _ ha => Or.inl ha)
            (fun _ e he => Or.inr (ElementTable.index_lt_of_decode hdecode e he))
        · cases h
      · cases h
    · cases h

/-- Scalars with the names of built-in properties do not become properties. -/
theorem setNodeProperty {id : NodeId} {property : String} {value : Scalar}
    (h : s.setNodeProperty id property value = .ok s') :
    Effect table s (.property (.ast id) property value) s' := by
  unfold Site.setNodeProperty at h
  obtain ⟨_, hneed, h⟩ := bind_eq_ok h
  split at h
  · next hproperty =>
    subst hproperty
    split at h
    · cases h
      exact .type (index_lt_of_needNode hneed)
    · cases h
  · next htype =>
    split at h
    · split at h
      · cases h
        exact .note rfl (fun _ => rfl) (fun _ => rfl) (fun _ => rfl) (fun _ _ hc => Or.inl hc)
          (fun _ _ hi => Or.inl hi)
      · cases h
    · next hcontainer =>
      split at h
      · next hproperty =>
        subst hproperty
        split at h
        · cases h
          refine .note rfl (fun _ => rfl) (fun _ => rfl) (fun _ => rfl) (fun _ _ hc => Or.inl hc)
            (fun _ i hi => Or.inr ?_)
          cases hi
          rfl
        · cases h
      · next hindex =>
        cases h
        refine put_plain rfl (index_lt_of_needNode hneed) ?_ rfl rfl
        simp only [Sendable, List.mem_cons, List.not_mem_nil, or_false, not_or]
        exact ⟨htype, hcontainer, hindex⟩

theorem link {source target : Target} {property : String}
    (h : s.link source property target = .ok s') :
    Effect table s (.linkNode source property target) s' := by
  rw [Site.link.eq_def] at h
  split at h
  · split at h
    · obtain ⟨_, hneed, h⟩ := bind_eq_ok h
      obtain ⟨_, -, h⟩ := bind_eq_ok h
      cases h
      refine .noteCst rfl (fun _ => rfl) (fun _ => rfl) (fun _ => rfl) (fun _ a ha => Or.inr ?_)
        (fun _ _ he => Or.inl he)
      cases ha
      exact index_lt_of_needNode hneed
    · cases h
  · split at h
    · obtain ⟨_, hneed, h⟩ := bind_eq_ok h
      obtain ⟨_, -, h⟩ := bind_eq_ok h
      cases h
      refine .note rfl (fun _ => rfl) (fun _ => rfl) (fun _ => rfl) (fun _ c hc => Or.inr ?_)
        (fun _ _ hi => Or.inl hi)
      cases hc
      exact index_lt_of_needCst hneed
    · cases h
  · split at h
    · cases h
    · next hname =>
      obtain ⟨_, hneed, h⟩ := bind_eq_ok h
      obtain ⟨s₁, hadopt, h⟩ := bind_eq_ok h
      cases h
      exact .put_owned rfl (index_lt_of_needNode hneed) hname rfl (.adopt hadopt)
  · cases h

end Effect

theorem openParent_ok {place : String} {parent : CstId} (h : s.openParent place = .ok parent) :
    ∃ outer, s.stack = parent :: outer := by
  rw [Site.openParent] at h
  split at h
  · next outer hstack =>
    cases h
    exact ⟨outer, hstack⟩
  · cases h

/-- **An instruction that succeeds has one of the effects.** -/
theorem effect_of_apply {x : Instruction} (h : s.apply table x = .ok s') :
    Effect table s x s' := by
  cases x with
  | allocate cst ast => cases h
  | property target property value =>
    cases target with
    | cst id => exact .setCstProperty rfl h
    | ast id => exact .setNodeProperty h
  | propertyArray node property values =>
    obtain ⟨_, hneed, h⟩ := bind_eq_ok h
    cases h
    exact .put_plain rfl (index_lt_of_needNode hneed) trivial rfl rfl
  | reference node property sent =>
    obtain ⟨⟨id, s₁⟩, hadd, h⟩ := bind_eq_ok h
    cases h
    obtain ⟨hlt, hnew, rfl, rfl⟩ := addReference_ok hadd
    have hnews : ∀ r ∈ [PendingReference.mk node property none sent], NewReference s node r := by
      intro r hr
      rw [List.mem_singleton.mp hr]
      exact hnew
    refine .put rfl hlt trivial hnews (fun r hr => ?_) (.nil node _)
    rw [List.mem_singleton.mp hr]
    exact Nat.lt_succ_self _
  | referenceArray node property refs =>
    obtain ⟨⟨ids, s₁⟩, hadd, h⟩ := bind_eq_ok h
    obtain ⟨_, hneed, h⟩ := bind_eq_ok h
    cases h
    obtain ⟨news, hnews, hids, rfl⟩ := addReferences_ok hadd
    exact .put rfl (index_lt_of_needNode hneed) trivial hnews hids (.nil node _)
  | linkNode source property target => exact .link h
  | linkNodeArray node property children =>
    obtain ⟨_, hneed, h⟩ := bind_eq_ok h
    obtain ⟨s₁, hadopt, h⟩ := bind_eq_ok h
    cases h
    exact .put_owned rfl (index_lt_of_needNode hneed) trivial rfl (.adoptAll hadopt)
  | empty node property =>
    obtain ⟨_, hneed, h⟩ := bind_eq_ok h
    cases h
    exact .put_plain rfl (index_lt_of_needNode hneed) trivial rfl rfl
  | rootCstNode id text =>
    rw [Site.apply] at h
    split at h
    · cases h
    · next hopen =>
      obtain ⟨s₁, hdefine, h⟩ := bind_eq_ok h
      cases h
      simp only [Bool.or_eq_true, not_or, Bool.not_eq_true, Option.isSome_eq_false_iff,
        Option.isNone_iff_eq_none, Bool.not_eq_false', List.isEmpty_iff] at hopen
      exact .root hopen.1 hopen.2 (.defineCst hdefine)
  | compositeCstNode id =>
    obtain ⟨parent, hparent, h⟩ := bind_eq_ok h
    obtain ⟨s₁, hdefine, h⟩ := bind_eq_ok h
    cases h
    have hdef := Defined.defineCst hdefine
    obtain ⟨outer, hstack⟩ := openParent_ok hparent
    refine .below rfl hstack rfl rfl hdef (Or.inr ⟨rfl, ?_⟩)
    rw [hdef.frame]
  | leafCstNode id tokenType offset length range =>
    obtain ⟨parent, hparent, hdefine⟩ := bind_eq_ok h
    have hdef := Defined.defineCst hdefine
    obtain ⟨outer, hstack⟩ := openParent_ok hparent
    -- a leaf is not left open
    have hsame : s' = { s' with stack := s.stack } := by rw [hdef.frame]
    rw [hsame]
    exact .below rfl hstack rfl rfl hdef (Or.inl rfl)
  | popCstNode =>
    rw [Site.apply] at h
    split at h
    · next id stack hstack =>
      cases h
      exact .quiet rfl rfl fun c hc => hstack ▸ List.mem_cons_of_mem id hc
    · cases h
  | error kind e =>
    cases kind with
    | lexer =>
      cases h
      exact .quiet rfl rfl fun _ hc => hc
    | parser =>
      cases h
      exact .quiet rfl rfl fun _ hc => hc
  | returnRoot root =>
    cases h
    exact .quiet rfl rfl fun _ hc => hc

/-- **What every instruction keeps holds at the end.** `P` may also speak of
the instructions that were carried out. -/
theorem Site.run_keeps {P : List Instruction → Site → Prop}
    (hstep : ∀ done s x s', P done s → s.apply table x = .ok s' → P (done ++ [x]) s')
    {xs : List Instruction} (done : List Instruction) (hs : P done s) {types : TypeGraph}
    {r : ParseResult}
    (hrun : Site.run table types xs s = .ok r) :
    ∃ s' root, P (done ++ xs) s' ∧ s'.finish types root = .ok r := by
  induction xs generalizing s done with
  | nil => cases hrun
  | cons x xs ih =>
    rw [List.append_cons]
    cases x with
    | returnRoot root =>
      cases xs with
      | nil =>
        rw [List.append_nil]
        exact ⟨s, root, hstep done s _ s hs rfl, hrun⟩
      | cons trailing rest => cases hrun
    | _ =>
      obtain ⟨s₁, happly, hrun⟩ := bind_eq_ok hrun
      exact ih _ (hstep done s _ s₁ hs happly) hrun

/-- **What every effect keeps holds at the end.** -/
theorem Effect.run {P : List Instruction → Site → Prop}
    (hstep : ∀ done s x s', P done s → Effect table s x s' → P (done ++ [x]) s')
    {xs : List Instruction} (done : List Instruction) (hs : P done s) {types : TypeGraph}
    {r : ParseResult}
    (hrun : Site.run table types xs s = .ok r) :
    ∃ s' root, P (done ++ xs) s' ∧ s'.finish types root = .ok r :=
  Site.run_keeps (fun done s x s' hs happly => hstep done s x s' hs (effect_of_apply happly))
    done hs hrun

end Transfer

end Workbench
