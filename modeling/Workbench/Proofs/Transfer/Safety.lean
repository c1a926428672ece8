import Workbench.Proofs.OrderedMap
import Workbench.Proofs.Transfer.Effect
import Workbench.Proofs.Tree.Render
/-!
# What instructions can rebuild

Whatever instructions a receiver is given, some things hold of what it
rebuilds: concrete nodes point to nodes of the arena, no property has a name
that is taken, references have the targets of their places, and a node has
the place that was sent. `Sane` says so of a site, and no effect of an
instruction breaks it. A result that is rebuilt from its own instructions has
these properties then, and so is `Portable`.
-/

namespace Workbench

namespace Transfer

/-- **What holds of every site**, after some instructions. -/
structure Sane (done : List Instruction) (s : Site) : Prop where
  /-- Concrete nodes point to nodes of the arena. -/
  links : ∀ (i : ℕ) node, s.cst[i]? = some (some node) → ∀ a ∈ node.astNode, a.index < s.ast.size
  /-- The names of properties are free. -/
  names : ∀ (i : ℕ) node, s.ast[i]? = some node →
    ∀ name p, (name, p) ∈ node.properties.entries → Sendable name p
  /-- The places of nodes were sent. -/
  indices : ∀ (i : ℕ) node, s.ast[i]? = some node → ∀ index ∈ node.containerIndex,
    .property (.ast ⟨i⟩) containerIndexProperty (.int (Int.ofNat index)) ∈ done

namespace Sane

variable {s s' : Site} {table : ElementTable} {done : List Instruction} {x : Instruction}

theorem allocate (cst ast : ℕ) : Sane [] (Site.allocate cst ast) where
  links := by
    intro i node hnode
    have hlook : (Site.allocate cst ast).cst? ⟨i⟩ = some node := Site.cst?_eq_some.mpr hnode
    rw [Site.cst?_allocate] at hlook
    cases hlook
  names := by
    intro i node hnode name p hp
    rw [Site.eq_of_allocate hnode] at hp
    cases hp
  indices := by
    intro i node hnode index hindex
    rw [Site.eq_of_allocate hnode] at hindex
    cases hindex

/-- More instructions take nothing back. -/
theorem more (h : Sane done s) (x : Instruction) : Sane (done ++ [x]) s :=
  ⟨h.links, h.names, fun i node hnode index hindex =>
    List.mem_append_left _ (h.indices i node hnode index hindex)⟩

/-- The properties of a node may change into others with free names, and its
place into one that was sent. -/
theorem modifyNode (h : Sane done s) (id : NodeId) {f : AstNode → AstNode}
    (hf : ∀ node name p, (name, p) ∈ (f node).properties.entries →
      (name, p) ∈ node.properties.entries ∨ Sendable name p)
    (hindex : ∀ node, ∀ index ∈ (f node).containerIndex, index ∈ node.containerIndex ∨
      .property (.ast id) containerIndexProperty (.int (Int.ofNat index)) ∈ done) :
    Sane done (s.modifyNode id f) where
  links := by
    intro i node hnode a ha
    simp only [Site.modifyNode, Array.size_modify]
    exact h.links i node hnode a ha
  names := by
    intro i node hnode name p hp
    obtain ⟨old, hold, rfl | ⟨-, rfl⟩⟩ := Site.modifyNode_cases hnode
    · exact h.names i node hold name p hp
    · rcases hf old name p hp with hmem | hsend
      · exact h.names i old hold name p hmem
      · exact hsend
  indices := by
    intro i node hnode index hmem
    obtain ⟨old, hold, rfl | ⟨rfl, rfl⟩⟩ := Site.modifyNode_cases hnode
    · exact h.indices i node hold index hmem
    · exact (hindex old index hmem).elim (h.indices _ old hold index) fun hsent => hsent

theorem adopted (h : Sane done s) {parent : NodeId} {children : List NodeId}
    (ha : Adopted parent children s s') : Sane done s' where
  links := by
    have hcst : s'.cst = s.cst := by rw [ha.frame]
    rw [hcst, ha.size_ast]
    exact h.links
  names := by
    intro i node hnode
    obtain ⟨old, hold, rfl | rfl⟩ := ha.cases hnode
    · exact h.names i node hold
    · exact h.names i old hold
  indices := by
    intro i node hnode
    obtain ⟨old, hold, rfl | rfl⟩ := ha.cases hnode
    · exact h.indices i node hold
    · exact h.indices i old hold

theorem defined (h : Sane done s) {id : CstId} {kind : CstKind} {parent : Option CstId}
    (hd : Defined id kind parent s s') : Sane done s' where
  links := by
    intro i node hnode a ha
    have hast : s'.ast = s.ast := by rw [hd.frame]
    have hlook := hd.cst? ⟨i⟩
    rw [Site.cst?_eq_some.mpr hnode, eq_comm, Option.map_eq_some_iff] at hlook
    obtain ⟨old, hold, rfl⟩ := hlook
    have hlink : a ∈ old.astNode := by
      split at ha <;> exact ha
    split at hold
    · cases hold
      cases hlink
    · rw [hast]
      exact h.links i old (Site.cst?_eq_some.mp hold) a hlink
  names := by
    rw [hd.frame]
    exact h.names
  indices := by
    rw [hd.frame]
    exact h.indices

/-- **No instruction breaks it.** -/
theorem effect (h : Sane done s) (he : Effect table s x s') : Sane (done ++ [x]) s' := by
  have h := h.more x
  cases he with
  | quiet hx hframe hstack =>
    rw [hframe]
    exact ⟨h.links, h.names, h.indices⟩
  | note hx htype hcontainer hproperties hcst hindex =>
    refine h.modifyNode _ (fun node name p hp => Or.inl (hproperties node ▸ hp)) ?_
    intro node index hmem
    refine (hindex node index hmem).imp_right fun heq => ?_
    rw [← heq]
    exact List.mem_append_right _ (List.mem_singleton_self _)
  | @type id typeName hlt =>
    have hnode := h.modifyNode id (f := fun node => { node with typeName })
      (fun node name p hp => Or.inl hp) (fun node index hmem => Or.inl hmem)
    exact ⟨hnode.links, hnode.names, hnode.indices⟩
  | @put x node name value news s₁ hx hlt hname hnews hrefs hadopt =>
    have hrefs : Sane _ { s with references := s.references ++ news.toArray } :=
      ⟨h.links, h.names, h.indices⟩
    refine (hrefs.adopted hadopt).modifyNode node (fun node name' p hp => ?_)
      (fun node index hmem => Or.inl hmem)
    rcases OrderedMap.mem_insert hp with heq | hold
    · cases heq
      exact Or.inr hname
    · exact Or.inl hold
  | @noteCst x id f hx hkind hcontainer hroot hast hsource =>
    refine ⟨fun i node hnode a ha => ?_, h.names, h.indices⟩
    have hlook : (s.modifyCst id f).cst? ⟨i⟩ = some node := Site.cst?_eq_some.mpr hnode
    rw [Site.cst?_modifyCst] at hlook
    split at hlook
    · obtain ⟨old, hold, rfl⟩ := Option.map_eq_some_iff.mp hlook
      rcases hast old a ha with hmem | hlt
      · exact h.links i old (Site.cst?_eq_some.mp hold) a hmem
      · exact hlt
    · exact h.links i node (Site.cst?_eq_some.mp hlook) a ha
  | root hnone hstack hdef =>
    have hnode := h.defined hdef
    exact ⟨hnode.links, hnode.names, hnode.indices⟩
  | below hx hparent hchildren hroot hdef hstack =>
    have hnode := h.defined hdef
    exact ⟨hnode.links, hnode.names, hnode.indices⟩

end Sane

end Transfer

/-- **What holds of every tree that instructions rebuild.** -/
structure SyntaxTree.Settled (g : Grammar) (xs : List Transfer.Instruction) (t : SyntaxTree) :
    Prop where
  /-- Concrete nodes point to nodes of the arena. -/
  links : ∀ id node, t.cst? id = some node → ∀ a ∈ node.astNode, a.index < t.ast.size
  /-- The names of properties are free. -/
  names : ∀ id node, t.node? id = some node →
    ∀ name p, (name, p) ∈ node.properties.entries → Transfer.Sendable name p
  /-- References have the targets of their places. -/
  targets : ∀ id ref, t.reference? id = some ref →
    g.typeGraph.referenceTarget? (((t.node? ref.container).map AstNode.typeName).getD "")
      ref.property = some ref.target
  /-- The places of nodes were sent. -/
  indices : ∀ id node, t.node? id = some node → ∀ index ∈ node.containerIndex,
    .property (.ast id) Transfer.containerIndexProperty (.int (Int.ofNat index)) ∈ xs

namespace Transfer

variable {s : Site} {types : TypeGraph}

/-- The concrete nodes of the result are those of the site. -/
theorem getElem?_of_definedCst {cst : Array CstNode} (h : s.definedCst = .ok cst) {k : ℕ}
    {node : CstNode} (hnode : cst[k]? = some node) : s.cst[k]? = some (some node) := by
  rw [Site.definedCst] at h
  obtain ⟨nodes, hnodes, h⟩ := bind_eq_ok h
  cases h
  rw [List.getElem?_toArray] at hnode
  obtain ⟨⟨slot, index⟩, hslot, hdo⟩ := getElem?_of_mapM hnodes hnode
  rw [List.getElem?_zipIdx, Option.map_eq_some_iff] at hslot
  obtain ⟨slot', hget, heq⟩ := hslot
  obtain ⟨rfl, -⟩ := Prod.mk.inj heq
  cases slot' with
  | none => cases hdo
  | some node' =>
    cases hdo
    rw [← Array.getElem?_toList]
    exact hget

/-- A reference that is settled has the target of its place. -/
theorem target_of_settle {r : PendingReference} {ref : Reference}
    (h : s.settle types r = .ok ref) :
    types.referenceTarget? ((s.ast[ref.container.index]?.map AstNode.typeName).getD "")
      ref.property = some ref.target := by
  rw [Site.settle] at h
  split at h
  · next target htarget =>
    cases h
    exact htarget
  · cases h

/-- **What a result is made of**, and what was checked at the end. -/
theorem finish_ok {root : NodeId} {r : ParseResult} (h : s.finish types root = .ok r) :
    ∃ cst references cstRoot, s.definedCst = .ok cst ∧
      s.references.toList.mapM (s.settle types) = .ok references ∧
      r.tree = ⟨s.ast, cst, references.toArray, root, cstRoot⟩ ∧
      root.index < s.ast.size ∧ (∀ flag ∈ s.typed, flag = true) ∧ s.rootCst = some cstRoot := by
  unfold Site.finish at h
  split at h
  · dsimp only at h
    split at h
    · cases h
    · obtain ⟨_, -, h⟩ := bind_eq_ok h
      split at h <;> cases h
  · next cstRoot hroot =>
    dsimp only at h
    split at h
    · cases h
    · obtain ⟨_, hneed, h⟩ := bind_eq_ok h
      split at h
      · cases h
      · next htyped =>
        obtain ⟨cst, hcst, h⟩ := bind_eq_ok h
        obtain ⟨references, hreferences, h⟩ := bind_eq_ok h
        cases h
        refine ⟨cst, references, cstRoot, hcst, hreferences, rfl, index_lt_of_needNode hneed, ?_,
          hroot⟩
        intro flag hflag
        simpa using Array.findIdx?_eq_none_iff.mp htyped flag hflag

theorem Sane.finish {g : Grammar} {done : List Instruction} (h : Sane done s) {root : NodeId}
    {r : ParseResult} (hfinish : s.finish g.typeGraph root = .ok r) : r.tree.Settled g done := by
  obtain ⟨cst, references, cstRoot, hcst, hreferences, htree, -⟩ := finish_ok hfinish
  rw [htree]
  refine ⟨?_, fun id node hnode => h.names id.index node hnode, ?_,
    fun id node hnode => h.indices id.index node hnode⟩
  · intro id node hnode
    exact h.links id.index node (getElem?_of_definedCst hcst hnode)
  · intro id ref href
    rw [SyntaxTree.reference?, List.getElem?_toArray] at href
    obtain ⟨pending, -, hsettle⟩ := getElem?_of_mapM hreferences href
    exact target_of_settle hsettle

/-- **Every rebuilt tree is settled**, whatever it was rebuilt from. -/
theorem settled_of_rebuild {g : Grammar} {xs : List Instruction} {r : ParseResult}
    (h : rebuild g xs = .ok r) : r.tree.Settled g xs := by
  unfold rebuild at h
  split at h
  · obtain ⟨s, root, hsane, hfinish⟩ := Effect.run (P := Sane)
      (fun _ _ _ _ hs he => hs.effect he) [] (Sane.allocate _ _) h
    have hsettled := hsane.finish hfinish
    exact { hsettled with indices := fun id node hnode index hindex =>
      List.mem_cons_of_mem _ (hsettled.indices id node hnode index hindex) }
  · cases h

/-! ## Places that are sent -/

/-- The instructions of concrete nodes set properties of concrete nodes. -/
theorem cst_of_mem_flattenCst {n : Numbered} {target : Target} {name : String} {value : Scalar}
    (levels : ℕ) (id : CstId) (h : .property target name value ∈ flattenCst n levels id) :
    ∃ c, target = .cst c := by
  induction levels generalizing id with
  | zero => cases h
  | succ levels ih =>
    rw [flattenCst] at h
    split at h
    · next number node _ _ =>
      have hopen : .property target name value ≠ openNode number node.kind := by
        cases node.kind <;> nofun
      have hhead : ∀ link : List Instruction, .property target name value ∉ link →
          .property target name value ∈ [openNode number node.kind,
            .property (.cst number) hiddenProperty (.bool node.hidden),
            .property (.cst number) sourceProperty (.int (ElementTable.encode node.source))] ++ link →
          ∃ c, target = .cst c := by
        intro link hlink hmem
        simp only [List.mem_append, List.mem_cons, hopen, hlink, Instruction.property.injEq,
          List.not_mem_nil, or_false, false_or] at hmem
        rcases hmem with ⟨rfl, -⟩ | ⟨rfl, -⟩ <;> exact ⟨number, rfl⟩
      -- the link to an abstract node is there or not, and sets no property
      extract_lets link head at h
      have hlink : .property target name value ∉ link := by
        simp only [link]
        split <;> simp
      split at h
      · exact hhead link hlink h
      · rcases List.mem_append.mp h with h | h
        · rcases List.mem_append.mp h with h | h
          · exact hhead link hlink h
          · obtain ⟨child, -, hchild⟩ := List.mem_flatMap.mp h
            exact ih child hchild
        · cases List.mem_singleton.mp h
    · cases h

/-- **Places are sent in 64 bits**, if no property has the name under which
they are sent. -/
theorem exists_of_mem_flatten {g : Grammar} {r : ParseResult} (h : r.tree.Linked g)
    (hnames : ∀ id node, r.tree.HasNode id → r.tree.node? id = some node →
      ∀ name p, (name, p) ∈ node.properties.entries → Sendable name p)
    {id : NodeId} {value : ℤ}
    (hmem : .property (.ast id) containerIndexProperty (.int value) ∈ flatten r) :
    ∃ index, value = sentIndex index := by
  simp only [flatten, List.mem_append, List.mem_singleton, List.mem_map, reduceCtorEq, and_false,
    exists_false, false_or, or_false] at hmem
  rcases hmem with hcst | hast
  · obtain ⟨c, hc⟩ := cst_of_mem_flattenCst _ _ hcst
    cases hc
  · obtain ⟨a, ha, hmem⟩ := List.mem_flatMap.mp hast
    rw [flattenNode] at hmem
    split at hmem
    · next number node _ hnode =>
      simp only [List.mem_append, List.mem_singleton, Option.mem_toList, Option.map_eq_some_iff,
        List.mem_filterMap, Instruction.property.injEq, reduceCtorEq, and_false, exists_false,
        false_or, or_false] at hmem
      rcases hmem with ⟨index, -, -, -, heq⟩ | ⟨⟨name, p⟩, hp, hsent⟩
      · exact ⟨index, (Scalar.int.inj heq).symm⟩
      · -- only a scalar of the name would be sent like a place
        have hsendable := hnames a node (h.mem_preorder.mp ha) hnode name p hp
        cases p with
        | scalar scalar =>
          obtain ⟨-, rfl, -⟩ := Instruction.property.inj (Option.some.inj hsent)
          exact absurd (by decide) hsendable
        | node child =>
          obtain ⟨_, -, heq⟩ := Option.map_eq_some_iff.mp hsent
          cases heq
        | _ => cases hsent
    · cases hmem

end Transfer

namespace SyntaxTree

open Transfer

variable {g : Grammar} {t : SyntaxTree} {xs : List Instruction}

theorem sendable_rename {name : String} {p : Property} {nodeName : NodeId → NodeId}
    {refName : RefId → RefId} (h : Sendable name (p.rename nodeName refName)) :
    Sendable name p := by
  cases p <;> exact h

/-- A reference that is held is received at its place. -/
theorem Linked.received_reference? (h : t.Linked g) {ref : RefId} (href : ref ∈ t.held)
    {reference : Reference} (hlook : t.reference? ref = some reference) :
    ∃ index, t.received.reference? (t.refPlace ref) =
      some { reference.rename t.place t.cstPlace with index } := by
  have hplace := h.restrict_reference? href
  rw [hlook] at hplace
  have hsame := t.received_references (t.refPlace ref).index
  rw [show t.restrict.references[(t.refPlace ref).index]? =
    some (reference.rename t.place t.cstPlace) from hplace, Option.map_some,
    Option.map_eq_some_iff] at hsame
  obtain ⟨new, hnew, heq⟩ := hsame
  obtain ⟨hc, hp, -, htext, hnode, htarget⟩ := Reference.mk.inj heq
  refine ⟨new.index, hnew.trans (congrArg some ?_)⟩
  cases new
  exact Reference.mk.injEq .. |>.mpr ⟨hc, hp, rfl, htext, hnode, htarget⟩

theorem Linked.names_of_settled (h : t.Linked g) (hs : t.received.Settled g xs) :
    ∀ id node, t.HasNode id → t.node? id = some node →
      ∀ name p, (name, p) ∈ node.properties.entries → Sendable name p := by
  intro id node hid hnode name p hp
  have hlook := h.restrict_node? hid
  rw [hnode] at hlook
  refine sendable_rename (hs.names (t.place id) _ hlook name (p.rename t.place t.refPlace) ?_)
  exact List.mem_map.mpr ⟨(name, p), hp, rfl⟩

/-- **Nothing was lost if what is received is settled.** A link that was
lost would lead out of the arena, a name that is taken would not be there,
a target would be that of the place, and a place would be what was sent. -/
theorem Linked.portable_of_settled (h : t.Linked g) (hs : t.received.Settled g xs)
    (hsent : ∀ id value, .property (.ast id) containerIndexProperty (.int value) ∈ xs →
      ∃ index, value = sentIndex index) :
    t.Portable g where
  links := by
    intro id node hid hnode a ha
    have hlook := h.restrict_cst? hid
    rw [hnode] at hlook
    have hlt := hs.links (t.cstPlace id) _ hlook (t.place a) (by
      rw [CstNode.rename, ha]
      exact Option.mem_some_self _)
    rw [show t.received.ast.size = t.restrict.ast.size from rfl, h.size_restrict_ast, place] at hlt
    exact h.mem_preorder.mp (List.idxOf_lt_length_iff.mp hlt)
  names := h.names_of_settled hs
  targets := by
    intro id node hid hnode name p hp ref href reference hlook
    have hfit := h.nodeFits hid hnode
    obtain ⟨reference', hlook', hslot⟩ := hfit.refs name p hp ref href
    rw [hlook, Option.some.injEq] at hlook'
    subst hlook'
    have hheld : ref ∈ t.held :=
      h.mem_held.mpr ⟨id, node, hid, hnode, mem_heldRefs.mpr ⟨name, p, hp, href⟩⟩
    obtain ⟨index, hreceived⟩ := h.received_reference? hheld hlook
    have htarget := hs.targets _ _ hreceived
    have htype : t.received.node? (t.place id) =
        some (node.rename t.place t.cstPlace t.refPlace) := by
      have := h.restrict_node? hid
      rw [hnode] at this
      exact this
    simp only [Reference.rename, hslot.container, hslot.property, htype, Option.map_some,
      Option.getD_some] at htarget
    exact htarget
  indices := by
    intro id node hid hnode i hi
    have hlook := h.restrict_node? hid
    rw [hnode] at hlook
    obtain ⟨index, heq⟩ := hsent _ _ (hs.indices (t.place id) _ hlook i hi)
    have hlt := sentIndex_lt index
    rw [← heq] at hlt
    exact Int.ofNat_lt.mp hlt

end SyntaxTree

namespace Transfer

/-- **What is rebuilt as its receiver sees it has lost nothing.** -/
theorem portable_of_rebuild {g : Grammar} {r copy : ParseResult} (h : r.tree.Linked g)
    (hcopy : rebuild g (flatten r) = .ok copy) (htree : copy.tree = r.tree.received) :
    r.tree.Portable g := by
  have hsettled := settled_of_rebuild hcopy
  rw [htree] at hsettled
  exact h.portable_of_settled hsettled fun _ _ hmem =>
    exists_of_mem_flatten h (h.names_of_settled hsettled) hmem

end Transfer

end Workbench
