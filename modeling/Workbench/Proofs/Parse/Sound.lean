import Workbench.Proofs.OrderedMap
import Workbench.Proofs.Parse.Grow
import Workbench.Proofs.Tree.Restrict
/-!
# The tree that is being parsed

What is right about the arenas at any time of a parse. In both, an owner
comes before what it owns and is named by it. Every concrete node belongs to
the tree; nodes may float, as they are held only after the call that made
them has come back, or not at all. This is kept by everything a parse does
(`Sound`), and at its end it makes the tree `Linked`.
-/

namespace Workbench

namespace Parse

/-- **What is right about the concrete arena.** -/
structure CstSound (g : Grammar) (cst : Array CstNode) : Prop where
  /-- The root is there, and nothing owns it. -/
  root : ∃ node, cst[0]? = some node ∧ node.container = none
  /-- Only the root holds the text. -/
  kind : ∀ (i : ℕ) (node : CstNode), cst[i]? = some node → (node.kind.isRoot = true ↔ i = 0)
  /-- Every node names the root. -/
  names : ∀ (i : ℕ) (node : CstNode), cst[i]? = some node → node.root = ⟨0⟩
  /-- Every source is in the table. -/
  source : ∀ (i : ℕ) (node : CstNode), cst[i]? = some node →
    ∀ e ∈ node.source, e.index < g.table.entries.size
  /-- Every other node is a child of a node before it. -/
  owner : ∀ (i : ℕ) (node : CstNode), cst[i]? = some node → 0 < i → ∃ p parent, node.container = some p ∧
    p.index < i ∧ cst[p.index]? = some parent ∧ ⟨i⟩ ∈ parent.children
  /-- Children come after their parent, and name it. -/
  children : ∀ (i : ℕ) (node : CstNode), cst[i]? = some node → ∀ c ∈ node.children, i < c.index ∧
    ∃ child, cst[c.index]? = some child ∧ child.container = some ⟨i⟩
  /-- Children are in the order in which they came. -/
  sorted : ∀ (i : ℕ) (node : CstNode), cst[i]? = some node →
    node.children.Pairwise (·.index < ·.index)

/-- **What is right about the abstract arena.** -/
structure AstSound (ast : Array AstNode) (references : Array Reference) (cstSize : ℕ) : Prop where
  /-- The root is there, and nothing owns it. -/
  root : ∃ node, ast[0]? = some node ∧ node.container = none
  /-- Properties are maps. -/
  keys : ∀ (i : ℕ) (node : AstNode), ast[i]? = some node → node.properties.keys.Nodup
  /-- The concrete node of a node is there. -/
  cstNode : ∀ (i : ℕ) (node : AstNode), ast[i]? = some node → ∀ c ∈ node.cstNode, c.index < cstSize
  /-- Nodes come after their owner, and name it. -/
  children : ∀ (i : ℕ) (node : AstNode), ast[i]? = some node → ∀ c ∈ node.children, i < c.index ∧
    ∃ child, ast[c.index]? = some child ∧ child.container = some ⟨i⟩
  /-- A node is held once. -/
  nodup : ∀ (i : ℕ) (node : AstNode), ast[i]? = some node → node.children.Nodup
  /-- A property holds a reference once. -/
  distinct : ∀ (i : ℕ) (node : AstNode), ast[i]? = some node →
    ∀ name p, (name, p) ∈ node.properties.entries → p.refs.Nodup
  /-- References record what holds them. -/
  refs : ∀ (i : ℕ) (node : AstNode), ast[i]? = some node →
    ∀ name p, (name, p) ∈ node.properties.entries → ∀ r ∈ p.refs, ∃ ref, references[r.index]? = some ref ∧ ref.container = ⟨i⟩ ∧
      ref.property = name ∧ ∀ c ∈ ref.refNode, c.index < cstSize

/-- No node holds this one. -/
def Free (ast : Array AstNode) (n : NodeId) : Prop :=
  ∀ (i : ℕ) (node : AstNode), ast[i]? = some node → n ∉ node.children

/-- **What is right about the state of a parse.** -/
structure Sound (g : Grammar) (s : State) : Prop where
  cst : CstSound g s.cst
  ast : AstSound s.ast s.references s.cst.size
  /-- The composite can have children. -/
  composite : ∃ node, s.cst[s.composite.index]? = some node ∧ node.kind.isLeaf = false
  /-- The node is there. -/
  node : ∀ n, s.node = some n → n.index < s.ast.size
  /-- The product is there, and is not held. -/
  produced : ∀ p, s.produced = some p → p.index < s.ast.size ∧ Free s.ast p

variable {g : Grammar}

/-! ## The concrete arena -/

namespace CstSound

variable {cst cst' : Array CstNode} {parent : CstId}

theorem lookup_addChild (hparent : parent.index < cst.size) (child : CstNode) (i : ℕ) :
    (State.addChild cst parent ⟨cst.size⟩ child)[i]? =
      if i = cst.size then some child
      else if i = parent.index then cst[i]?.map fun node =>
        { node with kind := node.kind.mapChildren (·.push ⟨cst.size⟩) }
      else cst[i]? := by
  rw [State.addChild, Array.getElem?_modify, Array.getElem?_push]
  by_cases hi : i = cst.size
  · subst hi
    rw [if_neg (by omega), if_pos rfl, if_pos rfl]
  · rw [if_neg hi, if_neg hi]
    by_cases hp : i = parent.index
    · rw [if_pos hp.symm, if_pos hp]
    · rw [if_neg (Ne.symm hp), if_neg hp]

theorem children_push (node : CstNode) (id : CstId) (hleaf : node.kind.isLeaf = false) :
    ({ node with kind := node.kind.mapChildren (·.push id) } : CstNode).children =
      node.children ++ [id] := by
  rcases node with ⟨kind, _, _, _, _, _⟩
  cases kind with
  | leaf => cases hleaf
  | composite => simp [CstNode.children, CstKind.mapChildren, CstKind.children]
  | root => simp [CstNode.children, CstKind.mapChildren, CstKind.children]

theorem isRoot_mapChildren (kind : CstKind) (f : Array CstId → Array CstId) :
    (kind.mapChildren f).isRoot = kind.isRoot := by
  cases kind <;> rfl

theorem isLeaf_mapChildren (kind : CstKind) (f : Array CstId → Array CstId) :
    (kind.mapChildren f).isLeaf = kind.isLeaf := by
  cases kind <;> rfl

/-- Two concrete nodes that differ at most in their children and in their
link. -/
structure Alike (old node : CstNode) : Prop where
  isRoot : node.kind.isRoot = old.kind.isRoot
  isLeaf : node.kind.isLeaf = old.kind.isLeaf
  container : node.container = old.container
  root : node.root = old.root
  source : node.source = old.source

/-- What an added child leaves of the nodes that were there. -/
theorem addChild_old (hparent : parent.index < cst.size) (child : CstNode) {owner : CstNode}
    (howner : cst[parent.index]? = some owner) (hleaf : owner.kind.isLeaf = false) {i : ℕ}
    {old : CstNode} (hold : cst[i]? = some old) :
    ∃ node, (State.addChild cst parent ⟨cst.size⟩ child)[i]? = some node ∧ Alike old node ∧
      node.children = old.children ++ if i = parent.index then [⟨cst.size⟩] else [] := by
  have hi := (Array.getElem?_eq_some_iff.mp hold).1
  rw [lookup_addChild hparent, if_neg (by omega), hold]
  by_cases hp : i = parent.index
  · subst hp
    rw [howner, Option.some.injEq] at hold
    subst hold
    rw [if_pos rfl, if_pos rfl]
    exact ⟨_, rfl, ⟨isRoot_mapChildren _ _, isLeaf_mapChildren _ _, rfl, rfl, rfl⟩,
      children_push owner _ hleaf⟩
  · rw [if_neg hp, if_neg hp]
    exact ⟨old, rfl, ⟨rfl, rfl, rfl, rfl, rfl⟩, (List.append_nil _).symm⟩

/-- A root alone. -/
theorem singleton {node : CstNode} (hcontainer : node.container = none)
    (hkind : node.kind.isRoot = true) (hroot : node.root = ⟨0⟩) (hnil : node.children = [])
    (hsource : ∀ e ∈ node.source, e.index < g.table.entries.size) : CstSound g #[node] := by
  constructor
  case root => exact ⟨node, rfl, hcontainer⟩
  case kind =>
    intro i other hother
    obtain ⟨rfl, rfl⟩ := getElem?_singleton_cases hother
    exact ⟨fun _ => rfl, fun _ => hkind⟩
  case names =>
    intro i other hother
    obtain ⟨rfl, rfl⟩ := getElem?_singleton_cases hother
    exact hroot
  case source =>
    intro i other hother
    obtain ⟨rfl, rfl⟩ := getElem?_singleton_cases hother
    exact hsource
  case owner =>
    intro i other hother hpos
    obtain ⟨rfl, -⟩ := getElem?_singleton_cases hother
    exact absurd hpos (Nat.lt_irrefl 0)
  case children =>
    intro i other hother c hc
    obtain ⟨rfl, rfl⟩ := getElem?_singleton_cases hother
    rw [hnil] at hc
    cases hc
  case sorted =>
    intro i other hother
    obtain ⟨rfl, rfl⟩ := getElem?_singleton_cases hother
    rw [hnil]
    exact List.Pairwise.nil

theorem size_addChild (cst : Array CstNode) (parent id : CstId) (child : CstNode) :
    (State.addChild cst parent id child).size = cst.size + 1 := by
  rw [State.addChild, Array.size_modify, Array.size_push]

/-- Every node is the new one, or was there before. -/
theorem addChild_cases {child owner : CstNode} (howner : cst[parent.index]? = some owner)
    (hleaf : owner.kind.isLeaf = false) {i : ℕ} {node : CstNode}
    (hnode : (State.addChild cst parent ⟨cst.size⟩ child)[i]? = some node) :
    (i = cst.size ∧ node = child) ∨ ∃ old, cst[i]? = some old ∧ Alike old node ∧
      node.children = old.children ++ if i = parent.index then [⟨cst.size⟩] else [] := by
  have hparent := (Array.getElem?_eq_some_iff.mp howner).1
  by_cases hi : i = cst.size
  · subst hi
    rw [lookup_addChild hparent, if_pos rfl, Option.some.injEq] at hnode
    exact Or.inl ⟨rfl, hnode.symm⟩
  · have hlt : i < cst.size := by
      have hlt := (Array.getElem?_eq_some_iff.mp hnode).1
      rw [size_addChild] at hlt
      omega
    have hlook := Array.getElem?_eq_getElem hlt
    obtain ⟨node', hnode', halike, hchildren⟩ := addChild_old hparent child howner hleaf hlook
    obtain rfl := Option.some.inj (hnode.symm.trans hnode')
    exact Or.inr ⟨_, hlook, halike, hchildren⟩

/-- **A concrete node is added**, as a leaf or as a composite without
children. -/
theorem addChild (h : CstSound g cst) {owner : CstNode}
    (howner : cst[parent.index]? = some owner) (hleaf : owner.kind.isLeaf = false)
    {child : CstNode} (hkind : child.kind.isRoot = false) (hnil : child.children = [])
    (hcontainer : child.container = some parent) (hroot : child.root = ⟨0⟩)
    (hsource : ∀ e ∈ child.source, e.index < g.table.entries.size) :
    CstSound g (State.addChild cst parent ⟨cst.size⟩ child) := by
  have hparent := (Array.getElem?_eq_some_iff.mp howner).1
  have hold := fun {i : ℕ} {old : CstNode} (h : cst[i]? = some old) =>
    addChild_old hparent child howner hleaf h
  have hcases := fun (i : ℕ) (node : CstNode)
      (hnode : (State.addChild cst parent ⟨cst.size⟩ child)[i]? = some node) =>
    addChild_cases howner hleaf hnode
  constructor
  case root =>
    obtain ⟨old, hlook, hnone⟩ := h.root
    obtain ⟨node, hnode, halike, -⟩ := hold hlook
    exact ⟨node, hnode, halike.container.trans hnone⟩
  case kind =>
    intro i node hnode
    rcases hcases i node hnode with ⟨rfl, rfl⟩ | ⟨old, hlook, halike, -⟩
    · rw [hkind]
      exact ⟨by simp, fun h0 => by omega⟩
    · rw [halike.isRoot]
      exact h.kind i old hlook
  case names =>
    intro i node hnode
    rcases hcases i node hnode with ⟨rfl, rfl⟩ | ⟨old, hlook, halike, -⟩
    · exact hroot
    · rw [halike.root]
      exact h.names i old hlook
  case source =>
    intro i node hnode
    rcases hcases i node hnode with ⟨rfl, rfl⟩ | ⟨old, hlook, halike, -⟩
    · exact hsource
    · rw [halike.source]
      exact h.source i old hlook
  case owner =>
    intro i node hnode hpos
    rcases hcases i node hnode with ⟨rfl, rfl⟩ | ⟨old, hlook, halike, -⟩
    · obtain ⟨owner', howner', -, hchildren⟩ := hold howner
      refine ⟨parent, owner', hcontainer, hparent, howner', ?_⟩
      rw [hchildren, if_pos rfl]
      exact List.mem_append_right _ List.mem_cons_self
    · obtain ⟨p, old', hp, hlt, hlook', hmem⟩ := h.owner i old hlook hpos
      obtain ⟨node', hnode', -, hchildren⟩ := hold hlook'
      refine ⟨p, node', halike.container.trans hp, hlt, hnode', ?_⟩
      rw [hchildren]
      exact List.mem_append_left _ hmem
  case children =>
    intro i node hnode c hc
    rcases hcases i node hnode with ⟨rfl, rfl⟩ | ⟨old, hlook, -, hchildren⟩
    · rw [hnil] at hc
      cases hc
    · rw [hchildren] at hc
      rcases List.mem_append.mp hc with hc | hc
      · obtain ⟨hlt, old', hlook', hown⟩ := h.children i old hlook c hc
        obtain ⟨node', hnode', halike, -⟩ := hold hlook'
        exact ⟨hlt, node', hnode', halike.container.trans hown⟩
      · split at hc
        · next hi =>
          rw [List.mem_singleton.mp hc]
          subst hi
          exact ⟨hparent, child, by rw [lookup_addChild hparent, if_pos rfl], hcontainer⟩
        · cases hc
  case sorted =>
    intro i node hnode
    rcases hcases i node hnode with ⟨rfl, rfl⟩ | ⟨old, hlook, -, hchildren⟩
    · rw [hnil]
      exact List.Pairwise.nil
    · rw [hchildren, List.pairwise_append]
      refine ⟨h.sorted i old hlook, by split <;> simp, ?_⟩
      intro a ha b hb
      obtain ⟨-, old', hlook', -⟩ := h.children i old hlook a ha
      have := (Array.getElem?_eq_some_iff.mp hlook').1
      split at hb
      · rw [List.mem_singleton.mp hb]
        exact this
      · cases hb

/-- Links to nodes do not matter. -/
theorem modify (h : CstSound g cst) (k : ℕ) (link : Option NodeId) :
    CstSound g (cst.modify k fun node => { node with astNode := link }) := by
  have hcases : ∀ (i : ℕ) node,
      (cst.modify k fun node => { node with astNode := link })[i]? = some node →
      ∃ old, cst[i]? = some old ∧ Alike old node ∧ node.children = old.children := by
    intro i node hnode
    rw [Array.getElem?_modify] at hnode
    split at hnode
    · obtain ⟨old, hold, rfl⟩ := Option.map_eq_some_iff.mp hnode
      exact ⟨old, hold, ⟨rfl, rfl, rfl, rfl, rfl⟩, rfl⟩
    · exact ⟨node, hnode, ⟨rfl, rfl, rfl, rfl, rfl⟩, rfl⟩
  have hold : ∀ (i : ℕ) old, cst[i]? = some old →
      ∃ node, (cst.modify k fun node => { node with astNode := link })[i]? = some node ∧
        Alike old node ∧ node.children = old.children := by
    intro i old hlook
    rw [Array.getElem?_modify, hlook]
    split
    · exact ⟨_, rfl, ⟨rfl, rfl, rfl, rfl, rfl⟩, rfl⟩
    · exact ⟨old, rfl, ⟨rfl, rfl, rfl, rfl, rfl⟩, rfl⟩
  constructor
  case root =>
    obtain ⟨old, hlook, hnone⟩ := h.root
    obtain ⟨node, hnode, halike, -⟩ := hold 0 old hlook
    exact ⟨node, hnode, halike.container.trans hnone⟩
  case kind =>
    intro i node hnode
    obtain ⟨old, hlook, halike, -⟩ := hcases i node hnode
    rw [halike.isRoot]
    exact h.kind i old hlook
  case names =>
    intro i node hnode
    obtain ⟨old, hlook, halike, -⟩ := hcases i node hnode
    rw [halike.root]
    exact h.names i old hlook
  case source =>
    intro i node hnode
    obtain ⟨old, hlook, halike, -⟩ := hcases i node hnode
    rw [halike.source]
    exact h.source i old hlook
  case owner =>
    intro i node hnode hpos
    obtain ⟨old, hlook, halike, -⟩ := hcases i node hnode
    obtain ⟨p, old', hp, hlt, hlook', hmem⟩ := h.owner i old hlook hpos
    obtain ⟨node', hnode', -, hchildren⟩ := hold p.index old' hlook'
    exact ⟨p, node', halike.container.trans hp, hlt, hnode', hchildren ▸ hmem⟩
  case children =>
    intro i node hnode c hc
    obtain ⟨old, hlook, -, hchildren⟩ := hcases i node hnode
    obtain ⟨hlt, old', hlook', hown⟩ := h.children i old hlook c (hchildren ▸ hc)
    obtain ⟨node', hnode', halike, -⟩ := hold c.index old' hlook'
    exact ⟨hlt, node', hnode', halike.container.trans hown⟩
  case sorted =>
    intro i node hnode
    obtain ⟨old, hlook, -, hchildren⟩ := hcases i node hnode
    rw [hchildren]
    exact h.sorted i old hlook

end CstSound

/-! ## The abstract arena -/

namespace AstSound

variable {ast : Array AstNode} {references : Array Reference} {size size' : ℕ}

/-- A root alone. -/
theorem singleton {node : AstNode} (hcontainer : node.container = none)
    (hkeys : node.properties.keys.Nodup) (hcst : ∀ c ∈ node.cstNode, c.index < size)
    (hnil : node.children = [])
    (hrefs : ∀ name p, (name, p) ∈ node.properties.entries → p.refs = []) :
    AstSound #[node] references size := by
  constructor
  case root => exact ⟨node, rfl, hcontainer⟩
  case keys =>
    intro i other hother
    obtain ⟨rfl, rfl⟩ := getElem?_singleton_cases hother
    exact hkeys
  case cstNode =>
    intro i other hother
    obtain ⟨rfl, rfl⟩ := getElem?_singleton_cases hother
    exact hcst
  case children =>
    intro i other hother c hc
    obtain ⟨rfl, rfl⟩ := getElem?_singleton_cases hother
    rw [hnil] at hc
    cases hc
  case nodup =>
    intro i other hother
    obtain ⟨rfl, rfl⟩ := getElem?_singleton_cases hother
    rw [hnil]
    exact List.nodup_nil
  case distinct =>
    intro i other hother name p hp
    obtain ⟨rfl, rfl⟩ := getElem?_singleton_cases hother
    rw [hrefs name p hp]
    exact List.nodup_nil
  case refs =>
    intro i other hother name p hp r hr
    obtain ⟨rfl, rfl⟩ := getElem?_singleton_cases hother
    rw [hrefs name p hp] at hr
    cases hr

theorem mono (h : AstSound ast references size) (hle : size ≤ size') :
    AstSound ast references size' :=
  { h with
    cstNode := fun i node hnode c hc => Nat.lt_of_lt_of_le (h.cstNode i node hnode c hc) hle
    refs := by
      intro i node hnode name p hp r hr
      obtain ⟨ref, hlook, hcontainer, hproperty, hrefNode⟩ := h.refs i node hnode name p hp r hr
      exact ⟨ref, hlook, hcontainer, hproperty,
        fun c hc => Nat.lt_of_lt_of_le (hrefNode c hc) hle⟩ }

/-- References that are added do not matter to those that are there. -/
theorem pushReference (h : AstSound ast references size) (ref : Reference) :
    AstSound ast (references.push ref) size :=
  { h with
    refs := by
      intro i node hnode name p hp r hr
      obtain ⟨ref', hlook, hrest⟩ := h.refs i node hnode name p hp r hr
      exact ⟨ref', getElem?_push_old hlook ref, hrest⟩ }

/-- A node without anything below it is added. -/
theorem push (h : AstSound ast references size) {node : AstNode}
    (hkeys : node.properties.keys.Nodup) (hcst : ∀ c ∈ node.cstNode, c.index < size)
    (hchildren : node.children = [])
    (hrefs : ∀ name p, (name, p) ∈ node.properties.entries → p.refs = []) :
    AstSound (ast.push node) references size := by
  constructor
  case root =>
    obtain ⟨a, ha, hnone⟩ := h.root
    exact ⟨a, getElem?_push_old ha node, hnone⟩
  case keys =>
    intro i a ha
    rcases getElem?_push_cases ha with ⟨-, rfl⟩ | ha
    · exact hkeys
    · exact h.keys i a ha
  case cstNode =>
    intro i a ha
    rcases getElem?_push_cases ha with ⟨-, rfl⟩ | ha
    · exact hcst
    · exact h.cstNode i a ha
  case children =>
    intro i a ha c hc
    rcases getElem?_push_cases ha with ⟨-, rfl⟩ | ha
    · rw [hchildren] at hc
      cases hc
    · obtain ⟨hlt, child, hchild, hown⟩ := h.children i a ha c hc
      exact ⟨hlt, child, getElem?_push_old hchild node, hown⟩
  case nodup =>
    intro i a ha
    rcases getElem?_push_cases ha with ⟨-, rfl⟩ | ha
    · rw [hchildren]
      exact List.nodup_nil
    · exact h.nodup i a ha
  case distinct =>
    intro i a ha name p hp
    rcases getElem?_push_cases ha with ⟨-, rfl⟩ | ha
    · rw [hrefs name p hp]
      exact List.nodup_nil
    · exact h.distinct i a ha name p hp
  case refs =>
    intro i a ha name p hp
    rcases getElem?_push_cases ha with ⟨-, rfl⟩ | ha
    · rw [hrefs name p hp]
      exact fun r hr => absurd hr List.not_mem_nil
    · exact h.refs i a ha name p hp

/-- A node that nothing holds may name any owner. -/
theorem setContainer (h : AstSound ast references size) {child container : NodeId}
    {feature : String} {index : Option ℕ} (hfree : Free ast child) (hpos : 0 < child.index) :
    AstSound (State.setContainer ast child container feature index) references size := by
  have hchildren :
      ∀ {a old : AstNode}, a.properties = old.properties → a.children = old.children := by
    intro a old hp
    rw [AstNode.children, AstNode.children, hp]
  constructor
  case root =>
    obtain ⟨a, ha, hnone⟩ := h.root
    exact ⟨a, (State.getElem?_setContainer_ne (by omega)).trans ha, hnone⟩
  case keys =>
    intro i a ha
    obtain ⟨old, hold, -, hp, -⟩ := State.setContainer_cases ha
    rw [hp]
    exact h.keys i old hold
  case cstNode =>
    intro i a ha
    obtain ⟨old, hold, -, -, hc, -⟩ := State.setContainer_cases ha
    rw [hc]
    exact h.cstNode i old hold
  case children =>
    intro i a ha c hc
    obtain ⟨old, hold, -, hp, -⟩ := State.setContainer_cases ha
    rw [hchildren hp] at hc
    obtain ⟨hlt, old', hold', hown⟩ := h.children i old hold c hc
    have hne : child.index ≠ c.index := fun heq => hfree i old hold (NodeId.ext_index heq ▸ hc)
    exact ⟨hlt, old', (State.getElem?_setContainer_ne hne).trans hold', hown⟩
  case nodup =>
    intro i a ha
    obtain ⟨old, hold, -, hp, -⟩ := State.setContainer_cases ha
    rw [hchildren hp]
    exact h.nodup i old hold
  case distinct =>
    intro i a ha
    obtain ⟨old, hold, -, hp, -⟩ := State.setContainer_cases ha
    rw [hp]
    exact h.distinct i old hold
  case refs =>
    intro i a ha
    obtain ⟨old, hold, -, hp, -⟩ := State.setContainer_cases ha
    rw [hp]
    exact h.refs i old hold

/-- The nodes of a node after a property is set: those from before and some
more, in some order. -/
theorem children_insert {a : AstNode} {feature : String} {q : Property} {more : List NodeId}
    (hq : q.children.Sublist (((a.properties.get? feature).getD .empty).children ++ more)) :
    ∃ l, ({ a with properties := a.properties.insert feature q } : AstNode).children.Sublist l ∧
      l.Perm (a.children ++ more) := by
  simp only [AstNode.children, OrderedMap.values]
  rcases OrderedMap.insert_cases a.properties feature q with
    ⟨pre, v, post, hes, hget, hins⟩ | ⟨-, hget, hins⟩
  · rw [hget, Option.getD_some] at hq
    rw [hins, hes]
    refine ⟨(pre.map Prod.snd).flatMap Property.children ++ (v.children ++ more) ++
      (post.map Prod.snd).flatMap Property.children, ?_, ?_⟩
    · simp only [List.map_append, List.map_cons, List.flatMap_append, List.flatMap_cons,
        ← List.append_assoc]
      rw [List.append_assoc _ v.children more]
      exact ((List.Sublist.refl _).append hq).append (List.Sublist.refl _)
    · simp only [List.map_append, List.map_cons, List.flatMap_append, List.flatMap_cons,
        List.append_assoc]
      exact ((List.perm_append_comm).append_left _).append_left _
  · rw [hget, Option.getD_none] at hq
    rw [hins]
    refine ⟨(a.properties.entries.map Prod.snd).flatMap Property.children ++ more, ?_,
      List.Perm.refl _⟩
    simp only [List.map_append, List.map_cons, List.map_nil, List.flatMap_append,
      List.flatMap_cons, List.flatMap_nil, List.append_nil]
    exact (List.Sublist.refl _).append hq

theorem setProperties_cases {n : NodeId} {a : AstNode} (ha : ast[n.index]? = some a)
    {properties : OrderedMap String Property} {i : ℕ} {b : AstNode}
    (hb : (State.setProperties ast n properties)[i]? = some b) :
    (i = n.index ∧ b = { a with properties }) ∨ ast[i]? = some b := by
  rw [State.getElem?_setProperties ha] at hb
  split at hb
  · next hi => exact Or.inl ⟨hi.symm, (Option.some.inj hb).symm⟩
  · exact Or.inr hb

theorem setProperties_old {n : NodeId} {a : AstNode} (ha : ast[n.index]? = some a)
    (properties : OrderedMap String Property) {i : ℕ} {b : AstNode} (hb : ast[i]? = some b) :
    ∃ b', (State.setProperties ast n properties)[i]? = some b' ∧ b'.container = b.container := by
  rw [State.getElem?_setProperties ha]
  split
  · next hi =>
    rw [← hi, ha, Option.some.injEq] at hb
    subst hb
    exact ⟨_, rfl, rfl⟩
  · exact ⟨b, hb, rfl⟩

/-- **A property of a node is set.** Its nodes are those it had, and others
that name the node and that it does not hold yet; its references are those
it had, and new ones. -/
theorem put (h : AstSound ast references size) {n : NodeId} {a : AstNode}
    (ha : ast[n.index]? = some a) {feature : String} {q : Property} {more : List NodeId}
    {fresh : List RefId}
    (hq : q.children.Sublist (((a.properties.get? feature).getD .empty).children ++ more))
    (hmore : (a.children ++ more).Nodup)
    (hown : ∀ c ∈ more, n.index < c.index ∧
      ∃ child, ast[c.index]? = some child ∧ child.container = some n)
    (hr : q.refs.Sublist (((a.properties.get? feature).getD .empty).refs ++ fresh))
    (hfresh : (((a.properties.get? feature).getD .empty).refs ++ fresh).Nodup)
    (hrec : ∀ r ∈ fresh, ∃ ref, references[r.index]? = some ref ∧ ref.container = n ∧
      ref.property = feature ∧ ∀ c ∈ ref.refNode, c.index < size) :
    AstSound (State.setProperties ast n (a.properties.insert feature q)) references size := by
  have hcases := fun (i : ℕ) (b : AstNode)
      (hb : (State.setProperties ast n (a.properties.insert feature q))[i]? = some b) =>
    setProperties_cases ha hb
  have hold := fun {i : ℕ} {b : AstNode} (hb : ast[i]? = some b) =>
    setProperties_old ha (a.properties.insert feature q) hb
  -- the feature may stand anywhere among the properties, so what is held is known up to order
  obtain ⟨l, hsub, hperm⟩ := children_insert hq
  constructor
  case root =>
    obtain ⟨b, hb, hnone⟩ := h.root
    obtain ⟨b', hb', hc⟩ := hold hb
    exact ⟨b', hb', hc.trans hnone⟩
  case keys =>
    intro i b hb
    rcases hcases i b hb with ⟨-, rfl⟩ | hb
    · exact OrderedMap.nodup_keys_insert (h.keys _ a ha) feature q
    · exact h.keys i b hb
  case cstNode =>
    intro i b hb
    rcases hcases i b hb with ⟨-, rfl⟩ | hb
    · exact h.cstNode _ a ha
    · exact h.cstNode i b hb
  case children =>
    intro i b hb c hc
    have hfits : i < c.index ∧ ∃ child, ast[c.index]? = some child ∧
        child.container = some ⟨i⟩ := by
      rcases hcases i b hb with ⟨rfl, rfl⟩ | hb
      · rcases List.mem_append.mp (hperm.mem_iff.mp (hsub.mem hc)) with hc | hc
        · exact h.children _ a ha c hc
        · exact hown c hc
      · exact h.children i b hb c hc
    obtain ⟨hlt, child, hchild, hcontainer⟩ := hfits
    obtain ⟨child', hchild', hsame⟩ := hold hchild
    exact ⟨hlt, child', hchild', hsame.trans hcontainer⟩
  case nodup =>
    intro i b hb
    rcases hcases i b hb with ⟨-, rfl⟩ | hb
    · exact (hperm.nodup_iff.mpr hmore).sublist hsub
    · exact h.nodup i b hb
  case distinct =>
    intro i b hb name p hp
    rcases hcases i b hb with ⟨-, rfl⟩ | hb
    · rcases OrderedMap.mem_insert hp with heq | hp
      · cases heq
        exact hfresh.sublist hr
      · exact h.distinct _ a ha name p hp
    · exact h.distinct i b hb name p hp
  case refs =>
    intro i b hb name p hp r hrp
    rcases hcases i b hb with ⟨rfl, rfl⟩ | hb
    · rcases OrderedMap.mem_insert hp with heq | hp
      · cases heq
        rcases List.mem_append.mp (hr.mem hrp) with hrold | hrnew
        · rcases a.properties.getD_get?_cases feature .empty with hempty | hentry
          · rw [hempty] at hrold
            cases hrold
          · exact h.refs _ a ha feature _ hentry r hrold
        · exact hrec r hrnew
      · exact h.refs _ a ha name p hp r hrp
    · exact h.refs i b hb name p hp r hrp

end AstSound

end Parse

end Workbench
