import Mathlib.Logic.Relation
import Workbench.Proofs.Tree.Address
import Workbench.Proofs.Workspace.Consistent
/-!
# Inheritance

In a linked document an entity has at most one supertype of its own document,
so the way up from an entity is determined. It ends, it comes back to where it
started, or it gets into a cycle that the start is not on: then it comes to a
node that it was at before. A walk keeps what it came to (`Trail`), which
tells the three apart, and which cannot be longer than the arena.
-/

namespace Workbench

namespace LinkContext

variable {cx : LinkContext} {links : Links}

/-- In a linked document nothing is resolved any more. -/
theorem resolve_of_allResolved (h : AllResolved cx.tree links) (id : RefId) :
    ∃ outcome, cx.resolve links id = (.ok outcome, links) ∧
      ∀ target, outcome = .single target ↔ (links[id.index]?).join = some (.single target) := by
  cases hjoin : (links[id.index]?).join with
  | some resolution =>
    refine ⟨resolution, ?_, fun target => (Option.some.injEq _ _ ▸ Iff.rfl)⟩
    rw [resolve, resolveTo, hjoin]
  | none =>
    have hmissing : cx.tree.reference? id = none := by
      by_contra hthere
      obtain ⟨reference, hreference⟩ := Option.ne_none_iff_exists'.mp hthere
      obtain ⟨hlt, -⟩ := Array.getElem?_eq_some_iff.mp hreference
      obtain ⟨resolution, hresolution⟩ := h id.index hlt
      rw [hjoin] at hresolution
      cases hresolution
    refine ⟨.error "There is no such reference.", ?_, fun target => by simp⟩
    rw [resolve, resolveTo, hjoin, hmissing]

end LinkContext

namespace DomainModel

open Relation

/-- **One entity inherits from another**: its first supertype is resolved to
that one alone, in the same document. -/
def Inherits (cx : LinkContext) (links : Links) (a b : NodeId) : Prop :=
  ∃ node id target, cx.tree.node? a = some node ∧ (node.refs "superType").head? = some id ∧
    (links[id.index]?).join = some (.single target) ∧ target.uri = cx.document.uri ∧
    target.node = b

/-- The error on an entity that inherits from itself. -/
def cycleError (cx : CheckContext) : Diagnostic :=
  cx.report .error cx.node
    ("Cycle in the inheritance hierarchy of '" ++ (cx.tree.name? cx.node).getD "" ++ "'.")

variable {cx : LinkContext} {links : Links} {start a b c current next v w : NodeId}
  {visited : List NodeId}

namespace Inherits

/-- An entity inherits from one other at most. -/
theorem unique (hb : Inherits cx links a b) (hc : Inherits cx links a c) : b = c := by
  obtain ⟨node, id, target, hnode, hid, htarget, -, rfl⟩ := hb
  obtain ⟨node', id', target', hnode', hid', htarget', -, rfl⟩ := hc
  rw [hnode, Option.some.injEq] at hnode'
  subst hnode'
  rw [hid, Option.some.injEq] at hid'
  subst hid'
  rw [htarget, Option.some.injEq, Resolution.single.injEq] at htarget'
  rw [htarget']

/-- What inherits is in the tree. -/
theorem isSome_node? (h : Inherits cx links a b) : (cx.tree.node? a).isSome = true := by
  obtain ⟨node, _, _, hnode, -⟩ := h
  rw [hnode, Option.isSome_some]

/-- From everything above an entity on a cycle the way leads back to it. -/
theorem back (ha : TransGen (Inherits cx links) a a) (hab : ReflTransGen (Inherits cx links) a b) :
    TransGen (Inherits cx links) b a := by
  induction hab with
  | refl => exact ha
  | tail _ hbc ih =>
    obtain ⟨c, hc, hback⟩ := TransGen.head'_iff.mp ih
    obtain rfl := hc.unique hbc
    exact TransGen.trans_right hback ha

end Inherits

/-! ## The way of a walk -/

/-- **What a walk came to** so far, the last node first: each inherits from the
one before it in the list, and none was met before. -/
inductive Trail (cx : LinkContext) (links : Links) (start : NodeId) : List NodeId → NodeId → Prop
  /-- A walk begins at its start. -/
  | here : Trail cx links start [start] start
  /-- It goes on to a supertype that it was not at yet. -/
  | on {visited : List NodeId} {current next : NodeId} (way : Trail cx links start visited current)
      (step : Inherits cx links current next) (new : next ∉ visited) :
      Trail cx links start (next :: visited) next

namespace Trail

theorem start_mem (h : Trail cx links start visited current) : start ∈ visited := by
  induction h with
  | here => exact List.mem_singleton_self _
  | on _ _ _ ih => exact List.mem_cons_of_mem _ ih

theorem reaches (h : Trail cx links start visited current) :
    ReflTransGen (Inherits cx links) start current := by
  induction h with
  | here => exact ReflTransGen.refl
  | on _ hstep _ ih => exact ih.tail hstep

theorem nodup (h : Trail cx links start visited current) : visited.Nodup := by
  induction h with
  | here => exact List.nodup_singleton _
  | on _ _ hnew ih => exact List.nodup_cons.mpr ⟨hnew, ih⟩

/-- From every node of a trail but the last the way goes on along the trail. -/
theorem goes_on (h : Trail cx links start visited current) :
    ∀ v ∈ visited, v = current ∨ ∃ w ∈ visited, Inherits cx links v w := by
  induction h with
  | here => exact fun v hv => .inl (List.mem_singleton.mp hv)
  | @on visited current next _ hstep _ ih =>
    intro v hv
    rcases List.mem_cons.mp hv with rfl | hv
    · exact .inl rfl
    · rcases ih v hv with rfl | ⟨w, hw, hvw⟩
      · exact .inr ⟨next, List.mem_cons_self, hstep⟩
      · exact .inr ⟨w, List.mem_cons_of_mem _ hw, hvw⟩

/-- **A trail fits into the arena**, but for its last node. -/
theorem length_le (h : Trail cx links start visited current) :
    visited.length ≤ cx.tree.ast.size + 1 := by
  have hin : ∀ v ∈ visited.erase current, v.index < cx.tree.ast.size := by
    intro v hv
    obtain ⟨hne, hv⟩ := h.nodup.mem_erase_iff.mp hv
    obtain ⟨w, -, hstep⟩ := (h.goes_on v hv).resolve_left hne
    obtain ⟨node, hnode⟩ := Option.isSome_iff_exists.mp hstep.isSome_node?
    exact SyntaxTree.index_lt_of_node? hnode
  have hfits := length_le_of_index_lt (h.nodup.erase current) NodeId.index
    (fun _ _ _ _ hab => NodeId.ext_index hab) hin
  have herase := List.le_length_erase (a := current) (l := visited)
  omega

/-- The part of a trail from a node on. -/
theorem exists_from (h : Trail cx links start visited current) :
    ∀ v ∈ visited, ∃ part, Trail cx links v part current ∧ part ⊆ visited ∧
      (start ∈ part → v = start) := by
  induction h with
  | here =>
    intro v hv
    obtain rfl := List.mem_singleton.mp hv
    exact ⟨[v], .here, List.Subset.refl _, fun _ => rfl⟩
  | @on visited current next hway hstep hnew ih =>
    intro v hv
    rcases List.mem_cons.mp hv with rfl | hv
    · refine ⟨[v], .here, ?_, fun hstart => (List.mem_singleton.mp hstart).symm⟩
      exact List.cons_subset_cons _ (List.nil_subset _)
    · obtain ⟨part, hpart, hsub, hstart⟩ := ih v hv
      refine ⟨next :: part, hpart.on hstep fun hmem => hnew (hsub hmem),
        List.cons_subset_cons _ hsub, fun hmem => ?_⟩
      rcases List.mem_cons.mp hmem with rfl | hmem
      · exact absurd hway.start_mem hnew
      · exact hstart hmem

/-- **A walk that comes to a node for the second time is in a cycle without
the start**, unless the node is the start. -/
theorem not_cycle (h : Trail cx links start visited current)
    (hstep : Inherits cx links current next)
    (hmet : next ∈ visited) (hne : next ≠ start) : ¬ TransGen (Inherits cx links) start start := by
  intro hcycle
  obtain ⟨part, hpart, -, hstart⟩ := h.exists_from next hmet
  -- what lies above the node is the part of the trail from the node on
  have hclosed : ∀ v, ReflTransGen (Inherits cx links) next v → v ∈ part := by
    intro v hv
    induction hv with
    | refl => exact hpart.start_mem
    | tail _ hvw ih =>
      rcases hpart.goes_on _ ih with rfl | ⟨w, hw, hvw'⟩
      · rw [← hstep.unique hvw]
        exact hpart.start_mem
      · rwa [hvw.unique hvw']
  have hback := Inherits.back hcycle (h.reaches.tail hstep)
  exact hne (hstart (hclosed start hback.to_reflTransGen))

end Trail

/-! ## Walks -/

/-- **How the walk from a node ends** in a linked document. -/
def Walk.Fits (cx : LinkContext) (links : Links) (start : NodeId) : Walk → Prop
  | .returns => TransGen (Inherits cx links) start start
  | .ends => ¬ TransGen (Inherits cx links) start start
  | .lost node _ => ¬ TransGen (Inherits cx links) start start ∧
      ReflTransGen (Inherits cx links) start node ∧ cx.tree.node? node = none
  | .stuck _ => False

/-- A step of a walk in a linked document, whatever its bound. -/
theorem walk_step (h : LinkContext.AllResolved cx.tree links) (start current : NodeId) :
    (∃ next, Inherits cx links current next ∧ ∀ n visited,
      walk cx start (n + 1) visited current links =
        if next = start then (.returns, links)
        else if visited.contains next then (.ends, links)
        else walk cx start n (next :: visited) next links) ∨
    (∀ next, ¬ Inherits cx links current next) ∧ ∃ w,
      (w = .ends ∨ w = .lost current cx.tree.ast.size ∧ cx.tree.node? current = none) ∧
      ∀ n visited, walk cx start (n + 1) visited current links = (w, links) := by
  simp only [walk]
  cases hnode : cx.tree.node? current with
  | none =>
    refine .inr ⟨fun next hstep => ?_, .lost current cx.tree.ast.size, .inr ⟨rfl, rfl⟩, fun _ _ => rfl⟩
    have hsome := hstep.isSome_node?
    rw [hnode] at hsome
    cases hsome
  | some node =>
    dsimp only
    cases hid : (node.refs "superType").head? with
    | none =>
      refine .inr ⟨?_, .ends, .inl rfl, fun _ _ => rfl⟩
      rintro next ⟨node', id, _, hnode', hid', -⟩
      rw [hnode, Option.some.injEq] at hnode'
      rw [← hnode', hid] at hid'
      cases hid'
    | some id =>
      dsimp only
      obtain ⟨outcome, houtcome, hsingle⟩ := cx.resolve_of_allResolved h id
      rw [houtcome]
      -- an entity inherits from what its first supertype alone is resolved to
      have hinherits : ∀ next, Inherits cx links current next →
          ∃ target, outcome = .single target ∧ target.uri = cx.document.uri ∧
            target.node = next := by
        rintro next ⟨node', id', target, hnode', hid', htarget, huri, htargetNode⟩
        rw [hnode, Option.some.injEq] at hnode'
        rw [← hnode', hid, Option.some.injEq] at hid'
        rw [← hid'] at htarget
        exact ⟨target, (hsingle target).mpr htarget, huri, htargetNode⟩
      cases outcome with
      | single target =>
        dsimp only
        by_cases huri : target.uri = cx.document.uri
        · refine .inl ⟨target.node, ⟨node, id, target, hnode, hid, (hsingle target).mp rfl, huri, rfl⟩,
            fun n visited => ?_⟩
          rw [if_neg (not_not_intro huri)]
        · refine .inr ⟨fun next hstep => ?_, .ends, .inl rfl, fun _ _ => ?_⟩
          · obtain ⟨target', htarget', huri', -⟩ := hinherits next hstep
            rw [Resolution.single.injEq] at htarget'
            exact huri (htarget' ▸ huri')
          · rw [if_pos huri]
      | multi targets =>
        refine .inr ⟨fun next hstep => ?_, .ends, .inl rfl, fun _ _ => rfl⟩
        obtain ⟨_, htarget, -⟩ := hinherits next hstep
        cases htarget
      | error message =>
        refine .inr ⟨fun next hstep => ?_, .ends, .inl rfl, fun _ _ => rfl⟩
        obtain ⟨_, htarget, -⟩ := hinherits next hstep
        cases htarget

/-- **A walk in a linked document comes to its end** within the nodes that it
was not at yet, and leaves the resolutions as they are. -/
theorem Trail.walk (hall : LinkContext.AllResolved cx.tree links) (k : ℕ)
    (h : Trail cx links start visited current) (hk : cx.tree.ast.size + 2 ≤ k + visited.length) :
    ∃ w : Walk, w.Fits cx links start ∧
      ∀ n, k ≤ n → DomainModel.walk cx start n visited current links = (w, links) := by
  induction k generalizing visited current with
  | zero =>
    have hlength := h.length_le
    omega
  | succ k ih =>
    have hpos : ∀ n, k + 1 ≤ n → ∃ m, n = m + 1 ∧ k ≤ m := fun n hn => ⟨n - 1, by omega⟩
    rcases walk_step hall start current with ⟨next, hstep, hwalk⟩ | ⟨hnone, w, hw, hwalk⟩
    · by_cases hstart : next = start
      · refine ⟨.returns, ?_, fun n hn => ?_⟩
        · exact TransGen.tail' h.reaches (hstart ▸ hstep)
        · obtain ⟨m, rfl, -⟩ := hpos n hn
          rw [hwalk, if_pos hstart]
      · by_cases hmet : next ∈ visited
        · -- the walk has come round to a node that is not the start
          refine ⟨.ends, h.not_cycle hstep hmet hstart, fun n hn => ?_⟩
          obtain ⟨m, rfl, -⟩ := hpos n hn
          rw [hwalk, if_neg hstart, if_pos (List.contains_iff_mem.mpr hmet)]
        · obtain ⟨w, hfits, hrest⟩ := ih (h.on hstep hmet) (by rw [List.length_cons]; omega)
          refine ⟨w, hfits, fun n hn => ?_⟩
          obtain ⟨m, rfl, hm⟩ := hpos n hn
          rw [hwalk, if_neg hstart, if_neg (by rwa [List.contains_iff_mem]), hrest m hm]
    · -- nothing above the last node, so no way back
      have hcycle : ¬ TransGen (Inherits cx links) start start := by
        intro hcycle
        obtain ⟨next, hstep, -⟩ := TransGen.head'_iff.mp (Inherits.back hcycle h.reaches)
        exact hnone next hstep
      refine ⟨w, ?_, fun n hn => ?_⟩
      · rcases hw with rfl | ⟨rfl, hlost⟩
        · exact hcycle
        · exact ⟨hcycle, h.reaches, hlost⟩
      · obtain ⟨m, rfl, -⟩ := hpos n hn
        exact hwalk m visited

/-- **The inheritance check reports exactly the entities that inherit from
themselves.** In a linked document the walk from an entity comes to its end
whatever its bound is beyond the size of the tree, and changes no resolution.
An entity from which the way only leads into a cycle gets no error. -/
theorem acyclicInheritance_reports (cx : CheckContext) (links : Links)
    (h : LinkContext.AllResolved cx.tree links) :
    (∃ w : Walk, ∀ n, cx.tree.ast.size < n →
      walk cx.linking cx.node n [cx.node] cx.node links = (w, links)) ∧
    (acyclicInheritance cx links).2 = links ∧
    (TransGen (Inherits cx.linking links) cx.node cx.node →
      (acyclicInheritance cx links).1 = ⟨[cycleError cx], none⟩) ∧
    (¬ TransGen (Inherits cx.linking links) cx.node cx.node →
      (acyclicInheritance cx links).1.diagnostics = []) ∧
    (∀ m, TransGen (Inherits cx.linking links) cx.node m →
      TransGen (Inherits cx.linking links) m m → ¬ TransGen (Inherits cx.linking links) m cx.node →
      (acyclicInheritance cx links).1.diagnostics = []) ∧
    ((∀ m, ReflTransGen (Inherits cx.linking links) cx.node m → (cx.tree.node? m).isSome = true) →
      (acyclicInheritance cx links).1.failure = none) := by
  have hhere : Trail cx.linking links cx.node [cx.node] cx.node := Trail.here
  obtain ⟨w, hfits, hwalk⟩ := hhere.walk h (cx.tree.ast.size + 1) (Nat.le_refl _)
  -- the bound of the check is among those that do
  have hcheck := hwalk _ (Nat.le_refl _)
  have hnot : ¬ TransGen (Inherits cx.linking links) cx.node cx.node →
      (acyclicInheritance cx links).1.diagnostics = [] := by
    intro hcycle
    rw [acyclicInheritance, hcheck]
    cases w with
    | returns => exact absurd hfits hcycle
    | _ => rfl
  refine ⟨⟨w, fun n hn => hwalk n hn⟩, ?_, ?_, hnot, ?_, ?_⟩
  · rw [acyclicInheritance, hcheck]
    cases w <;> rfl
  · intro hcycle
    rw [acyclicInheritance, hcheck]
    cases w with
    | returns => rfl
    | ends => exact absurd hcycle hfits
    | lost node size => exact absurd hcycle hfits.1
    | stuck cycle => exact hfits.elim
  · intro m hm _ hoff
    exact hnot fun hcycle => hoff (Inherits.back hcycle hm.to_reflTransGen)
  · intro hthere
    rw [acyclicInheritance, hcheck]
    cases w with
    | returns => rfl
    | ends => rfl
    | lost node size =>
      obtain ⟨-, hreached, hnone⟩ := hfits
      have hsome := hthere node hreached
      rw [CheckContext.tree, hnone] at hsome
      cases hsome
    | stuck cycle => exact hfits.elim

/-! ## Three entities -/

namespace Hierarchy

open Workspace

/-- Entities can inherit from each other. -/
def definition : Definition := Items.language "Entity" "superType" false

/-- The services of the language, with the checks of the domain model. -/
def services : Services := { Services.ofGrammar definition.grammar with checks }

theorem asking : services.Asking := ⟨⟨rfl, rfl⟩, asks_checks⟩

/-- The workspace of one file, in which the first entity inherits from the
second, and that one and the third from each other. -/
def loaded : Workspace :=
  ((Build.update services [Items.first] []).run
    (.ofFiles ⟨.memory, ⟨⟨[(Items.first, "a:bb:cc:b")]⟩⟩⟩) .never).2

/-- The document of the file. -/
def document : Document := (loaded.document? Items.first).getD (.ofText Items.first "")

/-- What a check of an entity looks at. -/
def at? (entity : NodeId) : Option CheckContext :=
  document.tree?.map fun tree => ⟨⟨services.linker, loaded.index, document, tree⟩, entity⟩

end Hierarchy

open Hierarchy in
/-- The first entity only leads into the cycle of the two others. -/
theorem acyclicInheritance_reports_cycle :
    document.state = .validated ∧
    ∃ cx cx' : CheckContext, at? ⟨1⟩ = some cx ∧ at? ⟨2⟩ = some cx' ∧
      LinkContext.AllResolved cx.tree document.links ∧
      ¬ TransGen (Inherits cx.linking document.links) ⟨1⟩ ⟨1⟩ ∧
      TransGen (Inherits cx'.linking document.links) ⟨2⟩ ⟨2⟩ ∧
      (acyclicInheritance cx document.links).1.diagnostics = [] ∧
      (acyclicInheritance cx' document.links).1 = ⟨[cycleError cx'], none⟩ := by
  have hfound : (document.tree?.any fun tree =>
      decide (∀ i < tree.references.size, (document.links[i]?).join.isSome = true)) = true ∧
      (at? ⟨1⟩).any (fun cx => (acyclicInheritance cx document.links).1.diagnostics.isEmpty) = true ∧
      (at? ⟨2⟩).any (fun cx => !(acyclicInheritance cx document.links).1.diagnostics.isEmpty) =
        true := by decide +kernel
  obtain ⟨hresolved, hnone, hsome⟩ := hfound
  obtain ⟨tree, htree, hresolved⟩ := (Option.any_eq_true _ _).mp hresolved
  have hat : ∀ entity, at? entity =
      some ⟨⟨services.linker, loaded.index, document, tree⟩, entity⟩ := by
    intro entity
    rw [at?, htree, Option.map_some]
  rw [hat, Option.any_some, List.isEmpty_iff] at hnone
  rw [hat, Option.any_some, Bool.not_eq_true', ← Bool.not_eq_true, List.isEmpty_iff] at hsome
  have hall : LinkContext.AllResolved tree document.links := fun i hi =>
    Option.isSome_iff_exists.mp (of_decide_eq_true hresolved i hi)
  obtain ⟨-, -, hreport, -⟩ := acyclicInheritance_reports
    ⟨⟨services.linker, loaded.index, document, tree⟩, ⟨1⟩⟩ _ hall
  obtain ⟨-, -, hreport', hsilent, -⟩ := acyclicInheritance_reports
    ⟨⟨services.linker, loaded.index, document, tree⟩, ⟨2⟩⟩ _ hall
  have hcycle := not_not.mp (mt hsilent hsome)
  refine ⟨by decide +kernel, _, _, hat _, hat _, hall, fun hown => ?_, hcycle, hnone,
    hreport' hcycle⟩
  rw [hreport hown] at hnone
  cases hnone

end DomainModel

end Workbench
