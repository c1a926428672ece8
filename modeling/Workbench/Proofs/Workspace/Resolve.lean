import Workbench.Proofs.Workspace.Phase
import Workbench.Validation.DomainModel
/-!
# What is resolved stays resolved

With the usual services a reference has one answer, the lookup of its text
in its scope, which depends on no other reference. Asking for a reference
keeps the answer, and asking again changes nothing. A check that has no
other way to resolve references than to ask for them therefore finds a
linked document as it leaves it.
-/

namespace Workbench

namespace LinkContext

variable {cx : LinkContext} {links : Links} {id : RefId}

/-- What the text of a reference stands for in its scope. -/
def answer (cx : LinkContext) (reference : Reference) : Resolution :=
  lookUp reference (cx.lexicalScope reference)

/-- What is kept when a reference is asked for. -/
def ask (cx : LinkContext) (links : Links) (id : RefId) : Links := (cx.resolve links id).2

theorem ask_of_resolved {resolution : Resolution} (h : (links[id.index]?).join = some resolution) :
    cx.ask links id = links := by
  rw [ask, resolve, resolveTo, h]

theorem ask_of_missing (h : cx.tree.reference? id = none) : cx.ask links id = links := by
  rw [ask, resolve, resolveTo, h]
  cases (links[id.index]?).join <;> rfl

/-- A reference that is there and not resolved gets its answer. -/
theorem resolve_usual (husual : cx.linker.provider = .default)
    (hnone : (links[id.index]?).join = none) {reference : Reference}
    (hreference : cx.tree.reference? id = some reference) :
    cx.resolve links id = (.ok (cx.answer reference),
      if cx.keeps (cx.answer reference) then
        links.setIfInBounds id.index (some (cx.answer reference))
      else links) := by
  rw [resolve, resolveTo, hnone, hreference]
  dsimp only
  rw [if_neg (by simp), husual]
  rfl

theorem settle_usual (husual : cx.linker.provider = .default) :
    cx.settle links id = cx.ask links id := by
  rw [settle]
  cases hjoin : (links[id.index]?).join with
  | some resolution => rw [ask_of_resolved hjoin]
  | none =>
    dsimp only
    rw [ask]
    cases hreference : cx.tree.reference? id with
    | none =>
      have hmissing :
          cx.resolve links id = (.ok (.error "There is no such reference."), links) := by
        rw [resolve, resolveTo, hjoin, hreference]
      rw [hmissing]
    | some reference => rw [resolve_usual husual hjoin hreference]

theorem size_ask (husual : cx.linker.provider = .default) :
    (cx.ask links id).size = links.size := by
  cases hjoin : (links[id.index]?).join with
  | some resolution => rw [ask_of_resolved hjoin]
  | none =>
    cases hreference : cx.tree.reference? id with
    | none => rw [ask_of_missing hreference]
    | some reference =>
      rw [ask, resolve_usual husual hjoin hreference]
      dsimp only
      split
      · exact Array.size_setIfInBounds ..
      · rfl

theorem size_asks (husual : cx.linker.provider = .default) (ids : List RefId) :
    (ids.foldl cx.ask links).size = links.size := by
  induction ids generalizing links with
  | nil => rfl
  | cons id rest ih => rw [List.foldl_cons, ih, size_ask husual]

/-- Whether every reference of a tree is resolved. -/
def AllResolved (tree : SyntaxTree) (links : Links) : Prop :=
  ∀ i < tree.references.size, ∃ resolution, (links[i]?).join = some resolution

theorem asks_of_allResolved (h : AllResolved cx.tree links) (ids : List RefId) :
    ids.foldl cx.ask links = links := by
  induction ids with
  | nil => rfl
  | cons id rest ih =>
    rw [List.foldl_cons]
    have hsame : cx.ask links id = links := by
      by_cases hlt : id.index < cx.tree.references.size
      · obtain ⟨resolution, hresolution⟩ := h id.index hlt
        exact ask_of_resolved hresolution
      · refine ask_of_missing ?_
        rw [SyntaxTree.reference?, Array.getElem?_eq_none (Nat.le_of_not_lt hlt)]
    rw [hsame, ih]

/-- What a reference is resolved to once it was asked for, if answers are
kept: what it was resolved to before, or its answer. -/
theorem ask_get? (husual : cx.linker.provider = .default)
    (hkeeps : ∀ resolution, cx.keeps resolution = true) {reference : Reference}
    (hreference : cx.tree.reference? id = some reference) (hlt : id.index < links.size) (j : Nat) :
    ((cx.ask links id)[j]?).join =
      if j = id.index then some ((links[j]?).join.getD (cx.answer reference))
      else (links[j]?).join := by
  cases hjoin : (links[id.index]?).join with
  | some resolution =>
    rw [ask_of_resolved hjoin]
    split
    next hj => rw [hj, hjoin, Option.getD_some]
    next => rfl
  | none =>
    rw [ask, resolve_usual husual hjoin hreference, hkeeps, if_pos rfl,
      Array.getElem?_setIfInBounds]
    by_cases hj : id.index = j
    · subst hj
      rw [if_pos rfl, if_pos hlt, if_pos rfl, hjoin]
      rfl
    · rw [if_neg hj, if_neg (Ne.symm hj)]

theorem asks_get? (husual : cx.linker.provider = .default)
    (hkeeps : ∀ resolution, cx.keeps resolution = true)
    (hsize : links.size = cx.tree.references.size) (n : Nat) (hn : n ≤ cx.tree.references.size)
    (j : Nat) (hj : j < cx.tree.references.size) :
    ((((List.range n).map RefId.mk).foldl cx.ask links)[j]?).join =
      if j < n then some ((links[j]?).join.getD (cx.answer cx.tree.references[j]))
      else (links[j]?).join := by
  induction n with
  | zero => rfl
  | succ n ih =>
    have hlt : n < cx.tree.references.size := hn
    have hreference : cx.tree.reference? ⟨n⟩ = some cx.tree.references[n] :=
      Array.getElem?_eq_getElem hlt
    have hbound : (⟨n⟩ : RefId).index <
        (((List.range n).map RefId.mk).foldl cx.ask links).size := by
      rw [size_asks husual, hsize]
      exact hlt
    rw [List.range_succ, List.map_append, List.foldl_append, List.map_singleton, List.foldl_cons,
      List.foldl_nil, ask_get? husual hkeeps hreference hbound, ih (Nat.le_of_lt hlt)]
    by_cases hjn : j = n
    · subst hjn
      rw [if_pos rfl, if_neg (Nat.lt_irrefl _), if_pos (Nat.lt_succ_self _)]
    · rw [if_neg hjn]
      by_cases hless : j < n
      · rw [if_pos hless, if_pos (Nat.lt_succ_of_lt hless)]
      · rw [if_neg hless, if_neg (by omega)]

end LinkContext

/-! ## Linking -/

namespace Linker

variable {l : Linker} {x : Index} {d : Document} {tree : SyntaxTree}

theorem links_linked (husual : l.provider = .default) (htree : d.tree? = some tree) :
    (l.linked x d).links =
      ((List.range tree.references.size).map RefId.mk).foldl (LinkContext.ask ⟨l, x, d, tree⟩)
        d.links := by
  have hsettle : LinkContext.settle ⟨l, x, d, tree⟩ = LinkContext.ask ⟨l, x, d, tree⟩ := by
    funext links id
    exact LinkContext.settle_usual husual
  rw [linked, context?, htree, ← hsettle]
  rfl

/-- **What linking resolves a reference to**: what it was resolved to before,
or its answer. -/
theorem linked_get? (husual : l.provider = .default) (htree : d.tree? = some tree)
    (hsize : d.links.size = tree.references.size) (hstate : .computedScopes ≤ d.state) {i : Nat}
    (hi : i < tree.references.size) :
    (((l.linked x d).links)[i]?).join =
      some ((d.links[i]?).join.getD (LinkContext.answer ⟨l, x, d, tree⟩ tree.references[i])) := by
  have hkeeps : ∀ resolution, LinkContext.keeps ⟨l, x, d, tree⟩ resolution = true := by
    intro resolution
    have hnot : decide (d.state < .computedScopes) = false :=
      decide_eq_false (Nat.not_lt_of_le hstate)
    rw [LinkContext.keeps]
    dsimp only
    rw [hnot, Bool.and_false]
    rfl
  rw [links_linked husual htree, @LinkContext.asks_get? ⟨l, x, d, tree⟩ d.links husual hkeeps hsize
    tree.references.size (Nat.le_refl _) i hi, if_pos hi]

theorem size_linked (husual : l.provider = .default) :
    (l.linked x d).links.size = d.links.size := by
  cases htree : d.tree? with
  | none => rw [linked, context?, htree]; rfl
  | some tree => rw [links_linked husual htree, LinkContext.size_asks husual]

end Linker

/-! ## Checks -/

/-- **A check that changes resolutions only by asking for references.** -/
def Check.Asks (check : Check) : Prop :=
  ∀ cx links, ∃ ids : List RefId, (check cx links).2 = ids.foldl cx.linking.ask links

/-- Checks that change resolutions only by asking for references. -/
def CheckRegistry.Asks (r : CheckRegistry) : Prop := ∀ entry ∈ r, Check.Asks entry.2

namespace CheckRegistry

variable {r : CheckRegistry} {cx : LinkContext} {links : Links}

theorem mem_checksFor {types : TypeGraph} {type : String} {check : Check}
    (h : check ∈ r.checksFor types type) : ∃ entry ∈ r, entry.2 = check := by
  rw [checksFor, List.mem_flatMap] at h
  obtain ⟨t, -, hmem⟩ := h
  obtain ⟨⟨registered, found⟩, hentry, hsome⟩ := List.mem_filterMap.mp hmem
  refine ⟨_, hentry, ?_⟩
  dsimp only at hsome
  split at hsome
  · exact Option.some.inj hsome
  · cases hsome

/-- What holds of resolutions and is kept by every check is kept on all
nodes. -/
theorem onNodes_invariant {P : Links → Prop}
    (hstep : ∀ entry ∈ r, ∀ node links, P links → P (entry.2 ⟨cx, node⟩ links).2)
    (hlinks : P links) (ids : List NodeId) : P (r.onNodes cx ids links).2 := by
  have hchecks : ∀ (node : NodeId) (checks : List Check) (links : Links),
      (∀ check ∈ checks, ∃ entry ∈ r, entry.2 = check) → P links →
        P (runChecks ⟨cx, node⟩ checks links).2 := by
    intro node checks
    induction checks with
    | nil => exact fun _ _ h => h
    | cons check rest ih =>
      intro links hmem h
      obtain ⟨entry, hentry, rfl⟩ := hmem check List.mem_cons_self
      exact ih _ (fun check' hcheck' => hmem check' (List.mem_cons_of_mem _ hcheck'))
        (hstep entry hentry node links h)
  induction ids generalizing links with
  | nil => exact hlinks
  | cons id rest ih =>
    exact ih (hchecks id _ links (fun check hcheck => mem_checksFor hcheck) hlinks)

theorem size_onNodes (hasks : r.Asks) (husual : cx.linker.provider = .default)
    (ids : List NodeId) : (r.onNodes cx ids links).2.size = links.size := by
  refine onNodes_invariant (P := fun links' => links'.size = links.size) ?_ rfl ids
  intro entry hentry node links' hsize
  obtain ⟨asked, hasked⟩ := hasks entry hentry ⟨cx, node⟩ links'
  rw [hasked, LinkContext.size_asks husual, hsize]

/-- Checks that every one leave resolutions as they are do so together. -/
theorem onNodes_of_pure (hpure : ∀ entry ∈ r, ∀ node, (entry.2 ⟨cx, node⟩ links).2 = links)
    (ids : List NodeId) : (r.onNodes cx ids links).2 = links := by
  refine onNodes_invariant (P := (· = links)) ?_ rfl ids
  rintro entry hentry node _ rfl
  exact hpure entry hentry node

end CheckRegistry

/-! ## The checks of the domain model -/

namespace DomainModel

theorem asks_walk (cx : LinkContext) (start : NodeId) (n : Nat) (visited : List NodeId)
    (current : NodeId) (links : Links) :
    ∃ ids : List RefId, (walk cx start n visited current links).2 = ids.foldl cx.ask links := by
  induction n generalizing visited current links with
  | zero => exact ⟨[], rfl⟩
  | succ n ih =>
    rw [walk]
    split
    · exact ⟨[], rfl⟩
    · split
      · exact ⟨[], rfl⟩
      next id _ =>
        have hask : (cx.resolve links id).2 = [id].foldl cx.ask links := rfl
        split
        next h =>
          rw [h] at hask
          exact ⟨[id], hask⟩
        next target links' h =>
          rw [h] at hask
          split
          · exact ⟨[id], hask⟩
          · split
            · exact ⟨[id], hask⟩
            · split
              · exact ⟨[id], hask⟩
              · obtain ⟨ids, hids⟩ := ih (target.node :: visited) target.node links'
                refine ⟨id :: ids, ?_⟩
                rw [hids, List.foldl_cons]
                exact congrArg (ids.foldl cx.ask) hask
        next h =>
          rw [h] at hask
          exact ⟨[id], hask⟩

/-- **The checks of the domain model change resolutions only by asking for
references.** -/
theorem asks_checks : checks.Asks := by
  intro entry hentry
  rw [checks, List.mem_cons, List.mem_cons, List.mem_singleton] at hentry
  rcases hentry with rfl | rfl | rfl
  · exact fun cx links => ⟨[], rfl⟩
  · exact fun cx links => ⟨[], rfl⟩
  · intro cx links
    obtain ⟨ids, hids⟩ :=
      asks_walk cx.linking cx.node (cx.tree.ast.size + 1) [cx.node] cx.node links
    refine ⟨ids, ?_⟩
    rw [← hids]
    show (acyclicInheritance cx links).2 = _
    rw [acyclicInheritance]
    split <;> rename_i h <;> rw [h]

end DomainModel
end Workbench
