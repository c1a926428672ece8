import Workbench.Proofs.Transfer.Parsed
/-!
# Receivers with a grammar of their own

A receiver takes a frame if its element table is that of the sender. The
table holds the shapes of rules and elements and the features around them.
It does not hold the types of the nodes that rules make, nor which
cross-references stand for every candidate of a name. Both decide what a
reference refers to, which is not sent, and they decide nothing else: what a
receiver rebuilds is what the sender would rebuild, with targets of its own
(`rebuild_elsewhere`). Where types and cross-references are the same, so is
the result.
-/

namespace Workbench

/-! ## Targets of their own -/

namespace SyntaxTree

/-- A reference with the target that types give to its place. -/
def retarget (types : TypeGraph) (t : SyntaxTree) (ref : Reference) :
    Except Transfer.RebuildError Reference :=
  match types.referenceTarget? (t.typeOf ref.container) ref.property with
  | some target => .ok { ref with target }
  | none => .error (.unknownReferenceProperty (t.typeOf ref.container) ref.property)

/-- Whether all references have the targets that types give to their
places. -/
def Targeted (types : TypeGraph) (t : SyntaxTree) : Prop :=
  ∀ id ref, t.reference? id = some ref →
    types.referenceTarget? (t.typeOf ref.container) ref.property = some ref.target

end SyntaxTree

/-- **A result with the targets that types give** to its references; the first
reference without one is reported. -/
def ParseResult.retargeted (types : TypeGraph) (r : ParseResult) :
    Except Transfer.RebuildError ParseResult := do
  let references ← r.tree.references.toList.mapM (r.tree.retarget types)
  return { r with tree := { r.tree with references := references.toArray } }

section

variable {α β γ ε : Type}

/-- A step that failed: the first one, or the second. -/
theorem bind_eq_error {x : Except ε α} {f : α → Except ε β} {e : ε} (h : (x >>= f) = .error e) :
    x = .error e ∨ ∃ a, x = .ok a ∧ f a = .error e := by
  cases x with
  | error e' =>
    cases h
    exact Or.inl rfl
  | ok a => exact Or.inr ⟨a, rfl, h⟩

/-- Steps of which one failed. -/
theorem exists_of_mapM_error {f : α → Except ε β} {l : List α} {e : ε} (h : l.mapM f = .error e) :
    ∃ a ∈ l, f a = .error e := by
  induction l with
  | nil => cases h
  | cons a l ih =>
    rw [List.mapM_cons] at h
    rcases bind_eq_error h with ha | ⟨b, -, h⟩
    · exact ⟨a, List.mem_cons_self, ha⟩
    · rcases bind_eq_error h with hl | ⟨bs, -, h⟩
      · obtain ⟨c, hc, hfail⟩ := ih hl
        exact ⟨c, List.mem_cons_of_mem _ hc, hfail⟩
      · cases h

/-- Steps on what other steps have given. -/
theorem mapM_of_mapM {f : α → Except ε β} {f' : α → Except ε γ} {g : β → Except ε γ} {l : List α}
    {l' : List β} (hl : l.mapM f = .ok l') (h : ∀ a b, f a = .ok b → g b = f' a) :
    l'.mapM g = l.mapM f' := by
  induction l generalizing l' with
  | nil =>
    cases hl
    rfl
  | cons a l ih =>
    rw [List.mapM_cons] at hl
    obtain ⟨b, hb, hl⟩ := bind_eq_ok hl
    obtain ⟨bs, hbs, hl⟩ := bind_eq_ok hl
    cases hl
    rw [List.mapM_cons, List.mapM_cons, h a b hb, ih hbs]

/-- Steps that change nothing. -/
theorem mapM_eq_self_iff {f : α → Except ε α} {l : List α} :
    l.mapM f = .ok l ↔ ∀ a ∈ l, f a = .ok a := by
  constructor
  · intro h a ha
    obtain ⟨k, hk⟩ := List.mem_iff_getElem?.mp ha
    obtain ⟨b, hb, hf⟩ := getElem?_of_mapM h hk
    rwa [Option.some.inj (hb.symm.trans hk)] at hf
  · intro h
    have hmap := Transfer.mapM_eq_filterMap (g := some) fun a ha => ⟨a, rfl, h a ha⟩
    rwa [List.filterMap_some] at hmap

end

namespace ParseResult

variable {types : TypeGraph} {r r' : ParseResult}

/-- Nothing changes but references. -/
theorem eq_of_retargeted (h : r.retargeted types = .ok r') :
    r' = { r with tree := { r.tree with references := r'.tree.references } } := by
  obtain ⟨references, -, h⟩ := bind_eq_ok h
  cases h
  rfl

/-- Nothing changes at all if the targets were those of the types. -/
theorem retargeted_eq_self_iff : r.retargeted types = .ok r ↔ r.tree.Targeted types := by
  have hself : r.retargeted types = .ok r ↔
      r.tree.references.toList.mapM (r.tree.retarget types) = .ok r.tree.references.toList := by
    constructor
    · intro h
      obtain ⟨references, hreferences, h⟩ := bind_eq_ok h
      have hsame : references.toArray = r.tree.references :=
        congrArg (fun r => r.tree.references) (Except.ok.inj h)
      rw [hreferences, ← hsame]
    · intro h
      rw [retargeted, h]
      rfl
  rw [hself, mapM_eq_self_iff]
  have hone : ∀ ref : Reference, r.tree.retarget types ref = .ok ref ↔
      types.referenceTarget? (r.tree.typeOf ref.container) ref.property = some ref.target := by
    intro ref
    rw [SyntaxTree.retarget]
    cases types.referenceTarget? (r.tree.typeOf ref.container) ref.property with
    | none => exact ⟨nofun, nofun⟩
    | some target =>
      rw [Option.some.injEq, Except.ok.injEq]
      exact ⟨fun h => congrArg Reference.target h, fun h => by rw [h]⟩
  constructor
  · intro h id ref href
    exact (hone ref).mp (h ref (Array.mem_toList_iff.mpr (Array.mem_of_getElem? href)))
  · intro h ref href
    obtain ⟨i, hi⟩ := Array.mem_iff_getElem?.mp (Array.mem_toList_iff.mp href)
    exact (hone ref).mpr (h ⟨i⟩ ref hi)

end ParseResult

/-! ## What the table says of cross-references -/

/-- A place for cross-references: the index of the rule, the feature, and what
they refer to. -/
structure Place where
  rule : ℕ
  feature : String
  target : ReferenceTarget

/-- What the table holds of a place. -/
def Place.entry (p : Place) : ℕ × Option String × String :=
  (p.rule, some p.feature, p.target.typeName)

/-- The cross-reference that an entry of a table is about. -/
def TableEntry.crossRef? (entry : TableEntry) : Option (ℕ × Option String × String) :=
  match entry.tag with
  | .crossRef target => some (entry.rule, entry.feature, target)
  | _ => none

/-- The places of assignments of a rule. -/
def Place.ofAssignments (rule : ℕ) (assignments : List (String × AssignOp × Element)) :
    List Place :=
  assignments.flatMap fun (feature, _, value) => value.targets.map fun target =>
    ⟨rule, feature, target⟩

/-- The places of rules whose first index is given. -/
def Rule.placesFrom : ℕ → List Rule → List Place
  | _, [] => []
  | index, rule :: rules =>
    Place.ofAssignments index rule.body.assignments ++ placesFrom (index + 1) rules

/-- The places of a grammar, in order. -/
def Grammar.places (g : Grammar) : List Place := Rule.placesFrom 0 g.rules.toList

/-- The types of the nodes that rules make. -/
def Grammar.nodeTypes (g : Grammar) : List (Option String) := g.rules.toList.map Rule.nodeType?

/-- Which cross-references stand for every candidate, in order. -/
def Grammar.multiples (g : Grammar) : List Bool := g.places.map fun p => p.target.multi

section

variable {d : Definition} {rule : RuleDef} (g : Grammar) (index : ℕ)

mutual

/-- The cross-references of a value are its targets. -/
theorem Expr.Compiles.targets (feature : String) :
    ∀ {assigned : Bool} {e : Expr} {next next' : ℕ} {el : Element},
      Expr.Compiles d rule assigned e next el next' → e.assignable = true →
        (el.entries g index (some feature)).filterMap TableEntry.crossRef? =
          el.targets.map fun target => (index, some feature, target.typeName)
  | _, _, _, _, _, .keyword, _ => rfl
  | _, _, _, _, _, .terminal _, _ => rfl
  | _, _, _, _, _, .call _ _, _ => rfl
  | _, _, _, _, _, .crossRef _ _, _ => rfl
  | _, _, _, _, _, .alt hitems, he => by
    rw [Expr.assignable, Bool.and_eq_true] at he
    exact hitems.targets feature he.2
  | _, _, _, _, _, .assign _ _ _, he => by cases he
  | _, _, _, _, _, .seq _, he => by cases he
  | _, _, _, _, _, .repeated _, he => by cases he

theorem Expr.CompilesAll.targets (feature : String) :
    ∀ {assigned : Bool} {es : List Expr} {next next' : ℕ} {els : List Element},
      Expr.CompilesAll d rule assigned es next els next' → Expr.allAssignable es = true →
        (Element.entriesOf g index (some feature) els).filterMap TableEntry.crossRef? =
          (Element.targetsOf els).map fun target => (index, some feature, target.typeName)
  | _, _, _, _, _, .nil, _ => rfl
  | _, _, _, _, _, .cons he hes, hall => by
    rw [Expr.allAssignable, Bool.and_eq_true] at hall
    rw [Element.entriesOf, Element.targetsOf, List.filterMap_append, List.map_append,
      he.targets feature hall.1, hes.targets feature hall.2]

end

mutual

/-- **The cross-references of a body** are those of its assignments. -/
theorem Expr.Compiles.places :
    ∀ {assigned : Bool} {e : Expr} {next next' : ℕ} {el : Element},
      Expr.Compiles d rule assigned e next el next' → assigned = false →
        (el.entries g index none).filterMap TableEntry.crossRef? =
          (Place.ofAssignments index el.assignments).map Place.entry
  | _, _, _, _, _, .keyword, _ => rfl
  | _, _, _, _, _, .terminal _, _ => rfl
  | _, _, _, _, _, .call _ _, _ => rfl
  | _, _, _, _, _, .crossRef _ _, hassigned => by cases hassigned
  | _, _, _, _, _, @Expr.Compiles.assign _ _ feature _ _ _ _ _ _ hassignable hvalue, _ => by
    have htargets := hvalue.targets g index feature hassignable
    rw [Element.assignments, Place.ofAssignments, List.flatMap_singleton, List.map_map]
    exact htargets
  | _, _, _, _, _, .seq hitems, hassigned => hitems.places hassigned
  | _, _, _, _, _, .alt hitems, hassigned => hitems.places hassigned
  | _, _, _, _, _, .repeated hbody, hassigned => by
    have hplaces := hbody.places hassigned
    exact hplaces

theorem Expr.CompilesAll.places :
    ∀ {assigned : Bool} {es : List Expr} {next next' : ℕ} {els : List Element},
      Expr.CompilesAll d rule assigned es next els next' → assigned = false →
        (Element.entriesOf g index none els).filterMap TableEntry.crossRef? =
          (Place.ofAssignments index (Element.assignmentsOf els)).map Place.entry
  | _, _, _, _, _, .nil, _ => rfl
  | _, _, _, _, _, .cons he hes, hassigned => by
    rw [Element.entriesOf, Element.assignmentsOf, Place.ofAssignments, List.flatMap_append,
      List.filterMap_append, List.map_append, he.places hassigned, hes.places hassigned]
    rfl

end

theorem RuleDef.CompilesAll.places {rs : List RuleDef} {next next' : ℕ} {compiled : List Rule}
    (h : RuleDef.CompilesAll d rs next compiled next') :
    (Rule.entriesFrom g index compiled).filterMap TableEntry.crossRef? =
      (Rule.placesFrom index compiled).map Place.entry := by
  induction h generalizing index with
  | nil => rfl
  | @cons r rs next next₁ next' compiled others hone _ ih =>
    have hplaces := hone.body.places g index rfl
    rw [Rule.entriesFrom, Rule.placesFrom, List.map_append, ← hplaces, ← ih (index + 1),
      ← List.filterMap_append]
    rfl

/-- **The table of a compiled grammar tells the places of its
cross-references**, and the types they refer to. -/
theorem Definition.map_entry_places {g : Grammar} (h : d.build = .ok g) :
    g.places.map Place.entry = g.table.entries.toList.filterMap TableEntry.crossRef? := by
  obtain ⟨terminals, rules, last, entry, -, hrules, -, hg⟩ := Definition.build_ok h
  have hplaces := (RuleDef.compilesAll hrules).places g 0
  have hrulesList : g.rules.toList = rules := by rw [hg]
  rw [Grammar.places, Grammar.table, hrulesList]
  exact hplaces.symm

/-- The cross-references of rules are those of their places, on the nodes that
the rules make. -/
theorem flatMap_features_placesFrom (type : ℕ → Option String) (rules : List Rule)
    (htype : ∀ k rule, rules[k]? = some rule → type (index + k) = rule.nodeType?) :
    (rules.flatMap fun rule => match rule.nodeType? with
      | none => []
      | some type => rule.body.assignments.flatMap fun (feature, _, value) =>
          value.targets.map fun target => ((type, feature), target)) =
      (Rule.placesFrom index rules).filterMap fun p =>
        (type p.rule).map fun type => ((type, p.feature), p.target) := by
  induction rules generalizing index with
  | nil => rfl
  | cons rule rules ih =>
    have hhere := htype 0 rule rfl
    rw [Nat.add_zero] at hhere
    rw [List.flatMap_cons, Rule.placesFrom, List.filterMap_append,
      ih (index + 1) fun k rule' hrule' => by
        rw [Nat.add_assoc, Nat.add_comm 1 k]
        exact htype (k + 1) rule' hrule']
    congr 1
    rw [Place.ofAssignments, List.filterMap_flatMap]
    cases hnode : rule.nodeType? with
    | none =>
      refine (List.flatMap_eq_nil_iff.mpr ?_).symm
      rintro ⟨feature, op, value⟩ -
      simp [List.filterMap_map, hhere, hnode]
    | some type =>
      refine List.flatMap_congr ?_
      rintro ⟨feature, op, value⟩ -
      simp [List.filterMap_map, hhere, hnode]

/-- The cross-references of a grammar by node type. -/
theorem Grammar.referenceFeatures_eq (g : Grammar) :
    g.referenceFeatures = g.places.filterMap fun p =>
      (g.nodeTypes[p.rule]?).join.map fun type => ((type, p.feature), p.target) := by
  refine flatMap_features_placesFrom 0 (fun i => (g.nodeTypes[i]?).join) g.rules.toList
    fun k rule hrule => ?_
  rw [Nat.zero_add, Grammar.nodeTypes, List.getElem?_map, hrule]
  rfl

end

theorem eq_of_map_eq {α β γ : Type} {f : α → β} {f' : α → γ} {l l' : List α}
    (h : l.map f = l'.map f) (h' : l.map f' = l'.map f')
    (hinj : ∀ a b, f a = f b → f' a = f' b → a = b) : l = l' := by
  induction l generalizing l' with
  | nil => exact (List.map_eq_nil_iff.mp h.symm).symm
  | cons a l ih =>
    cases l' with
    | nil => cases h
    | cons b l' =>
      obtain ⟨hhead, htail⟩ := List.cons.inj h
      obtain ⟨hhead', htail'⟩ := List.cons.inj h'
      rw [hinj a b hhead hhead', ih htail htail']

/-- **What the table does not tell of cross-references** are the types of the
nodes that rules make, and which ones stand for every candidate. -/
theorem Definition.referenceFeatures_congr {d₁ d₂ : Definition} {g₁ g₂ : Grammar}
    (h₁ : d₁.build = .ok g₁) (h₂ : d₂.build = .ok g₂) (htable : g₁.table = g₂.table)
    (htypes : g₁.nodeTypes = g₂.nodeTypes) (hmultiples : g₁.multiples = g₂.multiples) :
    g₁.referenceFeatures = g₂.referenceFeatures := by
  have hentries : g₁.places.map Place.entry = g₂.places.map Place.entry := by
    rw [Definition.map_entry_places h₁, Definition.map_entry_places h₂, htable]
  have hplaces : g₁.places = g₂.places := by
    refine eq_of_map_eq hentries hmultiples fun p q hentry hmulti => ?_
    obtain ⟨hrule, hrest⟩ := Prod.mk.inj hentry
    obtain ⟨hfeature, htarget⟩ := Prod.mk.inj hrest
    obtain ⟨rule, feature, ⟨typeName, multi⟩⟩ := p
    obtain ⟨rule', feature', ⟨typeName', multi'⟩⟩ := q
    obtain rfl : rule = rule' := hrule
    obtain rfl : feature = feature' := Option.some.inj hfeature
    obtain rfl : typeName = typeName' := htarget
    obtain rfl : multi = multi' := hmulti
    rfl
  rw [Grammar.referenceFeatures_eq, Grammar.referenceFeatures_eq, htypes, hplaces]

namespace Transfer

/-! ## What is rebuilt before references have targets -/

/-- What instructions describe but for the targets of references. -/
structure Draft where
  site : Site
  cst : Array CstNode
  root : NodeId
  cstRoot : CstId

/-- A draft with the targets that types give. -/
def Draft.settle (types : TypeGraph) (draft : Draft) : Except RebuildError ParseResult := do
  let references ← draft.site.references.toList.mapM (draft.site.settle types)
  return ⟨⟨draft.site.ast, draft.cst, references.toArray, draft.root, draft.cstRoot⟩,
    draft.site.lexerErrors.toList, draft.site.parserErrors.toList⟩

/-- A rebuilding that asks types for nothing but targets, at its end. -/
def Drafted (rebuilding : TypeGraph → Except RebuildError ParseResult) : Prop :=
  ∃ o : Except RebuildError Draft, ∀ types, rebuilding types = o >>= Draft.settle types

namespace Drafted

theorem error (e : RebuildError) : Drafted fun _ => .error e := ⟨.error e, fun _ => rfl⟩

theorem bind {α : Type} {f : TypeGraph → α → Except RebuildError ParseResult}
    (x : Except RebuildError α) (h : ∀ a, Drafted fun types => f types a) :
    Drafted fun types => x >>= f types := by
  cases x with
  | error e => exact error e
  | ok a => exact h a

theorem finish (s : Site) (root : NodeId) : Drafted fun types => s.finish types root := by
  simp only [Site.finish]
  cases hstack : s.stack.isEmpty with
  | false => exact error _
  | true =>
    refine bind (s.needNode root) fun _ => ?_
    cases htyped : s.typed.findIdx? (!·) with
    | some missing => exact error _
    | none =>
      cases hroot : s.rootCst with
      | none => exact error _
      | some cstRoot =>
        exact bind s.definedCst fun cst => ⟨.ok ⟨s, cst, root, cstRoot⟩, fun _ => rfl⟩

theorem run (table : ElementTable) (xs : List Instruction) (s : Site) :
    Drafted fun types => Site.run table types xs s := by
  induction xs generalizing s with
  | nil => exact error .missingReturn
  | cons x rest ih =>
    cases x with
    | returnRoot root =>
      cases rest with
      | nil => exact finish s root
      | cons trailing _ => exact error (.trailingInstruction trailing.name)
    | _ => exact bind (s.apply table _) ih

/-- **Rebuilding asks types for nothing but targets**, at its end. -/
theorem rebuild (table : ElementTable) (xs : List Instruction) :
    ∃ o : Except RebuildError Draft, ∀ g : Grammar, g.table = table →
      Transfer.rebuild g xs = o >>= Draft.settle g.typeGraph := by
  unfold Transfer.rebuild
  split
  next cst ast rest =>
    obtain ⟨o, ho⟩ := run table rest (Site.allocate cst ast)
    exact ⟨o, fun g hg => hg ▸ ho g.typeGraph⟩
  next => exact ⟨.error .missingAllocate, fun _ _ => rfl⟩

end Drafted

/-! ## Drafts -/

namespace Draft

variable {draft : Draft} {types types' : TypeGraph} {r : ParseResult}

/-- What is settled takes the targets of other types like the draft. -/
theorem retargeted_settle (h : draft.settle types = .ok r) :
    r.retargeted types' = draft.settle types' := by
  obtain ⟨references, hreferences, h⟩ := bind_eq_ok h
  cases h
  rw [ParseResult.retargeted, settle]
  dsimp only
  rw [mapM_of_mapM hreferences fun pending ref hsettle => ?_]
  rw [Site.settle] at hsettle
  split at hsettle <;> cases hsettle
  rfl

/-- Only a reference can be without a target. -/
theorem settle_error {e : RebuildError} (h : draft.settle types = .error e) :
    ∃ type feature, e = .unknownReferenceProperty type feature ∧
      types.referenceTarget? type feature = none := by
  rcases bind_eq_error h with h | ⟨references, -, h⟩
  · obtain ⟨pending, -, hsettle⟩ := exists_of_mapM_error h
    rw [Site.settle] at hsettle
    split at hsettle
    · cases hsettle
    next hnone =>
      cases hsettle
      exact ⟨_, _, rfl, hnone⟩
  · cases h

/-- Types that agree on cross-references settle a draft alike. -/
theorem settle_congr (h : types.references = types'.references) :
    draft.settle types = draft.settle types' := by
  have hsettle : draft.site.settle types = draft.site.settle types' := by
    funext pending
    rw [Site.settle, Site.settle, TypeGraph.referenceTarget?, TypeGraph.referenceTarget?, h]
  rw [settle, settle, hsettle]

end Draft

/-! ## Two receivers -/

section

variable {g₁ g₂ : Grammar} {xs : List Instruction} {copy : ParseResult} {e : RebuildError}

/-- **What a receiver with the same table rebuilds**: the same with its own
targets. -/
theorem rebuild_of_table_eq (htable : g₁.table = g₂.table) (h : rebuild g₁ xs = .ok copy) :
    rebuild g₂ xs = copy.retargeted g₂.typeGraph := by
  obtain ⟨o, ho⟩ := Drafted.rebuild g₁.table xs
  rw [ho g₁ rfl] at h
  obtain ⟨draft, rfl, hsettle⟩ := bind_eq_ok h
  rw [ho g₂ htable.symm, Draft.retargeted_settle hsettle]
  rfl

/-- What one receiver rejects another rejects as well, unless a reference has
no target. -/
theorem rebuild_error_of_table_eq (htable : g₁.table = g₂.table) (h : rebuild g₁ xs = .error e) :
    rebuild g₂ xs = .error e ∨ ∃ type feature, e = .unknownReferenceProperty type feature ∧
      g₁.typeGraph.referenceTarget? type feature = none := by
  obtain ⟨o, ho⟩ := Drafted.rebuild g₁.table xs
  rw [ho g₁ rfl] at h
  rw [ho g₂ htable.symm]
  rcases bind_eq_error h with rfl | ⟨draft, -, hsettle⟩
  · exact Or.inl rfl
  · exact Or.inr (Draft.settle_error hsettle)

theorem rebuild_congr (htable : g₁.table = g₂.table)
    (hreferences : g₁.referenceFeatures = g₂.referenceFeatures) :
    rebuild g₁ xs = rebuild g₂ xs := by
  obtain ⟨o, ho⟩ := Drafted.rebuild g₁.table xs
  rw [ho g₁ rfl, ho g₂ htable.symm]
  cases o with
  | error e => rfl
  | ok draft => exact Draft.settle_congr hreferences

/-- Links agree with each other whatever is a target. -/
theorem linked_of_table_eq {t : SyntaxTree} (htable : g₁.table = g₂.table) (h : t.Linked g₁) :
    t.Linked g₂ where
  cst_tree := h.cst_tree
  cst_fits := by
    intro id hid
    obtain ⟨node, hnode, hfits⟩ := h.cst_fits id hid
    exact ⟨node, hnode, hfits.kind, hfits.root, htable ▸ hfits.source⟩
  ast_tree := h.ast_tree
  ast_fits := h.ast_fits

end

/-- **What receivers with the same table make of a parse.** What one rebuilds
the other rebuilds with targets of its own, and what one rejects the other
rejects alike, unless a reference has no target. They rebuild the same exactly
if the targets are the same, and so they do if their rules make nodes of the
same types and the same cross-references stand for every candidate. -/
theorem rebuild_elsewhere {d₁ d₂ : Definition} {g₁ g₂ : Grammar} (hbuild₁ : d₁.build = .ok g₁)
    (hbuild₂ : d₂.build = .ok g₂) (htable : g₁.table = g₂.table) {text : String}
    {name : Option String} {interrupt left : Interrupt} {r : ParseResult}
    (hparse : g₁.parse text name interrupt = .ok (r, left)) :
    (∀ e, rebuild g₁ (flatten r) = .error e → rebuild g₂ (flatten r) = .error e ∨
      ∃ type feature, e = .unknownReferenceProperty type feature ∧
        g₁.typeGraph.referenceTarget? type feature = none) ∧
    (∀ copy, rebuild g₁ (flatten r) = .ok copy →
      rebuild g₂ (flatten r) = copy.retargeted g₂.typeGraph ∧
      (rebuild g₂ (flatten r) = .ok copy ↔ copy.tree.Targeted g₂.typeGraph) ∧
      ∀ copy', rebuild g₂ (flatten r) = .ok copy' → copy'.tree.renderCst = copy.tree.renderCst) ∧
    ((∃ copy, rebuild g₂ (flatten r) = .ok copy ∧ r.Mirrored copy) ↔ r.tree.Portable g₂) ∧
    (g₁.nodeTypes = g₂.nodeTypes → g₁.multiples = g₂.multiples →
      rebuild g₂ (flatten r) = rebuild g₁ (flatten r)) := by
  refine ⟨fun e => rebuild_error_of_table_eq htable, fun copy hcopy => ?_, ?_, ?_⟩
  · have hretargeted := rebuild_of_table_eq htable hcopy
    refine ⟨hretargeted, ?_, fun copy' hcopy' => ?_⟩
    · rw [hretargeted]
      exact ParseResult.retargeted_eq_self_iff
    · rw [hretargeted] at hcopy'
      rw [ParseResult.eq_of_retargeted hcopy']
      exact congrArg SyntaxTree.unlines (SyntaxTree.cstLines_references _ _ _ _ _ _)
  · exact exists_mirrored_iff (linked_of_table_eq htable (Grammar.parse_linked hbuild₁ hparse))
  · intro htypes hmultiples
    exact rebuild_congr htable.symm
      (Definition.referenceFeatures_congr hbuild₁ hbuild₂ htable htypes hmultiples).symm

/-! ## Three grammars with one table -/

namespace Agreed

/-- Models that refer to models, and a rule beside. -/
def definition (multi : Bool) (type beside : String) : Definition :=
  { name := "Models"
    terminals := [⟨"ID", "[a-z]+", .token, .text⟩]
    rules := [
      ⟨"Model", some type, .assign "r" .set (.crossRef "Model" "ID" multi)⟩,
      ⟨"Beside", some beside, .terminal "ID"⟩]
    entry := none }

/-- The grammar of the sender. -/
def sender : Definition := definition false "Model" "Beside"

/-- References stand for every candidate. -/
def plural : Definition := definition true "Model" "Beside"

/-- The two rules make nodes of each other's types. -/
def swapped : Definition := definition false "Beside" "Model"

/-- The parse of one letter. -/
def result : ParseResult :=
  { tree :=
      { ast := #[⟨"Model", none, none, none, some ⟨0⟩, ⟨[("r", .reference ⟨0⟩)]⟩⟩]
        cst := #[
          ⟨.root "x" #[⟨1⟩], none, ⟨0⟩, some ⟨0⟩, some ⟨0⟩, false⟩,
          ⟨.leaf "ID" 0 1 ⟨⟨0, 0⟩, ⟨0, 1⟩⟩, some ⟨0⟩, ⟨0⟩, some ⟨0⟩, some ⟨2⟩, false⟩]
        references := #[⟨⟨0⟩, "r", none, "x", some ⟨1⟩, ⟨"Model", false⟩⟩]
        root := ⟨0⟩
        cstRoot := ⟨0⟩ }
    lexerErrors := []
    parserErrors := [] }

theorem parse_text : sender.grammar.parse "x" none .never = .ok (result, .never) := by
  decide +kernel

theorem build_definitions : sender.build = .ok sender.grammar ∧
    plural.build = .ok plural.grammar ∧ swapped.build = .ok swapped.grammar :=
  ⟨Definition.build_of_parse parse_text, Definition.build_of_isOk (by decide +kernel),
    Definition.build_of_isOk (by decide +kernel)⟩

end Agreed

open Agreed in
/-- **The table does not tell what a receiver rebuilds.** Of three grammars
with the same table one rebuilds the parse, another one rebuilds it with a
reference that stands for every candidate, and the third one rejects it. -/
theorem table_hides_targets :
    (sender.build = .ok sender.grammar ∧ plural.build = .ok plural.grammar ∧
      swapped.build = .ok swapped.grammar) ∧
    (sender.grammar.table = plural.grammar.table ∧
      sender.grammar.table = swapped.grammar.table) ∧
    sender.grammar.parse "x" none .never = .ok (result, .never) ∧
    (rebuild sender.grammar (flatten result)).map (fun copy => copy.tree.render) =
      .ok "Model @0..1\n  r -> Model:'x' @0..1\n" ∧
    (rebuild plural.grammar (flatten result)).map (fun copy => copy.tree.render) =
      .ok "Model @0..1\n  r ->> Model:'x' @0..1\n" ∧
    rebuild swapped.grammar (flatten result) = .error (.unknownReferenceProperty "Model" "r") :=
  ⟨build_definitions, ⟨by decide +kernel, by decide +kernel⟩,
    parse_text, by decide +kernel, by decide +kernel, by decide +kernel⟩

open Agreed in
/-- The second grammar rebuilds the parse but for the target of the
reference. -/
theorem rebuild_elsewhere_plural :
    rebuild sender.grammar (flatten result) = .ok result ∧
      rebuild plural.grammar (flatten result) = result.retargeted plural.grammar.typeGraph ∧
      rebuild plural.grammar (flatten result) ≠ .ok result := by
  have hcopy : rebuild sender.grammar (flatten result) = .ok result := by decide +kernel
  have htable : sender.grammar.table = plural.grammar.table := by decide +kernel
  obtain ⟨hsender, hplural, -⟩ := build_definitions
  have hsame := (rebuild_elsewhere hsender hplural htable parse_text).2.1 result hcopy
  exact ⟨hcopy, hsame.1, by decide +kernel⟩

end Transfer

end Workbench
