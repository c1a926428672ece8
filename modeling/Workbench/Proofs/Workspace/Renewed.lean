import Workbench.Proofs.Workspace.Candidates
/-!
# Documents that are parsed again

A document that is parsed again from the text it had gets the tree it had, and
a new version. Its symbols are then the same but for the version. If this is
all that happens to the documents, a text stands for something just if it did
before, and a reference to many nodes lists the same nodes. Which node a
reference to one node leads to also depends on the order of the exports in
the index: it is the first that fits, unless one fits in a node around the
reference. If some documents were moved behind the others in that order, the
reference has moved exactly if its document was *overtaken*.
-/

namespace Workbench

/-- The symbol of the same node in another version of the document. -/
def Symbol.atVersion (s : Symbol) (version : ℕ) : Symbol := { s with version }

namespace Document

/-- Two documents have one tree, in whatever version. -/
structure SameTree (d d' : Document) : Prop where
  uri : d'.uri = d.uri
  parse : d'.parse = d.parse

variable {types : TypeGraph} {reference : Reference} {s : Symbol} {d d' : Document} {id : NodeId}
  {tree : SyntaxTree}

namespace SameTree

theorem symm (h : d.SameTree d') : d'.SameTree d := ⟨h.uri.symm, h.parse.symm⟩

theorem tree?_eq (h : d.SameTree d') : d'.tree? = d.tree? := by
  rw [tree?, tree?, h.parse]

theorem symbol?_eq (h : d.SameTree d') (id : NodeId) :
    d'.symbol? id = (d.symbol? id).map (·.atVersion d'.version) := by
  rw [symbol?, symbol?, h.tree?_eq, h.uri]
  cases d.tree? with
  | none => rfl
  | some tree =>
    rw [Option.bind_some, Option.bind_some, SyntaxTree.symbol?, SyntaxTree.symbol?, Option.map_map]
    rfl

/-- What is exported is the same but for the version. -/
theorem exported_eq (h : d.SameTree d') :
    d'.exported = d.exported.map (·.atVersion d'.version) := by
  rw [exported, exported, h.tree?_eq]
  cases d.tree? with
  | none => rfl
  | some tree =>
    dsimp only
    rw [List.map_filterMap]
    exact List.filterMap_congr fun id _ => h.symbol?_eq id

theorem get?_addLocal (h : d.SameTree d') {found found' : LocalSymbols}
    (hfound : ∀ c, (found'.get? c).getD [] =
      ((found.get? c).getD []).map (·.atVersion d'.version)) (id c : NodeId) :
    ((ScopeComputation.addLocal d' tree found' id).get? c).getD [] =
      (((ScopeComputation.addLocal d tree found id).get? c).getD []).map
        (·.atVersion d'.version) := by
  rw [ScopeComputation.addLocal, ScopeComputation.addLocal, h.symbol?_eq]
  cases (tree.node? id).bind AstNode.container with
  | none => exact hfound c
  | some container =>
    cases d.symbol? id with
    | none => exact hfound c
    | some symbol =>
      dsimp only [Option.map_some]
      rw [LocalSymbols.add, LocalSymbols.add, OrderedMap.get?_insert, OrderedMap.get?_insert]
      by_cases hc : c = container
      · rw [if_pos hc, if_pos hc, Option.getD_some, Option.getD_some, hfound, List.map_append]
        rfl
      · rw [if_neg hc, if_neg hc]
        exact hfound c

/-- What is visible in a node is the same but for the version. -/
theorem get?_scoped (h : d.SameTree d') (c : NodeId) :
    (d'.scoped.get? c).getD [] = ((d.scoped.get? c).getD []).map (·.atVersion d'.version) := by
  rw [Document.scoped, Document.scoped, h.tree?_eq]
  cases d.tree? with
  | none => rfl
  | some tree =>
    have hfold : ∀ (ids : List NodeId) (found found' : LocalSymbols),
        (∀ c, (found'.get? c).getD [] = ((found.get? c).getD []).map (·.atVersion d'.version)) →
        ((ids.foldl (ScopeComputation.addLocal d' tree) found').get? c).getD [] =
          (((ids.foldl (ScopeComputation.addLocal d tree) found).get? c).getD []).map
            (·.atVersion d'.version) := by
      intro ids
      induction ids with
      | nil => exact fun _ _ hfound => hfound c
      | cons id rest ih => exact fun _ _ hfound => ih _ _ (h.get?_addLocal hfound id)
    exact hfold tree.preorder .empty .empty fun _ => rfl

end SameTree

/-- A symbol leads to the path of its node. -/
theorem path_of_symbol? (htree : d.tree? = some tree) (h : d.symbol? id = some s) :
    s.handle = ⟨d.uri, d.version, id⟩ ∧ s.path = tree.pathOf id := by
  rw [symbol?, htree, Option.bind_some, SyntaxTree.symbol?] at h
  obtain ⟨name, -, rfl⟩ := Option.map_eq_some_iff.mp h
  exact ⟨rfl, rfl⟩

end Document

/-! ## What fits a reference -/

/-- A symbol has the name and a type that a reference asks for. -/
def Reference.fits (types : TypeGraph) (reference : Reference) (s : Symbol) : Bool :=
  types.isSubtype s.typeName reference.target.typeName && s.name == reference.refText

theorem findSome?_congr {α β : Type} {f g : α → Option β} {l : List α} (h : ∀ a ∈ l, f a = g a) :
    l.findSome? f = l.findSome? g := by
  induction l with
  | nil => rfl
  | cons a rest ih =>
    rw [List.findSome?_cons, List.findSome?_cons, h a List.mem_cons_self,
      ih fun a' ha' => h a' (List.mem_cons_of_mem _ ha')]

namespace Document

variable {types : TypeGraph} {d d' : Document}

/-- The first symbol that fits a reference in the nodes around it, from the
inside out. -/
def near? (types : TypeGraph) (d : Document) (tree : SyntaxTree) (reference : Reference) :
    Option Symbol :=
  (LinkContext.enclosing tree tree.ast.size reference.container).findSome? fun id =>
    ((d.scoped.get? id).getD []).find? (reference.fits types)

/-- The first export of a document that fits a reference. -/
def offer? (types : TypeGraph) (reference : Reference) (d : Document) : Option Symbol :=
  d.exported.find? (reference.fits types)

/-- What fits around a reference is the same but for the version. -/
theorem SameTree.near?_eq (h : d.SameTree d') (tree : SyntaxTree) (reference : Reference) :
    d'.near? types tree reference =
      (d.near? types tree reference).map (·.atVersion d'.version) := by
  rw [Document.near?, Document.near?, List.map_findSome?]
  refine findSome?_congr fun id _ => ?_
  rw [h.get?_scoped, List.find?_map]
  rfl

/-- What is offered is the same but for the version. -/
theorem SameTree.offer?_eq (h : d.SameTree d') (reference : Reference) :
    d'.offer? types reference = (d.offer? types reference).map (·.atVersion d'.version) := by
  rw [offer?, offer?, h.exported_eq, List.find?_map]
  rfl

end Document

namespace Built

/-- What the document of a uri offers to a reference. -/
def offer? (types : TypeGraph) (b : Built) (reference : Reference) (uri : Uri) : Option Symbol :=
  (b.documents.get? uri).bind (Document.offer? types reference)

/-- **Where a handle leads**, whatever its version: a document and the path of
a node. -/
def placed (b : Built) (h : NodeHandle) : Uri × Option String :=
  (h.uri, (b.documents.get? h.uri).bind fun d => d.tree?.map (·.pathOf h.node))

/-- Versions are of no account for where a handle leads. -/
theorem placed_congr (b : Built) {h h' : NodeHandle} (huri : h'.uri = h.uri)
    (hnode : h'.node = h.node) : b.placed h' = b.placed h := by
  rw [placed, placed, huri, hnode]

/-- **The same documents in other versions.** Both times all of them are in the
index. -/
structure Renewed (b b' : Built) : Prop where
  keys : b'.documents.keys = b.documents.keys
  document : ∀ uri d, b.documents.get? uri = some d → ∃ d', b'.documents.get? uri = some d' ∧
    d.SameTree d' ∧ .indexedContent ≤ d.state ∧ .indexedContent ≤ d'.state

variable {services : Services} {types : TypeGraph} {b b' : Built} {d d' : Document}
  {reference : Reference} {s : Symbol} {uri : Uri} {tree : SyntaxTree}

namespace Renewed

theorem before (h : b.Renewed b') (hd' : b'.documents.get? uri = some d') :
    ∃ d, b.documents.get? uri = some d ∧ d.SameTree d' := by
  obtain ⟨d, hd⟩ := OrderedMap.exists_of_keys_eq h.keys.symm hd'
  obtain ⟨e', he', hsame, -⟩ := h.document uri d hd
  rw [hd', Option.some.injEq] at he'
  subst he'
  exact ⟨d, hd, hsame⟩

theorem symm (h : b.Renewed b') : b'.Renewed b := by
  refine ⟨h.keys.symm, fun uri d' hd' => ?_⟩
  obtain ⟨d, hd, -⟩ := h.before hd'
  obtain ⟨e', he', hsame, hindexed, hindexed'⟩ := h.document uri d hd
  rw [hd', Option.some.injEq] at he'
  subst he'
  exact ⟨d, hd, hsame.symm, hindexed', hindexed⟩

/-- Every handle leads to where it led. -/
theorem placed_eq (h : b.Renewed b') : b'.placed = b.placed := by
  funext target
  rw [placed, placed]
  cases hd : b.documents.get? target.uri with
  | none =>
    have hnone : b'.documents.get? target.uri = none := by
      rw [OrderedMap.get?_eq_none_iff, h.keys, ← OrderedMap.get?_eq_none_iff]
      exact hd
    rw [hnone]
  | some d =>
    obtain ⟨d', hd', hsame, -⟩ := h.document _ d hd
    rw [hd', Option.bind_some, Option.bind_some, hsame.tree?_eq]

/-- **What was in scope is in scope**, in some version. -/
theorem inScope (h : b.Renewed b') (hd : d.SameTree d') (hs : b.InScope types d reference s) :
    ∃ version, b'.InScope types d' reference (s.atVersion version) := by
  rcases hs.place with ⟨tree, htree, id, hid, hlocal⟩ | ⟨uri, e, he, -, hexported⟩
  · refine ⟨d'.version, hs.name, hs.type, Or.inl ⟨tree, hd.tree?_eq.trans htree, id, hid, ?_⟩⟩
    rw [hd.get?_scoped]
    exact List.mem_map_of_mem hlocal
  · obtain ⟨e', he', hsame, -, hindexed⟩ := h.document uri e he
    refine ⟨e'.version, hs.name, hs.type, Or.inr ⟨uri, e', he', hindexed, ?_⟩⟩
    rw [hsame.exported_eq]
    exact List.mem_map_of_mem hexported

end Renewed

/-- A symbol in scope is that of a node of a document. -/
theorem InScope.exists_symbol (h : b.InScope types d reference s)
    (hd : b.documents.get? uri = some d) :
    ∃ v e id, b.documents.get? v = some e ∧ e.symbol? id = some s := by
  rcases h.place with ⟨_, -, id, -, hs⟩ | ⟨v, e, he, -, hs⟩
  · obtain ⟨_, -, id', -, -, hsymbol⟩ := (Document.mem_scoped id).mp hs
    exact ⟨uri, d, id', hd, hsymbol⟩
  · obtain ⟨_, -, id, -, hsymbol⟩ := Document.mem_exported.mp hs
    exact ⟨v, e, id, he, hsymbol⟩

/-- A symbol in scope leads to its place. -/
theorem InScope.placed_handle (hk : b.Keyed) (h : b.InScope types d reference s)
    (hd : b.documents.get? uri = some d) : b.placed s.handle = (s.uri, some s.path) := by
  obtain ⟨v, e, id, he, hsymbol⟩ := h.exists_symbol hd
  obtain ⟨tree, htree, -⟩ := Document.symbol?_eq_some hsymbol
  obtain ⟨hhandle, hpath⟩ := Document.path_of_symbol? htree hsymbol
  have huri : s.uri = e.uri := congrArg NodeHandle.uri hhandle
  rw [placed, hhandle, hk v e he, he, Option.bind_some, htree, Option.map_some, hpath, huri,
    hk v e he]

/-! ## The first that fits -/

/-- The index has the exports of every document, once all are in it. -/
theorem get?_exports (hsound : b.Sound services)
    (hindexed : ∀ v e, b.documents.get? v = some e → .indexedContent ≤ e.state) (uri : Uri) :
    b.index.exports.get? uri = (b.documents.get? uri).map Document.exported := by
  rw [(hsound.index uri).exports]
  cases he : b.documents.get? uri with
  | none => rfl
  | some e => exact Document.indexed?_of_le (hindexed uri e he)

/-- **The symbol that a text stands for**: the first that fits in the nodes
around the reference, or else what the first document offers that offers
any. -/
theorem symbol?_lexicalScope (hsound : b.Sound services)
    (hindexed : ∀ v e, b.documents.get? v = some e → .indexedContent ≤ e.state)
    (hscopes : d.localScopes = some d.scoped) (tree : SyntaxTree) (reference : Reference) :
    (LinkContext.lexicalScope ⟨services.linker, b.index, d, tree⟩ reference).symbol?
        reference.refText =
      (d.near? services.linker.types tree reference).or
        (b.index.exports.keys.findSome? (b.offer? services.linker.types reference)) := by
  -- symbols are sifted by type first and searched by name then
  have hfits : ∀ symbols : List Symbol,
      (symbols.filter fun s => services.linker.types.isSubtype s.typeName
        reference.target.typeName).find? (·.name == reference.refText) =
      symbols.find? (reference.fits services.linker.types) := by
    intro symbols
    rw [List.find?_filter]
    congr 1
    funext s
    rw [Reference.fits, Bool.decide_and, Bool.decide_eq_true, Bool.decide_eq_true]
  rw [Scope.symbol?, LinkContext.lexicalScope]
  dsimp only
  rw [hscopes, Scope.symbols_withOuter, List.find?_append, Scope.symbols]
  congr 1
  · dsimp only
    rw [List.find?_flatten, List.findSome?_map, Document.near?]
    exact findSome?_congr fun id _ => hfits _
  · have helements : b.index.elements services.linker.types (some reference.target.typeName) =
        b.index.exports.values.flatten.filter fun s =>
          services.linker.types.isSubtype s.typeName reference.target.typeName := rfl
    rw [helements, hfits, List.find?_flatten, OrderedMap.values, OrderedMap.keys,
      List.findSome?_map, List.findSome?_map]
    refine findSome?_congr fun entry hentry => ?_
    have hget := OrderedMap.get?_of_mem hsound.exports_nodup hentry
    rw [get?_exports hsound hindexed] at hget
    obtain ⟨e, he, heq⟩ := Option.map_eq_some_iff.mp hget
    rw [Function.comp_apply, Function.comp_apply, offer?, he, Option.bind_some, Document.offer?,
      heq]

theorem uri_of_offer? (hk : b.Keyed) (h : b.offer? types reference uri = some s) : s.uri = uri := by
  obtain ⟨e, he, hfind⟩ := Option.bind_eq_some_iff.mp h
  rw [← hk uri e he]
  exact Document.uri_of_mem_exported (List.mem_of_find?_eq_some hfind)

/-! ## The order of the exports -/

/-- The documents in front of one. -/
def inFront (b : Built) (uri : Uri) : List Uri := b.documents.keys.takeWhile (· != uri)

theorem keys_eq_inFront (hd : b.documents.get? uri = some d) :
    ∃ post, b.documents.keys = b.inFront uri ++ uri :: post := by
  have hmem : uri ∈ b.documents.keys := OrderedMap.mem_keys_iff.mpr ⟨d, hd⟩
  rw [inFront]
  generalize b.documents.keys = keys at hmem ⊢
  induction keys with
  | nil => cases hmem
  | cons v rest ih =>
    by_cases hv : v = uri
    · subst hv
      exact ⟨rest, by simp⟩
    · obtain ⟨post, hpost⟩ := ih ((List.mem_cons.mp hmem).resolve_left (Ne.symm hv))
      refine ⟨post, ?_⟩
      rw [List.takeWhile_cons_of_pos (by simpa using hv), List.cons_append, ← hpost]

/-- **The document of a target is overtaken** when some documents are moved
behind the others: it is one of them, and one offers a symbol that fits which
is not, or which is in front of it. Nothing fits in the nodes around the
reference. -/
structure Overtaken (types : TypeGraph) (touched : List Uri) (b : Built) (d : Document)
    (tree : SyntaxTree) (reference : Reference) (target : Uri) : Prop where
  outside : d.near? types tree reference = none
  moved : target ∈ touched
  other : ∃ v, (b.offer? types reference v).isSome ∧ (v ∉ touched ∨ v ∈ b.inFront target)

/-- **Some documents were moved behind the others** in the index, in the order
in which the documents are, and all that changed are versions. -/
structure Requeued (touched : List Uri) (b b' : Built) : Prop where
  renewed : b.Renewed b'
  order : b'.index.exports.keys =
    b.index.exports.keys.filter (· ∉ touched) ++ b.documents.keys.filter (· ∈ touched)

variable {touched : List Uri}

theorem Renewed.offer?_eq (h : b.Renewed b') (types : TypeGraph) (reference : Reference)
    (uri : Uri) : ∃ version, b'.offer? types reference uri =
      (b.offer? types reference uri).map (·.atVersion version) := by
  rw [offer?, offer?]
  cases hd : b.documents.get? uri with
  | none =>
    have hnone : b'.documents.get? uri = none := by
      rw [OrderedMap.get?_eq_none_iff, h.keys, ← OrderedMap.get?_eq_none_iff]
      exact hd
    exact ⟨0, by rw [hnone]; rfl⟩
  | some d =>
    obtain ⟨d', hd', hsame, -⟩ := h.document uri d hd
    exact ⟨d'.version, by rw [hd', Option.bind_some, Option.bind_some, hsame.offer?_eq]⟩

/-- Of several documents, the one that offers something is the first just if
those in front of it offer nothing. -/
theorem findSome?_offer?_iff (hk : b.Keyed) {uris pre post : List Uri} (hn : uris.Nodup)
    (heq : uris = pre ++ uri :: post) (hs : b.offer? types reference uri = some s) :
    ∃ first, uris.findSome? (b.offer? types reference) = some first ∧
      (first.uri = uri ↔ ∀ v ∈ pre, b.offer? types reference v = none) ∧
      (first.uri = uri → first = s) := by
  have hsplit : uris.findSome? (b.offer? types reference) =
      (pre.findSome? (b.offer? types reference)).or (some s) := by
    rw [heq, List.findSome?_append, List.findSome?_cons, hs]
  cases hpre : pre.findSome? (b.offer? types reference) with
  | none =>
    rw [hpre, Option.none_or] at hsplit
    refine ⟨s, hsplit, ⟨fun _ => List.findSome?_eq_none_iff.mp hpre, fun _ => ?_⟩, fun _ => rfl⟩
    exact uri_of_offer? hk hs
  | some first =>
    rw [hpre, Option.some_or] at hsplit
    obtain ⟨v, hv, hfirst⟩ := List.exists_of_findSome?_eq_some hpre
    have hne : first.uri ≠ uri := by
      rw [uri_of_offer? hk hfirst]
      rintro rfl
      rw [heq, List.nodup_append] at hn
      exact hn.2.2 v hv v List.mem_cons_self rfl
    refine ⟨first, hsplit, ⟨fun h => absurd h hne, fun h => ?_⟩, fun h => absurd h hne⟩
    rw [h v hv] at hfirst
    cases hfirst

theorem mem_keys_of_offer? (h : (b.offer? types reference uri).isSome) :
    ∃ e, b.documents.get? uri = some e := by
  obtain ⟨s, hs⟩ := Option.isSome_iff_exists.mp h
  obtain ⟨e, he, -⟩ := Option.bind_eq_some_iff.mp hs
  exact ⟨e, he⟩

theorem Renewed.indexed (h : b.Renewed b') (hd : b.documents.get? uri = some d) :
    .indexedContent ≤ d.state := by
  obtain ⟨_, -, -, hindexed, -⟩ := h.document uri d hd
  exact hindexed

namespace Requeued

/-- A document that was touched comes behind those that were not, and behind
those in front of it that were. -/
theorem keys_eq (h : b.Requeued touched b') (hd : b.documents.get? uri = some d)
    (htouched : uri ∈ touched) :
    ∃ post, b'.index.exports.keys = (b.index.exports.keys.filter (· ∉ touched) ++
      (b.inFront uri).filter (· ∈ touched)) ++ uri :: post := by
  obtain ⟨post, hpost⟩ := keys_eq_inFront hd
  refine ⟨post.filter (· ∈ touched), ?_⟩
  rw [h.order, hpost, List.filter_append, List.filter_cons_of_pos (by simpa using htouched),
    List.append_assoc]

/-- **The first document that offers something** stays the first exactly if
none overtakes it. -/
theorem findSome?_offer? (h : b.Requeued touched b') (hsound : b.Sound services)
    (hsound' : b'.Sound services)
    (hs : b.index.exports.keys.findSome? (b.offer? types reference) = some s) :
    ∃ s', b'.index.exports.keys.findSome? (b'.offer? types reference) = some s' ∧
      (s'.uri = s.uri ↔ ¬ (s.uri ∈ touched ∧ ∃ v, (b.offer? types reference v).isSome ∧
        (v ∉ touched ∨ v ∈ b.inFront s.uri))) ∧
      (s'.uri = s.uri → ∃ version, s' = s.atVersion version) := by
  obtain ⟨pre, u, post, hkeys, hu, hpre⟩ := List.findSome?_eq_some_iff.mp hs
  obtain rfl : s.uri = u := uri_of_offer? hsound.keyed hu
  obtain ⟨d, hd⟩ := mem_keys_of_offer? (by rw [hu]; rfl)
  obtain ⟨version, hu'⟩ := h.renewed.offer?_eq types reference s.uri
  rw [hu, Option.map_some] at hu'
  -- versions aside, documents offer what they offered
  have hnone : ∀ v, b'.offer? types reference v = none ↔ b.offer? types reference v = none := by
    intro v
    obtain ⟨_, hv⟩ := h.renewed.offer?_eq types reference v
    rw [hv, Option.map_eq_none_iff]
  by_cases htouched : s.uri ∈ touched
  · obtain ⟨behind, hkeys'⟩ := h.keys_eq hd htouched
    obtain ⟨s', hfirst, hiff, hsame⟩ :=
      findSome?_offer?_iff hsound'.keyed hsound'.exports_nodup hkeys' hu'
    refine ⟨s', hfirst, hiff.trans ⟨?_, fun hout v hv => ?_⟩, fun huri => ⟨version, hsame huri⟩⟩
    · rintro hall ⟨-, v, hsome, hplace⟩
      obtain ⟨e, he⟩ := mem_keys_of_offer? hsome
      have hindexed : v ∈ b.index.exports.keys := by
        rw [OrderedMap.mem_keys_iff, get?_exports hsound fun _ _ => h.renewed.indexed, he]
        exact ⟨_, rfl⟩
      have hmem : v ∈ b.index.exports.keys.filter (· ∉ touched) ++
          (b.inFront s.uri).filter (· ∈ touched) := by
        rw [List.mem_append, List.mem_filter, List.mem_filter, decide_eq_true_eq,
          decide_eq_true_eq]
        by_cases hv : v ∈ touched
        · exact Or.inr ⟨hplace.resolve_left (not_not_intro hv), hv⟩
        · exact Or.inl ⟨hindexed, hv⟩
      rw [(hnone v).mp (hall v hmem)] at hsome
      cases hsome
    · rw [hnone, ← Option.not_isSome_iff_eq_none]
      intro hsome
      refine hout ⟨htouched, v, hsome, ?_⟩
      rw [List.mem_append, List.mem_filter, List.mem_filter, decide_eq_true_eq] at hv
      exact hv.imp And.right And.left
  · have hkeys' : b'.index.exports.keys = pre.filter (· ∉ touched) ++
        s.uri :: (post.filter (· ∉ touched) ++ b.documents.keys.filter (· ∈ touched)) := by
      rw [h.order, hkeys, List.filter_append, List.filter_cons_of_pos (by simpa using htouched),
        List.append_assoc, List.cons_append]
    obtain ⟨s', hfirst, hiff, hsame⟩ :=
      findSome?_offer?_iff hsound'.keyed hsound'.exports_nodup hkeys' hu'
    have huri := hiff.mpr fun v hv => (hnone v).mpr (hpre v (List.mem_filter.mp hv).1)
    exact ⟨s', hfirst, ⟨fun _ hin => htouched hin.1, fun _ => huri⟩, fun _ => ⟨version, hsame huri⟩⟩

end Requeued

/-! ## What is left of a resolution -/

/-- **What is left of a resolution**: of an error all, of a list its nodes, and
of a target its node, unless it moves. -/
inductive Retained (b b' : Built) (moves : NodeHandle → Prop) : Resolution → Resolution → Prop
  | error (message : String) : Retained b b' moves (.error message) (.error message)
  | multi {targets targets' : List NodeHandle} :
      (targets'.map b'.placed).Perm (targets.map b.placed) →
      Retained b b' moves (.multi targets) (.multi targets')
  | single {target target' : NodeHandle} :
      (b'.placed target' = b.placed target ↔ ¬ moves target) →
      Retained b b' moves (.single target) (.single target')

/-- A resolution that is left alone. -/
theorem Renewed.retained (h : b.Renewed b') {moves : NodeHandle → Prop}
    (hmoves : ∀ target, ¬ moves target) (resolution : Resolution) :
    Retained b b' moves resolution resolution := by
  cases resolution with
  | error message => exact .error message
  | multi targets => exact .multi (by rw [h.placed_eq])
  | single target =>
    refine .single ⟨fun _ => hmoves target, fun _ => ?_⟩
    rw [h.placed_eq]

/-- What a reference to many nodes lists leads to the places of its symbols. -/
theorem Lists.placed {since : List Uri} {symbols : List Symbol}
    (h : b.Lists types since d reference symbols) (hk : b.Keyed)
    (hd : b.documents.get? uri = some d) :
    (symbols.map Symbol.handle).map b.placed =
      (symbols.map Symbol.place).map (Prod.map id some) := by
  rw [List.map_map, List.map_map]
  exact List.map_congr_left fun s hs => (h.visible s hs).placed_handle hk hd

/-- **A list that is complete again** has the same nodes. -/
theorem Renewed.perm_lists (h : b.Renewed b') (hsame : d.SameTree d')
    {symbols symbols' : List Symbol} (hlists : b.Lists types [] d reference symbols)
    (hlists' : b'.Lists types [] d' reference symbols') :
    (symbols'.map Symbol.place).Perm (symbols.map Symbol.place) := by
  have hmem : ∀ {b₁ b₂ : Built} {d₁ d₂ : Document} {l₁ l₂ : List Symbol}, b₁.Renewed b₂ →
      d₁.SameTree d₂ → b₁.Lists types [] d₁ reference l₁ → b₂.Lists types [] d₂ reference l₂ →
      ∀ place ∈ l₁.map Symbol.place, place ∈ l₂.map Symbol.place := by
    intro b₁ b₂ d₁ d₂ l₁ l₂ hrenewed hsame hl₁ hl₂ place hplace
    obtain ⟨s, hs, rfl⟩ := List.mem_map.mp hplace
    obtain ⟨version, hs'⟩ := hrenewed.inScope hsame (hl₁.visible s hs)
    exact (hl₂.all _ hs').resolve_right fun hmissed => List.not_mem_nil hmissed.1
  refine (List.perm_ext_iff_of_nodup hlists'.once hlists.once).mpr fun place => ?_
  exact ⟨hmem h.symm hsame.symm hlists' hlists place, hmem h hsame hlists hlists' place⟩

/-- A text that nothing in scope fits is not found. -/
theorem answer_eq_notFound (hsound : b.Sound services) (hscopes : d.localScopes = some d.scoped)
    (htree : d.tree? = some tree) (hnone : ∀ s, ¬ b.InScope services.linker.types d reference s) :
    LinkContext.answer ⟨services.linker, b.index, d, tree⟩ reference =
      LinkContext.notFound reference := by
  obtain ⟨htargets, ⟨heq, -⟩ | ⟨-, hne⟩⟩ := answer_cases hsound hscopes htree reference
  · exact heq
  · obtain ⟨target, htarget⟩ := List.exists_mem_of_ne_nil _ hne
    obtain ⟨s, hs, -⟩ := htargets target htarget
    exact absurd hs (hnone s)

/-- A text that stands for nothing before or after stands for nothing both
times. -/
theorem Renewed.answer_notFound (h : b.Renewed b') (hsound : b.Sound services)
    (hsound' : b'.Sound services) (hsame : d.SameTree d') (hscopes : d.localScopes = some d.scoped)
    (hscopes' : d'.localScopes = some d'.scoped) (htree : d.tree? = some tree)
    (herror : (LinkContext.answer ⟨services.linker, b.index, d, tree⟩ reference).isError = true) :
    LinkContext.answer ⟨services.linker, b.index, d, tree⟩ reference =
        LinkContext.notFound reference ∧
      LinkContext.answer ⟨services.linker, b'.index, d', tree⟩ reference =
        LinkContext.notFound reference := by
  obtain ⟨-, ⟨heq, hnone⟩ | ⟨hok, -⟩⟩ := answer_cases hsound hscopes htree reference
  · refine ⟨heq, answer_eq_notFound hsound' hscopes' (hsame.tree?_eq.trans htree) fun s hs => ?_⟩
    obtain ⟨version, hs'⟩ := h.symm.inScope hsame.symm hs
    exact hnone _ hs'
  · rw [hok] at herror
    cases herror

/-- A reference to one node leads to the symbol that its text stands for. -/
theorem answer_single (hsingle : reference.target.multi = false) (cx : LinkContext) :
    cx.answer reference = match (cx.lexicalScope reference).symbol? reference.refText with
      | some symbol => .single symbol.handle
      | none => LinkContext.notFound reference := by
  cases hfound : (cx.lexicalScope reference).symbol? reference.refText with
  | none => simp only [LinkContext.answer, LinkContext.lookUp, hsingle, hfound, reduceIte,
      Bool.false_eq_true]
  | some symbol => simp only [LinkContext.answer, LinkContext.lookUp, hsingle, hfound, reduceIte,
      Bool.false_eq_true]

namespace Requeued

/-- **A reference to one node** leads to it again unless the node's document is
overtaken. -/
theorem retained_single (h : b.Requeued touched b') (hsound : b.Sound services)
    (hsound' : b'.Sound services) (hsame : d.SameTree d') (hscopes : d.localScopes = some d.scoped)
    (hscopes' : d'.localScopes = some d'.scoped) (hsingle : reference.target.multi = false)
    (hok : (LinkContext.answer ⟨services.linker, b.index, d, tree⟩ reference).isError = false)
    {moves : NodeHandle → Prop} (hmoves : ∀ target, moves target ↔
      b.Overtaken services.linker.types touched d tree reference target.uri) :
    Retained b b' moves (LinkContext.answer ⟨services.linker, b.index, d, tree⟩ reference)
      (LinkContext.answer ⟨services.linker, b'.index, d', tree⟩ reference) := by
  rw [answer_single hsingle,
    symbol?_lexicalScope hsound (fun _ _ => h.renewed.indexed) hscopes] at hok ⊢
  rw [answer_single hsingle,
    symbol?_lexicalScope hsound' (fun _ _ => h.renewed.symm.indexed) hscopes', hsame.near?_eq]
  cases hnear : d.near? services.linker.types tree reference with
  | some s =>
    refine .single ⟨fun _ hmoved => ?_, fun _ => ?_⟩
    · have hout := ((hmoves _).mp hmoved).outside
      rw [hnear] at hout
      cases hout
    · rw [h.renewed.placed_eq]
      exact b.placed_congr rfl rfl
  | none =>
    rw [hnear, Option.none_or] at hok
    rw [Option.none_or, Option.map_none, Option.none_or]
    cases hfirst : b.index.exports.keys.findSome? (b.offer? services.linker.types reference) with
    | none =>
      rw [hfirst] at hok
      cases hok
    | some s =>
      obtain ⟨s', hfirst', hiff, hversion⟩ := h.findSome?_offer? hsound hsound' hfirst
      rw [hfirst']
      -- only the document of the target may differ
      have hplaced : b'.placed s'.handle = b.placed s.handle ↔ s'.uri = s.uri := by
        rw [h.renewed.placed_eq]
        refine ⟨congrArg Prod.fst, fun huri => ?_⟩
        obtain ⟨version, rfl⟩ := hversion huri
        exact b.placed_congr rfl rfl
      refine .single ((hplaced.trans hiff).trans (not_congr ?_))
      rw [hmoves]
      exact ⟨fun ⟨hmoved, hother⟩ => ⟨hnear, hmoved, hother⟩, fun ho => ⟨ho.moved, ho.other⟩⟩

/-- **What a text stands for after some documents were touched**: what it stood
for, unless the document of its target is overtaken. -/
theorem retained (h : b.Requeued touched b') (hsound : b.Sound services)
    (hsound' : b'.Sound services) (hd : b.documents.get? uri = some d)
    (hd' : b'.documents.get? uri = some d') (hscopes : d.localScopes = some d.scoped)
    (hscopes' : d'.localScopes = some d'.scoped) (htree : d.tree? = some tree)
    (reference : Reference) {moves : NodeHandle → Prop} (hmoves : ∀ target, moves target ↔
      b.Overtaken services.linker.types touched d tree reference target.uri) :
    Retained b b' moves (LinkContext.answer ⟨services.linker, b.index, d, tree⟩ reference)
      (LinkContext.answer ⟨services.linker, b'.index, d', tree⟩ reference) := by
  obtain ⟨e', he', hsame, -⟩ := h.renewed.document uri d hd
  obtain rfl : d' = e' := Option.some.inj (hd'.symm.trans he')
  have htree' := hsame.tree?_eq.trans htree
  cases hok : (LinkContext.answer ⟨services.linker, b.index, d, tree⟩ reference).isError with
  | true =>
    obtain ⟨heq, heq'⟩ :=
      h.renewed.answer_notFound hsound hsound' hsame hscopes hscopes' htree hok
    rw [heq, heq']
    exact .error _
  | false =>
    cases hmulti : reference.target.multi with
    | false => exact h.retained_single hsound hsound' hsame hscopes hscopes' hmulti hok hmoves
    | true =>
      have hok' : (LinkContext.answer ⟨services.linker, b'.index, d', tree⟩ reference).isError =
          false := by
        rw [← Bool.not_eq_true]
        intro herror
        obtain ⟨-, heq⟩ := h.renewed.symm.answer_notFound hsound' hsound hsame.symm hscopes' hscopes
          htree' herror
        rw [heq] at hok
        cases hok
      obtain ⟨symbols, heq, hlists⟩ := Lists.answer hsound hscopes htree hmulti hok []
      obtain ⟨symbols', heq', hlists'⟩ := Lists.answer hsound' hscopes' htree' hmulti hok' []
      rw [heq, heq']
      refine .multi ?_
      rw [hlists.placed hsound.keyed hd, hlists'.placed hsound'.keyed hd']
      exact (h.renewed.perm_lists hsame hlists hlists').map _

end Requeued

end Built
end Workbench
