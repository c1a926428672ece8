import Workbench.Proofs.Workspace.Consistent
/-!
# References that are asked for early

A reference can be asked for before the scopes of its document are known.
Its text is then looked up among the exports that are in the index at that
moment. If nothing is found, the error is not kept. If something is found it
is kept, and linking takes it over although by then a symbol of an enclosing
node may come first, or another export. What a document is linked to
is thus what it recalls from before, and what linking finds elsewhere:
`Linker.link_early`. Asking early is harmless just if all that is recalled
is what linking would have found.
-/

namespace Workbench

/-- What can happen to a document before its scopes are known. -/
inductive Early where
  /-- A reference is asked for, with the index as it is then. -/
  | ask (index : Index) (id : RefId)
  | edit (text : String)
  | parse (result : ParseResult)
  /-- The exports are put into the index. -/
  | index (failure : Option Diagnostic)
  /-- A build begins or ends. -/
  | mark (build : Option ValidationMode)
  | reset (state : DocumentState)

namespace Early

/-- Whether a reference is asked for. -/
def isAsk : Early → Bool
  | ask _ _ => true
  | _ => false

/-- Whether all resolutions are forgotten. -/
def renews : Early → Bool
  | parse _ => true
  | reset state => state ≤ .computedScopes
  | _ => false

end Early

namespace Document

/-- A document after something has happened to it. -/
def after (l : Linker) (d : Document) : Early → Document
  | .ask x id => (l.resolve x d id).2
  | .edit text => d.setText text
  | .parse result => d.setParse result
  | .index failure =>
    { d.recordScopeFailure .indexedContent failure with state := .indexedContent }
  | .mark build => { d with build }
  | .reset state => d.resetTo state

/-- A document after all that has happened to it. -/
def early (l : Linker) (d : Document) (events : List Early) : Document := events.foldl (after l) d

/-- A document whose local scopes were computed. -/
def withScopes (d : Document) (symbols : LocalSymbols) (failure : Option Diagnostic) : Document :=
  { d.recordScopeFailure .computedScopes failure with
    localScopes := some symbols, state := .computedScopes }

end Document

/-- Phases before the local scopes are known are events, and so is asking for
a reference of a document in a workspace. -/
theorem phase_events {services : Services} (l : Linker) (x : Index) (d : Document) :
    (∀ result left, services.parser.parse d.text none .never = .ok (result, left) →
        d.phase services x .parsed = .ok (d.after l (.parse result), x)) ∧
      d.phase services x .indexedContent =
        .ok (d.after l (.index none), x.updateContent d.uri d.exported) ∧
      d.phase services x .computedScopes = .ok (d.withScopes d.scoped none, x) ∧
      ∀ (w : Workspace) (id : RefId), w.document? d.uri = some d →
        (w.resolve l d.uri id).2 = w.setDocument (d.after l (.ask w.index id)) := by
  refine ⟨fun result left h => ?_, rfl, rfl, fun w id h => ?_⟩
  · rw [Document.phase, h]
    rfl
  · rw [Workspace.resolve, h]
    rfl

/-! ## What is recalled -/

/-- What the text of a reference stands for, unless it is an error. -/
def Linker.found? (l : Linker) (x : Index) (d : Document) (id : RefId) : Option Resolution := do
  let cx ← l.context? x d
  let reference ← cx.tree.reference? id
  let answer := cx.answer reference
  if answer.isError then none else some answer

/-- What a document knows of its references after something has happened to
it: what was found first is not replaced. -/
def Early.recall (l : Linker) (d : Document) (known : RefId → Option Resolution) (e : Early) :
    RefId → Option Resolution :=
  match e with
  | ask x asked => fun id => if id = asked then (known id).or (l.found? x d id) else known id
  | e => if e.renews then fun _ => none else known

/-- What a document knows of its references after all that has happened to
it. -/
def Document.recalled (l : Linker) :
    Document → (RefId → Option Resolution) → List Early → RefId → Option Resolution
  | _, known, [] => known
  | d, known, e :: rest => recalled l (d.after l e) (e.recall l d known) rest

namespace Document

variable {l : Linker} {d : Document} {x : Index} {id : RefId} {e : Early} {events : List Early}

/-- As many resolutions as references. -/
def Sized (d : Document) : Prop :=
  ∀ tree, d.tree? = some tree → d.links.size = tree.references.size

theorem keeps_early {cx : LinkContext} (hstate : cx.document.state < .computedScopes)
    (resolution : Resolution) : cx.keeps resolution = !resolution.isError := by
  rw [LinkContext.keeps, decide_eq_true hstate, Bool.and_true]

/-- **Asking for a reference early keeps what is found**, and no error. -/
theorem resolution?_ask (hprovider : l.provider = .default) (hstate : d.state < .computedScopes)
    (hsize : d.Sized) (asked : RefId) :
    (l.resolve x d asked).2.resolution? id =
      if id = asked then (d.resolution? id).or (l.found? x d id) else d.resolution? id := by
  cases htree : d.tree? with
  | none =>
    rw [Linker.resolve, Linker.found?, Linker.context?, htree]
    simp
  | some tree =>
    have hcontext : l.context? x d = some ⟨l, x, d, tree⟩ := by rw [Linker.context?, htree]; rfl
    rw [Linker.resolve, hcontext]
    dsimp only
    change ((LinkContext.ask ⟨l, x, d, tree⟩ d.links asked)[id.index]?).join = _
    cases hjoin : (d.links[asked.index]?).join with
    | some resolution =>
      rw [LinkContext.ask_of_resolved hjoin]
      split
      next h => rw [h, resolution?, hjoin, Option.some_or]
      next => rfl
    | none =>
      cases hreference : tree.reference? asked with
      | none =>
        rw [@LinkContext.ask_of_missing ⟨l, x, d, tree⟩ _ _ hreference]
        split
        next h =>
          rw [Linker.found?, hcontext, h]
          simp [hreference, resolution?]
        next => rfl
      | some reference =>
        have hlt : asked.index < d.links.size := by
          rw [hsize tree htree]
          exact (Array.getElem?_eq_some_iff.mp hreference).1
        have hfound : l.found? x d asked =
            let answer := LinkContext.answer ⟨l, x, d, tree⟩ reference
            if answer.isError then none else some answer := by
          rw [Linker.found?, hcontext]
          simp [hreference]
        rw [LinkContext.ask, @LinkContext.resolve_usual ⟨l, x, d, tree⟩ _ _ hprovider hjoin _
          hreference, @keeps_early ⟨l, x, d, tree⟩ hstate]
        dsimp only at hfound ⊢
        by_cases hid : id = asked
        · subst hid
          rw [if_pos rfl, hfound, resolution?, hjoin, Option.none_or]
          cases (LinkContext.answer ⟨l, x, d, tree⟩ reference).isError with
          | true => exact hjoin
          | false =>
            rw [Bool.not_false, if_pos rfl, Array.getElem?_setIfInBounds_self_of_lt hlt]
            rfl
        · have hne : asked.index ≠ id.index := fun h => hid (by cases id; cases asked; cases h; rfl)
          rw [if_neg hid]
          cases (LinkContext.answer ⟨l, x, d, tree⟩ reference).isError with
          | true => rfl
          | false =>
            rw [Bool.not_false, if_pos rfl, Array.getElem?_setIfInBounds_ne hne]
            rfl

/-! ## Events -/

theorem size_ask (hprovider : l.provider = .default) (asked : RefId) :
    (l.resolve x d asked).2.links.size = d.links.size := by
  rw [Linker.resolve]
  cases hcontext : l.context? x d with
  | none => rfl
  | some cx =>
    obtain ⟨tree, -, rfl⟩ := Option.map_eq_some_iff.mp hcontext
    exact @LinkContext.size_ask ⟨l, x, d, tree⟩ _ _ hprovider

/-- The same document but for what its references are resolved to. -/
structure Alike (d d' : Document) : Prop where
  same : d' = { d with links := d'.links }
  size : d'.links.size = d.links.size

theorem Alike.refl (d : Document) : d.Alike d := ⟨rfl, rfl⟩

theorem Alike.trans {d' d'' : Document} (h : d.Alike d') (h' : d'.Alike d'') : d.Alike d'' :=
  ⟨by rw [h'.same, h.same], h'.size.trans h.size⟩

theorem Alike.tree?_eq {d' : Document} (h : d.Alike d') : d'.tree? = d.tree? := by
  rw [h.same]
  rfl

theorem alike_ask (hprovider : l.provider = .default) (asked : RefId) :
    d.Alike (l.resolve x d asked).2 := by
  refine ⟨?_, size_ask hprovider asked⟩
  rw [Linker.resolve]
  cases l.context? x d <;> rfl

theorem Alike.after {d' : Document} (h : d.Alike d') (he : e.isAsk = false) :
    (d.after l e).Alike (d'.after l e) := by
  have hsize := h.size
  rw [h.same]
  cases e with
  | ask x id => cases he
  | index failure => cases failure <;> exact ⟨rfl, hsize⟩
  | edit _ => exact ⟨rfl, hsize⟩
  | parse _ => exact ⟨rfl, rfl⟩
  | mark _ => exact ⟨rfl, hsize⟩
  | reset state =>
    refine ⟨rfl, ?_⟩
    simp only [Document.after, resetTo]
    split
    · rw [size_unlink, size_unlink]
      exact hsize
    · exact hsize

theorem Alike.withScopes {d' : Document} (h : d.Alike d') (symbols : LocalSymbols)
    (failure : Option Diagnostic) :
    (d.withScopes symbols failure).Alike (d'.withScopes symbols failure) := by
  have hsize := h.size
  rw [h.same]
  cases failure <;> exact ⟨rfl, hsize⟩

/-- Documents that are alike are the same if their references are resolved to
the same. -/
theorem Alike.eq_of_resolution? {d' : Document} (h : d.Alike d')
    (hsame : d'.resolution? = d.resolution?) : d' = d := by
  have hlinks : d'.links = d.links := by
    refine Array.ext h.size fun i hi hi' => ?_
    have hjoin := congrFun hsame ⟨i⟩
    rwa [resolution?, resolution?, Array.getElem?_eq_getElem hi, Array.getElem?_eq_getElem hi']
      at hjoin
  rw [h.same, hlinks]

theorem state_after (hprovider : l.provider = .default) (hstate : d.state < .computedScopes) :
    (d.after l e).state < .computedScopes := by
  cases e with
  | ask x id => rwa [after, (alike_ask hprovider id).same]
  | edit _ => exact Nat.zero_lt_succ _
  | parse _ => exact Nat.le_of_ble_eq_true rfl
  | index failure => exact Nat.lt_succ_self _
  | mark _ => exact hstate
  | reset state =>
    refine Nat.lt_of_le_of_lt ?_ hstate
    exact (DocumentState.le_min_iff.mp (Nat.le_refl _)).1

theorem sized_after (hprovider : l.provider = .default) (hsize : d.Sized) :
    (d.after l e).Sized := by
  cases e with
  | ask x id =>
    intro tree htree
    rw [after, (alike_ask hprovider id).same] at htree
    rw [after, size_ask hprovider, hsize tree htree]
  | edit _ => exact hsize
  | parse result =>
    intro tree htree
    cases htree
    exact Array.size_replicate
  | index failure =>
    cases failure <;> exact hsize
  | mark _ => exact hsize
  | reset state =>
    intro tree htree
    rw [after, resetTo]
    split
    · rw [size_unlink]
      exact hsize tree htree
    · exact hsize tree htree

theorem resolution?_of_forall_none (h : ∀ link ∈ d.links, link = none) :
    d.resolution? id = none := by
  rw [resolution?]
  cases hget : d.links[id.index]? with
  | none => rfl
  | some link =>
    rw [h link (Array.mem_of_getElem? hget)]
    rfl

/-- **What a document knows is what it is resolved to.** -/
theorem resolution?_after (hprovider : l.provider = .default) (hstate : d.state < .computedScopes)
    (hsize : d.Sized) : (d.after l e).resolution? = e.recall l d d.resolution? := by
  funext id
  cases e with
  | ask x asked => exact resolution?_ask hprovider hstate hsize asked
  | edit _ => rfl
  | parse result =>
    refine resolution?_of_forall_none fun link hlink => ?_
    exact (Array.mem_replicate.mp hlink).2
  | index failure => cases failure <;> rfl
  | mark _ => rfl
  | reset state =>
    change (d.resetTo state).resolution? id =
      (if decide (state ≤ .computedScopes) then fun _ => none else d.resolution?) id
    by_cases hle : state ≤ .computedScopes
    · rw [if_pos (decide_eq_true hle)]
      refine resolution?_of_forall_none ?_
      rw [resetTo, if_pos hle]
      exact d.unlink_links
    · rw [if_neg (by simpa using hle), resolution?, resolution?, resetTo, if_neg hle]

/-! ## Stories -/

theorem early_append (before rest : List Early) :
    d.early l (before ++ rest) = (d.early l before).early l rest := List.foldl_append

theorem sized_early (hprovider : l.provider = .default) (hsize : d.Sized) (events : List Early) :
    (d.early l events).Sized := by
  induction events generalizing d with
  | nil => exact hsize
  | cons e rest ih => exact ih (sized_after hprovider hsize)

theorem resolution?_early (hprovider : l.provider = .default) (hstate : d.state < .computedScopes)
    (hsize : d.Sized) (events : List Early) :
    (d.early l events).resolution? = d.recalled l d.resolution? events := by
  induction events generalizing d with
  | nil => rfl
  | cons e rest ih =>
    rw [early, List.foldl_cons, recalled, ← resolution?_after hprovider hstate hsize]
    exact ih (state_after hprovider hstate) (sized_after hprovider hsize)

/-- A document that forgets nothing keeps its tree. -/
theorem tree?_early (hprovider : l.provider = .default)
    (hrenews : ∀ e ∈ events, e.renews = false) : (d.early l events).tree? = d.tree? := by
  induction events generalizing d with
  | nil => rfl
  | cons e rest ih =>
    obtain ⟨hhere, hrest⟩ := List.forall_mem_cons.mp hrenews
    refine (ih (d := d.after l e) hrest).trans ?_
    cases e with
    | ask x asked =>
      rw [after, (alike_ask hprovider asked).same]
      rfl
    | index failure => cases failure <;> rfl
    | parse _ => cases hhere
    | edit _ => rfl
    | mark _ => rfl
    | reset _ => rfl

/-- No scopes are computed early. -/
theorem localScopes_early (hprovider : l.provider = .default) (hscopes : d.localScopes = none)
    (events : List Early) : (d.early l events).localScopes = none := by
  induction events generalizing d with
  | nil => exact hscopes
  | cons e rest ih =>
    refine ih (d := d.after l e) ?_
    cases e with
    | ask x asked =>
      rw [after, (alike_ask hprovider asked).same]
      exact hscopes
    | index failure => cases failure <;> exact hscopes
    | parse _ => rfl
    | edit _ => exact hscopes
    | mark _ => exact hscopes
    | reset state =>
      rw [after, resetTo]
      dsimp only
      rw [hscopes, ite_self]

/-- Asking changes nothing but resolutions. -/
theorem alike_early {d' : Document} (hprovider : l.provider = .default) (h : d.Alike d')
    (events : List Early) : (d.early l (events.filter (!·.isAsk))).Alike (d'.early l events) := by
  induction events generalizing d d' with
  | nil => exact h
  | cons e rest ih =>
    cases hask : e.isAsk with
    | false =>
      rw [List.filter_cons_of_pos (by rw [hask]; rfl)]
      exact ih (h.after hask)
    | true =>
      rw [List.filter_cons_of_neg (by rw [hask]; exact Bool.false_ne_true)]
      cases e with
      | ask x id => exact ih (h.trans (alike_ask hprovider id))
      | _ => cases hask

/-- What is known after an event was known before, or has been found by it. -/
theorem recall_cases {known : RefId → Option Resolution} {resolution : Resolution}
    (h : e.recall l d known id = some resolution) :
    (known id = some resolution ∧ e.renews = false) ∨
      ∃ x, e = .ask x id ∧ l.found? x d id = some resolution := by
  have hother : ∀ e' : Early, (if e'.renews then fun _ => none else known) id = some resolution →
      known id = some resolution ∧ e'.renews = false := by
    intro e' h'
    cases hrenews : e'.renews with
    | true =>
      rw [hrenews, if_pos rfl] at h'
      cases h'
    | false =>
      rw [hrenews, if_neg Bool.false_ne_true] at h'
      exact ⟨h', rfl⟩
  cases e with
  | ask x asked =>
    change (if id = asked then (known id).or (l.found? x d id) else known id) = some resolution at h
    by_cases hid : id = asked
    · subst hid
      rw [if_pos rfl, Option.or_eq_some_iff] at h
      rcases h with hknown | ⟨-, hfound⟩
      · exact Or.inl ⟨hknown, rfl⟩
      · exact Or.inr ⟨x, rfl, hfound⟩
    · rw [if_neg hid] at h
      exact Or.inl ⟨h, rfl⟩
  | _ => exact Or.inl (hother _ h)

/-- **What is recalled** was known from the start, or was found when the
reference was asked for; and nothing has made the document forget it. -/
theorem recalled_cases {known : RefId → Option Resolution} {resolution : Resolution}
    (h : d.recalled l known events id = some resolution) :
    (known id = some resolution ∧ ∀ e ∈ events, e.renews = false) ∨
      ∃ before x later, events = before ++ .ask x id :: later ∧
        (∀ e ∈ later, e.renews = false) ∧ l.found? x (d.early l before) id = some resolution := by
  induction events generalizing d known with
  | nil => exact Or.inl ⟨h, nofun⟩
  | cons e rest ih =>
    rcases ih h with ⟨hrecall, hrest⟩ | ⟨before, x, later, rfl, hlater, hfound⟩
    · rcases recall_cases hrecall with ⟨hknown, hrenews⟩ | ⟨x, rfl, hfound⟩
      · exact Or.inl ⟨hknown, List.forall_mem_cons.mpr ⟨hrenews, hrest⟩⟩
      · exact Or.inr ⟨[], x, rest, rfl, hrest, hfound⟩
    · exact Or.inr ⟨e :: before, x, later, rfl, hlater, hfound⟩

/-- What is known is recalled until it is forgotten. -/
theorem recalled_of_known {known : RefId → Option Resolution} {resolution : Resolution}
    (h : known id = some resolution) (hrenews : ∀ e ∈ events, e.renews = false) :
    d.recalled l known events id = some resolution := by
  induction events generalizing d known with
  | nil => exact h
  | cons e rest ih =>
    obtain ⟨hhere, hrest⟩ := List.forall_mem_cons.mp hrenews
    refine ih ?_ hrest
    have hother : ∀ e' : Early, e'.renews = false →
        (if e'.renews then fun _ => none else known) id = some resolution := by
      intro e' he'
      rw [he', if_neg Bool.false_ne_true]
      exact h
    cases e with
    | ask x asked =>
      change (if id = asked then (known id).or (l.found? x d id) else known id) = some resolution
      rw [h, Option.some_or, ite_self]
    | _ => exact hother _ hhere

/-- What is known without asking was known from the start. -/
theorem recalled_quiet {known : RefId → Option Resolution} {resolution : Resolution}
    (h : d.recalled l known (events.filter (!·.isAsk)) id = some resolution) :
    known id = some resolution ∧ ∀ e ∈ events, e.renews = false := by
  rcases recalled_cases h with ⟨hknown, hrenews⟩ | ⟨before, x, later, hevents, -, -⟩
  · refine ⟨hknown, fun e he => ?_⟩
    cases hask : e.isAsk with
    | false => exact hrenews e (List.mem_filter.mpr ⟨he, by rw [hask]; rfl⟩)
    | true =>
      cases e with
      | ask _ _ => rfl
      | _ => cases hask
  · have hmem : Early.ask x id ∈ events.filter (!·.isAsk) := by
      rw [hevents]
      exact List.mem_append_right _ List.mem_cons_self
    cases (List.mem_filter.mp hmem).2

/-- What is known without asking is recalled when references were asked
for. -/
theorem recalled_of_quiet {known : RefId → Option Resolution} {resolution : Resolution}
    (h : d.recalled l known (events.filter (!·.isAsk)) id = some resolution) :
    d.recalled l known events id = some resolution := by
  obtain ⟨hknown, hrenews⟩ := recalled_quiet h
  exact recalled_of_known hknown hrenews

end Document

/-! ## Linking -/

namespace Linker

variable {l : Linker} {d : Document} {x : Index} {id : RefId} {events : List Early}

/-- What is found is the answer of a reference, and no error. -/
theorem of_found? {resolution : Resolution} (h : l.found? x d id = some resolution) :
    resolution.isError = false ∧ ∃ tree reference, d.tree? = some tree ∧
      tree.reference? id = some reference ∧
      resolution = LinkContext.answer ⟨l, x, d, tree⟩ reference := by
  obtain ⟨cx, hcx, h⟩ := Option.bind_eq_some_iff.mp h
  obtain ⟨reference, hreference, h⟩ := Option.bind_eq_some_iff.mp h
  obtain ⟨tree, htree, rfl⟩ := Option.map_eq_some_iff.mp hcx
  dsimp only at h
  split at h
  next => cases h
  next herror =>
    cases h
    exact ⟨Bool.eq_false_iff.mpr herror, tree, reference, htree, hreference, rfl⟩

/-- Documents that are alike are so when they are linked. -/
theorem alike_linked {d' : Document} (hprovider : l.provider = .default) (h : d.Alike d') :
    (l.linked x d).Alike (l.linked x d') := by
  refine ⟨?_, by rw [size_linked hprovider, size_linked hprovider, h.size]⟩
  rw [Document.linked_eq l x d', Document.linked_eq l x d, h.same]

theorem sized_linked (hprovider : l.provider = .default) (hsize : d.Sized) :
    (l.linked x d).Sized := by
  intro tree htree
  rw [size_linked hprovider]
  refine hsize tree ?_
  rwa [Document.linked_eq] at htree

/-- Linking takes over what a document is resolved to, and finds the rest
whatever that is. -/
theorem resolution?_linked {d' : Document} (hprovider : l.provider = .default) (h : d.Alike d')
    (hstate : .computedScopes ≤ d.state) (hsize : d.Sized) (hsize' : d'.Sized)
    (hkept : ∀ resolution,
      d.resolution? id = some resolution → d'.resolution? id = some resolution) :
    (l.linked x d').resolution? id = (d'.resolution? id).or ((l.linked x d).resolution? id) := by
  rw [h.same] at hsize' hkept ⊢
  cases htree : d.tree? with
  | none =>
    have hsame : ∀ e : Document, e.tree? = none → l.linked x e = e := by
      intro e he
      rw [linked, context?, he]
      rfl
    rw [hsame _ htree, hsame { d with links := d'.links } htree]
    cases hd : d.resolution? id with
    | none => rw [Option.or_none]
    | some resolution => rw [hkept resolution hd, Option.some_or]
  | some tree =>
    by_cases hlt : id.index < tree.references.size
    · have hplain := linked_get? (x := x) hprovider htree (hsize tree htree) hstate hlt
      have hasked := linked_get? (d := { d with links := d'.links }) (x := x) hprovider htree
        (hsize' tree htree) hstate hlt
      change (((l.linked x { d with links := d'.links }).links)[id.index]?).join =
        ((d'.links[id.index]?).join).or ((((l.linked x d).links)[id.index]?).join)
      rw [hasked, hplain]
      cases hd' : (d'.links[id.index]?).join with
      | some resolution => rfl
      | none =>
        have hd : (d.links[id.index]?).join = none := by
          refine Option.eq_none_iff_forall_ne_some.mpr fun resolution hresolution => ?_
          rw [show (d'.links[id.index]?).join = some resolution from
            hkept resolution hresolution] at hd'
          cases hd'
        rw [hd]
        rfl
    · have hout : ∀ e : Document, e.Sized → e.tree? = some tree → e.resolution? id = none := by
        intro e he htree'
        rw [Document.resolution?, Array.getElem?_eq_none (by rw [he tree htree']; omega)]
        rfl
      have htree' : ∀ e : Document, e.tree? = some tree → (l.linked x e).tree? = some tree := by
        intro e he
        rwa [Document.linked_eq]
      rw [hout _ (sized_linked hprovider hsize') (htree' _ htree), hout _ hsize' htree,
        hout _ (sized_linked hprovider hsize) (htree' _ htree)]
      rfl

theorem eq_linked {e : Document} {i left : Interrupt} (h : l.link x d i = (e, some left)) :
    e = l.linked x d := by
  rcases l.link_cases x d i with ⟨hc, -⟩ | ⟨left', hdone, -⟩
  · rw [hc] at h
    cases h
  · rw [hdone] at h
    cases h
    rfl

theorem link_never (l : Linker) (x : Index) (d : Document) :
    l.link x d .never = (l.linked x d, some .never) := by
  rcases l.link_cases x d .never with ⟨-, hne⟩ | ⟨left, hdone, hleft⟩
  · exact absurd rfl hne
  · rw [hdone, hleft rfl]

section

variable {asked plain : Document} {i j left left' : Interrupt} {symbols : LocalSymbols}
  {failure : Option Diagnostic}

theorem alike_scoped (hprovider : l.provider = .default) (symbols : LocalSymbols)
    (failure : Option Diagnostic) (events : List Early) :
    ((d.early l (events.filter (!·.isAsk))).withScopes symbols failure).Alike
      ((d.early l events).withScopes symbols failure) :=
  (Document.alike_early hprovider (.refl d) events).withScopes symbols failure

theorem resolution?_scoped (hprovider : l.provider = .default) (hstate : d.state < .computedScopes)
    (hsize : d.Sized) (symbols : LocalSymbols) (failure : Option Diagnostic)
    (events : List Early) : ((d.early l events).withScopes symbols failure).resolution? =
      d.recalled l d.resolution? events := by
  rw [← Document.resolution?_early hprovider hstate hsize]
  cases failure <;> rfl

theorem sized_scoped (hprovider : l.provider = .default) (hsize : d.Sized) (symbols : LocalSymbols)
    (failure : Option Diagnostic) (events : List Early) :
    ((d.early l events).withScopes symbols failure).Sized := by
  have h := Document.sized_early hprovider hsize events
  cases failure <;> exact h

theorem resolution?_asked (hprovider : l.provider = .default) (hstate : d.state < .computedScopes)
    (hsize : d.Sized)
    (hasked : l.link x ((d.early l events).withScopes symbols failure) i = (asked, some left))
    (hplain : l.link x ((d.early l (events.filter (!·.isAsk))).withScopes symbols failure) j =
      (plain, some left')) (id : RefId) :
    asked.resolution? id = (d.recalled l d.resolution? events id).or (plain.resolution? id) := by
  rw [eq_linked hasked, eq_linked hplain,
    ← resolution?_scoped hprovider hstate hsize symbols failure]
  refine resolution?_linked hprovider (alike_scoped hprovider symbols failure events)
    (Nat.le_refl _) (sized_scoped hprovider hsize symbols failure _)
    (sized_scoped hprovider hsize symbols failure _) ?_
  rw [resolution?_scoped hprovider hstate hsize, resolution?_scoped hprovider hstate hsize]
  exact fun resolution h => Document.recalled_of_quiet h

/-- Asking early changes nothing if what is recalled would have been found. -/
theorem asked_eq_plain (hprovider : l.provider = .default) (hstate : d.state < .computedScopes)
    (hsize : d.Sized)
    (hasked : l.link x ((d.early l events).withScopes symbols failure) i = (asked, some left))
    (hplain : l.link x ((d.early l (events.filter (!·.isAsk))).withScopes symbols failure) j =
      (plain, some left'))
    (h : ∀ id resolution, d.recalled l d.resolution? events id = some resolution →
      plain.resolution? id = some resolution) : asked = plain := by
  have halike : plain.Alike asked := by
    rw [eq_linked hasked, eq_linked hplain]
    exact alike_linked hprovider (alike_scoped hprovider symbols failure events)
  refine halike.eq_of_resolution? (funext fun id => ?_)
  rw [resolution?_asked hprovider hstate hsize hasked hplain]
  cases hknown : d.recalled l d.resolution? events id with
  | none => rw [Option.none_or]
  | some resolution => rw [h id resolution hknown, Option.some_or]

/-- **What a document is linked to after references were asked for early.**
It is what is recalled, and where nothing is recalled it is what the document
is linked to if no reference was asked for. No error is recalled but one that
was there from the start. -/
theorem link_early (hprovider : l.provider = .default) (hstate : d.state < .computedScopes)
    (hsize : d.Sized)
    (hasked : l.link x ((d.early l events).withScopes symbols failure) i = (asked, some left))
    (hplain : l.link x ((d.early l (events.filter (!·.isAsk))).withScopes symbols failure) j =
      (plain, some left')) :
    (∀ id resolution, d.recalled l d.resolution? events id = some resolution →
        resolution.isError = false ∨ d.resolution? id = some resolution) ∧
      (∀ id, asked.resolution? id =
        (d.recalled l d.resolution? events id).or (plain.resolution? id)) ∧
      (asked = plain ↔ ∀ id resolution, d.recalled l d.resolution? events id = some resolution →
        plain.resolution? id = some resolution) := by
  have hor := resolution?_asked hprovider hstate hsize hasked hplain
  refine ⟨fun id resolution h => ?_, hor, fun h id resolution hknown => ?_,
    asked_eq_plain hprovider hstate hsize hasked hplain⟩
  · rcases Document.recalled_cases h with ⟨hknown, -⟩ | ⟨before, y, later, -, -, hfound⟩
    · exact Or.inr hknown
    · exact Or.inl (of_found? hfound).1
  · rw [← h, hor, hknown, Option.some_or]

/-- Scopes that agree on the symbols of a text give it the same meaning. -/
theorem lookUp_congr {reference : Reference} {scope scope' : Scope}
    (h : scope.symbols.filter (·.name == reference.refText) =
      scope'.symbols.filter (·.name == reference.refText)) :
    LinkContext.lookUp reference scope = LinkContext.lookUp reference scope' := by
  have hfirst : scope.symbol? reference.refText = scope'.symbol? reference.refText := by
    rw [Scope.symbol?, Scope.symbol?, ← List.head?_filter, ← List.head?_filter, h]
  rw [LinkContext.lookUp, LinkContext.lookUp, Scope.symbolsNamed, Scope.symbolsNamed, h, hfirst]

/-- What a text means where no enclosing node offers a symbol of it. -/
theorem answer_of_unshadowed {cx : LinkContext} {reference : Reference}
    (hlocal : ∀ symbols, cx.document.localScopes = some symbols →
      ∀ node ∈ LinkContext.enclosing cx.tree cx.tree.ast.size reference.container,
        ∀ s ∈ (symbols.get? node).getD [], s.name ≠ reference.refText) :
    cx.answer reference = LinkContext.lookUp reference (Scope.empty.withOuter
      (cx.index.elements cx.linker.types (some reference.target.typeName))) := by
  refine lookUp_congr ?_
  rw [LinkContext.lexicalScope, Scope.symbols_withOuter, Scope.symbols_withOuter,
    List.filter_append, List.filter_append]
  congr 1
  refine List.filter_eq_nil_iff.mpr fun s hs => ?_
  cases hscopes : cx.document.localScopes with
  | none =>
    rw [hscopes] at hs
    cases hs
  | some symbols =>
    rw [hscopes, Scope.symbols, List.mem_flatten] at hs
    obtain ⟨layer, hlayer, hs⟩ := hs
    obtain ⟨node, hnode, rfl⟩ := List.mem_map.mp hlayer
    have hne := hlocal symbols hscopes node hnode s (List.mem_filter.mp hs).1
    simpa using hne

/-- Without asking, a reference is resolved to what its text means when the
document is linked. -/
theorem resolution?_plain {tree : SyntaxTree} {reference : Reference}
    (hprovider : l.provider = .default) (hstate : d.state < .computedScopes) (hsize : d.Sized)
    (hfresh : ∀ id, d.resolution? id = none)
    (hplain : l.link x ((d.early l (events.filter (!·.isAsk))).withScopes symbols failure) j =
      (plain, some left'))
    (htree : plain.tree? = some tree) (hreference : tree.reference? id = some reference) :
    plain.resolution? id = some (LinkContext.answer
      ⟨l, x, (d.early l (events.filter (!·.isAsk))).withScopes symbols failure, tree⟩
      reference) := by
  set quiet := (d.early l (events.filter (!·.isAsk))).withScopes symbols failure
  obtain rfl := eq_linked hplain
  obtain ⟨hlt, rfl⟩ := Array.getElem?_eq_some_iff.mp hreference
  have htree' : quiet.tree? = some tree := by rwa [Document.linked_eq] at htree
  have hnone : quiet.resolution? id = none := by
    rw [resolution?_scoped hprovider hstate hsize]
    refine Option.eq_none_iff_forall_ne_some.mpr fun resolution h => ?_
    have hknown := (Document.recalled_quiet h).1
    rw [hfresh] at hknown
    cases hknown
  have hlinked := linked_get? (x := x) hprovider htree'
    (sized_scoped hprovider hsize symbols failure _ tree htree') (Nat.le_refl _) hlt
  rw [Document.resolution?, hlinked, show (quiet.links[id.index]?).join = none from hnone]
  rfl

/-- **Asking early is harmless** as long as the exports stay what they are
and no enclosing node offers a symbol of the text that is asked for. -/
theorem link_unshadowed (hprovider : l.provider = .default) (hstate : d.state < .computedScopes)
    (hsize : d.Sized) (hfresh : ∀ id, d.resolution? id = none) (hscopes : d.localScopes = none)
    (hasked : l.link x ((d.early l events).withScopes symbols failure) i = (asked, some left))
    (hplain : l.link x ((d.early l (events.filter (!·.isAsk))).withScopes symbols failure) j =
      (plain, some left'))
    (hexports : ∀ y id, .ask y id ∈ events → y.exports = x.exports)
    (hlocal : ∀ tree, plain.tree? = some tree → ∀ reference ∈ tree.references,
      ∀ node ∈ LinkContext.enclosing tree tree.ast.size reference.container,
        ∀ s ∈ (symbols.get? node).getD [], s.name ≠ reference.refText) : asked = plain := by
  refine asked_eq_plain hprovider hstate hsize hasked hplain fun id resolution hknown => ?_
  rcases Document.recalled_cases hknown with ⟨hknown, -⟩ | ⟨before, y, later, rfl, hlater, hfound⟩
  · rw [hfresh] at hknown
    cases hknown
  · obtain ⟨-, tree, reference, htree, hreference, rfl⟩ := of_found? hfound
    have hbefore : (d.early l before).localScopes = none :=
      Document.localScopes_early hprovider hscopes before
    have hask : Early.ask y id ∈ before ++ .ask y id :: later :=
      List.mem_append_right _ List.mem_cons_self
    -- Nothing has replaced the tree until the document is linked.
    have hkept : (d.early l (before ++ .ask y id :: later)).tree? = some tree := by
      rw [Document.early_append, Document.tree?_early hprovider, htree]
      exact List.forall_mem_cons.mpr ⟨rfl, hlater⟩
    have hplainTree : plain.tree? = some tree := by
      rw [eq_linked hplain, Document.linked_eq]
      refine Eq.trans ?_ hkept
      rw [(Document.alike_early hprovider (.refl d) _).tree?_eq]
      cases failure <;> rfl
    rw [resolution?_plain hprovider hstate hsize hfresh hplain hplainTree hreference,
      Option.some.injEq, answer_of_unshadowed, answer_of_unshadowed]
    · dsimp only
      rw [Index.elements, Index.elements, hexports y id hask]
    · intro symbols' h
      rw [hbefore] at h
      cases h
    · intro symbols' h
      cases h
      exact hlocal tree hplainTree reference (Array.mem_of_getElem? hreference)

end

end Linker

/-! ## A reference to an item of its own file -/

namespace Workspace

namespace Items

/-- A file that refers to an item of its own. -/
def own : Document := .ofText second "ab:a"

/-- The exports of the other file, which has an item of the same name. -/
def others : Index := ((Build.update services [first] []).run (.ofFiles files) .never).2.index

/-- The file is parsed, and its reference is asked for before its own exports
are in the index. -/
def askedOnce : List Early :=
  match services.parser.parse own.text none .never with
  | .ok (result, _) => [.parse result, .ask others ⟨0⟩, .index none]
  | .error _ => []

/-- The symbols of its own. -/
def ownScopes : LocalSymbols := (own.early services.linker askedOnce).scoped

/-- The file linked after some events. -/
def linkedAfter (events : List Early) : Document :=
  services.linker.linked others ((own.early services.linker events).withScopes ownScopes none)

end Items

open Items in
/-- Asked for early, the reference is resolved to the item of the other file;
else it is resolved to that of its own file. -/
theorem link_early_shadowed :
    (linkedAfter askedOnce).resolution? ⟨0⟩ = some (.single ⟨first, 1, ⟨1⟩⟩) ∧
      (linkedAfter (askedOnce.filter (!·.isAsk))).resolution? ⟨0⟩ =
        some (.single ⟨second, 1, ⟨1⟩⟩) ∧
      ∀ id, (linkedAfter askedOnce).resolution? id =
        (own.recalled services.linker own.resolution? askedOnce id).or
          ((linkedAfter (askedOnce.filter (!·.isAsk))).resolution? id) :=
  ⟨by decide +kernel, by decide +kernel,
    (Linker.link_early rfl (by decide) (fun _ h => by cases h) (Linker.link_never ..)
      (Linker.link_never ..)).2.1⟩

end Workspace
end Workbench
