import Workbench.Proofs.Workspace.Accurate
/-!
# What references to many nodes list

A reference to many nodes lists every symbol of its name that is in its scope
when its document is linked. What it lists stays in scope, since the document
is linked again when a document changes that the reference leads to. It need
not stay complete: a document that gets a symbol of the name is no reason to
link the others again, unless they refer to it or have linking errors. So what
a reference misses is in documents that were named by updates since its own
was linked, and that it does not lead to.
-/

namespace Workbench

/-- Where a symbol is: the document and the path of its node. -/
def Symbol.place (s : Symbol) : Uri × String := (s.uri, s.path)

namespace Scope

variable {symbols : List Symbol} {s : Symbol}

/-- Each place is kept once. -/
theorem nodup_distinctPlaces (symbols : List Symbol) :
    ((distinctPlaces symbols).map Symbol.place).Nodup := by
  induction symbols with
  | nil => exact List.nodup_nil
  | cons first rest ih =>
    rw [distinctPlaces, List.map_cons, List.nodup_cons]
    refine ⟨fun hmem => ?_, ih.sublist (List.filter_sublist.map _)⟩
    obtain ⟨t, ht, hplace⟩ := List.mem_map.mp hmem
    obtain ⟨huri, hpath⟩ := Prod.mk.inj hplace
    have hother := (List.mem_filter.mp ht).2
    rw [huri, hpath] at hother
    simp at hother

/-- No place is lost. -/
theorem place_mem_distinctPlaces (h : s ∈ symbols) :
    s.place ∈ (distinctPlaces symbols).map Symbol.place := by
  induction symbols with
  | nil => cases h
  | cons first rest ih =>
    rw [distinctPlaces, List.map_cons, List.mem_cons]
    rcases List.mem_cons.mp h with rfl | hin
    · exact Or.inl rfl
    · by_cases hsame : s.place = first.place
      · exact Or.inl hsame
      · obtain ⟨t, ht, hplace⟩ := List.mem_map.mp (ih hin)
        refine Or.inr (List.mem_map.mpr ⟨t, List.mem_filter.mpr ⟨ht, ?_⟩, hplace⟩)
        by_contra hdropped
        refine hsame (hplace.symm.trans ?_)
        simpa [Symbol.place] using hdropped

end Scope

/-- A reference to many nodes that is resolved lists the symbols of its name. -/
theorem LinkContext.lookUp_multi {reference : Reference} {scope : Scope}
    (hmulti : reference.target.multi = true) (hok : (lookUp reference scope).isError = false) :
    lookUp reference scope =
      .multi ((scope.symbolsNamed reference.refText).map Symbol.handle) := by
  rw [lookUp, if_pos hmulti] at hok ⊢
  split
  next hnil =>
    rw [hnil] at hok
    cases hok
  next => rfl

namespace Built

/-! ## Lists -/

/-- **What a reference lists**, where `since` are the uris that updates have
named since its document was linked: symbols in its scope, each place once,
and all of them but for those in other documents that were named since and
that no listed symbol is in. -/
structure Lists (types : TypeGraph) (since : List Uri) (b : Built) (d : Document)
    (reference : Reference) (symbols : List Symbol) : Prop where
  once : (symbols.map Symbol.place).Nodup
  visible : ∀ s ∈ symbols, b.InScope types d reference s
  all : ∀ s, b.InScope types d reference s → s.place ∈ symbols.map Symbol.place ∨
    s.uri ∈ since ∧ s.uri ≠ d.uri ∧ ∀ listed ∈ symbols, listed.uri ≠ s.uri

/-- **References to many nodes are as complete as they can be** in linked
documents, where `since` has for each document the uris that were named since
it was linked. A document that is not in the index was named since. -/
structure Listed (types : TypeGraph) (since : Uri → List Uri) (b : Built) : Prop where
  current : b.Current types []
  ahead : ∀ uri d, b.documents.get? uri = some d → .linked ≤ d.state →
    ∀ v e, b.documents.get? v = some e → e.state < .indexedContent → v ∈ since uri
  lists : ∀ uri d tree, b.documents.get? uri = some d → .linked ≤ d.state → d.tree? = some tree →
    ∀ i (hi : i < tree.references.size), tree.references[i].target.multi = true →
    ∀ resolution, (d.links[i]?).join = some resolution → resolution.isError = false →
      ∃ symbols, resolution = .multi (symbols.map Symbol.handle) ∧
        b.Lists types (since uri) d tree.references[i] symbols

variable {services : Services} {types : TypeGraph} {since : Uri → List Uri} {b b' : Built}
  {d d' : Document} {reference : Reference} {symbols : List Symbol} {s : Symbol} {uris : List Uri}
  {uri v : Uri} {t : DocumentState}

/-- A symbol in scope is in the document of the reference, or in one that is in
the index. -/
theorem InScope.uri_cases (hk : b.Keyed) (h : b.InScope types d reference s) :
    s.uri = d.uri ∨ ∃ e, b.documents.get? s.uri = some e ∧ .indexedContent ≤ e.state := by
  rcases h.place with ⟨_, -, id, -, hs⟩ | ⟨v, e, he, hstate, hs⟩
  · obtain ⟨_, -, id', -, -, hsymbol⟩ := (Document.mem_scoped id).mp hs
    obtain ⟨_, -, -, -, hhandle⟩ := Document.symbol?_eq_some hsymbol
    exact Or.inl (congrArg NodeHandle.uri hhandle)
  · have huri : s.uri = v := (Document.uri_of_mem_exported hs).trans (hk v e he)
    exact Or.inr ⟨e, by rw [huri]; exact he, hstate⟩

/-- Going on with a build brings symbols into scope only from documents that
were not in the index. -/
theorem Onward.inScope_cases (h : b.Onward b') (hk : b'.Keyed) (hd : d.SameParse d')
    (hs : b'.InScope types d' reference s) : b.InScope types d reference s ∨
      ∃ e, b.documents.get? s.uri = some e ∧ e.state < .indexedContent := by
  rcases hs.place with ⟨tree, htree, hlocal⟩ | ⟨v, e', he', hstate, hexported⟩
  · rw [hd.tree?_eq] at htree
    rw [hd.scoped_eq] at hlocal
    exact Or.inl ⟨hs.name, hs.type, Or.inl ⟨tree, htree, hlocal⟩⟩
  · obtain ⟨e, he⟩ := h.before he'
    by_cases hindexed : .indexedContent ≤ e.state
    · rw [(h.documents v e e' he he' hindexed).1.exported_eq] at hexported
      exact Or.inl ⟨hs.name, hs.type, Or.inr ⟨v, e, he, hindexed, hexported⟩⟩
    · have huri : s.uri = v := (Document.uri_of_mem_exported hexported).trans (hk v e' he')
      exact Or.inr ⟨e, by rw [huri]; exact he, Nat.lt_of_not_le hindexed⟩

namespace Lists

/-- **Going on with a build keeps a list**, if documents that come into the
index were named since. -/
theorem onward {since : List Uri} (h : b.Lists types since d reference symbols) (hk : b.Keyed)
    (hk' : b'.Keyed) (honward : b.Onward b') (hd : d.SameParse d')
    (hself : ∃ e, b.documents.get? d.uri = some e ∧ .indexedContent ≤ e.state)
    (hahead : ∀ v e, b.documents.get? v = some e → e.state < .indexedContent → v ∈ since) :
    b'.Lists types since d' reference symbols := by
  refine ⟨h.once, fun s hs => ?_, fun s hs => ?_⟩
  · refine (h.visible s hs).congr hd fun v e he hstate _ => ?_
    obtain ⟨e', he'⟩ := honward.after he
    exact ⟨e', he', honward.documents v e e' he he' hstate⟩
  · rcases honward.inScope_cases hk' hd hs with hold | ⟨e, he, hstate⟩
    · rw [hd.uri]
      exact h.all s hold
    · -- a document outside of the index is neither that of the reference nor listed
      have hout : ∀ v e₀, b.documents.get? v = some e₀ → .indexedContent ≤ e₀.state →
          v ≠ s.uri := by
        rintro v e₀ he₀ hindexed rfl
        rw [he, Option.some.injEq] at he₀
        subst he₀
        exact absurd hindexed (Nat.not_le_of_lt hstate)
      obtain ⟨e₀, he₀, hindexed₀⟩ := hself
      refine Or.inr ⟨hahead _ e he hstate, ?_, fun listed hlisted => ?_⟩
      · rw [hd.uri]
        exact (hout _ e₀ he₀ hindexed₀).symm
      · rcases (h.visible listed hlisted).uri_cases hk with heq | ⟨e₁, he₁, hindexed₁⟩
        · rw [heq]
          exact hout _ e₀ he₀ hindexed₀
        · exact hout _ e₁ he₁ hindexed₁

/-- **The answer to a reference lists all that is in scope.** -/
theorem answer (hsound : b.Sound services) (hscopes : d.localScopes = some d.scoped)
    {tree : SyntaxTree} (htree : d.tree? = some tree) (hmulti : reference.target.multi = true)
    (hok : (LinkContext.answer ⟨services.linker, b.index, d, tree⟩ reference).isError = false)
    (since : List Uri) :
    ∃ symbols, LinkContext.answer ⟨services.linker, b.index, d, tree⟩ reference =
        .multi (symbols.map Symbol.handle) ∧
      b.Lists services.linker.types since d reference symbols := by
  refine ⟨_, LinkContext.lookUp_multi hmulti hok, Scope.nodup_distinctPlaces _, fun s hs => ?_,
    fun s hs => Or.inl ?_⟩
  · obtain ⟨hin, hname⟩ := List.mem_filter.mp (LinkContext.mem_distinctPlaces hs)
    exact (mem_lexicalScope hsound hscopes htree).mp ⟨hin, by simpa using hname⟩
  · obtain ⟨hin, hname⟩ := (mem_lexicalScope hsound hscopes htree).mpr hs
    exact Scope.place_mem_distinctPlaces (List.mem_filter.mpr ⟨hin, by simpa using hname⟩)

end Lists

/-! ## Builds -/

namespace Listed

/-- **Linking makes lists**, of all that is in scope for references that were
not resolved. -/
theorem lists_linked (hasking : services.Asking) (hsound : b.Sound services)
    (h : b.Listed services.linker.types since) (hd : b.documents.get? uri = some d)
    (hstate : .computedScopes ≤ d.state) {tree : SyntaxTree} (htree : d.tree? = some tree) {i : ℕ}
    (hi : i < tree.references.size) (hmulti : tree.references[i].target.multi = true)
    {resolution : Resolution}
    (hlink : (((services.linker.linked b.index d).links)[i]?).join = some resolution)
    (hok : resolution.isError = false) :
    ∃ symbols, resolution = .multi (symbols.map Symbol.handle) ∧
      b.Lists services.linker.types (since uri) d tree.references[i] symbols := by
  have hdsound := hsound.document uri d hd
  rw [Linker.linked_get? hasking.usual.provider htree (hdsound.sized hasking tree htree) hstate hi,
    Option.some.injEq] at hlink
  cases hold : (d.links[i]?).join with
  | none =>
    rw [hold, Option.getD_none] at hlink
    rw [← hlink] at hok ⊢
    exact Lists.answer hsound (hdsound.scopes hstate) htree hmulti hok (since uri)
  | some old =>
    rw [hold, Option.getD_some] at hlink
    subst hlink
    by_cases hlinked : .linked ≤ d.state
    · exact h.lists uri d tree hd hlinked htree i hi hmulti old hold hok
    · rw [Option.join_eq_some_iff] at hold
      have hnone := hdsound.unlinked (Nat.lt_of_not_le hlinked) _ (Array.mem_of_getElem? hold)
      cases hnone

/-- Documents that are not in the index were named since, also when a build
goes on: when a document is linked, all of them are in the index. -/
theorem ahead_advance (hsound : b.Sound services) (h : b.Listed types since)
    (hcovers : b.Covers uris) (hdue : b.Due uris t uri)
    (hadv : b.advance services t uri = .ok b') :
    ∀ u d', b'.documents.get? u = some d' → .linked ≤ d'.state →
      ∀ v e', b'.documents.get? v = some e' → e'.state < .indexedContent → v ∈ since u := by
  intro u d' hd' hlinked v e' he' hstate
  obtain ⟨e, he, hbehind⟩ :
      ∃ e, b.documents.get? v = some e ∧ e.state < .indexedContent := by
    obtain ⟨e, he⟩ := (Onward.advance hsound hdue hadv).before he'
    refine ⟨e, he, Nat.lt_of_not_le fun hindexed => ?_⟩
    exact absurd ((Onward.advance hsound hdue hadv).documents v e e' he he' hindexed).2
      (Nat.not_le_of_lt hstate)
  by_cases hu : u = uri
  · subst hu
    obtain ⟨d, hd, -⟩ := get?_advance hsound.keyed hadv hd'
    rw [state_advance hsound.keyed (ne_changed_of_mem_stages hdue.stage) hadv hd'] at hlinked
    obtain ⟨hlow, -⟩ := hdue.bounds hd
    cases t with
    | linked =>
      -- what is linked has all the others behind it in the index
      have hscoped : .computedScopes ≤ e.state := hcovers.states hdue v e he
      have hrank : 3 ≤ e.state.rank := hscoped
      have hrank' : e.state.rank < 2 := hbehind
      omega
    | validated =>
      have hlow' : 5 ≤ d.state.rank + 1 := hlow
      exact h.ahead u d hd (show 4 ≤ d.state.rank by omega) v e he hbehind
    | _ => exact absurd hlinked (by decide)
  · rw [get?_advance_of_ne hsound.keyed hadv hu] at hd'
    exact h.ahead u d' hd' hlinked v e he hbehind

/-- **Taking a document through a phase keeps lists.** -/
theorem advance (hasking : services.Asking) (hsound : b.Sound services)
    (hsound' : b'.Sound services) (h : b.Listed services.linker.types since)
    (hcovers : b.Covers uris) (hdue : b.Due uris t uri)
    (hadv : b.advance services t uri = .ok b') : b'.Listed services.linker.types since := by
  have honward := Onward.advance hsound hdue hadv
  have hahead := h.ahead_advance hsound hcovers hdue hadv
  refine ⟨h.current.advance hasking hsound hcovers hdue hadv, hahead, ?_⟩
  -- what is listed before the step for a document that is linked after it
  have hkeep : ∀ {u d d' reference symbols}, b.documents.get? u = some d →
      .computedScopes ≤ d.state → d.SameParse d' →
      (∀ v e, b.documents.get? v = some e → e.state < .indexedContent → v ∈ since u) →
      b.Lists services.linker.types (since u) d reference symbols →
      b'.Lists services.linker.types (since u) d' reference symbols := by
    intro u d d' reference symbols hd hstate hsame hbehind hlists
    refine hlists.onward hsound.keyed hsound'.keyed honward hsame ⟨d, ?_, ?_⟩ hbehind
    · rw [hsound.keyed u d hd]
      exact hd
    · exact Nat.le_trans (by decide) hstate
  intro u d' tree hd' hlinked htree i hi hmulti resolution hlink hok
  by_cases hu : u = uri
  · subst hu
    obtain ⟨d, hd, hphase⟩ := get?_advance hsound.keyed hadv hd'
    have ht := state_advance hsound.keyed (ne_changed_of_mem_stages hdue.stage) hadv hd'
    rw [ht] at hlinked
    have hsame := phase_sameParse (t := t)
      (fun heq => by rw [heq] at hlinked; exact absurd hlinked (by decide)) hphase
    have htree₀ : d.tree? = some tree := by rw [← hsame.tree?_eq]; exact htree
    obtain ⟨hlow, -⟩ := hdue.bounds hd
    cases t with
    | linked =>
      have hlow' : 4 ≤ d.state.rank + 1 := hlow
      have hstate : .computedScopes ≤ d.state := show 3 ≤ d.state.rank by omega
      rw [Document.phase_linked, Except.ok.injEq, Prod.mk.injEq] at hphase
      obtain ⟨rfl, -⟩ := hphase
      obtain ⟨symbols, hresolution, hlists⟩ :=
        h.lists_linked hasking hsound hd hstate htree₀ hi hmulti hlink hok
      refine ⟨symbols, hresolution, hkeep hd hstate hsame (fun v e he hbehind => ?_) hlists⟩
      have hscoped : 3 ≤ e.state.rank := hcovers.states hdue v e he
      have hrank : e.state.rank < 2 := hbehind
      omega
    | validated =>
      have hlow' : 5 ≤ d.state.rank + 1 := hlow
      have hlinked₀ : .linked ≤ d.state := show 4 ≤ d.state.rank by omega
      rw [Document.phase_validated, Document.checked_eq, Except.ok.injEq, Prod.mk.injEq] at hphase
      obtain ⟨rfl, -⟩ := hphase
      obtain ⟨parse, hparse, rfl⟩ := Option.map_eq_some_iff.mp htree₀
      dsimp only at hlink
      rw [Document.links_checked hasking.asks hparse (h.current.allResolved hd hlinked₀ htree₀)]
        at hlink
      obtain ⟨symbols, hresolution, hlists⟩ :=
        h.lists u d parse.tree hd hlinked₀ htree₀ i hi hmulti resolution hlink hok
      exact ⟨symbols, hresolution, hkeep hd (Nat.le_trans (by decide) hlinked₀) hsame
        (h.ahead u d hd hlinked₀) hlists⟩
    | _ => exact absurd hlinked (by decide)
  · rw [get?_advance_of_ne hsound.keyed hadv hu] at hd'
    obtain ⟨symbols, hresolution, hlists⟩ :=
      h.lists u d' tree hd' hlinked htree i hi hmulti resolution hlink hok
    exact ⟨symbols, hresolution, hkeep hd' (Nat.le_trans (by decide) hlinked) (.refl d')
      (h.ahead u d' hd' hlinked) hlists⟩

/-- Only the marks of documents are changed. -/
theorem remarked (h : b.Listed types since) (hk : b.Keyed) (hr : b.Remarked b') :
    b'.Listed types since := by
  have hstates : ∀ v d', b'.documents.get? v = some d' →
      ∃ d, b.documents.get? v = some d ∧ d.SameParse d' ∧ d'.state = d.state ∧
        d'.links = d.links := by
    intro v d' hd'
    obtain ⟨d, hd, heq⟩ := hr.document v d' hd'
    rw [heq]
    exact ⟨d, hd, ⟨rfl, rfl, rfl⟩, rfl, rfl⟩
  refine ⟨h.current.remarked hr, fun u d' hd' hlinked v e' he' hbehind => ?_, ?_⟩
  · obtain ⟨d, hd, -, hstate, -⟩ := hstates u d' hd'
    obtain ⟨e, he, -, hstate', -⟩ := hstates v e' he'
    rw [hstate] at hlinked
    rw [hstate'] at hbehind
    exact h.ahead u d hd hlinked v e he hbehind
  · intro u d' tree hd' hlinked htree i hi hmulti resolution hlink hok
    obtain ⟨d, hd, hsame, hstate, hlinks⟩ := hstates u d' hd'
    rw [hstate] at hlinked
    rw [hlinks] at hlink
    rw [hsame.tree?_eq] at htree
    obtain ⟨symbols, hresolution, hlists⟩ :=
      h.lists u d tree hd hlinked htree i hi hmulti resolution hlink hok
    refine ⟨symbols, hresolution, hlists.onward hk (hr.keyed hk) hr.onward hsame ⟨d, ?_, ?_⟩
      (h.ahead u d hd hlinked)⟩
    · rw [hk u d hd]
      exact hd
    · exact Nat.le_trans (by decide) hlinked

/-- **Progress of a build keeps lists.** -/
theorem progress (hasking : services.Asking) (hsound : b.Sound services)
    (h : b.Listed services.linker.types since) (hcovers : b.Covers uris)
    (hp : Progress services uris b b') : b'.Listed services.linker.types since := by
  induction hp with
  | start => exact h
  | step hp hdue hadv ih =>
    exact ih.advance hasking (hsound.progress hp) (hsound.progress (hp.step hdue hadv))
      (hcovers.progress hsound.keyed hp) hdue hadv

/-- **A build keeps lists**, wherever it ends, if it comes through, or builds no
document twice, or nothing cancels it. -/
theorem builds (hasking : services.Asking) (hsound : b.Sound services)
    (h : b.Listed services.linker.types since) (hcovers : b.Covers uris) {options : ValidationMode}
    {i : Interrupt} {r : Except Stop Unit} (hclean : r = .ok () ∨ i = .never ∨ uris.Nodup)
    (hbuilds : b.Builds services uris options i r b') :
    b'.Listed services.linker.types since := by
  have hmark := b.remarked_mark options uris
  have hsound' := hsound.mark options uris
  obtain ⟨b₁, hp, hend⟩ := hbuilds.ends hsound.keyed
  have hlisted :=
    (h.remarked hsound.keyed hmark).progress hasking hsound' (hcovers.remarked hmark) hp
  obtain rfl | rfl | ⟨hstop, hne, t, uri, hdue, hhalts⟩ := hend
  · exact hlisted
  · exact hlisted.remarked (hp.keyed hsound'.keyed) (b₁.remarked_clear uris)
  · have hnodup := (hclean.resolve_left hstop).resolve_left hne
    have hsettled := hlisted.current.settled hasking
    rw [halts_eq (hsound'.progress hp) hsettled hdue hnodup hhalts]
    exact hlisted

end Listed
end Built

/-! ## Batches -/

namespace Workspace

section

variable {services : Services} {types : TypeGraph} {w w' : Workspace} {since : Uri → List Uri}
  {owed : List Uri} {changed deleted : List Uri} {interrupt : Interrupt} {uri v : Uri} {d : Document}

theorem sinceLinked_of_linked (hd : (w.prepared changed deleted).document? uri = some d)
    (hstate : .linked ≤ d.state) :
    w.sinceLinked changed deleted since uri = since uri ++ changed := by
  rw [sinceLinked, hd, Option.any_some, decide_eq_true hstate, if_pos rfl]

/-- Documents that are moved back are what they were. -/
theorem document?_relinked (batch : List Uri) (hd : (Build.relink w batch).document? uri = some d) :
    ∃ d₀, w.document? uri = some d₀ ∧ d₀.SameParse d ∧ d.state ≤ d₀.state ∧
      (.indexedContent ≤ d₀.state → .indexedContent ≤ d.state) := by
  refine foldl_invariant (P := fun w' => ∀ d, w'.document? uri = some d →
    ∃ d₀, w.document? uri = some d₀ ∧ d₀.SameParse d ∧ d.state ≤ d₀.state ∧
      (.indexedContent ≤ d₀.state → .indexedContent ≤ d.state)) (fun w' e h => ?_)
    (fun d hd => ⟨d, hd, .refl d, Nat.le_refl _, id⟩) _ d hd
  split
  · exact h
  · split
    · intro d hd
      rw [document?_resetTo] at hd
      split at hd
      next huri =>
        obtain ⟨d₁, hd₁, rfl⟩ := Option.map_eq_some_iff.mp hd
        obtain ⟨d₀, hd₀, hsame, hle, hindexed⟩ := h d₁ (huri ▸ hd₁)
        have hrank : (d₁.resetTo .computedScopes).state.rank = min d₁.state.rank 3 :=
          DocumentState.rank_min _ _
        refine ⟨d₀, hd₀, hsame.trans (sameParse_resetTo d₁ _), ?_, fun hstate => ?_⟩
        · have hle' : d₁.state.rank ≤ d₀.state.rank := hle
          exact show (d₁.resetTo .computedScopes).state.rank ≤ d₀.state.rank by omega
        · have hle' : 2 ≤ d₁.state.rank := hindexed hstate
          exact show 2 ≤ (d₁.resetTo .computedScopes).state.rank by omega
      next => exact h d hd
    · exact h

/-- **A document that an update begins to build** is named as changed, and not
in the index, or was there before, and is in the index if it was. -/
theorem prepared_cases (hd : (w.prepared changed deleted).document? v = some d) :
    (v ∈ changed ∧ d.state < .indexedContent) ∨
      ∃ d₀, w.document? v = some d₀ ∧ d₀.SameParse d ∧
        (.indexedContent ≤ d.state ↔ .indexedContent ≤ d₀.state) := by
  -- what was not dropped and not taken in is as it was
  have htaken : ∀ d, (w.taken changed deleted).2.document? v = some d →
      (v ∈ changed ∧ d.state = .changed) ∨ w.document? v = some d := by
    intro d hd
    rcases takes_cases (deleted.foldl drop w) changed v with ⟨hin, e, he, hstate⟩ | ⟨-, hsame⟩
    · obtain rfl : d = e := Option.some.inj (hd.symm.trans he)
      exact Or.inl ⟨hin, hstate⟩
    · have hdropped := hsame.document.symm.trans hd
      rcases drops_cases w deleted v with ⟨-, hnone⟩ | ⟨-, hsame'⟩
      · rw [hnone] at hdropped
        cases hdropped
      · exact Or.inr (hsame'.document.symm.trans hdropped)
  rw [prepared] at hd
  split at hd
  · obtain ⟨d₀, hd₀, hsame, hle, hindexed⟩ := document?_relinked _ hd
    rcases htaken d₀ hd₀ with ⟨hin, hstate⟩ | hold
    · refine Or.inl ⟨hin, Nat.lt_of_le_of_lt hle ?_⟩
      rw [hstate]
      decide
    · exact Or.inr ⟨d₀, hold, hsame, fun h => Nat.le_trans h hle, hindexed⟩
  · rcases htaken d hd with ⟨hin, hstate⟩ | hold
    · refine Or.inl ⟨hin, ?_⟩
      rw [hstate]
      decide
    · exact Or.inr ⟨d, hold, .refl d, Iff.rfl⟩

/-- Nothing comes into the scope of a linked document when a batch is taken
in. -/
theorem inScope_prepared {reference : Reference} {s : Symbol}
    (hs : (w.prepared changed deleted).built.InScope types d reference s) :
    w.built.InScope types d reference s := by
  refine hs.congr (.refl d) fun v e he hstate _ => ?_
  rcases prepared_cases he with ⟨-, hbehind⟩ | ⟨e₀, he₀, hsame, hindexed⟩
  · exact absurd hstate (Nat.not_le_of_lt hbehind)
  · exact ⟨e₀, he₀, hsame.symm, hindexed.mp hstate⟩

/-- What a document exports is in the scope of every reference that it fits. -/
theorem inScope_exported {reference : Reference} {s : Symbol} {e : Document}
    (he : w.document? v = some e) (hstate : .indexedContent ≤ e.state) (hs : s ∈ e.exported)
    (hname : s.name = reference.refText)
    (htype : types.isSubtype s.typeName reference.target.typeName = true) :
    w.built.InScope types d reference s :=
  ⟨hname, htype, Or.inr ⟨v, e, he, hstate, hs⟩⟩

/-- **A batch keeps lists**, and adds what it names as changed to what was named
since. -/
theorem listed_prepared (hsound : w.built.Sound services) (h : w.built.Listed types since)
    (hreads : w.Reads changed) (deleted : List Uri) :
    (w.prepared changed deleted).built.Listed types (w.sinceLinked changed deleted since) := by
  refine ⟨current_prepared hsound h.current hreads deleted, ?_, ?_⟩
  · intro u d hd hlinked v e he hbehind
    rw [sinceLinked_of_linked hd hlinked, List.mem_append]
    obtain ⟨hsame, -⟩ := prepared_linked hsound hd hlinked
    rcases prepared_cases he with ⟨hin, -⟩ | ⟨e₀, he₀, -, hindexed⟩
    · exact Or.inr hin
    · refine Or.inl (h.ahead u d (hsame.document.symm.trans hd) hlinked v e₀ he₀ ?_)
      exact Nat.lt_of_not_le fun hle => absurd (hindexed.mpr hle) (Nat.not_le_of_lt hbehind)
  · intro u d tree hd hlinked htree i hi hmulti resolution hlink hok
    obtain ⟨hsame, hrest⟩ := prepared_linked hsound hd hlinked
    obtain ⟨hout, -, haffected⟩ := hrest hreads
    have hd₀ : w.document? u = some d := hsame.document.symm.trans hd
    obtain ⟨symbols, rfl, hlists⟩ :=
      h.lists u d tree hd₀ hlinked htree i hi hmulti resolution hlink hok
    obtain ⟨resolution', hlink', -, hrecorded⟩ := h.current u d tree hd₀ hlinked htree i hi
    obtain rfl : Resolution.multi (symbols.map Symbol.handle) = resolution' :=
      Option.some.inj (hlink.symm.trans hlink')
    -- what is listed is not in the batch, or the document would be linked again
    have hbatch : ∀ s ∈ symbols, s.uri ∉ changed ++ deleted := fun s hs =>
      not_mem_of_records haffected (hrecorded s.handle (List.mem_map_of_mem hs)) hout
    refine ⟨symbols, rfl, hlists.once, fun s hs => ?_, fun s hs => ?_⟩
    · refine (hlists.visible s hs).congr (.refl d) fun v e he hstate hexported => ?_
      have huri : s.uri = v := (Document.uri_of_mem_exported hexported).trans (hsound.keyed v e he)
      obtain ⟨e', he', hsame', hindexed⟩ := document?_prepared (huri ▸ hbatch s hs) he
      exact ⟨e', he', hsame', hindexed hstate⟩
    · rw [sinceLinked_of_linked hd hlinked]
      refine (hlists.all s (inScope_prepared hs)).imp_right fun ⟨hin, hothers⟩ => ?_
      exact ⟨List.mem_append_left _ hin, hothers⟩

/-! ## Runs -/

/-- Documents that were only loaded are not linked. -/
theorem listed_loads (hempty : w.documents = .empty) (uris : List Uri) :
    (attemptAll load uris w).2.built.Listed types (fun _ => []) := by
  have hnone : ∀ v d, (attemptAll load uris w).2.built.documents.get? v = some d →
      ¬ .linked ≤ d.state := by
    intro v d hd hlinked
    rw [(loaded_of_empty hempty hd).2] at hlinked
    exact absurd hlinked (by decide)
  exact ⟨current_loads hempty uris, fun u d hd hlinked => absurd hlinked (hnone u d hd),
    fun u d _ hd hlinked => absurd hlinked (hnone u d hd)⟩

/-- **Lists are kept throughout a run** in which every batch can be read. -/
theorem Served.listed (hasking : services.Asking) (h : Served services owed (some since) w) :
    w.built.Listed services.linker.types since := by
  generalize hsince : some since = since? at h
  induction h generalizing since with
  | @load w w' folders interrupt r hreached hempty hclean hrun =>
    cases hsince
    obtain ⟨hsound, -⟩ := hreached.sound hasking.usual
    obtain ⟨uris, hend⟩ := ends_of_load hasking.usual hreached hclean hrun
    rcases hend with hb | ⟨i, end?, hbuilds, hclean⟩
    · rw [hb]
      exact listed_loads hempty uris
    · exact (listed_loads hempty uris).builds hasking (sound_loads hsound uris)
        (covers_loads hempty uris) hclean hbuilds
  | edit files _ ih => exact ih hsince
  | @update owed since? w w' changed deleted interrupt r hserved hreads hrun ih =>
    obtain ⟨f, rfl, rfl⟩ := Option.map_eq_some_iff.mp hsince.symm
    obtain ⟨hsound, -⟩ := hserved.reached.sound hasking.usual
    have hprepared := sound_prepared hsound changed deleted
    have hlisted := listed_prepared hsound (ih rfl) hreads deleted
    rcases ends_of_update hasking.usual hserved.reached hreads hrun with hb | ⟨i, end?, hbuilds⟩
    · rw [hb]
      exact hlisted
    · exact hlisted.builds hasking hprepared (Built.covers_awaiting hprepared)
        (Or.inr (Or.inr (Built.nodup_awaiting hprepared))) hbuilds
  | unread _ _ _ _ => cases hsince

/-- **What references to many nodes list after an update that comes through.**
Each that is resolved lists symbols that are in its scope now, of its name and
a type that is asked for, each place once. It lists all of them but for those
in other documents that were named as changed since its own was linked, and
that nothing listed is in. -/
theorem Served.lists_visible (hasking : services.Asking) (h : Served services owed (some since) w)
    (hrun : (Build.update services changed deleted).run w interrupt = (.ok (), w'))
    (hd : w'.document? uri = some d) {tree : SyntaxTree} (htree : d.tree? = some tree) {id : RefId}
    {reference : Reference} (hreference : tree.reference? id = some reference)
    (hmulti : reference.target.multi = true) {resolution : Resolution}
    (hresolution : d.resolution? id = some resolution) (hok : resolution.isError = false) :
    ∃ symbols, resolution = .multi (symbols.map Symbol.handle) ∧
      w'.built.Lists services.linker.types (w.sinceLinked changed deleted since uri) d reference
        symbols := by
  obtain ⟨hreads, hstates⟩ := linked_of_update hasking.usual h.reached hrun
  obtain ⟨hi, rfl⟩ := Array.getElem?_eq_some_iff.mp hreference
  exact ((h.update hreads hrun).listed hasking).lists uri d tree hd (hstates uri d hd) htree
    id.index hi hmulti resolution hresolution hok

end

namespace Plural

/-- Items that refer to all items of a name. -/
def definition : Definition := Items.language "Item" "of" true

/-- The services of the language. -/
def services : Services := .ofGrammar definition.grammar

theorem asking : services.Asking := ⟨Services.usual_ofGrammar _, fun _ hentry => nomatch hentry⟩

/-- The two files, and a third that has an item of the name of the first. -/
def more : FileSystem :=
  ⟨.memory, ⟨⟨[(Items.first, "a"), (Items.second, "b:a"), (Items.missing, "a")]⟩⟩⟩

/-- A run in which the two files are there. -/
def opened : Except Stop Unit × Workspace := Items.filled services

/-- Then the third is added. -/
def added : Except Stop Unit × Workspace :=
  (Build.update services [Items.missing] []).run { opened.2 with files := more } .never

theorem ok_added : opened.1 = .ok () ∧ added.1 = .ok () := by decide +kernel

/-- The run up to the third file. -/
theorem served :
    Served services []
      (some ((Items.started services).sinceLinked [Items.first, Items.second] [] fun _ => []))
      { opened.2 with files := more } := by
  have hreads : (Items.started services).Reads [Items.first, Items.second] := by decide
  rw [opened]
  exact (Items.served_filled hreads).edit more

/-- Once the third file is added, only that was named since the second was
linked. -/
theorem since_second :
    Workspace.sinceLinked { opened.2 with files := more } [Items.missing] []
      ((Items.started services).sinceLinked [Items.first, Items.second] [] fun _ => [])
      Items.second = [Items.missing] := by
  decide +kernel

/-- The reference in the second file still leads to the first file only. -/
theorem reference_second : ∃ d tree reference, added.2.document? Items.second = some d ∧
    d.tree? = some tree ∧ ⟨0⟩ ∈ tree.held ∧ tree.reference? ⟨0⟩ = some reference ∧
    reference.target.multi = true ∧ reference.refText = "a" ∧ reference.target.typeName = "Item" ∧
    d.resolution? ⟨0⟩ = some (.multi [⟨Items.first, 1, ⟨1⟩⟩]) := by
  have hheld : ((added.2.document? Items.second).bind Document.tree?).any (fun tree =>
      decide (⟨0⟩ ∈ tree.held) && (tree.reference? ⟨0⟩).any fun reference =>
        reference.target.multi && decide (reference.refText = "a" ∧
          reference.target.typeName = "Item")) = true := by decide +kernel
  have hresolution : (added.2.document? Items.second).bind (·.resolution? ⟨0⟩) =
      some (.multi [⟨Items.first, 1, ⟨1⟩⟩]) := by decide +kernel
  obtain ⟨tree, htree, hand⟩ := (Option.any_eq_true _ _).mp hheld
  obtain ⟨d, hd, htree⟩ := Option.bind_eq_some_iff.mp htree
  rw [hd, Option.bind_some] at hresolution
  rw [Bool.and_eq_true, decide_eq_true_eq, Option.any_eq_true] at hand
  obtain ⟨hmem, reference, hreference, hfacts⟩ := hand
  rw [Bool.and_eq_true, decide_eq_true_eq] at hfacts
  exact ⟨d, tree, reference, hd, htree, hmem, hreference, hfacts.1, hfacts.2.1, hfacts.2.2,
    hresolution⟩

/-- The item of the third file is in the scope of the reference. -/
theorem inScope_third {d : Document} {reference : Reference} (hname : reference.refText = "a")
    (htype : reference.target.typeName = "Item") :
    ∃ s, added.2.built.InScope services.linker.types d reference s ∧ s.uri = Items.missing := by
  have hexported : (added.2.document? Items.missing).any (fun e =>
      decide (.indexedContent ≤ e.state) && e.exported.any fun s =>
        decide (s.name = "a" ∧ s.uri = Items.missing) &&
          services.linker.types.isSubtype s.typeName "Item") = true := by decide +kernel
  obtain ⟨e, he, hand⟩ := (Option.any_eq_true _ _).mp hexported
  rw [Bool.and_eq_true, decide_eq_true_eq, List.any_eq_true] at hand
  obtain ⟨hstate, s, hs, hfits⟩ := hand
  rw [Bool.and_eq_true, decide_eq_true_eq] at hfits
  exact ⟨s, inScope_exported he hstate hs (by rw [hname, hfits.1.1]) (by rw [htype]; exact hfits.2),
    hfits.1.2⟩

end Plural

/-- **A list does not stay complete.** After an update that adds a file comes
through, a reference that is resolved does not list an item of its name and
type that the new file exports: nothing that it lists is all that is in its
scope. -/
theorem unlisted_added :
    Plural.opened.1 = .ok () ∧ Plural.added.1 = .ok () ∧
    ∃ d tree reference, Plural.added.2.document? Items.second = some d ∧ d.tree? = some tree ∧
      ⟨0⟩ ∈ tree.held ∧ tree.reference? ⟨0⟩ = some reference ∧ reference.target.multi = true ∧
      d.resolution? ⟨0⟩ = some (.multi [⟨Items.first, 1, ⟨1⟩⟩]) ∧
      ¬ ∃ symbols, [⟨Items.first, 1, ⟨1⟩⟩] = symbols.map Symbol.handle ∧
        Plural.added.2.built.Lists Plural.services.linker.types [] d reference symbols := by
  obtain ⟨d, tree, reference, hd, htree, hheld, hreference, hmulti, hname, htype, hresolution⟩ :=
    Plural.reference_second
  refine ⟨Plural.ok_added.1, Plural.ok_added.2, d, tree, reference, hd, htree, hheld, hreference,
    hmulti, hresolution, ?_⟩
  rintro ⟨symbols, hsymbols, hlists⟩
  obtain ⟨s, hs, huri⟩ := Plural.inScope_third (d := d) hname htype
  obtain ⟨listed, hlisted, hplace⟩ :=
    List.mem_map.mp ((hlists.all s hs).resolve_right fun hmissed => List.not_mem_nil hmissed.1)
  have hfirst : listed.handle ∈ [(⟨Items.first, 1, ⟨1⟩⟩ : NodeHandle)] := by
    rw [hsymbols]
    exact List.mem_map_of_mem hlisted
  have huri' : listed.uri = Items.first := congrArg NodeHandle.uri (List.mem_singleton.mp hfirst)
  have hsame : listed.uri = s.uri := congrArg Prod.fst hplace
  rw [huri', huri] at hsame
  exact absurd hsame (by decide)

/-- What the reference misses is in the file that was added. -/
theorem lists_visible_added :
    Plural.added.1 = .ok () ∧ ∃ d reference symbols s,
      Plural.added.2.document? Items.second = some d ∧
      d.resolution? ⟨0⟩ = some (.multi (symbols.map Symbol.handle)) ∧
      Plural.added.2.built.Lists Plural.services.linker.types [Items.missing] d reference symbols ∧
      Plural.added.2.built.InScope Plural.services.linker.types d reference s ∧
      s.uri = Items.missing := by
  obtain ⟨d, tree, reference, hd, htree, -, hreference, hmulti, hname, htype, hresolution⟩ :=
    Plural.reference_second
  obtain ⟨s, hs, huri⟩ := Plural.inScope_third (d := d) hname htype
  have hrun : (Build.update Plural.services [Items.missing] []).run
      { Plural.opened.2 with files := Plural.more } .never = (.ok (), Plural.added.2) :=
    run_of_fst (by rw [Plural.added]) Plural.ok_added.2
  obtain ⟨symbols, hsymbols, hlists⟩ := Served.lists_visible Plural.asking Plural.served hrun hd
    htree hreference hmulti hresolution rfl
  rw [Plural.since_second] at hlists
  exact ⟨Plural.ok_added.2, d, reference, symbols, s, hd, by rw [hresolution, hsymbols], hlists, hs,
    huri⟩

end Workspace
end Workbench
