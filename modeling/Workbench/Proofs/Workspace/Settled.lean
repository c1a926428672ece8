import Workbench.Proofs.Workspace.Prepared
/-!
# Settled documents

Checks run again on a linked document when an update is resumed, or because
something that it does not see has changed. They find it settled if they leave
its resolutions as they are. Checks that only ask for references do, since
linking resolves all of them; and where all documents are settled that wait
for being validated, a phase that was cancelled leaves no trace.
-/

namespace Workbench

/-- **Resolutions that no check changes**, whatever the index is and whether
or not the document is pending. -/
def Document.Settled (services : Services) (d : Document) : Prop :=
  ∀ parse, d.parse = some parse → ∀ entry ∈ services.checks, ∀ index build node,
    (entry.2 ⟨⟨services.linker, index, { d with build := build }, parse.tree⟩, node⟩ d.links).2 =
      d.links

namespace Document

variable {services : Services} {d : Document}

theorem settled_of_allResolved (hasks : services.checks.Asks)
    (h : ∀ parse, d.parse = some parse → LinkContext.AllResolved parse.tree d.links) :
    d.Settled services := by
  intro parse hparse entry hentry index build node
  obtain ⟨ids, hids⟩ := hasks entry hentry
    ⟨⟨services.linker, index, { d with build := build }, parse.tree⟩, node⟩ d.links
  rw [hids, LinkContext.asks_of_allResolved (h parse hparse)]

/-- Linking resolves everything. -/
theorem allResolved_linked (hasking : services.Asking) (hsound : d.Sound services)
    (hstate : .computedScopes ≤ d.state) (x : Index) {parse : ParseResult}
    (hparse : d.parse = some parse) :
    LinkContext.AllResolved parse.tree (services.linker.linked x d).links := by
  have htree := tree?_of_parse hparse
  intro i hi
  exact ⟨_, Linker.linked_get? hasking.usual.provider htree (hsound.sized hasking _ htree) hstate hi⟩

theorem Settled.build (h : d.Settled services) (build : Option ValidationMode) :
    Document.Settled services { d with build := build } :=
  fun parse hparse entry hentry index _ node => h parse hparse entry hentry index _ node

/-- Forgetting what is not resolved forgets nothing. -/
theorem unlink_eq (h : ∀ link ∈ d.links, link = none) : d.unlink.links = d.links := by
  refine Array.ext d.size_unlink fun i _ hi => ?_
  rw [h d.links[i] (Array.getElem_mem hi)]
  exact d.unlink_links _ (Array.getElem_mem _)

end Document

namespace Built

variable {services : Services} {b b' : Built} {uris : List Uri} {uri : Uri} {t : DocumentState}

/-! ## Inside of a phase -/

/-- Among distinct documents, one that is due stands in the state before. -/
theorem Due.lt (h : b.Due uris t uri) (hn : uris.Nodup) {d : Document}
    (hd : b.documents.get? uri = some d) : d.state < t := by
  obtain ⟨pre, post, rfl, -, hplace⟩ := h.place
  rw [List.nodup_append] at hn
  have hthis := hplace.resolve_left fun hin => hn.2.2 uri hin uri List.mem_cons_self rfl
  have hmem : uri ∈ b.todo t [uri] := by
    rw [hthis]
    exact List.mem_singleton_self uri
  obtain ⟨-, d', hd', hawaits⟩ := mem_todo.mp hmem
  rw [hd, Option.some.injEq] at hd'
  subst hd'
  exact (Document.awaits_iff.mp hawaits).1

/-- Checks find the documents settled that wait for being validated. -/
def Settled (services : Services) (b : Built) : Prop :=
  ∀ uri d, b.documents.get? uri = some d → d.state = .linked → d.Settled services

theorem Settled.advance (hasking : services.Asking) (hsound : b.Sound services)
    (h : b.Settled services) (hdue : b.Due uris t uri)
    (hadv : b.advance services t uri = .ok b') : b'.Settled services := by
  intro v d' hd' hstate
  by_cases hv : v = uri
  · subst hv
    have ht : t = .linked := by
      rw [← state_advance hsound.keyed (ne_changed_of_mem_stages hdue.stage) hadv hd', hstate]
    subst ht
    obtain ⟨d, hd, hphase⟩ := get?_advance hsound.keyed hadv hd'
    obtain ⟨hlow, -⟩ := hdue.bounds hd
    have hlow' : 4 ≤ d.state.rank + 1 := hlow
    rw [Document.phase_linked, Except.ok.injEq, Prod.mk.injEq] at hphase
    obtain ⟨rfl, -⟩ := hphase
    refine Document.settled_of_allResolved hasking.asks fun parse hparse => ?_
    exact Document.allResolved_linked hasking (hsound.document v d hd)
      (show 3 ≤ d.state.rank by omega) b.index hparse
  · rw [get?_advance_of_ne hsound.keyed hadv hv] at hd'
    exact h v d' hd' hstate

theorem Settled.progress (hasking : services.Asking) (hsound : b.Sound services)
    (h : b.Settled services) (hp : Progress services uris b b') : b'.Settled services := by
  induction hp with
  | start => exact h
  | step hp hdue hadv ih => exact ih.advance hasking (hsound.progress hp) hdue hadv

/-- **A phase that was cancelled leaves no trace.** -/
theorem halts_eq (hsound : b.Sound services) (hsettled : b.Settled services)
    (hdue : b.Due uris t uri) (hn : uris.Nodup) (h : b.Halts services t uri b') : b' = b := by
  cases h with
  | unchanged => rfl
  | @changed d links hd hlinks =>
    have hlt := hdue.lt hn hd
    have hlinks' : links = d.links := by
      cases hlinks with
      | unlinked => exact Document.unlink_eq ((hsound.document uri d hd).unlinked hlt)
      | checked hpartly =>
        have hstate : d.state = .linked := by
          have hlow : 5 ≤ d.state.rank + 1 := (hdue.bounds hd).1
          have hhigh : d.state.rank < 5 := hlt
          cases hs : d.state <;> rw [hs] at hlow hhigh <;> first | rfl | (revert hlow hhigh; decide)
        obtain ⟨parse, pre, hparse, -, rfl⟩ := hpartly
        exact CheckRegistry.onNodes_of_pure
          (fun entry hentry node => hsettled uri d hd hstate parse hparse entry hentry _ d.build node)
          pre
    subst hlinks'
    have hput : b.documents.insert d.uri d = b.documents := by
      rw [hsound.keyed uri d hd]
      exact OrderedMap.insert_of_get? hd
    rw [put]
    dsimp only
    rw [hput]

/-! ## What is left to be built -/

/-- Whether an update builds a document. -/
def waits (d : Document) : Bool := d.state < .linked || d.isPending

theorem awaiting_eq (hnodup : b.documents.keys.Nodup) (hk : b.Keyed) :
    b.awaiting = b.documents.keys.filter fun uri => (b.documents.get? uri).any waits := by
  rw [awaiting, OrderedMap.values, OrderedMap.keys, List.filter_map, List.filter_map, List.map_map]
  have hentry : ∀ e ∈ b.documents.entries, b.documents.get? e.1 = some e.2 ∧ e.2.uri = e.1 := by
    rintro ⟨uri, d⟩ he
    have hget := OrderedMap.get?_of_mem hnodup he
    exact ⟨hget, hk uri d hget⟩
  have hfilter : b.documents.entries.filter
      ((fun d : Document => decide (d.state < .linked) || d.isPending) ∘ Prod.snd) =
      b.documents.entries.filter
        ((fun uri => (b.documents.get? uri).any waits) ∘ Prod.fst) := by
    refine List.filter_congr fun e he => ?_
    rw [Function.comp_apply, Function.comp_apply, (hentry e he).1]
    rfl
  rw [hfilter]
  refine List.map_congr_left fun e he => ?_
  exact (hentry e (List.mem_filter.mp he).1).2

theorem nodup_awaiting (hsound : b.Sound services) : b.awaiting.Nodup := by
  rw [awaiting_eq hsound.nodup hsound.keyed]
  exact hsound.nodup.filter _

theorem mem_awaiting (hnodup : b.documents.keys.Nodup) (hk : b.Keyed) :
    uri ∈ b.awaiting ↔ ∃ d, b.documents.get? uri = some d ∧ waits d = true := by
  rw [awaiting_eq hnodup hk, List.mem_filter, Option.any_eq_true, OrderedMap.mem_keys_iff]
  constructor
  · rintro ⟨-, h⟩
    exact h
  · rintro ⟨d, hd, hwaits⟩
    exact ⟨⟨d, hd⟩, d, hd, hwaits⟩

/-- Progress is made with documents of the build only, and leaves their marks
alone. -/
theorem Progress.get? (hk : b.Keyed) (h : Progress services uris b b') (v : Uri) :
    (v ∉ uris → b'.documents.get? v = b.documents.get? v) ∧
      ∀ d', b'.documents.get? v = some d' →
        ∃ d, b.documents.get? v = some d ∧ d'.build = d.build := by
  induction h with
  | start => exact ⟨fun _ => rfl, fun d' hd' => ⟨d', hd', rfl⟩⟩
  | @step b₁ b₂ t uri hp hdue hadv ih =>
    have hk' := hp.keyed hk
    have hmem : uri ∈ uris := by
      obtain ⟨pre, post, huris, -⟩ := hdue.place
      rw [huris]
      exact List.mem_append_right _ List.mem_cons_self
    refine ⟨fun hnot => ?_, fun d' hd' => ?_⟩
    · have hne : v ≠ uri := by
        rintro rfl
        exact hnot hmem
      rw [get?_advance_of_ne hk' hadv hne]
      exact ih.1 hnot
    · by_cases hv : v = uri
      · subst hv
        obtain ⟨d₁, hd₁, hphase⟩ := get?_advance hk' hadv hd'
        obtain ⟨d, hd, hbuild⟩ := ih.2 d₁ hd₁
        exact ⟨d, hd, (Document.phase_ok hphase).2.2.1.trans hbuild⟩
      · rw [get?_advance_of_ne hk' hadv hv] at hd'
        exact ih.2 d' hd'

end Built
end Workbench
