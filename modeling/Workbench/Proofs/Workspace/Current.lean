import Workbench.Proofs.Workspace.Consistent
import Workbench.Proofs.Workspace.Settled
import Workbench.Proofs.Workspace.Visible
/-!
# Resolutions stay current

A linked document is not linked again as long as nothing that it refers to
changes, and so its resolutions have to outlast the changes of others. What
carries them is the index: it has a record of every target in another
document, and an update moves back whatever has a record into its batch. A
target stays in scope that way until its document is in a batch, and a
reference without a target stays without one until an update brings new
documents, which moves back every document with such references.

The weak point is a batch that cannot be read as a whole: some of it is
taken in, and nothing is moved back. The uris of such batches are *owed*,
until a batch that can be read names them again.
-/

namespace Workbench

/-! ## The invariant -/

/-- Whether the index has a record of a reference from a document to a
node. -/
def Index.Records (x : Index) (uri : Uri) (target : NodeHandle) : Prop :=
  ∃ records, x.references.get? uri = some records ∧
    ∃ r ∈ records, r.source = uri ∧ r.target = target

namespace Built

/-- **A resolution answers a reference**, targets in uris that are owed aside:
its targets are in scope, and if it has none, nothing is, nor can anything
come into scope. -/
structure Answers (types : TypeGraph) (owed : List Uri) (b : Built) (d : Document)
    (reference : Reference) (resolution : Resolution) : Prop where
  found : resolution.isError = false → resolution.targets ≠ []
  current : ∀ h ∈ resolution.targets,
    h.uri ∈ owed ∨ ∃ s, b.InScope types d reference s ∧ s.handle = h
  missing : owed = [] → resolution.isError = true →
    resolution = LinkContext.notFound reference ∧
      (∀ s, ¬ b.InScope types d reference s) ∧
      ∀ uri e, b.documents.get? uri = some e → .indexedContent ≤ e.state

/-- **The resolutions of linked documents are current**, and the index has
records of those that lead to other documents. -/
def Current (types : TypeGraph) (owed : List Uri) (b : Built) : Prop :=
  ∀ uri d tree, b.documents.get? uri = some d → .linked ≤ d.state → d.tree? = some tree →
    ∀ i (hi : i < tree.references.size), ∃ resolution, (d.links[i]?).join = some resolution ∧
      b.Answers types owed d tree.references[i] resolution ∧
      ∀ h ∈ resolution.targets, h.uri = uri ∨ b.index.Records uri h

/-- Documents that are in the index are the same in what comes after, and
there are no others. -/
structure Onward (b b' : Built) : Prop where
  keys : b'.documents.keys = b.documents.keys
  documents : ∀ uri e e', b.documents.get? uri = some e → b'.documents.get? uri = some e' →
    .indexedContent ≤ e.state → e.SameParse e' ∧ .indexedContent ≤ e'.state

variable {services : Services} {types : TypeGraph} {owed : List Uri} {b b' : Built}
  {d d' : Document} {reference : Reference} {resolution : Resolution} {uris : List Uri} {uri : Uri}
  {t : DocumentState}

namespace Onward

theorem before (h : b.Onward b') (hd' : b'.documents.get? uri = some d') :
    ∃ d, b.documents.get? uri = some d :=
  OrderedMap.exists_of_keys_eq h.keys.symm hd'

theorem after (h : b.Onward b') (hd : b.documents.get? uri = some d) :
    ∃ d', b'.documents.get? uri = some d' :=
  OrderedMap.exists_of_keys_eq h.keys hd

/-- Going on with a build changes no answer. -/
theorem answers (h : b.Onward b') (hd : d.SameParse d')
    (hanswers : b.Answers types owed d reference resolution) :
    b'.Answers types owed d' reference resolution := by
  refine ⟨hanswers.found, fun target htarget => ?_, fun hnone herror => ?_⟩
  · refine (hanswers.current target htarget).imp_right ?_
    rintro ⟨s, hs, hhandle⟩
    refine ⟨s, hs.congr hd fun uri e he hstate _ => ?_, hhandle⟩
    obtain ⟨e', he'⟩ := h.after he
    exact ⟨e', he', h.documents uri e e' he he' hstate⟩
  · obtain ⟨hmissing, hnothing, hstates⟩ := hanswers.missing hnone herror
    refine ⟨hmissing, fun s hs => hnothing s ?_, fun uri e' he' => ?_⟩
    · refine hs.congr hd.symm fun uri e' he' _ _ => ?_
      obtain ⟨e, he⟩ := h.before he'
      exact ⟨e, he, (h.documents uri e e' he he' (hstates uri e he)).1.symm, hstates uri e he⟩
    · obtain ⟨e, he⟩ := h.before he'
      exact (h.documents uri e e' he he' (hstates uri e he)).2

end Onward

theorem Remarked.onward (h : b.Remarked b') : b.Onward b' := by
  refine ⟨h.keys, fun uri e e' he he' hstate => ?_⟩
  obtain ⟨e₀, he₀, heq⟩ := h.document uri e' he'
  obtain rfl : e = e₀ := Option.some.inj (he.symm.trans he₀)
  rw [heq]
  exact ⟨⟨rfl, rfl, rfl⟩, hstate⟩

theorem phase_sameParse {x x' : Index} (ht : t ≠ .parsed)
    (hphase : d.phase services x t = .ok (d', x')) : d.SameParse d' := by
  cases t with
  | parsed => exact absurd rfl ht
  | linked =>
    rw [Document.phase_linked] at hphase
    cases hphase
    exact ⟨rfl, rfl, rfl⟩
  | validated =>
    rw [Document.phase_validated, Document.checked_eq] at hphase
    cases hphase
    exact ⟨rfl, rfl, rfl⟩
  | changed | indexedContent | computedScopes =>
    cases hphase
    exact ⟨rfl, rfl, rfl⟩

/-- A document that is in the index is not parsed again by a build. -/
theorem Onward.advance (hsound : b.Sound services) (hdue : b.Due uris t uri)
    (hadv : b.advance services t uri = .ok b') : b.Onward b' := by
  refine ⟨keys_advance hsound.keyed hadv, fun v e e' he he' hstate => ?_⟩
  by_cases hv : v = uri
  · subst hv
    obtain ⟨d, hd, hphase⟩ := get?_advance hsound.keyed hadv he'
    rw [he, Option.some.injEq] at hd
    subst hd
    have hle : .indexedContent ≤ t := Nat.le_trans hstate (hdue.bounds he).2
    refine ⟨phase_sameParse (fun heq => ?_) hphase, ?_⟩
    · rw [heq] at hle
      exact absurd hle (by decide)
    · rw [state_advance hsound.keyed (ne_changed_of_mem_stages hdue.stage) hadv he']
      exact hle
  · rw [get?_advance_of_ne hsound.keyed hadv hv, he, Option.some.injEq] at he'
    subst he'
    exact ⟨.refl e, hstate⟩

/-! ## Linking -/

/-- Every target of a reference is recorded. -/
theorem mem_referenceRecords {tree : SyntaxTree} {i : ℕ} (hi : i < tree.references.size)
    (hlink : (d.links[i]?).join = some resolution) {target : NodeHandle}
    (htarget : target ∈ resolution.targets) :
    ∃ r ∈ d.referenceRecords tree, r.source = d.uri ∧ r.target = target := by
  have hmem : (tree.references[i], i) ∈ tree.references.toList.zipIdx := by
    rw [List.mem_zipIdx_iff_getElem?, Array.getElem?_toList, Array.getElem?_eq_getElem hi]
  refine ⟨⟨d.uri, tree.pathOf tree.references[i].container, tree.references[i].property,
    tree.references[i].refNode.bind tree.cstRange?, target⟩, ?_, rfl, rfl⟩
  rw [Document.referenceRecords, List.mem_flatMap]
  refine ⟨_, hmem, ?_⟩
  have hresolution : d.resolution? ⟨i⟩ = some resolution := hlink
  dsimp only
  rw [hresolution]
  exact List.mem_map.mpr ⟨target, htarget, rfl⟩

/-- The documents that are not linked are among those of a build. -/
def Covers (b : Built) (uris : List Uri) : Prop :=
  ∀ uri d, b.documents.get? uri = some d → d.state < .linked → uri ∈ uris

theorem Covers.remarked (h : b.Covers uris) (hr : b.Remarked b') : b'.Covers uris := by
  intro v d' hd' hstate
  obtain ⟨d, hd, heq⟩ := hr.document v d' hd'
  rw [heq] at hstate
  exact h v d hd hstate

theorem Covers.advance (hk : b.Keyed) (h : b.Covers uris) (hdue : b.Due uris t uri)
    (hadv : b.advance services t uri = .ok b') : b'.Covers uris := by
  intro v d' hd' hstate
  by_cases hv : v = uri
  · obtain ⟨pre, post, rfl, -⟩ := hdue.place
    rw [hv]
    exact List.mem_append_right _ List.mem_cons_self
  · rw [get?_advance_of_ne hk hadv hv] at hd'
    exact h v d' hd' hstate

/-- When a document is linked, every document has its scopes. -/
theorem Covers.states (h : b.Covers uris) (hdue : b.Due uris .linked uri) :
    ∀ v e, b.documents.get? v = some e → .computedScopes ≤ e.state := by
  intro v e he
  by_contra hnot
  have hlt : e.state < .computedScopes := Nat.lt_of_not_le hnot
  have hmem : v ∈ uris := h v e he (Nat.lt_trans hlt (by decide))
  have hawaits := todo_eq_nil_iff.mp (hdue.earlier .computedScopes (by decide) (by decide)) v hmem e he
  rw [Document.awaits_iff.mpr ⟨hlt, nofun⟩] at hawaits
  cases hawaits

/-- What a reference is resolved to in the phase of linking answers it. -/
theorem answers_answer (hsound : b.Sound services) (hscopes : d.localScopes = some d.scoped)
    {tree : SyntaxTree} (htree : d.tree? = some tree) (reference : Reference)
    (hstates : ∀ uri e, b.documents.get? uri = some e → .indexedContent ≤ e.state) :
    b.Answers services.linker.types owed d reference
      (LinkContext.answer ⟨services.linker, b.index, d, tree⟩ reference) := by
  obtain ⟨htargets, hcases⟩ := answer_cases hsound hscopes htree reference
  refine ⟨fun hok => ?_, fun h hmem => Or.inr (htargets h hmem), fun _ herror => ?_⟩
  · rcases hcases with ⟨heq, -⟩ | ⟨-, hne⟩
    · rw [heq] at hok
      cases hok
    · exact hne
  · rcases hcases with ⟨heq, hnone⟩ | ⟨hok, -⟩
    · exact ⟨heq, hnone, hstates⟩
    · rw [hok] at herror
      cases herror

end Built

/-- Checks leave the resolutions of a document as they are once all of them
are made. -/
theorem Document.links_checked {services : Services} {d : Document} (hasks : services.checks.Asks)
    {parse : ParseResult} (hparse : d.parse = some parse)
    (h : LinkContext.AllResolved parse.tree d.links) (x : Index) :
    (d.checked services.checks services.linker x).2.links = d.links := by
  rw [checked_of_parse hparse]
  refine CheckRegistry.onNodes_of_pure (fun entry hentry node => ?_) _
  obtain ⟨ids, hids⟩ := hasks entry hentry
    ⟨⟨services.linker, x, d, parse.tree⟩, node⟩ d.links
  rw [hids, LinkContext.asks_of_allResolved h]

namespace Built

variable {services : Services} {types : TypeGraph} {owed : List Uri} {b b' : Built}
  {d d' : Document} {uris : List Uri} {uri : Uri} {t : DocumentState}

namespace Current

theorem allResolved (h : b.Current types owed) (hd : b.documents.get? uri = some d)
    (hstate : .linked ≤ d.state) {tree : SyntaxTree} (htree : d.tree? = some tree) :
    LinkContext.AllResolved tree d.links := by
  intro i hi
  obtain ⟨resolution, hlink, -⟩ := h uri d tree hd hstate htree i hi
  exact ⟨resolution, hlink⟩

/-- Linking leaves every reference answered, those that were resolved before as
they are. -/
theorem answers_linked (hasking : services.Asking) (hsound : b.Sound services)
    (h : b.Current services.linker.types owed) (hd : b.documents.get? uri = some d)
    (hstate : .computedScopes ≤ d.state)
    (hstates : ∀ uri e, b.documents.get? uri = some e → .indexedContent ≤ e.state)
    {tree : SyntaxTree} (htree : d.tree? = some tree) {i : ℕ} (hi : i < tree.references.size) :
    ∃ resolution, (((services.linker.linked b.index d).links)[i]?).join = some resolution ∧
      b.Answers services.linker.types owed d tree.references[i] resolution := by
  have hdsound := hsound.document uri d hd
  refine ⟨_, Linker.linked_get? hasking.usual.provider htree (hdsound.sized hasking tree htree)
    hstate hi, ?_⟩
  cases hold : (d.links[i]?).join with
  | none => exact answers_answer hsound (hdsound.scopes hstate) htree _ hstates
  | some old =>
    rw [Option.getD_some]
    by_cases hlinked : .linked ≤ d.state
    · obtain ⟨resolution, hlink, hanswers, -⟩ := h uri d tree hd hlinked htree i hi
      rw [hold, Option.some.injEq] at hlink
      rw [hlink]
      exact hanswers
    · rw [Option.join_eq_some_iff] at hold
      have hnone := hdsound.unlinked (Nat.lt_of_not_le hlinked) _ (Array.mem_of_getElem? hold)
      cases hnone

/-- Linking writes down where the references of a document lead. -/
theorem records_linked {l : Linker} {x : Index} {tree : SyntaxTree} (htree : d.tree? = some tree)
    {i : ℕ} (hi : i < tree.references.size) {resolution : Resolution}
    (hlink : (((l.linked x d).links)[i]?).join = some resolution) {target : NodeHandle}
    (htarget : target ∈ resolution.targets) :
    (x.updateReferences (l.linked x d)).Records d.uri target := by
  have hlinked := Document.linked_eq l x d
  have huri : (l.linked x d).uri = d.uri := by rw [hlinked]
  have htree' : (l.linked x d).tree? = some tree := by
    rw [hlinked]
    exact htree
  obtain ⟨r, hr, hsource, heq⟩ := mem_referenceRecords hi hlink htarget
  refine ⟨_, ?_, r, hr, hsource.trans huri, heq⟩
  rw [Index.get?_updateReferences htree', if_pos huri.symm]

/-- What is written down for a document stays when another is taken through a
phase. -/
theorem records_advance (hk : b.Keyed) (hadv : b.advance services t uri = .ok b') {v : Uri}
    (hv : v ≠ uri) {target : NodeHandle} (hrecords : b.index.Records v target) :
    b'.index.Records v target := by
  obtain ⟨records, hget, hmem⟩ := hrecords
  refine ⟨records, ?_, hmem⟩
  rcases advance_ok hk hadv with ⟨-, rfl⟩ | ⟨d, d₁, x, hd, hphase, rfl⟩
  · exact hget
  · rw [← hget]
    exact (Document.phase_get?_of_ne (hk uri d hd) hphase hv).2

/-- **Taking a document through a phase keeps resolutions current.** -/
theorem advance (hasking : services.Asking) (hsound : b.Sound services)
    (h : b.Current services.linker.types owed) (hcovers : b.Covers uris) (hdue : b.Due uris t uri)
    (hadv : b.advance services t uri = .ok b') : b'.Current services.linker.types owed := by
  have honward := Onward.advance hsound hdue hadv
  intro v d' tree hd' hstate htree i hi
  by_cases hv : v = uri
  · subst hv
    obtain ⟨d, hd, hphase⟩ := get?_advance hsound.keyed hadv hd'
    have ht := state_advance hsound.keyed (ne_changed_of_mem_stages hdue.stage) hadv hd'
    rw [ht] at hstate
    have hlate : t ≠ .parsed := by
      rintro rfl
      exact absurd hstate (by decide)
    have hsame := phase_sameParse hlate hphase
    have htree₀ : d.tree? = some tree := by rw [← hsame.tree?_eq]; exact htree
    obtain rfl := hsound.keyed v d hd
    obtain ⟨hlow, -⟩ := hdue.bounds hd
    cases t with
    | linked =>
      have hlow' : 4 ≤ d.state.rank + 1 := hlow
      rw [Document.phase_linked, Except.ok.injEq, Prod.mk.injEq] at hphase
      obtain ⟨rfl, hindex⟩ := hphase
      -- the index is as it was when the document is linked, and has its records after it
      obtain ⟨resolution, hlink, hanswers⟩ := h.answers_linked hasking hsound hd
        (show 3 ≤ d.state.rank by omega)
        (fun u e he => Nat.le_trans (by decide) (hcovers.states hdue u e he)) htree₀ hi
      refine ⟨resolution, hlink, honward.answers hsame hanswers, fun target htarget => Or.inr ?_⟩
      exact hindex ▸ records_linked htree₀ hi hlink htarget
    | validated =>
      have hlow' : 5 ≤ d.state.rank + 1 := hlow
      have hlinked : .linked ≤ d.state := show 4 ≤ d.state.rank by omega
      rw [Document.phase_validated, Document.checked_eq, Except.ok.injEq, Prod.mk.injEq] at hphase
      obtain ⟨rfl, hindex⟩ := hphase
      obtain ⟨parse, hparse, rfl⟩ := Option.map_eq_some_iff.mp htree₀
      obtain ⟨resolution, hlink, hanswers, hrecorded⟩ :=
        h d.uri d parse.tree hd hlinked htree₀ i hi
      refine ⟨resolution, ?_, honward.answers hsame hanswers, ?_⟩
      · dsimp only
        rw [Document.links_checked hasking.asks hparse (h.allResolved hd hlinked htree₀)]
        exact hlink
      · rw [← hindex]
        exact hrecorded
    | _ => exact absurd hstate (by decide)
  · rw [get?_advance_of_ne hsound.keyed hadv hv] at hd'
    obtain ⟨resolution, hlink, hanswers, hrecorded⟩ := h v d' tree hd' hstate htree i hi
    refine ⟨resolution, hlink, honward.answers (.refl d') hanswers, fun target htarget => ?_⟩
    exact (hrecorded target htarget).imp_right (records_advance hsound.keyed hadv hv)

/-- Only the marks of documents are changed. -/
theorem remarked (h : b.Current types owed) (hr : b.Remarked b') : b'.Current types owed := by
  intro uri d' tree hd' hstate htree i hi
  obtain ⟨d, hd, heq⟩ := hr.document uri d' hd'
  rw [heq] at hstate htree ⊢
  obtain ⟨resolution, hlink, hanswers, hrecorded⟩ := h uri d tree hd hstate htree i hi
  have hsame : d.SameParse { d with build := d'.build } := ⟨rfl, rfl, rfl⟩
  refine ⟨resolution, hlink, hr.onward.answers hsame hanswers, ?_⟩
  rw [hr.index]
  exact hrecorded

/-- **Progress of a build keeps resolutions current.** -/
theorem progress (hasking : services.Asking) (hsound : b.Sound services)
    (h : b.Current services.linker.types owed) (hcovers : b.Covers uris)
    (hp : Progress services uris b b') :
    b'.Current services.linker.types owed ∧ b'.Covers uris := by
  induction hp with
  | start => exact ⟨h, hcovers⟩
  | step hp hdue hadv ih =>
    obtain ⟨hcurrent, hcovers'⟩ := ih
    have hsound' := hsound.progress hp
    exact ⟨hcurrent.advance hasking hsound' hcovers' hdue hadv,
      hcovers'.advance hsound'.keyed hdue hadv⟩

/-- Checks find settled what is current. -/
theorem document_settled (hasking : services.Asking) (h : b.Current services.linker.types owed)
    (hd : b.documents.get? uri = some d) (hstate : .linked ≤ d.state) : d.Settled services := by
  refine Document.settled_of_allResolved hasking.asks fun parse hparse => ?_
  have htree := Document.tree?_of_parse hparse
  exact h.allResolved hd hstate htree

theorem settled (hasking : services.Asking) (h : b.Current services.linker.types owed) :
    b.Settled services :=
  fun _ _ hd hstate => h.document_settled hasking hd (hstate ▸ Nat.le_refl _)

/-- **A build keeps resolutions current**, wherever it ends, if it comes through,
or builds no document twice, or nothing cancels it. -/
theorem builds (hasking : services.Asking) (hsound : b.Sound services)
    (h : b.Current services.linker.types owed) (hcovers : b.Covers uris)
    {options : ValidationMode} {i : Interrupt} {r : Except Stop Unit}
    (hclean : r = .ok () ∨ i = .never ∨ uris.Nodup)
    (hbuilds : b.Builds services uris options i r b') :
    b'.Current services.linker.types owed := by
  have hmark := b.remarked_mark options uris
  have hsound' := hsound.mark options uris
  obtain ⟨b₁, hp, hend⟩ := hbuilds.ends hsound.keyed
  have hcurrent := ((h.remarked hmark).progress hasking hsound' (hcovers.remarked hmark) hp).1
  obtain rfl | rfl | ⟨hstop, hne, t, uri, hdue, hhalts⟩ := hend
  · exact hcurrent
  · exact hcurrent.remarked (b₁.remarked_clear uris)
  · -- a phase that was cancelled found all settled, so it has left nothing behind
    have hnodup := (hclean.resolve_left hstop).resolve_left hne
    rw [halts_eq (hsound'.progress hp) (hcurrent.settled hasking) hdue hnodup hhalts]
    exact hcurrent

end Current

theorem covers_awaiting (hsound : b.Sound services) : b.Covers b.awaiting := by
  intro uri d hd hstate
  refine (mem_awaiting hsound.nodup hsound.keyed).mpr ⟨d, hd, ?_⟩
  rw [waits, decide_eq_true hstate, Bool.true_or]

end Built

/-! ## Batches -/

namespace Workspace

section

variable {services : Services} {types : TypeGraph} {w w' : Workspace} {owed : List Uri}
  {changed deleted : List Uri} {interrupt : Interrupt} {uri : Uri} {d : Document}

theorem sameParse_resetTo (d : Document) (state : DocumentState) : d.SameParse (d.resetTo state) :=
  ⟨rfl, rfl, rfl⟩

/-- What is moved back to be linked again stays in the index. -/
theorem document?_relinks (batch : List Uri) (l : List Document) (hd : w.document? uri = some d) :
    ∃ d', (relinks batch l w).document? uri = some d' ∧ d.SameParse d' ∧
      (.indexedContent ≤ d.state → .indexedContent ≤ d'.state) := by
  induction l generalizing w d with
  | nil => exact ⟨d, hd, .refl d, id⟩
  | cons e rest ih =>
    rw [relinks, List.foldl_cons, ← relinks]
    split
    · by_cases huri : uri = e.uri
      · have hget : (w.resetTo e.uri .computedScopes).document? uri =
            some (d.resetTo .computedScopes) := by
          rw [document?_resetTo, if_pos huri, ← huri, hd, Option.map_some]
        obtain ⟨d', hd', hsame, hstate'⟩ := ih hget
        refine ⟨d', hd', (sameParse_resetTo d _).trans hsame, fun hstate => hstate' ?_⟩
        have hrank : (d.resetTo .computedScopes).state.rank = min d.state.rank 3 :=
          DocumentState.rank_min _ _
        have hle : 2 ≤ d.state.rank := hstate
        exact show 2 ≤ (d.resetTo .computedScopes).state.rank by omega
      · have hget : (w.resetTo e.uri .computedScopes).document? uri = some d := by
          rw [document?_resetTo, if_neg huri]
          exact hd
        exact ih hget
    · exact ih hd

/-- **Outside of the batch documents stay in the index.** -/
theorem document?_prepared (hout : uri ∉ changed ++ deleted) (hd : w.document? uri = some d) :
    ∃ d', (w.prepared changed deleted).document? uri = some d' ∧ d.SameParse d' ∧
      (.indexedContent ≤ d.state → .indexedContent ≤ d'.state) := by
  have hsame : w.Untouched (w.taken changed deleted).2 uri :=
    ((taken_cases w changed deleted uri).resolve_left fun h => hout h.1).2
  have htaken : (w.taken changed deleted).2.document? uri = some d := by rw [hsame.document, hd]
  rw [prepared]
  split
  · rw [relink_eq]
    exact document?_relinks _ _ htaken
  · exact ⟨d, htaken, .refl d, id⟩

/-- What a record tells of a document that does not refer into a batch. -/
theorem not_mem_of_records (hout : w.index.isAffected uri changed = false) {h : NodeHandle}
    (hrecords : h.uri = uri ∨ w.index.Records uri h) (huri : uri ∉ changed) : h.uri ∉ changed := by
  intro hin
  rcases hrecords with heq | ⟨records, hget, r, hr, hsource, htarget⟩
  · exact huri (heq ▸ hin)
  · by_cases heq : h.uri = uri
    · exact huri (heq ▸ hin)
    · rw [Index.isAffected, hget, Option.getD_some, List.any_eq_false] at hout
      refine hout r hr ?_
      rw [ReferenceRecord.isLocal, htarget, hsource]
      simpa [heq] using hin

/-- **A batch that can be read keeps resolutions current**, and what it names
is no longer owed. -/
theorem current_prepared (hsound : w.built.Sound services) (h : w.built.Current types owed)
    (hreads : w.Reads changed) (deleted : List Uri) :
    (w.prepared changed deleted).built.Current types
      (owed.filter (· ∉ changed ++ deleted)) := by
  intro uri d tree hd hstate htree i hi
  obtain ⟨hsame, hrest⟩ := prepared_linked hsound hd hstate
  obtain ⟨hout, herrors, haffected⟩ := hrest hreads
  have hd₀ : w.document? uri = some d := by rw [← hsame.document]; exact hd
  obtain ⟨resolution, hlink, hanswers, hrecorded⟩ := h uri d tree hd₀ hstate htree i hi
  have htargets : ∀ target ∈ resolution.targets, target.uri ∉ changed ++ deleted :=
    fun target htarget => not_mem_of_records haffected (hrecorded target htarget) hout
  refine ⟨resolution, hlink, ⟨hanswers.found, fun target htarget => ?_, fun hnone herror => ?_⟩,
    fun target htarget => ?_⟩
  · have hnot := htargets target htarget
    rcases hanswers.current target htarget with howed | ⟨s, hs, rfl⟩
    · exact Or.inl (List.mem_filter.mpr ⟨howed, by simpa using hnot⟩)
    · refine Or.inr ⟨s, hs.congr (.refl d) fun v e he hstate' hexported => ?_, rfl⟩
      rw [Document.uri_of_mem_exported hexported, hsound.keyed v e he] at hnot
      obtain ⟨e', he', hsame', hindexed⟩ := document?_prepared hnot he
      exact ⟨e', he', hsame', hindexed hstate'⟩
  · by_cases hbatch : (!changed.isEmpty || !deleted.isEmpty) = true
    · have hlinking : d.hasLinkingErrors = true := by
        rw [Option.join_eq_some_iff] at hlink
        rw [Document.hasLinkingErrors, Array.any_eq_true']
        exact ⟨some resolution, Array.mem_of_getElem? hlink, herror⟩
      rw [herrors hbatch] at hlinking
      cases hlinking
    · obtain ⟨rfl, rfl⟩ : changed = [] ∧ deleted = [] := by
        simpa [List.isEmpty_iff] using hbatch
      have howed : owed = [] := by simpa using hnone
      exact hanswers.missing howed herror
  · refine (hrecorded target htarget).imp_right ?_
    rintro ⟨records, hget, hmem⟩
    exact ⟨records, hsame.references.trans hget, hmem⟩

/-- A batch that cannot be read keeps resolutions current, but all that it
names is owed. -/
theorem current_taken (hsound : w.built.Sound services) (h : w.built.Current types owed)
    (hreads : ¬ w.Reads changed) :
    (w.taken changed deleted).2.built.Current types (owed ++ (changed ++ deleted)) := by
  intro uri d tree hd hstate htree i hi
  have hsame : w.Untouched (w.taken changed deleted).2 uri := by
    refine ((taken_cases w changed deleted uri).resolve_left fun hcase => ?_).2
    rw [hcase.2 d hd] at hstate
    exact absurd hstate (by decide)
  have hd₀ : w.document? uri = some d := by rw [← hsame.document]; exact hd
  obtain ⟨resolution, hlink, hanswers, hrecorded⟩ := h uri d tree hd₀ hstate htree i hi
  refine ⟨resolution, hlink, ⟨hanswers.found, fun target htarget => ?_, fun hnone _ => ?_⟩,
    fun target htarget => ?_⟩
  · by_cases hin : target.uri ∈ changed ++ deleted
    · exact Or.inl (List.mem_append_right _ hin)
    · rcases hanswers.current target htarget with howed | ⟨s, hs, rfl⟩
      · exact Or.inl (List.mem_append_left _ howed)
      · refine Or.inr ⟨s, hs.congr (.refl d) fun v e he hstate' hexported => ?_, rfl⟩
        rw [Document.uri_of_mem_exported hexported, hsound.keyed v e he] at hin
        have hother := ((taken_cases w changed deleted v).resolve_left fun hcase => hin hcase.1).2
        exact ⟨e, hother.document.trans he, .refl e, hstate'⟩
  · have hchanged : changed = [] := by simp_all
    rw [hchanged] at hreads
    exact absurd nofun hreads
  · refine (hrecorded target htarget).imp_right ?_
    rintro ⟨records, hget, hmem⟩
    exact ⟨records, hsame.references.trans hget, hmem⟩

/-! ## Runs -/

/-- The uris that batches have named as changed since a document was linked:
one more batch, if the document need not be linked for it. -/
def sinceLinked (w : Workspace) (changed deleted : List Uri) (since : Uri → List Uri) (uri : Uri) :
    List Uri :=
  if ((w.prepared changed deleted).document? uri).any fun d => decide (.linked ≤ d.state) then
    since uri ++ changed
  else []

/-- **The workspaces of a run**: one load into a workspace without documents,
then edits of files and updates, each of which can end anywhere. With them goes
a list of what is owed and, as long as every batch could be read, what was named
as changed since each document was linked. A load that finds a file twice must
come through, or not be cancelled. -/
inductive Served (services : Services) :
    List Uri → Option (Uri → List Uri) → Workspace → Prop
  | load {w w' : Workspace} {folders : List Uri} {interrupt : Interrupt}
      {r : Except Stop (List Uri)} : Reached services w → w.documents = .empty →
      ((∃ uris, r = .ok uris) ∨ interrupt = .never ∨
        ∀ uris, w.collected services folders = some uris → uris.Nodup) →
      (Build.loadFolders services folders).run w interrupt = (r, w') →
      Served services [] (some fun _ => []) w'
  | edit {owed : List Uri} {since : Option (Uri → List Uri)} {w : Workspace} (files : FileSystem) :
      Served services owed since w → Served services owed since { w with files }
  | update {owed : List Uri} {since : Option (Uri → List Uri)} {w w' : Workspace}
      {changed deleted : List Uri} {interrupt : Interrupt} {r : Except Stop Unit} :
      Served services owed since w → w.Reads changed →
      (Build.update services changed deleted).run w interrupt = (r, w') →
      Served services (owed.filter (· ∉ changed ++ deleted))
        (since.map (w.sinceLinked changed deleted)) w'
  | unread {owed : List Uri} {since : Option (Uri → List Uri)} {w w' : Workspace}
      {changed deleted : List Uri} {interrupt : Interrupt} {r : Except Stop Unit} :
      Served services owed since w → ¬ w.Reads changed →
      (Build.update services changed deleted).run w interrupt = (r, w') →
      Served services (owed ++ (changed ++ deleted)) none w'

variable {since : Option (Uri → List Uri)}

theorem Served.reached (h : Served services owed since w) : Reached services w := by
  induction h with
  | load hreached _ _ hrun => exact .load hreached hrun
  | edit files _ ih => exact .edit files ih
  | update _ _ hrun ih => exact .update ih hrun
  | unread _ _ hrun ih => exact .update ih hrun

theorem Served.updated (h : Served services owed since w) (hreads : w.Reads changed)
    (deleted : List Uri) (interrupt : Interrupt) :
    Served services (owed.filter (· ∉ changed ++ deleted))
      (since.map (w.sinceLinked changed deleted))
      ((Build.update services changed deleted).run w interrupt).2 :=
  .update h hreads (Prod.eta _).symm

theorem Served.failed (h : Served services owed since w) (hreads : ¬ w.Reads changed)
    (deleted : List Uri) (interrupt : Interrupt) :
    Served services (owed ++ (changed ++ deleted)) none
      ((Build.update services changed deleted).run w interrupt).2 :=
  .unread h hreads (Prod.eta _).symm

/-- **A load that is clean ends** as what was loaded, or as a build of it that is
clean too. -/
theorem ends_of_load (husual : services.Usual) {folders : List Uri} {r : Except Stop (List Uri)}
    (hreached : Reached services w)
    (hclean : (∃ uris, r = .ok uris) ∨ interrupt = .never ∨
      ∀ uris, w.collected services folders = some uris → uris.Nodup)
    (hrun : (Build.loadFolders services folders).run w interrupt = (r, w')) :
    ∃ uris, w'.built = (attemptAll load uris w).2.built ∨ ∃ i end?,
      (attemptAll load uris w).2.built.Builds services uris services.initialBuild i end? w'.built ∧
      (end? = .ok () ∨ i = .never ∨ uris.Nodup) := by
  obtain ⟨hsound, hq⟩ := hreached.sound husual
  obtain ⟨s', hload, rfl⟩ := Build.run_cases hrun
  cases Build.loadFolders_cases husual hq (fun uris => (sound_loads hsound uris).keyed) hload with
  | nothing => exact ⟨[], Or.inl rfl⟩
  | unread _ hb => exact ⟨_, Or.inl hb⟩
  | @built _ uris _ _ hcollected hbuilds =>
    refine ⟨uris, Or.inr ⟨interrupt, _, hbuilds, ?_⟩⟩
    refine hclean.imp ?_ (Or.imp_right fun hnodup => hnodup uris hcollected)
    rintro ⟨_, rfl⟩
    rfl

/-- **An update that can read its batch ends** as it was prepared, or as a build
of what is left to do. -/
theorem ends_of_update (husual : services.Usual) (hreached : Reached services w)
    (hreads : w.Reads changed) {r : Except Stop Unit}
    (hrun : (Build.update services changed deleted).run w interrupt = (r, w')) :
    w'.built = (w.prepared changed deleted).built ∨ ∃ i end?,
      (w.prepared changed deleted).built.Builds services (w.prepared changed deleted).built.awaiting
        services.updateBuild i end? w'.built := by
  obtain ⟨hsound, hq⟩ := hreached.sound husual
  obtain ⟨s', hupdate, rfl⟩ := Build.run_cases hrun
  cases Build.update_cases husual hq (sound_prepared hsound changed deleted).keyed hupdate with
  | unread _ hnot _ => exact absurd hreads hnot
  | early _ _ _ hb => exact Or.inl hb
  | built _ _ hbuilds => exact Or.inr ⟨_, _, hbuilds⟩

/-- The documents of files that were loaded. -/
theorem document?_loads (uris : List Uri) (hd : (attemptAll load uris w).2.document? uri = some d) :
    w.document? uri = some d ∨ uri ∈ uris ∧ d.state = .changed := by
  induction uris generalizing w with
  | nil => exact Or.inl hd
  | cons u rest ih =>
    rw [attemptAll] at hd
    cases hload : w.load u with
    | error e =>
      rw [hload] at hd
      exact Or.inl hd
    | ok w₁ =>
      rw [hload] at hd
      rcases ih hd with hd₁ | ⟨hin, hstate⟩
      · rcases document?_load hload with ⟨rfl, -⟩ | ⟨text, -, hget⟩
        · exact Or.inl hd₁
        · rw [hget] at hd₁
          split at hd₁
          next heq =>
            cases hd₁
            exact Or.inr ⟨heq ▸ List.mem_cons_self, rfl⟩
          next => exact Or.inl hd₁
      · exact Or.inr ⟨List.mem_cons_of_mem _ hin, hstate⟩

/-- Without documents from before there are only those of the files. -/
theorem loaded_of_empty (hempty : w.documents = .empty) {uris : List Uri}
    (hd : (attemptAll load uris w).2.document? uri = some d) :
    uri ∈ uris ∧ d.state = .changed := by
  refine (document?_loads uris hd).resolve_left fun hnone => ?_
  rw [document?, hempty] at hnone
  cases hnone

theorem covers_loads (hempty : w.documents = .empty) (uris : List Uri) :
    (attemptAll load uris w).2.built.Covers uris :=
  fun _ _ hd _ => (loaded_of_empty hempty hd).1

/-- Documents that were only loaded have no resolutions. -/
theorem current_loads (hempty : w.documents = .empty) (uris : List Uri) :
    (attemptAll load uris w).2.built.Current types [] := by
  intro v d tree hd hstate
  rw [(loaded_of_empty hempty hd).2] at hstate
  exact absurd hstate (by decide)

/-- **Resolutions are current throughout a run.** -/
theorem Served.built_current (hasking : services.Asking) (h : Served services owed since w) :
    w.built.Current services.linker.types owed := by
  induction h with
  | @load w w' folders interrupt r hreached hempty hclean hrun =>
    obtain ⟨hsound, -⟩ := hreached.sound hasking.usual
    obtain ⟨uris, hend⟩ := ends_of_load hasking.usual hreached hclean hrun
    rcases hend with hb | ⟨i, end?, hbuilds, hclean⟩
    · rw [hb]
      exact current_loads hempty uris
    · exact (current_loads hempty uris).builds hasking (sound_loads hsound uris)
        (covers_loads hempty uris) hclean hbuilds
  | edit files _ ih => exact ih
  | @update owed since w w' changed deleted interrupt r hserved hreads hrun ih =>
    obtain ⟨hsound, -⟩ := hserved.reached.sound hasking.usual
    have hprepared := sound_prepared hsound changed deleted
    have hcurrent := current_prepared hsound ih hreads deleted
    rcases ends_of_update hasking.usual hserved.reached hreads hrun with hb | ⟨i, end?, hbuilds⟩
    · rw [hb]
      exact hcurrent
    · exact hcurrent.builds hasking hprepared (Built.covers_awaiting hprepared)
        (Or.inr (Or.inr (Built.nodup_awaiting hprepared))) hbuilds
  | @unread owed since w w' changed deleted interrupt r hserved hreads hrun ih =>
    obtain ⟨hsound, hq⟩ := hserved.reached.sound hasking.usual
    have hprepared := sound_prepared hsound changed deleted
    obtain ⟨s', hupdate, rfl⟩ := Build.run_cases hrun
    cases Build.update_cases hasking.usual hq hprepared.keyed hupdate with
    | unread _ _ hb =>
      rw [show s'.workspace.built = _ from hb]
      exact current_taken hsound ih hreads
    | early _ hreads' _ _ => exact absurd hreads' hreads
    | built _ hreads' _ => exact absurd hreads' hreads

/-- **Nothing is stale that is not owed.** Throughout a run, in which updates
can be cancelled and can fail by a file that cannot be read, every target of a
resolution of a linked document is in a document that is there at that
version, or its uri was named by an update that failed and by none since that
could be read. -/
theorem Served.target_current (hasking : services.Asking) (h : Served services owed since w)
    (hd : w.document? uri = some d) (hstate : .linked ≤ d.state) {id : RefId}
    {resolution : Resolution} (hresolution : d.resolution? id = some resolution)
    {target : NodeHandle} (htarget : target ∈ resolution.targets) :
    target.uri ∈ owed ∨ ∃ d', w.document? target.uri = some d' ∧ d'.version = target.version := by
  obtain ⟨hsound, -⟩ := h.reached.sound hasking.usual
  have hdsound := hsound.document uri d hd
  have hrank : 4 ≤ d.state.rank := hstate
  obtain ⟨parse, -, hparse⟩ := hdsound.parsed (show 1 ≤ d.state.rank by omega)
  have htree := Document.tree?_of_parse hparse
  have hlink := hresolution
  rw [Document.resolution?, Option.join_eq_some_iff] at hlink
  have hi : id.index < parse.tree.references.size := by
    rw [← hdsound.sized hasking _ htree]
    exact (Array.getElem?_eq_some_iff.mp hlink).1
  obtain ⟨resolution', hlink', hanswers, -⟩ :=
    h.built_current hasking uri d parse.tree hd hstate htree id.index hi
  obtain rfl : resolution = resolution' := Option.some.inj (hresolution.symm.trans hlink')
  refine (hanswers.current target htarget).imp_right ?_
  rintro ⟨s, hs, rfl⟩
  obtain ⟨e, _, he, hversion, -⟩ := hs.target hsound.keyed hd
  exact ⟨e, he, hversion⟩

end

namespace Items

/-- A run that begins without files. -/
def started (services : Services) : Workspace :=
  ((Build.loadFolders services []).run (.ofFiles files) .never).2

/-- Then the two files are there. -/
def filled (services : Services) : Except Stop Unit × Workspace :=
  (Build.update services [first, second] []).run (started services) .never

theorem served_filled {services : Services} (hreads : (started services).Reads [first, second]) :
    Served services [] (some ((started services).sinceLinked [first, second] [] fun _ => []))
      (filled services).2 :=
  have hstarted : Served services [] (some fun _ => []) (started services) :=
    .load (.start files) rfl (Or.inr (Or.inl rfl)) (Prod.eta _).symm
  hstarted.updated hreads [] .never

/-- The run of items that refer to one each. -/
def opened : Workspace := (filled services).2

/-- An update that deletes the first file, and fails by one that is not there. -/
def failed : Workspace := ((Build.update services [missing] [first]).run opened .never).2

/-- An update without changes. -/
def after : Workspace := ((Build.update services [] []).run failed .never).2

/-- An update that names the first file again. -/
def healed : Workspace := ((Build.update services [first] []).run after .never).2

/-- What the reference of the second file leads to. -/
def target? (w : Workspace) : Option NodeHandle :=
  (w.document? second).bind fun d =>
    if .linked ≤ d.state then (d.resolution? ⟨0⟩).bind (·.targets.head?) else none

theorem target?_eq_some {w : Workspace} {target : NodeHandle} (h : target? w = some target) :
    ∃ d resolution, w.document? second = some d ∧ .linked ≤ d.state ∧
      d.resolution? ⟨0⟩ = some resolution ∧ target ∈ resolution.targets := by
  obtain ⟨d, hd, hif⟩ := Option.bind_eq_some_iff.mp h
  split at hif
  next hstate =>
    obtain ⟨resolution, hresolution, hhead⟩ := Option.bind_eq_some_iff.mp hif
    exact ⟨d, resolution, hd, hstate, hresolution, List.mem_of_head? hhead⟩
  next => cases hif

theorem asking : services.Asking := ⟨Services.usual_ofGrammar _, fun _ hentry => nomatch hentry⟩

theorem served_opened : Served services []
    (some ((started services).sinceLinked [first, second] [] fun _ => [])) opened :=
  served_filled (by decide +kernel)

end Items

/-- A file that is deleted by an update that fails is still referred to after
the next update, which is not told of it; once an update is, it is not
owed. -/
theorem target_current_healed :
    Items.target? Items.after = some ⟨Items.first, 1, ⟨1⟩⟩ ∧
    Items.after.documents.keys = [Items.second] ∧
    ((Build.update Items.services [] []).run Items.failed .never).1 = .ok () ∧
    ∃ target, Items.target? Items.healed = some target ∧ target.uri ∉ [Items.missing] ∧
      ∃ d, Items.healed.document? target.uri = some d ∧ d.version = target.version := by
  have htarget : Items.target? Items.healed = some ⟨Items.first, 1, ⟨1⟩⟩ := by decide +kernel
  have hnot : Items.first ∉ [Items.missing] := by decide
  have hunread : ¬ Items.opened.Reads [Items.missing] := by decide +kernel
  have hnothing : Items.failed.Reads [] := nofun
  have hreads : Items.after.Reads [Items.first] := by decide +kernel
  have hhealed := ((Items.served_opened.failed hunread [Items.first] .never).updated hnothing []
    .never).updated hreads [] .never
  have howed : ((([] ++ ([Items.missing] ++ [Items.first])).filter (· ∉ [] ++ [])).filter
      (· ∉ [Items.first] ++ [])) = [Items.missing] := by decide
  rw [howed] at hhealed
  obtain ⟨d, resolution, hd, hstate, hresolution, hmem⟩ := Items.target?_eq_some htarget
  refine ⟨by decide +kernel, by decide +kernel, by decide +kernel, _, htarget, hnot, ?_⟩
  exact (Served.target_current Items.asking hhealed hd hstate hresolution hmem).resolve_left hnot

end Workspace
end Workbench
