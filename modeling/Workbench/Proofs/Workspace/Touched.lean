import Workbench.Proofs.Workspace.Queue
import Workbench.Proofs.Workspace.Renewed
/-!
# Files that are touched

An update for files that have not changed parses their documents again and
puts their exports behind all others. Of the other documents it links those
again that have linking errors or refer into the touched ones. So it is an
update that changes nothing but the order of the index, and which references
move is told by that order alone: `Rested.places_kept`.
-/

namespace Workbench

namespace Built

variable {services : Services} {b b' : Built} {d d' : Document} {uris l : List Uri} {uri : Uri}
  {t : DocumentState}

/-! ## Stages and exports -/

/-- Only the stage that indexes documents changes exports. -/
theorem exports_advance (hk : b.Keyed) (ht : t ≠ .indexedContent)
    (h : b.advance services t uri = .ok b') : b'.index.exports = b.index.exports := by
  rcases advance_ok hk h with ⟨-, rfl⟩ | ⟨d, d', x, -, hphase, rfl⟩
  · rfl
  · cases t with
    | indexedContent => exact absurd rfl ht
    | parsed =>
      rw [Document.phase] at hphase
      split at hphase <;> cases hphase
      rfl
    | linked =>
      cases hphase
      exact Index.exports_updateReferences _ _
    | changed | computedScopes | validated =>
      cases hphase
      rfl

theorem exports_advanceAll (hk : b.Keyed) (ht : t ≠ .indexedContent)
    (h : b.advanceAll services t l = .ok b') : b'.index.exports = b.index.exports := by
  induction l generalizing b with
  | nil =>
    cases h
    rfl
  | cons u rest ih =>
    obtain ⟨b₁, hu, hrest⟩ := advanceAll_cons.mp h
    rw [ih (hk.advance hu) hrest, exports_advance hk ht hu]

/-- **Documents that are indexed come behind the others**, in their order. -/
theorem keys_exports_advanceAll (hk : b.Keyed) (hn : l.Nodup)
    (hnew : ∀ u ∈ l, u ∉ b.index.exports.keys) (hdocuments : ∀ u ∈ l, u ∈ b.documents.keys)
    (h : b.advanceAll services .indexedContent l = .ok b') :
    b'.index.exports.keys = b.index.exports.keys ++ l := by
  induction l generalizing b with
  | nil =>
    cases h
    rw [List.append_nil]
  | cons u rest ih =>
    obtain ⟨b₁, hu, hrest⟩ := advanceAll_cons.mp h
    obtain ⟨hfirst, hn'⟩ := List.nodup_cons.mp hn
    have hkeys : b₁.index.exports.keys = b.index.exports.keys ++ [u] := by
      obtain ⟨d, hd⟩ := OrderedMap.mem_keys_iff.mp (hdocuments u List.mem_cons_self)
      rcases advance_ok hk hu with ⟨hnone, -⟩ | ⟨e, e', x, he, hphase, rfl⟩
      · rw [hd] at hnone
        cases hnone
      · cases hphase
        rw [hk u e he]
        exact OrderedMap.keys_insert_of_not_mem (hnew u List.mem_cons_self) _
    have hnew' : ∀ v ∈ rest, v ∉ b₁.index.exports.keys := by
      intro v hv hin
      rw [hkeys, List.mem_append, List.mem_singleton] at hin
      rcases hin with hin | rfl
      · exact hnew v (List.mem_cons_of_mem _ hv) hin
      · exact hfirst hv
    have hdocuments' : ∀ v ∈ rest, v ∈ b₁.documents.keys := by
      rw [keys_advance hk hu]
      exact fun v hv => hdocuments v (List.mem_cons_of_mem _ hv)
    rw [ih (hk.advance hu) hn' hnew' hdocuments' hrest, hkeys, List.append_assoc]
    rfl

theorem keys_advanceAll (hk : b.Keyed) (h : b.advanceAll services t l = .ok b') :
    b'.documents.keys = b.documents.keys := by
  induction l generalizing b with
  | nil =>
    cases h
    rfl
  | cons u rest ih =>
    obtain ⟨b₁, hu, hrest⟩ := advanceAll_cons.mp h
    rw [ih (hk.advance hu) hrest, keys_advance hk hu]

/-- A document of a stage is taken through its phase once, with the exports as
they were. -/
theorem phase_of_advanceAll (hk : b.Keyed) (ht : t ≠ .indexedContent) (hn : l.Nodup)
    (h : b.advanceAll services t l = .ok b') (hmem : uri ∈ l)
    (hd' : b'.documents.get? uri = some d') :
    ∃ d x y, b.documents.get? uri = some d ∧ x.exports = b.index.exports ∧
      d.phase services x t = .ok (d', y) := by
  induction l generalizing b with
  | nil => exact absurd hmem List.not_mem_nil
  | cons u rest ih =>
    obtain ⟨b₁, hu, hrest⟩ := advanceAll_cons.mp h
    obtain ⟨hfirst, hn'⟩ := List.nodup_cons.mp hn
    by_cases huri : uri = u
    · subst huri
      rw [get?_advanceAll_of_not_mem (hk.advance hu) hrest hfirst] at hd'
      obtain ⟨d, hd, hphase⟩ := get?_advance hk hu hd'
      exact ⟨d, b.index, b₁.index, hd, rfl, hphase⟩
    · have hin := (List.mem_cons.mp hmem).resolve_left huri
      obtain ⟨d, x, y, hd, hx, hphase⟩ := ih (hk.advance hu) hn' hrest hin
      rw [get?_advance_of_ne hk hu huri] at hd
      exact ⟨d, x, y, hd, hx.trans (exports_advance hk ht hu), hphase⟩

/-- Progress leaves the texts of documents alone. -/
theorem Progress.text (hk : b.Keyed) (h : Progress services uris b b')
    (hd' : b'.documents.get? uri = some d') :
    ∃ d, b.documents.get? uri = some d ∧ d'.text = d.text := by
  induction h generalizing d' with
  | start => exact ⟨d', hd', rfl⟩
  | @step b₁ b₂ t u hp hdue hadv ih =>
    have hk' := hp.keyed hk
    by_cases hu : uri = u
    · subst hu
      obtain ⟨d₁, hd₁, hphase⟩ := get?_advance hk' hadv hd'
      obtain ⟨d, hd, htext⟩ := ih hd₁
      exact ⟨d, hd, (Document.phase_ok hphase).2.1.trans htext⟩
    · rw [get?_advance_of_ne hk' hadv hu] at hd'
      exact ih hd'

/-! ## Whole builds -/

/-- **A build that comes through takes all documents of a stage through it**, one
stage after the other. -/
theorem through_stages : through services uris stages b = .ok b' ↔
    ∃ b₁ b₂ b₃ b₄, b.advanceAll services .parsed (b.todo .parsed uris) = .ok b₁ ∧
      b₁.advanceAll services .indexedContent (b₁.todo .indexedContent uris) = .ok b₂ ∧
      b₂.advanceAll services .computedScopes (b₂.todo .computedScopes uris) = .ok b₃ ∧
      b₃.advanceAll services .linked (b₃.todo .linked uris) = .ok b₄ ∧
      b₄.advanceAll services .validated (b₄.todo .validated uris) = .ok b' := by
  have hend : ∀ b₅ : Built, through services uris [] b₅ = .ok b' ↔ b₅ = b' :=
    fun b₅ => by rw [through, Except.ok.injEq]
  simp only [stages, through_cons, hend, exists_eq_right, exists_and_left]

/-- A stage keeps documents and the index sound. -/
theorem Sound.stage (hsound : b.Sound services) (done : List DocumentState)
    {rest : List DocumentState} (hsplit : stages = done ++ t :: rest)
    (hdone : ∀ t' ∈ done, b.todo t' uris = [])
    (h : b.advanceAll services t (b.todo t uris) = .ok b') :
    b'.Sound services ∧ ∀ t' ∈ done ++ [t], b'.todo t' uris = [] :=
  ⟨hsound.progress (progress_of_todo hsound.keyed (mem_stages_of_eq hsplit)
      (todo_nil_of_done hsplit hdone) (List.append_nil _).symm h),
    done_advanceAll hsound.keyed hsplit hdone h⟩

/-- **The order of the exports behind a build**: the documents that it indexes
come behind all others. -/
theorem keys_exports_through (hsound : b.Sound services) (hn : uris.Nodup)
    (h : through services uris stages b = .ok b') :
    ∃ b₁, b.advanceAll services .parsed (b.todo .parsed uris) = .ok b₁ ∧
      b'.index.exports.keys = b.index.exports.keys ++ b₁.todo .indexedContent uris := by
  obtain ⟨b₁, b₂, b₃, b₄, h₁, h₂, h₃, h₄, h₅⟩ := through_stages.mp h
  obtain ⟨hsound₁, -⟩ := hsound.stage [] rfl nofun h₁
  have hk₂ := hsound₁.keyed.advanceAll h₂
  have hk₃ := hk₂.advanceAll h₃
  refine ⟨b₁, h₁, ?_⟩
  rw [exports_advanceAll (hk₃.advanceAll h₄) (by decide) h₅, exports_advanceAll hk₃ (by decide) h₄,
    exports_advanceAll hk₂ (by decide) h₃, ← exports_advanceAll hsound.keyed (by decide) h₁]
  refine keys_exports_advanceAll hsound₁.keyed (hn.filter _) (fun u hu => ?_) (fun u hu => ?_) h₂
  · obtain ⟨-, d, hd, hawaits⟩ := mem_todo.mp hu
    obtain ⟨hlt, -⟩ := Document.awaits_iff.mp hawaits
    rw [← OrderedMap.get?_eq_none_iff, (hsound₁.index u).exports, hd, Option.bind_some,
      Document.indexed?_of_lt hlt]
  · obtain ⟨-, d, hd, -⟩ := mem_todo.mp hu
    exact OrderedMap.mem_keys_iff.mpr ⟨d, hd⟩

/-- A stage is not for documents that have come to it. -/
theorem get?_stage_of_le (hk : b.Keyed)
    (h : b.advanceAll services t (b.todo t uris) = .ok b') (hd : b.documents.get? uri = some d)
    (hle : t ≤ d.state) : b'.documents.get? uri = some d := by
  rw [get?_advanceAll_of_not_mem hk h, hd]
  intro hmem
  obtain ⟨-, e, he, hawaits⟩ := mem_todo.mp hmem
  rw [hd, Option.some.injEq] at he
  subst he
  rw [Document.awaits_of_le hle] at hawaits
  cases hawaits

/-- A stage before linking leaves a document below being linked. -/
theorem stage_of_lt_linked (hk : b.Keyed) (ht : t ≠ .changed) (hlt : t < .linked)
    (h : b.advanceAll services t (b.todo t uris) = .ok b') (hd : b.documents.get? uri = some d)
    (hstate : d.state < .linked) :
    ∃ d', b'.documents.get? uri = some d' ∧ d'.state < .linked := by
  obtain ⟨d', hd'⟩ := OrderedMap.exists_of_keys_eq (keys_advanceAll hk h) hd
  refine ⟨d', hd', ?_⟩
  by_cases hmem : uri ∈ b.todo t uris
  · rw [(get?_advanceAll_of_mem hk ht h hmem hd').1]
    exact hlt
  · rw [get?_advanceAll_of_not_mem hk h hmem, hd, Option.some.injEq] at hd'
    rw [← hd']
    exact hstate

/-- Linking gives every reference of a document that has none resolved what its
text stands for. -/
theorem resolution?_linked (hasking : services.Asking) {x y : Index} (hsound : d.Sound services)
    (hscoped : .computedScopes ≤ d.state) (hstate : d.state < .linked)
    (hphase : d.phase services x .linked = .ok (d', y)) {tree : SyntaxTree}
    (htree : d.tree? = some tree) :
    d.SameParse d' ∧ d'.localScopes = d.localScopes ∧
      ∀ i (hi : i < tree.references.size), (d'.links[i]?).join =
        some (LinkContext.answer ⟨services.linker, x, d, tree⟩ tree.references[i]) := by
  refine ⟨phase_sameParse (by decide) hphase, ?_⟩
  rw [Document.phase_linked, Except.ok.injEq, Prod.mk.injEq] at hphase
  obtain ⟨rfl, -⟩ := hphase
  refine ⟨rfl, fun i hi => ?_⟩
  dsimp only
  have hnone : (d.links[i]?).join = none := by
    rw [Option.eq_none_iff_forall_ne_some]
    intro resolution hlink
    rw [Option.join_eq_some_iff] at hlink
    cases hsound.unlinked hstate _ (Array.mem_of_getElem? hlink)
  rw [Linker.linked_get? hasking.usual.provider htree (hsound.sized hasking tree htree) hscoped hi,
    hnone, Option.getD_none]

/-- Validation leaves the resolutions alone, once all of them are made. -/
theorem links_validated (hasking : services.Asking) {x y : Index} {parse : ParseResult}
    (hparse : d.parse = some parse) (hall : LinkContext.AllResolved parse.tree d.links)
    (hphase : d.phase services x .validated = .ok (d', y)) :
    d'.links = d.links ∧ d'.localScopes = d.localScopes ∧ d'.tree? = d.tree? := by
  rw [Document.phase_validated, Document.checked_eq, Except.ok.injEq, Prod.mk.injEq] at hphase
  obtain ⟨rfl, -⟩ := hphase
  exact ⟨Document.links_checked hasking.asks hparse hall x, rfl, rfl⟩

/-- What a text stands for is told by the exports, the local scopes and the
tree. -/
theorem answer_congr {l : Linker} {x x' : Index} {tree : SyntaxTree} {reference : Reference}
    (hx : x'.exports = x.exports) (hscopes : d'.localScopes = d.localScopes) :
    LinkContext.answer ⟨l, x', d', tree⟩ reference =
      LinkContext.answer ⟨l, x, d, tree⟩ reference := by
  rw [LinkContext.answer, LinkContext.answer, LinkContext.lexicalScope, LinkContext.lexicalScope]
  dsimp only
  rw [hscopes, Index.elements, Index.elements, hx]

/-- The stages before bring a document that is not linked to where it can be. -/
theorem due_of_stages (hsound : b.Sound services) (hcovers : b.Covers uris)
    {b₁ b₂ b₃ : Built} (h₁ : b.advanceAll services .parsed (b.todo .parsed uris) = .ok b₁)
    (h₂ : b₁.advanceAll services .indexedContent (b₁.todo .indexedContent uris) = .ok b₂)
    (h₃ : b₂.advanceAll services .computedScopes (b₂.todo .computedScopes uris) = .ok b₃)
    (hd : b.documents.get? uri = some d) (hstate : d.state < .linked) :
    b₃.Sound services ∧
      (∀ t ∈ [.parsed, .indexedContent, .computedScopes], b₃.todo t uris = []) ∧
      uri ∈ b₃.todo .linked uris ∧ ∃ e, b₃.documents.get? uri = some e ∧
        .computedScopes ≤ e.state ∧ e.state < .linked := by
  obtain ⟨hsound₁, hdone₁⟩ := hsound.stage [] rfl nofun h₁
  obtain ⟨hsound₂, hdone₂⟩ := hsound₁.stage [.parsed] rfl hdone₁ h₂
  obtain ⟨hsound₃, hdone₃⟩ := hsound₂.stage [.parsed, .indexedContent] rfl hdone₂ h₃
  obtain ⟨e₁, he₁, hlt₁⟩ := stage_of_lt_linked hsound.keyed (by decide) (by decide) h₁ hd hstate
  obtain ⟨e₂, he₂, hlt₂⟩ := stage_of_lt_linked hsound₁.keyed (by decide) (by decide) h₂ he₁ hlt₁
  obtain ⟨e₃, he₃, hlt₃⟩ := stage_of_lt_linked hsound₂.keyed (by decide) (by decide) h₃ he₂ hlt₂
  have hmem : uri ∈ uris := hcovers uri d hd hstate
  have hscoped : .computedScopes ≤ e₃.state := by
    by_contra hnot
    have hawaits := todo_eq_nil_iff.mp (hdone₃ .computedScopes (by decide)) uri hmem e₃ he₃
    rw [Document.awaits_iff.mpr ⟨Nat.lt_of_not_le hnot, nofun⟩] at hawaits
    cases hawaits
  have hdue : uri ∈ b₃.todo .linked uris :=
    mem_todo.mpr ⟨hmem, e₃, he₃, Document.awaits_iff.mpr ⟨hlt₃, nofun⟩⟩
  exact ⟨hsound₃, hdone₃, hdue, e₃, he₃, hscoped, hlt₃⟩

/-- The last stage leaves the resolutions of a document alone that has all of
them. -/
theorem links_last (hasking : services.Asking) (hk : b.Keyed) (hn : uris.Nodup)
    (h : b.advanceAll services .validated (b.todo .validated uris) = .ok b')
    (hd : b.documents.get? uri = some d) {parse : ParseResult} (hparse : d.parse = some parse)
    (hall : LinkContext.AllResolved parse.tree d.links)
    (hd' : b'.documents.get? uri = some d') :
    d'.links = d.links ∧ d'.localScopes = d.localScopes ∧ d'.tree? = d.tree? := by
  by_cases hvalidated : uri ∈ b.todo .validated uris
  · obtain ⟨e, x, y, he, -, hphase⟩ :=
      phase_of_advanceAll hk (by decide) (hn.filter _) h hvalidated hd'
    obtain rfl : e = d := Option.some.inj (he.symm.trans hd)
    exact links_validated hasking hparse hall hphase
  · rw [get?_advanceAll_of_not_mem hk h hvalidated, hd, Option.some.injEq] at hd'
    subst hd'
    exact ⟨rfl, rfl, rfl⟩

/-- **A document that a build links has for each reference what its text stands
for** when the build is through. -/
theorem resolution?_through (hasking : services.Asking) (hsound : b.Sound services)
    (hn : uris.Nodup) (hcovers : b.Covers uris) (h : through services uris stages b = .ok b')
    (hd : b.documents.get? uri = some d) (hstate : d.state < .linked)
    (hd' : b'.documents.get? uri = some d') {tree : SyntaxTree} (htree : d'.tree? = some tree)
    {id : RefId} {reference : Reference} (hreference : tree.reference? id = some reference) :
    d'.resolution? id =
      some (LinkContext.answer ⟨services.linker, b'.index, d', tree⟩ reference) := by
  obtain ⟨b₁, b₂, b₃, b₄, h₁, h₂, h₃, h₄, h₅⟩ := through_stages.mp h
  -- the document comes to the stage of linking with its scopes and without resolutions
  obtain ⟨hsound₃, hdone₃, hdue, e₃, he₃, hscoped, hlt₃⟩ :=
    due_of_stages hsound hcovers h₁ h₂ h₃ hd hstate
  obtain ⟨hsound₄, -⟩ :=
    hsound₃.stage [.parsed, .indexedContent, .computedScopes] rfl hdone₃ h₄
  obtain ⟨e₄, he₄⟩ := OrderedMap.exists_of_keys_eq (keys_advanceAll hsound₃.keyed h₄) he₃
  obtain ⟨e, x, y, he, hx, hphase⟩ :=
    phase_of_advanceAll hsound₃.keyed (by decide) (hn.filter _) h₄ hdue he₄
  obtain rfl : e = e₃ := Option.some.inj (he.symm.trans he₃)
  have hesound := hsound₃.document uri e he
  obtain ⟨parse, -, hparse⟩ := hesound.parsed (Nat.le_trans (by decide) hscoped)
  have htree₃ := Document.tree?_of_parse hparse
  obtain ⟨hsame, hscopes, hlinks⟩ := resolution?_linked hasking hesound hscoped hlt₃ hphase htree₃
  -- and validation changes no resolution
  have hlast : d'.links = e₄.links ∧ d'.localScopes = e₄.localScopes ∧ d'.tree? = e₄.tree? :=
    links_last hasking hsound₄.keyed hn h₅ he₄ (hsame.parse.trans hparse)
      (fun i hi => ⟨_, hlinks i hi⟩) hd'
  rw [hlast.2.2, hsame.tree?_eq, htree₃, Option.some.injEq] at htree
  subst htree
  obtain ⟨hi, rfl⟩ := Array.getElem?_eq_some_iff.mp hreference
  have hexports : b'.index.exports = x.exports := by
    rw [exports_advanceAll hsound₄.keyed (by decide) h₅,
      exports_advanceAll hsound₃.keyed (by decide) h₄, hx]
  rw [answer_congr hexports (hlast.2.1.trans hscopes), Document.resolution?, hlast.1]
  exact hlinks id.index hi

end Built

/-! ## Batches and the order of the exports -/

theorem Index.keys_exports_removeContent (x : Index) (uri : Uri) :
    (x.removeContent uri).exports.keys = x.exports.keys.filter (!· == uri) := by
  rw [removeContent]
  split
  next => exact OrderedMap.keys_erase _ _
  next hnot =>
    refine (List.filter_eq_self.mpr fun v hv => ?_).symm
    rw [Bool.not_eq_true', beq_eq_false_iff_ne]
    rintro rfl
    exact hnot (OrderedMap.contains_iff.mpr (OrderedMap.mem_keys_iff.mp hv))

namespace Workspace

section

variable {services : Services} {w w' : Workspace} {changed deleted : List Uri} {uri v : Uri}
  {d : Document}

theorem keys_exports_take (hsound : w.built.Sound services) (h : w.take uri = .ok w') :
    w'.index.exports.keys = w.index.exports.keys.filter (!· == uri) := by
  obtain ⟨text, -, ⟨-, rfl⟩ | ⟨hc, rfl⟩⟩ := take_cases h
  · exact w.index.keys_exports_removeContent uri
  · refine (List.filter_eq_self.mpr fun v hv => ?_).symm
    rw [Bool.not_eq_true', beq_eq_false_iff_ne]
    rintro rfl
    obtain ⟨symbols, hsymbols⟩ := OrderedMap.mem_keys_iff.mp hv
    obtain ⟨d, hd, -⟩ := Option.bind_eq_some_iff.mp
      ((hsound.index v).exports.symm.trans hsymbols)
    have hcontains : w.documents.contains v = true := OrderedMap.contains_iff.mpr ⟨d, hd⟩
    rw [hc] at hcontains
    cases hcontains

theorem keys_exports_takes (hsound : w.built.Sound services)
    (h : (attemptAll take changed w).1 = none) :
    (attemptAll take changed w).2.index.exports.keys =
      w.index.exports.keys.filter (· ∉ changed) := by
  induction changed generalizing w with
  | nil => simp [attemptAll]
  | cons u rest ih =>
    rw [attemptAll] at h ⊢
    cases htake : w.take u with
    | error e =>
      rw [htake] at h
      cases h
    | ok w₁ =>
      rw [htake] at h
      dsimp only
      rw [ih (sound_take hsound htake) h, keys_exports_take hsound htake, List.filter_filter]
      refine List.filter_congr fun v _ => ?_
      by_cases hv : v = u <;> simp [hv]

theorem exports_relink (w : Workspace) (batch : List Uri) :
    (Build.relink w batch).index.exports = w.index.exports := by
  refine foldl_invariant (P := fun w' => w'.index.exports = w.index.exports)
    (fun w' d h => ?_) rfl _
  split
  · exact h
  · split
    · exact h
    · exact h

/-- **What a batch leaves of the exports**, in their order: those that are not
of the batch. -/
theorem keys_exports_prepared (hsound : w.built.Sound services) (hreads : w.Reads changed) :
    (w.prepared changed []).index.exports.keys = w.index.exports.keys.filter (· ∉ changed) := by
  have htaken : (w.taken changed []).2.index.exports.keys =
      w.index.exports.keys.filter (· ∉ changed) :=
    keys_exports_takes hsound ((taken_eq_none_iff w changed []).mpr hreads)
  rw [prepared]
  split
  · rw [exports_relink, htaken]
  · exact htaken

/-! ## What an update links again -/

/-- **An update for some files links a document again** if it is one of them, if
it refers into one, or if it has linking errors and there is any file. -/
def LinksAgain (w : Workspace) (touched : List Uri) (d : Document) : Prop :=
  d.uri ∈ touched ∨ (touched ≠ [] ∧ d.hasLinkingErrors = true) ∨
    w.index.isAffected d.uri touched = true

/-- Whether a document is linked again can be computed. -/
instance (w : Workspace) (touched : List Uri) (d : Document) : Decidable (w.LinksAgain touched d) :=
  inferInstanceAs (Decidable (_ ∨ _))

/-- Documents are left alone that need not be linked again. -/
theorem relinks_untouched {batch : List Uri} {l : List Document}
    (h : ∀ d ∈ l, d.uri = v → w.mustRelink batch d = false) :
    w.Untouched (relinks batch l w) v := by
  induction l generalizing w with
  | nil => exact .refl w v
  | cons e rest ih =>
    rw [relinks, List.foldl_cons, ← relinks]
    by_cases hmust : w.mustRelink batch e = true
    · rw [if_pos hmust]
      have hv : v ≠ e.uri := by
        rintro rfl
        rw [h e List.mem_cons_self rfl] at hmust
        cases hmust
      obtain ⟨hexports, hreferences⟩ := w.index.get?_resetTo e.uri v .computedScopes
      rw [if_neg fun hand => hv hand.1] at hexports hreferences
      have hstep : w.Untouched (w.resetTo e.uri .computedScopes) v :=
        ⟨by rw [document?_resetTo, if_neg hv], hexports, hreferences⟩
      refine hstep.trans (ih fun d hd huri => ?_)
      rw [mustRelink, isAffected_congr (x := w.index) (by rw [huri]; exact hreferences)]
      exact h d (List.mem_cons_of_mem _ hd) huri
    · rw [if_neg hmust]
      exact ih fun d hd huri => h d (List.mem_cons_of_mem _ hd) huri

/-- **A document that is not linked again is left alone.** -/
theorem document?_prepared_of_not (hsound : w.built.Sound services) {touched : List Uri}
    (hreads : w.Reads touched) (hd : w.document? uri = some d) (hnot : ¬ w.LinksAgain touched d) :
    (w.prepared touched []).document? uri = some d := by
  have huri : d.uri = uri := hsound.keyed uri d hd
  rw [LinksAgain, huri, not_or, not_or, not_and, Bool.not_eq_true, Bool.not_eq_true] at hnot
  obtain ⟨hout, herrors, haffected⟩ := hnot
  have hsame : w.Untouched (w.taken touched []).2 uri := by
    refine ((taken_cases w touched [] uri).resolve_left fun hin => hout ?_).2
    simpa using hin.1
  have htaken : (w.taken touched []).2.document? uri = some d := hsame.document.trans hd
  rw [prepared]
  split
  next hbatch =>
    have hne : touched ≠ [] := by
      rintro rfl
      cases hbatch
    rw [relink_eq, List.append_nil]
    refine (relinks_untouched fun e he heuri => ?_).document.trans htaken
    -- the only document of the uri is the one that need not be linked again
    have hsound' := sound_taken hsound touched []
    obtain ⟨⟨k, e'⟩, hentry, rfl⟩ := List.mem_map.mp he
    have hget := OrderedMap.get?_of_mem hsound'.nodup hentry
    obtain rfl : k = uri := (hsound'.keyed k e' hget).symm.trans heuri
    obtain rfl : e' = d := Option.some.inj (hget.symm.trans htaken)
    rw [mustRelink, isAffected_congr (x := w.index) (by rw [heuri]; exact hsame.references),
      herrors hne, heuri, haffected]
    simp
  next => exact htaken

/-- **A document that is linked again is not linked** when the build begins. -/
theorem lt_linked_of_linksAgain (hsound : w.built.Sound services) {touched : List Uri}
    (hreads : w.Reads touched) (hd : w.document? uri = some d) (hagain : w.LinksAgain touched d)
    {e : Document} (he : (w.prepared touched []).document? uri = some e) : e.state < .linked := by
  refine Nat.lt_of_not_le fun hstate => ?_
  obtain ⟨hsame, hrest⟩ := prepared_linked hsound he hstate
  obtain ⟨hout, herrors, haffected⟩ := hrest hreads
  obtain rfl : d = e := Option.some.inj (hd.symm.trans (hsame.document.symm.trans he))
  rw [List.append_nil] at hout haffected
  rw [LinksAgain, hsound.keyed uri d hd, haffected] at hagain
  rcases hagain with hin | ⟨hne, hlinking⟩ | habsurd
  · exact hout hin
  · have hbatch : (!touched.isEmpty || !([] : List Uri).isEmpty) = true := by
      simpa [List.isEmpty_iff] using hne
    rw [herrors hbatch] at hlinking
    cases hlinking
  · cases habsurd

/-- A document of the batch has a text that is newer than its tree. -/
theorem state_prepared_of_mem (hreads : w.Reads changed) (hmem : uri ∈ changed)
    (hd : (w.prepared changed deleted).document? uri = some d) : d.state = .changed := by
  have htaken : ∀ d, (w.taken changed deleted).2.document? uri = some d → d.state = .changed := by
    refine ((taken_cases w changed deleted uri).resolve_right fun hout => ?_).2
    exact hout.1 hreads (List.mem_append_left _ hmem)
  rw [prepared] at hd
  split at hd
  · refine foldl_invariant (P := fun w' => ∀ d, w'.document? uri = some d → d.state = .changed)
      (fun w' e h => ?_) htaken _ d hd
    split
    · exact h
    · split
      · intro d hd
        rw [document?_resetTo] at hd
        split at hd
        next huri =>
          obtain ⟨d₁, hd₁, rfl⟩ := Option.map_eq_some_iff.mp hd
          have hstate := h d₁ (huri ▸ hd₁)
          rw [Document.resetTo]
          dsimp only
          rw [hstate]
          rfl
        next => exact h d hd
      · exact h
  · exact htaken d hd

/-- A batch of documents that are there leaves the list of documents alone. -/
theorem keys_prepared_of_subset (hreads : w.Reads changed)
    (h : ∀ u ∈ changed, u ∈ w.documents.keys) :
    (w.prepared changed []).documents.keys = w.documents.keys := by
  rw [keys_prepared hreads, Batch.track]
  dsimp only
  rw [List.filter_eq_self.mpr fun u _ => by simp]
  induction changed with
  | nil => rfl
  | cons u rest ih =>
    rw [List.foldl_cons, if_pos (h u List.mem_cons_self)]
    exact ih (fun v hv => hreads v (List.mem_cons_of_mem _ hv))
      fun v hv => h v (List.mem_cons_of_mem _ hv)

/-! ## Rest -/

/-- **Workspaces whose last update came through.** Files may have been edited
since then, and listeners added that only note. -/
inductive Rested (services : Services) : Workspace → Prop
  | updated {w w' : Workspace} {changed deleted : List Uri} {interrupt : Interrupt} :
      Reached services w → (Build.update services changed deleted).run w interrupt = (.ok (), w') →
      Rested services w'
  | edit {w : Workspace} (files : FileSystem) : Rested services w →
      Rested services { w with files := files }
  | listen {w : Workspace} {listeners : Listeners} : Rested services w → listeners.Quiet →
      Rested services { w with listeners := listeners }

theorem Rested.reached (h : Rested services w) : Reached services w := by
  induction h with
  | updated hreached hrun => exact .update hreached hrun
  | edit files _ ih => exact .edit files ih
  | listen _ hquiet ih => exact .listen ih hquiet

/-- An update that comes through leaves no document pending. -/
theorem build_of_update (husual : services.Usual) (h : Reached services w) {interrupt : Interrupt}
    (hrun : (Build.update services changed deleted).run w interrupt = (.ok (), w'))
    (hd : w'.document? uri = some d) : d.build = none := by
  have hprepared := sound_prepared (h.sound husual).1 changed deleted
  obtain ⟨-, b, hthrough, hbuilt⟩ := built_of_update husual h hrun
  have hk := (hprepared.mark services.updateBuild
    (w.prepared changed deleted).built.awaiting).keyed
  obtain ⟨hp, -⟩ := Built.through_ok hk (List.nil_append _).symm nofun hthrough
  rw [show w'.document? uri = w'.built.documents.get? uri from rfl, hbuilt] at hd
  obtain ⟨d₁, hd₁, -, hin, hout⟩ := Built.get?_clear_cases hd
  by_cases hmem : uri ∈ (w.prepared changed deleted).built.awaiting
  · exact hin hmem
  · obtain rfl := hout hmem
    rw [(hp.get? hk uri).1 hmem, Built.get?_mark, if_neg hmem] at hd₁
    by_contra hbuild
    refine hmem ((Built.mem_awaiting hprepared.nodup hprepared.keyed).mpr ⟨d, hd₁, ?_⟩)
    rw [Built.waits, Document.isPending, Option.isSome_iff_ne_none.mpr hbuild, Bool.or_true]

/-- **In a workspace at rest every document is linked and none is pending.** -/
theorem Rested.settled (husual : services.Usual) (h : Rested services w) :
    ∀ uri d, w.document? uri = some d → .linked ≤ d.state ∧ d.build = none := by
  induction h with
  | updated hreached hrun =>
    exact fun uri d hd => ⟨(linked_of_update husual hreached hrun).2 uri d hd,
      build_of_update husual hreached hrun hd⟩
  | edit _ _ ih => exact ih
  | listen _ _ ih => exact ih

/-! ## An update for files that have not changed -/

/-- **Files have not changed**: their documents are there with the texts that
the files have. -/
def Unchanged (w : Workspace) (touched : List Uri) : Prop :=
  ∀ uri ∈ touched, ∃ d, w.document? uri = some d ∧ w.files.read uri = .ok d.text

variable {touched : List Uri}

theorem unchanged_iff : w.Unchanged touched ↔ ∀ uri ∈ touched,
    (w.document? uri).any (fun d => decide (w.files.read uri = .ok d.text)) = true := by
  refine forall₂_congr fun uri _ => ?_
  rw [Option.any_eq_true]
  simp only [decide_eq_true_eq]

/-- Whether files have not changed is decided by reading them. -/
instance (w : Workspace) (touched : List Uri) : Decidable (w.Unchanged touched) :=
  decidable_of_iff _ unchanged_iff.symm

theorem Unchanged.reads (h : w.Unchanged touched) : w.Reads touched := fun uri huri => by
  obtain ⟨d, -, hread⟩ := h uri huri
  exact ⟨d.text, hread⟩

theorem Unchanged.keys (h : w.Unchanged touched) :
    (w.prepared touched []).documents.keys = w.documents.keys := by
  refine keys_prepared_of_subset h.reads fun uri huri => ?_
  obtain ⟨d, hd, -⟩ := h uri huri
  exact OrderedMap.mem_keys_iff.mpr ⟨d, hd⟩

/-- Documents keep their texts. -/
theorem Unchanged.text (h : w.Unchanged touched)
    (hd : (w.prepared touched []).document? uri = some d) :
    ∃ d₀, w.document? uri = some d₀ ∧ d.text = d₀.text := by
  rcases text_prepared h.reads hd with ⟨hin, hread⟩ | ⟨-, hsame⟩
  · obtain ⟨d₀, hd₀, hread₀⟩ := h uri hin
    rw [hread, Except.ok.injEq] at hread₀
    exact ⟨d₀, hd₀, hread₀⟩
  · exact hsame

/-- **The update builds just the documents that are linked again.** -/
theorem Unchanged.mem_awaiting (h : w.Unchanged touched) (hsound : w.built.Sound services)
    (hsettled : ∀ uri d, w.document? uri = some d → .linked ≤ d.state ∧ d.build = none)
    (hd : w.document? uri = some d) :
    uri ∈ (w.prepared touched []).built.awaiting ↔ w.LinksAgain touched d := by
  have hprepared := sound_prepared hsound touched []
  rw [Built.mem_awaiting hprepared.nodup hprepared.keyed]
  constructor
  · rintro ⟨e, he, hwaits⟩
    by_contra hnot
    have hsame := document?_prepared_of_not hsound h.reads hd hnot
    obtain rfl : d = e := Option.some.inj (hsame.symm.trans he)
    obtain ⟨hlinked, hbuild⟩ := hsettled uri d hd
    have hbehind : ¬ d.state < .linked := Nat.not_lt_of_le hlinked
    rw [Built.waits, Document.isPending, hbuild, decide_eq_false hbehind] at hwaits
    cases hwaits
  · intro hagain
    obtain ⟨e, he⟩ := OrderedMap.exists_of_keys_eq h.keys hd
    refine ⟨e, he, ?_⟩
    rw [Built.waits, decide_eq_true (lt_linked_of_linksAgain hsound h.reads hd hagain he),
      Bool.true_or]

/-- **The documents that are indexed again are those that were touched**, in
their order. -/
theorem Unchanged.todo_eq (h : w.Unchanged touched) (hsound : w.built.Sound services)
    (hsettled : ∀ uri d, w.document? uri = some d → .linked ≤ d.state ∧ d.build = none)
    {options : ValidationMode} {b : Built} :
    let uris := (w.prepared touched []).built.awaiting
    let start := (w.prepared touched []).built.mark options uris
    start.advanceAll services .parsed (start.todo .parsed uris) = .ok b →
      b.todo .indexedContent uris = w.documents.keys.filter (· ∈ touched) := by
  intro uris start hstage
  have hprepared := sound_prepared hsound touched []
  have hk : start.Keyed := hprepared.keyed.mark options
  have hkeys : (w.prepared touched []).built.documents.keys = w.documents.keys := h.keys
  have huris : uris = w.documents.keys.filter fun uri =>
      ((w.prepared touched []).built.documents.get? uri).any Built.waits := by
    rw [← hkeys]
    exact Built.awaiting_eq hprepared.nodup hprepared.keyed
  rw [Built.todo, huris, List.filter_filter]
  refine List.filter_congr fun uri hmem => ?_
  obtain ⟨d, hd⟩ := OrderedMap.mem_keys_iff.mp hmem
  have hstart : start.documents.keys = w.documents.keys := Built.keys_modifyAll.trans hkeys
  obtain ⟨s, hs⟩ := OrderedMap.exists_of_keys_eq hstart hd
  obtain ⟨e, he, heq, -⟩ := Built.get?_mark_cases hs
  have hstate : s.state = e.state := by rw [heq]
  rw [he, Option.any_some]
  by_cases hin : uri ∈ touched
  · have hchanged : e.state = .changed := state_prepared_of_mem h.reads hin he
    have hwaits : Built.waits e = true := by
      rw [Built.waits, hchanged]
      rfl
    have hparsed : uri ∈ start.todo .parsed uris :=
      Built.mem_todo.mpr ⟨(Built.mem_awaiting hprepared.nodup hprepared.keyed).mpr ⟨e, he, hwaits⟩,
        s, hs, by rw [Document.awaits, hstate, hchanged]; rfl⟩
    obtain ⟨f, hf⟩ := OrderedMap.exists_of_keys_eq (Built.keys_advanceAll hk hstage) hs
    obtain ⟨hstate', -⟩ := Built.get?_advanceAll_of_mem hk (by decide) hstage hparsed hf
    rw [hf, Option.any_some, hwaits, decide_eq_true hin, Document.awaits, hstate']
    rfl
  · have hout : uri ∉ touched ++ [] := by rwa [List.append_nil]
    obtain ⟨e', he', -, hindexed⟩ := document?_prepared hout hd
    obtain rfl : e = e' := Option.some.inj (he.symm.trans he')
    have hle : .indexedContent ≤ s.state := by
      rw [hstate]
      exact hindexed (Nat.le_trans (by decide) (hsettled uri d hd).1)
    rw [Built.get?_stage_of_le hk hstage hs (Nat.le_trans (by decide) hle), Option.any_some,
      Document.awaits_of_le hle, Bool.false_and, decide_eq_false hin]

/-- What is parsed from one text is one tree. -/
theorem sameTree_of_text {d' : Document} (hsound : d.Sound services) (hsound' : d'.Sound services)
    (huri : d'.uri = d.uri) (htext : d'.text = d.text) (hstate : .parsed ≤ d.state)
    (hstate' : .parsed ≤ d'.state) : d.SameTree d' := by
  obtain ⟨r, hparse, hr⟩ := hsound.parsed hstate
  obtain ⟨r', hparse', hr'⟩ := hsound'.parsed hstate'
  rw [htext, hparse, Except.ok.injEq, Prod.mk.injEq] at hparse'
  exact ⟨huri, by rw [hr, hr', hparse'.1]⟩

/-- **The build of an update for files that have not changed**, from the
workspace at rest that it starts in: the documents that it builds, and how it
ends. -/
structure Touch (services : Services) (touched : List Uri) (w w' : Workspace) (uris : List Uri)
    (b : Built) : Prop where
  sound : w.built.Sound services
  settled : ∀ uri d, w.document? uri = some d → .linked ≤ d.state ∧ d.build = none
  unchanged : w.Unchanged touched
  sound' : w'.built.Sound services
  linked' : ∀ uri d, w'.document? uri = some d → .linked ≤ d.state
  awaiting : uris = (w.prepared touched []).built.awaiting
  through : Built.through services uris Built.stages
    ((w.prepared touched []).built.mark services.updateBuild uris) = .ok b
  cleared : w'.built = b.clear uris

theorem Rested.touch (husual : services.Usual) (h : Rested services w)
    (hunchanged : w.Unchanged touched) {interrupt : Interrupt}
    (hrun : (Build.update services touched []).run w interrupt = (.ok (), w')) :
    ∃ uris b, Touch services touched w w' uris b := by
  obtain ⟨-, b, hthrough, hbuilt⟩ := built_of_update husual h.reached hrun
  exact ⟨_, b, (h.reached.sound husual).1, h.settled husual, hunchanged,
    ((Reached.update h.reached hrun).sound husual).1,
    (linked_of_update husual h.reached hrun).2, rfl, hthrough, hbuilt⟩

namespace Touch

variable {uris : List Uri} {b : Built}

theorem prepared (h : Touch services touched w w' uris b) :
    (w.prepared touched []).built.Sound services := sound_prepared h.sound touched []

theorem marked (h : Touch services touched w w' uris b) :
    ((w.prepared touched []).built.mark services.updateBuild uris).Sound services :=
  h.prepared.mark services.updateBuild uris

theorem progress (h : Touch services touched w w' uris b) : Built.Progress services uris
    ((w.prepared touched []).built.mark services.updateBuild uris) b :=
  (Built.through_ok h.marked.keyed (List.nil_append _).symm nofun h.through).1

theorem nodup (h : Touch services touched w w' uris b) : uris.Nodup := by
  rw [h.awaiting]
  exact Built.nodup_awaiting h.prepared

/-- The documents behind the build, before their marks are cleared. -/
theorem document?_cases (h : Touch services touched w w' uris b)
    (hd : w'.document? uri = some d) :
    ∃ d₁, b.documents.get? uri = some d₁ ∧ d = { d₁ with build := d.build } := by
  rw [show w'.document? uri = w'.built.documents.get? uri from rfl, h.cleared] at hd
  obtain ⟨d₁, hd₁, heq, -⟩ := Built.get?_clear_cases hd
  exact ⟨d₁, hd₁, heq⟩

theorem keys (h : Touch services touched w w' uris b) :
    w'.built.documents.keys = w.built.documents.keys := by
  rw [h.cleared]
  calc (b.clear uris).documents.keys = b.documents.keys := Built.keys_modifyAll
    _ = _ := h.progress.keys h.marked.keyed
    _ = (w.prepared touched []).built.documents.keys := Built.keys_modifyAll
    _ = w.built.documents.keys := h.unchanged.keys

/-- Documents keep their texts, and so their trees. -/
theorem sameTree (h : Touch services touched w w' uris b) (hd : w.document? uri = some d)
    {d' : Document} (hd' : w'.document? uri = some d') : d.SameTree d' := by
  obtain ⟨d₁, hd₁, heq⟩ := h.document?_cases hd'
  obtain ⟨s, hs, htext⟩ := h.progress.text h.marked.keyed hd₁
  obtain ⟨e, he, heq', -⟩ := Built.get?_mark_cases hs
  obtain ⟨d₀, hd₀, htext'⟩ := h.unchanged.text he
  obtain rfl : d = d₀ := Option.some.inj (hd.symm.trans hd₀)
  refine sameTree_of_text (h.sound.document uri d hd) (h.sound'.document uri d' hd') ?_ ?_
    (Nat.le_trans (by decide) (h.settled uri d hd).1)
    (Nat.le_trans (by decide) (h.linked' uri d' hd'))
  · rw [h.sound'.keyed uri d' hd', h.sound.keyed uri d hd]
  · rw [heq, ← htext', ← show s.text = e.text by rw [heq']]
    exact htext

/-- **The update puts the exports of the touched documents behind the others**,
and all else that it changes are versions. -/
theorem requeued (h : Touch services touched w w' uris b) :
    w.built.Requeued touched w'.built := by
  refine ⟨⟨h.keys, fun uri d hd => ?_⟩, ?_⟩
  · obtain ⟨d', hd'⟩ := OrderedMap.exists_of_keys_eq h.keys hd
    exact ⟨d', hd', h.sameTree hd hd', Nat.le_trans (by decide) (h.settled uri d hd).1,
      Nat.le_trans (by decide) (h.linked' uri d' hd')⟩
  · obtain ⟨b₁, hstage, hkeys⟩ := Built.keys_exports_through h.marked h.nodup h.through
    obtain rfl := h.awaiting
    rw [h.unchanged.todo_eq h.sound h.settled hstage] at hkeys
    rw [h.cleared]
    exact hkeys.trans (congrArg (· ++ _) (keys_exports_prepared h.sound h.unchanged.reads))

/-- A document that is not linked again stays as it is. -/
theorem document?_of_not (h : Touch services touched w w' uris b) (hd : w.document? uri = some d)
    (hnot : ¬ w.LinksAgain touched d) : w'.document? uri = some d := by
  have hout : uri ∉ uris := by
    rw [h.awaiting, h.unchanged.mem_awaiting h.sound h.settled hd]
    exact hnot
  rw [show w'.document? uri = w'.built.documents.get? uri from rfl, h.cleared, Built.get?_clear,
    if_neg hout, (h.progress.get? h.marked.keyed uri).1 hout, Built.get?_mark, if_neg hout]
  exact document?_prepared_of_not h.sound h.unchanged.reads hd hnot

/-- **Every reference of a document that is linked again** gets what its text
stands for. -/
theorem resolution?_of_linksAgain (hasking : services.Asking)
    (h : Touch services touched w w' uris b) (hd : w.document? uri = some d)
    (hagain : w.LinksAgain touched d) {d' : Document} (hd' : w'.document? uri = some d')
    {tree : SyntaxTree} (htree : d'.tree? = some tree) {id : RefId} {reference : Reference}
    (hreference : tree.reference? id = some reference) :
    d'.resolution? id =
      some (LinkContext.answer ⟨services.linker, w'.index, d', tree⟩ reference) := by
  obtain ⟨d₁, hd₁, heq⟩ := h.document?_cases hd'
  obtain ⟨s, hs, -⟩ := h.progress.text h.marked.keyed hd₁
  obtain ⟨e, he, heq', -⟩ := Built.get?_mark_cases hs
  have hstate : s.state = e.state := by rw [heq']
  have hbehind : s.state < .linked := by
    rw [hstate]
    exact lt_linked_of_linksAgain h.sound h.unchanged.reads hd hagain he
  have hcovers : ((w.prepared touched []).built.mark services.updateBuild uris).Covers uris := by
    obtain rfl := h.awaiting
    exact (Built.covers_awaiting h.prepared).remarked (Built.remarked_mark _ _ _)
  have hindex : w'.index = b.index := congrArg Built.index h.cleared
  rw [heq] at htree ⊢
  rw [hindex]
  exact Built.resolution?_through hasking h.marked h.nodup hcovers h.through hs hbehind hd₁ htree
    hreference

end Touch

/-- **Touching files moves few references.** In a workspace at rest, an update
for files that have not changed and that comes through leaves every document
with its tree, and puts the exports of the touched documents behind the
others. A document that need not be linked again stays as it is; in any other
one, each reference gets what its text then stands for. A resolution that is
what its text stood for is retained: an error as it was, a list with its nodes,
and a single target with its node, unless its document is linked again and
that of the target is overtaken. -/
theorem Rested.places_kept (hasking : services.Asking) (h : Rested services w)
    (hunchanged : w.Unchanged touched) {interrupt : Interrupt}
    (hrun : (Build.update services touched []).run w interrupt = (.ok (), w')) :
    w.built.Requeued touched w'.built ∧
    ∀ uri d, w.document? uri = some d → ∃ d' tree, w'.document? uri = some d' ∧
      d.tree? = some tree ∧ d'.tree? = some tree ∧
      (¬ w.LinksAgain touched d → d' = d) ∧
      ∀ id reference, tree.reference? id = some reference →
        (w.LinksAgain touched d → d'.resolution? id =
          some (LinkContext.answer ⟨services.linker, w'.index, d', tree⟩ reference)) ∧
        ∀ resolution, d.resolution? id = some resolution →
          resolution = LinkContext.answer ⟨services.linker, w.index, d, tree⟩ reference →
          ∃ resolution', d'.resolution? id = some resolution' ∧
            Built.Retained w.built w'.built (fun target => w.LinksAgain touched d ∧
              w.built.Overtaken services.linker.types touched d tree reference target.uri)
              resolution resolution' := by
  obtain ⟨uris, b, htouch⟩ := h.touch hasking.usual hunchanged hrun
  have hrequeued := htouch.requeued
  refine ⟨hrequeued, fun uri d hd => ?_⟩
  obtain ⟨d', hd', hsame, -⟩ := hrequeued.renewed.document uri d hd
  have hstate := (htouch.settled uri d hd).1
  have hdsound := htouch.sound.document uri d hd
  obtain ⟨parse, -, hparse⟩ := hdsound.parsed (Nat.le_trans (by decide) hstate)
  have htree := Document.tree?_of_parse hparse
  have htree' : d'.tree? = some parse.tree := hsame.tree?_eq.trans htree
  have halone : ¬ w.LinksAgain touched d → d' = d := fun hnot =>
    Option.some.inj (hd'.symm.trans (htouch.document?_of_not hd hnot))
  refine ⟨d', parse.tree, hd', htree, htree', halone, fun id reference hreference => ?_⟩
  have hlinked := fun hagain =>
    htouch.resolution?_of_linksAgain hasking hd hagain hd' htree' hreference
  refine ⟨hlinked, fun resolution hresolution hanswer => ?_⟩
  by_cases hagain : w.LinksAgain touched d
  · refine ⟨_, hlinked hagain, ?_⟩
    rw [hanswer]
    refine hrequeued.retained htouch.sound htouch.sound' hd hd'
      (hdsound.scopes (Nat.le_trans (by decide) hstate))
      ((htouch.sound'.document uri d' hd').scopes
        (Nat.le_trans (by decide) (htouch.linked' uri d' hd'))) htree reference fun target => ?_
    exact and_iff_right hagain
  · obtain rfl := halone hagain
    exact ⟨resolution, hresolution,
      hrequeued.renewed.retained (fun target hmoves => hagain hmoves.1) resolution⟩

end

namespace Items

/-- Two files with an item of one name, and one that refers to the name. -/
def doubles : FileSystem := ⟨.memory, ⟨⟨[(first, "a"), (second, "a"), (missing, "c:a")]⟩⟩⟩

/-- An update for the three files. -/
def doubled : Except Stop Unit × Workspace :=
  (Build.update services [first, second, missing] []).run (.ofFiles doubles) .never

/-- Then the first file is touched. -/
def moved : Except Stop Unit × Workspace := (Build.update services [first] []).run doubled.2 .never

/-- Or both files with the item are. -/
def bothTouched : Except Stop Unit × Workspace :=
  (Build.update services [second, first] []).run doubled.2 .never

/-- What the first reference of a document is resolved to. -/
def resolution? (w : Workspace) (uri : Uri) : Option Resolution :=
  (w.document? uri).bind (·.resolution? ⟨0⟩)

/-- What the text of the first reference of a document stands for. -/
def meaning? (w : Workspace) (uri : Uri) : Option Resolution :=
  (w.document? uri).bind fun d => d.tree?.bind fun tree =>
    (tree.reference? ⟨0⟩).map (LinkContext.answer ⟨services.linker, w.index, d, tree⟩)

theorem meaning?_eq_some {w : Workspace} {uri : Uri} {resolution : Resolution}
    (h : meaning? w uri = some resolution) :
    ∃ d tree reference, w.document? uri = some d ∧ d.tree? = some tree ∧
      tree.reference? ⟨0⟩ = some reference ∧
      LinkContext.answer ⟨services.linker, w.index, d, tree⟩ reference = resolution := by
  obtain ⟨d, hd, htree⟩ := Option.bind_eq_some_iff.mp h
  obtain ⟨tree, htree, hreference⟩ := Option.bind_eq_some_iff.mp htree
  obtain ⟨reference, hreference, hanswer⟩ := Option.map_eq_some_iff.mp hreference
  exact ⟨d, tree, reference, hd, htree, hreference, hanswer⟩

theorem rested_doubled : Rested services doubled.2 := by
  have hok : doubled.1 = .ok () := by decide +kernel
  exact .updated (.start doubles) (run_of_fst (by rw [doubled]) hok)

theorem rested_after : Rested services after := by
  have hok : ((Build.update services [] []).run failed .never).1 = .ok () := by decide +kernel
  have hunread : ¬ opened.Reads [missing] := by decide +kernel
  exact .updated (served_opened.failed hunread [first] .never).reached (run_of_fst rfl hok)

end Items

/-- **Touching a file can move references and break them.** Of two files with an
item of one name the first is touched, and a reference leads to the second
then. And a reference that leads to a file that is gone is an error after its
own file was touched. -/
theorem touched_moves :
    (Rested Items.services Items.doubled.2 ∧ Items.doubled.2.Unchanged [Items.first] ∧
      Items.moved.1 = .ok () ∧
      ∃ target target', Items.resolution? Items.doubled.2 Items.missing = some (.single target) ∧
        Items.resolution? Items.moved.2 Items.missing = some (.single target') ∧
        Items.moved.2.built.placed target' ≠ Items.doubled.2.built.placed target) ∧
    (Rested Items.services Items.after ∧ Items.after.Unchanged [Items.second] ∧
      ((Build.update Items.services [Items.second] []).run Items.after .never).1 = .ok () ∧
      ∃ target message, Items.resolution? Items.after Items.second = some (.single target) ∧
        Items.resolution? ((Build.update Items.services [Items.second] []).run Items.after .never).2
          Items.second = some (.error message)) := by
  refine ⟨⟨Items.rested_doubled, by decide +kernel, by decide +kernel, ⟨Items.first, 1, ⟨1⟩⟩,
    ⟨Items.second, 1, ⟨1⟩⟩, by decide +kernel, by decide +kernel, ?_⟩,
    Items.rested_after, by decide +kernel, by decide +kernel, ⟨Items.first, 1, ⟨1⟩⟩,
    "Could not resolve reference to Item named 'a'.", by decide +kernel, by decide +kernel⟩
  intro hplaced
  exact absurd (congrArg Prod.fst hplaced) (by decide)

/-- If both files are touched, the reference leads to the first one as before, in
its new version. -/
theorem places_kept_both :
    Rested Items.services Items.doubled.2 ∧
    Items.doubled.2.Unchanged [Items.second, Items.first] ∧ Items.bothTouched.1 = .ok () ∧
    ∃ d d' tree reference target', Items.doubled.2.document? Items.missing = some d ∧
      Items.bothTouched.2.document? Items.missing = some d' ∧ d.tree? = some tree ∧
      tree.reference? ⟨0⟩ = some reference ∧
      d.resolution? ⟨0⟩ = some (.single ⟨Items.first, 1, ⟨1⟩⟩) ∧
      LinkContext.answer ⟨Items.services.linker, Items.doubled.2.index, d, tree⟩ reference =
        .single ⟨Items.first, 1, ⟨1⟩⟩ ∧
      d'.resolution? ⟨0⟩ = some (.single target') ∧ target'.version = 2 ∧
      Items.bothTouched.2.built.placed target' =
        Items.doubled.2.built.placed ⟨Items.first, 1, ⟨1⟩⟩ ∧
      Items.doubled.2.LinksAgain [Items.second, Items.first] d ∧
      ¬ Items.doubled.2.built.Overtaken Items.services.linker.types [Items.second, Items.first] d
        tree reference Items.first := by
  have hunchanged : Items.doubled.2.Unchanged [Items.second, Items.first] := by decide +kernel
  have hok : Items.bothTouched.1 = .ok () := by decide +kernel
  have hmeaning : Items.meaning? Items.doubled.2 Items.missing =
      some (.single ⟨Items.first, 1, ⟨1⟩⟩) := by decide +kernel
  have hbefore : Items.resolution? Items.doubled.2 Items.missing =
      some (.single ⟨Items.first, 1, ⟨1⟩⟩) := by decide +kernel
  have hafter : Items.resolution? Items.bothTouched.2 Items.missing =
      some (.single ⟨Items.first, 2, ⟨1⟩⟩) := by decide +kernel
  have hagain : (Items.doubled.2.document? Items.missing).any (fun d =>
      decide (Items.doubled.2.LinksAgain [Items.second, Items.first] d)) = true := by decide +kernel
  obtain ⟨hrequeued, hall⟩ := Rested.places_kept Items.asking Items.rested_doubled hunchanged
    (run_of_fst (by rw [Items.bothTouched]) hok)
  obtain ⟨d, tree, reference, hd, htree, hreference, hanswer⟩ := Items.meaning?_eq_some hmeaning
  obtain ⟨d', tree', hd', htree', -, -, hreferences⟩ := hall Items.missing d hd
  obtain rfl : tree = tree' := Option.some.inj (htree.symm.trans htree')
  rw [Items.resolution?, hd, Option.bind_some] at hbefore
  rw [Items.resolution?, hd', Option.bind_some] at hafter
  rw [hd, Option.any_some, decide_eq_true_eq] at hagain
  obtain ⟨resolution', hresolution', hretained⟩ :=
    (hreferences ⟨0⟩ reference hreference).2 _ hbefore hanswer.symm
  obtain rfl := Option.some.inj (hafter.symm.trans hresolution')
  cases hretained with
  | single hiff =>
    have hplaced : Items.bothTouched.2.built.placed ⟨Items.first, 2, ⟨1⟩⟩ =
        Items.doubled.2.built.placed ⟨Items.first, 1, ⟨1⟩⟩ := by
      rw [hrequeued.renewed.placed_eq]
      exact Built.placed_congr _ rfl rfl
    exact ⟨Items.rested_doubled, hunchanged, hok, d, d', tree, reference, _, hd, hd', htree,
      hreference, hbefore, hanswer, hafter, rfl, hplaced, hagain,
      fun hover => hiff.mp hplaced ⟨hagain, hover⟩⟩

end Workspace
end Workbench
