import Workbench.Proofs.Workspace.Attained
/-!
# The index follows the states

The index has exports of a document from the phase on that puts them there,
and until the document is moved back before it. This holds at every point of a
build, whatever services and listeners do: a computation of exports that
breaks down leaves a document with none, and one that is cancelled leaves
the document where it was.
-/

namespace Workbench

/-- Whether the exports of a document are in the index. -/
def Document.isIndexed (d : Document) : Bool := .indexedContent ≤ d.state

/-- **The index has exports of the documents that are indexed**, and of no
others. -/
def Workspace.Indexed (w : Workspace) : Prop :=
  ∀ v, (w.index.exports.get? v).isSome = (w.document? v).any Document.isIndexed

variable {services : Services}

/-- What comes behind being indexed comes behind it or is it. -/
theorem DocumentState.indexedContent_lt {t : DocumentState} (h : .indexedContent ≤ t)
    (hne : t ≠ .indexedContent) : .indexedContent < t := by
  revert h hne
  cases t <;> decide

namespace Document

variable {d d' : Document} {t : DocumentState}

theorem isIndexed_of_state (h : d'.state = d.state) : d'.isIndexed = d.isIndexed := by
  rw [isIndexed, isIndexed, h]

theorem isIndexed_of_changed (h : d.state = .changed) : d.isIndexed = false := by
  rw [isIndexed, h]
  rfl

/-- Moving a document back keeps it indexed only if the phase stays done. -/
theorem isIndexed_resetTo (d : Document) (t : DocumentState) :
    (d.resetTo t).isIndexed = (d.isIndexed && decide (.indexedContent ≤ t)) := by
  rw [isIndexed, isIndexed, ← Bool.decide_and]
  exact decide_eq_decide.mpr DocumentState.le_min_iff

end Document

namespace Workspace

variable {w w' : Workspace} {uri : Uri}

/-! ## Taking in files -/

theorem indexed_ofFiles (files : FileSystem) : (ofFiles files).Indexed := fun _ => rfl

/-- A workspace stays so in which one uri has changed. -/
theorem Indexed.of_others (h : w.Indexed) (uri : Uri)
    (hothers : ∀ v ≠ uri, w'.document? v = w.document? v ∧
      w'.index.exports.get? v = w.index.exports.get? v)
    (hhere : (w'.index.exports.get? uri).isSome = (w'.document? uri).any Document.isIndexed) :
    w'.Indexed := by
  intro v
  by_cases hv : v = uri
  · rw [hv, hhere]
  · rw [(hothers v hv).1, (hothers v hv).2]
    exact h v

namespace Indexed

theorem drop (h : w.Indexed) (uri : Uri) : (w.drop uri).Indexed := by
  refine h.of_others uri (fun v hv => ?_) ?_
  · have huntouched := untouched_drop w hv
    exact ⟨huntouched.document, huntouched.exports⟩
  · have hgone : (w.drop uri).index.exports.get? uri = none :=
      (w.index.get?_removeContent uri uri).trans (if_pos rfl)
    rw [hgone, document?_drop, if_pos rfl]
    rfl

/-- A document that is not there has no exports. -/
theorem get?_of_new (h : w.Indexed) (hnew : w.documents.contains uri = false) :
    w.index.exports.get? uri = none := by
  have hnone : w.document? uri = none := by
    refine Option.eq_none_iff_forall_ne_some.mpr fun d hd => ?_
    rw [OrderedMap.contains_iff.mpr ⟨d, hd⟩] at hnew
    cases hnew
  have hhere := h uri
  rw [hnone] at hhere
  exact Option.isNone_iff_eq_none.mp (Option.isSome_eq_false_iff.mp hhere)

theorem take (h : w.Indexed) (htake : w.take uri = .ok w') : w'.Indexed := by
  refine h.of_others uri (fun v hv => ?_) ?_
  · have huntouched := untouched_take htake hv
    exact ⟨huntouched.document, huntouched.exports⟩
  · obtain ⟨text, -, hget⟩ := document?_take htake
    have hgone : w'.index.exports.get? uri = none := by
      obtain ⟨text', -, ⟨-, rfl⟩ | ⟨hnew, rfl⟩⟩ := take_cases htake
      · exact ((w.index.get?_resetTo uri uri .changed).1).trans (if_pos ⟨rfl, by decide⟩)
      · exact h.get?_of_new hnew
    rw [hgone, hget, if_pos rfl, Option.any_some,
      Document.isIndexed_of_changed (state_renewed w uri text)]
    rfl

theorem load (h : w.Indexed) (hload : w.load uri = .ok w') : w'.Indexed := by
  rcases load_cases hload with ⟨-, rfl⟩ | ⟨hnew, text, -, rfl⟩
  · exact h
  · have hget : ∀ v, (w.setDocument (.ofText uri text)).document? v =
        if v = uri then some (.ofText uri text) else w.document? v :=
      fun v => OrderedMap.get?_insert _ _ _ _
    refine h.of_others uri (fun v hv => ⟨by rw [hget, if_neg hv], rfl⟩) ?_
    rw [hget, if_pos rfl]
    exact (congrArg Option.isSome (h.get?_of_new hnew)).trans rfl

theorem resetTo (h : w.Indexed) (uri : Uri) (t : DocumentState) : (w.resetTo uri t).Indexed := by
  intro v
  have hexports : (w.resetTo uri t).index.exports.get? v =
      if v = uri ∧ t ≤ .parsed then none else w.index.exports.get? v :=
    (w.index.get?_resetTo uri v t).1
  rw [hexports, document?_resetTo]
  by_cases hv : v = uri
  · subst hv
    rw [if_pos rfl]
    have hany : ((w.document? v).map (·.resetTo t)).any Document.isIndexed =
        ((w.document? v).any Document.isIndexed && decide (.indexedContent ≤ t)) := by
      cases w.document? v with
      | none => rfl
      | some d => exact d.isIndexed_resetTo t
    rw [hany, ← h v]
    by_cases ht : t ≤ .parsed
    · have hnot : ¬ DocumentState.indexedContent ≤ t := fun hle => absurd (Nat.le_trans hle ht)
        (by decide)
      rw [if_pos ⟨rfl, ht⟩, decide_eq_false hnot, Bool.and_false]
      rfl
    · have hle : DocumentState.indexedContent ≤ t := Nat.lt_of_not_le ht
      rw [if_neg fun hand => ht hand.2, decide_eq_true hle, Bool.and_true]
  · rw [if_neg hv, if_neg fun hand => hv hand.1]
    exact h v

theorem opened (h : w.Indexed) (folders : List Uri) : (w.opened services folders).Indexed :=
  attemptAll_invariant (P := Indexed) (fun _ _ _ hw => hw.load) h _

theorem taken (h : w.Indexed) (changed deleted : List Uri) :
    (w.taken changed deleted).2.Indexed :=
  attemptAll_invariant (P := Indexed) (fun _ _ _ hw => hw.take)
    (foldl_invariant (P := Indexed) (fun _ uri hw => hw.drop uri) h deleted) changed

theorem prepared (h : w.Indexed) (changed deleted : List Uri) :
    (w.prepared changed deleted).Indexed := by
  rw [Workspace.prepared]
  split
  · refine foldl_invariant (P := Indexed) (fun w' d hw => ?_) (h.taken changed deleted) _
    split
    · exact hw
    · split
      · exact hw.resetTo d.uri .computedScopes
      · exact hw
  · exact h.taken changed deleted

/-! ## Builds -/

/-- Other documents and the same index leave it so if each document is indexed as
before. -/
theorem of_documents (h : w.Indexed) (hindex : w'.index.exports = w.index.exports)
    (hdocuments : ∀ v, (w'.document? v).any Document.isIndexed =
      (w.document? v).any Document.isIndexed) : w'.Indexed := by
  intro v
  rw [hindex, hdocuments]
  exact h v

/-- **A document that a phase has taken on** is indexed as its new state says: its
exports were put in by the phase that does that, or else they stayed as they
were. -/
theorem taken_on {d d' : Document} {t : DocumentState} (h : w.Indexed)
    (hd : w.document? uri = some d) (hle : d.state ≤ t)
    (hafter : .indexedContent < t → .indexedContent ≤ d.state) (hstate : d'.state = t)
    (hdocument : ∀ v, w'.document? v = if v = uri then some d' else w.document? v)
    (hexports : if t = .indexedContent then ∃ symbols,
        w'.index.exports = w.index.exports.insert uri symbols
      else w'.index.exports = w.index.exports) : w'.Indexed := by
  refine h.of_others uri (fun v hv => ⟨(hdocument v).trans (if_neg hv), ?_⟩) ?_
  · split at hexports
    · obtain ⟨symbols, hsymbols⟩ := hexports
      rw [hsymbols, OrderedMap.get?_insert_of_ne _ _ hv]
    · rw [hexports]
  · rw [hdocument, if_pos rfl, Option.any_some, Document.isIndexed, hstate]
    split at hexports
    next htarget =>
      obtain ⟨symbols, hsymbols⟩ := hexports
      rw [hsymbols, OrderedMap.get?_insert_self, htarget]
      rfl
    next htarget =>
      rw [hexports, h uri, hd, Option.any_some, Document.isIndexed]
      refine decide_eq_decide.mpr ⟨fun hbefore => Nat.le_trans hbefore hle, fun hthere => ?_⟩
      exact hafter (DocumentState.indexedContent_lt hthere htarget)

end Indexed

/-- Maps with the same documents in the same states have the same ones
indexed. -/
theorem any_isIndexed_congr {m m' : OrderedMap Uri Document} (hkeys : m'.keys = m.keys) {v : Uri}
    (hstate : ∀ d', m'.get? v = some d' → ∃ d, m.get? v = some d ∧ d'.state = d.state) :
    (m'.get? v).any Document.isIndexed = (m.get? v).any Document.isIndexed := by
  cases hd' : m'.get? v with
  | none =>
    have hnot : v ∉ m.keys := by
      rw [← hkeys]
      exact OrderedMap.get?_eq_none_iff.mp hd'
    rw [OrderedMap.get?_eq_none_iff.mpr hnot]
  | some d' =>
    obtain ⟨d, hd, hsame⟩ := hstate d' hd'
    rw [hd]
    exact Document.isIndexed_of_state hsame

/-- Listeners leave the documents indexed that are. -/
theorem Alike.any_isIndexed (h : w.Alike w') (v : Uri) :
    (w'.document? v).any Document.isIndexed = (w.document? v).any Document.isIndexed := by
  refine any_isIndexed_congr h.keys fun d' hd' => ?_
  obtain ⟨d, links, hd, rfl⟩ := h.document v d' hd'
  exact ⟨d, hd, rfl⟩

end Workspace

namespace Build

variable {s s' : BuildState} {r : Except Stop Unit} {d : Document} {uri : Uri} {uris : List Uri}
  {t : DocumentState}

/-- **What a phase that comes through does to the exports in the index.** -/
theorem exports_advance (hd : s.workspace.document? uri = some d)
    (h : advance services t uri s = (.ok (), s')) :
    if t = .indexedContent then ∃ symbols,
        s'.workspace.index.exports = s.workspace.index.exports.insert d.uri symbols
      else s'.workspace.index.exports = s.workspace.index.exports := by
  rw [advance, get_bind_run, hd] at h
  cases t with
  | changed =>
    cases h
    rfl
  | parsed =>
    dsimp only at h
    rw [parsePhase, get_bind_run] at h
    cases hp : services.parser.parse d.text none s.interrupt <;> rw [hp] at h <;> cases h
    rfl
  | indexedContent =>
    dsimp only at h
    rw [indexPhase, get_bind_run] at h
    rw [if_pos rfl]
    cases hs : services.scopes.exports d s.interrupt <;> rw [hs] at h <;> cases h
    · exact ⟨_, rfl⟩
    · exact ⟨_, rfl⟩
  | computedScopes =>
    dsimp only at h
    rw [scopePhase, get_bind_run] at h
    cases hs : services.scopes.localScopes d s.interrupt <;> rw [hs] at h <;> cases h
    · rfl
    · rfl
  | linked =>
    dsimp only at h
    rw [linkPhase, get_bind_run] at h
    rcases services.linker.link_cases s.workspace.index d s.interrupt with
      ⟨hc, -⟩ | ⟨left, hdone, -⟩
    · rw [hc] at h
      cases h
    · rw [hdone] at h
      cases h
      exact Index.exports_updateReferences _ _
  | validated =>
    dsimp only at h
    rw [validatePhase, get_bind_run] at h
    rcases d.validate_cases services.checks services.linker s.workspace.index s.interrupt with
      ⟨links, hc, -, -⟩ | ⟨left, hdone, -⟩
    · rw [hc] at h
      cases h
    · rw [hdone] at h
      cases h
      rfl

/-- **One document of a stage.** It has to be indexed already if the stage comes
after that. -/
theorem indexed_advance (ht : t ≠ .changed) (hk : s.built.Keyed)
    (hready : t ≠ .parsed → ∀ d, s.workspace.document? uri = some d → .parsed ≤ d.state)
    (hle : ∀ d, s.workspace.document? uri = some d → d.state ≤ t)
    (hafter : .indexedContent < t → ∀ d, s.workspace.document? uri = some d →
      .indexedContent ≤ d.state)
    (hindexed : s.workspace.Indexed)
    (h : (do checkpoint; advance services t uri : Build Unit) s = (r, s')) :
    s'.workspace.Indexed := by
  rcases bind_cases h with ⟨_, s₁, hcheck, hadv⟩ | ⟨e, hcheck, rfl⟩
  · obtain ⟨-, hw, -⟩ := checkpoint_cases hcheck
    rw [← hw] at hready hle hafter hindexed
    rw [BuildState.built, ← hw] at hk
    cases hd : s₁.workspace.document? uri with
    | none =>
      rw [advance, get_bind_run, hd] at hadv
      cases hadv
      exact hindexed
    | some d =>
      obtain rfl : d.uri = uri := hk uri d hd
      cases advance_ends ht hd (fun hne => hready hne d hd) (hle d hd) hadv with
      | @done d' index left hcourse hstate =>
        refine hindexed.taken_on hd (hle d hd) (fun hlt => hafter hlt d hd) hstate (fun v => ?_)
          (exports_advance hd hadv)
        rw [← hcourse.uri]
        exact OrderedMap.get?_insert _ _ _ _
      | cut => exact hindexed.of_documents rfl (Workspace.Alike.setDocument hk hd _).any_isIndexed
      | stopped => exact hindexed
  · obtain ⟨-, hw, -⟩ := checkpoint_cases hcheck
    rw [hw]
    exact hindexed

/-- **The documents of a stage, one after the other.** -/
theorem indexed_each_advance (ht : t ≠ .changed) (hk : s.built.Keyed)
    (hready : t ≠ .parsed → ∀ uri ∈ uris, ∀ d, s.workspace.document? uri = some d →
      .parsed ≤ d.state)
    (hle : ∀ uri ∈ uris, ∀ d, s.workspace.document? uri = some d → d.state ≤ t)
    (hafter : .indexedContent < t → ∀ uri ∈ uris, ∀ d, s.workspace.document? uri = some d →
      .indexedContent ≤ d.state)
    (hindexed : s.workspace.Indexed)
    (h : each (fun uri => do checkpoint; advance services t uri) uris s = (r, s')) :
    s'.workspace.Indexed := by
  induction uris generalizing s with
  | nil =>
    cases h
    exact hindexed
  | cons u rest ih =>
    have hready₁ : t ≠ .parsed → ∀ d, s.workspace.document? u = some d → .parsed ≤ d.state :=
      fun hne => hready hne u List.mem_cons_self
    have hle₁ := hle u List.mem_cons_self
    have hafter₁ : .indexedContent < t → ∀ d, s.workspace.document? u = some d →
        .indexedContent ≤ d.state := fun hlt => hafter hlt u List.mem_cons_self
    rw [each] at h
    rcases bind_cases h with ⟨_, s₁, hone, hrest⟩ | ⟨e, hone, rfl⟩
    · obtain ⟨htoward, -, -⟩ := checkpoint_advance_toward ht hk hready₁ hle₁ hone
      have hin : ∀ uri ∈ rest, uri ∈ u :: rest := fun _ => List.mem_cons_of_mem _
      exact ih (htoward.course.keyed hk)
        (fun hne uri huri _ hd => htoward.le_state (hready hne uri (hin uri huri)) hd)
        (fun uri huri _ hd => htoward.state_le (hle uri (hin uri huri)) hd)
        (fun hlt uri huri _ hd => htoward.le_state (hafter hlt uri (hin uri huri)) hd)
        (indexed_advance ht hk hready₁ hle₁ hafter₁ hindexed hone) hrest
    · exact indexed_advance ht hk hready₁ hle₁ hafter₁ hindexed hone

/-! ## Listeners -/

theorem index_resolve (w : Workspace) (linker : Linker) (uri : Uri) (id : RefId) :
    (w.resolve linker uri id).2.index = w.index := by
  rw [Workspace.resolve]
  cases w.document? uri <;> rfl

theorem index_resolveFirst (h : resolveFirst services uris s = (r, s')) :
    s'.workspace.index = s.workspace.index := by
  rw [resolveFirst, change_run] at h
  cases h
  dsimp only
  cases uris.head?.bind s.workspace.document? with
  | none => rfl
  | some d =>
    dsimp only
    have hindex := index_resolve s.workspace services.linker d.uri ⟨0⟩
    cases hres : s.workspace.resolve services.linker d.uri ⟨0⟩ with
    | mk outcome w =>
      rw [hres] at hindex
      cases d.links.isEmpty <;> cases outcome <;> first | rfl | exact hindex

theorem index_tell {action : ListenerAction} (h : tell services t uris action s = (r, s')) :
    s'.workspace.index = s.workspace.index := by
  unfold tell at h
  rcases bind_cases h with ⟨_, s₁, hcheck, hrest⟩ | ⟨e, hcheck, rfl⟩
  · obtain ⟨-, hw, -⟩ := checkpoint_cases hcheck
    rw [← hw]
    rw [change_bind_run] at hrest
    cases action with
    | resolveFirst =>
      have hindex := index_resolveFirst (s := ⟨_, s₁.interrupt⟩) hrest
      exact hindex
    | _ =>
      cases hrest
      rfl
  · obtain ⟨-, hw, -⟩ := checkpoint_cases hcheck
    rw [hw]

/-- Listeners leave the index alone. -/
theorem index_notify (h : notify services t uris s = (r, s')) :
    s'.workspace.index = s.workspace.index := by
  rw [notify, get_bind_run] at h
  generalize s.workspace.listeners.ofPhases.filter (·.2.1 == t) = listeners at h
  induction listeners generalizing s with
  | nil =>
    cases h
    rfl
  | cons l rest ih =>
    rw [each] at h
    rcases bind_cases h with ⟨_, s₁, htell, hrest⟩ | ⟨e, htell, rfl⟩
    · rw [ih hrest, index_tell htell]
    · exact index_tell htell

/-! ## Stages -/

/-- What a stage is for is indexed, if it comes after that and no indexing is
left. -/
theorem indexed_of_todo (hnil : .indexedContent < t → s.built.todo .indexedContent uris = []) :
    .indexedContent < t → ∀ uri ∈ s.built.todo t uris, ∀ d, s.workspace.document? uri = some d →
      .indexedContent ≤ d.state := by
  intro hlt uri huri d hd
  have hnot := Built.todo_eq_nil_iff.mp (hnil hlt) uri (Built.mem_todo.mp huri).1 d hd
  refine Nat.le_of_not_lt fun hbelow => ?_
  rw [Document.awaits_iff.mpr ⟨hbelow, nofun⟩] at hnot
  cases hnot

theorem indexed_runStage (hk : s.built.Keyed) (ht : t ≠ .changed)
    (hready : t ≠ .parsed → s.built.todo .parsed uris = [])
    (hnil : .indexedContent < t → s.built.todo .indexedContent uris = [])
    (hindexed : s.workspace.Indexed) (h : runStage services uris t s = (r, s')) :
    s'.workspace.Indexed := by
  rw [runStage, get_bind_run] at h
  by_cases hempty : (s.built.todo t uris).isEmpty
  · rw [if_pos hempty] at h
    cases h
    exact hindexed
  · rw [if_neg hempty] at h
    rcases bind_cases h with ⟨_, s₁, hadvance, hnotify⟩ | ⟨e, hadvance, rfl⟩
    · have hindexed₁ := indexed_each_advance ht hk (parsed_of_todo hready) le_of_todo
        (indexed_of_todo hnil) hindexed hadvance
      obtain ⟨htoward, -, -⟩ :=
        each_advance_toward ht hk (parsed_of_todo hready) le_of_todo hadvance
      obtain ⟨halike, -⟩ := notify_heard (htoward.course.keyed hk) hnotify
      exact hindexed₁.of_documents (congrArg Index.exports (index_notify hnotify))
        halike.any_isIndexed
    · exact indexed_each_advance ht hk (parsed_of_todo hready) le_of_todo (indexed_of_todo hnil)
        hindexed hadvance

/-- **Some stages of a build, one after the other**, behind those that are
done. -/
theorem indexed_each_stage (hk : s.built.Keyed) {done rest later : List DocumentState}
    (hsplit : Built.stages = done ++ (rest ++ later))
    (hdone : ∀ t ∈ done, s.built.todo t uris = [])
    (hindexed : s.workspace.Indexed) (h : each (runStage services uris) rest s = (r, s')) :
    s'.workspace.Indexed := by
  induction rest generalizing done s with
  | nil =>
    cases h
    exact hindexed
  | cons t rest ih =>
    have ht := Built.ne_changed_of_mem_stages (Built.mem_stages_of_eq hsplit)
    have hready := Built.parsed_nil_of_done hsplit hdone
    have hnil : .indexedContent < t → s.built.todo .indexedContent uris = [] :=
      Built.todo_nil_of_done hsplit hdone .indexedContent (by decide)
    rw [each] at h
    rcases bind_cases h with ⟨_, s₁, hstage, hrest⟩ | ⟨e, hstage, rfl⟩
    · have hout := runStage_outcome hk ht hready hstage
      have hsplit' : Built.stages = (done ++ [t]) ++ (rest ++ later) := by
        rw [hsplit, List.append_assoc]
        rfl
      refine ih (hout.course.keyed hk) hsplit' (fun t' ht' => ?_)
        (indexed_runStage hk ht hready hnil hindexed hstage) hrest
      rcases List.mem_append.mp ht' with hin | hin
      · exact hout.course.todo_eq_nil (hdone t' hin)
      · exact hout.finished rfl t' hin
    · exact indexed_runStage hk ht hready hnil hindexed hstage

/-- Marks leave the documents indexed that are. -/
theorem indexed_withDocuments {b : Built} (hindexed : s.workspace.Indexed)
    (h : s.built.Remarked b) : (s.withDocuments b.documents).workspace.Indexed := by
  refine hindexed.of_documents rfl fun v => ?_
  refine Workspace.any_isIndexed_congr h.keys fun d' hd' => ?_
  obtain ⟨d, hd, heq⟩ := h.document v d' hd'
  exact ⟨d, hd, by rw [heq]⟩

theorem indexed_documents {options : ValidationMode} (hk : s.built.Keyed)
    (hindexed : s.workspace.Indexed) (h : documents services uris options s = (r, s')) :
    s'.workspace.Indexed := by
  rw [documents_eq] at h
  have hmarked := indexed_withDocuments hindexed (s.built.remarked_mark options uris)
  cases hrun : each (runStage services uris) Built.stages
      (s.withDocuments (s.built.mark options uris).documents) with
  | mk o s₁ =>
    have hkeyed : (s.withDocuments (s.built.mark options uris).documents).built.Keyed :=
      hk.mark options
    have hsplit : Built.stages = [] ++ (Built.stages ++ []) := rfl
    have hindexed₁ := indexed_each_stage hkeyed hsplit nofun hmarked hrun
    rw [hrun] at h
    cases o with
    | error e =>
      cases h
      exact hindexed₁
    | ok _ =>
      cases h
      exact indexed_withDocuments hindexed₁ (s₁.built.remarked_clear uris)

end Build

/-! ## Runs -/

namespace Call

/-- What a call builds, and from where on. -/
structure Start where
  uris : List Uri
  options : ValidationMode
  state : BuildState

/-- **Where a call begins to build**, unless it is stopped before: a load behind
its files, an update behind its batch and the first point at which it can be
cancelled. -/
def start? (services : Services) (call : Call) (w : Workspace) (interrupt : Interrupt) :
    Option Start :=
  match call with
  | load folders => do
    let uris ← w.collected services folders
    match w.attemptAll Workspace.load uris with
    | (none, w) => some ⟨uris, services.initialBuild, ⟨w, interrupt⟩⟩
    | (some _, _) => none
  | update changed deleted =>
    if w.Reads changed then
      let begun := w.prepared changed deleted
      interrupt.check.map fun left =>
        ⟨begun.built.awaiting, services.updateBuild, ⟨Build.told begun changed deleted, left⟩⟩
    else none

variable {w w' : Workspace} {call : Call} {interrupt : Interrupt} {r : Except Stop Unit}

theorem built_start {start : Start} (h : call.start? services w interrupt = some start) :
    start.state.built = (call.begun services w).built := by
  cases call with
  | load folders =>
    obtain ⟨uris, hcollected, h⟩ := Option.bind_eq_some_iff.mp h
    rw [begun, Workspace.opened, hcollected, Option.getD_some]
    split at h
    next w₁ hloaded =>
      cases h
      rw [hloaded]
    next => cases h
  | update changed deleted =>
    rw [start?] at h
    rw [begun]
    split at h
    next hreads =>
      obtain ⟨left, -, rfl⟩ := Option.map_eq_some_iff.mp h
      rw [if_pos hreads]
      exact (Build.built_told _ changed deleted).1
    next => cases h

/-- **A call builds from where it begins to**, or is stopped before. -/
theorem run_cases (hrun : call.run services w interrupt = (r, w')) :
    (call.start? services w interrupt = none ∧ r ≠ .ok () ∧
        w'.built = (call.begun services w).built) ∨
      ∃ start s', call.start? services w interrupt = some start ∧
        Build.documents services start.uris start.options start.state = (r, s') ∧
        s'.workspace = w' := by
  cases call with
  | load folders =>
    cases hload : (Build.loadFolders services folders).run w interrupt with
    | mk r₀ w₀ =>
      rw [run, hload] at hrun
      cases hrun
      obtain ⟨s', hload', rfl⟩ := Build.run_cases hload
      rw [Build.loadFolders, Build.bind_run, Build.collect_eq] at hload'
      rw [start?, begun, Workspace.opened]
      dsimp only at hload'
      cases hcollected : w.collected services folders with
      | none =>
        rw [hcollected] at hload'
        cases hload'
        exact Or.inl ⟨rfl, by simp [Except.map], rfl⟩
      | some uris =>
        rw [hcollected] at hload'
        dsimp only at hload'
        rw [Build.bind_run, Build.each_attempt] at hload'
        rw [Option.getD_some, Option.bind_eq_bind, Option.bind_some]
        dsimp only at hload'
        cases hloaded : w.attemptAll Workspace.load uris with
        | mk e w₁ =>
          rw [hloaded] at hload'
          cases e with
          | some e =>
            cases hload'
            exact Or.inl ⟨rfl, by simp [Except.map], rfl⟩
          | none =>
            refine Or.inr ⟨_, s', rfl, ?_, rfl⟩
            rcases Build.bind_cases hload' with ⟨_, s₁, hdocuments, hrest⟩ | ⟨e, hdocuments, rfl⟩
            · cases hrest
              exact hdocuments
            · exact hdocuments
  | update changed deleted =>
    obtain ⟨s', hupdate', rfl⟩ := Build.run_cases hrun
    have hupdate : Build.update services changed deleted ⟨w, interrupt⟩ = (r, s') := hupdate'
    rw [start?, begun]
    by_cases hreads : w.Reads changed
    · rw [if_pos hreads, if_pos hreads]
      rw [Build.update_eq, (Workspace.taken_eq_none_iff _ _ deleted).mpr hreads, Build.bind_run,
        Build.checkpoint_run] at hupdate
      dsimp only at hupdate ⊢
      cases hcheck : interrupt.check with
      | none =>
        rw [hcheck] at hupdate
        cases hupdate
        exact Or.inl ⟨rfl, by simp, (Build.built_told _ changed deleted).1⟩
      | some left =>
        rw [hcheck] at hupdate
        dsimp only at hupdate
        rw [Build.get_bind_run] at hupdate
        refine Or.inr ⟨_, s', rfl, ?_, rfl⟩
        rw [← (Build.built_told (w.prepared changed deleted) changed deleted).1]
        exact hupdate
    · rw [if_neg hreads, if_neg hreads]
      obtain ⟨hr, hw⟩ := Workspace.update_unread (s := ⟨w, interrupt⟩) hreads hupdate
      exact Or.inl ⟨rfl, hr, congrArg Workspace.built hw⟩

theorem indexed_begun (h : w.Indexed) (call : Call) : (call.begun services w).Indexed := by
  cases call with
  | load folders => exact h.opened folders
  | update changed deleted =>
    rw [begun]
    split
    · exact h.prepared changed deleted
    · exact h.taken changed deleted

theorem indexed_of_built {w w' : Workspace} (h : w.Indexed) (hbuilt : w'.built = w.built) :
    w'.Indexed := by
  intro v
  have hdocuments : w'.documents = w.documents := congrArg Built.documents hbuilt
  have hindex : w'.index = w.index := congrArg Built.index hbuilt
  rw [hindex, Workspace.document?, hdocuments]
  exact h v

theorem indexed_run (hproper : w.Proper services) (h : w.Indexed)
    (hrun : call.run services w interrupt = (r, w')) : w'.Indexed := by
  have hbegun : (call.begun services w).Indexed := indexed_begun h call
  rcases run_cases hrun with ⟨-, -, hbuilt⟩ | ⟨start, s', hstart, hdocuments, rfl⟩
  · exact indexed_of_built hbegun hbuilt
  · have hbuilt := built_start hstart
    refine Build.indexed_documents ?_ (indexed_of_built hbegun hbuilt) hdocuments
    rw [hbuilt]
    exact (proper_begun hproper call).keyed

end Call

/-- **In every workspace that is attained the index follows the states.** -/
theorem Workspace.Attained.indexed {w : Workspace} (h : Attained services w) : w.Indexed := by
  induction h with
  | start files => exact indexed_ofFiles files
  | edit files _ ih => exact ih
  | listen listeners _ ih => exact ih
  | call hbefore hrun ih => exact Call.indexed_run hbefore.proper ih hrun

end Workbench
