import Workbench.Proofs.Workspace.Course
import Workbench.Proofs.Workspace.Settled
/-!
# Workspaces of any services and listeners

A load or an update takes in files and then builds. `Build.Result` says what
its build leaves of the workspace it began with, however it ends and whatever
it calls. Runs of loads and updates attain workspaces in which each document
has its own entry and, once it counts as parsed, the parse of its text.
-/

namespace Workbench

variable {services : Services}

theorem Document.Course.rebuild {d d' : Document} (h : d.Course services d')
    (build : Option ValidationMode) :
    { d with build := build }.Course services { d' with build := build } :=
  ⟨h.uri, h.text, rfl, h.onward, h.parsed⟩

namespace Build

variable {s s' : BuildState} {r : Except Stop Unit} {uris : List Uri} {options : ValidationMode}
  {p q w' : Workspace}

/-! ## Builds -/

/-- **What a build leaves of a workspace**, when it ends or is stopped. -/
structure Result (services : Services) (uris : List Uri) (options : ValidationMode) (p : Workspace)
    (r : Except Stop Unit) (w' : Workspace) : Prop where
  files : w'.files = p.files
  listeners : w'.listeners = p.listeners
  keys : w'.documents.keys = p.documents.keys
  /-- A document goes on to a phase if that was for it. -/
  document : ∀ uri d', w'.document? uri = some d' → ∃ d, p.document? uri = some d ∧
    { d with build := d'.build }.Course services d' ∧
    (d'.state = d.state ∨ uri ∈ (p.built.mark options uris).todo d'.state uris)
  /-- The listeners of a phase are told of the documents that it is for, all
  of them unless the build is stopped before any document goes further. -/
  told : ∀ t ∈ Built.stages, ∃ lists,
    lists <+: (p.built.mark options uris).news p.listeners uris t ∧
    w'.heard t = p.heard t ++ lists ∧
    (lists = (p.built.mark options uris).news p.listeners uris t ∨
      r ≠ .ok () ∧ ∀ uri d', w'.document? uri = some d' → t < d'.state →
        ∃ d, p.document? uri = some d ∧ d'.state = d.state)
  /-- Other documents keep their marks. -/
  others : ∀ uri ∉ uris, ∀ d', w'.document? uri = some d' →
    ∃ d, p.document? uri = some d ∧ d'.build = d.build
  /-- A build that comes through leaves nothing to be done. -/
  finished : r = .ok () → ∀ uri ∈ uris, ∀ d', w'.document? uri = some d' →
    .linked ≤ d'.state ∧ d'.build = none

theorem Outcome.document {s₁ : BuildState}
    (h : Outcome services uris Built.stages
      (s.withDocuments (s.built.mark options uris).documents) r s₁) {uri : Uri} {d₁ : Document}
    (hd₁ : s₁.workspace.document? uri = some d₁) :
    ∃ d, s.workspace.document? uri = some d ∧ { d with build := d₁.build }.Course services d₁ ∧
      (d₁.state = d.state ∨ uri ∈ (s.built.mark options uris).todo d₁.state uris) ∧
      (uri ∉ uris → d₁.build = d.build) := by
  obtain ⟨d₀, hd₀, hcourse⟩ := h.course.document uri d₁ hd₁
  obtain ⟨d₀', hd₀', hmoved⟩ := h.moved uri d₁ hd₁
  obtain rfl : d₀' = d₀ := Option.some.inj (hd₀'.symm.trans hd₀)
  obtain ⟨d, hd, heq, -, hnot⟩ := Built.get?_mark_cases hd₀
  have hstate : d₀'.state = d.state := by rw [heq]
  refine ⟨d, hd, ?_, ?_, fun hout => ?_⟩
  · have hrebuilt := hcourse.rebuild d₁.build
    rw [heq] at hrebuilt
    exact hrebuilt
  · rw [← hstate]
    exact hmoved.imp_right And.right
  · rw [hcourse.build, hnot hout]

/-- A build that was stopped leaves what its stages have left. -/
theorem Outcome.result_of_stopped (hr : r ≠ .ok ())
    (hout : Outcome services uris Built.stages
      (s.withDocuments (s.built.mark options uris).documents) r s') :
    Result services uris options s.workspace r s'.workspace := by
  constructor
  case files => exact hout.course.files
  case listeners => exact hout.course.listeners
  case keys => exact hout.course.keys.trans Built.keys_modifyAll
  case document =>
    intro uri d' hd'
    obtain ⟨d, hd, hcourse, hmoved, -⟩ := hout.document hd'
    exact ⟨d, hd, hcourse, hmoved⟩
  case told =>
    intro t ht
    obtain ⟨lists, hprefix, hheard, hall⟩ := hout.told t ht
    refine ⟨lists, hprefix, hheard,
      hall.imp_right fun ⟨hr, hbeyond⟩ => ⟨hr, fun uri d' hd' hlt => ?_⟩⟩
    obtain ⟨d₀, hd₀, hsame⟩ := hbeyond uri d' hd' hlt
    obtain ⟨d, hd, heq, -⟩ := Built.get?_mark_cases hd₀
    exact ⟨d, hd, by rw [hsame, heq]⟩
  case others =>
    intro uri hnot d' hd'
    obtain ⟨d, hd, -, -, hbuild⟩ := hout.document hd'
    exact ⟨d, hd, hbuild hnot⟩
  case finished => exact fun hok => absurd hok hr

/-- A build that goes through clears the marks, and does nothing else after its
last stage. -/
theorem Outcome.result_of_ok {s₁ : BuildState}
    (hout : Outcome services uris Built.stages
      (s.withDocuments (s.built.mark options uris).documents) (.ok ()) s₁) :
    Result services uris options s.workspace (.ok ())
      (s₁.withDocuments (s₁.built.clear uris).documents).workspace := by
  have hclear : ∀ uri d',
      (s₁.withDocuments (s₁.built.clear uris).documents).workspace.document? uri = some d' →
      ∃ d, s₁.workspace.document? uri = some d ∧ d' = { d with build := d'.build } ∧
        (uri ∈ uris → d'.build = none) ∧ (uri ∉ uris → d' = d) :=
    fun uri d' hd' => Built.get?_clear_cases hd'
  constructor
  case files => exact hout.course.files
  case listeners => exact hout.course.listeners
  case keys =>
    exact Built.keys_modifyAll.trans (hout.course.keys.trans Built.keys_modifyAll)
  case document =>
    intro uri d' hd'
    obtain ⟨d₁, hd₁, heq, -⟩ := hclear uri d' hd'
    obtain ⟨d, hd, hcourse, hmoved, -⟩ := hout.document hd₁
    have hrebuilt := hcourse.rebuild d'.build
    rw [← heq] at hrebuilt
    have hstate : d'.state = d₁.state := by rw [heq]
    rw [← hstate] at hmoved
    exact ⟨d, hd, hrebuilt, hmoved⟩
  case told =>
    intro t ht
    obtain ⟨lists, hprefix, hheard, hall⟩ := hout.told t ht
    exact ⟨lists, hprefix, hheard, Or.inl (hall.resolve_right fun hno => hno.1 rfl)⟩
  case others =>
    intro uri hnot d' hd'
    obtain ⟨d₁, hd₁, -, -, hsame⟩ := hclear uri d' hd'
    obtain ⟨d, hd, -, -, hbuild⟩ := hout.document hd₁
    rw [hsame hnot]
    exact ⟨d, hd, hbuild hnot⟩
  case finished =>
    intro _ uri huri d' hd'
    obtain ⟨d₁, hd₁, heq, hbuild, -⟩ := hclear uri d' hd'
    have hdone := Built.todo_eq_nil_iff.mp (hout.finished rfl .linked (by decide)) uri huri d₁ hd₁
    refine ⟨Nat.le_of_not_lt fun hlt => ?_, hbuild huri⟩
    have hstate : d'.state = d₁.state := by rw [heq]
    rw [hstate] at hlt
    rw [Document.awaits_iff.mpr ⟨hlt, nofun⟩] at hdone
    cases hdone

/-- **What a build leaves**, whatever it calls. -/
theorem documents_result (hk : s.built.Keyed)
    (h : documents services uris options s = (r, s')) :
    Result services uris options s.workspace r s'.workspace := by
  obtain ⟨s₁, hout, hend⟩ := documents_outcome hk h
  rcases hend with ⟨rfl, rfl⟩ | ⟨hr, rfl⟩
  · exact hout.result_of_ok
  · exact hout.result_of_stopped hr

/-- What a build leaves of a workspace it leaves of one that has the same
documents and listeners. -/
theorem Result.of_built (hb : q.built = p.built) (hkept : p.Kept q)
    (hheard : ∀ t, q.heard t = p.heard t) (h : Result services uris options q r w') :
    Result services uris options p r w' := by
  have hdocuments : q.documents = p.documents := congrArg Built.documents hb
  have hget : ∀ uri, q.document? uri = p.document? uri := fun uri => by
    rw [Workspace.document?, hdocuments]
    rfl
  constructor
  case files => exact h.files.trans hkept.files
  case listeners => exact h.listeners.trans hkept.listeners
  case keys =>
    rw [h.keys, hdocuments]
  case document =>
    intro uri d' hd'
    obtain ⟨d, hd, hrest⟩ := h.document uri d' hd'
    rw [hb] at hrest
    exact ⟨d, (hget uri).symm.trans hd, hrest⟩
  case told =>
    intro t ht
    obtain ⟨lists, hprefix, hlists, hall⟩ := h.told t ht
    rw [hb, hkept.listeners] at hprefix hall
    rw [hheard] at hlists
    refine ⟨lists, hprefix, hlists,
      hall.imp_right fun ⟨hr, hbeyond⟩ => ⟨hr, fun uri d' hd' hlt => ?_⟩⟩
    obtain ⟨d, hd, hsame⟩ := hbeyond uri d' hd' hlt
    exact ⟨d, (hget uri).symm.trans hd, hsame⟩
  case others =>
    intro uri hnot d' hd'
    obtain ⟨d, hd, hbuild⟩ := h.others uri hnot d' hd'
    exact ⟨d, (hget uri).symm.trans hd, hbuild⟩
  case finished => exact h.finished

/-- A build that was cancelled before it began. -/
theorem Result.early {stop : Stop} (hb : w'.built = p.built) (hkept : p.Kept w')
    (hheard : ∀ t, w'.heard t = p.heard t) :
    Result services uris options p (.error stop) w' := by
  refine .of_built hb hkept hheard ⟨rfl, rfl, rfl, fun uri d hd => ⟨d, hd, .refl d, Or.inl rfl⟩,
    fun t _ => ⟨[], List.nil_prefix, (List.append_nil _).symm, Or.inr ⟨nofun, ?_⟩⟩,
    fun _ _ d hd => ⟨d, hd, rfl⟩, nofun⟩
  exact fun uri d hd _ => ⟨d, hd, rfl⟩

end Build

namespace Workspace

variable {w w' : Workspace} {uri : Uri} {changed deleted : List Uri} {t : DocumentState}

/-! ## Taking in files tells nobody -/

theorem events_taken (w : Workspace) (changed deleted : List Uri) :
    (w.taken changed deleted).2.events = w.events := by
  have hdrops : (deleted.foldl drop w).events = w.events :=
    foldl_invariant (f := drop) (P := fun w' => w'.events = w.events) (fun _ _ h => h) rfl deleted
  refine attemptAll_invariant (f := take) (P := fun w' => w'.events = w.events) ?_ hdrops changed
  intro w₁ uri w₂ h htake
  obtain ⟨text, -, ⟨-, rfl⟩ | ⟨-, rfl⟩⟩ := take_cases htake <;> exact h

theorem events_loads (w : Workspace) (uris : List Uri) :
    (attemptAll load uris w).2.events = w.events := by
  refine attemptAll_invariant (f := load) (P := fun w' => w'.events = w.events) ?_ rfl uris
  intro w₁ uri w₂ h hload
  obtain ⟨-, rfl⟩ | ⟨-, text, -, rfl⟩ := load_cases hload <;> exact h

theorem events_prepared (w : Workspace) (changed deleted : List Uri) :
    (w.prepared changed deleted).events = w.events := by
  rw [prepared]
  split
  · refine Eq.trans ?_ (events_taken w changed deleted)
    refine foldl_invariant (P := fun w' => w'.events = (w.taken changed deleted).2.events) ?_ rfl _
    intro w₁ d h
    split
    · exact h
    · split
      · exact h
      · exact h
  · exact events_taken w changed deleted

theorem heard_prepared (w : Workspace) (changed deleted : List Uri) (t : DocumentState) :
    (w.prepared changed deleted).heard t = w.heard t := by
  rw [heard, events_prepared]
  rfl

theorem heard_told (w : Workspace) (changed deleted : List Uri) (t : DocumentState) :
    (Build.told w changed deleted).heard t = w.heard t := by
  rw [Build.told]
  refine foldl_invariant (P := fun w' => w'.heard t = w.heard t) (fun w' _ h => ?_) rfl _
  rw [← h, heard, heard, note, List.filterMap_append]
  simp

/-! ## Updates and loads -/

/-- A workspace that files below some folders were loaded into, as far as they
can be read. -/
def opened (services : Services) (w : Workspace) (folders : List Uri) : Workspace :=
  (w.attemptAll load ((w.collected services folders).getD [])).2

section

variable {s s' : BuildState} {r : Except Stop Unit}

/-- **An update whose files can be read builds what its batch left to do.** -/
theorem update_result (hk : (s.workspace.prepared changed deleted).built.Keyed)
    (hreads : s.workspace.Reads changed)
    (h : Build.update services changed deleted s = (r, s')) :
    Build.Result services (s.workspace.prepared changed deleted).built.awaiting
      services.updateBuild (s.workspace.prepared changed deleted) r s'.workspace := by
  obtain ⟨hb, hkept⟩ := Build.built_told (s.workspace.prepared changed deleted) changed deleted
  have hheard := heard_told (s.workspace.prepared changed deleted) changed deleted
  rw [Build.update_eq, (taken_eq_none_iff _ _ deleted).mpr hreads] at h
  dsimp only at h
  rcases Build.bind_cases h with ⟨_, s₁, hcheck, hrest⟩ | ⟨e, hcheck, rfl⟩
  · obtain ⟨-, hw, -⟩ := Build.checkpoint_cases hcheck
    have hbuilt : s₁.built = (s.workspace.prepared changed deleted).built := by
      rw [BuildState.built, hw, ← hb]
    rw [Build.get_bind_run, hbuilt] at hrest
    have hresult := Build.documents_result (hbuilt ▸ hk) hrest
    rw [hw] at hresult
    exact hresult.of_built hb hkept hheard
  · obtain ⟨-, hw, -⟩ := Build.checkpoint_cases hcheck
    rw [hw]
    exact .early hb hkept hheard

/-- An update with a file that cannot be read stops there. -/
theorem update_unread (hnot : ¬ s.workspace.Reads changed)
    (h : Build.update services changed deleted s = (r, s')) :
    r ≠ .ok () ∧ s'.workspace = (s.workspace.taken changed deleted).2 := by
  rw [Build.update_eq] at h
  cases htaken : (s.workspace.taken changed deleted).1 with
  | none => exact absurd ((taken_eq_none_iff _ _ deleted).mp htaken) hnot
  | some e =>
    rw [htaken] at h
    cases h
    exact ⟨nofun, rfl⟩

/-- **A load builds the files it found**, if they can be read. -/
theorem load_result {folders : List Uri} {r : Except Stop (List Uri)}
    (hk : (s.workspace.opened services folders).built.Keyed)
    (h : Build.loadFolders services folders s = (r, s')) :
    (∃ stop, r = .error stop) ∧ s'.workspace = s.workspace.opened services folders ∨
      ∃ uris, Build.Result services uris services.initialBuild (s.workspace.opened services folders)
        (r.map fun _ => ()) s'.workspace := by
  rw [opened] at hk ⊢
  rw [Build.loadFolders, Build.bind_run, Build.collect_eq] at h
  cases hcollected : s.workspace.collected services folders with
  | none =>
    rw [hcollected] at h
    cases h
    exact Or.inl ⟨⟨_, rfl⟩, rfl⟩
  | some uris =>
    rw [hcollected, Option.getD_some] at hk
    rw [hcollected] at h
    dsimp only at h
    rw [Build.bind_run, Build.each_attempt] at h
    rw [Option.getD_some]
    -- loading stops with the first file that cannot be read
    cases hloaded : (s.workspace.attemptAll load uris).1 with
    | some e =>
      rw [hloaded] at h
      cases h
      exact Or.inl ⟨⟨_, rfl⟩, rfl⟩
    | none =>
      rw [hloaded] at h
      dsimp only at h
      rcases Build.bind_cases h with ⟨_, s₁, hdocuments, hrest⟩ | ⟨e, hdocuments, rfl⟩
      · cases hrest
        exact Or.inr ⟨uris, Build.documents_result hk hdocuments⟩
      · exact Or.inr ⟨uris, Build.documents_result hk hdocuments⟩

end

/-! ## What every workspace has -/

/-- **What every workspace has**, whatever its services and listeners are. -/
structure Proper (services : Services) (w : Workspace) : Prop where
  nodup : w.documents.keys.Nodup
  keyed : w.built.Keyed
  parsed : ∀ uri d, w.document? uri = some d → d.Parsed services

theorem proper_ofFiles (files : FileSystem) : (ofFiles files).Proper services := by
  have hnone : ∀ uri d, (ofFiles files).document? uri ≠ some d := by
    intro uri d hd
    have hget : (ofFiles files).document? uri = none := rfl
    rw [hget] at hd
    cases hd
  exact ⟨List.nodup_nil, fun uri d hd => absurd hd (hnone uri d),
    fun uri d hd => absurd hd (hnone uri d)⟩

namespace Proper

theorem result (h : w.Proper services) {uris : List Uri} {options : ValidationMode}
    {r : Except Stop Unit} (hresult : Build.Result services uris options w r w') :
    w'.Proper services := by
  refine ⟨hresult.keys ▸ h.nodup, fun uri d' hd' => ?_, fun uri d' hd' => ?_⟩
  · obtain ⟨d, hd, hcourse, -⟩ := hresult.document uri d' hd'
    rw [hcourse.uri]
    exact h.keyed uri d hd
  · obtain ⟨d, hd, hcourse, -⟩ := hresult.document uri d' hd'
    exact hcourse.parsed (h.parsed uri d hd)

theorem drop (h : w.Proper services) (uri : Uri) : (w.drop uri).Proper services := by
  have hget : ∀ v d, (w.drop uri).document? v = some d → w.document? v = some d := by
    intro v d hd
    rw [document?_drop] at hd
    split at hd
    · cases hd
    · exact hd
  refine ⟨?_, fun v d hd => h.keyed v d (hget v d hd), fun v d hd => h.parsed v d (hget v d hd)⟩
  have hkeys : (w.drop uri).documents.keys = w.documents.keys.filter (!· == uri) :=
    OrderedMap.keys_erase _ _
  rw [hkeys]
  exact h.nodup.filter _

/-- A document with a new text, or a new one, counts as changed. -/
theorem take (h : w.Proper services) (htake : w.take uri = .ok w') : w'.Proper services := by
  obtain ⟨text, -, hget⟩ := document?_take htake
  -- the text is put into the document of the uri, which may be new
  have hrenewed : (w.renewed uri text).uri = uri := by
    rw [renewed]
    split
    next d hd => exact h.keyed uri d hd
    next => rfl
  refine ⟨?_, fun v d hd => ?_, fun v d hd => ?_⟩
  · obtain ⟨text', -, ⟨-, rfl⟩ | ⟨-, rfl⟩⟩ := take_cases htake
    · have hkeys : ((w.modifyDocument uri (·.setText text')).resetTo uri .changed).documents.keys =
          w.documents.keys := (OrderedMap.keys_modify _ _ _).trans (OrderedMap.keys_modify _ _ _)
      rw [hkeys]
      exact h.nodup
    · exact OrderedMap.nodup_keys_insert h.nodup _ _
  · have hd' : w'.document? v = some d := hd
    rw [hget] at hd'
    split at hd'
    next hv =>
      cases hd'
      rw [hrenewed, hv]
    next => exact h.keyed v d hd'
  · rw [hget] at hd
    split at hd
    next =>
      cases hd
      intro hparsed
      rw [state_renewed] at hparsed
      exact absurd hparsed (by decide)
    next => exact h.parsed v d hd

theorem load (h : w.Proper services) (hload : w.load uri = .ok w') : w'.Proper services := by
  rcases load_cases hload with ⟨-, rfl⟩ | ⟨-, text, -, rfl⟩
  · exact h
  · have hget : ∀ v, (w.setDocument (.ofText uri text)).document? v =
        if v = uri then some (.ofText uri text) else w.document? v :=
      fun v => OrderedMap.get?_insert _ _ _ _
    refine ⟨OrderedMap.nodup_keys_insert h.nodup _ _, fun v d hd => ?_, fun v d hd => ?_⟩
    · have hd' := (hget v).symm.trans hd
      split at hd'
      next hv =>
        cases hd'
        exact hv.symm
      next => exact h.keyed v d hd'
    · rw [hget] at hd
      split at hd
      next =>
        cases hd
        have hnot : ¬ DocumentState.parsed ≤ .changed := by decide
        exact fun hparsed => absurd hparsed hnot
      next => exact h.parsed v d hd

theorem resetTo (h : w.Proper services) (uri : Uri) (state : DocumentState) :
    (w.resetTo uri state).Proper services := by
  have hcases : ∀ v d', (w.resetTo uri state).document? v = some d' →
      ∃ d, w.document? v = some d ∧ (d' = d ∨ d' = d.resetTo state) := by
    intro v d' hd'
    rw [document?_resetTo] at hd'
    split at hd'
    next hv =>
      obtain ⟨d, hd, rfl⟩ := Option.map_eq_some_iff.mp hd'
      exact ⟨d, hv ▸ hd, Or.inr rfl⟩
    next => exact ⟨d', hd', Or.inl rfl⟩
  refine ⟨?_, fun v d' hd' => ?_, fun v d' hd' => ?_⟩
  · exact (OrderedMap.keys_modify w.documents uri _).symm ▸ h.nodup
  · obtain ⟨d, hd, rfl | rfl⟩ := hcases v d' hd'
    · exact h.keyed v d' hd
    · exact h.keyed v d hd
  · obtain ⟨d, hd, rfl | rfl⟩ := hcases v d' hd'
    · exact h.parsed v d' hd
    · intro hparsed
      refine h.parsed v d hd ?_
      exact (DocumentState.le_min_iff.mp hparsed).1

theorem opened (h : w.Proper services) (folders : List Uri) :
    (w.opened services folders).Proper services :=
  attemptAll_invariant (P := fun w => w.Proper services) (fun _ _ _ hw => hw.load) h _

theorem taken (h : w.Proper services) (changed deleted : List Uri) :
    (w.taken changed deleted).2.Proper services :=
  attemptAll_invariant (P := fun w => w.Proper services) (fun _ _ _ hw => hw.take)
    (foldl_invariant (P := fun w => w.Proper services) (fun _ uri hw => hw.drop uri) h deleted)
    changed

theorem prepared (h : w.Proper services) (changed deleted : List Uri) :
    (w.prepared changed deleted).Proper services := by
  rw [Workspace.prepared]
  split
  · refine foldl_invariant (P := fun w => w.Proper services) (fun w' d hw => ?_)
      (h.taken changed deleted) _
    split
    · exact hw
    · split
      · exact hw.resetTo d.uri .computedScopes
      · exact hw
  · exact h.taken changed deleted

end Proper

end Workspace

/-! ## Runs -/

/-- A call that changes a workspace. -/
inductive Call where
  /-- Loads the files below some folders. -/
  | load (folders : List Uri)
  /-- Applies a batch of changes. -/
  | update (changed deleted : List Uri)
deriving DecidableEq, Repr, Inhabited

namespace Call

/-- Runs a call on a workspace. -/
def run (services : Services) (call : Call) (w : Workspace) (interrupt : Interrupt) :
    Except Stop Unit × Workspace :=
  match call with
  | load folders =>
    let (r, w) := (Build.loadFolders services folders).run w interrupt
    (r.map fun _ => (), w)
  | update changed deleted => (Build.update services changed deleted).run w interrupt

/-- **The workspace in which the build of a call begins**, with all files taken
in, or as it is left by a file that cannot be read. -/
def begun (services : Services) (call : Call) (w : Workspace) : Workspace :=
  match call with
  | load folders => w.opened services folders
  | update changed deleted =>
    if w.Reads changed then w.prepared changed deleted else (w.taken changed deleted).2

variable {w w' : Workspace} {call : Call} {interrupt : Interrupt} {r : Except Stop Unit}

theorem proper_begun (h : w.Proper services) (call : Call) :
    (call.begun services w).Proper services := by
  cases call with
  | load folders => exact h.opened folders
  | update changed deleted =>
    rw [begun]
    split
    · exact h.prepared changed deleted
    · exact h.taken changed deleted

/-- **A call builds the workspace it began with**, or stops before. -/
theorem run_result (h : w.Proper services) (hrun : call.run services w interrupt = (r, w')) :
    r ≠ .ok () ∧ w' = call.begun services w ∨
      ∃ uris options, Build.Result services uris options (call.begun services w) r w' := by
  cases call with
  | load folders =>
    cases hload : (Build.loadFolders services folders).run w interrupt with
    | mk r₀ w₀ =>
      rw [run, hload] at hrun
      cases hrun
      obtain ⟨s', hload', rfl⟩ := Build.run_cases hload
      rcases Workspace.load_result (s := ⟨w, interrupt⟩) (h.opened folders).keyed hload' with
        ⟨⟨stop, rfl⟩, hw⟩ | ⟨uris, hresult⟩
      · exact Or.inl ⟨nofun, hw⟩
      · exact Or.inr ⟨uris, _, hresult⟩
  | update changed deleted =>
    obtain ⟨s', hupdate, rfl⟩ := Build.run_cases hrun
    rw [begun]
    split
    next hreads =>
      exact Or.inr ⟨_, _, Workspace.update_result (s := ⟨w, interrupt⟩)
        (h.prepared changed deleted).keyed hreads hupdate⟩
    next hreads => exact Or.inl (Workspace.update_unread (s := ⟨w, interrupt⟩) hreads hupdate)

theorem proper_run (h : w.Proper services) (hrun : call.run services w interrupt = (r, w')) :
    w'.Proper services := by
  have hbegun := proper_begun h call
  rcases run_result h hrun with ⟨-, rfl⟩ | ⟨uris, options, hresult⟩
  · exact hbegun
  · exact hbegun.result hresult

end Call

namespace Workspace

/-- **The workspaces that come from files** by edits of the files, by
listeners of any kind, and by calls with any interrupt and any outcome. -/
inductive Attained (services : Services) : Workspace → Prop
  | start (files : FileSystem) : Attained services (.ofFiles files)
  | edit {w : Workspace} (files : FileSystem) : Attained services w →
      Attained services { w with files := files }
  | listen {w : Workspace} (listeners : Listeners) : Attained services w →
      Attained services { w with listeners := listeners }
  | call {w w' : Workspace} {call : Call} {interrupt : Interrupt} {r : Except Stop Unit} :
      Attained services w → call.run services w interrupt = (r, w') → Attained services w'

theorem Attained.proper {w : Workspace} (h : Attained services w) : w.Proper services := by
  induction h with
  | start files => exact proper_ofFiles files
  | edit files _ ih => exact ⟨ih.nodup, ih.keyed, ih.parsed⟩
  | listen listeners _ ih => exact ⟨ih.nodup, ih.keyed, ih.parsed⟩
  | call _ hrun ih => exact Call.proper_run ih hrun

end Workspace
end Workbench
