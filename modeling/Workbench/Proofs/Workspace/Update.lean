import Workbench.Proofs.Workspace.Run
/-!
# What updates and loads do

An update first takes in the files it was told of and moves back what
depends on them, then builds. Nothing can cancel the first part, and only a
file that cannot be read stops it: `Workspace.prepared` is what it comes to.
`Build.update_cases` and `Build.loadFolders_cases` put the two parts
together.
-/

namespace Workbench

/-- The documents that an update builds. -/
def Built.awaiting (b : Built) : List Uri :=
  (b.documents.values.filter fun d => d.state < .linked || d.isPending).map Document.uri

namespace Workspace

/-! ## Taking in files -/

/-- Forgets a document and all that the index knows about it. -/
def drop (w : Workspace) (uri : Uri) : Workspace :=
  { w.delete uri with index := w.index.remove uri }

/-- Takes in a file that has changed. -/
def take (w : Workspace) (uri : Uri) : Except WorkspaceError Workspace :=
  if w.documents.contains uri then (w.reload uri).map (·.resetTo uri .changed) else w.load uri

/-- An operation on one file after the other, up to the first that fails. -/
def attemptAll (f : Workspace → Uri → Except WorkspaceError Workspace) :
    List Uri → Workspace → Option WorkspaceError × Workspace
  | [], w => (none, w)
  | uri :: rest, w =>
    match f w uri with
    | .ok w => attemptAll f rest w
    | .error e => (some e, w)

/-- The files of a batch taken in, up to the first that cannot be read. -/
def taken (w : Workspace) (changed deleted : List Uri) : Option WorkspaceError × Workspace :=
  attemptAll take changed (deleted.foldl drop w)

/-- **A workspace that a batch was taken into**, when its build begins. -/
def prepared (w : Workspace) (changed deleted : List Uri) : Workspace :=
  if !changed.isEmpty || !deleted.isEmpty then
    Build.relink (w.taken changed deleted).2 (changed ++ deleted)
  else (w.taken changed deleted).2

/-- Whether every one of some files can be read. -/
def Reads (w : Workspace) (uris : List Uri) : Prop :=
  ∀ uri ∈ uris, ∃ text, w.files.read uri = .ok text

theorem reads_iff {w : Workspace} {uris : List Uri} :
    w.Reads uris ↔ ∀ uri ∈ uris, (w.files.read uri).isOk = true := by
  refine forall₂_congr fun uri _ => ?_
  cases w.files.read uri with
  | ok text => exact ⟨fun _ => rfl, fun _ => ⟨text, rfl⟩⟩
  | error fault => exact ⟨fun ⟨_, h⟩ => (nomatch h), nofun⟩

/-- Whether files can be read is decided by reading them. -/
instance (w : Workspace) (uris : List Uri) : Decidable (w.Reads uris) :=
  decidable_of_iff _ reads_iff.symm

/-- The accepted files below some folders. -/
def collected (services : Services) (w : Workspace) : List Uri → Option (List Uri)
  | [] => some []
  | folder :: rest => do
    let uris ← w.files.tree.collect? services.selection folder
    let more ← collected services w rest
    return uris ++ more

theorem attemptAll_invariant {f : Workspace → Uri → Except WorkspaceError Workspace}
    {P : Workspace → Prop} (hstep : ∀ w uri w', P w → f w uri = .ok w' → P w') {w : Workspace}
    (hw : P w) (uris : List Uri) : P (attemptAll f uris w).2 := by
  induction uris generalizing w with
  | nil => exact hw
  | cons u rest ih =>
    rw [attemptAll]
    cases hf : f w u with
    | ok w' => exact ih (hstep w u w' hw hf)
    | error e => exact hw

theorem foldl_invariant {α : Type} {f : Workspace → α → Workspace} {P : Workspace → Prop}
    (hstep : ∀ w a, P w → P (f w a)) {w : Workspace} (hw : P w) (l : List α) :
    P (l.foldl f w) := by
  induction l generalizing w with
  | nil => exact hw
  | cons a rest ih => exact ih (hstep w a hw)

/-- What an operation leaves alone that only takes in files. -/
structure Kept (w w' : Workspace) : Prop where
  files : w'.files = w.files
  listeners : w'.listeners = w.listeners

theorem Kept.refl (w : Workspace) : w.Kept w := ⟨rfl, rfl⟩

theorem Kept.trans {w w' w'' : Workspace} (h : w.Kept w') (h' : w'.Kept w'') : w.Kept w'' :=
  ⟨h'.files.trans h.files, h'.listeners.trans h.listeners⟩

/-- What comes of a load: nothing, or a document that was not there. -/
theorem load_cases {w w' : Workspace} {uri : Uri} (h : w.load uri = .ok w') :
    (w.documents.contains uri = true ∧ w' = w) ∨
      (w.documents.contains uri = false ∧
        ∃ text, w.files.read uri = .ok text ∧ w' = w.setDocument (.ofText uri text)) := by
  rw [load] at h
  by_cases hc : w.documents.contains uri = true
  · rw [if_pos hc] at h
    cases h
    exact Or.inl ⟨hc, rfl⟩
  · rw [if_neg hc, read] at h
    cases hread : w.files.read uri with
    | error e =>
      rw [hread] at h
      cases h
    | ok text =>
      rw [hread] at h
      cases h
      exact Or.inr ⟨by simpa using hc, text, rfl, rfl⟩

/-- What comes of taking in a file: a new document, or one that has the new
text and is moved back. -/
theorem take_cases {w w' : Workspace} {uri : Uri} (h : w.take uri = .ok w') :
    ∃ text, w.files.read uri = .ok text ∧
      ((w.documents.contains uri = true ∧
          w' = (w.modifyDocument uri (·.setText text)).resetTo uri .changed) ∨
        (w.documents.contains uri = false ∧ w' = w.setDocument (.ofText uri text))) := by
  rw [take] at h
  by_cases hc : w.documents.contains uri = true
  · rw [if_pos hc, reload, if_pos hc, read] at h
    cases hread : w.files.read uri with
    | error e =>
      rw [hread] at h
      cases h
    | ok text =>
      rw [hread] at h
      cases h
      exact ⟨text, rfl, Or.inl ⟨hc, rfl⟩⟩
  · rw [if_neg hc] at h
    rcases load_cases h with ⟨hc', -⟩ | ⟨hc', text, hread, hw⟩
    · exact absurd hc' hc
    · exact ⟨text, hread, Or.inr ⟨hc', hw⟩⟩

theorem kept_take {w w' : Workspace} {uri : Uri} (h : w.take uri = .ok w') : w.Kept w' := by
  obtain ⟨text, -, ⟨-, rfl⟩ | ⟨-, rfl⟩⟩ := take_cases h <;> exact ⟨rfl, rfl⟩

theorem kept_load {w w' : Workspace} {uri : Uri} (h : w.load uri = .ok w') : w.Kept w' := by
  rcases load_cases h with ⟨-, rfl⟩ | ⟨-, text, -, rfl⟩ <;> exact ⟨rfl, rfl⟩

theorem kept_attemptAll {f : Workspace → Uri → Except WorkspaceError Workspace}
    (hf : ∀ w uri w', f w uri = .ok w' → w.Kept w') (uris : List Uri) (w : Workspace) :
    w.Kept (attemptAll f uris w).2 :=
  attemptAll_invariant (fun w' uri w'' hw h => Kept.trans hw (hf w' uri w'' h)) (Kept.refl w) uris

theorem kept_drops (w : Workspace) (deleted : List Uri) : w.Kept (deleted.foldl drop w) :=
  foldl_invariant (f := drop) (P := w.Kept) (fun _ _ hw => hw.trans ⟨rfl, rfl⟩) (Kept.refl w) deleted

theorem kept_taken (w : Workspace) (changed deleted : List Uri) :
    w.Kept (w.taken changed deleted).2 :=
  (kept_drops w deleted).trans (kept_attemptAll (fun _ _ _ => kept_take) changed _)

theorem kept_relink (w : Workspace) (changed : List Uri) : w.Kept (Build.relink w changed) := by
  refine foldl_invariant (fun w' d hw => ?_) (Kept.refl w) _
  split
  · exact hw
  · split
    · exact hw.trans ⟨rfl, rfl⟩
    · exact hw

theorem kept_prepared (w : Workspace) (changed deleted : List Uri) :
    w.Kept (w.prepared changed deleted) := by
  rw [prepared]
  split
  · exact (kept_taken w changed deleted).trans (kept_relink _ _)
  · exact kept_taken w changed deleted

/-- A batch is taken in as a whole if and only if its files can be read, and
else it fails by one that cannot. -/
theorem attemptAll_take (w : Workspace) (changed : List Uri) :
    ((attemptAll take changed w).1 = none ↔ w.Reads changed) ∧
      ∀ e, (attemptAll take changed w).1 = some e → ∃ uri fault, e = .read uri fault := by
  induction changed generalizing w with
  | nil => exact ⟨⟨fun _ => nofun, fun _ => rfl⟩, nofun⟩
  | cons u rest ih =>
    rw [attemptAll]
    cases htake : w.take u with
    | ok w' =>
      obtain ⟨text, hread, -⟩ := take_cases htake
      obtain ⟨hiff, herr⟩ := ih w'
      have hfiles : w'.files = w.files := (kept_take htake).files
      refine ⟨hiff.trans ⟨fun h uri huri => ?_, fun h uri huri => ?_⟩, herr⟩
      · rcases List.mem_cons.mp huri with rfl | hin
        · exact ⟨text, hread⟩
        · rw [← hfiles]
          exact h uri hin
      · rw [hfiles]
        exact h uri (List.mem_cons_of_mem _ huri)
    | error e =>
      -- nothing but reading fails here
      have hread : ∃ fault, w.files.read u = .error fault ∧ e = .read u fault := by
        rw [take, reload, load, read] at htake
        cases hr : w.files.read u with
        | ok text =>
          rw [hr] at htake
          split at htake <;> cases htake
        | error fault =>
          rw [hr] at htake
          split at htake <;> exact ⟨fault, rfl, by cases htake; rfl⟩
      obtain ⟨fault, hfault, rfl⟩ := hread
      refine ⟨⟨nofun, fun h => ?_⟩, fun e' he' => ⟨u, fault, by cases he'; rfl⟩⟩
      obtain ⟨text, htext⟩ := h u List.mem_cons_self
      rw [hfault] at htext
      cases htext

theorem taken_eq_none_iff (w : Workspace) (changed deleted : List Uri) :
    (w.taken changed deleted).1 = none ↔ w.Reads changed := by
  rw [taken, (attemptAll_take _ _).1, Reads, Reads, (kept_drops w deleted).files]

end Workspace

namespace Build

variable {services : Services} {s s' : BuildState} {r : Except Stop Unit}

theorem each_attempt (f : Workspace → Uri → Except WorkspaceError Workspace) (uris : List Uri)
    (s : BuildState) :
    each (fun uri => attempt (f · uri)) uris s =
      (match (s.workspace.attemptAll f uris).1 with
        | none => .ok ()
        | some e => .error (.failed e),
      { s with workspace := (s.workspace.attemptAll f uris).2 }) := by
  induction uris generalizing s with
  | nil => rfl
  | cons u rest ih =>
    rw [each, bind_run, attempt_run, Workspace.attemptAll]
    cases f s.workspace u with
    | ok w => exact ih _
    | error e => rfl

theorem takeChanged_eq (uri : Uri) (s : BuildState) :
    takeChanged uri s = attempt (·.take uri) s := by
  rw [takeChanged, get_bind_run, attempt_run, Workspace.take]
  by_cases hc : s.workspace.documents.contains uri = true
  · rw [if_pos hc, if_pos hc, bind_run, attempt_run]
    cases s.workspace.reload uri <;> rfl
  · rw [if_neg hc, if_neg hc, attempt_run]

/-! ## Updates -/

/-- A workspace whose listeners were told of a batch. -/
def told (w : Workspace) (changed deleted : List Uri) : Workspace :=
  w.listeners.ofUpdates.foldl (fun w _ => w.note (.update changed deleted)) w

theorem built_told (w : Workspace) (changed deleted : List Uri) :
    (told w changed deleted).built = w.built ∧ w.Kept (told w changed deleted) := by
  rw [told]
  generalize w.listeners.ofUpdates = listeners
  induction listeners generalizing w with
  | nil => exact ⟨rfl, .refl w⟩
  | cons l rest ih =>
    obtain ⟨hb, hkept⟩ := ih (w.note (.update changed deleted))
    have hnote : w.Kept (w.note (.update changed deleted)) := ⟨rfl, rfl⟩
    exact ⟨hb, hnote.trans hkept⟩

/-- **An update takes its batch in and builds what that left to do.** -/
theorem update_eq (changed deleted : List Uri) (s : BuildState) :
    update services changed deleted s =
      match (s.workspace.taken changed deleted).1 with
      | some e => (.error (.failed e), { s with workspace := (s.workspace.taken changed deleted).2 })
      | none =>
        (checkpoint >>= fun _ => get >>= fun s =>
            documents services s.built.awaiting services.updateBuild)
          { s with workspace := told (s.workspace.prepared changed deleted) changed deleted } := by
  have htake : ∀ uri ∈ changed, ∀ s, takeChanged uri s = attempt (·.take uri) s :=
    fun uri _ => takeChanged_eq uri
  rw [update, bind_run, each_change]
  dsimp only
  rw [bind_run, each_congr htake, each_attempt]
  dsimp only
  rw [show Workspace.attemptAll Workspace.take changed (deleted.foldl
    (fun w uri => { w.delete uri with index := w.index.remove uri }) s.workspace) =
      s.workspace.taken changed deleted from rfl]
  cases htaken : (s.workspace.taken changed deleted).1 with
  | some e => rfl
  | none =>
    dsimp only
    rw [Workspace.prepared]
    by_cases hbatch : (!changed.isEmpty || !deleted.isEmpty) = true
    · rw [if_pos hbatch, if_pos hbatch, change_bind_run, get_bind_run, bind_run, each_change]
      rfl
    · rw [if_neg hbatch, if_neg hbatch, get_bind_run, bind_run, each_change]
      rfl

/-- **How an update ends**: by a file that cannot be read, before its build
begins, or as its build does. -/
inductive Updates (services : Services) (changed deleted : List Uri) (s : BuildState) :
    Except Stop Unit → BuildState → Prop
  | unread {s' : BuildState} {uri : Uri} {fault : FileFault} : s.Frame s' →
      ¬ s.workspace.Reads changed → s'.built = (s.workspace.taken changed deleted).2.built →
      Updates services changed deleted s (.error (.failed (.read uri fault))) s'
  | early {s' : BuildState} : s.Frame s' → s.workspace.Reads changed → s.interrupt ≠ .never →
      s'.built = (s.workspace.prepared changed deleted).built →
      Updates services changed deleted s (.error (.failed .cancelled)) s'
  | built {r : Except Stop Unit} {s' : BuildState} : s.Frame s' → s.workspace.Reads changed →
      (s.workspace.prepared changed deleted).built.Builds services
        (s.workspace.prepared changed deleted).built.awaiting services.updateBuild s.interrupt r s'.built →
      Updates services changed deleted s r s'

theorem update_cases {changed deleted : List Uri} (husual : services.Usual)
    (hq : s.workspace.listeners.Quiet) (hk : (s.workspace.prepared changed deleted).built.Keyed)
    (h : update services changed deleted s = (r, s')) :
    Updates services changed deleted s r s' := by
  have hfails := (Workspace.attemptAll_take (deleted.foldl Workspace.drop s.workspace) changed).2
  rw [update_eq] at h
  cases htaken : (s.workspace.taken changed deleted).1 with
  | some e =>
    obtain ⟨uri, fault, rfl⟩ := hfails e htaken
    rw [htaken] at h
    cases h
    have hkept := s.workspace.kept_taken changed deleted
    refine .unread ⟨hkept.files, hkept.listeners, id⟩ (fun hreads => ?_) rfl
    rw [← Workspace.taken_eq_none_iff _ _ deleted, htaken] at hreads
    cases hreads
  | none =>
    rw [htaken] at h
    dsimp only at h
    have hreads := (Workspace.taken_eq_none_iff _ _ deleted).mp htaken
    obtain ⟨hbuilt, hkept⟩ := built_told (s.workspace.prepared changed deleted) changed deleted
    have hkept' := (s.workspace.kept_prepared changed deleted).trans hkept
    have hframe : s.Frame { s with
        workspace := told (s.workspace.prepared changed deleted) changed deleted } :=
      ⟨hkept'.files, hkept'.listeners, id⟩
    rcases bind_cases h with ⟨_, s₁, hcheck, hrest⟩ | ⟨e, hcheck, rfl⟩
    · obtain ⟨hf, hw, -⟩ := checkpoint_cases hcheck
      have hb : s₁.built = (s.workspace.prepared changed deleted).built := by
        rw [BuildState.built, hw, ← hbuilt]
      rw [get_bind_run, hb] at hrest
      obtain ⟨hf', hbuilds⟩ := documents_cases husual ((hframe.trans hf).quiet hq) (by rwa [hb]) hrest
      rw [hb] at hbuilds
      have hbefore := hframe.trans hf
      exact .built (hbefore.trans hf') hreads (hbuilds.of_frame hbefore.never)
    · obtain ⟨hf, hw, hr⟩ := checkpoint_cases hcheck
      obtain ⟨herr, hne⟩ := hr.resolve_left (by simp)
      cases herr
      refine .early (hframe.trans hf) hreads hne ?_
      rw [BuildState.built, hw, hbuilt]

/-! ## Loads -/

theorem collect_eq (folders : List Uri) (s : BuildState) :
    collect services folders s =
      match s.workspace.collected services folders with
      | some uris => (.ok uris, s)
      | none => (.error .endless, s) := by
  induction folders with
  | nil => rfl
  | cons folder rest ih =>
    rw [collect, get_bind_run, Workspace.collected]
    cases s.workspace.files.tree.collect? services.selection folder with
    | none => rfl
    | some uris =>
      dsimp only
      rw [bind_run, ih]
      cases s.workspace.collected services rest <;> rfl

/-- **How a load ends**: with nothing done, by a file that cannot be read, or
as its build does. -/
inductive Loads (services : Services) (folders : List Uri) (s : BuildState) :
    Except Stop (List Uri) → BuildState → Prop
  | nothing {stop : Stop} : Loads services folders s (.error stop) s
  | unread {s' : BuildState} {uris : List Uri} {stop : Stop} : s.Frame s' →
      s'.built = (s.workspace.attemptAll Workspace.load uris).2.built →
      Loads services folders s (.error stop) s'
  | built {s' : BuildState} {uris : List Uri} {r : Except Stop (List Uri)} : s.Frame s' →
      s.workspace.collected services folders = some uris →
      (s.workspace.attemptAll Workspace.load uris).2.built.Builds services uris
        services.initialBuild s.interrupt (r.map fun _ => ()) s'.built →
      Loads services folders s r s'

theorem loadFolders_cases {folders : List Uri} {r : Except Stop (List Uri)}
    (husual : services.Usual) (hq : s.workspace.listeners.Quiet)
    (hk : ∀ uris, (s.workspace.attemptAll Workspace.load uris).2.built.Keyed)
    (h : loadFolders services folders s = (r, s')) : Loads services folders s r s' := by
  rw [loadFolders, bind_run, collect_eq] at h
  cases hcollected : s.workspace.collected services folders with
  | none =>
    rw [hcollected] at h
    cases h
    exact .nothing
  | some uris =>
    have hkept := Workspace.kept_attemptAll (f := Workspace.load) (fun _ _ _ => Workspace.kept_load)
      uris s.workspace
    have hframe : s.Frame { s with workspace := (s.workspace.attemptAll Workspace.load uris).2 } :=
      ⟨hkept.files, hkept.listeners, id⟩
    rw [hcollected] at h
    dsimp only at h
    rw [bind_run, each_attempt] at h
    cases hloaded : (s.workspace.attemptAll Workspace.load uris).1 with
    | some e =>
      rw [hloaded] at h
      cases h
      exact .unread hframe rfl
    | none =>
      rw [hloaded] at h
      dsimp only at h
      rcases bind_cases h with ⟨_, s₁, hdocuments, hrest⟩ | ⟨e, hdocuments, hr⟩
      · cases hrest
        obtain ⟨hf, hbuilds⟩ := documents_cases husual (hframe.quiet hq) (hk uris) hdocuments
        exact .built (hframe.trans hf) hcollected hbuilds
      · subst hr
        obtain ⟨hf, hbuilds⟩ := documents_cases husual (hframe.quiet hq) (hk uris) hdocuments
        exact .built (hframe.trans hf) hcollected hbuilds

end Build
end Workbench
