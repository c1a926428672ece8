import Workbench.Proofs.Workspace.Work
/-!
# What a whole build does

A build marks its documents as pending, takes them through the stages and
clears the marks. `Build.documents_cases` reads it off: either it came
through all stages, or it was stopped after some progress, at a point of
cancellation or inside of a phase. Marks and clearings cannot be stopped.
-/

namespace Workbench

namespace Built

variable {b : Built} {uris : List Uri} {f : Document → Document}

/-- Changes some documents. -/
def modifyAll (b : Built) (f : Document → Document) (uris : List Uri) : Built :=
  ⟨uris.foldl (fun m uri => m.modify uri f) b.documents, b.index⟩

/-- Marks documents as pending, with the options of the build. -/
def mark (b : Built) (options : ValidationMode) (uris : List Uri) : Built :=
  b.modifyAll (fun d => { d with build := some (d.build.getD options) }) uris

/-- Clears the marks of documents. -/
def clear (b : Built) (uris : List Uri) : Built :=
  b.modifyAll (fun d => { d with build := none }) uris

theorem keys_modifyAll : (b.modifyAll f uris).documents.keys = b.documents.keys := by
  rw [modifyAll]
  dsimp only
  generalize b.documents = m
  induction uris generalizing m with
  | nil => rfl
  | cons u rest ih => rw [List.foldl_cons, ih, OrderedMap.keys_modify]

/-- Changing a document twice is changing it once, if the change says so. -/
theorem get?_modifyAll (hf : ∀ d, f (f d) = f d) (uri : Uri) :
    (b.modifyAll f uris).documents.get? uri =
      if uri ∈ uris then (b.documents.get? uri).map f else b.documents.get? uri := by
  rw [modifyAll]
  dsimp only
  generalize b.documents = m
  induction uris generalizing m with
  | nil => simp
  | cons u rest ih =>
    rw [List.foldl_cons, ih, OrderedMap.get?_modify]
    by_cases hu : uri = u
    · subst hu
      by_cases hin : uri ∈ rest
      · simp [hin, Function.comp_def, hf]
      · simp [hin]
    · simp [hu]

theorem get?_mark (options : ValidationMode) (uri : Uri) :
    (b.mark options uris).documents.get? uri =
      if uri ∈ uris then
        (b.documents.get? uri).map fun d => { d with build := some (d.build.getD options) }
      else b.documents.get? uri := by
  rw [mark, get?_modifyAll]
  intro d
  rfl

theorem get?_clear (uri : Uri) :
    (b.clear uris).documents.get? uri =
      if uri ∈ uris then (b.documents.get? uri).map fun d => { d with build := none }
      else b.documents.get? uri := by
  rw [clear, get?_modifyAll]
  intro d
  rfl

/-- How marking and clearing change a document. -/
theorem get?_mark_cases {options : ValidationMode} {uri : Uri} {d' : Document}
    (h : (b.mark options uris).documents.get? uri = some d') :
    ∃ d, b.documents.get? uri = some d ∧ d' = { d with build := d'.build } ∧
      (uri ∈ uris → d'.build = some (d.build.getD options)) ∧ (uri ∉ uris → d' = d) := by
  rw [get?_mark] at h
  split at h
  next hin =>
    obtain ⟨d, hd, rfl⟩ := Option.map_eq_some_iff.mp h
    exact ⟨d, hd, rfl, fun _ => rfl, fun hnot => absurd hin hnot⟩
  next hnot => exact ⟨d', h, rfl, fun hin => absurd hin hnot, fun _ => rfl⟩

theorem get?_clear_cases {uri : Uri} {d' : Document}
    (h : (b.clear uris).documents.get? uri = some d') :
    ∃ d, b.documents.get? uri = some d ∧ d' = { d with build := d'.build } ∧
      (uri ∈ uris → d'.build = none) ∧ (uri ∉ uris → d' = d) := by
  rw [get?_clear] at h
  split at h
  next hin =>
    obtain ⟨d, hd, rfl⟩ := Option.map_eq_some_iff.mp h
    exact ⟨d, hd, rfl, fun _ => rfl, fun hnot => absurd hin hnot⟩
  next hnot => exact ⟨d', h, rfl, fun hin => absurd hin hnot, fun _ => rfl⟩

/-- **Only marks are changed.** -/
structure Remarked (b b' : Built) : Prop where
  keys : b'.documents.keys = b.documents.keys
  document : ∀ uri d', b'.documents.get? uri = some d' →
    ∃ d, b.documents.get? uri = some d ∧ d' = { d with build := d'.build }
  index : b'.index = b.index

theorem remarked_mark (b : Built) (options : ValidationMode) (uris : List Uri) :
    b.Remarked (b.mark options uris) where
  keys := keys_modifyAll
  document := by
    intro uri d' hd'
    obtain ⟨d, hd, heq, -⟩ := get?_mark_cases hd'
    exact ⟨d, hd, heq⟩
  index := rfl

theorem remarked_clear (b : Built) (uris : List Uri) : b.Remarked (b.clear uris) where
  keys := keys_modifyAll
  document := by
    intro uri d' hd'
    obtain ⟨d, hd, heq, -⟩ := get?_clear_cases hd'
    exact ⟨d, hd, heq⟩
  index := rfl

theorem Remarked.keyed {b' : Built} (h : b.Remarked b') (hk : b.Keyed) : b'.Keyed := by
  intro uri d' hd'
  obtain ⟨d, hd, heq⟩ := h.document uri d' hd'
  rw [heq]
  exact hk uri d hd

theorem Keyed.mark (hk : b.Keyed) (options : ValidationMode) : (b.mark options uris).Keyed :=
  (b.remarked_mark options uris).keyed hk

/-- **How a build ends that is stopped**: between two documents, inside of a
phase that was cancelled, or by a phase that failed. -/
inductive Stopped (services : Services) (uris : List Uri) (interrupt : Interrupt) (b : Built) :
    Except Stop Unit → Built → Prop
  | between {b₁ : Built} : interrupt ≠ .never → Progress services uris b b₁ →
      Stopped services uris interrupt b (.error (.failed .cancelled)) b₁
  | inside {b₁ b₂ : Built} {t : DocumentState} {uri : Uri} : interrupt ≠ .never →
      Progress services uris b b₁ → b₁.Due uris t uri → b₁.Halts services t uri b₂ →
      Stopped services uris interrupt b (.error (.failed .cancelled)) b₂
  | failed {b₁ : Built} {stop : Stop} {t : DocumentState} {uri : Uri} :
      Progress services uris b b₁ → b₁.Due uris t uri →
      b₁.advance services t uri = .error stop →
      Stopped services uris interrupt b (.error stop) b₁

/-- **How a build ends**: all stages are through and the marks are cleared, or
it is stopped. -/
inductive Builds (services : Services) (uris : List Uri) (options : ValidationMode)
    (interrupt : Interrupt) (b : Built) : Except Stop Unit → Built → Prop
  | done {b₁ : Built} : through services uris stages (b.mark options uris) = .ok b₁ →
      Builds services uris options interrupt b (.ok ()) (b₁.clear uris)
  | stopped {r : Except Stop Unit} {b₁ : Built} :
      Stopped services uris interrupt (b.mark options uris) r b₁ →
      Builds services uris options interrupt b r b₁

theorem Stopped.after {services : Services} {i j : Interrupt} {b₁ b₂ : Built}
    {r : Except Stop Unit} (hp : Progress services uris b b₁) (hi : i = .never → j = .never)
    (h : Stopped services uris j b₁ r b₂) : Stopped services uris i b r b₂ := by
  cases h with
  | between hne hp' => exact .between (fun h => hne (hi h)) (hp.trans hp')
  | inside hne hp' hdue hhalts => exact .inside (fun h => hne (hi h)) (hp.trans hp') hdue hhalts
  | failed hp' hdue hfail => exact .failed (hp.trans hp') hdue hfail

theorem Builds.of_frame {services : Services} {options : ValidationMode} {i j : Interrupt}
    {r : Except Stop Unit} {b₁ : Built} (hi : i = .never → j = .never)
    (h : Builds services uris options j b r b₁) : Builds services uris options i b r b₁ := by
  cases h with
  | done hthrough => exact .done hthrough
  | stopped hstopped => exact .stopped (hstopped.after .start hi)

/-- **Where a build leaves the documents**: at some point of its progress, and
behind that with the marks cleared if it came through, or with one document
changed in part if it was cancelled inside of a phase. -/
theorem Builds.ends {services : Services} {options : ValidationMode} {i : Interrupt}
    {r : Except Stop Unit} {b' : Built} (hk : b.Keyed)
    (h : Builds services uris options i b r b') :
    ∃ b₁, Progress services uris (b.mark options uris) b₁ ∧
      (b' = b₁ ∨ b' = b₁.clear uris ∨ r ≠ .ok () ∧ i ≠ .never ∧
        ∃ t uri, b₁.Due uris t uri ∧ b₁.Halts services t uri b') := by
  cases h with
  | @done b₁ hthrough =>
    obtain ⟨hp, -⟩ := through_ok (hk.mark options) (List.nil_append _).symm nofun hthrough
    exact ⟨b₁, hp, Or.inr (Or.inl rfl)⟩
  | stopped hstopped =>
    cases hstopped with
    | between _ hp => exact ⟨b', hp, Or.inl rfl⟩
    | failed hp _ _ => exact ⟨b', hp, Or.inl rfl⟩
    | @inside b₁ _ t uri hne hp hdue hhalts =>
      exact ⟨b₁, hp, Or.inr (Or.inr ⟨nofun, hne, t, uri, hdue, hhalts⟩)⟩

end Built

/-- A build whose documents were changed. -/
def BuildState.withDocuments (s : BuildState) (m : OrderedMap Uri Document) : BuildState :=
  { s with workspace := { s.workspace with documents := m } }

namespace Build

variable {services : Services} {s s' : BuildState} {r : Except Stop Unit} {uris : List Uri}
  {t : DocumentState}

/-! ## One stage -/

/-- Takes the documents of a stage through it. -/
def runStage (services : Services) (uris : List Uri) (t : DocumentState) : Build Unit := do
  let pending := (← get).built.todo t uris
  if pending.isEmpty then pure ()
  else
    each (fun uri => do checkpoint; advance services t uri) pending
    notify services t pending

/-- The documents of a stage, one after the other. -/
theorem each_advance_cases (husual : services.Usual) (ht : t ∈ Built.stages)
    {s₀ : BuildState} (hk : s₀.built.Keyed)
    (hearlier : ∀ t' ∈ Built.stages, t' < t → s₀.built.todo t' uris = []) {pre post : List Uri}
    (htodo : s₀.built.todo t uris = pre ++ post)
    (hpre : s₀.built.advanceAll services t pre = .ok s.built) (hf : s₀.Frame s)
    (h : each (fun uri => do checkpoint; advance services t uri) post s = (r, s')) :
    s₀.Frame s' ∧
      ((r = .ok () ∧ s₀.built.advanceAll services t (pre ++ post) = .ok s'.built) ∨
        Built.Stopped services uris s₀.interrupt s₀.built r s'.built) := by
  induction post generalizing pre s with
  | nil =>
    cases h
    rw [List.append_nil]
    exact ⟨hf, Or.inl ⟨rfl, hpre⟩⟩
  | cons u rest ih =>
    have hprogress := Built.progress_of_todo hk ht hearlier htodo hpre
    have hdue := Built.due_of_todo hk ht hearlier htodo hpre
    rw [each] at h
    rcases bind_cases h with ⟨_, s₂, hfirst, hrest⟩ | ⟨e, hfirst, rfl⟩
    · rcases bind_cases hfirst with ⟨_, s₁, hcheck, hadv⟩ | ⟨_, -, habsurd⟩
      · obtain ⟨hf₁, hw, -⟩ := checkpoint_cases hcheck
        cases advance_cases husual (Built.ne_changed_of_mem_stages ht) hadv with
        | done hf₂ hok =>
          rw [BuildState.built, hw] at hok
          have hpre' : s₀.built.advanceAll services t (pre ++ [u]) = .ok s₂.built :=
            Built.advanceAll_append.mpr ⟨s.built, hpre, Built.advanceAll_cons.mpr ⟨_, hok, rfl⟩⟩
          have hnext := ih (by rw [htodo, List.append_assoc]; rfl) hpre' ((hf.trans hf₁).trans hf₂)
            hrest
          rwa [List.append_assoc] at hnext
      · cases habsurd
    · rcases bind_cases hfirst with ⟨_, s₁, hcheck, hadv⟩ | ⟨e', hcheck, heq⟩
      · obtain ⟨hf₁, hw, -⟩ := checkpoint_cases hcheck
        -- a build that cannot be cancelled is not cancelled before either
        have hne : ∀ h : s₁.interrupt ≠ .never, s₀.interrupt ≠ .never :=
          fun h hn => h ((hf.trans hf₁).never hn)
        have hb : s₁.built = s.built := by rw [BuildState.built, hw]
        cases advance_cases husual (Built.ne_changed_of_mem_stages ht) hadv with
        | failed hfail =>
          rw [hb] at hfail
          refine ⟨hf.trans hf₁, Or.inr ?_⟩
          rw [hb]
          exact .failed hprogress hdue hfail
        | cancelled hi hf₂ hhalts =>
          rw [hb] at hhalts
          exact ⟨(hf.trans hf₁).trans hf₂, Or.inr (.inside (hne hi) hprogress hdue hhalts)⟩
      · cases heq
        obtain ⟨hf₁, hw, hr⟩ := checkpoint_cases hcheck
        obtain ⟨herr, hi⟩ := hr.resolve_left (by simp)
        have hb : s'.built = s.built := by rw [BuildState.built, hw]
        refine ⟨hf.trans hf₁, Or.inr ?_⟩
        rw [hb, herr]
        exact .between (fun hn => hi (hf.never hn)) hprogress

theorem runStage_cases (husual : services.Usual) (hq : s.workspace.listeners.Quiet)
    (hk : s.built.Keyed) (ht : t ∈ Built.stages)
    (hearlier : ∀ t' ∈ Built.stages, t' < t → s.built.todo t' uris = [])
    (h : runStage services uris t s = (r, s')) :
    s.Frame s' ∧
      ((r = .ok () ∧ s.built.advanceAll services t (s.built.todo t uris) = .ok s'.built) ∨
        Built.Stopped services uris s.interrupt s.built r s'.built) := by
  rw [runStage, get_bind_run] at h
  by_cases hempty : (s.built.todo t uris).isEmpty
  · rw [if_pos hempty] at h
    cases h
    rw [List.isEmpty_iff.mp hempty]
    exact ⟨.refl s, Or.inl ⟨rfl, rfl⟩⟩
  · rw [if_neg hempty] at h
    rcases bind_cases h with ⟨_, s₁, heach, hnotify⟩ | ⟨e, heach, rfl⟩
    · obtain ⟨hf, hcases⟩ := each_advance_cases husual ht hk hearlier (List.nil_append _).symm rfl
        (.refl s) heach
      obtain ⟨-, hok⟩ := hcases.resolve_right nofun
      obtain ⟨hf', hb, hr⟩ := notify_cases (hf.quiet hq) hnotify
      rw [List.nil_append] at hok
      refine ⟨hf.trans hf', ?_⟩
      rw [hb]
      rcases hr with rfl | ⟨rfl, hne⟩
      · exact Or.inl ⟨rfl, hok⟩
      · exact Or.inr (.between (fun hn => hne (hf.never hn))
          (Built.progress_of_todo hk ht hearlier (List.append_nil _).symm hok))
    · obtain ⟨hf, hcases⟩ := each_advance_cases husual ht hk hearlier (List.nil_append _).symm rfl
        (.refl s) heach
      exact ⟨hf, Or.inr (hcases.resolve_left nofun)⟩

/-! ## All stages -/

/-- **The stages of a build, one after the other.** -/
theorem each_stage_cases (husual : services.Usual) (hq : s.workspace.listeners.Quiet)
    (hk : s.built.Keyed) {done rest : List DocumentState} (hsplit : Built.stages = done ++ rest)
    (hdone : ∀ t' ∈ done, s.built.todo t' uris = [])
    (h : each (runStage services uris) rest s = (r, s')) :
    s.Frame s' ∧
      ((r = .ok () ∧ Built.through services uris rest s.built = .ok s'.built) ∨
        Built.Stopped services uris s.interrupt s.built r s'.built) := by
  induction rest generalizing done s with
  | nil =>
    cases h
    exact ⟨.refl _, Or.inl ⟨rfl, rfl⟩⟩
  | cons t rest ih =>
    have ht := Built.mem_stages_of_eq hsplit
    have hearlier := Built.todo_nil_of_done hsplit hdone
    rw [each] at h
    rcases bind_cases h with ⟨_, s₁, hstage, hrest⟩ | ⟨e, hstage, rfl⟩
    · obtain ⟨hf, hcases⟩ := runStage_cases husual hq hk ht hearlier hstage
      obtain ⟨-, hok⟩ := hcases.resolve_right fun hstopped => by cases hstopped
      have hprogress := Built.progress_of_todo hk ht hearlier (List.append_nil _).symm hok
      obtain ⟨hf', hcases'⟩ := ih (hf.quiet hq) (hprogress.keyed hk)
        (by rw [hsplit, List.append_assoc]; rfl) (Built.done_advanceAll hk hsplit hdone hok) hrest
      refine ⟨hf.trans hf', hcases'.imp ?_ ?_⟩
      · rintro ⟨rfl, hthrough⟩
        exact ⟨rfl, Built.through_cons.mpr ⟨_, hok, hthrough⟩⟩
      · exact Built.Stopped.after hprogress hf.never
    · obtain ⟨hf, hcases⟩ := runStage_cases husual hq hk ht hearlier hstage
      exact ⟨hf, Or.inr (hcases.resolve_left (by simp))⟩

/-! ## A whole build -/

theorem each_congr {α : Type} {f g : α → Build Unit} {l : List α}
    (h : ∀ a ∈ l, ∀ s, f a s = g a s) (s : BuildState) : each f l s = each g l s := by
  induction l generalizing s with
  | nil => rfl
  | cons a rest ih =>
    rw [each, each, bind_run, bind_run, h a List.mem_cons_self]
    cases g a s with
    | mk o s₁ =>
      cases o with
      | ok _ => exact ih (fun a' ha' => h a' (List.mem_cons_of_mem _ ha')) s₁
      | error e => rfl

theorem each_append {α : Type} (f : α → Build Unit) (l l' : List α) (s : BuildState) :
    each f (l ++ l') s = (each f l >>= fun _ => each f l') s := by
  induction l generalizing s with
  | nil => rfl
  | cons a rest ih =>
    rw [List.cons_append, each, each, bind_run, bind_run, bind_run]
    cases f a s with
    | mk o s₁ =>
      cases o with
      | ok _ =>
        dsimp only
        rw [ih, bind_run]
      | error e => rfl

/-- A phase other than that of validation is for the documents before it. -/
theorem runPhase_eq_runStage (ht : t ≠ .validated) (s : BuildState) :
    runPhase services uris t s = runStage services uris t s := by
  have hbefore : before s.workspace t uris = s.built.todo t uris := by
    refine List.filter_congr fun uri _ => ?_
    have hawaits : ∀ d : Document, d.awaits t = decide (d.state < t) := by
      intro d
      rw [Document.awaits, bne_iff_ne.mpr ht, Bool.true_or, Bool.and_true]
    rw [show s.built.documents.get? uri = s.workspace.document? uri from rfl]
    cases s.workspace.document? uri with
    | none => rfl
    | some d => exact (hawaits d).symm
  rw [runPhase, runStage, get_bind_run, get_bind_run, hbefore]

/-- The phase of validation is for the documents that ask for it. -/
theorem runPhase_validated_eq_runStage (s : BuildState) :
    runPhase services
        (uris.filter fun uri => (s.workspace.document? uri).any fun d => d.build == some .all)
        .validated s = runStage services uris .validated s := by
  have hbefore : before s.workspace .validated
      (uris.filter fun uri => (s.workspace.document? uri).any fun d => d.build == some .all) =
      s.built.todo .validated uris := by
    rw [before, List.filter_filter]
    refine List.filter_congr fun uri _ => ?_
    rw [show s.built.documents.get? uri = s.workspace.document? uri from rfl]
    cases s.workspace.document? uri with
    | none => rfl
    | some d => simp [Document.awaits]
  rw [runPhase, runStage, get_bind_run, get_bind_run, hbefore]

theorem foldl_modifyDocument (f : Document → Document) (w : Workspace) (uris : List Uri) :
    uris.foldl (fun w uri => w.modifyDocument uri f) w =
      { w with documents := (w.built.modifyAll f uris).documents } := by
  induction uris generalizing w with
  | nil => rfl
  | cons u rest ih =>
    rw [List.foldl_cons, ih]
    rfl

/-- **A build is its stages between marking its documents and clearing the
marks.** -/
theorem documents_eq (options : ValidationMode) (s : BuildState) :
    documents services uris options s =
      match each (runStage services uris) Built.stages
        (s.withDocuments (s.built.mark options uris).documents) with
      | (.ok _, s₁) => (.ok (), s₁.withDocuments (s₁.built.clear uris).documents)
      | (.error e, s₁) => (.error e, s₁) := by
  have hmarked : ({ s with workspace := uris.foldl (fun w uri => w.modifyDocument uri fun d =>
      { d with build := some (d.build.getD options) }) s.workspace } : BuildState) =
      s.withDocuments (s.built.mark options uris).documents := by
    rw [foldl_modifyDocument]
    rfl
  -- validation comes last and has its own loop
  have hstages : Built.stages =
      [.parsed, .indexedContent, .computedScopes, .linked] ++ [.validated] := rfl
  have hfirst : ∀ t ∈ [DocumentState.parsed, .indexedContent, .computedScopes, .linked],
      ∀ s, runPhase services uris t s = runStage services uris t s := by
    intro t ht
    refine runPhase_eq_runStage ?_
    rintro rfl
    revert ht
    decide
  rw [documents, bind_run, each_change]
  dsimp only
  rw [hmarked, bind_run, each_congr hfirst, hstages, each_append, bind_run]
  cases each (runStage services uris) [.parsed, .indexedContent, .computedScopes, .linked]
    (s.withDocuments (s.built.mark options uris).documents) with
  | mk o s₁ =>
    cases o with
    | error e => rfl
    | ok _ =>
      dsimp only
      rw [get_bind_run, bind_run, runPhase_validated_eq_runStage, each, bind_run]
      cases runStage services uris .validated s₁ with
      | mk o s₂ =>
        cases o with
        | error e => rfl
        | ok _ =>
          dsimp only
          rw [each_change, foldl_modifyDocument]
          rfl

theorem documents_cases {options : ValidationMode} (husual : services.Usual)
    (hq : s.workspace.listeners.Quiet) (hk : s.built.Keyed)
    (h : documents services uris options s = (r, s')) :
    s.Frame s' ∧ s.built.Builds services uris options s.interrupt r s'.built := by
  have hframe : s.Frame (s.withDocuments (s.built.mark options uris).documents) := ⟨rfl, rfl, id⟩
  have hbuilt : (s.withDocuments (s.built.mark options uris).documents).built =
      s.built.mark options uris := rfl
  rw [documents_eq] at h
  cases hrun : each (runStage services uris) Built.stages
      (s.withDocuments (s.built.mark options uris).documents) with
  | mk o s₁ =>
    obtain ⟨hf, hcases⟩ := each_stage_cases husual (hframe.quiet hq) (hk.mark options)
      (List.nil_append _).symm nofun hrun
    rw [hbuilt] at hcases
    rw [hrun] at h
    cases o with
    | error e =>
      cases h
      exact ⟨hframe.trans hf, .stopped (hcases.resolve_left nofun)⟩
    | ok _ =>
      cases h
      obtain ⟨-, hthrough⟩ := hcases.resolve_right nofun
      exact ⟨hframe.trans (hf.trans ⟨rfl, rfl, id⟩), .done hthrough⟩

end Build
end Workbench
