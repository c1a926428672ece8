import Workbench.Proofs.Worker.Lock
import Workbench.Proofs.Workspace.Attained
import Workbench.Proofs.Workspace.Consistent
/-!
# Updates that wait for their turns

Updates are writes of a lock: they have their turns in the order in which they
were submitted, and each cancels the one before it, which may be under way or
may still wait. Nothing is lost by that. An update that is cancelled has taken
in its batch, for it does so before the first point at which it can be
cancelled, and what it leaves to be built is found by the next update, from
the states and the marks of the documents alone.
-/

namespace Workbench

/-! ## Batches -/

/-- **A batch of changes**, as it is submitted. -/
structure Batch where
  changed : List Uri
  deleted : List Uri
deriving DecidableEq, Repr, Inhabited

/-- The documents that are there after a batch: those it deletes are gone, and
then those it changes are there, new ones behind the others. -/
def Batch.track (b : Batch) (tracked : List Uri) : List Uri :=
  b.changed.foldl (fun tracked uri => if uri ∈ tracked then tracked else tracked ++ [uri])
    (tracked.filter (· ∉ b.deleted))

namespace Workspace

section

variable {services : Services} {w w' : Workspace} {changed deleted : List Uri} {uri : Uri}
  {d : Document}

theorem keys_drops (w : Workspace) (deleted : List Uri) :
    (deleted.foldl drop w).documents.keys = w.documents.keys.filter (· ∉ deleted) := by
  induction deleted generalizing w with
  | nil => simp
  | cons u rest ih =>
    have hkeys : (w.drop u).documents.keys = w.documents.keys.filter (!· == u) :=
      OrderedMap.keys_erase _ _
    rw [List.foldl_cons, ih, hkeys, List.filter_filter]
    refine List.filter_congr fun v _ => ?_
    by_cases hv : v = u <;> simp [hv]

theorem keys_take (h : w.take uri = .ok w') :
    w'.documents.keys =
      if uri ∈ w.documents.keys then w.documents.keys else w.documents.keys ++ [uri] := by
  obtain ⟨text, -, ⟨hc, rfl⟩ | ⟨hc, rfl⟩⟩ := take_cases h
  · rw [if_pos (OrderedMap.mem_keys_iff.mpr (OrderedMap.contains_iff.mp hc))]
    exact (OrderedMap.keys_modify _ _ _).trans (OrderedMap.keys_modify _ _ _)
  · have hnot : uri ∉ w.documents.keys := by
      intro hmem
      rw [OrderedMap.contains_iff.mpr (OrderedMap.mem_keys_iff.mp hmem)] at hc
      cases hc
    rw [if_neg hnot]
    exact OrderedMap.keys_insert_of_not_mem hnot _

theorem keys_takes (h : (attemptAll take changed w).1 = none) :
    (attemptAll take changed w).2.documents.keys =
      changed.foldl (fun tracked uri => if uri ∈ tracked then tracked else tracked ++ [uri])
        w.documents.keys := by
  induction changed generalizing w with
  | nil => rfl
  | cons u rest ih =>
    rw [attemptAll] at h ⊢
    cases htake : w.take u with
    | error e =>
      rw [htake] at h
      cases h
    | ok w₁ =>
      rw [htake] at h
      rw [List.foldl_cons, ← keys_take htake]
      exact ih h

theorem keys_relink (w : Workspace) (batch : List Uri) :
    (Build.relink w batch).documents.keys = w.documents.keys := by
  refine foldl_invariant (P := fun w' => w'.documents.keys = w.documents.keys)
    (fun w' d h => ?_) rfl _
  split
  · exact h
  · split
    · exact (OrderedMap.keys_modify _ _ _).trans h
    · exact h

/-- **A batch decides which documents are there.** -/
theorem keys_prepared (hreads : w.Reads changed) (deleted : List Uri) :
    (w.prepared changed deleted).documents.keys =
      (Batch.mk changed deleted).track w.documents.keys := by
  have htaken : (w.taken changed deleted).2.documents.keys =
      (Batch.mk changed deleted).track w.documents.keys := by
    rw [Batch.track, ← keys_drops]
    exact keys_takes ((taken_eq_none_iff w changed deleted).mpr hreads)
  rw [prepared]
  split
  · rw [keys_relink, htaken]
  · exact htaken

theorem text_renewed (w : Workspace) (uri : Uri) (text : String) :
    (w.renewed uri text).text = text := by
  rw [renewed]
  split <;> rfl

theorem text_takes (h : (attemptAll take changed w).1 = none)
    (hd : (attemptAll take changed w).2.document? uri = some d) :
    uri ∈ changed ∧ w.files.read uri = .ok d.text ∨ uri ∉ changed ∧ w.document? uri = some d := by
  induction changed generalizing w with
  | nil => exact Or.inr ⟨List.not_mem_nil, hd⟩
  | cons u rest ih =>
    rw [attemptAll] at h hd
    cases htake : w.take u with
    | error e =>
      rw [htake] at h
      cases h
    | ok w₁ =>
      rw [htake] at h hd
      obtain ⟨text, hread, hget⟩ := document?_take htake
      rcases ih h hd with ⟨hin, htext⟩ | ⟨hnot, hd₁⟩
      · rw [(kept_take htake).files] at htext
        exact Or.inl ⟨List.mem_cons_of_mem _ hin, htext⟩
      · rw [hget] at hd₁
        split at hd₁
        next huri =>
          subst huri
          cases hd₁
          rw [text_renewed]
          exact Or.inl ⟨List.mem_cons_self, hread⟩
        next huri =>
          refine Or.inr ⟨fun hin => ?_, hd₁⟩
          exact (List.mem_cons.mp hin).elim huri hnot

/-- **A document has the text that its file had for the batch**, if the batch
names it as changed, and else the text it had. -/
theorem text_prepared (hreads : w.Reads changed)
    (hd : (w.prepared changed deleted).document? uri = some d) :
    uri ∈ changed ∧ w.files.read uri = .ok d.text ∨
      uri ∉ changed ∧ ∃ d₀, w.document? uri = some d₀ ∧ d.text = d₀.text := by
  have htaken : ∀ d, (w.taken changed deleted).2.document? uri = some d →
      uri ∈ changed ∧ w.files.read uri = .ok d.text ∨
        uri ∉ changed ∧ ∃ d₀, w.document? uri = some d₀ ∧ d.text = d₀.text := by
    intro d hd
    have hall := (taken_eq_none_iff w changed deleted).mpr hreads
    rcases text_takes hall hd with hread | ⟨hnot, hsame⟩
    · rw [(kept_drops w deleted).files] at hread
      exact Or.inl hread
    · rcases drops_cases w deleted uri with ⟨-, hnone⟩ | ⟨-, hout⟩
      · rw [hnone] at hsame
        cases hsame
      · rw [hout.document] at hsame
        exact Or.inr ⟨hnot, d, hsame, rfl⟩
  have hrelinked : ∀ batch d',
      (Build.relink (w.taken changed deleted).2 batch).document? uri = some d' →
      ∃ d, (w.taken changed deleted).2.document? uri = some d ∧ d'.text = d.text := by
    intro batch
    refine foldl_invariant (P := fun w' => ∀ d', w'.document? uri = some d' →
      ∃ d, (w.taken changed deleted).2.document? uri = some d ∧ d'.text = d.text)
      (fun w' e h => ?_) (fun d hd => ⟨d, hd, rfl⟩) _
    split
    · exact h
    · split
      · intro d' hd'
        rw [document?_resetTo] at hd'
        split at hd'
        next huri =>
          obtain ⟨d, hd, rfl⟩ := Option.map_eq_some_iff.mp hd'
          exact h d (huri ▸ hd)
        next => exact h d' hd'
      · exact h
  rw [prepared] at hd
  split at hd
  · obtain ⟨d₁, hd₁, htext⟩ := hrelinked _ d hd
    rw [htext]
    exact htaken d₁ hd₁
  · exact htaken d hd

end

end Workspace

/-! ## Updates that come through -/

/-- Nothing is left to be built. -/
def Workspace.Done (w : Workspace) : Prop :=
  ∀ uri d, w.document? uri = some d → .linked ≤ d.state ∧ d.isPending = false

namespace Workspace

section

variable {services : Services} {w w' : Workspace} {changed deleted : List Uri}
  {interrupt : Interrupt} {r : Except Stop Unit}

theorem not_waits_iff {d : Document} :
    ¬ Built.waits d = true ↔ .linked ≤ d.state ∧ d.isPending = false := by
  rw [Built.waits, Bool.or_eq_true, not_or, decide_eq_true_eq, Bool.not_eq_true]
  exact and_congr_left fun _ => Nat.not_lt

theorem awaiting_eq_nil_iff (hnodup : w.documents.keys.Nodup) (hk : w.built.Keyed) :
    w.built.awaiting = [] ↔ w.Done := by
  rw [List.eq_nil_iff_forall_not_mem]
  constructor
  · intro hnone uri d hd
    exact not_waits_iff.mp fun hwaits =>
      hnone uri ((Built.mem_awaiting hnodup hk).mpr ⟨d, hd, hwaits⟩)
  · intro hdone uri hmem
    obtain ⟨d, hd, hwaits⟩ := (Built.mem_awaiting hnodup hk).mp hmem
    exact not_waits_iff.mpr (hdone uri d hd) hwaits

/-- **An update that comes through leaves nothing to be built**, also of what
updates before it have left. -/
theorem done_update (h : w.Proper services) (hreads : w.Reads changed)
    (hrun : (Build.update services changed deleted).run w interrupt = (.ok (), w')) : w'.Done := by
  obtain ⟨s', hupdate, rfl⟩ := Build.run_cases hrun
  have hprepared := h.prepared changed deleted
  have hresult := update_result (s := ⟨w, interrupt⟩) hprepared.keyed hreads hupdate
  intro uri d' hd'
  by_cases hin : uri ∈ (w.prepared changed deleted).built.awaiting
  · obtain ⟨hstate, hbuild⟩ := hresult.finished rfl uri hin d' hd'
    exact ⟨hstate, by rw [Document.isPending, hbuild]; rfl⟩
  · -- what the update did not build was neither marked nor behind
    obtain ⟨d, hd, hcourse, -⟩ := hresult.document uri d' hd'
    obtain ⟨d₀, hd₀, hbuild⟩ := hresult.others uri hin d' hd'
    obtain rfl : d₀ = d := Option.some.inj (hd₀.symm.trans hd)
    obtain ⟨hstate, hpending⟩ := not_waits_iff.mp fun hwaits =>
      hin ((Built.mem_awaiting hprepared.nodup hprepared.keyed).mpr ⟨d₀, hd, hwaits⟩)
    refine ⟨Nat.le_trans hstate hcourse.onward, ?_⟩
    rw [Document.isPending, hbuild]
    exact hpending

theorem runStage_nil (t : DocumentState) (s : BuildState) :
    Build.runStage services [] t s = (.ok (), s) := rfl

/-- **An update without changes does nothing to a workspace in which nothing is
left to be built**, except that listeners are told that it was asked for. -/
theorem update_done (h : w.Proper services) (hdone : w.Done)
    (hrun : (Build.update services [] []).run w interrupt = (.ok (), w')) :
    w' = Build.told w [] [] := by
  obtain ⟨s', hupdate, rfl⟩ := Build.run_cases hrun
  have htaken : (w.taken [] []).1 = none := rfl
  rw [Build.update_eq, htaken] at hupdate
  dsimp only at hupdate
  rw [prepared_nil] at hupdate
  rcases Build.bind_cases hupdate with ⟨_, s₁, hcheck, hrest⟩ | ⟨e, -, hr⟩
  · obtain ⟨-, hw, -⟩ := Build.checkpoint_cases hcheck
    have hbuilt : s₁.built = w.built := by
      rw [BuildState.built, hw]
      exact (Build.built_told w [] []).1
    rw [Build.get_bind_run, hbuilt, (awaiting_eq_nil_iff h.nodup h.keyed).mpr hdone,
      Build.documents_eq] at hrest
    have hstages : Build.each (Build.runStage services []) Built.stages s₁ = (.ok (), s₁) := by
      simp only [Built.stages, Build.each, Build.bind_run, runStage_nil]
      rfl
    have hmark : s₁.withDocuments (s₁.built.mark services.updateBuild []).documents = s₁ := rfl
    rw [hmark, hstages] at hrest
    cases hrest
    exact hw
  · cases hr

end

end Workspace

/-! ## The lock and its updates -/

/-- **A turn of an update**: its batch, the files that it found, and how it
ended. -/
structure Turn where
  batch : Batch
  files : FileSystem
  result : Except Stop Unit

/-- **Runs of a lock whose writes are updates of a workspace.** `queued` are the
updates that were submitted, with their tickets, and `turns` those that had
their turns.

Updates are submitted at any time. When the lock takes an update out of its
queue, the update is run, and can find all files of its batch: with a token
that is fired if the update was cancelled while it waited, and else with any
interrupt. In between the lock serves other calls and runs its tasks, files
are edited, and listeners come and go. -/
inductive Managed (services : Services) (start : Workspace) :
    List (Nat × Batch) → WorkspaceLock → List Turn → Workspace → Prop
  | start : Managed services start [] .empty [] start
  | submit {queued : List (Nat × Batch)} {l : WorkspaceLock} {turns : List Turn} {w : Workspace}
      (batch : Batch) (label : String) (body : List Lock.Act) :
      Managed services start queued l turns w →
      Managed services start (queued ++ [(l.tickets.length, batch)])
        (l.serve (.submit .write label none body)) turns w
  | call {queued : List (Nat × Batch)} {l : WorkspaceLock} {turns : List Turn} {w : Workspace}
      (call : Lock.Call) : Managed services start queued l turns w →
      (l.serve call).writes = l.writes → Managed services start queued (l.serve call) turns w
  | idle {queued : List (Nat × Batch)} {l l' : WorkspaceLock} {turns : List Turn} {w : Workspace}
      {place : Nat} : Managed services start queued l turns w → l.step place = some l' →
      l'.writes = l.writes → Managed services start queued l' turns w
  | turn {queued : List (Nat × Batch)} {l l' : WorkspaceLock} {turns : List Turn} {w w' : Workspace}
      {place t : Nat} {a : Lock.Ticket} {batch : Batch} {interrupt : Interrupt}
      {r : Except Stop Unit} : Managed services start queued l turns w → l.step place = some l' →
      l.writes = t :: l'.writes → l.ticket? t = some a → (t, batch) ∈ queued →
      (a.cancelled = true → interrupt = .fired) → w.Reads batch.changed →
      (Build.update services batch.changed batch.deleted).run w interrupt = (r, w') →
      Managed services start queued l' (turns ++ [⟨batch, w.files, r⟩]) w'
  | edit {queued : List (Nat × Batch)} {l : WorkspaceLock} {turns : List Turn} {w : Workspace}
      (files : FileSystem) : Managed services start queued l turns w →
      Managed services start queued l turns { w with files := files }
  | listen {queued : List (Nat × Batch)} {l : WorkspaceLock} {turns : List Turn} {w : Workspace}
      (listeners : Listeners) : Managed services start queued l turns w →
      Managed services start queued l turns { w with listeners := listeners }

namespace WorkspaceLock

variable {l l' : WorkspaceLock}

/-- Tickets are never taken back. -/
theorem Onward.length_le (h : l.Onward l') : l.tickets.length ≤ l'.tickets.length := by
  by_contra hlt
  have hlt' : l'.tickets.length < l.tickets.length := by omega
  obtain ⟨b, hb, -⟩ := h.old l'.tickets.length _ (List.getElem?_eq_getElem hlt')
  exact absurd (ticket?_lt hb) (Nat.lt_irrefl _)

theorem length_cancelWrite (l : WorkspaceLock) :
    l.cancelWrite.tickets.length = l.tickets.length := by
  rw [cancelWrite]
  split
  · exact List.length_modify _ _ _
  · rfl

/-- A write that is submitted gets the next ticket, and goes behind the writes
that wait. -/
theorem submit_write (l : WorkspaceLock) (label : String) (refusal : Option String)
    (body : List Lock.Act) :
    (l.submit .write label refusal body).tickets.length = l.tickets.length + 1 ∧
      (l.submit .write label refusal body).writes = l.writes ++ [l.tickets.length] := by
  simp only [submit]
  rw [tickets_ensureDriver, (turns_ensureDriver _).1]
  exact ⟨(length_cancelWrite _).trans List.length_append, rfl⟩

/-- **A step leaves the queue of writes alone or takes the first**, unless it is
a step of an action that submits a write. -/
theorem step_writes {place : Nat} (h : l.step place = some l') :
    l'.writes = l.writes ∨ (∃ t, l.writes = t :: l'.writes) ∨
      ∃ label refusal body, l.callAt? place = some (.submit .write label refusal body) := by
  obtain ⟨task, before, after, -, htask, heffect⟩ := step_effect h
  rw [callAt?, htask, Option.bind_some]
  cases heffect with
  | startWrite _ hqueue => exact Or.inr (Or.inl ⟨_, hqueue⟩)
  | refuseWrite _ hqueue => exact Or.inr (Or.inl ⟨_, hqueue⟩)
  | refuseJob => exact Or.inl (turns_readIsOver _ _).1
  | endJob => exact Or.inl (turns_readIsOver _ _).1
  | finish => exact Or.inl (turns_endAction _ _ _ _).1
  | @call t a act rest call hticket hruns _ hcall =>
    have hticket' : l.ticket? t = some a := hticket
    have hcall' : l.callOf? (.action t) = some call := by
      rw [callOf?, hticket', Option.map_some, hruns]
      exact hcall
    rw [hcall']
    cases call with
    | submit kind label refusal body =>
      cases kind with
      | write => exact Or.inr (Or.inr ⟨label, refusal, body, rfl⟩)
      | read => exact Or.inl (turns_ensureDriver _).1
      | immediate => exact Or.inl rfl
    | cancelWrite => exact Or.inl (alike_cancelWrite _).writes
    | _ => exact Or.inl rfl
  | _ => exact Or.inl rfl

end WorkspaceLock

namespace Managed

variable {services : Services} {start w : Workspace} {queued : List (Nat × Batch)}
  {l : WorkspaceLock} {turns : List Turn}

/-! ### The queue -/

/-- The lock is in a run of its own. -/
theorem run (h : Managed services start queued l turns w) : ∃ calls, WorkspaceLock.Run calls l := by
  induction h with
  | start => exact ⟨_, .start⟩
  | submit batch label body _ ih => exact ih.imp' _ fun _ hrun => hrun.call _
  | call call _ _ ih => exact ih.imp' _ fun _ hrun => hrun.call call
  | idle _ hstep _ ih => exact ih.imp' _ fun _ hrun => hrun.step hstep
  | turn _ hstep _ _ _ _ _ _ ih => exact ih.imp' _ fun _ hrun => hrun.step hstep
  | edit _ _ ih => exact ih
  | listen _ _ ih => exact ih

theorem onward (h : Managed services start queued l turns w) {place : Nat} {l' : WorkspaceLock}
    (hstep : l.step place = some l') : l.Onward l' := by
  obtain ⟨calls, hrun⟩ := h.run
  exact hrun.orderly.step_onward hstep

/-- **No two updates have one ticket.** -/
theorem tickets (h : Managed services start queued l turns w) :
    (∀ t ∈ queued.map Prod.fst, t < l.tickets.length) ∧ (queued.map Prod.fst).Nodup := by
  induction h with
  | start => exact ⟨nofun, List.nodup_nil⟩
  | @submit queued l _ _ batch label body _ ih =>
    obtain ⟨hlt, hnodup⟩ := ih
    have hlength : (l.serve (.submit .write label none body)).tickets.length =
        l.tickets.length + 1 := (l.submit_write label none body).1
    rw [List.map_append, List.map_singleton, hlength]
    refine ⟨fun t ht => ?_, ?_⟩
    · rcases List.mem_append.mp ht with hin | hlast
      · exact Nat.lt_succ_of_lt (hlt t hin)
      · rw [List.mem_singleton.mp hlast]
        exact Nat.lt_succ_self _
    · rw [List.nodup_append]
      refine ⟨hnodup, List.nodup_singleton _, fun t ht u hu => ?_⟩
      rw [List.mem_singleton.mp hu]
      exact Nat.ne_of_lt (hlt t ht)
  | @call _ l _ _ call _ _ ih =>
    exact ⟨fun t ht => Nat.lt_of_lt_of_le (ih.1 t ht) (l.onward_serve call).length_le, ih.2⟩
  | idle h hstep _ ih =>
    exact ⟨fun t ht => Nat.lt_of_lt_of_le (ih.1 t ht) (h.onward hstep).length_le, ih.2⟩
  | turn h hstep _ _ _ _ _ _ ih =>
    exact ⟨fun t ht => Nat.lt_of_lt_of_le (ih.1 t ht) (h.onward hstep).length_le, ih.2⟩
  | edit _ _ ih => exact ih
  | listen _ _ ih => exact ih

/-- **Updates have their turns in the order in which they were submitted**, and
those that wait are the writes in the queue of the lock. -/
theorem in_order (h : Managed services start queued l turns w) :
    ∃ had waiting, queued = had ++ waiting ∧ had.map Prod.snd = turns.map Turn.batch ∧
      waiting.map Prod.fst = l.writes := by
  induction h with
  | start => exact ⟨[], [], rfl, rfl, rfl⟩
  | @submit queued l _ _ batch label body _ ih =>
    obtain ⟨had, waiting, rfl, hhad, hwaiting⟩ := ih
    refine ⟨had, waiting ++ [(l.tickets.length, batch)], List.append_assoc _ _ _, hhad, ?_⟩
    rw [List.map_append, hwaiting]
    exact (l.submit_write label none body).2.symm
  | call call _ hwrites ih =>
    rw [hwrites]
    exact ih
  | idle _ _ hwrites ih =>
    rw [hwrites]
    exact ih
  | @turn queued l l' _ w _ place t _ batch _ r h _ hwrites _ hmem _ _ _ ih =>
    obtain ⟨had, waiting, rfl, hhad, hwaiting⟩ := ih
    rw [hwrites] at hwaiting
    obtain ⟨⟨t', batch'⟩, rest, rfl, rfl, hrest⟩ := List.map_eq_cons_iff.mp hwaiting
    -- the batch is the one that was submitted with this ticket
    have hbatch : batch' = batch := by
      have hmem' : (t', batch') ∈ had ++ (t', batch') :: rest :=
        List.mem_append_right _ List.mem_cons_self
      exact congrArg Prod.snd (List.inj_on_of_nodup_map h.tickets.2 hmem' hmem rfl)
    subst hbatch
    refine ⟨had ++ [(t', batch')], rest, by simp, ?_, hrest⟩
    rw [List.map_append, List.map_append, hhad]
    rfl
  | edit _ _ ih => exact ih
  | listen _ _ ih => exact ih

/-- **No step of the lock is left out**: if the files of the updates can be
found, a run goes on with whatever the lock does. -/
theorem goes_on (h : Managed services start queued l turns w) {place : Nat} {l' : WorkspaceLock}
    (hstep : l.step place = some l')
    (hact : ∀ label refusal body, l.callAt? place ≠ some (.submit .write label refusal body))
    (hreads : ∀ e ∈ queued, w.Reads e.2.changed) :
    ∃ turns' w', Managed services start queued l' turns' w' := by
  rcases WorkspaceLock.step_writes hstep with hwrites | ⟨t, hwrites⟩ | ⟨label, refusal, body, hcall⟩
  · exact ⟨turns, w, h.idle hstep hwrites⟩
  · obtain ⟨had, waiting, rfl, -, hwaiting⟩ := h.in_order
    rw [hwrites] at hwaiting
    obtain ⟨⟨t', batch⟩, rest, rfl, rfl, -⟩ := List.map_eq_cons_iff.mp hwaiting
    have hmem : (t', batch) ∈ had ++ (t', batch) :: rest :=
      List.mem_append_right _ List.mem_cons_self
    have hlt := h.tickets.1 t' (List.mem_map_of_mem (f := Prod.fst) hmem)
    exact ⟨_, _, h.turn hstep hwrites (List.getElem?_eq_getElem hlt) hmem (fun _ => rfl)
      (hreads _ hmem) (Prod.eta _).symm⟩
  · exact absurd hcall (hact label refusal body)

/-! ### The workspace -/

theorem attained (hstart : Workspace.Attained services start)
    (h : Managed services start queued l turns w) : Workspace.Attained services w := by
  induction h with
  | start => exact hstart
  | submit _ _ _ _ ih => exact ih
  | call _ _ _ ih => exact ih
  | idle _ _ _ ih => exact ih
  | @turn _ _ _ _ _ _ _ _ _ batch _ _ _ _ _ _ _ _ _ hrun ih =>
    exact .call ih (show (Call.update batch.changed batch.deleted).run services _ _ = _ from hrun)
  | edit files _ ih => exact .edit files ih
  | listen listeners _ ih => exact .listen listeners ih

/-- **Every batch that had its turn is taken in**, however the update ended. -/
theorem keys (hstart : Workspace.Attained services start)
    (h : Managed services start queued l turns w) :
    w.documents.keys = (turns.map Turn.batch).foldl (fun tracked b => b.track tracked)
      start.documents.keys := by
  induction h with
  | start => rfl
  | submit _ _ _ _ ih => exact ih
  | call _ _ _ ih => exact ih
  | idle _ _ _ ih => exact ih
  | @turn _ _ _ turns w _ _ _ _ batch _ _ h _ _ _ _ _ hreads hrun ih =>
    obtain ⟨s', hupdate, rfl⟩ := Build.run_cases hrun
    have hprepared := (h.attained hstart).proper.prepared batch.changed batch.deleted
    have hresult := Workspace.update_result (s := ⟨w, _⟩) hprepared.keyed hreads hupdate
    rw [hresult.keys, Workspace.keys_prepared hreads, ih, List.map_append, List.foldl_append]
    rfl
  | edit _ _ ih => exact ih
  | listen _ _ ih => exact ih

/-- **A document has the text that its file had for the last batch** that named
it as changed. -/
theorem texts (hstart : Workspace.Attained services start)
    (h : Managed services start queued l turns w) {pre post : List Turn} {turn : Turn}
    (hturns : turns = pre ++ turn :: post) {uri : Uri} (hnamed : uri ∈ turn.batch.changed)
    (hlast : ∀ later ∈ post, uri ∉ later.batch.changed) {d : Document}
    (hd : w.document? uri = some d) : turn.files.read uri = .ok d.text := by
  induction h generalizing post d with
  | start =>
    have hlength := congrArg List.length hturns
    rw [List.length_append, List.length_cons, List.length_nil] at hlength
    omega
  | submit _ _ _ _ ih => exact ih hturns hlast hd
  | call _ _ _ ih => exact ih hturns hlast hd
  | idle _ _ _ ih => exact ih hturns hlast hd
  | @turn _ _ _ turns w _ _ _ _ batch _ r h _ _ _ _ _ hreads hrun ih =>
    obtain ⟨s', hupdate, rfl⟩ := Build.run_cases hrun
    have hprepared := (h.attained hstart).proper.prepared batch.changed batch.deleted
    have hresult := Workspace.update_result (s := ⟨w, _⟩) hprepared.keyed hreads hupdate
    obtain ⟨d₁, hd₁, hcourse, -⟩ := hresult.document uri d hd
    have htext : d.text = d₁.text := hcourse.text
    have hcases := Workspace.text_prepared hreads hd₁
    rw [htext]
    rcases List.eq_nil_or_concat post with rfl | ⟨post, last, rfl⟩
    · obtain ⟨rfl, hturn⟩ := List.append_inj' hturns rfl
      obtain rfl : _ = turn := List.singleton_inj.mp hturn
      exact (hcases.resolve_right fun hout => hout.1 hnamed).2
    · rw [List.concat_eq_append, ← List.cons_append, ← List.append_assoc] at hturns
      obtain ⟨rfl, hturn⟩ := List.append_inj' hturns rfl
      obtain rfl : _ = last := List.singleton_inj.mp hturn
      have hnot : uri ∉ batch.changed := hlast ⟨batch, w.files, r⟩ (by simp)
      obtain ⟨-, d₀, hd₀, htext₀⟩ := hcases.resolve_left fun hin => hnot hin.1
      rw [htext₀]
      exact ih rfl (fun later hlater => hlast later (by simp [hlater])) hd₀
  | edit _ _ ih => exact ih hturns hlast hd
  | listen _ _ ih => exact ih hturns hlast hd

theorem done (hstart : Workspace.Attained services start)
    (h : Managed services start queued l turns w) {last : Turn} (hlast : turns.getLast? = some last)
    (hok : last.result = .ok ()) : w.Done := by
  induction h with
  | start => cases hlast
  | submit _ _ _ _ ih => exact ih hlast
  | call _ _ _ ih => exact ih hlast
  | idle _ _ _ ih => exact ih hlast
  | turn h _ _ _ _ _ hreads hrun ih =>
    rw [List.getLast?_concat, Option.some.injEq] at hlast
    subst hlast
    obtain rfl : _ = Except.ok () := hok
    exact Workspace.done_update (h.attained hstart).proper hreads hrun
  | edit _ _ ih => exact ih hlast
  | listen _ _ ih => exact ih hlast

/-- **No update is lost, though each cancels the one before it.** When the last
update that had its turn came through, all batches up to it are taken in, one
after the other as they were submitted: the documents that are there are those
that the batches leave, each has the parse of the text that its file had for
the last batch that named it as changed, and each is linked and has no build
that has not ended. A following update without changes that comes through
changes no document and nothing in the index, and no listener of a phase is
told of anything. -/
theorem nothing_lost (hstart : Workspace.Attained services start)
    (h : Managed services start queued l turns w) {last : Turn} (hlast : turns.getLast? = some last)
    (hok : last.result = .ok ()) :
    (∃ waiting, queued.map Prod.snd = turns.map Turn.batch ++ waiting ∧
      waiting.length = l.writes.length) ∧
    w.documents.keys = (turns.map Turn.batch).foldl (fun tracked b => b.track tracked)
      start.documents.keys ∧
    (∀ pre turn post uri d, turns = pre ++ turn :: post → uri ∈ turn.batch.changed →
      (∀ later ∈ post, uri ∉ later.batch.changed) → w.document? uri = some d →
      ∃ text parse, turn.files.read uri = .ok text ∧ d.text = text ∧
        services.parser.parse text none .never = .ok (parse, .never) ∧ d.parse = some parse) ∧
    (∀ uri d, w.document? uri = some d → .linked ≤ d.state ∧ d.isPending = false) ∧
    ∀ interrupt w', (Build.update services [] []).run w interrupt = (.ok (), w') →
      w'.documents = w.documents ∧ w'.index = w.index ∧ ∀ t, w'.heard t = w.heard t := by
  have hproper := (h.attained hstart).proper
  have hdone := h.done hstart hlast hok
  refine ⟨?_, h.keys hstart, fun pre turn post uri d hturns hnamed hlater hd => ?_, hdone,
    fun interrupt w' hrun => ?_⟩
  · obtain ⟨had, waiting, rfl, hhad, hwaiting⟩ := h.in_order
    refine ⟨waiting.map Prod.snd, by rw [List.map_append, hhad], ?_⟩
    rw [← hwaiting, List.length_map, List.length_map]
  · have hparsed : .parsed ≤ d.state := Nat.le_trans (by decide) (hdone uri d hd).1
    obtain ⟨parse, hparse, hd'⟩ := hproper.parsed uri d hd hparsed
    exact ⟨d.text, parse, h.texts hstart hturns hnamed hlater hd, rfl, hparse, hd'⟩
  · obtain rfl := Workspace.update_done hproper hdone hrun
    have hbuilt := (Build.built_told w [] []).1
    exact ⟨congrArg Built.documents hbuilt, congrArg Built.index hbuilt,
      Workspace.heard_told w [] []⟩

end Managed

namespace Workspace

namespace Items

/-- A batch of both files. -/
def both : Batch := ⟨[first, second], []⟩

/-- A batch that deletes the first. -/
def without : Batch := ⟨[], [first]⟩

/-- The update for both, cancelled by the other before it starts. -/
def superseded : Except Stop Unit × Workspace :=
  (Build.update services [first, second] []).run (.ofFiles files) .fired

/-- The update that deletes the first. -/
def caughtUp : Except Stop Unit × Workspace :=
  (Build.update services [] [first]).run superseded.2 .never

/-- Both updates are submitted, and then each has its turn. -/
theorem managed : ∃ l, l.writes = [] ∧ Managed services (.ofFiles files) [(0, both), (1, without)] l
    [⟨both, files, superseded.1⟩, ⟨without, files, caughtUp.1⟩] caughtUp.2 := by
  have hempty : Managed services (.ofFiles files) [] .empty [] (.ofFiles files) := .start
  have hboth := Managed.submit both "both" [.check] hempty
  have hqueued := Managed.submit without "without" [.check] hboth
  have hfirst := @Managed.turn _ _ _ _ _ _ _ _ 0 0 _ both .fired _ hqueued rfl rfl rfl
    List.mem_cons_self (fun _ => rfl) (by decide +kernel) (Prod.eta superseded).symm
  have hended := @Managed.idle _ _ _ _ _ _ _ 0 hfirst rfl rfl
  have hresolved := @Managed.idle _ _ _ _ _ _ _ 0 hended rfl rfl
  have hsecond := @Managed.turn _ _ _ _ _ _ _ _ 0 1 _ without .never _ hresolved rfl rfl rfl
    (by decide) nofun (by decide +kernel) (Prod.eta caughtUp).symm
  exact ⟨_, rfl, hsecond⟩

end Items

/-- The second of two files was named by an update only that was cancelled
before it started; it is there when the update behind that comes through, with
the parse of the text that was read for the first. -/
theorem nothing_lost_superseded :
    Items.superseded.1 = .error (.failed .cancelled) ∧
    Items.caughtUp.1 = .ok () ∧
    Items.caughtUp.2.documents.keys = [Items.second] ∧
    ∃ d parse, Items.caughtUp.2.document? Items.second = some d ∧
      Items.files.read Items.second = .ok d.text ∧ d.parse = some parse ∧
      .linked ≤ d.state ∧ d.isPending = false ∧
      ∀ interrupt w', (Build.update Items.services [] []).run Items.caughtUp.2 interrupt =
        (.ok (), w') → w'.documents = Items.caughtUp.2.documents := by
  have hcancelled : Items.superseded.1 = .error (.failed .cancelled) := by decide +kernel
  have hok : Items.caughtUp.1 = .ok () := by decide +kernel
  obtain ⟨l, -, hmanaged⟩ := Items.managed
  obtain ⟨-, hkeys, htexts, hdone, hidle⟩ :=
    Managed.nothing_lost (.start Items.files) hmanaged rfl hok
  have htracked : Items.caughtUp.2.documents.keys = [Items.second] := by
    rw [hkeys]
    decide
  obtain ⟨d, hd⟩ := OrderedMap.mem_keys_iff.mp (htracked ▸ List.mem_singleton_self _)
  obtain ⟨text, parse, hread, rfl, -, hparse⟩ := htexts [] _ _ Items.second d rfl (by decide)
    (fun later hlater => by rw [List.mem_singleton.mp hlater]; exact nofun) hd
  obtain ⟨hstate, hpending⟩ := hdone _ d hd
  exact ⟨hcancelled, hok, htracked, d, parse, hd, hread, hparse, hstate, hpending,
    fun interrupt w' hrun => (hidle interrupt w' hrun).1⟩

end Workspace

end Workbench
