import Workbench.Workspace.Build
/-!
# What the operations of a build do

An operation of a build ends in a state, whether it was stopped or not. What
it does is therefore an equation over the state it starts in, and what
several do one after the other is read off backwards: their end is the end
of the first, if that was stopped, or else of those that follow.

Of a workspace, a build changes the documents, the index and what listeners
have noted. Listeners that only note do nothing else.
-/

namespace Workbench

/-! ## Listeners -/

/-- Whether listeners only note what they are told. -/
def Listeners.Quiet (l : Listeners) : Prop := ∀ entry ∈ l.ofPhases, entry.2.2 = .note

theorem Listeners.quiet_none : Listeners.none.Quiet := nofun

/-! ## What a build works on -/

/-- The part of a workspace that a build works on. -/
structure Built where
  documents : OrderedMap Uri Document
  index : Index
deriving Inhabited

/-- The part of a workspace that a build works on. -/
def Workspace.built (w : Workspace) : Built := ⟨w.documents, w.index⟩

/-- The part of a workspace that a build works on, while it does. -/
abbrev BuildState.built (s : BuildState) : Built := s.workspace.built

/-- What no build changes: the files, the listeners, and that an interrupt
never fires. -/
structure BuildState.Frame (s s' : BuildState) : Prop where
  files : s'.workspace.files = s.workspace.files
  listeners : s'.workspace.listeners = s.workspace.listeners
  never : s.interrupt = .never → s'.interrupt = .never

namespace BuildState.Frame

variable {s s' s'' : BuildState}

theorem refl (s : BuildState) : s.Frame s := ⟨rfl, rfl, id⟩

theorem trans (h : s.Frame s') (h' : s'.Frame s'') : s.Frame s'' :=
  ⟨h'.files.trans h.files, h'.listeners.trans h.listeners, fun hn => h'.never (h.never hn)⟩

theorem quiet (h : s.Frame s') (hq : s.workspace.listeners.Quiet) :
    s'.workspace.listeners.Quiet := by
  rw [h.listeners]
  exact hq

end BuildState.Frame

theorem Interrupt.never_of_check {i left : Interrupt} (h : i.check = some left) (hn : i = .never) :
    left = .never := by
  subst hn
  rw [check_never, Option.some.injEq] at h
  exact h.symm

namespace Build

variable {α β : Type} {s s' : BuildState} {r : Except Stop Unit}

/-- An operation was cancelled, which no interrupt does that never fires. -/
def Cancelled (s : BuildState) (r : Except Stop Unit) : Prop :=
  r = .error (.failed .cancelled) ∧ s.interrupt ≠ .never

theorem Cancelled.of_frame {s₀ : BuildState} (hf : s₀.Frame s) (h : Cancelled s r) :
    Cancelled s₀ r :=
  ⟨h.1, fun hn => h.2 (hf.never hn)⟩

/-! ## Equations -/

theorem bind_run (x : Build α) (f : α → Build β) (s : BuildState) :
    (x >>= f) s = match x s with
      | (.ok a, s₁) => f a s₁
      | (.error e, s₁) => (.error e, s₁) := by
  simp only [bind, ExceptT.bind, ExceptT.mk, StateT.bind]
  cases hx : x s with
  | mk o s₁ => cases o <;> rfl

@[simp] theorem pure_run (a : α) (s : BuildState) : (pure a : Build α) s = (.ok a, s) := rfl

@[simp] theorem get_run (s : BuildState) : (get : Build BuildState) s = (.ok s, s) := rfl

@[simp] theorem modify_run (f : BuildState → BuildState) (s : BuildState) :
    (modify f : Build Unit) s = (.ok (), f s) := rfl

@[simp] theorem throw_run (e : Stop) (s : BuildState) :
    (throw e : Build α) s = (.error e, s) := rfl

@[simp] theorem change_run (f : Workspace → Workspace) (s : BuildState) :
    change f s = (.ok (), { s with workspace := f s.workspace }) := rfl

theorem get_bind_run (f : BuildState → Build β) (s : BuildState) :
    ((get : Build BuildState) >>= f) s = f s s := by
  rw [bind_run, get_run]

theorem change_bind_run (f : Workspace → Workspace) (g : Unit → Build β) (s : BuildState) :
    (change f >>= g) s = g () { s with workspace := f s.workspace } := by
  rw [bind_run, change_run]

theorem attempt_run (f : Workspace → Except WorkspaceError Workspace) (s : BuildState) :
    attempt f s = match f s.workspace with
      | .ok w => (.ok (), { s with workspace := w })
      | .error e => (.error (.failed e), s) := by
  rw [attempt, get_bind_run]
  cases f s.workspace <;> rfl

theorem checkpoint_run (s : BuildState) :
    checkpoint s = match s.interrupt.check with
      | some left => (.ok (), { s with interrupt := left })
      | none => (.error (.failed .cancelled), s) := by
  rw [checkpoint, get_bind_run]
  cases s.interrupt.check <;> rfl

/-- The end of a run on a workspace is that of the operation. -/
theorem run_cases {action : Build α} {w w' : Workspace} {interrupt : Interrupt}
    {r : Except Stop α} (h : action.run w interrupt = (r, w')) :
    ∃ s', action ⟨w, interrupt⟩ = (r, s') ∧ s'.workspace = w' := by
  have hrun : action.run w interrupt =
      ((action ⟨w, interrupt⟩).1, (action ⟨w, interrupt⟩).2.workspace) := rfl
  rw [hrun, Prod.mk.injEq] at h
  exact ⟨(action ⟨w, interrupt⟩).2, Prod.ext h.1 rfl, h.2⟩

/-! ## Reading backwards -/

theorem bind_cases {x : Build α} {f : α → Build β} {r : Except Stop β}
    (h : (x >>= f) s = (r, s')) :
    (∃ a s₁, x s = (.ok a, s₁) ∧ f a s₁ = (r, s')) ∨ ∃ e, x s = (.error e, s') ∧ r = .error e := by
  rw [bind_run] at h
  cases hx : x s with
  | mk o s₁ =>
    rw [hx] at h
    cases o with
    | ok a => exact Or.inl ⟨a, s₁, rfl, h⟩
    | error e =>
      cases h
      exact Or.inr ⟨e, rfl, rfl⟩

/-- A point of cancellation does nothing but to ask. -/
theorem checkpoint_cases (h : checkpoint s = (r, s')) :
    s.Frame s' ∧ s'.workspace = s.workspace ∧ (r = .ok () ∨ Cancelled s r) := by
  rw [checkpoint_run] at h
  cases hc : s.interrupt.check with
  | none =>
    rw [hc] at h
    cases h
    refine ⟨.refl s, rfl, Or.inr ⟨rfl, fun hn => ?_⟩⟩
    rw [hn] at hc
    cases hc
  | some left =>
    rw [hc] at h
    cases h
    exact ⟨⟨rfl, rfl, Interrupt.never_of_check hc⟩, rfl, Or.inl rfl⟩

/-- Changes of the workspace for each item of a list. -/
theorem each_change (f : α → Workspace → Workspace) (items : List α) (s : BuildState) :
    each (fun a => change (f a)) items s =
      (.ok (), { s with workspace := items.foldl (fun w a => f a w) s.workspace }) := by
  induction items generalizing s with
  | nil => rfl
  | cons a rest ih => rw [each, change_bind_run, ih, List.foldl_cons]

/-! ## Telling listeners -/

/-- What listeners have noted is no part of the work. -/
@[simp] theorem built_note (w : Workspace) (event : Event) : (w.note event).built = w.built := rfl

theorem tell_note_cases {services : Services} {state : DocumentState} {uris : List Uri}
    (h : tell services state uris .note s = (r, s')) :
    s.Frame s' ∧ s'.built = s.built ∧ (r = .ok () ∨ Cancelled s r) := by
  rw [tell] at h
  rcases bind_cases h with ⟨_, s₁, hc, h⟩ | ⟨e, hc, rfl⟩
  · obtain ⟨hf, hw, -⟩ := checkpoint_cases hc
    rw [change_bind_run, pure_run] at h
    cases h
    refine ⟨hf.trans ⟨rfl, rfl, id⟩, ?_, Or.inl rfl⟩
    rw [BuildState.built, built_note, hw]
  · obtain ⟨hf, hw, hr⟩ := checkpoint_cases hc
    exact ⟨hf, by rw [BuildState.built, hw], hr⟩

/-- **Listeners that only note leave the work alone.** -/
theorem notify_cases {services : Services} {state : DocumentState} {uris : List Uri}
    (hq : s.workspace.listeners.Quiet) (h : notify services state uris s = (r, s')) :
    s.Frame s' ∧ s'.built = s.built ∧ (r = .ok () ∨ Cancelled s r) := by
  rw [notify, get_bind_run] at h
  have hnote : ∀ l ∈ s.workspace.listeners.ofPhases.filter (·.2.1 == state), l.2.2 = .note :=
    fun l hl => hq l (List.mem_filter.mp hl).1
  generalize s.workspace.listeners.ofPhases.filter (·.2.1 == state) = listeners at h hnote
  induction listeners generalizing s with
  | nil =>
    cases h
    exact ⟨.refl _, rfl, Or.inl rfl⟩
  | cons l rest ih =>
    obtain ⟨id, phase, action⟩ := l
    obtain rfl : action = .note := hnote _ List.mem_cons_self
    rw [each] at h
    rcases bind_cases h with ⟨_, s₁, ht, h⟩ | ⟨e, ht, rfl⟩
    · obtain ⟨hf, hb, -⟩ := tell_note_cases ht
      obtain ⟨hf', hb', hr⟩ := ih (hf.quiet hq) h fun l hl => hnote l (List.mem_cons_of_mem _ hl)
      exact ⟨hf.trans hf', hb'.trans hb, hr.imp_right (Cancelled.of_frame hf)⟩
    · exact tell_note_cases ht

end Build
end Workbench
