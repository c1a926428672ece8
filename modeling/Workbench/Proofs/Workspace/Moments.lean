import Workbench.Proofs.Workspace.Current
import Workbench.Proofs.Workspace.Indexed
/-!
# When documents are linked

A build links a document once all documents it was given are through the
phases before: `Build.Links` are the moments at which it does. An update is
given every document that is not linked, and so the whole workspace is in the
index at its moments. A load is given the files it found. If an earlier call
left a document outside of them before the index, it is still missing there
while the others are linked, and `Attained.linked_after_exports` says that
no other document is.
-/

namespace Workbench

variable {services : Services}

namespace Build

/-- **The moments at which a build links a document**: the phases before are
through, and so is this one for the documents in front. Linking takes the
build from the first state to the second. -/
inductive Links (services : Services) (uris : List Uri) (options : ValidationMode) (uri : Uri)
    (s : BuildState) : BuildState → BuildState → Prop
  | intro {s₀ s₁ s₂ m m' : BuildState} {front back : List Uri} :
      each (fun uri => change (·.modifyDocument uri fun d =>
        { d with build := some (d.build.getD options) })) uris s = (.ok (), s₀) →
      each (runPhase services uris) [.parsed, .indexedContent, .computedScopes] s₀ = (.ok (), s₁) →
      before s₁.workspace .linked uris = front ++ uri :: back →
      each (fun uri => do checkpoint; advance services .linked uri) front s₁ = (.ok (), s₂) →
      checkpoint s₂ = (.ok (), m) →
      advance services .linked uri m = (.ok (), m') →
      Links services uris options uri s m m'

variable {s s' m m' : BuildState} {uris : List Uri} {options : ValidationMode} {uri : Uri}
  {r : Except Stop Unit}

/-- Marking the documents of a build. -/
theorem each_mark (options : ValidationMode) (s : BuildState) :
    each (fun uri => change (·.modifyDocument uri fun d =>
        { d with build := some (d.build.getD options) })) uris s =
      (.ok (), s.withDocuments (s.built.mark options uris).documents) := by
  rw [each_change, foldl_modifyDocument]
  rfl

/-- The phases before documents are linked. -/
abbrev beforeLinked : List DocumentState := [.parsed, .indexedContent, .computedScopes]

theorem each_beforeLinked (s : BuildState) :
    each (runPhase services uris) beforeLinked s =
      each (runStage services uris) beforeLinked s := by
  refine each_congr (fun t ht => runPhase_eq_runStage ?_) s
  rintro rfl
  revert ht
  decide

theorem before_eq_todo (w : Workspace) : before w .linked uris = w.built.todo .linked uris := by
  refine List.filter_congr fun uri _ => ?_
  rw [show w.built.documents.get? uri = w.document? uri from rfl]
  cases w.document? uri with
  | none => rfl
  | some d => simp [Document.awaits]

theorem stages_beforeLinked : Built.stages = [] ++ (beforeLinked ++ [.linked, .validated]) := rfl

/-- What is ready for being linked has been indexed. -/
theorem linked_ready (hdone : ∀ t ∈ beforeLinked, s.built.todo t uris = []) :
    ∀ uri ∈ uris, ∀ d, s.workspace.document? uri = some d → .computedScopes ≤ d.state := by
  intro uri huri d hd
  have hnot := Built.todo_eq_nil_iff.mp (hdone .computedScopes (by decide)) uri huri d hd
  refine Nat.le_of_not_lt fun hlt => ?_
  rw [Document.awaits_iff.mpr ⟨hlt, nofun⟩] at hnot
  cases hnot

/-- **At the moment at which a build links a document**, its documents are
through the phases before, the others are in the states in which the build
found them, and the index follows the states. -/
theorem Links.states (hk : s.built.Keyed) (h : Links services uris options uri s m m') :
    m.workspace.documents.keys = s.workspace.documents.keys ∧
      (∀ v ∈ uris, ∀ d, m.workspace.document? v = some d → .computedScopes ≤ d.state) ∧
      (∀ v ∉ uris, ∀ d, m.workspace.document? v = some d →
        ∃ e, s.workspace.document? v = some e ∧ d.state = e.state) ∧
      (s.workspace.Indexed → m.workspace.Indexed) := by
  obtain @⟨s₀, s₁, s₂, _, _, front, back, hmark, hbefore, htodo, hfront, hcheck, -⟩ := h
  rw [each_mark] at hmark
  cases hmark
  have hkeyed : (s.withDocuments (s.built.mark options uris).documents).built.Keyed :=
    hk.mark options
  rw [each_beforeLinked] at hbefore
  have hout := each_stage_outcome hkeyed stages_beforeLinked nofun hbefore
  have hready := linked_ready (hout.finished rfl)
  rw [before_eq_todo] at htodo
  have hmem : ∀ v ∈ front, v ∈ s₁.built.todo .linked uris := fun v hv => by
    rw [htodo]
    exact List.mem_append_left _ hv
  have hin : ∀ v ∈ front, v ∈ uris := fun v hv => (Built.mem_todo.mp (hmem v hv)).1
  have hparsed : DocumentState.linked ≠ .parsed → ∀ v ∈ front, ∀ d,
      s₁.workspace.document? v = some d → .parsed ≤ d.state :=
    fun _ v hv d hd => Nat.le_trans (by decide) (hready v (hin v hv) d hd)
  -- the stage takes on what is not linked yet
  have hle : ∀ v ∈ front, ∀ d, s₁.workspace.document? v = some d → d.state ≤ .linked :=
    fun v hv => le_of_todo v (hmem v hv)
  obtain ⟨htoward, -, -⟩ :=
    each_advance_toward (by decide) (hout.course.keyed hkeyed) hparsed hle hfront
  rw [(checkpoint_cases hcheck).2.1]
  refine ⟨?_, fun v hv d hd => ?_, fun v hv d hd => ?_, fun hindexed => ?_⟩
  · exact htoward.course.keys.trans (hout.course.keys.trans Built.keys_modifyAll)
  · obtain ⟨d₁, hd₁, hcourse⟩ := htoward.course.document v d hd
    exact Nat.le_trans (hready v hv d₁ hd₁) hcourse.onward
  · obtain ⟨d₁, hd₁, hsame | ⟨hfront, -⟩⟩ := htoward.moved v d hd
    · obtain ⟨d₀, hd₀, hsame₀ | ⟨-, htodo₀⟩⟩ := hout.moved v d₁ hd₁
      · obtain ⟨e, he, heq, -⟩ := Built.get?_mark_cases hd₀
        exact ⟨e, he, by rw [hsame, hsame₀, heq]⟩
      · exact absurd (Built.mem_todo.mp htodo₀).1 hv
    · exact absurd (hin v hfront) hv
  · have hindexed₁ := indexed_each_stage hkeyed stages_beforeLinked nofun
      (indexed_withDocuments hindexed (s.built.remarked_mark options uris)) hbefore
    exact indexed_each_advance (by decide) (hout.course.keyed hkeyed) hparsed hle
      (fun _ v hv d hd => Nat.le_trans (by decide) (hready v (hin v hv) d hd)) hindexed₁ hfront

/-! ## No document is linked at another moment -/

/-- A list of which an item is to be done comes to it, or is stopped before
it is done. -/
theorem each_moment {α : Type} {action : α → Build Unit} {items : List α} {a : α}
    (ha : a ∈ items) (h : each action items s = (r, s')) :
    (∃ front back m m', items = front ++ a :: back ∧ each action front s = (.ok (), m) ∧
        action a m = (.ok (), m')) ∨
      ∃ front b back m e, items = front ++ b :: back ∧ a ∉ front ∧
        each action front s = (.ok (), m) ∧ action b m = (.error e, s') := by
  induction items generalizing s with
  | nil => exact absurd ha List.not_mem_nil
  | cons b rest ih =>
    rw [each] at h
    rcases bind_cases h with ⟨_, s₁, hone, hrest⟩ | ⟨e, hone, rfl⟩
    · by_cases hab : a = b
      · subst hab
        exact Or.inl ⟨[], rest, s, s₁, rfl, rfl, hone⟩
      · have hcons : ∀ {front : List α} {m : BuildState}, each action front s₁ = (.ok (), m) →
            each action (b :: front) s = (.ok (), m) := by
          intro front m hfront
          rw [each, bind_run, hone]
          exact hfront
        rcases ih ((List.mem_cons.mp ha).resolve_left hab) hrest with
          ⟨front, back, m, m', rfl, hfront, hthis⟩ |
          ⟨front, c, back, m, e, rfl, hnot, hfront, hthis⟩
        · exact Or.inl ⟨b :: front, back, m, m', rfl, hcons hfront, hthis⟩
        · refine Or.inr ⟨b :: front, c, back, m, e, rfl, ?_, hcons hfront, hthis⟩
          rw [List.mem_cons, not_or]
          exact ⟨hab, hnot⟩
    · exact Or.inr ⟨[], b, rest, s, e, rfl, List.not_mem_nil, rfl, hone⟩

/-- A phase that is stopped takes no document on. -/
theorem checkpoint_advance_stopped {t : DocumentState} {stop : Stop} (ht : t ≠ .changed)
    (hk : s.built.Keyed)
    (hready : t ≠ .parsed → ∀ d, s.workspace.document? uri = some d → .parsed ≤ d.state)
    (hle : ∀ d, s.workspace.document? uri = some d → d.state ≤ t)
    (h : (do checkpoint; advance services t uri : Build Unit) s = (.error stop, s')) :
    s.workspace.Alike s'.workspace := by
  rcases bind_cases h with ⟨_, s₁, hcheck, hadv⟩ | ⟨e, hcheck, -⟩
  · obtain ⟨-, hw, -⟩ := checkpoint_cases hcheck
    rw [← hw] at hready hle ⊢
    rw [BuildState.built, ← hw] at hk
    cases hd : s₁.workspace.document? uri with
    | none =>
      rw [advance, get_bind_run, hd] at hadv
      cases hadv
    | some d =>
      cases advance_ends ht hd (fun hne => hready hne d hd) (hle d hd) hadv with
      | cut => exact .setDocument hk hd _
      | stopped => exact .refl _
  · obtain ⟨-, hw, -⟩ := checkpoint_cases hcheck
    rw [hw]
    exact .refl _

/-- A document that the linking stage takes on has its moment there. -/
theorem exists_moment {v : Uri} {d' : Document} (hk : s.built.Keyed)
    (hdone : ∀ t ∈ beforeLinked, s.built.todo t uris = [])
    (h : each (fun uri => do checkpoint; advance services .linked uri) (s.built.todo .linked uris)
      s = (r, s'))
    (hv : v ∈ s.built.todo .linked uris) (hd' : s'.workspace.document? v = some d')
    (hhigh : .linked ≤ d'.state) :
    ∃ front back s₂ m m', s.built.todo .linked uris = front ++ v :: back ∧
      each (fun uri => do checkpoint; advance services .linked uri) front s = (.ok (), s₂) ∧
      checkpoint s₂ = (.ok (), m) ∧ advance services .linked v m = (.ok (), m') := by
  rcases each_moment hv h with ⟨front, back, s₂, m', htodo, hfront, hthis⟩ |
    ⟨front, b, back, s₂, e, htodo, hnot, hfront, hstop⟩
  · rcases bind_cases hthis with ⟨_, m, hcheck, hadv⟩ | ⟨e, -, habsurd⟩
    · exact ⟨front, back, s₂, m, m', htodo, hfront, hcheck, hadv⟩
    · cases habsurd
  · -- the stage was stopped, and so the document is in the state it had
    exfalso
    have hmem : ∀ u ∈ front ++ [b], u ∈ s.built.todo .linked uris := by
      intro u hu
      rw [htodo]
      rcases List.mem_append.mp hu with hu | hu
      · exact List.mem_append_left _ hu
      · rw [List.mem_singleton.mp hu]
        exact List.mem_append_right _ List.mem_cons_self
    have hready := linked_ready hdone
    have hparsed : ∀ u ∈ front ++ [b], ∀ d, s.workspace.document? u = some d →
        .parsed ≤ d.state :=
      fun u hu d hd => Nat.le_trans (by decide) (hready u (Built.mem_todo.mp (hmem u hu)).1 d hd)
    have hfrontMem : ∀ u ∈ front, u ∈ front ++ [b] := fun u hu => List.mem_append_left _ hu
    obtain ⟨htoward, -, -⟩ := each_advance_toward (by decide) hk
      (fun _ u hu => hparsed u (hfrontMem u hu))
      (fun u hu => le_of_todo u (hmem u (hfrontMem u hu)))
      hfront
    have hb : b ∈ front ++ [b] := List.mem_append_right _ (List.mem_singleton_self b)
    have halike := checkpoint_advance_stopped (by decide) (htoward.course.keyed hk)
      (fun _ _ hd => htoward.le_state (hparsed b hb) hd)
      (fun _ hd => htoward.state_le (le_of_todo b (hmem b hb)) hd) hstop
    obtain ⟨d₂, links, hd₂, rfl⟩ := halike.document v d' hd'
    obtain ⟨d₁, hd₁, hsame | ⟨hin, -⟩⟩ := htoward.moved v d₂ hd₂
    · obtain ⟨-, d₀, hd₀, hawaits⟩ := Built.mem_todo.mp hv
      obtain rfl : d₀ = d₁ := Option.some.inj (hd₀.symm.trans hd₁)
      have hlow : d₀.state.rank < DocumentState.linked.rank :=
        (Document.awaits_iff.mp hawaits).1
      have hrank : DocumentState.linked.rank ≤ d₂.state.rank := hhigh
      rw [hsame] at hrank
      omega
    · exact hnot hin

/-- A document below being linked that comes to it comes to it in the stage for
that. -/
theorem linked_in_stage {v : Uri} {d₁ d' : Document} {s₁ : BuildState} (hk : s₁.built.Keyed)
    (hdone : ∀ t ∈ beforeLinked, s₁.built.todo t uris = []) (hv : v ∈ uris)
    (h : each (runStage services uris) [.linked, .validated] s₁ = (r, s'))
    (hd₁ : s₁.workspace.document? v = some d₁) (hlow : d₁.state < .linked)
    (hd' : s'.workspace.document? v = some d') (hhigh : .linked ≤ d'.state) :
    v ∈ s₁.built.todo .linked uris ∧ ∃ r₂ s₂ d₂,
      each (fun uri => do checkpoint; advance services .linked uri)
        (s₁.built.todo .linked uris) s₁ = (r₂, s₂) ∧
      s₂.workspace.document? v = some d₂ ∧ .linked ≤ d₂.state := by
  have hmem : v ∈ s₁.built.todo .linked uris :=
    Built.mem_todo.mpr ⟨hv, d₁, hd₁, Document.awaits_iff.mpr ⟨hlow, nofun⟩⟩
  refine ⟨hmem, ?_⟩
  cases hlist : each (fun uri => do checkpoint; advance services .linked uri)
      (s₁.built.todo .linked uris) s₁ with
  | mk r₂ s₂ =>
    refine ⟨r₂, s₂, ?_⟩
    cases r₂ with
    | ok _ =>
      have hready := linked_ready hdone
      obtain ⟨htoward, -, hall⟩ := each_advance_toward (by decide) hk
        (fun _ u hu d hd => Nat.le_trans (by decide) (hready u (Built.mem_todo.mp hu).1 d hd))
        (fun u hu => le_of_todo u hu) hlist
      obtain ⟨d₂, hd₂, -⟩ := htoward.course.document_of hd₁
      exact ⟨d₂, rfl, hd₂, Nat.le_of_eq (congrArg _ (hall rfl v hmem d₂ hd₂).symm)⟩
    | error e =>
      have hne : (s₁.built.todo .linked uris).isEmpty = false := by
        rw [List.isEmpty_eq_false_iff]
        exact List.ne_nil_of_mem hmem
      -- what stopped the stage stopped the build
      have hstop : each (runStage services uris) [.linked, .validated] s₁ = (.error e, s₂) := by
        rw [each, bind_run, runStage, get_bind_run, hne, if_neg Bool.false_ne_true, bind_run, hlist]
      rw [hstop] at h
      cases h
      exact ⟨d', rfl, hd', hhigh⟩

/-- The stages of a build come to a moment for each document that they take to
being linked. -/
theorem exists_moment_of_stages {v : Uri} {d d' : Document} (hk : s.built.Keyed)
    (hrun : each (runStage services uris) Built.stages s = (r, s'))
    (hd : s.workspace.document? v = some d) (hlow : d.state < .linked)
    (hd' : s'.workspace.document? v = some d') (hhigh : .linked ≤ d'.state) :
    ∃ s₁ front back s₂ m m', each (runStage services uris) beforeLinked s = (.ok (), s₁) ∧
      s₁.built.todo .linked uris = front ++ v :: back ∧
      each (fun uri => do checkpoint; advance services .linked uri) front s₁ = (.ok (), s₂) ∧
      checkpoint s₂ = (.ok (), m) ∧ advance services .linked v m = (.ok (), m') := by
  have hsplit : Built.stages = [] ++ (Built.stages ++ []) := rfl
  have hv : v ∈ uris := by
    obtain ⟨d₀, hd₀, hsame | ⟨-, htodo⟩⟩ :=
      (each_stage_outcome hk hsplit nofun hrun).moved v d' hd'
    · obtain rfl : d₀ = d := Option.some.inj (hd₀.symm.trans hd)
      rw [hsame] at hhigh
      exact absurd hlow (Nat.not_lt_of_le hhigh)
    · exact (Built.mem_todo.mp htodo).1
  -- the stages before take no document that far
  have hbelow : ∀ {r₁ : Except Stop Unit} {s₁ : BuildState},
      each (runStage services uris) beforeLinked s = (r₁, s₁) →
      ∀ d₁, s₁.workspace.document? v = some d₁ → d₁.state < .linked := by
    intro r₁ s₁ hbefore d₁ hd₁
    obtain ⟨d₀, hd₀, hsame | ⟨hstage, -⟩⟩ :=
      (each_stage_outcome hk stages_beforeLinked nofun hbefore).moved v d₁ hd₁
    · obtain rfl : d₀ = d := Option.some.inj (hd₀.symm.trans hd)
      rw [hsame]
      exact hlow
    · revert hstage
      cases d₁.state <;> decide
  rw [show Built.stages = beforeLinked ++ [.linked, .validated] from rfl, each_append] at hrun
  rcases bind_cases hrun with ⟨_, s₁, hbefore, hrest⟩ | ⟨e, hbefore, -⟩
  · have hout := each_stage_outcome hk stages_beforeLinked nofun hbefore
    obtain ⟨d₁, hd₁, -⟩ := hout.course.document_of hd
    obtain ⟨hmem, r₂, s₂, d₂, hlist, hd₂, hhigh₂⟩ := linked_in_stage (hout.course.keyed hk)
      (hout.finished rfl) hv hrest hd₁ (hbelow hbefore d₁ hd₁) hd' hhigh
    obtain ⟨front, back, s₃, m, m', hmoment⟩ := exists_moment (hout.course.keyed hk)
      (hout.finished rfl) hlist hmem hd₂ hhigh₂
    exact ⟨s₁, front, back, s₃, m, m', hbefore, hmoment⟩
  · exact absurd (hbelow hbefore d' hd') (Nat.not_lt_of_le hhigh)

/-- **A document that a build takes to being linked has its moment.** -/
theorem exists_links {v : Uri} {d d' : Document} (hk : s.built.Keyed)
    (h : documents services uris options s = (r, s')) (hd : s.workspace.document? v = some d)
    (hlow : d.state < .linked) (hd' : s'.workspace.document? v = some d')
    (hhigh : .linked ≤ d'.state) : ∃ m m', Links services uris options v s m m' := by
  have hkeyed : (s.withDocuments (s.built.mark options uris).documents).built.Keyed :=
    hk.mark options
  -- marking changes no states, and neither does clearing
  obtain ⟨d₀, hd₀, hstate₀⟩ : ∃ d₀, (s.built.mark options uris).documents.get? v = some d₀ ∧
      d₀.state = d.state := by
    have hmem : v ∈ (s.built.mark options uris).documents.keys := by
      rw [(s.built.remarked_mark options uris).keys]
      exact OrderedMap.mem_keys_iff.mpr ⟨d, hd⟩
    obtain ⟨d₀, hd₀⟩ := OrderedMap.mem_keys_iff.mp hmem
    obtain ⟨e, he, heq, -⟩ := Built.get?_mark_cases hd₀
    obtain rfl : e = d := Option.some.inj (he.symm.trans hd)
    exact ⟨d₀, hd₀, by rw [heq]⟩
  rw [documents_eq] at h
  cases hrun : each (runStage services uris) Built.stages
      (s.withDocuments (s.built.mark options uris).documents) with
  | mk o s₄ =>
    obtain ⟨d₄, hd₄, hstate₄⟩ : ∃ d₄, s₄.workspace.document? v = some d₄ ∧ d'.state = d₄.state := by
      rw [hrun] at h
      cases o with
      | error e =>
        cases h
        exact ⟨d', hd', rfl⟩
      | ok _ =>
        cases h
        obtain ⟨d₄, hd₄, heq, -⟩ := Built.get?_clear_cases hd'
        exact ⟨d₄, hd₄, by rw [heq]⟩
    obtain ⟨s₁, front, back, s₂, m, m', hbefore, htodo, hmoment⟩ := exists_moment_of_stages hkeyed
      hrun hd₀ (hstate₀ ▸ hlow) hd₄ (hstate₄ ▸ hhigh)
    rw [← before_eq_todo] at htodo
    rw [← each_beforeLinked] at hbefore
    exact ⟨m, m', .intro (each_mark options s) hbefore htodo hmoment.1 hmoment.2.1 hmoment.2.2⟩

end Build

/-! ## Calls -/

/-- **The moments at which a call links a document.** -/
def Call.Links (services : Services) (call : Call) (w : Workspace) (interrupt : Interrupt)
    (uri : Uri) (m m' : BuildState) : Prop :=
  ∃ start, call.start? services w interrupt = some start ∧
    Build.Links services start.uris start.options uri start.state m m'

namespace Call

variable {w : Workspace} {interrupt : Interrupt} {start : Start}

/-- A load builds the files it found. -/
theorem uris_start_load {folders : List Uri}
    (h : (load folders).start? services w interrupt = some start) :
    start.uris = (w.collected services folders).getD [] := by
  obtain ⟨uris, hcollected, h⟩ := Option.bind_eq_some_iff.mp h
  rw [hcollected, Option.getD_some]
  split at h <;> cases h
  rfl

/-- An update builds what is left to be built. -/
theorem uris_start_update {changed deleted : List Uri}
    (h : (update changed deleted).start? services w interrupt = some start) :
    start.uris = ((update changed deleted).begun services w).built.awaiting := by
  rw [start?] at h
  rw [begun]
  split at h
  next hreads =>
    obtain ⟨left, -, rfl⟩ := Option.map_eq_some_iff.mp h
    rw [if_pos hreads]
  next => cases h

/-- **A document that a call takes to being linked has its moment.** -/
theorem exists_links {call : Call} {r : Except Stop Unit} {w' : Workspace} {v : Uri}
    {d d' : Document} (hproper : w.Proper services)
    (hrun : call.run services w interrupt = (r, w'))
    (hd : (call.begun services w).document? v = some d) (hlow : d.state < .linked)
    (hd' : w'.document? v = some d') (hhigh : .linked ≤ d'.state) :
    ∃ m m', call.Links services w interrupt v m m' := by
  have hget : ∀ {w₁ : Workspace}, w₁.built = (call.begun services w).built →
      w₁.document? v = some d := by
    intro w₁ hbuilt
    rw [Workspace.document?, show w₁.documents = _ from congrArg Built.documents hbuilt]
    exact hd
  rcases run_cases hrun with ⟨-, -, hbuilt⟩ | ⟨start, s', hstart, hdocuments, rfl⟩
  · rw [hget hbuilt, Option.some.injEq] at hd'
    rw [hd'] at hlow
    exact absurd hlow (Nat.not_lt_of_le hhigh)
  · have hbuilt := built_start hstart
    have hk : start.state.built.Keyed := hbuilt ▸ (proper_begun hproper call).keyed
    obtain ⟨m, m', hlinks⟩ := Build.exists_links hk hdocuments (hget hbuilt) hlow hd' hhigh
    exact ⟨m, m', start, hstart, hlinks⟩

end Call

namespace Workspace

variable {w : Workspace} {call : Call} {interrupt : Interrupt} {uri v : Uri} {m m' : BuildState}
  {d : Document}

/-- **When a document is linked, the exports are in the index** of every document
that has come to that phase. All documents have, but those that a load
did not find and that an earlier call left behind. -/
theorem Attained.linked_after_exports (h : Attained services w)
    (hlinks : call.Links services w interrupt uri m m') (hd : m.workspace.document? v = some d) :
    ((m.workspace.index.exports.get? v).isSome = true ↔ .indexedContent ≤ d.state) ∧
      (d.state < .indexedContent ↔ ∃ folders e, call = .load folders ∧
        v ∉ (w.collected services folders).getD [] ∧
        w.document? v = some e ∧ e.state < .indexedContent) := by
  obtain ⟨start, hstart, hlinks⟩ := hlinks
  have hbegun := Call.proper_begun h.proper call
  have hbuilt := Call.built_start hstart
  have hk : start.state.built.Keyed := hbuilt ▸ hbegun.keyed
  have hindexed : start.state.workspace.Indexed :=
    Call.indexed_of_built (Call.indexed_begun h.indexed call) hbuilt
  obtain ⟨-, hin, hout, hfollows⟩ := hlinks.states hk
  refine ⟨?_, ?_⟩
  · rw [hfollows hindexed v, hd, Option.any_some, Document.isIndexed, decide_eq_true_iff]
  have hof : ∀ e, start.state.workspace.document? v = some e →
      (call.begun services w).document? v = some e := by
    intro e he
    rw [Workspace.document?, show start.state.workspace.documents =
      (call.begun services w).documents from congrArg Built.documents hbuilt] at he
    exact he
  have hnot : ∀ {e : Document}, .computedScopes ≤ e.state → ¬ e.state < .indexedContent :=
    fun hle hlt => absurd (Nat.lt_of_le_of_lt hle hlt) (by decide)
  cases call with
  | update changed deleted =>
    -- an update builds all that is not linked
    rw [Call.uris_start_update hstart] at hin hout
    constructor
    · intro hlt
      by_cases hv : v ∈ ((Call.update changed deleted).begun services w).built.awaiting
      · exact absurd hlt (hnot (hin v hv d hd))
      · obtain ⟨e, he, hstate⟩ := hout v hv d hd
        refine absurd ((Built.mem_awaiting hbegun.nodup hbegun.keyed).mpr ⟨e, hof e he, ?_⟩) hv
        have hbelow : e.state < .linked := by
          rw [← hstate]
          exact Nat.lt_trans hlt (by decide)
        rw [Built.waits, decide_eq_true hbelow, Bool.true_or]
    · rintro ⟨folders, e, hcall, -⟩
      cases hcall
  | load folders =>
    rw [Call.uris_start_load hstart] at hin hout
    have hfound : ∀ e, v ∉ (w.collected services folders).getD [] →
        start.state.workspace.document? v = some e → w.document? v = some e := by
      intro e hv he
      exact (document?_loads _ (hof e he)).resolve_right fun hand => hv hand.1
    constructor
    · intro hlt
      have hv : v ∉ (w.collected services folders).getD [] := fun hv => hnot (hin v hv d hd) hlt
      obtain ⟨e, he, hstate⟩ := hout v hv d hd
      exact ⟨folders, e, rfl, hv, hfound e hv he, hstate ▸ hlt⟩
    · rintro ⟨folders', e, hcall, hv, he, hlt⟩
      cases hcall
      obtain ⟨e', he', hstate⟩ := hout v hv d hd
      rw [hfound e' hv he', Option.some.injEq] at he
      rw [hstate, he]
      exact hlt

/-! ## Two folders -/

namespace Items

/-- A file of one item, in a folder of its own. -/
def apart : Uri := ⟨"file", some .blank, "/v/a.dmodel", ""⟩

/-- A file in another folder. Its item refers to the first. -/
def beside : Uri := ⟨"file", some .blank, "/w/b.dmodel", ""⟩

/-- The other folder. -/
def folder : Uri := ⟨"file", some .blank, "/w", ""⟩

/-- The two files. -/
def scattered : FileSystem := ⟨.memory, ⟨⟨[(apart, "a"), (beside, "b:a")]⟩⟩⟩

/-- The first file was taken in, and the build was cut off when it was
parsed. -/
def cutOff : Except Stop Unit × Workspace :=
  (Call.update [apart] []).run Items.services (.ofFiles scattered) (.after 5)

/-- Where loading the other folder begins to build. -/
def loading : Call.Start :=
  ⟨[beside], Items.services.initialBuild, ⟨(cutOff.2.attemptAll load [beside]).2, .never⟩⟩

theorem attained_cutOff : Attained Items.services cutOff.2 :=
  .call (.start scattered) (Prod.eta _).symm

theorem list_folder : scattered.tree.list folder = [⟨beside, false⟩] := by
  have hsorted : scattered.tree.files.keys.mergeSort Uri.le = [apart, beside] :=
    List.mergeSort_of_pairwise (by decide)
  have hfound : [apart, beside].filterMap (FileTree.entryOf? folder) = [⟨beside, false⟩] := by
    decide +kernel
  rw [FileTree.list, hsorted, hfound]
  exact List.mergeSort_singleton _

theorem collected_folder : cutOff.2.collected Items.services [folder] = some [beside] := by
  have hfiles : cutOff.2.files.tree = scattered.tree := by decide +kernel
  have hcollect : scattered.tree.collect? Items.services.selection folder = some [beside] := by
    rw [FileTree.collect?, FileTree.collectTo, list_folder]
    decide +kernel
  rw [collected, hfiles, hcollect]
  rfl

theorem start_loading :
    (Call.load [folder]).start? Items.services cutOff.2 .never = some loading := by
  have hloaded : (cutOff.2.attemptAll load [beside]).1 = none := by decide +kernel
  rw [Call.start?, collected_folder, Option.bind_eq_bind, Option.bind_some, ← Prod.eta
    (cutOff.2.attemptAll load [beside]), hloaded]
  rfl

end Items

open Items in
/-- The file of the other folder is linked while the one it refers to is not in
the index. -/
theorem linked_after_exports_left : ∃ m m' d,
    (Call.load [folder]).Links Items.services cutOff.2 .never beside m m' ∧
      m.workspace.document? apart = some d ∧ d.state < .indexedContent ∧
      (m.workspace.index.exports.get? apart).isSome = false := by
  have hbuilt := Call.built_start start_loading
  have hkeyed : loading.state.built.Keyed :=
    hbuilt ▸ (Call.proper_begun attained_cutOff.proper _).keyed
  have hlow : (loading.state.workspace.document? beside).map Document.state = some .changed := by
    decide +kernel
  have hhigh : ((Build.documents Items.services loading.uris loading.options
      loading.state).2.workspace.document? beside).map Document.state = some .validated := by
    decide +kernel
  obtain ⟨e, he, hlow⟩ := Option.map_eq_some_iff.mp hlow
  obtain ⟨e', he', hhigh⟩ := Option.map_eq_some_iff.mp hhigh
  obtain ⟨m, m', hmoment⟩ := Build.exists_links hkeyed (Prod.eta _).symm he
    (by rw [hlow]; decide) he' (by rw [hhigh]; decide)
  -- the other file is still a document of the workspace
  obtain ⟨d, hd⟩ : ∃ d, m.workspace.document? apart = some d := by
    refine OrderedMap.mem_keys_iff.mp ?_
    rw [(hmoment.states hkeyed).1]
    decide +kernel
  have hleft : (cutOff.2.document? apart).map Document.state = some .parsed := by decide +kernel
  obtain ⟨left, hleft, hparsed⟩ := Option.map_eq_some_iff.mp hleft
  have hlinks : (Call.load [folder]).Links Items.services cutOff.2 .never beside m m' :=
    ⟨loading, start_loading, hmoment⟩
  have hnotFound : apart ∉ (cutOff.2.collected Items.services [folder]).getD [] := by
    rw [collected_folder]
    decide
  obtain ⟨hshows, hbefore⟩ := attained_cutOff.linked_after_exports hlinks hd
  have hnot := hbefore.mpr ⟨_, left, rfl, hnotFound, hleft, by rw [hparsed]; decide⟩
  exact ⟨m, m', d, hlinks, hd, hnot,
    Bool.eq_false_iff.mpr fun h => absurd (hshows.mp h) (Nat.not_le_of_lt hnot)⟩

end Workspace
end Workbench
