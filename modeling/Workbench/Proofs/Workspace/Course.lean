import Workbench.Proofs.Workspace.Reached
/-!
# What a build does, whatever it calls

A build calls on scopes, linkers, checks and listeners that can be anything:
they can break down, cancel the build, or resolve references ahead of their
time. Whatever they do, a build only takes documents forward. It keeps their
texts and marks, and gives each that was parsed the parse of its text.

What the listeners of a phase were told is read off as `Workspace.heard`. A
stage tells them of the documents it is for after it took all of them on, and
so what a build has told them is the first part of `Built.news`, which it
would tell them in the end.
-/

namespace Workbench

/-! ## Documents and workspaces -/

/-- A document that counts as parsed has the parse of its text. -/
def Document.Parsed (services : Services) (d : Document) : Prop :=
  .parsed ≤ d.state → ∃ result, services.parser.parse d.text none .never = .ok (result, .never) ∧
    d.parse = some result

/-- **How a build may change a document**, whatever it calls. -/
structure Document.Course (services : Services) (d d' : Document) : Prop where
  uri : d'.uri = d.uri
  text : d'.text = d.text
  build : d'.build = d.build
  onward : d.state ≤ d'.state
  parsed : d.Parsed services → d'.Parsed services

/-- **How a build may change a workspace**, between marking its documents and
clearing the marks. -/
structure Workspace.Course (services : Services) (w w' : Workspace) : Prop where
  files : w'.files = w.files
  listeners : w'.listeners = w.listeners
  keys : w'.documents.keys = w.documents.keys
  document : ∀ uri d', w'.document? uri = some d' →
    ∃ d, w.document? uri = some d ∧ d.Course services d'

/-- How listeners may change a workspace: in resolutions, and in what they
have noted. -/
structure Workspace.Alike (w w' : Workspace) : Prop where
  files : w'.files = w.files
  listeners : w'.listeners = w.listeners
  keys : w'.documents.keys = w.documents.keys
  document : ∀ uri d', w'.document? uri = some d' →
    ∃ d links, w.document? uri = some d ∧ d' = { d with links }

/-- Some documents taken on to a phase, as far as it went. -/
structure Workspace.Toward (services : Services) (t : DocumentState) (uris : List Uri)
    (w w' : Workspace) : Prop where
  course : w.Course services w'
  moved : ∀ uri d', w'.document? uri = some d' →
    ∃ d, w.document? uri = some d ∧ (d'.state = d.state ∨ uri ∈ uris ∧ d'.state = t)

/-- What the listeners of a phase were told: one list of documents for each
time that one of them was. -/
def Workspace.heard (w : Workspace) (t : DocumentState) : List (List (Uri × DocumentState)) :=
  w.events.filterMap fun
    | .phase state documents => if state = t then some documents else none
    | _ => none

/-- The listeners of a phase, in the order in which they are told. -/
def Listeners.of (l : Listeners) (t : DocumentState) :
    List (Nat × DocumentState × ListenerAction) :=
  l.ofPhases.filter (·.2.1 == t)

/-- **What a build has to tell the listeners of a phase**: each of them, of
all documents that the phase is for, if there are any. -/
def Built.news (b : Built) (l : Listeners) (uris : List Uri) (t : DocumentState) :
    List (List (Uri × DocumentState)) :=
  if (b.todo t uris).isEmpty then []
  else (l.of t).map fun _ => (b.todo t uris).map fun uri => (uri, t)

variable {services : Services}

namespace Document.Course

variable {d d' d'' : Document}

theorem refl (d : Document) : d.Course services d := ⟨rfl, rfl, rfl, Nat.le_refl _, id⟩

theorem trans (h : d.Course services d') (h' : d'.Course services d'') : d.Course services d'' :=
  ⟨h'.uri.trans h.uri, h'.text.trans h.text, h'.build.trans h.build,
    Nat.le_trans h.onward h'.onward, fun hp => h'.parsed (h.parsed hp)⟩

/-- Resolutions are no part of it. -/
theorem links (d : Document) (links : Links) : d.Course services { d with links } :=
  ⟨rfl, rfl, rfl, Nat.le_refl _, id⟩

/-- A phase after parsing keeps the parse. -/
theorem of_later (huri : d'.uri = d.uri) (htext : d'.text = d.text) (hbuild : d'.build = d.build)
    (hparse : d'.parse = d.parse) (honward : d.state ≤ d'.state) (hready : .parsed ≤ d.state) :
    d.Course services d' := by
  refine ⟨huri, htext, hbuild, honward, fun hparsed _ => ?_⟩
  rw [htext, hparse]
  exact hparsed hready

/-- A stage that is for a document was for it before. -/
theorem awaits (h : d.Course services d') {t : DocumentState} (hawaits : d'.awaits t = true) :
    d.awaits t = true := by
  obtain ⟨hlt, hasks⟩ := Document.awaits_iff.mp hawaits
  have hlt' : d'.state.rank < t.rank := hlt
  have hle : d.state.rank ≤ d'.state.rank := h.onward
  rw [h.build] at hasks
  exact Document.awaits_iff.mpr ⟨show d.state.rank < t.rank by omega, hasks⟩

end Document.Course

namespace Workspace

variable {w w' w'' : Workspace} {uri : Uri} {t : DocumentState}

namespace Course

theorem refl (w : Workspace) : w.Course services w :=
  ⟨rfl, rfl, rfl, fun _ d hd => ⟨d, hd, .refl d⟩⟩

theorem trans (h : w.Course services w') (h' : w'.Course services w'') : w.Course services w'' := by
  refine ⟨h'.files.trans h.files, h'.listeners.trans h.listeners, h'.keys.trans h.keys, ?_⟩
  intro uri d'' hd''
  obtain ⟨d', hd', hcourse'⟩ := h'.document uri d'' hd''
  obtain ⟨d, hd, hcourse⟩ := h.document uri d' hd'
  exact ⟨d, hd, hcourse.trans hcourse'⟩

theorem keyed (h : w.Course services w') (hk : w.built.Keyed) : w'.built.Keyed := by
  intro uri d' hd'
  obtain ⟨d, hd, hcourse⟩ := h.document uri d' hd'
  rw [hcourse.uri]
  exact hk uri d hd

/-- No document is lost. -/
theorem document_of (h : w.Course services w') {d : Document} (hd : w.document? uri = some d) :
    ∃ d', w'.document? uri = some d' ∧ d.Course services d' := by
  obtain ⟨d', hd'⟩ := OrderedMap.exists_of_keys_eq h.keys hd
  obtain ⟨d₀, hd₀, hcourse⟩ := h.document uri d' hd'
  rw [hd, Option.some.injEq] at hd₀
  subst hd₀
  exact ⟨d', hd', hcourse⟩

/-- One document is taken on, and the index changes somehow. -/
theorem put {d d' : Document} (hd : w.document? d.uri = some d) (hcourse : d.Course services d')
    (index : Index) :
    w.Course services { w with documents := w.documents.insert d'.uri d', index } := by
  refine ⟨rfl, rfl, ?_, fun v e he => ?_⟩
  · rw [hcourse.uri]
    exact OrderedMap.keys_insert_of_get? hd d'
  · have hget : (w.documents.insert d'.uri d').get? v = some e := he
    rw [OrderedMap.get?_insert, hcourse.uri] at hget
    split at hget
    next hv =>
      cases hget
      exact ⟨d, hv ▸ hd, hcourse⟩
    next => exact ⟨e, hget, .refl e⟩

/-- A stage that is for no document of a list stays so. -/
theorem todo_eq_nil (h : w.Course services w') {uris : List Uri}
    (hnil : w.built.todo t uris = []) : w'.built.todo t uris = [] := by
  rw [Built.todo_eq_nil_iff] at hnil ⊢
  intro uri huri d' hd'
  obtain ⟨d, hd, hcourse⟩ := h.document uri d' hd'
  have hnot := hnil uri huri d hd
  by_contra hawaits
  rw [hcourse.awaits (Bool.not_eq_false _ ▸ hawaits)] at hnot
  cases hnot

end Course

namespace Alike

theorem refl (w : Workspace) : w.Alike w := ⟨rfl, rfl, rfl, fun _ d hd => ⟨d, d.links, hd, rfl⟩⟩

theorem trans (h : w.Alike w') (h' : w'.Alike w'') : w.Alike w'' := by
  refine ⟨h'.files.trans h.files, h'.listeners.trans h.listeners, h'.keys.trans h.keys, ?_⟩
  intro uri d'' hd''
  obtain ⟨d', links', hd', rfl⟩ := h'.document uri d'' hd''
  obtain ⟨d, links, hd, rfl⟩ := h.document uri d' hd'
  exact ⟨d, links', hd, rfl⟩

theorem course (h : w.Alike w') : w.Course services w' := by
  refine ⟨h.files, h.listeners, h.keys, fun uri d' hd' => ?_⟩
  obtain ⟨d, links, hd, rfl⟩ := h.document uri d' hd'
  exact ⟨d, hd, .links d links⟩

theorem note (w : Workspace) (event : Event) : w.Alike (w.note event) :=
  ⟨rfl, rfl, rfl, fun _ d hd => ⟨d, d.links, hd, rfl⟩⟩

theorem setDocument (hk : w.built.Keyed) {d : Document} (hd : w.document? uri = some d)
    (links : Links) : w.Alike (w.setDocument { d with links }) := by
  have huri : d.uri = uri := hk uri d hd
  refine ⟨rfl, rfl, ?_, fun v e he => ?_⟩
  · exact OrderedMap.keys_insert_of_get? (huri.symm ▸ hd) _
  · have hget : (w.documents.insert d.uri { d with links }).get? v = some e := he
    rw [OrderedMap.get?_insert] at hget
    split at hget
    next hv =>
      cases hget
      exact ⟨d, links, hv.trans huri ▸ hd, rfl⟩
    next => exact ⟨e, e.links, hget, rfl⟩

theorem keyed (h : w.Alike w') (hk : w.built.Keyed) : w'.built.Keyed := by
  intro uri d' hd'
  obtain ⟨d, links, hd, rfl⟩ := h.document uri d' hd'
  exact hk uri d hd

/-- Listeners are told the states of documents, which other listeners leave
alone. -/
theorem statesOf_eq (h : w.Alike w') (uris : List Uri) :
    Build.statesOf w' uris = Build.statesOf w uris := by
  refine List.filterMap_congr fun uri _ => ?_
  cases hd' : w'.document? uri with
  | none =>
    have hnot : uri ∉ w.documents.keys := by
      rw [← h.keys]
      exact OrderedMap.get?_eq_none_iff.mp hd'
    have hnone : w.document? uri = none := OrderedMap.get?_eq_none_iff.mpr hnot
    rw [hnone]
  | some d' =>
    obtain ⟨d, links, hd, rfl⟩ := h.document uri d' hd'
    rw [hd]
    rfl

end Alike

namespace Toward

variable {uris uris' : List Uri}

theorem refl (w : Workspace) : w.Toward services t uris w :=
  ⟨.refl w, fun _ d hd => ⟨d, hd, Or.inl rfl⟩⟩

theorem trans (h : w.Toward services t uris w') (h' : w'.Toward services t uris' w'') :
    w.Toward services t (uris ++ uris') w'' := by
  refine ⟨h.course.trans h'.course, fun uri d'' hd'' => ?_⟩
  obtain ⟨d', hd', hmoved'⟩ := h'.moved uri d'' hd''
  obtain ⟨d, hd, hmoved⟩ := h.moved uri d' hd'
  refine ⟨d, hd, ?_⟩
  rcases hmoved' with hsame | ⟨hmem, hstate⟩
  · rw [hsame]
    exact hmoved.imp_right fun ⟨hmem, hstate⟩ => ⟨List.mem_append_left _ hmem, hstate⟩
  · exact Or.inr ⟨List.mem_append_right _ hmem, hstate⟩

/-- A document does not fall behind a state that it had come to. -/
theorem le_state (h : w.Toward services t uris w') {uri : Uri} {low : DocumentState}
    (hlow : ∀ d, w.document? uri = some d → low ≤ d.state) {d' : Document}
    (hd' : w'.document? uri = some d') : low ≤ d'.state := by
  obtain ⟨d, hd, hcourse⟩ := h.course.document uri d' hd'
  exact Nat.le_trans (hlow d hd) hcourse.onward

/-- A document does not come further than the phase. -/
theorem state_le (h : w.Toward services t uris w') {uri : Uri}
    (hle : ∀ d, w.document? uri = some d → d.state ≤ t) {d' : Document}
    (hd' : w'.document? uri = some d') : d'.state ≤ t := by
  obtain ⟨d, hd, hsame | ⟨-, hmoved⟩⟩ := h.moved uri d' hd'
  · rw [hsame]
    exact hle d hd
  · rw [hmoved]
    exact Nat.le_refl _

theorem of_alike (h : w.Alike w') : w.Toward services t uris w' := by
  refine ⟨h.course, fun uri d' hd' => ?_⟩
  obtain ⟨d, links, hd, rfl⟩ := h.document uri d' hd'
  exact ⟨d, hd, Or.inl rfl⟩

/-- What is beyond the phase was not taken there. -/
theorem same_beyond (h : w.Toward services t uris w') {uri : Uri} {d' : Document}
    (hd' : w'.document? uri = some d') (hlt : t < d'.state) :
    ∃ d, w.document? uri = some d ∧ d'.state = d.state := by
  obtain ⟨d, hd, hsame | ⟨-, hstate⟩⟩ := h.moved uri d' hd'
  · exact ⟨d, hd, hsame⟩
  · have hrank : t.rank < d'.state.rank := hlt
    rw [hstate] at hrank
    exact absurd hrank (Nat.lt_irrefl _)

/-- A later stage is for the documents it was for. -/
theorem todo_eq (h : w.Toward services t uris w') {t' : DocumentState} (ht : t < t')
    (uris' : List Uri) : w'.built.todo t' uris' = w.built.todo t' uris' := by
  refine List.filter_congr fun uri _ => ?_
  have hrank : t.rank < t'.rank := ht
  cases hd : w.built.documents.get? uri with
  | none =>
    have hnot : uri ∉ w'.documents.keys := by
      rw [h.course.keys]
      exact OrderedMap.get?_eq_none_iff.mp hd
    rw [show w'.built.documents.get? uri = none from OrderedMap.get?_eq_none_iff.mpr hnot]
  | some d =>
    obtain ⟨d', hd', hcourse⟩ := h.course.document_of hd
    obtain ⟨d₀, hd₀, hmoved⟩ := h.moved uri d' hd'
    obtain rfl : d₀ = d := Option.some.inj (hd₀.symm.trans hd)
    rw [show w'.built.documents.get? uri = some d' from hd', Option.any_some, Option.any_some,
      Bool.eq_iff_iff, Document.awaits_iff, Document.awaits_iff, hcourse.build]
    refine and_congr_left fun _ => ?_
    rcases hmoved with hsame | ⟨-, hstate⟩
    · rw [hsame]
    · -- both the old and the new state come before the later stage
      have honward : d₀.state.rank ≤ d'.state.rank := hcourse.onward
      rw [hstate] at honward ⊢
      exact ⟨fun _ => show d₀.state.rank < t'.rank by omega, fun _ => ht⟩

end Toward

/-- What was heard is read off the events. -/
theorem heard_congr (h : w'.events = w.events) (t : DocumentState) : w'.heard t = w.heard t := by
  rw [heard, heard, h]

theorem heard_note (w : Workspace) (t' : DocumentState) (documents : List (Uri × DocumentState)) :
    (w.note (.phase t' documents)).heard t =
      w.heard t ++ if t' = t then [documents] else [] := by
  rw [heard, heard, note, List.filterMap_append]
  split
  next h => simp [h]
  next h => simp [h]

theorem heard_note_early (w : Workspace) (failure : Option String) (kept : Bool) :
    (w.note (.early failure kept)).heard t = w.heard t := by
  rw [heard, heard, note, List.filterMap_append]
  simp

end Workspace

namespace Build

variable {s s' : BuildState} {r : Except Stop Unit} {d : Document} {uri : Uri} {uris : List Uri}
  {t : DocumentState}

/-! ## Phases -/

/-- **How a phase of a document ends**, whatever it calls: with the document
taken on, or with other resolutions at most. -/
inductive Ends (services : Services) (t : DocumentState) (d : Document) (s : BuildState) :
    Except Stop Unit → BuildState → Prop
  | done {d' : Document} {index : Index} {left : Interrupt} : d.Course services d' → d'.state = t →
      Ends services t d s (.ok ())
        ⟨{ s.workspace with documents := s.workspace.documents.insert d'.uri d', index }, left⟩
  | cut {stop : Stop} {links : Links} :
      Ends services t d s (.error stop)
        { s with workspace := s.workspace.setDocument { d with links } }
  | stopped {stop : Stop} : Ends services t d s (.error stop) s

theorem parsePhase_ends (hle : d.state ≤ .parsed) (h : parsePhase services d s = (r, s')) :
    Ends services .parsed d s r s' := by
  rw [parsePhase, get_bind_run] at h
  cases hp : services.parser.parse d.text none s.interrupt with
  | ok parsed =>
    obtain ⟨result, left⟩ := parsed
    have hnever := (services.parser.parse_never d.text none s.interrupt).1 result left hp
    rw [hp] at h
    cases h
    exact .done ⟨rfl, rfl, rfl, hle, fun _ _ => ⟨result, hnever, rfl⟩⟩ rfl
  | error e =>
    rw [hp] at h
    cases h
    exact .stopped

theorem indexPhase_ends (hready : .parsed ≤ d.state) (hle : d.state ≤ .indexedContent)
    (h : indexPhase services d s = (r, s')) : Ends services .indexedContent d s r s' := by
  rw [indexPhase, get_bind_run] at h
  cases hs : services.scopes.exports d s.interrupt with
  | done symbols left =>
    rw [hs] at h
    cases h
    exact .done (.of_later rfl rfl rfl rfl hle hready) rfl
  | cancelled =>
    rw [hs] at h
    cases h
    exact .stopped
  | panicked message =>
    rw [hs] at h
    cases h
    exact .done (.of_later rfl rfl rfl rfl hle hready) rfl

theorem scopePhase_ends (hready : .parsed ≤ d.state) (hle : d.state ≤ .computedScopes)
    (h : scopePhase services d s = (r, s')) : Ends services .computedScopes d s r s' := by
  rw [scopePhase, get_bind_run] at h
  cases hs : services.scopes.localScopes d s.interrupt with
  | done symbols left =>
    rw [hs] at h
    cases h
    exact .done (.of_later rfl rfl rfl rfl hle hready) rfl
  | cancelled =>
    rw [hs] at h
    cases h
    exact .stopped
  | panicked message =>
    rw [hs] at h
    cases h
    exact .done (.of_later rfl rfl rfl rfl hle hready) rfl

theorem linkPhase_ends (hready : .parsed ≤ d.state) (hle : d.state ≤ .linked)
    (h : linkPhase services d s = (r, s')) : Ends services .linked d s r s' := by
  rw [linkPhase, get_bind_run] at h
  rcases services.linker.link_cases s.workspace.index d s.interrupt with
    ⟨hc, -⟩ | ⟨left, hdone, -⟩
  · rw [hc] at h
    dsimp only at h
    rw [change_bind_run, throw_run] at h
    cases h
    exact .cut
  · rw [hdone, Document.linked_eq] at h
    cases h
    exact .done (.of_later rfl rfl rfl rfl hle hready) rfl

theorem validatePhase_ends (hready : .parsed ≤ d.state) (hle : d.state ≤ .validated)
    (h : validatePhase services d s = (r, s')) : Ends services .validated d s r s' := by
  rw [validatePhase, get_bind_run] at h
  rcases d.validate_cases services.checks services.linker s.workspace.index s.interrupt with
    ⟨links, hc, -, -⟩ | ⟨left, hdone, -⟩
  · rw [hc] at h
    dsimp only at h
    rw [change_bind_run, throw_run] at h
    cases h
    exact .cut
  · rw [hdone, Document.checked_eq] at h
    cases h
    exact .done (.of_later rfl rfl rfl rfl hle hready) rfl

/-- **What a phase does to a document that is ready for it.** -/
theorem advance_ends (ht : t ≠ .changed) (hd : s.workspace.document? uri = some d)
    (hready : t ≠ .parsed → .parsed ≤ d.state) (hle : d.state ≤ t)
    (h : advance services t uri s = (r, s')) : Ends services t d s r s' := by
  rw [advance, get_bind_run, hd] at h
  cases t with
  | changed => exact absurd rfl ht
  | parsed => exact parsePhase_ends hle h
  | indexedContent => exact indexPhase_ends (hready (by simp)) hle h
  | computedScopes => exact scopePhase_ends (hready (by simp)) hle h
  | linked => exact linkPhase_ends (hready (by simp)) hle h
  | validated => exact validatePhase_ends (hready (by simp)) hle h

/-! ## Stages -/

theorem checkpoint_advance_toward (ht : t ≠ .changed) (hk : s.built.Keyed)
    (hready : t ≠ .parsed → ∀ d, s.workspace.document? uri = some d → .parsed ≤ d.state)
    (hle : ∀ d, s.workspace.document? uri = some d → d.state ≤ t)
    (h : (do checkpoint; advance services t uri : Build Unit) s = (r, s')) :
    s.workspace.Toward services t [uri] s'.workspace ∧ s'.workspace.events = s.workspace.events ∧
      (r = .ok () → ∀ d', s'.workspace.document? uri = some d' → d'.state = t) := by
  rcases bind_cases h with ⟨_, s₁, hcheck, hadv⟩ | ⟨e, hcheck, rfl⟩
  · obtain ⟨-, hw, -⟩ := checkpoint_cases hcheck
    rw [← hw] at hready hle ⊢
    rw [BuildState.built, ← hw] at hk
    cases hd : s₁.workspace.document? uri with
    | none =>
      rw [advance, get_bind_run, hd] at hadv
      cases hadv
      refine ⟨.refl _, rfl, fun _ d' hd' => ?_⟩
      rw [hd] at hd'
      cases hd'
    | some d =>
      have huri : d.uri = uri := hk uri d hd
      cases advance_ends ht hd (fun hne => hready hne d hd) (hle d hd) hadv with
      | @done d' index left hcourse hstate =>
        -- one document is replaced, by one with its uri
        have hget : ∀ v, (s₁.workspace.documents.insert d'.uri d').get? v =
            if v = uri then some d' else s₁.workspace.document? v := by
          intro v
          rw [OrderedMap.get?_insert, hcourse.uri, huri]
          rfl
        refine ⟨⟨.put (huri.symm ▸ hd) hcourse index, fun v e he => ?_⟩, rfl, fun _ e he => ?_⟩
        · have he' := (hget v).symm.trans he
          split at he'
          next hv =>
            cases he'
            subst hv
            exact ⟨d, hd, Or.inr ⟨List.mem_singleton_self v, hstate⟩⟩
          next => exact ⟨e, he', Or.inl rfl⟩
        · have he' := (hget uri).symm.trans he
          rw [if_pos rfl, Option.some.injEq] at he'
          rw [← he', hstate]
      | @cut stop links => exact ⟨.of_alike (.setDocument hk hd links), rfl, by simp⟩
      | stopped => exact ⟨.refl _, rfl, by simp⟩
  · obtain ⟨-, hw, -⟩ := checkpoint_cases hcheck
    rw [hw]
    exact ⟨.refl _, rfl, by simp⟩

/-- **The documents of a stage, one after the other.** -/
theorem each_advance_toward (ht : t ≠ .changed) (hk : s.built.Keyed)
    (hready : t ≠ .parsed → ∀ uri ∈ uris, ∀ d, s.workspace.document? uri = some d →
      .parsed ≤ d.state)
    (hle : ∀ uri ∈ uris, ∀ d, s.workspace.document? uri = some d → d.state ≤ t)
    (h : each (fun uri => do checkpoint; advance services t uri) uris s = (r, s')) :
    s.workspace.Toward services t uris s'.workspace ∧ s'.workspace.events = s.workspace.events ∧
      (r = .ok () → ∀ uri ∈ uris, ∀ d', s'.workspace.document? uri = some d' → d'.state = t) := by
  induction uris generalizing s with
  | nil =>
    cases h
    exact ⟨.refl _, rfl, fun _ uri huri => absurd huri List.not_mem_nil⟩
  | cons u rest ih =>
    have hready₁ : t ≠ .parsed → ∀ d, s.workspace.document? u = some d → .parsed ≤ d.state :=
      fun hne => hready hne u List.mem_cons_self
    have hle₁ := hle u List.mem_cons_self
    rw [each] at h
    rcases bind_cases h with ⟨_, s₁, hone, hrest⟩ | ⟨e, hone, rfl⟩
    · obtain ⟨htoward, hevents, hstate⟩ := checkpoint_advance_toward ht hk hready₁ hle₁ hone
      -- the others are as far as before, or went through the phase
      have hready' : t ≠ .parsed → ∀ uri ∈ rest, ∀ d, s₁.workspace.document? uri = some d →
          .parsed ≤ d.state :=
        fun hne uri huri _ hd => htoward.le_state (hready hne uri (List.mem_cons_of_mem _ huri)) hd
      have hle' : ∀ uri ∈ rest, ∀ d, s₁.workspace.document? uri = some d → d.state ≤ t :=
        fun uri huri _ hd => htoward.state_le (hle uri (List.mem_cons_of_mem _ huri)) hd
      obtain ⟨htoward', hevents', hall⟩ := ih (htoward.course.keyed hk) hready' hle' hrest
      refine ⟨htoward.trans htoward', hevents'.trans hevents, fun hr uri huri d' hd' => ?_⟩
      -- a document that comes twice is taken on once
      by_cases hin : uri ∈ rest
      · exact hall hr uri hin d' hd'
      · obtain rfl : uri = u := (List.mem_cons.mp huri).resolve_right hin
        obtain ⟨d₁, hd₁, hsame | ⟨-, hmoved⟩⟩ := htoward'.moved uri d' hd'
        · rw [hsame]
          exact hstate rfl d₁ hd₁
        · exact hmoved
    · obtain ⟨htoward, hevents, -⟩ := checkpoint_advance_toward ht hk hready₁ hle₁ hone
      have hwhole : s.workspace.Toward services t ([u] ++ rest) s'.workspace :=
        htoward.trans (.refl s'.workspace)
      exact ⟨hwhole, hevents, by simp⟩

/-! ## Listeners -/

theorem resolve_alike {w w' : Workspace} {linker : Linker} {id : RefId}
    {outcome : Option (Except Cycle Resolution)} (hk : w.built.Keyed)
    (h : w.resolve linker uri id = (outcome, w')) : w.Alike w' ∧ w'.events = w.events := by
  rw [Workspace.resolve] at h
  cases hd : w.document? uri with
  | none =>
    rw [hd] at h
    cases h
    exact ⟨.refl w, rfl⟩
  | some d =>
    cases hres : linker.resolve w.index d id with
    | mk found d' =>
      have hlinks : d' = { d with links := d'.links } := by
        rw [Linker.resolve] at hres
        cases hcx : linker.context? w.index d <;> rw [hcx] at hres <;> cases hres <;> rfl
      rw [hd] at h
      dsimp only at h
      rw [hres] at h
      cases h
      rw [hlinks]
      exact ⟨.setDocument hk hd _, rfl⟩

theorem resolveFirst_alike (hk : s.built.Keyed) (h : resolveFirst services uris s = (r, s')) :
    r = .ok () ∧ s.workspace.Alike s'.workspace ∧
      ∀ t, s'.workspace.heard t = s.workspace.heard t := by
  rw [resolveFirst, change_run] at h
  cases h
  refine ⟨rfl, ?_⟩
  dsimp only
  cases uris.head?.bind s.workspace.document? with
  | none => exact ⟨.refl _, fun _ => rfl⟩
  | some d =>
    dsimp only
    cases hres : s.workspace.resolve services.linker d.uri ⟨0⟩ with
    | mk outcome w =>
      obtain ⟨halike, hevents⟩ := resolve_alike hk hres
      cases d.links.isEmpty with
      | true => exact ⟨.refl _, fun _ => rfl⟩
      | false =>
        cases outcome with
        | none => exact ⟨.refl _, fun _ => rfl⟩
        | some outcome =>
          refine ⟨halike.trans (.note w _), fun t => ?_⟩
          rw [Workspace.heard_note_early]
          exact Workspace.heard_congr hevents t

/-- A listener is told, unless the build is cancelled before. -/
theorem tell_heard {action : ListenerAction} (hk : s.built.Keyed)
    (h : tell services t uris action s = (r, s')) :
    s.workspace.Alike s'.workspace ∧
      (r ≠ .ok () ∧ (∀ t', s'.workspace.heard t' = s.workspace.heard t') ∨
        ∀ t', s'.workspace.heard t' =
          s.workspace.heard t' ++ if t = t' then [statesOf s.workspace uris] else []) := by
  unfold tell at h
  rcases bind_cases h with ⟨_, s₁, hcheck, hrest⟩ | ⟨e, hcheck, rfl⟩
  · obtain ⟨-, hw, -⟩ := checkpoint_cases hcheck
    rw [BuildState.built, ← hw] at hk
    rw [← hw]
    rw [change_bind_run] at hrest
    -- what the listener does comes after the event
    have hnote := Workspace.Alike.note s₁.workspace (.phase t (statesOf s₁.workspace uris))
    have hheard : ∀ t', (s₁.workspace.note (.phase t (statesOf s₁.workspace uris))).heard t' =
        s₁.workspace.heard t' ++ if t = t' then [statesOf s₁.workspace uris] else [] :=
      fun t' => Workspace.heard_note _ _ _
    cases action with
    | note =>
      cases hrest
      exact ⟨hnote, Or.inr hheard⟩
    | cancel =>
      cases hrest
      exact ⟨hnote, Or.inr hheard⟩
    | panic message =>
      cases hrest
      exact ⟨hnote, Or.inr hheard⟩
    | resolveFirst =>
      dsimp only at hrest
      obtain ⟨-, halike, hsame⟩ :=
        resolveFirst_alike (s := ⟨_, s₁.interrupt⟩) (hnote.keyed hk) hrest
      exact ⟨hnote.trans halike, Or.inr fun t' => (hsame t').trans (hheard t')⟩
  · obtain ⟨-, hw, -⟩ := checkpoint_cases hcheck
    rw [hw]
    exact ⟨.refl _, Or.inl ⟨by simp, fun _ => rfl⟩⟩

/-- **The listeners of a phase are told one after the other**, as far as it
goes; each is told the same. -/
theorem notify_heard (hk : s.built.Keyed) (h : notify services t uris s = (r, s')) :
    s.workspace.Alike s'.workspace ∧
      (∀ t' ≠ t, s'.workspace.heard t' = s.workspace.heard t') ∧
      ∃ lists, lists <+: (s.workspace.listeners.of t).map (fun _ => statesOf s.workspace uris) ∧
        s'.workspace.heard t = s.workspace.heard t ++ lists ∧
        (r = .ok () →
          lists = (s.workspace.listeners.of t).map fun _ => statesOf s.workspace uris) := by
  rw [notify, get_bind_run] at h
  rw [show s.workspace.listeners.ofPhases.filter (·.2.1 == t) = s.workspace.listeners.of t from rfl]
    at h
  generalize s.workspace.listeners.of t = listeners at h ⊢
  induction listeners generalizing s with
  | nil =>
    cases h
    exact ⟨.refl _, fun _ _ => rfl, [], List.nil_prefix, (List.append_nil _).symm, fun _ => rfl⟩
  | cons l rest ih =>
    rw [each] at h
    rcases bind_cases h with ⟨_, s₁, ht, hrest⟩ | ⟨e, ht, rfl⟩
    · obtain ⟨halike, htold⟩ := tell_heard hk ht
      have hheard := htold.resolve_left fun hno => hno.1 rfl
      obtain ⟨halike', hother, lists, hprefix, hlists, hall⟩ := ih (halike.keyed hk) hrest
      rw [halike.statesOf_eq] at hprefix hall
      refine ⟨halike.trans halike', fun t' hne => ?_, statesOf s.workspace uris :: lists,
        ?_, ?_, ?_⟩
      · rw [hother t' hne, hheard, if_neg (Ne.symm hne), List.append_nil]
      · rw [List.map_cons]
        exact (List.prefix_cons_inj _).mpr hprefix
      · rw [hlists, hheard, if_pos rfl, List.append_assoc]
        rfl
      · intro hr
        rw [hall hr, List.map_cons]
    · -- the first listener stopped the build: it was told, or the build was cancelled before
      obtain ⟨halike, htold⟩ := tell_heard hk ht
      rcases htold with ⟨-, hsame⟩ | hheard
      · exact ⟨halike, fun t' _ => hsame t', [], List.nil_prefix,
          (hsame t).trans (List.append_nil _).symm, by simp⟩
      · refine ⟨halike, fun t' hne => ?_, [statesOf s.workspace uris], ?_, ?_, by simp⟩
        · rw [hheard, if_neg (Ne.symm hne), List.append_nil]
        · rw [List.map_cons]
          exact (List.prefix_cons_inj _).mpr List.nil_prefix
        · rw [hheard, if_pos rfl]

/-! ## Builds -/

/-- **What a build has done in some of its stages**, when it ends or is
stopped. The listeners of a stage were told all there is to tell, unless the
build was stopped and no document went beyond the stage. -/
structure Outcome (services : Services) (uris : List Uri) (stages : List DocumentState)
    (s : BuildState) (r : Except Stop Unit) (s' : BuildState) : Prop where
  course : s.workspace.Course services s'.workspace
  moved : ∀ uri d', s'.workspace.document? uri = some d' →
    ∃ d, s.workspace.document? uri = some d ∧
      (d'.state = d.state ∨ d'.state ∈ stages ∧ uri ∈ s.built.todo d'.state uris)
  silent : ∀ t ∉ stages, s'.workspace.heard t = s.workspace.heard t
  told : ∀ t ∈ stages, ∃ lists, lists <+: s.built.news s.workspace.listeners uris t ∧
    s'.workspace.heard t = s.workspace.heard t ++ lists ∧
    (lists = s.built.news s.workspace.listeners uris t ∨
      r ≠ .ok () ∧ ∀ uri d', s'.workspace.document? uri = some d' → t < d'.state →
        ∃ d, s.workspace.document? uri = some d ∧ d'.state = d.state)
  finished : r = .ok () → ∀ t ∈ stages, s'.built.todo t uris = []

/-- In a stage that does no more than to take documents on, what it is for is
what moved. -/
theorem Outcome.moved_of_toward {w' : Workspace}
    (h : s.workspace.Toward services t (s.built.todo t uris) w') {uri : Uri} {d' : Document}
    (hd' : w'.document? uri = some d') : ∃ d, s.workspace.document? uri = some d ∧
      (d'.state = d.state ∨ d'.state ∈ [t] ∧ uri ∈ s.built.todo d'.state uris) := by
  obtain ⟨d, hd, hmoved⟩ := h.moved uri d' hd'
  refine ⟨d, hd, hmoved.imp_right fun hcame => ?_⟩
  rw [hcame.2]
  exact ⟨List.mem_singleton_self t, hcame.1⟩

/-- A stage that is for no document does nothing. -/
theorem Outcome.idle (hempty : s.built.todo t uris = []) (r : Except Stop Unit) :
    Outcome services uris [t] s r s where
  course := .refl _
  moved := fun _ d hd => ⟨d, hd, Or.inl rfl⟩
  silent := fun _ _ => rfl
  told := by
    intro t' ht'
    rw [List.mem_singleton.mp ht', Built.news, hempty]
    exact ⟨[], List.nil_prefix, (List.append_nil _).symm, Or.inl rfl⟩
  finished := by
    intro _ t' ht'
    rw [List.mem_singleton.mp ht']
    exact hempty

/-- A stage that is stopped before it took all of its documents on has told
nobody. -/
theorem Outcome.unfinished (htoward : s.workspace.Toward services t (s.built.todo t uris) s'.workspace)
    (hevents : s'.workspace.events = s.workspace.events) (hr : r ≠ .ok ()) :
    Outcome services uris [t] s r s' where
  course := htoward.course
  moved := fun _ _ hd' => moved_of_toward htoward hd'
  silent := fun t' _ => Workspace.heard_congr hevents t'
  told := by
    intro t' ht'
    rw [List.mem_singleton.mp ht']
    exact ⟨[], List.nil_prefix, (Workspace.heard_congr hevents t).trans (List.append_nil _).symm,
      Or.inr ⟨hr, fun _ _ hd' hlt => htoward.same_beyond hd' hlt⟩⟩
  finished := fun hok => absurd hok hr

theorem lt_irrefl_of_eq {t' : DocumentState} (h : t' = t) (hlt : t < t') : False := by
  have hrank : t.rank < t'.rank := hlt
  rw [h] at hrank
  omega

theorem statesOf_eq_map {w : Workspace}
    (h : ∀ uri ∈ uris, ∃ d, w.document? uri = some d ∧ d.state = t) :
    statesOf w uris = uris.map fun uri => (uri, t) := by
  rw [statesOf, ← List.filterMap_eq_map]
  refine List.filterMap_congr fun uri huri => ?_
  obtain ⟨d, hd, hstate⟩ := h uri huri
  rw [hd, Option.map_some, hstate]
  rfl

/-- What a stage is for was parsed, if no parsing is left. -/
theorem parsed_of_todo (hready : t ≠ .parsed → s.built.todo .parsed uris = []) :
    t ≠ .parsed → ∀ uri ∈ s.built.todo t uris, ∀ d, s.workspace.document? uri = some d →
      .parsed ≤ d.state := by
  intro hne uri huri d hd
  have hnot := Built.todo_eq_nil_iff.mp (hready hne) uri (Built.mem_todo.mp huri).1 d hd
  refine Nat.le_of_not_lt fun hlt => ?_
  rw [Document.awaits_iff.mpr ⟨hlt, nofun⟩] at hnot
  cases hnot

theorem le_of_todo : ∀ uri ∈ s.built.todo t uris, ∀ d, s.workspace.document? uri = some d →
    d.state ≤ t := by
  intro uri huri d hd
  obtain ⟨-, d₀, hd₀, hawaits⟩ := Built.mem_todo.mp huri
  obtain rfl : d₀ = d := Option.some.inj (hd₀.symm.trans hd)
  exact Nat.le_of_lt (Document.awaits_iff.mp hawaits).1

/-- **A stage that took all of its documents on** tells its listeners of them,
as far as they let it. -/
theorem Outcome.notified {s₁ : BuildState} (hk : s.built.Keyed)
    (htoward : s.workspace.Toward services t (s.built.todo t uris) s₁.workspace)
    (hevents : s₁.workspace.events = s.workspace.events) (hempty : s.built.todo t uris ≠ [])
    (hall : ∀ uri ∈ s.built.todo t uris, ∀ d, s₁.workspace.document? uri = some d → d.state = t)
    (hnotify : notify services t (s.built.todo t uris) s₁ = (r, s')) :
    Outcome services uris [t] s r s' := by
  obtain ⟨halike, hsilent, lists, hprefix, hlists, hrest⟩ :=
    notify_heard (htoward.course.keyed hk) hnotify
  have hreached : ∀ uri ∈ s.built.todo t uris, ∃ d, s₁.workspace.document? uri = some d ∧
      d.state = t := by
    intro uri huri
    obtain ⟨-, d, hd, -⟩ := Built.mem_todo.mp huri
    obtain ⟨d', hd', -⟩ := htoward.course.document_of hd
    exact ⟨d', hd', hall uri huri d' hd'⟩
  have hnews : s.built.news s.workspace.listeners uris t =
      (s.workspace.listeners.of t).map fun _ =>
        (s.built.todo t uris).map fun uri => (uri, t) := by
    rw [Built.news, if_neg (by rwa [List.isEmpty_iff])]
  rw [htoward.course.listeners, statesOf_eq_map hreached, ← hnews] at hprefix hrest
  have hwhole : s.workspace.Toward services t (s.built.todo t uris ++ []) s'.workspace :=
    htoward.trans (.of_alike halike)
  rw [List.append_nil] at hwhole
  have hheard := Workspace.heard_congr hevents
  constructor
  case course => exact hwhole.course
  case moved => exact fun _ _ hd' => moved_of_toward hwhole hd'
  case silent =>
    intro t' ht'
    rw [hsilent t' (fun heq => ht' (List.mem_singleton.mpr heq)), hheard]
  case told =>
    intro t' ht'
    rw [List.mem_singleton.mp ht']
    refine ⟨lists, hprefix, by rw [hlists, hheard], ?_⟩
    by_cases hr : r = .ok ()
    · exact Or.inl (hrest hr)
    · exact Or.inr ⟨hr, fun _ _ hd' hlt => hwhole.same_beyond hd' hlt⟩
  case finished =>
    intro hr t' ht'
    rw [List.mem_singleton.mp ht', Built.todo_eq_nil_iff]
    intro uri huri d' hd'
    by_contra hawaits
    have hawaits' := Bool.not_eq_false _ ▸ hawaits
    obtain ⟨d, hd, hcourse⟩ := hwhole.course.document uri d' hd'
    -- the document was to be taken on, and so it was
    obtain ⟨d₁, hd₁, hstate⟩ := hreached uri
      (Built.mem_todo.mpr ⟨huri, d, hd, hcourse.awaits hawaits'⟩)
    obtain ⟨d₂, links, hd₂, heq⟩ := halike.document uri d' hd'
    have hcame : d'.state = t := by
      rw [heq, Option.some.inj (hd₂.symm.trans hd₁)]
      exact hstate
    rw [Document.awaits_of_le (Nat.le_of_eq (congrArg _ hcame.symm))] at hawaits'
    cases hawaits'

/-- **What one stage does**: it takes on the documents it is for, and then
tells its listeners of all of them. -/
theorem runStage_outcome (hk : s.built.Keyed) (ht : t ≠ .changed)
    (hready : t ≠ .parsed → s.built.todo .parsed uris = [])
    (h : runStage services uris t s = (r, s')) : Outcome services uris [t] s r s' := by
  rw [runStage, get_bind_run] at h
  by_cases hempty : s.built.todo t uris = []
  · rw [if_pos (List.isEmpty_iff.mpr hempty)] at h
    cases h
    exact .idle hempty _
  · rw [if_neg (by rwa [List.isEmpty_iff])] at h
    rcases bind_cases h with ⟨_, s₁, hadvance, hnotify⟩ | ⟨e, hadvance, rfl⟩
    · obtain ⟨htoward, hevents, hall⟩ :=
        each_advance_toward ht hk (parsed_of_todo hready) le_of_todo hadvance
      exact .notified hk htoward hevents hempty (hall rfl) hnotify
    · obtain ⟨htoward, hevents, -⟩ :=
        each_advance_toward ht hk (parsed_of_todo hready) le_of_todo hadvance
      exact .unfinished htoward hevents (by simp)

/-- A later stage has the same documents to take on, and the same to tell. -/
theorem Outcome.news_eq {s₁ : BuildState} (h : Outcome services uris [t] s r s₁)
    {t' : DocumentState} (hlt : t < t') :
    s₁.built.todo t' uris = s.built.todo t' uris ∧
      s₁.built.news s₁.workspace.listeners uris t' =
        s.built.news s.workspace.listeners uris t' := by
  have htoward : s.workspace.Toward services t uris s₁.workspace := by
    refine ⟨h.course, fun uri d' hd' => ?_⟩
    obtain ⟨d, hd, hmoved⟩ := h.moved uri d' hd'
    refine ⟨d, hd, hmoved.imp_right fun ⟨hstate, hmem⟩ => ?_⟩
    exact ⟨(Built.mem_todo.mp hmem).1, List.mem_singleton.mp hstate⟩
  have htodo := htoward.todo_eq hlt uris
  exact ⟨htodo, by rw [Built.news, Built.news, htodo, h.course.listeners]⟩

/-- **The first of some stages and the others make all of them.** -/
theorem Outcome.cons {s₁ : BuildState} {rest : List DocumentState} (hlt : ∀ t' ∈ rest, t < t')
    (h : Outcome services uris [t] s (.ok ()) s₁) (h' : Outcome services uris rest s₁ r s') :
    Outcome services uris (t :: rest) s r s' := by
  have hnot : t ∉ rest := fun hmem => lt_irrefl_of_eq rfl (hlt t hmem)
  have hother : ∀ t' ∈ rest, t' ∉ [t] := by
    intro t' ht' hmem
    exact lt_irrefl_of_eq (List.mem_singleton.mp hmem) (hlt t' ht')
  constructor
  case course => exact h.course.trans h'.course
  case moved =>
    intro uri d' hd'
    obtain ⟨d₁, hd₁, hmoved'⟩ := h'.moved uri d' hd'
    obtain ⟨d, hd, hmoved⟩ := h.moved uri d₁ hd₁
    refine ⟨d, hd, ?_⟩
    rcases hmoved' with hsame | ⟨hstate, hmem⟩
    · rw [hsame]
      exact hmoved.imp_right fun ⟨hstate, hmem⟩ =>
        ⟨List.mem_cons.mpr (Or.inl (List.mem_singleton.mp hstate)), hmem⟩
    · rw [(h.news_eq (hlt _ hstate)).1] at hmem
      exact Or.inr ⟨List.mem_cons_of_mem _ hstate, hmem⟩
  case silent =>
    intro t' ht'
    rw [List.mem_cons, not_or] at ht'
    rw [h'.silent t' ht'.2, h.silent t' fun hmem => ht'.1 (List.mem_singleton.mp hmem)]
  case told =>
    intro t' ht'
    rcases List.mem_cons.mp ht' with rfl | hmem
    · -- the stage is through, and the later ones tell its listeners nothing
      obtain ⟨lists, hprefix, hlists, hall⟩ := h.told t' (List.mem_singleton_self t')
      refine ⟨lists, hprefix, ?_, Or.inl (hall.resolve_right fun hno => hno.1 rfl)⟩
      rw [h'.silent t' hnot, hlists]
    · obtain ⟨lists, hprefix, hlists, hall⟩ := h'.told t' hmem
      rw [(h.news_eq (hlt t' hmem)).2] at hprefix hall
      refine ⟨lists, hprefix, ?_,
        hall.imp_right fun ⟨hr, hbeyond⟩ => ⟨hr, fun uri d' hd' hlt' => ?_⟩⟩
      · rw [hlists, h.silent t' (hother t' hmem)]
      · obtain ⟨d₁, hd₁, hsame⟩ := hbeyond uri d' hd' hlt'
        obtain ⟨d, hd, hmoved⟩ := h.moved uri d₁ hd₁
        refine ⟨d, hd, hsame.trans (hmoved.resolve_right fun ⟨hstate, _⟩ => ?_)⟩
        -- what went through this stage only is not beyond a later one
        have h₁ : t.rank < t'.rank := hlt t' hmem
        have h₂ : t'.rank < d'.state.rank := hlt'
        rw [hsame, List.mem_singleton.mp hstate] at h₂
        omega
  case finished =>
    intro hr t' ht'
    rcases List.mem_cons.mp ht' with rfl | hmem
    · exact h'.course.todo_eq_nil (h.finished rfl t' (List.mem_singleton_self t'))
    · exact h'.finished hr t' hmem

/-- A stage that is stopped leaves the later ones with nothing done. -/
theorem Outcome.stopped {stop : Stop} {rest : List DocumentState} (hlt : ∀ t' ∈ rest, t < t')
    (h : Outcome services uris [t] s (.error stop) s') :
    Outcome services uris (t :: rest) s (.error stop) s' := by
  refine ⟨h.course, fun uri d' hd' => ?_, fun t' ht' => ?_, fun t' ht' => ?_, nofun⟩
  · obtain ⟨d, hd, hmoved⟩ := h.moved uri d' hd'
    refine ⟨d, hd, hmoved.imp_right fun ⟨hstate, hmem⟩ => ⟨?_, hmem⟩⟩
    exact List.mem_cons.mpr (Or.inl (List.mem_singleton.mp hstate))
  · exact h.silent t' fun hmem => ht' (List.mem_cons.mpr (Or.inl (List.mem_singleton.mp hmem)))
  · rcases List.mem_cons.mp ht' with rfl | hmem
    · exact h.told t' (List.mem_singleton_self t')
    · have hother : t' ∉ [t] := fun h => lt_irrefl_of_eq (List.mem_singleton.mp h) (hlt t' hmem)
      refine ⟨[], List.nil_prefix, (h.silent t' hother).trans (List.append_nil _).symm,
        Or.inr ⟨nofun, fun uri d' hd' hbeyond => ?_⟩⟩
      obtain ⟨d, hd, hmoved⟩ := h.moved uri d' hd'
      refine ⟨d, hd, hmoved.resolve_right fun ⟨hstate, _⟩ => ?_⟩
      have h₁ : t.rank < t'.rank := hlt t' hmem
      have h₂ : t'.rank < d'.state.rank := hbeyond
      rw [List.mem_singleton.mp hstate] at h₂
      omega

/-- **What some stages of a build do**, one after the other, behind those that
are done. -/
theorem each_stage_outcome (hk : s.built.Keyed) {done rest later : List DocumentState}
    (hsplit : Built.stages = done ++ (rest ++ later))
    (hdone : ∀ t ∈ done, s.built.todo t uris = [])
    (h : each (runStage services uris) rest s = (r, s')) : Outcome services uris rest s r s' := by
  induction rest generalizing done s with
  | nil =>
    cases h
    exact ⟨.refl _, fun _ d hd => ⟨d, hd, Or.inl rfl⟩, fun _ _ => rfl, nofun, nofun⟩
  | cons t rest ih =>
    have ht : t ∈ Built.stages := Built.mem_stages_of_eq hsplit
    have hsorted : (done ++ t :: (rest ++ later)).Pairwise (· < ·) := hsplit ▸ Built.stages_sorted
    have hlt : ∀ t' ∈ rest, t < t' := fun t' ht' =>
      (List.pairwise_cons.mp (List.pairwise_append.mp hsorted).2.1).1 t'
        (List.mem_append_left _ ht')
    have hready := Built.parsed_nil_of_done hsplit hdone
    rw [each] at h
    rcases bind_cases h with ⟨_, s₁, hstage, hrest⟩ | ⟨e, hstage, rfl⟩
    · have hout := runStage_outcome hk (Built.ne_changed_of_mem_stages ht) hready hstage
      have hsplit' : Built.stages = (done ++ [t]) ++ (rest ++ later) := by
        rw [hsplit, List.append_assoc]
        rfl
      refine hout.cons hlt (ih (hout.course.keyed hk) hsplit' (fun t' ht' => ?_) hrest)
      rcases List.mem_append.mp ht' with hin | hin
      · exact hout.course.todo_eq_nil (hdone t' hin)
      · exact hout.finished rfl t' hin
    · exact (runStage_outcome hk (Built.ne_changed_of_mem_stages ht) hready hstage).stopped hlt

/-! ## Whole builds -/

/-- **What a build does**, whatever it calls: its stages between marking its
documents and clearing the marks. -/
theorem documents_outcome {options : ValidationMode} (hk : s.built.Keyed)
    (h : documents services uris options s = (r, s')) :
    ∃ s₁, Outcome services uris Built.stages
        (s.withDocuments (s.built.mark options uris).documents) r s₁ ∧
      (r = .ok () ∧ s' = s₁.withDocuments (s₁.built.clear uris).documents ∨
        r ≠ .ok () ∧ s' = s₁) := by
  rw [documents_eq] at h
  cases hrun : each (runStage services uris) Built.stages
      (s.withDocuments (s.built.mark options uris).documents) with
  | mk o s₁ =>
    have hkeyed : (s.withDocuments (s.built.mark options uris).documents).built.Keyed :=
      hk.mark options
    have hsplit : Built.stages = [] ++ (Built.stages ++ []) := rfl
    have hout := each_stage_outcome hkeyed hsplit nofun hrun
    rw [hrun] at h
    cases o with
    | error e =>
      cases h
      exact ⟨_, hout, Or.inr ⟨nofun, rfl⟩⟩
    | ok _ =>
      cases h
      exact ⟨_, hout, Or.inl ⟨rfl, rfl⟩⟩

end Build
end Workbench
