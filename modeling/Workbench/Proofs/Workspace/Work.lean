import Mathlib.Data.List.Induction
import Workbench.Proofs.OrderedMap
import Workbench.Proofs.Workspace.Phase
/-!
# The work of a build

A build takes its documents through five stages, one after the other. Which
documents a stage is for is settled when it begins, and so the work of a
build is a function of the documents and the index, `Built.through`. A build
that is stopped has done the first part of it, document by document:
`Built.Progress`. Each document it took on was `Due`: no stage before had
anything left to do, and neither had this stage for the documents in front
of it.
-/

namespace Workbench

/-- Whether a stage is for a document: it has not come to it, and it asked for
being validated if this is the stage for it. -/
def Document.awaits (d : Document) (t : DocumentState) : Bool :=
  d.state < t && (t != .validated || d.build == some .all)

theorem Document.awaits_iff {d : Document} {t : DocumentState} :
    d.awaits t = true ↔ d.state < t ∧ (t = .validated → d.build = some .all) := by
  by_cases h : t = .validated <;> simp [awaits, h]

/-- No stage up to the state of a document is for it. -/
theorem Document.awaits_of_le {d : Document} {t : DocumentState} (h : t ≤ d.state) :
    d.awaits t = false := by
  by_contra hne
  obtain ⟨hlt, -⟩ := awaits_iff.mp (Bool.not_eq_false _ ▸ hne)
  have hrank : d.state.rank < t.rank := hlt
  have hrank' : t.rank ≤ d.state.rank := h
  omega

/-- What a phase leaves of a document. -/
theorem Document.phase_ok {services : Services} {x x' : Index} {d d' : Document}
    {t : DocumentState} (h : d.phase services x t = .ok (d', x')) :
    d'.uri = d.uri ∧ d'.text = d.text ∧ d'.build = d.build ∧ (t ≠ .changed → d'.state = t) := by
  cases t with
  | changed =>
    cases h
    exact ⟨rfl, rfl, rfl, fun ht => absurd rfl ht⟩
  | parsed =>
    rw [phase] at h
    split at h
    · cases h
      exact ⟨rfl, rfl, rfl, fun _ => rfl⟩
    · cases h
  | indexedContent =>
    cases h
    exact ⟨rfl, rfl, rfl, fun _ => rfl⟩
  | computedScopes =>
    cases h
    exact ⟨rfl, rfl, rfl, fun _ => rfl⟩
  | linked =>
    have hlinked : (services.linker.linked x d).uri = d.uri ∧
        (services.linker.linked x d).text = d.text ∧
        (services.linker.linked x d).build = d.build := by
      rw [Linker.linked]
      split <;> exact ⟨rfl, rfl, rfl⟩
    cases h
    exact ⟨hlinked.1, hlinked.2.1, hlinked.2.2, fun _ => rfl⟩
  | validated =>
    have hchecked : (d.checked services.checks services.linker x).2.uri = d.uri ∧
        (d.checked services.checks services.linker x).2.text = d.text ∧
        (d.checked services.checks services.linker x).2.build = d.build := by
      rw [checked]
      split <;> exact ⟨rfl, rfl, rfl⟩
    cases h
    exact ⟨hchecked.1, hchecked.2.1, hchecked.2.2, fun _ => rfl⟩

namespace Built

variable {services : Services} {b b' b₁ b₂ : Built} {uris : List Uri} {uri : Uri}
  {t : DocumentState}

/-- Every document is kept under its own uri. -/
def Keyed (b : Built) : Prop := ∀ uri d, b.documents.get? uri = some d → d.uri = uri

/-! ## One document -/

/-- What taking a document through a phase comes to. -/
theorem advance_ok (hk : b.Keyed) (h : b.advance services t uri = .ok b') :
    (b.documents.get? uri = none ∧ b' = b) ∨
      ∃ d d' x, b.documents.get? uri = some d ∧ d.phase services b.index t = .ok (d', x) ∧
        b' = ⟨b.documents.insert uri d', x⟩ := by
  rw [advance] at h
  cases hget : b.documents.get? uri with
  | none =>
    rw [hget] at h
    cases h
    exact Or.inl ⟨rfl, rfl⟩
  | some d =>
    rw [hget] at h
    dsimp only at h
    cases hphase : d.phase services b.index t with
    | error e =>
      rw [hphase] at h
      cases h
    | ok done =>
      obtain ⟨d', x⟩ := done
      rw [hphase] at h
      cases h
      have huri : d'.uri = uri := (Document.phase_ok hphase).1.trans (hk uri d hget)
      exact Or.inr ⟨d, d', x, rfl, hphase, by rw [← huri]⟩

theorem get?_advance_of_ne (hk : b.Keyed) (h : b.advance services t uri = .ok b') {v : Uri}
    (hv : v ≠ uri) : b'.documents.get? v = b.documents.get? v := by
  rcases advance_ok hk h with ⟨-, rfl⟩ | ⟨d, d', x, -, -, rfl⟩
  · rfl
  · exact OrderedMap.get?_insert_of_ne _ _ hv

theorem get?_advance (hk : b.Keyed) (h : b.advance services t uri = .ok b') {d' : Document}
    (hd' : b'.documents.get? uri = some d') :
    ∃ d, b.documents.get? uri = some d ∧ d.phase services b.index t = .ok (d', b'.index) := by
  rcases advance_ok hk h with ⟨hnone, rfl⟩ | ⟨d, d₁, x, hd, hphase, rfl⟩
  · rw [hnone] at hd'
    cases hd'
  · rw [OrderedMap.get?_insert_self, Option.some.injEq] at hd'
    subst hd'
    exact ⟨d, hd, hphase⟩

theorem keys_advance (hk : b.Keyed) (h : b.advance services t uri = .ok b') :
    b'.documents.keys = b.documents.keys := by
  rcases advance_ok hk h with ⟨-, rfl⟩ | ⟨d, d', x, hd, -, rfl⟩
  · rfl
  · exact OrderedMap.keys_insert_of_get? hd d'

theorem Keyed.advance (hk : b.Keyed) (h : b.advance services t uri = .ok b') : b'.Keyed := by
  intro v d' hd'
  by_cases hv : v = uri
  · subst hv
    obtain ⟨d, hd, hphase⟩ := get?_advance hk h hd'
    rw [(Document.phase_ok hphase).1, hk v d hd]
  · rw [get?_advance_of_ne hk h hv] at hd'
    exact hk v d' hd'

/-! ## Stages -/

/-- The documents that a stage is for. -/
def todo (b : Built) (t : DocumentState) (uris : List Uri) : List Uri :=
  uris.filter fun uri => (b.documents.get? uri).any (·.awaits t)

/-- The stages of a build. -/
def stages : List DocumentState :=
  [.parsed, .indexedContent, .computedScopes, .linked, .validated]

theorem stages_sorted : stages.Pairwise (· < ·) := by decide

theorem ne_changed_of_mem_stages (ht : t ∈ stages) : t ≠ .changed := by
  rintro rfl
  revert ht
  decide

/-- Documents taken through a phase one after the other. -/
abbrev advanceAll (services : Services) (t : DocumentState) (b : Built) (uris : List Uri) :
    Except Stop Built :=
  uris.foldlM (advance services t) b

/-- **Documents taken through the stages.** -/
def through (services : Services) (uris : List Uri) : List DocumentState → Built → Except Stop Built
  | [], b => .ok b
  | t :: rest, b => b.advanceAll services t (b.todo t uris) >>= through services uris rest

theorem mem_todo : uri ∈ b.todo t uris ↔
    uri ∈ uris ∧ ∃ d, b.documents.get? uri = some d ∧ d.awaits t = true := by
  rw [todo, List.mem_filter, Option.any_eq_true]

theorem todo_eq_nil_iff : b.todo t uris = [] ↔
    ∀ uri ∈ uris, ∀ d, b.documents.get? uri = some d → d.awaits t = false := by
  rw [List.eq_nil_iff_forall_not_mem]
  constructor
  · intro h uri huri d hd
    by_contra hne
    exact h uri (mem_todo.mpr ⟨huri, d, hd, by simpa using hne⟩)
  · intro h uri hmem
    obtain ⟨huri, d, hd, hawaits⟩ := mem_todo.mp hmem
    rw [h uri huri d hd] at hawaits
    cases hawaits

theorem todo_append (l l' : List Uri) : b.todo t (l ++ l') = b.todo t l ++ b.todo t l' :=
  List.filter_append ..

/-- Documents that stay as they are stay to be done or not. -/
theorem todo_congr (h : ∀ uri ∈ uris, b'.documents.get? uri = b.documents.get? uri) :
    b'.todo t uris = b.todo t uris :=
  List.filter_congr fun uri huri => by rw [h uri huri]

theorem state_advance (hk : b.Keyed) (ht : t ≠ .changed) (h : b.advance services t uri = .ok b')
    {d' : Document} (hd' : b'.documents.get? uri = some d') : d'.state = t := by
  obtain ⟨d, -, hphase⟩ := get?_advance hk h hd'
  exact (Document.phase_ok hphase).2.2.2 ht

/-- No stage up to the one that a document was taken through gets more to
do. -/
theorem todo_nil_advance (hk : b.Keyed) (ht : t ≠ .changed)
    (h : b.advance services t uri = .ok b') {t' : DocumentState} (ht' : t' ≤ t)
    (hnil : b.todo t' uris = []) : b'.todo t' uris = [] := by
  rw [todo_eq_nil_iff] at hnil ⊢
  intro v hv d' hd'
  by_cases hvu : v = uri
  · subst hvu
    exact Document.awaits_of_le (by rwa [state_advance hk ht h hd'])
  · rw [get?_advance_of_ne hk h hvu] at hd'
    exact hnil v hv d' hd'

/-! ## What is due -/

/-- **A document is due for a stage**: the stages before are through, and so
is this one with the documents in front. The document itself has not come to
the stage, unless it is in front of itself. -/
structure Due (b : Built) (uris : List Uri) (t : DocumentState) (uri : Uri) : Prop where
  stage : t ∈ stages
  earlier : ∀ t' ∈ stages, t' < t → b.todo t' uris = []
  place : ∃ pre post, uris = pre ++ uri :: post ∧ b.todo t pre = [] ∧
    (uri ∈ pre ∨ b.todo t [uri] = [uri])
  state : ∀ d, b.documents.get? uri = some d → d.state ≤ t
  asked : ∀ d, b.documents.get? uri = some d → t = .validated → d.build = some .all

/-- **What a build has done at some point.** -/
inductive Progress (services : Services) (uris : List Uri) (b : Built) : Built → Prop
  | start : Progress services uris b b
  | step {b₁ b₂ : Built} {t : DocumentState} {uri : Uri} : Progress services uris b b₁ →
      b₁.Due uris t uri → b₁.advance services t uri = .ok b₂ → Progress services uris b b₂

namespace Progress

theorem trans (h : Progress services uris b b₁) (h' : Progress services uris b₁ b₂) :
    Progress services uris b b₂ := by
  induction h' with
  | start => exact h
  | step _ hdue hadv ih => exact ih.step hdue hadv

theorem keyed (hk : b.Keyed) (h : Progress services uris b b') : b'.Keyed := by
  induction h with
  | start => exact hk
  | step _ _ hadv ih => exact ih.advance hadv

theorem keys (hk : b.Keyed) (h : Progress services uris b b') :
    b'.documents.keys = b.documents.keys := by
  induction h with
  | start => rfl
  | step hp _ hadv ih => rw [keys_advance (hp.keyed hk) hadv, ih]

end Progress

/-! ## Inside of a stage -/

theorem advanceAll_cons {l : List Uri} :
    b.advanceAll services t (uri :: l) = .ok b' ↔
      ∃ b₁, b.advance services t uri = .ok b₁ ∧ b₁.advanceAll services t l = .ok b' := by
  rw [advanceAll, List.foldlM_cons]
  cases b.advance services t uri with
  | error e => exact ⟨nofun, nofun⟩
  | ok b₁ => exact ⟨fun h => ⟨b₁, rfl, h⟩, fun ⟨_, h₁, h⟩ => by cases h₁; exact h⟩

theorem advanceAll_append {l l' : List Uri} :
    b.advanceAll services t (l ++ l') = .ok b' ↔
      ∃ b₁, b.advanceAll services t l = .ok b₁ ∧ b₁.advanceAll services t l' = .ok b' := by
  rw [advanceAll, List.foldlM_append]
  cases h : List.foldlM (advance services t) b l with
  | error e => simp [advanceAll, h, bind, Except.bind]
  | ok b₁ => simp [advanceAll, h, bind, Except.bind]

theorem Keyed.advanceAll (hk : b.Keyed) {l : List Uri} (h : b.advanceAll services t l = .ok b') :
    b'.Keyed := by
  induction l generalizing b with
  | nil =>
    cases h
    exact hk
  | cons u rest ih =>
    obtain ⟨b₁, hu, hrest⟩ := advanceAll_cons.mp h
    exact ih (hk.advance hu) hrest

theorem get?_advanceAll_of_not_mem (hk : b.Keyed) {l : List Uri}
    (h : b.advanceAll services t l = .ok b') (hnot : uri ∉ l) :
    b'.documents.get? uri = b.documents.get? uri := by
  induction l generalizing b with
  | nil =>
    cases h
    rfl
  | cons u rest ih =>
    obtain ⟨b₁, hu, hrest⟩ := advanceAll_cons.mp h
    rw [List.mem_cons, not_or] at hnot
    rw [ih (hk.advance hu) hrest hnot.2, get?_advance_of_ne hk hu hnot.1]

theorem get?_advanceAll_of_mem (hk : b.Keyed) (ht : t ≠ .changed) {l : List Uri}
    (h : b.advanceAll services t l = .ok b') (hmem : uri ∈ l) {d' : Document}
    (hd' : b'.documents.get? uri = some d') :
    d'.state = t ∧ ∃ d, b.documents.get? uri = some d ∧ d'.build = d.build := by
  induction l generalizing b with
  | nil => exact absurd hmem List.not_mem_nil
  | cons u rest ih =>
    obtain ⟨b₁, hu, hrest⟩ := advanceAll_cons.mp h
    have hfirst : ∀ d₁, b₁.documents.get? uri = some d₁ →
        ∃ d, b.documents.get? uri = some d ∧ d₁.build = d.build := by
      intro d₁ hd₁
      by_cases hv : uri = u
      · subst hv
        obtain ⟨d, hd, hphase⟩ := get?_advance hk hu hd₁
        exact ⟨d, hd, (Document.phase_ok hphase).2.2.1⟩
      · rw [get?_advance_of_ne hk hu hv] at hd₁
        exact ⟨d₁, hd₁, rfl⟩
    by_cases hin : uri ∈ rest
    · obtain ⟨hstate, d₁, hd₁, hbuild⟩ := ih (hk.advance hu) hrest hin
      obtain ⟨d, hd, hbuild'⟩ := hfirst d₁ hd₁
      exact ⟨hstate, d, hd, hbuild.trans hbuild'⟩
    · obtain rfl : uri = u := (List.mem_cons.mp hmem).resolve_right hin
      rw [get?_advanceAll_of_not_mem (hk.advance hu) hrest hin] at hd'
      exact ⟨state_advance hk ht hu hd', hfirst d' hd'⟩

/-- No document awaits a stage that did not before. -/
theorem awaits_advanceAll (hk : b.Keyed) (ht : t ≠ .changed) {l : List Uri}
    (h : b.advanceAll services t l = .ok b') {t' : DocumentState} (ht' : t' ≤ t) {d' : Document}
    (hd' : b'.documents.get? uri = some d') (hawaits : d'.awaits t' = true) :
    uri ∉ l ∧ b.documents.get? uri = some d' := by
  by_cases hin : uri ∈ l
  · obtain ⟨hstate, -⟩ := get?_advanceAll_of_mem hk ht h hin hd'
    rw [Document.awaits_of_le (by rwa [hstate])] at hawaits
    cases hawaits
  · rw [get?_advanceAll_of_not_mem hk h hin] at hd'
    exact ⟨hin, hd'⟩

/-- **The next document of a stage is due.** -/
theorem due_of_todo (hk : b.Keyed) (ht : t ∈ stages)
    (hearlier : ∀ t' ∈ stages, t' < t → b.todo t' uris = []) {pre post : List Uri}
    (htodo : b.todo t uris = pre ++ uri :: post) (h : b.advanceAll services t pre = .ok b₁) :
    b₁.Due uris t uri := by
  have hne := ne_changed_of_mem_stages ht
  have hmem : uri ∈ b.todo t uris := by
    rw [htodo]
    exact List.mem_append_right _ List.mem_cons_self
  obtain ⟨-, d₀, hd₀, hawaits₀⟩ := mem_todo.mp hmem
  obtain ⟨hlt₀, hasked₀⟩ := Document.awaits_iff.mp hawaits₀
  constructor
  case stage => exact ht
  case earlier =>
    intro t' ht' hlt
    rw [todo_eq_nil_iff]
    intro v hv d' hd'
    by_contra hawaits
    obtain ⟨-, hd⟩ := awaits_advanceAll hk hne h (Nat.le_of_lt hlt) hd' (by simpa using hawaits)
    exact hawaits (todo_eq_nil_iff.mp (hearlier t' ht' hlt) v hv d' hd)
  case place =>
    rw [todo, List.filter_eq_append_iff] at htodo
    obtain ⟨l₁, l₂, hl, hpre, hpost⟩ := htodo
    rw [List.filter_eq_cons_iff] at hpost
    obtain ⟨l₃, l₄, rfl, hskip, -, -⟩ := hpost
    refine ⟨l₁ ++ l₃, l₄, by rw [hl, List.append_assoc], ?_, ?_⟩
    · rw [todo_eq_nil_iff]
      intro v hv d' hd'
      by_contra hne'
      have hawaits : d'.awaits t = true := by simpa using hne'
      obtain ⟨hnot, hd⟩ := awaits_advanceAll hk hne h (Nat.le_refl _) hd' hawaits
      -- who waits still has waited before
      have hany : (b.documents.get? v).any (·.awaits t) = true := by
        rw [hd, Option.any_some, hawaits]
      rcases List.mem_append.mp hv with hv | hv
      · apply hnot
        rw [← hpre, List.mem_filter]
        exact ⟨hv, hany⟩
      · exact hskip v hv hany
    · by_cases hin : uri ∈ pre
      · rw [← hpre] at hin
        exact Or.inl (List.mem_append_left _ (List.mem_filter.mp hin).1)
      · refine Or.inr ?_
        rw [todo, List.filter_singleton, get?_advanceAll_of_not_mem hk h hin, hd₀,
          Option.any_some, hawaits₀]
        rfl
  case state =>
    intro d' hd'
    by_cases hin : uri ∈ pre
    · rw [(get?_advanceAll_of_mem hk hne h hin hd').1]
      exact Nat.le_refl _
    · rw [get?_advanceAll_of_not_mem hk h hin, hd₀, Option.some.injEq] at hd'
      subst hd'
      exact Nat.le_of_lt hlt₀
  case asked =>
    intro d' hd' hv
    by_cases hin : uri ∈ pre
    · obtain ⟨-, d, hd, hbuild⟩ := get?_advanceAll_of_mem hk hne h hin hd'
      rw [hd₀, Option.some.injEq] at hd
      rw [hbuild, ← hd]
      exact hasked₀ hv
    · rw [get?_advanceAll_of_not_mem hk h hin, hd₀, Option.some.injEq] at hd'
      rw [← hd']
      exact hasked₀ hv

/-- **What a stage has done, document by document.** -/
theorem progress_of_todo (hk : b.Keyed) (ht : t ∈ stages)
    (hearlier : ∀ t' ∈ stages, t' < t → b.todo t' uris = []) {pre post : List Uri}
    (htodo : b.todo t uris = pre ++ post) (h : b.advanceAll services t pre = .ok b₁) :
    Progress services uris b b₁ := by
  induction pre using List.reverseRecOn generalizing post b₁ with
  | nil =>
    cases h
    exact .start
  | append_singleton l u ih =>
    rw [List.append_assoc] at htodo
    obtain ⟨b₂, hl, hlast⟩ := advanceAll_append.mp h
    obtain ⟨b₃, hu, hnil⟩ := advanceAll_cons.mp hlast
    cases hnil
    exact (ih htodo hl).step (due_of_todo hk ht hearlier htodo hl) hu

/-! ## All stages -/

theorem todo_advanceAll (hk : b.Keyed) (ht : t ∈ stages)
    (hearlier : ∀ t' ∈ stages, t' < t → b.todo t' uris = [])
    (h : b.advanceAll services t (b.todo t uris) = .ok b') :
    ∀ t' ∈ stages, t' ≤ t → b'.todo t' uris = [] := by
  intro t' ht' hle
  rw [todo_eq_nil_iff]
  intro v hv d' hd'
  by_contra hne
  have hawaits : d'.awaits t' = true := by simpa using hne
  obtain ⟨hnot, hd⟩ := awaits_advanceAll hk (ne_changed_of_mem_stages ht) h hle hd' hawaits
  rcases Nat.lt_or_eq_of_le hle with hlt | heq
  · exact hne (todo_eq_nil_iff.mp (hearlier t' ht' hlt) v hv d' hd)
  · have hsame : t' = t := by cases t' <;> cases t <;> first | rfl | cases heq
    subst hsame
    exact hnot (mem_todo.mpr ⟨hv, d', hd, hawaits⟩)

/-- In the list of stages, those before a stage are the smaller ones. -/
theorem lt_of_stages_eq {done rest : List DocumentState} (h : stages = done ++ t :: rest) :
    (∀ t' ∈ done, t' < t) ∧ ∀ t' ∈ stages, t' < t → t' ∈ done := by
  have hsorted := stages_sorted
  rw [h, List.pairwise_append, List.pairwise_cons] at hsorted
  obtain ⟨-, ⟨hrest, -⟩, hdone⟩ := hsorted
  refine ⟨fun t' ht' => hdone t' ht' t List.mem_cons_self, fun t' ht' hlt => ?_⟩
  rw [h, List.mem_append, List.mem_cons] at ht'
  rcases ht' with hin | rfl | hin
  · exact hin
  · exact absurd hlt (Nat.lt_irrefl _)
  · exact absurd (Nat.lt_trans hlt (hrest t' hin)) (Nat.lt_irrefl _)

theorem mem_stages_of_eq {done rest : List DocumentState} (h : stages = done ++ t :: rest) :
    t ∈ stages := by
  rw [h]
  exact List.mem_append_right _ List.mem_cons_self

/-- What is to be done before a stage, if the stages in front of it are
through. -/
theorem todo_nil_of_done {done rest : List DocumentState} (h : stages = done ++ t :: rest)
    (hdone : ∀ t' ∈ done, b.todo t' uris = []) :
    ∀ t' ∈ stages, t' < t → b.todo t' uris = [] :=
  fun t' ht' hlt => hdone t' ((lt_of_stages_eq h).2 t' ht' hlt)

/-- Parsing is through before any other stage. -/
theorem parsed_nil_of_done {done rest : List DocumentState} (h : stages = done ++ t :: rest)
    (hdone : ∀ t' ∈ done, b.todo t' uris = []) (hne : t ≠ .parsed) : b.todo .parsed uris = [] := by
  refine todo_nil_of_done h hdone .parsed List.mem_cons_self ?_
  have ht := ne_changed_of_mem_stages (mem_stages_of_eq h)
  revert ht hne
  cases t <;> decide

/-- The next stage is through when its documents are. -/
theorem done_advanceAll (hk : b.Keyed) {done rest : List DocumentState}
    (hsplit : stages = done ++ t :: rest) (hdone : ∀ t' ∈ done, b.todo t' uris = [])
    (h : b.advanceAll services t (b.todo t uris) = .ok b') :
    ∀ t' ∈ done ++ [t], b'.todo t' uris = [] := by
  intro t' ht'
  refine todo_advanceAll hk (mem_stages_of_eq hsplit) (todo_nil_of_done hsplit hdone) h t' ?_ ?_
  · rw [hsplit]
    rw [List.mem_append, List.mem_singleton] at ht'
    rw [List.mem_append, List.mem_cons]
    exact ht'.imp_right Or.inl
  · rw [List.mem_append, List.mem_singleton] at ht'
    rcases ht' with hin | rfl
    · exact Nat.le_of_lt ((lt_of_stages_eq hsplit).1 t' hin)
    · exact Nat.le_refl _

theorem through_cons {rest : List DocumentState} :
    through services uris (t :: rest) b = .ok b' ↔
      ∃ b₁, b.advanceAll services t (b.todo t uris) = .ok b₁ ∧
        through services uris rest b₁ = .ok b' := by
  rw [through]
  cases b.advanceAll services t (b.todo t uris) with
  | error e => exact ⟨nofun, nofun⟩
  | ok b₁ => exact ⟨fun h => ⟨b₁, rfl, h⟩, fun ⟨_, h₁, h⟩ => by cases h₁; exact h⟩

/-- **Stages that are through have made progress and leave nothing to do.** -/
theorem through_ok (hk : b.Keyed) {done rest : List DocumentState} (hsplit : stages = done ++ rest)
    (hdone : ∀ t' ∈ done, b.todo t' uris = []) (h : through services uris rest b = .ok b') :
    Progress services uris b b' ∧ ∀ t' ∈ stages, b'.todo t' uris = [] := by
  induction rest generalizing done b with
  | nil =>
    cases h
    rw [hsplit, List.append_nil]
    exact ⟨.start, hdone⟩
  | cons t rest ih =>
    obtain ⟨b₁, hstage, hrest⟩ := through_cons.mp h
    have hprogress : Progress services uris b b₁ :=
      progress_of_todo hk (mem_stages_of_eq hsplit) (todo_nil_of_done hsplit hdone)
        (List.append_nil _).symm hstage
    obtain ⟨hprogress', hnil⟩ := ih (hk.advanceAll hstage) (by rw [hsplit, List.append_assoc]; rfl)
      (done_advanceAll hk hsplit hdone hstage) hrest
    exact ⟨hprogress.trans hprogress', hnil⟩

/-- Stages without anything to do do nothing. -/
theorem through_append {done rest : List DocumentState} (hdone : ∀ t' ∈ done, b.todo t' uris = []) :
    through services uris (done ++ rest) b = through services uris rest b := by
  induction done with
  | nil => rfl
  | cons t done ih =>
    rw [List.cons_append, through, hdone t List.mem_cons_self, ← ih fun t' ht' =>
      hdone t' (List.mem_cons_of_mem _ ht')]
    rfl

/-- **What is due comes first**: a build takes the document that is due
through its stage and goes on from there. -/
theorem through_due (hk : b.Keyed) (hn : uris.Nodup) (hdue : b.Due uris t uri) :
    through services uris stages b =
      b.advance services t uri >>= through services uris stages := by
  obtain ⟨done, rest, hsplit⟩ := List.append_of_mem hdue.stage
  have hdone : ∀ t' ∈ done, b.todo t' uris = [] := fun t' ht' =>
    hdue.earlier t' (by rw [hsplit]; exact List.mem_append_left _ ht')
      ((lt_of_stages_eq hsplit).1 t' ht')
  obtain ⟨pre, post, rfl, hpre, hplace⟩ := hdue.place
  rw [List.nodup_append, List.nodup_cons] at hn
  obtain ⟨-, ⟨hpost, -⟩, hfront⟩ := hn
  have hnot : uri ∉ pre := fun hin => hfront uri hin uri List.mem_cons_self rfl
  have hthis : b.todo t [uri] = [uri] := hplace.resolve_left hnot
  have htodo : b.todo t (pre ++ uri :: post) = uri :: b.todo t post := by
    rw [todo_append, hpre, ← List.singleton_append, todo_append, hthis]
    rfl
  have hstages : through services (pre ++ uri :: post) stages b =
      (b.advance services t uri >>= fun b' => b'.advanceAll services t (b.todo t post)) >>=
        through services (pre ++ uri :: post) rest := by
    rw [hsplit, through_append hdone, through, htodo, advanceAll, List.foldlM_cons]
  rw [hstages]
  cases hadv : b.advance services t uri with
  | error e => rfl
  | ok b' =>
    have hne := ne_changed_of_mem_stages hdue.stage
    have hdone' : ∀ t' ∈ done, b'.todo t' (pre ++ uri :: post) = [] := fun t' ht' =>
      todo_nil_advance hk hne hadv (Nat.le_of_lt ((lt_of_stages_eq hsplit).1 t' ht'))
        (hdone t' ht')
    have hrest : b'.todo t (pre ++ uri :: post) = b.todo t post := by
      have hself : b'.todo t [uri] = [] := by
        rw [todo_eq_nil_iff]
        intro v hv d' hd'
        obtain rfl := List.mem_singleton.mp hv
        exact Document.awaits_of_le (Nat.le_of_eq (by rw [state_advance hk hne hadv hd']))
      -- taking one document on changes what others wait for in nothing
      have hbehind : b'.todo t post = b.todo t post := todo_congr fun v hv =>
        get?_advance_of_ne hk hadv fun heq => hpost (heq ▸ hv)
      rw [todo_append, todo_nil_advance hk hne hadv (Nat.le_refl _) hpre, ← List.singleton_append,
        todo_append, hself, hbehind]
      rfl
    have hthrough : through services (pre ++ uri :: post) stages b' =
        b'.advanceAll services t (b.todo t post) >>=
          through services (pre ++ uri :: post) rest := by
      rw [hsplit, through_append hdone', through, hrest]
    exact hthrough.symm

/-- **A build that was stopped and goes on comes to the same end.** -/
theorem Progress.through_eq (hk : b.Keyed) (hn : uris.Nodup) (h : Progress services uris b b') :
    through services uris stages b = through services uris stages b' := by
  induction h with
  | start => rfl
  | step hp hdue hadv ih =>
    rw [ih, through_due (hp.keyed hk) hn hdue, hadv]
    rfl

end Built
end Workbench
