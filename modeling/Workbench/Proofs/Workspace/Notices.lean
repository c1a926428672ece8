import Workbench.Proofs.Workspace.Attained
import Workbench.Proofs.Workspace.Consistent
/-!
# What the listeners of a phase are told

A document comes to a phase in some call. The listeners of the phase are told
of it in that call, one after the other, once all documents of the phase have
come to it. If the call is stopped inside of the phase, those that were not
told yet are never told: later calls pass on the documents that a phase is
still for, and the document is none of them until it is moved back.
-/

namespace Workbench

/-- A document stands at a phase or beyond it. -/
def Workspace.Stands (w : Workspace) (t : DocumentState) (uri : Uri) : Prop :=
  ∃ d, w.document? uri = some d ∧ t ≤ d.state

/-- Whether a document stands at a phase is decided by looking it up. -/
instance (w : Workspace) (t : DocumentState) (uri : Uri) : Decidable (w.Stands t uri) :=
  decidable_of_iff ((w.document? uri).any fun d => decide (t ≤ d.state)) <| by
    rw [Option.any_eq_true, Workspace.Stands]
    exact exists_congr fun d => and_congr_right fun _ => decide_eq_true_iff

/-- **Runs in which a document is not moved back behind a phase**: when the
build of a call begins, it still stands there. -/
inductive Workspace.Stays (services : Services) (t : DocumentState) (uri : Uri) (w : Workspace) :
    Workspace → Prop
  | start : Stays services t uri w w
  | edit {w' : Workspace} (files : FileSystem) : Stays services t uri w w' →
      Stays services t uri w { w' with files := files }
  | listen {w' : Workspace} (listeners : Listeners) : Stays services t uri w w' →
      Stays services t uri w { w' with listeners := listeners }
  | call {w' w'' : Workspace} {call : Call} {interrupt : Interrupt} {r : Except Stop Unit} :
      Stays services t uri w w' → (call.begun services w').Stands t uri →
      call.run services w' interrupt = (r, w'') → Stays services t uri w w''

namespace Built

variable {b : Built} {uris : List Uri} {options : ValidationMode} {uri : Uri} {t : DocumentState}

/-- A document that stands at a phase is not among those it is for. -/
theorem not_mem_todo_of_le {d : Document} (hd : b.documents.get? uri = some d) (hle : t ≤ d.state) :
    uri ∉ (b.mark options uris).todo t uris := by
  intro hmem
  obtain ⟨-, d', hd', hawaits⟩ := mem_todo.mp hmem
  obtain ⟨d₀, hd₀, heq, -⟩ := get?_mark_cases hd'
  obtain rfl : d₀ = d := Option.some.inj (hd₀.symm.trans hd)
  rw [Document.awaits_of_le (show t ≤ d'.state by rw [heq]; exact hle)] at hawaits
  cases hawaits

/-- A document that a later phase is for, and that does not stand at an earlier
one, is among those the earlier one is for. -/
theorem mem_todo_of_later {t' : DocumentState} (hmem : uri ∈ (b.mark options uris).todo t' uris)
    (hle : t ≤ t') (hstage : t' ∈ stages) {d : Document} (hd : b.documents.get? uri = some d)
    (hlt : d.state < t) : uri ∈ (b.mark options uris).todo t uris := by
  obtain ⟨huri, d', hd', hawaits⟩ := mem_todo.mp hmem
  obtain ⟨d₀, hd₀, heq, -⟩ := get?_mark_cases hd'
  obtain rfl : d₀ = d := Option.some.inj (hd₀.symm.trans hd)
  refine mem_todo.mpr ⟨huri, d', hd', Document.awaits_iff.mpr ⟨by rw [heq]; exact hlt, ?_⟩⟩
  rintro rfl
  -- nothing comes after being validated
  have hlast : t' = .validated := by
    have hrank : 5 ≤ t'.rank := hle
    revert hrank
    cases t' <;> simp [DocumentState.rank]
  exact (Document.awaits_iff.mp hawaits).2 hlast

end Built

namespace Call

variable {services : Services} {w w' : Workspace} {call : Call} {interrupt : Interrupt}
  {r : Except Stop Unit} {t : DocumentState} {uri : Uri}

theorem heard_begun (services : Services) (call : Call) (w : Workspace) (t : DocumentState) :
    (call.begun services w).heard t = w.heard t := by
  cases call with
  | load folders =>
    rw [begun, Workspace.opened, Workspace.heard, Workspace.events_loads]
    rfl
  | update changed deleted =>
    rw [begun]
    split
    · exact w.heard_prepared changed deleted t
    · rw [Workspace.heard, Workspace.events_taken]
      rfl

theorem listeners_begun (services : Services) (call : Call) (w : Workspace) :
    (call.begun services w).listeners = w.listeners := by
  cases call with
  | load folders =>
    exact (Workspace.kept_attemptAll (f := Workspace.load)
      (fun _ _ _ => Workspace.kept_load) _ w).listeners
  | update changed deleted =>
    rw [begun]
    split
    · exact (w.kept_prepared changed deleted).listeners
    · exact (w.kept_taken changed deleted).listeners

/-- **A call in which a document comes to a phase** tells of it to the first
of the listeners of the phase: to all of them, unless the call is stopped
before the document goes further. -/
theorem told_of_came (h : w.Proper services) (ht : t ∈ Built.stages)
    (hrun : call.run services w interrupt = (r, w'))
    (hbefore : ¬ (call.begun services w).Stands t uri) {d' : Document}
    (hd' : w'.document? uri = some d') (hcame : t ≤ d'.state) :
    ∃ told documents, (uri, t) ∈ documents ∧
      w'.heard t = w.heard t ++ ((w.listeners.of t).take told).map (fun _ => documents) ∧
      (r = .ok () → (w.listeners.of t).length ≤ told) ∧
      (t < d'.state → (w.listeners.of t).length ≤ told) := by
  rcases run_result h hrun with ⟨-, rfl⟩ | ⟨uris, options, hresult⟩
  · exact absurd ⟨d', hd', hcame⟩ hbefore
  · obtain ⟨d, hd, -, hmoved⟩ := hresult.document uri d' hd'
    have hlt : d.state < t := Nat.lt_of_not_le fun hle => hbefore ⟨d, hd, hle⟩
    have hgone : d'.state ≠ d.state := by
      intro hsame
      rw [hsame] at hcame
      exact absurd hlt (Nat.not_lt.mpr hcame)
    have hlater := hmoved.resolve_left hgone
    -- it has passed the state it had, so it came there in a stage
    have hstage : d'.state ∈ Built.stages := by
      have hrank : d.state.rank < d'.state.rank := Nat.lt_of_lt_of_le hlt hcame
      revert hrank
      cases d'.state <;> simp [DocumentState.rank, Built.stages]
    have hmem := Built.mem_todo_of_later hlater hcame hstage hd hlt
    obtain ⟨lists, hprefix, hheard, hall⟩ := hresult.told t ht
    obtain ⟨documents, hdocuments⟩ : ∃ documents, documents =
        (((call.begun services w).built.mark options uris).todo t uris).map fun uri => (uri, t) :=
      ⟨_, rfl⟩
    have hin : (uri, t) ∈ documents := by
      rw [hdocuments]
      exact List.mem_map.mpr ⟨uri, hmem, rfl⟩
    -- all listeners of the phase are told the same
    have hnews : ((call.begun services w).built.mark options uris).news
        (call.begun services w).listeners uris t = (w.listeners.of t).map fun _ => documents := by
      have hempty :
          (((call.begun services w).built.mark options uris).todo t uris).isEmpty = false := by
        rw [List.isEmpty_eq_false_iff]
        exact List.ne_nil_of_mem hmem
      rw [Built.news, hempty, if_neg Bool.false_ne_true, listeners_begun, hdocuments]
    rw [hnews] at hprefix hall
    rw [heard_begun] at hheard
    have hlength : lists = (w.listeners.of t).map (fun _ => documents) →
        (w.listeners.of t).length ≤ lists.length := by
      intro hlists
      rw [hlists]
      exact Nat.le_of_eq (List.length_map _).symm
    refine ⟨lists.length, documents, hin, ?_, fun hr => ?_, fun hbeyond => ?_⟩
    · rw [hheard, List.map_take, ← List.prefix_iff_eq_take.mp hprefix]
    · exact hlength (hall.resolve_right fun hno => hno.1 hr)
    · refine hlength (hall.resolve_right fun hno => ?_)
      obtain ⟨d₀, hd₀, hsame⟩ := hno.2 uri d' hd' hbeyond
      obtain rfl : d₀ = d := Option.some.inj (hd₀.symm.trans hd)
      exact hgone hsame

/-- A call tells nobody of a document that stands at the phase. -/
theorem told_of_stands (h : w.Proper services) (ht : t ∈ Built.stages)
    (hrun : call.run services w interrupt = (r, w'))
    (hstands : (call.begun services w).Stands t uri) :
    ∃ lists, w'.heard t = w.heard t ++ lists ∧
      ∀ documents ∈ lists, ∀ state, (uri, state) ∉ documents := by
  rcases run_result h hrun with ⟨-, rfl⟩ | ⟨uris, options, hresult⟩
  · exact ⟨[], by rw [heard_begun, List.append_nil], nofun⟩
  · obtain ⟨d, hd, hle⟩ := hstands
    obtain ⟨lists, hprefix, hheard, -⟩ := hresult.told t ht
    rw [heard_begun] at hheard
    refine ⟨lists, hheard, fun documents hmem state hin => ?_⟩
    have hnews := hprefix.subset hmem
    rw [Built.news] at hnews
    split at hnews
    next => cases hnews
    next =>
      obtain ⟨-, -, rfl⟩ := List.mem_map.mp hnews
      obtain ⟨v, hv, heq⟩ := List.mem_map.mp hin
      cases heq
      exact Built.not_mem_todo_of_le (b := (call.begun services w).built) hd hle hv

end Call

namespace Workspace

section

variable {services : Services} {w w' w'' : Workspace} {t : DocumentState} {uri : Uri}

theorem Stays.proper (h : w.Proper services) (hstays : w.Stays services t uri w') :
    w'.Proper services := by
  induction hstays with
  | start => exact h
  | edit files _ ih => exact ⟨ih.nodup, ih.keyed, ih.parsed⟩
  | listen listeners _ ih => exact ⟨ih.nodup, ih.keyed, ih.parsed⟩
  | call _ _ hrun ih => exact Call.proper_run ih hrun

/-- As long as a document stands at a phase, nobody is told of it again. -/
theorem Stays.heard (h : w.Proper services) (ht : t ∈ Built.stages)
    (hstays : w.Stays services t uri w') :
    ∃ lists, w'.heard t = w.heard t ++ lists ∧
      ∀ documents ∈ lists, ∀ state, (uri, state) ∉ documents := by
  induction hstays with
  | start => exact ⟨[], (List.append_nil _).symm, nofun⟩
  | edit files _ ih => exact ih
  | listen listeners _ ih => exact ih
  | call hstays hstands hrun ih =>
    obtain ⟨lists, hheard, hnot⟩ := ih
    obtain ⟨more, hmore, hnot'⟩ := Call.told_of_stands (hstays.proper h) ht hrun hstands
    refine ⟨lists ++ more, by rw [hmore, hheard, List.append_assoc], fun documents hmem => ?_⟩
    rcases List.mem_append.mp hmem with hin | hin
    · exact hnot documents hin
    · exact hnot' documents hin

/-- **Who is told that a document came to a phase.** From the call in which it
comes there until it is moved back, it is passed to the first `told` of the
listeners that the phase has in that call, each of them once, and to no other
listener. These are all of them, unless the call was stopped and left the
document in the phase. -/
theorem Attained.told_once (h : Attained services w) (ht : t ∈ Built.stages) {call : Call}
    {interrupt : Interrupt} {r : Except Stop Unit}
    (hrun : call.run services w interrupt = (r, w'))
    (hbefore : ¬ (call.begun services w).Stands t uri) {d' : Document}
    (hd' : w'.document? uri = some d') (hcame : t ≤ d'.state)
    (hstays : w'.Stays services t uri w'') :
    ∃ told documents later, (uri, t) ∈ documents ∧
      w''.heard t = w.heard t ++ ((w.listeners.of t).take told).map (fun _ => documents) ++ later ∧
      (∀ documents ∈ later, ∀ state, (uri, state) ∉ documents) ∧
      ((w.listeners.of t).length ≤ told ∨ r ≠ .ok () ∧ d'.state = t) := by
  obtain ⟨told, documents, hmem, hheard, hok, hbeyond⟩ :=
    Call.told_of_came h.proper ht hrun hbefore hd' hcame
  obtain ⟨later, hlater, hnot⟩ := hstays.heard (Call.proper_run h.proper hrun) ht
  refine ⟨told, documents, later, hmem, by rw [hlater, hheard], hnot, ?_⟩
  by_cases hr : r = .ok ()
  · exact Or.inl (hok hr)
  · by_cases hstate : d'.state = t
    · exact Or.inr ⟨hr, hstate⟩
    · refine Or.inl (hbeyond ?_)
      have hle : t.rank ≤ d'.state.rank := hcame
      have hne : t.rank ≠ d'.state.rank := by
        intro hrank
        refine hstate ?_
        revert hrank
        cases d'.state <;> cases t <;> simp [DocumentState.rank]
      exact show t.rank < d'.state.rank by omega

end

namespace Items

/-- The files, with two listeners for parsed documents, the first of which
cancels the build. -/
def watched : Workspace :=
  { ofFiles files with listeners := ⟨2, [], [(0, .parsed, .cancel), (1, .parsed, .note)]⟩ }

/-- An update for the first file. -/
def halted : Except Stop Unit × Workspace :=
  (Call.update [first] []).run services watched .never

/-- An update without changes that comes through. -/
def settled : Except Stop Unit × Workspace :=
  (Call.update [] []).run services halted.2 .never

end Items

/-- A listener that comes behind one that cancels the build is not told that a
document was parsed, neither then nor when a later update comes through. -/
theorem told_once_cancelled :
    Items.halted.1 = .error (.failed .cancelled) ∧ Items.settled.1 = .ok () ∧
      (Items.watched.listeners.of .parsed).length = 2 ∧
      Items.settled.2.heard .parsed = [[(Items.first, .parsed)]] ∧
      ∃ told documents later, told < 2 ∧ (Items.first, .parsed) ∈ documents ∧
        Items.settled.2.heard .parsed = Items.watched.heard .parsed ++
          ((Items.watched.listeners.of .parsed).take told).map (fun _ => documents) ++ later ∧
        ∀ documents ∈ later, ∀ state, (Items.first, state) ∉ documents := by
  have hhalted : Items.halted.1 = .error (.failed .cancelled) := by decide +kernel
  have hsettled : Items.settled.1 = .ok () := by decide +kernel
  have hcame : (Items.halted.2.document? Items.first).any (·.state == .parsed) = true := by
    decide +kernel
  have hheard : Items.settled.2.heard .parsed = [[(Items.first, .parsed)]] := by decide +kernel
  have htwo : (Items.watched.listeners.of .parsed).length = 2 := rfl
  obtain ⟨d', hd', hstate⟩ := (Option.any_eq_true _ _).mp hcame
  have hstate' : d'.state = .parsed := by simpa using hstate
  have hattained : Attained Items.services Items.watched := .listen _ (.start Items.files)
  have hstays : Items.halted.2.Stays Items.services .parsed Items.first Items.settled.2 :=
    .call .start (by decide +kernel) (Prod.eta _).symm
  obtain ⟨told, documents, later, hmem, hwhole, hnot, -⟩ :=
    Attained.told_once hattained (by decide) (Prod.eta Items.halted).symm (by decide +kernel)
      hd' (hstate' ▸ Nat.le_refl _) hstays
  have hlength := congrArg List.length (hheard.symm.trans hwhole)
  simp only [List.length_append, List.length_map, List.length_take, htwo, List.length_singleton]
    at hlength
  exact ⟨hhalted, hsettled, htwo, hheard, told, documents, later, by omega, hmem, hwhole, hnot⟩

end Workspace
end Workbench
