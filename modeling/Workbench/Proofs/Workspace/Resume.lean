import Workbench.Proofs.Workspace.Current
import Workbench.Proofs.Workspace.Inheritance
/-!
# Cancelled updates are resumed

An update that is cancelled has taken in its batch and done the first part of
its work. The next update without changes finds the same documents to build,
because they are marked, and what is due next is due in it too. So it does
the rest of the work, and comes to where the update would have come to.

That the part of a phase that was cancelled leaves no trace needs checks
that change no resolution of a linked document: they run again when the
update is resumed. Checks that ask for references change none, as long as
resolutions are current.
-/

namespace Workbench

/-- **Checks that are pure in a workspace**: they change resolutions only by
asking for references, and find those of linked documents resolved. -/
structure Services.PureOn (services : Services) (w : Workspace) : Prop where
  asking : services.Asking
  settled : ∀ uri d, w.document? uri = some d → .linked ≤ d.state → d.Settled services

/-- Checks that change no resolutions are pure in every workspace. -/
theorem Services.pureOn_of_still {services : Services} (husual : services.Usual)
    (hstill : ∀ entry ∈ services.checks, ∀ cx links, (entry.2 cx links).2 = links)
    (w : Workspace) : services.PureOn w :=
  ⟨⟨husual, fun entry hentry cx links => ⟨[], hstill entry hentry cx links⟩⟩,
    fun _ _ _ _ _ _ entry hentry _ _ _ => hstill entry hentry _ _⟩

/-- **Checks that only ask for references are pure throughout a run.** -/
theorem Workspace.Served.pureOn {services : Services} {owed : List Uri}
    {since : Option (Uri → List Uri)} {w : Workspace} (hasking : services.Asking)
    (h : Served services owed since w) : services.PureOn w :=
  ⟨hasking, fun _ _ hd hstate => (h.built_current hasking).document_settled hasking hd hstate⟩

namespace Built

variable {services : Services} {b b' : Built} {uris : List Uri} {uri : Uri}
  {options : ValidationMode} {f : Document → Document}

/-- What a build has marked it finds marked when it is resumed. -/
theorem isPending_progress (hsound : b.Sound services)
    (h : Progress services uris (b.mark options uris) b') (hv : uri ∈ uris) {d' : Document}
    (hd' : b'.documents.get? uri = some d') : d'.isPending = true := by
  obtain ⟨d, hd, hbuild⟩ := (h.get? (hsound.keyed.mark options) uri).2 d' hd'
  obtain ⟨d₀, -, -, hin, -⟩ := get?_mark_cases hd
  rw [Document.isPending, hbuild, hin hv]
  rfl

/-- **The documents that are left to be built are those that were.** -/
theorem awaiting_progress (hsound : b.Sound services)
    (h : Progress services b.awaiting (b.mark options b.awaiting) b') :
    b'.awaiting = b.awaiting := by
  have hsound' := (hsound.mark options b.awaiting).progress h
  have hkeys : b'.documents.keys = b.documents.keys :=
    (h.keys (hsound.keyed.mark options)).trans keys_modifyAll
  rw [awaiting_eq hsound'.nodup hsound'.keyed, awaiting_eq hsound.nodup hsound.keyed, hkeys]
  refine List.filter_congr fun v hv => ?_
  by_cases hin : v ∈ b.awaiting
  · obtain ⟨d, hd, hwaits⟩ := (mem_awaiting hsound.nodup hsound.keyed).mp hin
    rw [hd, Option.any_some, hwaits]
    rw [← hkeys, OrderedMap.mem_keys_iff] at hv
    obtain ⟨d', hd'⟩ := hv
    rw [hd', Option.any_some, waits, isPending_progress hsound h hin hd', Bool.or_true]
  · rw [(h.get? (hsound.keyed.mark options) v).1 hin, get?_mark, if_neg hin]

theorem modifyAll_eq_self (hnodup : b.documents.keys.Nodup)
    (h : ∀ uri ∈ uris, ∀ d, b.documents.get? uri = some d → f d = d) : b.modifyAll f uris = b := by
  induction uris with
  | nil => rfl
  | cons u rest ih =>
    have hfirst : b.documents.modify u f = b.documents :=
      OrderedMap.modify_of_get? hnodup (h u List.mem_cons_self)
    rw [modifyAll, List.foldl_cons, hfirst, ← modifyAll]
    exact ih fun uri hin => h uri (List.mem_cons_of_mem _ hin)

/-- Marking documents that are marked changes nothing. -/
theorem mark_progress (hsound : b.Sound services)
    (h : Progress services uris (b.mark options uris) b') : b'.mark options uris = b' := by
  refine modifyAll_eq_self ((hsound.mark options uris).progress h).nodup fun uri hin d' hd' => ?_
  obtain ⟨mode, hmode⟩ := Option.isSome_iff_exists.mp (isPending_progress hsound h hin hd')
  rw [hmode, Option.getD_some, ← hmode]

end Built

namespace Build

/-- Updates without changes, each of which was cancelled. -/
inductive CutUpdates (services : Services) : Workspace → Workspace → Prop
  | none {w : Workspace} : CutUpdates services w w
  | more {w w' w'' : Workspace} {interrupt : Interrupt} :
      (update services [] []).run w interrupt = (.error (.failed .cancelled), w') →
      CutUpdates services w' w'' → CutUpdates services w w''

end Build

namespace Workspace

section

variable {services : Services} {w w' : Workspace} {changed deleted : List Uri}

/-- A workspace in which an update was cut off: its batch is taken in, and
some of its work may be done. -/
structure CutOff (services : Services) (start w : Workspace) : Prop where
  quiet : w.listeners.Quiet
  work : w.built = start.built ∨
    Built.Progress services start.built.awaiting
      (start.built.mark services.updateBuild start.built.awaiting) w.built

variable {start : Workspace}

theorem CutOff.marked (hsound : start.built.Sound services) (h : CutOff services start w) :
    w.built.awaiting = start.built.awaiting ∧
      Built.Progress services start.built.awaiting
        (start.built.mark services.updateBuild start.built.awaiting)
        (w.built.mark services.updateBuild start.built.awaiting) := by
  rcases h.work with hw | hw
  · rw [hw]
    exact ⟨rfl, .start⟩
  · refine ⟨Built.awaiting_progress hsound hw, ?_⟩
    rw [Built.mark_progress hsound hw]
    exact hw

/-- **What a build does that was stopped is progress.** -/
theorem progress_of_stopped (hsound : start.built.Sound services)
    (hpure : (start.built.mark services.updateBuild start.built.awaiting).Settled services)
    (hasking : services.Asking) {b b' : Built} {i : Interrupt} {r : Except Stop Unit}
    (hb : Built.Progress services start.built.awaiting
      (start.built.mark services.updateBuild start.built.awaiting) b)
    (h : Built.Stopped services start.built.awaiting i b r b') :
    Built.Progress services start.built.awaiting
      (start.built.mark services.updateBuild start.built.awaiting) b' := by
  have hsound₀ := hsound.mark services.updateBuild start.built.awaiting
  cases h with
  | between _ hp => exact hb.trans hp
  | failed hp _ _ => exact hb.trans hp
  | inside _ hp hdue hhalts =>
    have hp' := hb.trans hp
    rw [Built.halts_eq (hsound₀.progress hp') (hpure.progress hasking hsound₀ hp') hdue
      (Built.nodup_awaiting hsound) hhalts]
    exact hp'

theorem CutOff.sound (hsound : start.built.Sound services) (h : CutOff services start w) :
    w.built.Sound services := by
  rcases h.work with hw | hw
  · rw [hw]
    exact hsound
  · exact (hsound.mark _ _).progress hw

/-- An update without changes that is cancelled leaves an update cut off. -/
theorem CutOff.cut (hasking : services.Asking) (hsound : start.built.Sound services)
    (hpure : (start.built.mark services.updateBuild start.built.awaiting).Settled services)
    (h : CutOff services start w) {i : Interrupt}
    (hcut : (Build.update services [] []).run w i = (.error (.failed .cancelled), w')) :
    CutOff services start w' := by
  obtain ⟨s', hupdate, rfl⟩ := Build.run_cases hcut
  obtain ⟨hawaiting, hmarked⟩ := h.marked hsound
  have hkeyed : (w.prepared [] []).built.Keyed := (h.sound hsound).keyed
  cases Build.update_cases (s := ⟨w, i⟩) hasking.usual h.quiet hkeyed hupdate with
  | early hf _ _ hb =>
    have hsame : s'.workspace.built = w.built := hb
    refine ⟨hf.quiet h.quiet, ?_⟩
    rw [hsame]
    exact h.work
  | built hf _ hbuilds =>
    refine ⟨hf.quiet h.quiet, Or.inr ?_⟩
    rw [prepared_nil, hawaiting] at hbuilds
    cases hbuilds with
    | stopped hstopped => exact progress_of_stopped hsound hpure hasking hmarked hstopped

theorem CutOff.cuts (hasking : services.Asking) (hsound : start.built.Sound services)
    (hpure : (start.built.mark services.updateBuild start.built.awaiting).Settled services)
    (h : CutOff services start w) (hcuts : Build.CutUpdates services w w') :
    CutOff services start w' := by
  induction hcuts with
  | none => exact h
  | more hcut _ ih => exact ih (h.cut hasking hsound hpure hcut)

/-- An update without changes that comes through has done all of the work. -/
theorem CutOff.finish (husual : services.Usual) (hsound : start.built.Sound services)
    (h : CutOff services start w) {i : Interrupt}
    (hlast : (Build.update services [] []).run w i = (.ok (), w')) :
    ∃ b, Built.through services start.built.awaiting Built.stages
        (start.built.mark services.updateBuild start.built.awaiting) = .ok b ∧
      w'.built = b.clear start.built.awaiting := by
  obtain ⟨s', hupdate, rfl⟩ := Build.run_cases hlast
  obtain ⟨hawaiting, hmarked⟩ := h.marked hsound
  have hmark := (hsound.mark services.updateBuild start.built.awaiting).keyed
  have hkeyed : (w.prepared [] []).built.Keyed := (h.sound hsound).keyed
  cases Build.update_cases (s := ⟨w, i⟩) husual h.quiet hkeyed hupdate with
  | built hf _ hbuilds =>
    rw [prepared_nil, hawaiting] at hbuilds
    generalize hend : s'.built = b' at hbuilds
    cases hbuilds with
    | done hthrough =>
      rw [← hmarked.through_eq hmark (Built.nodup_awaiting hsound)] at hthrough
      exact ⟨_, hthrough, hend⟩
    | stopped hstopped => nomatch hstopped

/-- An update that nothing cancels does all of the work, if that can be
done. -/
theorem update_never (husual : services.Usual) (hq : w.listeners.Quiet)
    (hreads : w.Reads changed) (hsound : (w.prepared changed deleted).built.Sound services)
    {b : Built} (hthrough : Built.through services (w.prepared changed deleted).built.awaiting
      Built.stages ((w.prepared changed deleted).built.mark services.updateBuild
        (w.prepared changed deleted).built.awaiting) = .ok b) :
    ∃ w', (Build.update services changed deleted).run w .never = (.ok (), w') ∧
      w'.built = b.clear (w.prepared changed deleted).built.awaiting := by
  have hkeyed :=
    (hsound.mark services.updateBuild (w.prepared changed deleted).built.awaiting).keyed
  cases hrun : (Build.update services changed deleted).run w .never with
  | mk r w' =>
    obtain ⟨s', hupdate, rfl⟩ := Build.run_cases hrun
    cases Build.update_cases husual hq hsound.keyed hupdate with
    | unread _ hnot _ => exact absurd hreads hnot
    | early _ _ hne _ => exact absurd rfl hne
    | built _ _ hbuilds =>
      generalize hend : s'.built = b' at hbuilds
      cases hbuilds with
      | done hthrough' =>
        rw [hthrough, Except.ok.injEq] at hthrough'
        exact ⟨s'.workspace, rfl, by rw [hthrough']; exact hend⟩
      | stopped hstopped =>
        cases hstopped with
        | between hne _ => exact absurd rfl hne
        | inside hne _ _ _ => exact absurd rfl hne
        | failed hp hdue hfail =>
          rw [hp.through_eq hkeyed (Built.nodup_awaiting hsound),
            Built.through_due (hp.keyed hkeyed) (Built.nodup_awaiting hsound) hdue, hfail]
            at hthrough
          cases hthrough

/-! ## The result -/

/-- Documents that count as linked when a build begins are settled. -/
theorem settled_prepared (hsound : w.built.Sound services) (hpure : services.PureOn w)
    (options : ValidationMode) (uris : List Uri) :
    ((w.prepared changed deleted).built.mark options uris).Settled services := by
  intro uri d hd hstate
  obtain ⟨d₀, hd₀, heq, -⟩ := Built.get?_mark_cases hd
  have hstate₀ : .linked ≤ d₀.state := by
    rw [heq] at hstate
    rw [show d₀.state = .linked from hstate]
    exact Nat.le_refl _
  obtain ⟨hsame, -⟩ := prepared_linked hsound hd₀ hstate₀
  rw [heq]
  exact (hpure.settled uri d₀ (hsame.document.symm.trans hd₀) hstate₀).build d.build

/-- **A cancelled update is resumed without a trace.** Wherever an update of
files that can be read is cancelled, and however often updates without
changes are then cancelled as well: the first of these that comes through
leaves the documents and the index that the update leaves if nothing cancels
it. -/
theorem Reached.resumed (h : Reached services w) (hpure : services.PureOn w)
    (hreads : w.Reads changed) {cut : Interrupt} {w₁ : Workspace}
    (hcut : (Build.update services changed deleted).run w cut =
      (.error (.failed .cancelled), w₁)) {w₂ : Workspace}
    (hcuts : Build.CutUpdates services w₁ w₂) {last : Interrupt} {w₃ : Workspace}
    (hlast : (Build.update services [] []).run w₂ last = (.ok (), w₃)) :
    ∃ w', (Build.update services changed deleted).run w .never = (.ok (), w') ∧
      w₃.documents = w'.documents ∧ w₃.index = w'.index := by
  obtain ⟨hsound, hq⟩ := h.sound hpure.asking.usual
  have hprepared := sound_prepared hsound changed deleted
  have hsettled : ((w.prepared changed deleted).built.mark services.updateBuild
      (w.prepared changed deleted).built.awaiting).Settled services :=
    settled_prepared hsound hpure _ _
  have hfirst : CutOff services (w.prepared changed deleted) w₁ := by
    obtain ⟨s', hupdate, rfl⟩ := Build.run_cases hcut
    cases Build.update_cases hpure.asking.usual hq hprepared.keyed hupdate with
    | early hf _ _ hb => exact ⟨hf.quiet hq, Or.inl hb⟩
    | built hf _ hbuilds =>
      refine ⟨hf.quiet hq, Or.inr ?_⟩
      cases hbuilds with
      | stopped hstopped =>
        exact progress_of_stopped hprepared hsettled hpure.asking .start hstopped
  obtain ⟨b, hthrough, hb⟩ := (hfirst.cuts hpure.asking hprepared hsettled hcuts).finish
    hpure.asking.usual hprepared hlast
  obtain ⟨w', hrun, hb'⟩ := update_never hpure.asking.usual hq hreads hprepared hthrough
  have hsame : w₃.built = w'.built := hb.trans hb'.symm
  exact ⟨w', hrun, congrArg Built.documents hsame, congrArg Built.index hsame⟩

end

end Workspace

namespace DomainModel.Hierarchy

open Workspace

/-- The first of two files got a new text. -/
def edited : Workspace := { (Items.filled services).2 with files := Items.renamed }

/-- The update for the new text, cut off when the second file is linked. -/
def cut : Except Stop Unit × Workspace :=
  (Build.update services [Items.first] []).run edited (.after 12)

/-- An update without changes, cut off when the second file is checked. -/
def cutAgain : Except Stop Unit × Workspace := (Build.update services [] []).run cut.2 (.after 9)

/-- An update without changes that comes through. -/
def finished : Except Stop Unit × Workspace := (Build.update services [] []).run cutAgain.2 .never

theorem served_edited : ∃ since, Served services [] since edited := by
  have hreads : (Items.started services).Reads [Items.first, Items.second] := by decide
  exact ⟨_, (Items.served_filled hreads).edit Items.renamed⟩

end DomainModel.Hierarchy

namespace Workspace

open DomainModel in
/-- An entity is renamed that one in another file inherits from; the update for
it is cut off while files are linked, and again, when it is resumed, while they
are checked. -/
theorem resumed_twice :
    Hierarchy.cut.1 = .error (.failed .cancelled) ∧
    Hierarchy.cutAgain.1 = .error (.failed .cancelled) ∧
    Hierarchy.finished.1 = .ok () ∧
    Hierarchy.cut.2.documents.values.map Document.state ≠
      Hierarchy.finished.2.documents.values.map Document.state ∧
    ∃ w', (Build.update Hierarchy.services [Items.first] []).run Hierarchy.edited .never =
        (.ok (), w') ∧
      Hierarchy.finished.2.documents = w'.documents ∧ Hierarchy.finished.2.index = w'.index := by
  have hcut : Hierarchy.cut.1 = .error (.failed .cancelled) := by decide +kernel
  have hagain : Hierarchy.cutAgain.1 = .error (.failed .cancelled) := by decide +kernel
  have hfinished : Hierarchy.finished.1 = .ok () := by decide +kernel
  obtain ⟨since, hserved⟩ := Hierarchy.served_edited
  refine ⟨hcut, hagain, hfinished, by decide +kernel, ?_⟩
  exact hserved.reached.resumed (hserved.pureOn Hierarchy.asking) (by decide)
    (run_of_fst (by rw [Hierarchy.cut]) hcut)
    (.more (run_of_fst (by rw [Hierarchy.cutAgain]) hagain) .none)
    (run_of_fst (by rw [Hierarchy.finished]) hfinished)

end Workspace
end Workbench
