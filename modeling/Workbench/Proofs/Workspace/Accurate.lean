import Workbench.Proofs.Parse.Linked
import Workbench.Proofs.Workspace.Current
/-!
# Resolutions are accurate after every update

When an update comes through, every document is linked. Then each resolution
says what linking everything anew would find: it leads to nodes that fit, in
documents as they are now, and where it says that nothing was found, nothing
can be seen that fits. A load that found a file twice and was cut off while it
linked can leave a reference without either (`not_accurate_twice`).
-/

namespace Workbench

/-- A parser that gives trees whose links agree. -/
def ParserService.Links (p : ParserService) : Prop :=
  ∀ text result left, p.parse text none .never = .ok (result, left) → result.tree.Linked p.grammar

/-- The parser of a grammar that was compiled gives such trees if it runs in
the caller's place. -/
theorem ParserService.links_inProcess {definition : Definition} {g : Grammar}
    (hbuild : definition.build = .ok g) (breaksOn : String → Option String) :
    ParserService.Links ⟨g, .inProcess, breaksOn⟩ := by
  intro text result left h
  rw [parse, Interrupt.check_never] at h
  dsimp only [parseHere] at h
  cases hbreaks : breaksOn text with
  | some message =>
    rw [hbreaks] at h
    cases h
  | none =>
    rw [hbreaks] at h
    cases hparse : g.parse text none .never with
    | error e =>
      rw [hparse] at h
      cases h
    | ok parsed =>
      rw [hparse] at h
      cases h
      exact Grammar.parse_linked hbuild hparse

theorem Services.links_ofGrammar {definition : Definition} {g : Grammar}
    (hbuild : definition.build = .ok g) : (Services.ofGrammar g).parser.Links :=
  ParserService.links_inProcess hbuild _

/-- A reference that is held has its place in the tree. -/
theorem SyntaxTree.Linked.hasNode_of_held {g : Grammar} {t : SyntaxTree} (h : t.Linked g)
    {id : RefId}
    (hid : id ∈ t.held) :
    ∃ reference, t.reference? id = some reference ∧ t.HasNode reference.container := by
  obtain ⟨holder, node, hholder, hnode, hheld⟩ := h.mem_held.mp hid
  have hfits := h.nodeFits hholder hnode
  obtain ⟨name, property, hproperty, hmem⟩ := mem_heldRefs.mp hheld
  obtain ⟨reference, hreference, hfit⟩ := hfits.refs name property hproperty id hmem
  exact ⟨reference, hreference, by rw [hfit.container]; exact hholder⟩

namespace Built

variable {services : Services} {b b' : Built} {uris : List Uri}

theorem Covers.progress (hk : b.Keyed) (h : b.Covers uris) (hp : Progress services uris b b') :
    b'.Covers uris := by
  induction hp with
  | start => exact h
  | step hp hdue hadv ih => exact ih.advance (hp.keyed hk) hdue hadv

/-- A build that comes through leaves every document linked. -/
theorem Covers.linked (hk : b.Keyed) (h : b.Covers uris)
    (hthrough : through services uris stages b = .ok b') :
    ∀ uri d, b'.documents.get? uri = some d → .linked ≤ d.state := by
  obtain ⟨hp, hnil⟩ := through_ok hk (List.nil_append _).symm nofun hthrough
  intro uri d hd
  by_contra hnot
  have hlt : d.state < .linked := Nat.lt_of_not_le hnot
  have hmem := h.progress hk hp uri d hd hlt
  have hawaits := todo_eq_nil_iff.mp (hnil .linked (by decide)) uri hmem d hd
  rw [Document.awaits_iff.mpr ⟨hlt, nofun⟩] at hawaits
  cases hawaits

end Built

namespace Workspace

section

variable {services : Services} {types : TypeGraph} {w w' : Workspace} {changed deleted : List Uri}
  {interrupt : Interrupt} {since : Option (Uri → List Uri)}

/-- **The resolutions of a document say what is there**: those that lead
somewhere lead to nodes that fit, of documents as they are; and a reference in
the tree is not resolved exactly if nothing that it can see fits. -/
structure Accurate (types : TypeGraph) (w : Workspace) (d : Document) (tree : SyntaxTree) : Prop where
  targets : ∀ id resolution, d.resolution? id = some resolution → resolution.isError = false →
    ∃ reference, tree.reference? id = some reference ∧ resolution.targets ≠ [] ∧
      ∀ target ∈ resolution.targets, ∃ e t, w.document? target.uri = some e ∧
        e.version = target.version ∧ e.tree? = some t ∧ t.Fits types reference target.node
  missing : ∀ id ∈ tree.held, ∃ reference, tree.reference? id = some reference ∧
    (d.resolution? id = some (LinkContext.notFound reference) ↔
      ¬ w.built.Visible types tree reference)

/-- An update that comes through has built all that its batch left to do. -/
theorem built_of_update (husual : services.Usual) (h : Reached services w)
    (hrun : (Build.update services changed deleted).run w interrupt = (.ok (), w')) :
    w.Reads changed ∧ ∃ b, Built.through services (w.prepared changed deleted).built.awaiting
        Built.stages ((w.prepared changed deleted).built.mark services.updateBuild
          (w.prepared changed deleted).built.awaiting) = .ok b ∧
      w'.built = b.clear (w.prepared changed deleted).built.awaiting := by
  obtain ⟨hsound, hq⟩ := h.sound husual
  obtain ⟨s', hupdate, rfl⟩ := Build.run_cases hrun
  cases Build.update_cases husual hq (sound_prepared hsound changed deleted).keyed hupdate with
  | built _ hreads hbuilds =>
    refine ⟨hreads, ?_⟩
    generalize hend : s'.built = b' at hbuilds
    cases hbuilds with
    | stopped hstopped => nomatch hstopped
    | @done b hthrough => exact ⟨b, hthrough, hend⟩

/-- An update that comes through leaves every document linked. -/
theorem linked_of_update (husual : services.Usual) (h : Reached services w)
    (hrun : (Build.update services changed deleted).run w interrupt = (.ok (), w')) :
    w.Reads changed ∧ ∀ uri d, w'.document? uri = some d → .linked ≤ d.state := by
  have hprepared := sound_prepared (h.sound husual).1 changed deleted
  obtain ⟨hreads, b, hthrough, hbuilt⟩ := built_of_update husual h hrun
  refine ⟨hreads, fun uri d hd => ?_⟩
  rw [show w'.document? uri = w'.built.documents.get? uri from rfl, hbuilt] at hd
  obtain ⟨d₁, hd₁, heq, -⟩ := Built.get?_clear_cases hd
  rw [heq]
  have hcovers := (Built.covers_awaiting hprepared).remarked
    (Built.remarked_mark _ services.updateBuild (w.prepared changed deleted).built.awaiting)
  exact hcovers.linked (hprepared.keyed.mark services.updateBuild) hthrough uri d₁ hd₁

/-- Current resolutions are accurate once everything is linked. -/
theorem accurate_of_current (hasking : services.Asking) (hlinks : services.parser.Links)
    (hsound : w.built.Sound services) (h : w.built.Current services.linker.types [])
    (hstates : ∀ uri d, w.document? uri = some d → .linked ≤ d.state) {uri : Uri} {d : Document}
    (hd : w.document? uri = some d) :
    ∃ tree, d.tree? = some tree ∧ w.Accurate services.linker.types d tree := by
  have hdsound := hsound.document uri d hd
  have hstate := hstates uri d hd
  obtain ⟨parse, hparse, hd'⟩ := hdsound.parsed (Nat.le_trans (by decide) hstate)
  have htree := Document.tree?_of_parse hd'
  have hlinked := hlinks d.text parse .never hparse
  refine ⟨parse.tree, htree, fun id resolution hresolution hok => ?_, fun id hid => ?_⟩
  · have hlink := hresolution
    rw [Document.resolution?, Option.join_eq_some_iff] at hlink
    -- there is one link for each reference
    have hi : id.index < parse.tree.references.size := by
      rw [← hdsound.sized hasking _ htree]
      exact (Array.getElem?_eq_some_iff.mp hlink).1
    obtain ⟨resolution', hlink', hanswers, -⟩ := h uri d parse.tree hd hstate htree id.index hi
    obtain rfl : resolution = resolution' := Option.some.inj (hresolution.symm.trans hlink')
    refine ⟨parse.tree.references[id.index], Array.getElem?_eq_getElem hi, hanswers.found hok,
      fun target htarget => ?_⟩
    obtain ⟨s, hs, rfl⟩ := (hanswers.current target htarget).resolve_left List.not_mem_nil
    exact hs.target hsound.keyed hd
  · obtain ⟨reference, hreference, hholder⟩ := hlinked.hasNode_of_held hid
    refine ⟨reference, hreference, ?_⟩
    rw [← Built.exists_inScope_iff (b := w.built) htree hlinked hholder
      fun v e he => Nat.le_trans (by decide) (hstates v e he)]
    obtain ⟨hi, heq⟩ := Array.getElem?_eq_some_iff.mp hreference
    obtain ⟨resolution, hlink, hanswers, -⟩ := h uri d parse.tree hd hstate htree id.index hi
    rw [heq] at hanswers
    rw [show d.resolution? id = some resolution from hlink, Option.some.injEq]
    constructor
    · rintro rfl ⟨s, hs⟩
      exact (hanswers.missing rfl rfl).2.1 s hs
    · intro hnothing
      by_contra hne
      cases herror : resolution.isError with
      | true => exact hne (hanswers.missing rfl herror).1
      | false =>
        obtain ⟨target, htarget⟩ := List.exists_mem_of_ne_nil _ (hanswers.found herror)
        obtain ⟨s, hs, -⟩ := (hanswers.current target htarget).resolve_left List.not_mem_nil
        exact hnothing ⟨s, hs⟩

/-- **Resolutions stay accurate across updates.** In a run in which nothing is
owed, as when every update could read its files, an update that comes through
leaves every document parsed, and its resolutions accurate, whatever came
before and wherever it was cancelled. -/
theorem Served.accurate (hasking : services.Asking) (hlinks : services.parser.Links)
    (h : Served services [] since w)
    (hrun : (Build.update services changed deleted).run w interrupt = (.ok (), w')) {uri : Uri}
    {d : Document} (hd : w'.document? uri = some d) :
    ∃ tree, d.tree? = some tree ∧ w'.Accurate services.linker.types d tree := by
  obtain ⟨hreads, hstates⟩ := linked_of_update hasking.usual h.reached hrun
  have hserved := h.update hreads hrun
  exact accurate_of_current hasking hlinks (hserved.reached.sound hasking.usual).1
    (hserved.built_current hasking) hstates hd

end

namespace Items

theorem links : services.parser.Links := by
  rw [services]
  exact Services.links_ofGrammar build_definition

/-- The first file got a new text, and the update for it was cut off. -/
def interrupted : Workspace :=
  ((Build.update services [first] []).run { opened with files := renamed } (.after 5)).2

/-- An update without changes that comes through. -/
def resumed : Except Stop Unit × Workspace := (Build.update services [] []).run interrupted .never

theorem served_interrupted : ∃ since, Served services [] since interrupted := by
  have hreads : Workspace.Reads { opened with files := renamed } [first] := by decide
  exact ⟨_, (served_opened.edit renamed).updated hreads [] (.after 5)⟩

end Items

/-- A reference to an item that got another name is not resolved any more, and
nothing can be seen that it could stand for. -/
theorem accurate_renamed :
    Items.target? Items.opened = some ⟨Items.first, 1, ⟨1⟩⟩ ∧
    ∃ d tree reference, Items.resumed.2.document? Items.second = some d ∧ d.tree? = some tree ∧
      tree.reference? ⟨0⟩ = some reference ∧ reference.refText = "a" ∧
      d.resolution? ⟨0⟩ = some (LinkContext.notFound reference) ∧
      ¬ Items.resumed.2.built.Visible Items.services.linker.types tree reference := by
  have hok : Items.resumed.1 = .ok () := by decide +kernel
  have hheld : ((Items.resumed.2.document? Items.second).bind Document.tree?).any
      (fun tree => decide (⟨0⟩ ∈ tree.held) &&
        (tree.reference? ⟨0⟩).any (·.refText == "a")) = true := by decide +kernel
  have hmissing : ((Items.resumed.2.document? Items.second).bind (·.resolution? ⟨0⟩)) =
      ((Items.resumed.2.document? Items.second).bind Document.tree?).bind
        (fun tree => (tree.reference? ⟨0⟩).map LinkContext.notFound) := by decide +kernel
  have hrun : (Build.update Items.services [] []).run Items.interrupted .never =
      (.ok (), Items.resumed.2) := run_of_fst (by rw [Items.resumed]) hok
  obtain ⟨tree, htree, hand⟩ := (Option.any_eq_true _ _).mp hheld
  obtain ⟨d, hd, htree⟩ := Option.bind_eq_some_iff.mp htree
  rw [Bool.and_eq_true, decide_eq_true_eq, Option.any_eq_true] at hand
  obtain ⟨hmem, reference, hreference, htext⟩ := hand
  rw [hd, Option.bind_some, Option.bind_some, htree, Option.bind_some, hreference] at hmissing
  obtain ⟨since, hserved⟩ := Items.served_interrupted
  obtain ⟨tree', htree', haccurate⟩ := Served.accurate Items.asking Items.links hserved hrun hd
  rw [htree, Option.some.injEq] at htree'
  subst htree'
  obtain ⟨reference', hreference', hiff⟩ := haccurate.missing ⟨0⟩ hmem
  rw [hreference, Option.some.injEq] at hreference'
  subst hreference'
  exact ⟨by decide +kernel, d, tree, reference, hd, htree, hreference, by simpa using htext, hmissing,
    hiff.mp hmissing⟩

namespace Items

/-- One file, with an item that refers to one that is not there. -/
def alone : FileSystem := ⟨.memory, ⟨⟨[(second, "b:a")]⟩⟩⟩

/-- The folder of all files. -/
def root : Uri := ⟨"file", some .blank, "/", ""⟩

/-- The file is loaded twice at once, and the load is cut off when its document
is linked for the second time. -/
def twice : Except Stop (List Uri) × Workspace :=
  (Build.loadFolders services [root, root]).run (.ofFiles alone) (.after 21)

/-- An update without changes that comes through. -/
def kept : Except Stop Unit × Workspace := (Build.update services [] []).run twice.2 .never

end Items

/-- **A file that is loaded twice can lose its resolutions.** What a cut leaves
of a document is taken back where the document was not linked before; here it
was, so it is still linked and no update links it again. Its reference stands
for nothing, and no error says so. -/
theorem not_accurate_twice :
    Items.twice.1 = .error (.failed .cancelled) ∧ Items.kept.1 = .ok () ∧
    ∃ d tree, Items.kept.2.document? Items.second = some d ∧ d.tree? = some tree ∧
      ¬ Items.kept.2.Accurate Items.services.linker.types d tree := by
  have hfacts : (Items.kept.2.document? Items.second).any (fun d =>
      decide (d.resolution? ⟨0⟩ = none) && d.tree?.any fun tree => decide (⟨0⟩ ∈ tree.held) &&
        tree.ast.all fun a => a.str? "name" != (tree.reference? ⟨0⟩).map Reference.refText)
      = true := by decide +kernel
  have hkeys : Items.kept.2.documents.keys = [Items.second] := by decide +kernel
  obtain ⟨d, hd, hand⟩ := (Option.any_eq_true _ _).mp hfacts
  rw [Bool.and_eq_true, decide_eq_true_eq, Option.any_eq_true] at hand
  obtain ⟨hnone, tree, htree, hand⟩ := hand
  rw [Bool.and_eq_true, decide_eq_true_eq] at hand
  obtain ⟨hheld, hnames⟩ := hand
  refine ⟨by decide +kernel, by decide +kernel, d, tree, hd, htree, fun haccurate => ?_⟩
  obtain ⟨reference, hreference, hiff⟩ := haccurate.missing ⟨0⟩ hheld
  rw [hreference, Option.map_some] at hnames
  have hunnamed : ∀ id, tree.name? id ≠ some reference.refText := by
    intro id hname
    obtain ⟨a, ha, hname⟩ := Option.bind_eq_some_iff.mp hname
    have hne := Array.all_eq_true_iff_forall_mem.mp hnames a (Array.mem_of_getElem? ha)
    exact bne_iff_ne.mp hne hname
  have hmissing := hiff.mpr fun hvisible => by
    cases hvisible with
    | nearby _ _ hfits => exact hunnamed _ hfits.name
    | @offered uri e t _ he ht _ hfits =>
      have huri : uri ∈ Items.kept.2.documents.keys := OrderedMap.mem_keys_iff.mpr ⟨e, he⟩
      rw [hkeys, List.mem_singleton] at huri
      subst huri
      obtain rfl : d = e := Option.some.inj (hd.symm.trans he)
      obtain rfl : tree = t := Option.some.inj (htree.symm.trans ht)
      exact hunnamed _ hfits.name
  rw [hnone] at hmissing
  cases hmissing

end Workspace
end Workbench
