import Workbench.Proofs.Workspace.Resolve
import Workbench.Proofs.Workspace.Update
/-!
# What holds in every workspace

A workspace comes from files by edits, loads and updates, each of which can
end well, fail or be cancelled anywhere. In each of them a document has what
its state asks for and nothing more, and the index has what the documents
say: `Built.Sound`. Every operation on a document keeps this, and so do
builds, whose phases are operations on documents that are due.
-/

namespace Workbench

theorem DocumentState.rank_min (a b : DocumentState) : (min a b).rank = min a.rank b.rank := by
  rw [show min a b = if a ≤ b then a else b from rfl]
  split
  next h => exact (Nat.min_eq_left h).symm
  next h => exact (Nat.min_eq_right (Nat.le_of_not_le h)).symm

theorem DocumentState.le_min_iff {a b c : DocumentState} : a ≤ min b c ↔ a ≤ b ∧ a ≤ c := by
  have h : a ≤ min b c ↔ a.rank ≤ (min b c).rank := Iff.rfl
  rw [h, rank_min]
  exact Nat.le_min

/-! ## Documents and the index -/

/-- Usual services, with checks that change resolutions only by asking for
references. -/
structure Services.Asking (services : Services) : Prop where
  usual : services.Usual
  asks : services.checks.Asks

/-- The exports of a document, once they are in the index. -/
def Document.indexed? (d : Document) : Option (List Symbol) :=
  if .indexedContent ≤ d.state then some d.exported else none

/-- **What a document has in its state.** -/
structure Document.Sound (services : Services) (d : Document) : Prop where
  parsed : .parsed ≤ d.state →
    ∃ r, services.parser.parse d.text none .never = .ok (r, .never) ∧ d.parse = some r
  scopes : .computedScopes ≤ d.state → d.localScopes = some d.scoped
  unscoped : d.state < .computedScopes → d.localScopes = none
  unlinked : d.state < .linked → ∀ link ∈ d.links, link = none
  sized : services.Asking → ∀ tree, d.tree? = some tree → d.links.size = tree.references.size

/-- **What the index has of a document**, or of a uri without one. -/
structure Index.Shows (x : Index) (uri : Uri) (d? : Option Document) : Prop where
  exports : x.exports.get? uri = d?.bind Document.indexed?
  references : (∃ records, x.references.get? uri = some records) ↔ ∃ d, d? = some d ∧ .linked ≤ d.state

/-- **What documents and an index have in every workspace.** -/
structure Built.Sound (services : Services) (b : Built) : Prop where
  nodup : b.documents.keys.Nodup
  exports_nodup : b.index.exports.keys.Nodup
  keyed : b.Keyed
  document : ∀ uri d, b.documents.get? uri = some d → d.Sound services
  index : ∀ uri, b.index.Shows uri (b.documents.get? uri)

namespace Document

variable {services : Services} {d d' : Document} {x x' : Index} {t : DocumentState}

theorem indexed?_of_le (h : .indexedContent ≤ d.state) : d.indexed? = some d.exported := if_pos h

theorem indexed?_of_lt (h : d.state < .indexedContent) : d.indexed? = none :=
  if_neg (Nat.not_le_of_lt h)

/-- A document whose text is newer than its tree has nothing else. -/
theorem sound_of_changed (hstate : d.state = .changed) (hscopes : d.localScopes = none)
    (hlinks : ∀ link ∈ d.links, link = none)
    (hsize : services.Asking → ∀ tree, d.tree? = some tree → d.links.size = tree.references.size) :
    d.Sound services := by
  refine ⟨fun h => ?_, fun h => ?_, fun _ => hscopes, fun _ => hlinks, hsize⟩
  · rw [hstate] at h
    exact absurd h (by decide)
  · rw [hstate] at h
    exact absurd h (by decide)

theorem unlink_links (d : Document) : ∀ link ∈ d.unlink.links, link = none := by
  intro link hlink
  obtain ⟨_, -, rfl⟩ := Array.mem_map.mp hlink
  rfl

theorem size_unlink (d : Document) : d.unlink.links.size = d.links.size := Array.size_map

theorem Sound.resetTo (h : d.Sound services) (state : DocumentState) :
    (d.resetTo state).Sound services := by
  have hstate : (d.resetTo state).state.rank = min d.state.rank state.rank :=
    DocumentState.rank_min _ _
  have hscopes : (d.resetTo state).localScopes =
    if state ≤ .indexedContent then none else d.localScopes := rfl
  have hlinks : (d.resetTo state).links =
    if state ≤ .computedScopes then d.unlink.links else d.links := rfl
  constructor
  case parsed =>
    intro hp
    have hp' : 1 ≤ (d.resetTo state).state.rank := hp
    exact h.parsed (show 1 ≤ d.state.rank by omega)
  case scopes =>
    intro hle
    have hle' : 3 ≤ (d.resetTo state).state.rank := hle
    have hnot : ¬ state ≤ .indexedContent := show ¬ state.rank ≤ 2 by omega
    rw [hscopes, if_neg hnot]
    exact h.scopes (show 3 ≤ d.state.rank by omega)
  case unscoped =>
    intro hlt
    have hlt' : (d.resetTo state).state.rank < 3 := hlt
    rw [hscopes]
    split
    next => rfl
    next hnot =>
      have hrank : ¬ state.rank ≤ 2 := hnot
      exact h.unscoped (show d.state.rank < 3 by omega)
  case unlinked =>
    intro hlt
    have hlt' : (d.resetTo state).state.rank < 4 := hlt
    rw [hlinks]
    split
    next => exact d.unlink_links
    next hnot =>
      have hrank : ¬ state.rank ≤ 3 := hnot
      exact h.unlinked (show d.state.rank < 4 by omega)
  case sized =>
    intro hasking tree htree
    rw [hlinks, ← h.sized hasking tree htree]
    split
    · exact d.size_unlink
    · rfl

/-- What linking leaves of a document. -/
theorem linked_eq (l : Linker) (x : Index) (d : Document) :
    l.linked x d = { d with links := (l.linked x d).links } := by
  rw [Linker.linked]
  split <;> rfl

/-- What checks leave of a document. -/
theorem checked_eq (checks : CheckRegistry) (l : Linker) (x : Index) (d : Document) :
    (d.checked checks l x).2 = { d with links := (d.checked checks l x).2.links } := by
  rcases Option.eq_none_or_eq_some d.parse with hparse | ⟨parse, hparse⟩
  · have hnone : d.checked checks l x = ([], d) := by rw [checked, hparse]
    rw [hnone]
  · rw [checked_of_parse hparse]

theorem phase_linked (services : Services) (x : Index) (d : Document) :
    d.phase services x .linked = .ok
      ({ d with links := (services.linker.linked x d).links, state := .linked },
        x.updateReferences (services.linker.linked x d)) := by
  rw [Document.phase, linked_eq]

theorem phase_validated (services : Services) (x : Index) (d : Document) :
    d.phase services x .validated = .ok
      ({ (d.checked services.checks services.linker x).2 with
          diagnostics := (d.checked services.checks services.linker x).2.scopeFailures.map Prod.snd ++
            (d.checked services.checks services.linker x).1,
          state := .validated }, x) := rfl

theorem size_checked {services : Services} (hasking : services.Asking) (x : Index)
    (d : Document) : (d.checked services.checks services.linker x).2.links.size = d.links.size := by
  rcases Option.eq_none_or_eq_some d.parse with hparse | ⟨parse, hparse⟩
  · rw [checked, hparse]
  · rw [checked_of_parse hparse]
    exact CheckRegistry.size_onNodes hasking.asks hasking.usual.provider _

/-- What there is to show of a document that came to a state. -/
theorem Sound.of_state (hstate : d.state = t)
    (hparsed : ∃ r, services.parser.parse d.text none .never = .ok (r, .never) ∧ d.parse = some r)
    (hscopes : .computedScopes ≤ t → d.localScopes = some d.scoped)
    (hunscoped : t < .computedScopes → d.localScopes = none)
    (hunlinked : t < .linked → ∀ link ∈ d.links, link = none)
    (hsize : services.Asking → ∀ tree, d.tree? = some tree → d.links.size = tree.references.size) :
    d.Sound services := by
  subst hstate
  exact ⟨fun _ => hparsed, hscopes, hunscoped, hunlinked, hsize⟩

/-- A phase gives a document what its new state asks for. -/
theorem Sound.phase (h : d.Sound services) (ht : t ≠ .changed) (hlow : t.rank ≤ d.state.rank + 1)
    (hhigh : d.state.rank ≤ t.rank) (hphase : d.phase services x t = .ok (d', x')) :
    d'.Sound services := by
  have hparsed : 1 ≤ d.state.rank → ∃ r,
      services.parser.parse d.text none .never = .ok (r, .never) ∧ d.parse = some r := h.parsed
  have hscoped : 3 ≤ d.state.rank → d.localScopes = some d.scoped := h.scopes
  have hunscoped : d.state.rank < 3 → d.localScopes = none := h.unscoped
  have hunlinked : d.state.rank < 4 → ∀ link ∈ d.links, link = none := h.unlinked
  cases t with
  | changed => exact absurd rfl ht
  | parsed =>
    rw [Document.phase] at hphase
    split at hphase
    next result left hparse =>
      have hnever := (services.parser.parse_never d.text none .never).1 _ _ hparse
      cases hphase
      exact Sound.of_state (t := .parsed) rfl ⟨result, hnever, rfl⟩ (fun hle => absurd hle (by decide))
        (fun _ => rfl) (fun _ link hlink => Array.eq_of_mem_replicate hlink) fun _ tree htree => by
          cases htree
          exact Array.size_replicate
    next => cases hphase
  | indexedContent =>
    have hlow' : 2 ≤ d.state.rank + 1 := hlow
    have hhigh' : d.state.rank ≤ 2 := hhigh
    cases hphase
    exact Sound.of_state (t := .indexedContent) rfl (hparsed (by omega))
      (fun hle => absurd hle (by decide)) (fun _ => hunscoped (by omega))
      (fun _ => hunlinked (by omega)) h.sized
  | computedScopes =>
    have hlow' : 3 ≤ d.state.rank + 1 := hlow
    have hhigh' : d.state.rank ≤ 3 := hhigh
    cases hphase
    exact Sound.of_state (t := .computedScopes) rfl (hparsed (by omega)) (fun _ => rfl)
      (fun hlt => absurd hlt (by decide)) (fun _ => hunlinked (by omega)) h.sized
  | linked =>
    have hlow' : 4 ≤ d.state.rank + 1 := hlow
    rw [Document.phase, linked_eq] at hphase
    cases hphase
    exact Sound.of_state (t := .linked) rfl (hparsed (by omega)) (fun _ => hscoped (by omega))
      (fun hlt => absurd hlt (by decide)) (fun hlt => absurd hlt (by decide))
      fun hasking tree htree =>
        (Linker.size_linked hasking.usual.provider).trans (h.sized hasking tree htree)
  | validated =>
    have hlow' : 5 ≤ d.state.rank + 1 := hlow
    rw [phase_validated, checked_eq] at hphase
    cases hphase
    exact Sound.of_state (t := .validated) rfl (hparsed (by omega)) (fun _ => hscoped (by omega))
      (fun hlt => absurd hlt (by decide)) (fun hlt => absurd hlt (by decide))
      fun hasking tree htree =>
        (size_checked hasking x d).trans (h.sized hasking tree htree)

end Document

namespace Index

variable {x : Index} {uri v : Uri}

theorem get?_updateContent (x : Index) (uri v : Uri) (symbols : List Symbol) :
    (x.updateContent uri symbols).exports.get? v =
      if v = uri then some symbols else x.exports.get? v :=
  OrderedMap.get?_insert ..

theorem get?_removeContent (x : Index) (uri v : Uri) :
    (x.removeContent uri).exports.get? v = if v = uri then none else x.exports.get? v := by
  rw [removeContent]
  split
  next => exact OrderedMap.get?_erase ..
  next hnot =>
    split
    next hv =>
      subst hv
      rw [OrderedMap.get?_eq_none_iff, OrderedMap.mem_keys_iff, ← OrderedMap.contains_iff]
      exact hnot
    next => rfl

theorem references_removeContent (x : Index) (uri : Uri) :
    (x.removeContent uri).references = x.references := by
  rw [removeContent]
  split <;> rfl

theorem get?_removeReferences (x : Index) (uri v : Uri) :
    (x.removeReferences uri).references.get? v = if v = uri then none else x.references.get? v :=
  OrderedMap.get?_erase ..

theorem get?_updateReferences {d : Document} {tree : SyntaxTree} (htree : d.tree? = some tree)
    (x : Index) (v : Uri) :
    (x.updateReferences d).references.get? v =
      if v = d.uri then some (d.referenceRecords tree) else x.references.get? v := by
  rw [updateReferences, htree]
  exact OrderedMap.get?_insert ..

theorem get?_updateReferences_of_ne {d : Document} (hv : v ≠ d.uri) (x : Index) :
    (x.updateReferences d).references.get? v = x.references.get? v := by
  cases htree : d.tree? with
  | none => rw [updateReferences, htree]
  | some tree => rw [get?_updateReferences htree, if_neg hv]

theorem exports_updateReferences (x : Index) (d : Document) :
    (x.updateReferences d).exports = x.exports := by
  rw [updateReferences]
  split <;> rfl

theorem exports_nodup_removeContent (x : Index) (h : x.exports.keys.Nodup) (uri : Uri) :
    (x.removeContent uri).exports.keys.Nodup := by
  rw [removeContent]
  split
  · have hkeys := OrderedMap.keys_erase x.exports uri
    exact hkeys ▸ h.filter _
  · exact h

theorem exports_nodup_resetTo (x : Index) (h : x.exports.keys.Nodup) (uri : Uri)
    (state : DocumentState) : (x.resetTo uri state).exports.keys.Nodup := by
  have hcontent : (if state ≤ .parsed then x.removeContent uri else x).exports.keys.Nodup := by
    split
    · exact x.exports_nodup_removeContent h uri
    · exact h
  rw [resetTo]
  split <;> exact hcontent

/-- A document is moved back alone: the index shows what is left of it, and
all others as before. -/
theorem get?_resetTo (x : Index) (uri v : Uri) (state : DocumentState) :
    (x.resetTo uri state).exports.get? v =
        (if v = uri ∧ state ≤ .parsed then none else x.exports.get? v) ∧
      (x.resetTo uri state).references.get? v =
        if v = uri ∧ state ≤ .computedScopes then none else x.references.get? v := by
  rw [resetTo]
  by_cases hp : state ≤ .parsed
  · have hc : state ≤ .computedScopes := Nat.le_trans hp (by decide)
    simp only [hp, hc, if_true, and_true]
    refine ⟨?_, ?_⟩
    · rw [show ((x.removeContent uri).removeReferences uri).exports = (x.removeContent uri).exports
        from rfl, get?_removeContent]
    · rw [get?_removeReferences, references_removeContent]
  · simp only [hp, if_false, and_false]
    by_cases hc : state ≤ .computedScopes
    · simp only [hc, if_true, and_true]
      exact ⟨rfl, get?_removeReferences ..⟩
    · simp only [hc, if_false, and_false]
      exact ⟨trivial, trivial⟩

theorem Shows.resetTo {d : Document} (h : x.Shows uri (some d)) (state : DocumentState) :
    (x.resetTo uri state).Shows uri (some (d.resetTo state)) := by
  obtain ⟨hexports, hreferences⟩ := x.get?_resetTo uri uri state
  have hstate : (d.resetTo state).state.rank = min d.state.rank state.rank :=
    DocumentState.rank_min _ _
  refine ⟨?_, ?_⟩
  · rw [hexports, Option.bind_some]
    by_cases hp : state ≤ .parsed
    · have hrank : state.rank ≤ 1 := hp
      rw [if_pos ⟨rfl, hp⟩, Document.indexed?_of_lt]
      exact show (d.resetTo state).state.rank < 2 by omega
    · have hrank : ¬ state.rank ≤ 1 := hp
      rw [if_neg fun hand => hp hand.2, h.exports, Option.bind_some]
      -- the exports stay, and so does the document in the index
      by_cases hi : .indexedContent ≤ d.state
      · have hi' : 2 ≤ d.state.rank := hi
        have hle : .indexedContent ≤ (d.resetTo state).state :=
          show 2 ≤ (d.resetTo state).state.rank by omega
        rw [Document.indexed?_of_le hi, Document.indexed?_of_le hle]
        rfl
      · have hi' : ¬ 2 ≤ d.state.rank := hi
        have hlt : (d.resetTo state).state < .indexedContent :=
          show (d.resetTo state).state.rank < 2 by omega
        rw [Document.indexed?_of_lt (Nat.lt_of_not_le hi), Document.indexed?_of_lt hlt]
  · rw [hreferences]
    by_cases hc : state ≤ .computedScopes
    · have hrank : state.rank ≤ 3 := hc
      rw [if_pos ⟨rfl, hc⟩]
      refine ⟨nofun, ?_⟩
      rintro ⟨d', hd', hle⟩
      cases hd'
      have hle' : 4 ≤ (d.resetTo state).state.rank := hle
      omega
    · have hrank : ¬ state.rank ≤ 3 := hc
      rw [if_neg fun hand => hc hand.2, h.references]
      constructor
      · rintro ⟨d', hd', hle⟩
        cases hd'
        have hle' : 4 ≤ d.state.rank := hle
        exact ⟨_, rfl, show 4 ≤ (d.resetTo state).state.rank by omega⟩
      · rintro ⟨d', hd', hle⟩
        cases hd'
        have hle' : 4 ≤ (d.resetTo state).state.rank := hle
        exact ⟨_, rfl, show 4 ≤ d.state.rank by omega⟩

/-- Nothing is shown of a uri that nothing is moved back of. -/
theorem Shows.resetTo_none (h : x.Shows uri none) (state : DocumentState) :
    (x.resetTo uri state).Shows uri none := by
  obtain ⟨hexports, hreferences⟩ := x.get?_resetTo uri uri state
  have hnone : x.references.get? uri = none := by
    rw [Option.eq_none_iff_forall_ne_some]
    intro records hrecords
    obtain ⟨d, hd, -⟩ := h.references.mp ⟨records, hrecords⟩
    cases hd
  refine ⟨?_, ?_⟩
  · rw [hexports, h.exports]
    split <;> rfl
  · rw [hreferences, hnone]
    constructor
    · rintro ⟨records, hrecords⟩
      split at hrecords <;> cases hrecords
    · rintro ⟨d, hd, -⟩
      cases hd

/-- What is shown depends only on the entries of the uri. -/
theorem Shows.congr {x' : Index} {d? : Option Document} (h : x.Shows uri d?)
    (hexports : x'.exports.get? uri = x.exports.get? uri)
    (hreferences : x'.references.get? uri = x.references.get? uri) : x'.Shows uri d? :=
  ⟨hexports.trans h.exports, by rw [hreferences]; exact h.references⟩

/-- Nothing is shown of a document whose text is newer than its tree. -/
theorem Shows.of_changed {d : Document} (h : x.Shows uri none) (hd : d.state = .changed) :
    x.Shows uri (some d) := by
  refine ⟨?_, h.references.trans ?_⟩
  · rw [h.exports, Option.bind_some, Document.indexed?_of_lt]
    · rfl
    · rw [hd]
      decide
  · constructor
    · rintro ⟨e, he, -⟩
      cases he
    · rintro ⟨e, he, hle⟩
      cases he
      rw [hd] at hle
      exact absurd hle (by decide)

theorem shows_remove (x : Index) (uri : Uri) : (x.remove uri).Shows uri none := by
  refine ⟨?_, ?_⟩
  · rw [show (x.remove uri).exports = (x.removeContent uri).exports from rfl, get?_removeContent,
      if_pos rfl]
    rfl
  · rw [remove, get?_removeReferences, if_pos rfl]
    constructor
    · rintro ⟨records, hrecords⟩
      cases hrecords
    · rintro ⟨d, hd, -⟩
      cases hd

theorem get?_remove_of_ne (x : Index) (hv : v ≠ uri) :
    (x.remove uri).exports.get? v = x.exports.get? v ∧
      (x.remove uri).references.get? v = x.references.get? v := by
  refine ⟨?_, ?_⟩
  · rw [show (x.remove uri).exports = (x.removeContent uri).exports from rfl, get?_removeContent,
      if_neg hv]
  · rw [remove, get?_removeReferences, if_neg hv, references_removeContent]

end Index

namespace Document

variable {services : Services} {d d' : Document} {x x' : Index} {t : DocumentState} {uri : Uri}

/-- A phase touches the entries of its document only. -/
theorem phase_get?_of_ne (huri : d.uri = uri) (hphase : d.phase services x t = .ok (d', x'))
    {v : Uri} (hv : v ≠ uri) :
    x'.exports.get? v = x.exports.get? v ∧ x'.references.get? v = x.references.get? v := by
  subst huri
  cases t with
  | parsed =>
    rw [Document.phase] at hphase
    split at hphase
    · cases hphase
      exact ⟨rfl, rfl⟩
    · cases hphase
  | indexedContent =>
    cases hphase
    exact ⟨by rw [Index.get?_updateContent, if_neg hv], rfl⟩
  | linked =>
    cases hphase
    have huri : (services.linker.linked x d).uri = d.uri := by rw [linked_eq]
    refine ⟨by rw [Index.exports_updateReferences], Index.get?_updateReferences_of_ne ?_ x⟩
    rwa [huri]
  | changed | computedScopes | validated =>
    cases hphase
    exact ⟨rfl, rfl⟩

theorem phase_exports_nodup (hphase : d.phase services x t = .ok (d', x'))
    (h : x.exports.keys.Nodup) : x'.exports.keys.Nodup := by
  cases t with
  | parsed =>
    rw [Document.phase] at hphase
    split at hphase
    · cases hphase
      exact h
    · cases hphase
  | indexedContent =>
    cases hphase
    exact OrderedMap.nodup_keys_insert h _ _
  | linked =>
    cases hphase
    rw [Index.exports_updateReferences]
    exact h
  | changed | computedScopes | validated =>
    cases hphase
    exact h

/-- **A phase makes the index show what its document has become.** -/
theorem phase_shows (h : d.Sound services) (huri : d.uri = uri) (ht : t ≠ .changed)
    (hlow : t.rank ≤ d.state.rank + 1) (hhigh : d.state.rank ≤ t.rank)
    (hphase : d.phase services x t = .ok (d', x')) (hx : x.Shows uri (some d)) :
    x'.Shows uri (some d') := by
  have hexports : x.exports.get? uri = d.indexed? := hx.exports
  have hreferences : (∃ records, x.references.get? uri = some records) ↔ 4 ≤ d.state.rank :=
    hx.references.trans ⟨fun ⟨_, hd, hle⟩ => by cases hd; exact hle, fun hle => ⟨d, rfl, hle⟩⟩
  -- exports and records are compared with the state of the phase
  have hof : ∀ {y : Index} {e : Document}, e.state = t → y.exports.get? uri = e.indexed? →
      ((∃ records, y.references.get? uri = some records) ↔ 4 ≤ t.rank) →
      y.Shows uri (some e) := by
    rintro y e rfl he hr
    exact ⟨he, hr.trans ⟨fun hle => ⟨_, rfl, hle⟩, fun ⟨_, hd, hle⟩ => by cases hd; exact hle⟩⟩
  cases t with
  | changed => exact absurd rfl ht
  | parsed =>
    have hhigh' : d.state.rank ≤ 1 := hhigh
    rw [Document.phase] at hphase
    split at hphase
    · cases hphase
      refine hof rfl ?_ (hreferences.trans ⟨fun hle => by omega, fun hle => absurd hle (by decide)⟩)
      rw [hexports, indexed?_of_lt (show d.state.rank < 2 by omega)]
      rfl
    · cases hphase
  | indexedContent =>
    have hhigh' : d.state.rank ≤ 2 := hhigh
    cases hphase
    refine hof rfl ?_ (hreferences.trans ⟨fun hle => by omega, fun hle => absurd hle (by decide)⟩)
    rw [Index.get?_updateContent, if_pos huri.symm]
    rfl
  | computedScopes =>
    have hlow' : 3 ≤ d.state.rank + 1 := hlow
    have hhigh' : d.state.rank ≤ 3 := hhigh
    cases hphase
    refine hof rfl ?_ (hreferences.trans ⟨fun hle => by omega, fun hle => absurd hle (by decide)⟩)
    rw [hexports, indexed?_of_le (show 2 ≤ d.state.rank by omega)]
    rfl
  | linked =>
    have hlow' : 4 ≤ d.state.rank + 1 := hlow
    obtain ⟨parse, -, hparse⟩ := h.parsed (show 1 ≤ d.state.rank by omega)
    rw [Document.phase, linked_eq] at hphase
    cases hphase
    have htree : Document.tree? { d with links := (services.linker.linked x d).links } =
        some parse.tree := congrArg (Option.map ParseResult.tree) hparse
    refine hof rfl ?_ ⟨fun _ => Nat.le_refl 4, fun _ => ?_⟩
    · rw [Index.exports_updateReferences, hexports,
        indexed?_of_le (show 2 ≤ d.state.rank by omega)]
      rfl
    · rw [Index.get?_updateReferences htree, if_pos huri.symm]
      exact ⟨_, rfl⟩
  | validated =>
    have hlow' : 5 ≤ d.state.rank + 1 := hlow
    rw [phase_validated, checked_eq] at hphase
    cases hphase
    refine hof rfl ?_ (hreferences.trans ⟨fun _ => by decide, fun _ => by omega⟩)
    rw [hexports, indexed?_of_le (show 2 ≤ d.state.rank by omega)]
    rfl

end Document

/-! ## Operations -/

namespace Built

variable {services : Services} {b b' : Built} {uris : List Uri} {uri : Uri} {t : DocumentState}

/-- A document that is due stands in the state before or, if it is in front
of itself, in the state it is due for. -/
theorem Due.bounds (h : b.Due uris t uri) {d : Document} (hd : b.documents.get? uri = some d) :
    t.rank ≤ d.state.rank + 1 ∧ d.state.rank ≤ t.rank := by
  refine ⟨?_, h.state d hd⟩
  obtain ⟨pre, post, huris, -⟩ := h.place
  have hmem : uri ∈ uris := by
    rw [huris]
    exact List.mem_append_right _ List.mem_cons_self
  have hbefore : ∀ t' ∈ stages, t' < t → t' ≠ .validated → t'.rank ≤ d.state.rank := by
    intro t' ht' hlt hne
    have hawaits := todo_eq_nil_iff.mp (h.earlier t' ht' hlt) uri hmem d hd
    by_contra hnot
    have hd' : d.awaits t' = true :=
      Document.awaits_iff.mpr ⟨Nat.lt_of_not_le hnot, fun heq => absurd heq hne⟩
    rw [hawaits] at hd'
    cases hd'
  have hstage := h.stage
  cases t with
  | changed => exact Nat.zero_le _
  | parsed => exact Nat.succ_le_succ (Nat.zero_le _)
  | indexedContent => exact Nat.succ_le_succ (hbefore .parsed (by decide) (by decide) (by decide))
  | computedScopes =>
    exact Nat.succ_le_succ (hbefore .indexedContent (by decide) (by decide) (by decide))
  | linked => exact Nat.succ_le_succ (hbefore .computedScopes (by decide) (by decide) (by decide))
  | validated => exact Nat.succ_le_succ (hbefore .linked (by decide) (by decide) (by decide))

namespace Sound

theorem advance (h : b.Sound services) (hdue : b.Due uris t uri)
    (hadv : b.advance services t uri = .ok b') : b'.Sound services := by
  have ht := ne_changed_of_mem_stages hdue.stage
  refine ⟨by rw [keys_advance h.keyed hadv]; exact h.nodup, ?_, h.keyed.advance hadv, ?_, ?_⟩
  · rcases advance_ok h.keyed hadv with ⟨-, rfl⟩ | ⟨d, d', x, -, hphase, rfl⟩
    · exact h.exports_nodup
    · exact Document.phase_exports_nodup hphase h.exports_nodup
  · intro v d' hd'
    by_cases hv : v = uri
    · subst hv
      obtain ⟨d, hd, hphase⟩ := get?_advance h.keyed hadv hd'
      obtain ⟨hlow, hhigh⟩ := hdue.bounds hd
      exact (h.document v d hd).phase ht hlow hhigh hphase
    · rw [get?_advance_of_ne h.keyed hadv hv] at hd'
      exact h.document v d' hd'
  · intro v
    rcases advance_ok h.keyed hadv with ⟨-, rfl⟩ | ⟨d, d', x, hd, hphase, rfl⟩
    · exact h.index v
    · obtain ⟨hlow, hhigh⟩ := hdue.bounds hd
      have huri := h.keyed uri d hd
      rw [OrderedMap.get?_insert]
      split
      next hv =>
        subst hv
        refine Document.phase_shows (h.document v d hd) huri ht hlow hhigh hphase ?_
        rw [← hd]
        exact h.index v
      next hv =>
        obtain ⟨hexports, hreferences⟩ := Document.phase_get?_of_ne huri hphase hv
        exact (h.index v).congr hexports hreferences

/-- A document is replaced by one that the index shows as well. -/
theorem put (h : b.Sound services) {d d' : Document} (hd : b.documents.get? uri = some d)
    (huri : d'.uri = uri) (hd' : d'.Sound services) (hindexed : d'.indexed? = d.indexed?)
    (hlinked : DocumentState.linked ≤ d'.state ↔ DocumentState.linked ≤ d.state) :
    (b.put d').Sound services := by
  subst huri
  constructor
  case nodup =>
    rw [Built.put, OrderedMap.keys_insert_of_get? hd]
    exact h.nodup
  case exports_nodup => exact h.exports_nodup
  case keyed =>
    intro v e he
    rw [Built.put, OrderedMap.get?_insert] at he
    split at he
    next hv =>
      cases he
      exact hv.symm
    next => exact h.keyed v e he
  case document =>
    intro v e he
    rw [Built.put, OrderedMap.get?_insert] at he
    split at he
    next hv =>
      cases he
      exact hd'
    next => exact h.document v e he
  case index =>
    intro v
    have hv := h.index v
    rw [Built.put, OrderedMap.get?_insert]
    split
    next heq =>
      subst heq
      rw [hd] at hv
      refine ⟨hv.exports.trans hindexed.symm, hv.references.trans ?_⟩
      constructor
      · rintro ⟨e, he, hle⟩
        cases he
        exact ⟨d', rfl, hlinked.mpr hle⟩
      · rintro ⟨e, he, hle⟩
        cases he
        exact ⟨d, rfl, hlinked.mp hle⟩
    next => exact hv

theorem halts (h : b.Sound services) (hdue : b.Due uris t uri)
    (hhalts : b.Halts services t uri b') : b'.Sound services := by
  cases hhalts with
  | unchanged => exact h
  | @changed d links hd hlinks =>
    have hsound := h.document uri d hd
    obtain ⟨hlow, -⟩ := hdue.bounds hd
    refine h.put hd (h.keyed uri d hd) ⟨hsound.parsed, hsound.scopes, hsound.unscoped,
      fun hlt => ?_, fun hasking tree htree => ?_⟩ rfl Iff.rfl
    · cases hlinks with
      | unlinked => exact d.unlink_links
      | checked =>
        have hlt' : d.state.rank < 4 := hlt
        have hlow' : 5 ≤ d.state.rank + 1 := hlow
        omega
    · rw [← hsound.sized hasking tree htree]
      cases hlinks with
      | unlinked => exact d.size_unlink
      | checked hpartly =>
        obtain ⟨parse, pre, -, -, rfl⟩ := hpartly
        exact CheckRegistry.size_onNodes hasking.asks hasking.usual.provider pre

theorem progress (h : b.Sound services) (hp : Progress services uris b b') : b'.Sound services := by
  induction hp with
  | start => exact h
  | step _ hdue hadv ih => exact ih.advance hdue hadv

/-- The marks of documents are of no account. -/
theorem remarked (h : b.Sound services) (hr : b.Remarked b') : b'.Sound services := by
  refine ⟨by rw [hr.keys]; exact h.nodup, by rw [hr.index]; exact h.exports_nodup,
    hr.keyed h.keyed, ?_, ?_⟩
  · intro v d' hd'
    obtain ⟨d, hd, heq⟩ := hr.document v d' hd'
    have hsound := h.document v d hd
    rw [heq]
    exact ⟨hsound.parsed, hsound.scopes, hsound.unscoped, hsound.unlinked, hsound.sized⟩
  · intro v
    have hv := h.index v
    rw [hr.index]
    cases hd' : b'.documents.get? v with
    | none =>
      have hnone : b.documents.get? v = none := by
        rw [OrderedMap.get?_eq_none_iff, ← hr.keys, ← OrderedMap.get?_eq_none_iff]
        exact hd'
      rwa [hnone] at hv
    | some d' =>
      obtain ⟨d, hd, heq⟩ := hr.document v d' hd'
      rw [hd] at hv
      rw [heq]
      refine ⟨hv.exports, hv.references.trans ⟨?_, ?_⟩⟩
      · rintro ⟨e, he, hle⟩
        cases he
        exact ⟨_, rfl, hle⟩
      · rintro ⟨e, he, hle⟩
        cases he
        exact ⟨_, rfl, hle⟩

theorem mark (h : b.Sound services) (options : ValidationMode) (uris : List Uri) :
    (b.mark options uris).Sound services := h.remarked (b.remarked_mark options uris)

theorem clear (h : b.Sound services) : (b.clear uris).Sound services :=
  h.remarked (b.remarked_clear uris)

/-- **A build keeps documents and the index sound**, wherever it ends. -/
theorem builds (h : b.Sound services) {options : ValidationMode} {i : Interrupt}
    {r : Except Stop Unit} (hbuilds : b.Builds services uris options i r b') :
    b'.Sound services := by
  obtain ⟨b₁, hp, hend⟩ := hbuilds.ends h.keyed
  have hsound := (h.mark options uris).progress hp
  obtain rfl | rfl | ⟨-, -, t, uri, hdue, hhalts⟩ := hend
  · exact hsound
  · exact hsound.clear
  · exact hsound.halts hdue hhalts

end Sound
end Built

namespace Workspace

variable {services : Services} {w w' : Workspace} {uri : Uri}

theorem sound_drop (h : w.built.Sound services) (uri : Uri) :
    (w.drop uri).built.Sound services := by
  have hget : ∀ v, (w.drop uri).built.documents.get? v =
      if v = uri then none else w.built.documents.get? v := OrderedMap.get?_erase _ _
  constructor
  case nodup =>
    rw [show (w.drop uri).built.documents.keys = w.built.documents.keys.filter (!· == uri) from
      OrderedMap.keys_erase ..]
    exact h.nodup.filter _
  case exports_nodup => exact w.index.exports_nodup_removeContent h.exports_nodup uri
  case keyed =>
    intro v d hd
    rw [hget] at hd
    split at hd
    next => cases hd
    next => exact h.keyed v d hd
  case document =>
    intro v d hd
    rw [hget] at hd
    split at hd
    next => cases hd
    next => exact h.document v d hd
  case index =>
    intro v
    rw [hget]
    split
    next hv =>
      subst hv
      exact Index.shows_remove ..
    next hv =>
      obtain ⟨hexports, hreferences⟩ := w.index.get?_remove_of_ne hv
      exact (h.index v).congr hexports hreferences

/-- One document is changed together with what the index shows of it. -/
theorem sound_modify (h : w.built.Sound services) {f : Document → Document} {x : Index}
    (huri : ∀ d, (f d).uri = d.uri)
    (hnodup : x.exports.keys.Nodup)
    (hsound : ∀ d, w.built.documents.get? uri = some d → (f d).Sound services)
    (hshows : x.Shows uri ((w.built.documents.get? uri).map f))
    (hother : ∀ v ≠ uri, x.exports.get? v = w.index.exports.get? v ∧
      x.references.get? v = w.index.references.get? v) :
    Built.Sound services ⟨w.documents.modify uri f, x⟩ := by
  have hget := fun v => OrderedMap.get?_modify w.documents uri v f
  constructor
  case nodup =>
    rw [OrderedMap.keys_modify]
    exact h.nodup
  case exports_nodup => exact hnodup
  case keyed =>
    intro v d' hd'
    rw [hget] at hd'
    split at hd'
    next hv =>
      obtain ⟨d, hd, rfl⟩ := Option.map_eq_some_iff.mp hd'
      rw [huri, hv]
      exact h.keyed uri d hd
    next => exact h.keyed v d' hd'
  case document =>
    intro v d' hd'
    rw [hget] at hd'
    split at hd'
    next hv =>
      obtain ⟨d, hd, rfl⟩ := Option.map_eq_some_iff.mp hd'
      exact hsound d hd
    next => exact h.document v d' hd'
  case index =>
    intro v
    rw [hget]
    split
    next hv =>
      subst hv
      exact hshows
    next hv =>
      obtain ⟨hexports, hreferences⟩ := hother v hv
      exact (h.index v).congr hexports hreferences

theorem sound_resetTo (h : w.built.Sound services) (uri : Uri) (state : DocumentState) :
    (w.resetTo uri state).built.Sound services := by
  refine sound_modify (f := (·.resetTo state)) h (fun d => rfl)
    (w.index.exports_nodup_resetTo h.exports_nodup uri state)
    (fun d hd => (h.document uri d hd).resetTo state) ?_ ?_
  · have hx := h.index uri
    cases hd : w.built.documents.get? uri with
    | none =>
      rw [hd] at hx
      exact hx.resetTo_none state
    | some d =>
      rw [hd] at hx
      exact hx.resetTo state
  · intro v hv
    obtain ⟨hexports, hreferences⟩ := w.index.get?_resetTo uri v state
    rw [if_neg fun hand => hv hand.1] at hexports hreferences
    exact ⟨hexports, hreferences⟩

/-- The new text of a document, and nothing of the old one. -/
theorem sound_reload (h : w.built.Sound services) (uri : Uri) (text : String) :
    ((w.modifyDocument uri (·.setText text)).resetTo uri .changed).built.Sound services := by
  have hbuilt : ((w.modifyDocument uri (·.setText text)).resetTo uri .changed).built =
      ⟨w.documents.modify uri ((·.resetTo .changed) ∘ (·.setText text)), w.index.remove uri⟩ := by
    rw [← OrderedMap.modify_modify]
    rfl
  rw [hbuilt]
  refine sound_modify h (fun d => rfl) (w.index.exports_nodup_removeContent h.exports_nodup uri)
    (fun d hd => Document.sound_of_changed rfl rfl (Document.unlink_links _)
      fun hasking tree htree =>
        d.size_unlink.trans ((h.document uri d hd).sized hasking tree htree)) ?_
    fun v hv => w.index.get?_remove_of_ne hv
  cases w.built.documents.get? uri with
  | none => exact Index.shows_remove ..
  | some d => exact (Index.shows_remove ..).of_changed rfl

/-- A document that was not there and has nothing yet. -/
theorem sound_new (h : w.built.Sound services) (hnot : w.documents.contains uri = false)
    (text : String) : (w.setDocument (.ofText uri text)).built.Sound services := by
  have hnone : w.built.documents.get? uri = none := by
    rw [Option.eq_none_iff_forall_ne_some]
    intro d hd
    rw [show w.documents.contains uri = true from OrderedMap.contains_iff.mpr ⟨d, hd⟩] at hnot
    cases hnot
  have hget : ∀ v, (w.setDocument (.ofText uri text)).built.documents.get? v =
      if v = uri then some (.ofText uri text) else w.built.documents.get? v :=
    fun v => OrderedMap.get?_insert ..
  refine ⟨OrderedMap.nodup_keys_insert h.nodup _ _, h.exports_nodup, ?_, ?_, ?_⟩
  · intro v d hd
    rw [hget] at hd
    split at hd
    next hv =>
      cases hd
      exact hv.symm
    next => exact h.keyed v d hd
  · intro v d hd
    rw [hget] at hd
    split at hd
    next =>
      cases hd
      exact Document.sound_of_changed rfl rfl (by simp [Document.ofText]) nofun
    next => exact h.document v d hd
  · intro v
    have hx := h.index v
    rw [hget]
    split
    next hv =>
      subst hv
      rw [hnone] at hx
      exact hx.of_changed rfl
    next => exact hx

theorem sound_take (h : w.built.Sound services) (htake : w.take uri = .ok w') :
    w'.built.Sound services := by
  obtain ⟨text, -, ⟨-, rfl⟩ | ⟨hnot, rfl⟩⟩ := take_cases htake
  · exact sound_reload h uri text
  · exact sound_new h hnot text

theorem sound_load (h : w.built.Sound services) (hload : w.load uri = .ok w') :
    w'.built.Sound services := by
  rcases load_cases hload with ⟨-, rfl⟩ | ⟨hnot, text, -, rfl⟩
  · exact h
  · exact sound_new h hnot text

theorem sound_loads (h : w.built.Sound services) (uris : List Uri) :
    (w.attemptAll load uris).2.built.Sound services :=
  attemptAll_invariant (f := load) (P := fun w => w.built.Sound services)
    (fun _ _ _ hw hload => sound_load hw hload) h uris

theorem sound_taken (h : w.built.Sound services) (changed deleted : List Uri) :
    (w.taken changed deleted).2.built.Sound services := by
  have hdropped := foldl_invariant (f := drop) (P := fun w => w.built.Sound services)
    (fun _ uri hw => sound_drop hw uri) h deleted
  exact attemptAll_invariant (f := take) (P := fun w => w.built.Sound services)
    (fun _ _ _ hw htake => sound_take hw htake) hdropped changed

theorem sound_relink (h : w.built.Sound services) (changed : List Uri) :
    (Build.relink w changed).built.Sound services := by
  refine foldl_invariant (P := fun w => w.built.Sound services) (fun w' d hw => ?_) h _
  split
  · exact hw
  · split
    · exact sound_resetTo hw d.uri .computedScopes
    · exact hw

theorem sound_prepared (h : w.built.Sound services) (changed deleted : List Uri) :
    (w.prepared changed deleted).built.Sound services := by
  rw [prepared]
  split
  · exact sound_relink (sound_taken h changed deleted) _
  · exact sound_taken h changed deleted

/-! ## Runs -/

/-- **The workspaces that come from files** by edits of the files, by
listeners that only note, and by loads and updates with any interrupt and
any outcome. -/
inductive Reached (services : Services) : Workspace → Prop
  | start (files : FileSystem) : Reached services (.ofFiles files)
  | edit {w : Workspace} (files : FileSystem) : Reached services w →
      Reached services { w with files := files }
  | listen {w : Workspace} {listeners : Listeners} : Reached services w → listeners.Quiet →
      Reached services { w with listeners := listeners }
  | load {w w' : Workspace} {folders : List Uri} {interrupt : Interrupt}
      {r : Except Stop (List Uri)} : Reached services w →
      (Build.loadFolders services folders).run w interrupt = (r, w') → Reached services w'
  | update {w w' : Workspace} {changed deleted : List Uri} {interrupt : Interrupt}
      {r : Except Stop Unit} : Reached services w →
      (Build.update services changed deleted).run w interrupt = (r, w') → Reached services w'

theorem sound_ofFiles (files : FileSystem) : (ofFiles files).built.Sound services := by
  have hget : ∀ uri, (ofFiles files).built.documents.get? uri = none := fun _ => rfl
  refine ⟨List.nodup_nil, List.nodup_nil, fun uri d hd => ?_, fun uri d hd => ?_, fun uri => ?_⟩
  · rw [hget] at hd
    cases hd
  · rw [hget] at hd
    cases hd
  · rw [hget]
    refine ⟨rfl, ?_, ?_⟩
    · rintro ⟨records, hrecords⟩
      cases hrecords
    · rintro ⟨d, hd, -⟩
      cases hd

theorem update_sound {s s' : BuildState} {changed deleted : List Uri} {r : Except Stop Unit}
    (husual : services.Usual) (hq : s.workspace.listeners.Quiet) (h : s.built.Sound services)
    (hupdate : Build.update services changed deleted s = (r, s')) :
    s.Frame s' ∧ s'.built.Sound services := by
  have hprepared := sound_prepared h changed deleted
  cases Build.update_cases husual hq hprepared.keyed hupdate with
  | unread hf _ hb =>
    rw [hb]
    exact ⟨hf, sound_taken h changed deleted⟩
  | early hf _ _ hb =>
    rw [hb]
    exact ⟨hf, hprepared⟩
  | built hf _ hbuilds => exact ⟨hf, hprepared.builds hbuilds⟩

theorem load_sound {s s' : BuildState} {folders : List Uri} {r : Except Stop (List Uri)}
    (husual : services.Usual) (hq : s.workspace.listeners.Quiet) (h : s.built.Sound services)
    (hload : Build.loadFolders services folders s = (r, s')) :
    s.Frame s' ∧ s'.built.Sound services := by
  cases Build.loadFolders_cases husual hq (fun uris => (sound_loads h uris).keyed) hload with
  | nothing => exact ⟨.refl s, h⟩
  | unread hf hb =>
    rw [hb]
    exact ⟨hf, sound_loads h _⟩
  | built hf _ hbuilds => exact ⟨hf, (sound_loads h _).builds hbuilds⟩

/-- **Every workspace that is reached is sound**, and its listeners only
note. -/
theorem Reached.sound (husual : services.Usual) (h : Reached services w) :
    w.built.Sound services ∧ w.listeners.Quiet := by
  induction h with
  | start files => exact ⟨sound_ofFiles files, Listeners.quiet_none⟩
  | edit files _ ih => exact ih
  | listen _ hq ih => exact ⟨ih.1, hq⟩
  | load _ hrun ih =>
    obtain ⟨hs, hq⟩ := ih
    obtain ⟨s', hload, rfl⟩ := Build.run_cases hrun
    obtain ⟨hf, hsound⟩ := load_sound husual hq hs hload
    exact ⟨hsound, hf.quiet hq⟩
  | update _ hrun ih =>
    obtain ⟨hs, hq⟩ := ih
    obtain ⟨s', hupdate, rfl⟩ := Build.run_cases hrun
    obtain ⟨hf, hsound⟩ := update_sound husual hq hs hupdate
    exact ⟨hsound, hf.quiet hq⟩

end Workspace
end Workbench
