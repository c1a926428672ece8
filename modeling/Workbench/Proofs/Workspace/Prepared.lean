import Workbench.Proofs.Workspace.Reached
/-!
# What a batch of changes leaves of a workspace

When an update begins to build, the documents of its batch are gone or have
their new texts, and others may be moved back to be linked again. A document
that still counts as linked then is one that was before, and it has neither
linking errors nor recorded references into the batch.
-/

namespace Workbench

namespace Workspace

variable {services : Services} {w w' : Workspace} {uri v : Uri} {changed deleted : List Uri}

/-! ## Documents -/

theorem document?_drop (w : Workspace) (uri v : Uri) :
    (w.drop uri).document? v = if v = uri then none else w.document? v :=
  OrderedMap.get?_erase _ _ _

theorem document?_resetTo (w : Workspace) (uri v : Uri) (state : DocumentState) :
    (w.resetTo uri state).document? v =
      if v = uri then (w.document? uri).map (·.resetTo state) else w.document? v :=
  OrderedMap.get?_modify _ _ _ _

/-- What taking in a file makes of its document. -/
def renewed (w : Workspace) (uri : Uri) (text : String) : Document :=
  match w.document? uri with
  | some d => (d.setText text).resetTo .changed
  | none => .ofText uri text

theorem state_renewed (w : Workspace) (uri : Uri) (text : String) :
    (w.renewed uri text).state = .changed := by
  rw [renewed]
  split <;> rfl

theorem document?_take (h : w.take uri = .ok w') :
    ∃ text, w.files.read uri = .ok text ∧ ∀ v, w'.document? v =
      if v = uri then some (w.renewed uri text) else w.document? v := by
  obtain ⟨text, hread, ⟨hc, rfl⟩ | ⟨hc, rfl⟩⟩ := take_cases h
  · refine ⟨text, hread, fun v => ?_⟩
    obtain ⟨d, hd⟩ := OrderedMap.contains_iff.mp hc
    have hget : ∀ v, (w.modifyDocument uri (·.setText text)).document? v =
        if v = uri then (w.document? uri).map (·.setText text) else w.document? v :=
      fun v => OrderedMap.get?_modify _ _ _ _
    have hd' : w.document? uri = some d := hd
    rw [document?_resetTo, hget, hget, if_pos rfl, renewed, hd']
    split
    next => rfl
    next => rfl
  · refine ⟨text, hread, fun v => ?_⟩
    have hnone : w.document? uri = none := by
      rw [Option.eq_none_iff_forall_ne_some]
      intro d hd
      rw [OrderedMap.contains_iff.mpr ⟨d, hd⟩] at hc
      cases hc
    rw [renewed, hnone]
    exact OrderedMap.get?_insert _ _ _ _

theorem document?_load (h : w.load uri = .ok w') :
    (w' = w ∧ ∃ d, w.document? uri = some d) ∨
      ∃ text, w.document? uri = none ∧ ∀ v, w'.document? v =
        if v = uri then some (.ofText uri text) else w.document? v := by
  rcases load_cases h with ⟨hc, rfl⟩ | ⟨hc, text, -, rfl⟩
  · exact Or.inl ⟨rfl, OrderedMap.contains_iff.mp hc⟩
  · refine Or.inr ⟨text, ?_, fun v => OrderedMap.get?_insert _ _ _ _⟩
    rw [Option.eq_none_iff_forall_ne_some]
    intro d hd
    rw [OrderedMap.contains_iff.mpr ⟨d, hd⟩] at hc
    cases hc

/-! ## The batch -/

/-- What is kept under a uri, by the documents and by the index. -/
structure Untouched (w w' : Workspace) (v : Uri) : Prop where
  document : w'.document? v = w.document? v
  exports : w'.index.exports.get? v = w.index.exports.get? v
  references : w'.index.references.get? v = w.index.references.get? v

theorem Untouched.refl (w : Workspace) (v : Uri) : w.Untouched w v := ⟨rfl, rfl, rfl⟩

theorem Untouched.trans {w'' : Workspace} (h : w.Untouched w' v) (h' : w'.Untouched w'' v) :
    w.Untouched w'' v :=
  ⟨h'.document.trans h.document, h'.exports.trans h.exports, h'.references.trans h.references⟩

theorem untouched_drop (w : Workspace) (hv : v ≠ uri) : w.Untouched (w.drop uri) v := by
  obtain ⟨hexports, hreferences⟩ := w.index.get?_remove_of_ne hv
  exact ⟨by rw [document?_drop, if_neg hv], hexports, hreferences⟩

theorem untouched_take (h : w.take uri = .ok w') (hv : v ≠ uri) : w.Untouched w' v := by
  obtain ⟨text, -, hget⟩ := document?_take h
  have hdocument : w'.document? v = w.document? v := by rw [hget, if_neg hv]
  obtain ⟨text', -, ⟨-, rfl⟩ | ⟨-, rfl⟩⟩ := take_cases h
  · obtain ⟨hexports, hreferences⟩ := w.index.get?_remove_of_ne hv
    exact ⟨hdocument, hexports, hreferences⟩
  · exact ⟨hdocument, rfl, rfl⟩

theorem drops_cases (w : Workspace) (deleted : List Uri) (v : Uri) :
    (v ∈ deleted ∧ (deleted.foldl drop w).document? v = none) ∨
      (v ∉ deleted ∧ w.Untouched (deleted.foldl drop w) v) := by
  induction deleted generalizing w with
  | nil => exact Or.inr ⟨List.not_mem_nil, .refl w v⟩
  | cons u rest ih =>
    rw [List.foldl_cons]
    rcases ih (w.drop u) with ⟨hin, hnone⟩ | ⟨hnot, huntouched⟩
    · exact Or.inl ⟨List.mem_cons_of_mem _ hin, hnone⟩
    · by_cases hv : v = u
      · subst hv
        refine Or.inl ⟨List.mem_cons_self, ?_⟩
        rw [huntouched.document, document?_drop, if_pos rfl]
      · refine Or.inr ⟨?_, (untouched_drop w hv).trans huntouched⟩
        rw [List.mem_cons, not_or]
        exact ⟨hv, hnot⟩

theorem takes_cases (w : Workspace) (changed : List Uri) (v : Uri) :
    (v ∈ changed ∧ ∃ d, (attemptAll take changed w).2.document? v = some d ∧ d.state = .changed) ∨
      (((attemptAll take changed w).1 = none → v ∉ changed) ∧
        w.Untouched (attemptAll take changed w).2 v) := by
  induction changed generalizing w with
  | nil => exact Or.inr ⟨fun _ => List.not_mem_nil, .refl w v⟩
  | cons u rest ih =>
    rw [attemptAll]
    cases htake : w.take u with
    | error e => exact Or.inr ⟨by simp, .refl w v⟩
    | ok w₁ =>
      dsimp only
      rcases ih w₁ with ⟨hin, hchanged⟩ | ⟨hnot, huntouched⟩
      · exact Or.inl ⟨List.mem_cons_of_mem _ hin, hchanged⟩
      · by_cases hv : v = u
        · subst hv
          obtain ⟨text, -, hget⟩ := document?_take htake
          refine Or.inl ⟨List.mem_cons_self, w.renewed v text, ?_, w.state_renewed v text⟩
          rw [huntouched.document, hget, if_pos rfl]
        · refine Or.inr ⟨fun hnone => ?_, (untouched_take htake hv).trans huntouched⟩
          rw [List.mem_cons, not_or]
          exact ⟨hv, hnot hnone⟩

/-- **What a batch leaves under a uri**: if the uri is in the batch, nothing or
a document with a new text; else what was there. A batch that could not be
read may have left the rest of it as it was. -/
theorem taken_cases (w : Workspace) (changed deleted : List Uri) (v : Uri) :
    (v ∈ changed ++ deleted ∧
        ∀ d, (w.taken changed deleted).2.document? v = some d → d.state = .changed) ∨
      ((w.Reads changed → v ∉ changed ++ deleted) ∧
        w.Untouched (w.taken changed deleted).2 v) := by
  have hreads := taken_eq_none_iff w changed deleted
  rw [taken] at hreads ⊢
  rcases takes_cases (deleted.foldl drop w) changed v with ⟨hin, d, hd, hstate⟩ | ⟨hnot, hsame⟩
  · refine Or.inl ⟨List.mem_append_left _ hin, fun d' hd' => ?_⟩
    rw [hd, Option.some.injEq] at hd'
    rw [← hd', hstate]
  · rcases drops_cases w deleted v with ⟨hin, hnone⟩ | ⟨hnot', hsame'⟩
    · refine Or.inl ⟨List.mem_append_right _ hin, fun d hd => ?_⟩
      rw [hsame.document, hnone] at hd
      cases hd
    · refine Or.inr ⟨fun h => ?_, hsame'.trans hsame⟩
      rw [List.mem_append, not_or]
      exact ⟨hnot (hreads.mpr h), hnot'⟩

/-! ## What is moved back -/

/-- Whether a document is moved back for a batch. -/
def mustRelink (w : Workspace) (batch : List Uri) (d : Document) : Bool :=
  !batch.contains d.uri && (d.hasLinkingErrors || w.index.isAffected d.uri batch)

theorem isAffected_congr {x x' : Index} (h : x'.references.get? v = x.references.get? v)
    (batch : List Uri) : x'.isAffected v batch = x.isAffected v batch := by
  rw [Index.isAffected, Index.isAffected, h]

/-- Moves some documents back, where they have to be linked again. -/
def relinks (batch : List Uri) (l : List Document) (w : Workspace) : Workspace :=
  l.foldl (fun w d => if w.mustRelink batch d then w.resetTo d.uri .computedScopes else w) w

theorem relink_eq (w : Workspace) (batch : List Uri) :
    Build.relink w batch = relinks batch w.documents.values w := by
  rw [Build.relink, relinks]
  congr 1
  funext w d
  rw [mustRelink]
  cases batch.contains d.uri <;> rfl

/-- **What is kept under a uri when documents are moved back**: all of it, if
none of its documents has to be linked again; else a document that is not
linked. -/
theorem relinks_cases (w : Workspace) (batch : List Uri) (l : List Document) (v : Uri) :
    ((∀ d ∈ l, d.uri = v → w.mustRelink batch d = false) ∧ w.Untouched (relinks batch l w) v) ∨
      ∀ d, (relinks batch l w).document? v = some d → d.state < .linked := by
  induction l generalizing w with
  | nil => exact Or.inl ⟨nofun, .refl w v⟩
  | cons d rest ih =>
    rw [relinks, List.foldl_cons, ← relinks]
    by_cases hmust : w.mustRelink batch d = true
    · rw [if_pos hmust]
      rcases ih (w.resetTo d.uri .computedScopes) with ⟨hnone, hsame⟩ | hmoved
      · by_cases hv : v = d.uri
        · refine Or.inr fun d' hd' => ?_
          rw [hsame.document, document?_resetTo, if_pos hv] at hd'
          obtain ⟨d₀, -, rfl⟩ := Option.map_eq_some_iff.mp hd'
          have hrank : (d₀.resetTo .computedScopes).state.rank = min d₀.state.rank 3 :=
            DocumentState.rank_min _ _
          exact show (d₀.resetTo .computedScopes).state.rank < 4 by omega
        · obtain ⟨hexports, hreferences⟩ := w.index.get?_resetTo d.uri v .computedScopes
          rw [if_neg fun hand => hv hand.1] at hexports hreferences
          have hstep : w.Untouched (w.resetTo d.uri .computedScopes) v :=
            ⟨by rw [document?_resetTo, if_neg hv], hexports, hreferences⟩
          refine Or.inl ⟨fun d' hd' huri => ?_, hstep.trans hsame⟩
          rcases List.mem_cons.mp hd' with rfl | hin
          · exact absurd huri.symm hv
          · have hrest := hnone d' hin huri
            rw [mustRelink, isAffected_congr (x := w.index) (by rw [huri]; exact hreferences)]
              at hrest
            exact hrest
      · exact Or.inr hmoved
    · rw [if_neg hmust]
      refine (ih w).imp_left ?_
      rintro ⟨hnone, hsame⟩
      refine ⟨fun d' hd' huri => ?_, hsame⟩
      rcases List.mem_cons.mp hd' with rfl | hin
      · simpa using hmust
      · exact hnone d' hin huri

/-- **A document that still counts as linked was not touched**, and if its
batch could be read, it is not in it, has no linking errors and does not
refer into it. -/
theorem prepared_linked (hw : w.built.Sound services) {d : Document}
    (hd : (w.prepared changed deleted).document? v = some d) (hstate : .linked ≤ d.state) :
    w.Untouched (w.prepared changed deleted) v ∧
      (w.Reads changed → v ∉ changed ++ deleted ∧
        ((!changed.isEmpty || !deleted.isEmpty) = true → d.hasLinkingErrors = false) ∧
        w.index.isAffected v (changed ++ deleted) = false) := by
  have htaken : ∀ d', (w.taken changed deleted).2.document? v = some d' → .linked ≤ d'.state →
      (w.Reads changed → v ∉ changed ++ deleted) ∧ w.Untouched (w.taken changed deleted).2 v := by
    intro d' hd' hstate'
    refine (taken_cases w changed deleted v).resolve_left fun hcase => ?_
    rw [hcase.2 d' hd'] at hstate'
    exact absurd hstate' (by decide)
  rw [prepared] at hd ⊢
  split at hd
  next hbatch =>
    rw [if_pos hbatch]
    rw [relink_eq] at hd ⊢
    rcases relinks_cases (w.taken changed deleted).2 (changed ++ deleted)
      (w.taken changed deleted).2.documents.values v with ⟨hnone, hsame⟩ | hmoved
    · have hd' : (w.taken changed deleted).2.document? v = some d := by
        rw [← hsame.document]
        exact hd
      obtain ⟨hnot, hsame'⟩ := htaken d hd' hstate
      refine ⟨hsame'.trans hsame, fun hreads => ?_⟩
      have huri : d.uri = v := (sound_taken hw changed deleted).keyed v d hd'
      have hmem : d ∈ (w.taken changed deleted).2.documents.values :=
        List.mem_map_of_mem (f := Prod.snd) (OrderedMap.mem_of_get? hd')
      have hmust := hnone d hmem huri
      have hout : (changed ++ deleted).contains d.uri = false := by
        rw [huri]
        simpa using hnot hreads
      rw [mustRelink, hout, isAffected_congr (x := w.index) (by rw [huri]; exact hsame'.references),
        huri] at hmust
      simp only [Bool.not_false, Bool.true_and, Bool.or_eq_false_iff] at hmust
      exact ⟨hnot hreads, fun _ => hmust.1, hmust.2⟩
    · have h1 : 4 ≤ d.state.rank := hstate
      have h2 : d.state.rank < 4 := hmoved d hd
      omega
  next hbatch =>
    rw [if_neg hbatch]
    obtain ⟨hnot, hsame⟩ := htaken d hd hstate
    refine ⟨hsame, fun hreads => ⟨hnot hreads, fun h => absurd h hbatch, ?_⟩⟩
    have hempty : changed = [] ∧ deleted = [] := by
      simpa [List.isEmpty_iff] using hbatch
    rw [hempty.1, hempty.2, Index.isAffected]
    simp

/-- Nothing is taken in of an empty batch. -/
theorem prepared_nil (w : Workspace) : w.prepared [] [] = w := rfl

end Workspace
end Workbench
