import Workbench.Proofs.Workspace.Lexical
import Workbench.Proofs.Workspace.Touched
/-!
# Exports after a history

An index is asked for the exports of all documents at any time between other
operations, and keeps what it answered. What it has to answer can be read off
the operations before (`Index.Listing`): a document has the exports of its last
update, unless they were dropped since, and documents come in the order in
which they came in since they were last dropped. Every answer is this list
with the types that were not asked for left out (`Index.answers_current`): the
operations that change it forget what was kept.
-/

namespace Workbench

namespace Index

/-! ## Histories -/

/-- **What is done with an index.** -/
inductive Operation where
  | updateContent (uri : Uri) (symbols : List Symbol)
  | removeContent (uri : Uri)
  | remove (uri : Uri)
  | updateReferences (d : Document)
  | removeReferences (uri : Uri)
  /-- Asks for the exports of all documents, or for those of a type. -/
  | allElements (type : Option String)

/-- Carries out an operation. A question is answered. -/
def carryOut (types : TypeGraph) (x : Index) : Operation → Option (List Symbol) × Index
  | .updateContent uri symbols => (none, x.updateContent uri symbols)
  | .removeContent uri => (none, x.removeContent uri)
  | .remove uri => (none, x.remove uri)
  | .updateReferences d => (none, x.updateReferences d)
  | .removeReferences uri => (none, x.removeReferences uri)
  | .allElements type => ((x.allElements types type).1, (x.allElements types type).2)

/-- The index after some operations. -/
def carriedOut (types : TypeGraph) (x : Index) (history : List Operation) : Index :=
  history.foldl (fun x op => (x.carryOut types op).2) x

/-- The answers to the operations, in turn. -/
def answers (types : TypeGraph) (x : Index) : List Operation → List (Option (List Symbol))
  | [] => []
  | op :: history => (x.carryOut types op).1 :: answers types (x.carryOut types op).2 history

/-- Whether the operation drops the exports of a document. -/
def Operation.Drops (op : Operation) (uri : Uri) : Prop := op = .removeContent uri ∨ op = .remove uri

/-- Whether the operation gives a document exports. -/
def Operation.Sets (op : Operation) (uri : Uri) : Prop := ∃ symbols, op = .updateContent uri symbols

/-- **The exports of a document after a history** are those of its last update, if
they were not dropped since. -/
def Current (history : List Operation) (uri : Uri) (symbols : List Symbol) : Prop :=
  ∃ before after, history = before ++ .updateContent uri symbols :: after ∧
    ∀ op ∈ after, ¬ op.Drops uri ∧ ¬ op.Sets uri

/-- **A document came in** with the update that found no exports of it, if they
were not dropped since. -/
def CameIn (history : List Operation) (uri : Uri) (i : ℕ) : Prop :=
  ∃ before symbols after, history = before ++ .updateContent uri symbols :: after ∧
    before.length = i ∧ (∀ old, ¬ Current before uri old) ∧ ∀ op ∈ after, ¬ op.Drops uri

/-- **The exports after a history**, in the order in which the documents came in. -/
structure Listing (history : List Operation) (table : OrderedMap Uri (List Symbol)) : Prop where
  found : ∀ uri symbols, table.get? uri = some symbols ↔ Current history uri symbols
  ordered : table.keys.Pairwise fun u v => ∃ i j, i < j ∧ CameIn history u i ∧ CameIn history v j

section History

variable {history : List Operation} {op : Operation} {uri u v : Uri} {symbols : List Symbol}
  {table : OrderedMap Uri (List Symbol)} {i j : ℕ}

@[simp] theorem Operation.sets_updateContent_iff :
    (Operation.updateContent u symbols).Sets v ↔ v = u := by
  simp [Operation.Sets, eq_comm]

@[simp] theorem Operation.not_drops_updateContent :
    ¬ (Operation.updateContent u symbols).Drops v := by
  simp [Operation.Drops]

/-- What drops the exports of a document drops those of no other. -/
theorem Operation.Drops.iff (h : op.Drops u) : op.Drops v ↔ v = u := by
  rcases h with rfl | rfl <;> simp [Operation.Drops, eq_comm]

theorem Operation.Drops.not_sets (h : op.Drops u) : ¬ op.Sets v := by
  rcases h with rfl | rfl <;> simp [Operation.Sets]

/-- What happens around an update in a history with one more operation. -/
theorem append_update_cases {before after : List Operation}
    (h : history ++ [op] = before ++ .updateContent uri symbols :: after) :
    (before = history ∧ op = .updateContent uri symbols ∧ after = []) ∨
    ∃ after', after = after' ++ [op] ∧ history = before ++ .updateContent uri symbols :: after' := by
  rcases List.eq_nil_or_concat after with rfl | ⟨after', op', rfl⟩
  · obtain ⟨hbefore, hop⟩ := List.append_inj' h rfl
    exact .inl ⟨hbefore.symm, List.singleton_inj.mp hop, rfl⟩
  · rw [List.concat_eq_append, ← List.cons_append, ← List.append_assoc] at h
    obtain ⟨hhistory, hop⟩ := List.append_inj' h rfl
    exact .inr ⟨after', by rw [List.concat_eq_append, List.singleton_inj.mp hop], hhistory⟩

/-- **One more operation** gives a document its exports, or leaves it those it has. -/
theorem current_concat : Current (history ++ [op]) uri symbols ↔
    op = .updateContent uri symbols ∨ Current history uri symbols ∧ ¬ op.Drops uri ∧ ¬ op.Sets uri := by
  constructor
  · rintro ⟨before, after, h, hafter⟩
    rcases append_update_cases h with ⟨-, hop, -⟩ | ⟨after', rfl, hhistory⟩
    · exact .inl hop
    · exact .inr ⟨⟨before, after', hhistory, fun op' hop' => hafter op' (List.mem_append_left _ hop')⟩,
        hafter op (List.mem_append_right _ List.mem_cons_self)⟩
  · rintro (rfl | ⟨⟨before, after, rfl, hafter⟩, hop⟩)
    · exact ⟨history, [], rfl, List.forall_mem_nil _⟩
    · refine ⟨before, after ++ [op], by simp, fun op' hop' => ?_⟩
      rcases List.mem_append.mp hop' with hop' | hop'
      · exact hafter op' hop'
      · exact List.mem_singleton.mp hop' ▸ hop

/-- **One more operation** brings a document in, or leaves it where it is. -/
theorem cameIn_concat : CameIn (history ++ [op]) uri i ↔
    (i = history.length ∧ op.Sets uri ∧ ∀ old, ¬ Current history uri old) ∨
      CameIn history uri i ∧ ¬ op.Drops uri := by
  constructor
  · rintro ⟨before, symbols, after, h, hi, hnew, hafter⟩
    rcases append_update_cases h with ⟨rfl, hop, -⟩ | ⟨after', rfl, hhistory⟩
    · exact .inl ⟨hi.symm, ⟨symbols, hop⟩, hnew⟩
    · exact .inr ⟨⟨before, symbols, after', hhistory, hi, hnew,
        fun op' hop' => hafter op' (List.mem_append_left _ hop')⟩,
        hafter op (List.mem_append_right _ List.mem_cons_self)⟩
  · rintro (⟨rfl, ⟨symbols, rfl⟩, hnew⟩ | ⟨⟨before, symbols, after, rfl, hi, hnew, hafter⟩, hop⟩)
    · exact ⟨history, symbols, [], rfl, rfl, hnew, List.forall_mem_nil _⟩
    · refine ⟨before, symbols, after ++ [op], by simp, hi, hnew, fun op' hop' => ?_⟩
      rcases List.mem_append.mp hop' with hop' | hop'
      · exact hafter op' hop'
      · exact List.mem_singleton.mp hop' ▸ hop

theorem CameIn.lt (h : CameIn history uri i) : i < history.length := by
  obtain ⟨before, symbols, after, rfl, rfl, -⟩ := h
  simp

/-- A document that came in has exports. -/
theorem CameIn.current (h : CameIn history uri i) : ∃ symbols, Current history uri symbols := by
  induction history using List.reverseRecOn with
  | nil =>
    obtain ⟨before, symbols, after, hnil, -⟩ := h
    simp at hnil
  | append_singleton history op ih =>
    rcases cameIn_concat.mp h with ⟨-, ⟨symbols, hop⟩, -⟩ | ⟨hbefore, hdrops⟩
    · exact ⟨symbols, current_concat.mpr (.inl hop)⟩
    · by_cases hsets : op.Sets uri
      · obtain ⟨symbols, hop⟩ := hsets
        exact ⟨symbols, current_concat.mpr (.inl hop)⟩
      · obtain ⟨symbols, hcurrent⟩ := ih hbefore
        exact ⟨symbols, current_concat.mpr (.inr ⟨hcurrent, hdrops, hsets⟩)⟩

/-- A document that has exports came in. -/
theorem Current.cameIn (h : Current history uri symbols) : ∃ i, CameIn history uri i := by
  induction history using List.reverseRecOn generalizing symbols with
  | nil =>
    obtain ⟨before, after, hnil, -⟩ := h
    simp at hnil
  | append_singleton history op ih =>
    rcases current_concat.mp h with rfl | ⟨hbefore, hdrops, -⟩
    · by_cases hold : ∃ old, Current history uri old
      · obtain ⟨old, hold⟩ := hold
        obtain ⟨i, hi⟩ := ih hold
        exact ⟨i, cameIn_concat.mpr (.inr ⟨hi, by rintro (h | h) <;> cases h⟩)⟩
      · exact ⟨history.length,
          cameIn_concat.mpr (.inl ⟨rfl, ⟨symbols, rfl⟩, not_exists.mp hold⟩)⟩
    · obtain ⟨i, hi⟩ := ih hbefore
      exact ⟨i, cameIn_concat.mpr (.inr ⟨hi, hdrops⟩)⟩

/-- It came in once. -/
theorem CameIn.unique (hi : CameIn history uri i) (hj : CameIn history uri j) : i = j := by
  induction history using List.reverseRecOn with
  | nil => exact absurd hi.lt (Nat.not_lt_zero i)
  | append_singleton history op ih =>
    rcases cameIn_concat.mp hi with ⟨rfl, -, hnew⟩ | ⟨hi, -⟩
    · rcases cameIn_concat.mp hj with ⟨rfl, -, -⟩ | ⟨hj, -⟩
      · rfl
      · obtain ⟨symbols, hcurrent⟩ := hj.current
        exact absurd hcurrent (hnew symbols)
    · rcases cameIn_concat.mp hj with ⟨rfl, -, hnew⟩ | ⟨hj, -⟩
      · obtain ⟨symbols, hcurrent⟩ := hi.current
        exact absurd hcurrent (hnew symbols)
      · exact ih hi hj

namespace Listing

theorem nodup (h : Listing history table) : table.keys.Nodup := by
  refine h.ordered.imp ?_
  rintro u _ ⟨i, j, hlt, hi, hj⟩ rfl
  exact Nat.ne_of_lt hlt (hi.unique hj)

/-- **A history has one listing.** -/
theorem unique {table' : OrderedMap Uri (List Symbol)} (h : Listing history table)
    (h' : Listing history table') : table' = table := by
  have hmem : ∀ {t : OrderedMap Uri (List Symbol)}, Listing history t → ∀ e,
      e ∈ t.entries ↔ Current history e.1 e.2 := by
    intro t ht e
    rw [← ht.found]
    exact ⟨OrderedMap.get?_of_mem ht.nodup, OrderedMap.mem_of_get?⟩
  have hperm : table'.entries.Perm table.entries :=
    (List.perm_ext_iff_of_nodup (List.Nodup.of_map _ h'.nodup) (List.Nodup.of_map _ h.nodup)).mpr
      fun e => (hmem h' e).trans (hmem h e).symm
  refine OrderedMap.ext_entries (hperm.eq_of_pairwise ?_ (List.pairwise_map.mp h'.ordered)
    (List.pairwise_map.mp h.ordered))
  -- nothing comes before what comes before it
  rintro e e' - - ⟨i, j, hlt, hi, hj⟩ ⟨i', j', hlt', hi', hj'⟩
  have hij' := hi.unique hj'
  have hji' := hj.unique hi'
  omega

/-- An operation that touches no exports leaves the listing. -/
theorem other (h : Listing history table) (hdrops : ∀ uri, ¬ op.Drops uri)
    (hsets : ∀ uri, ¬ op.Sets uri) : Listing (history ++ [op]) table where
  found := by
    intro uri symbols
    rw [h.found, current_concat]
    constructor
    · exact fun hcurrent => .inr ⟨hcurrent, hdrops uri, hsets uri⟩
    · rintro (rfl | ⟨hcurrent, -⟩)
      · exact absurd ⟨symbols, rfl⟩ (hsets uri)
      · exact hcurrent
  ordered := by
    refine h.ordered.imp ?_
    rintro u v ⟨i, j, hlt, hi, hj⟩
    exact ⟨i, j, hlt, cameIn_concat.mpr (.inr ⟨hi, hdrops u⟩), cameIn_concat.mpr (.inr ⟨hj, hdrops v⟩)⟩

/-- **An update** replaces the exports of a document in its place, or brings it in
at the end. -/
theorem update (h : Listing history table) (uri : Uri) (symbols : List Symbol) :
    Listing (history ++ [.updateContent uri symbols]) (table.insert uri symbols) where
  found := by
    intro v current
    rw [OrderedMap.get?_insert, current_concat, Operation.updateContent.injEq,
      Operation.sets_updateContent_iff]
    split
    next hv =>
      subst hv
      simp
    next hv =>
      rw [h.found]
      simp [hv, Ne.symm hv]
  ordered := by
    have hkept : ∀ {v i}, CameIn history v i →
        CameIn (history ++ [.updateContent uri symbols]) v i :=
      fun hv => cameIn_concat.mpr (.inr ⟨hv, Operation.not_drops_updateContent⟩)
    have hordered : table.keys.Pairwise fun u v => ∃ i j, i < j ∧
        CameIn (history ++ [.updateContent uri symbols]) u i ∧
        CameIn (history ++ [.updateContent uri symbols]) v j :=
      h.ordered.imp fun ⟨i, j, hlt, hu, hv⟩ => ⟨i, j, hlt, hkept hu, hkept hv⟩
    rcases Option.eq_none_or_eq_some (table.get? uri) with hnew | ⟨old, hold⟩
    · rw [OrderedMap.keys_insert_of_not_mem (OrderedMap.get?_eq_none_iff.mp hnew)]
      have hcame : CameIn (history ++ [.updateContent uri symbols]) uri history.length := by
        refine cameIn_concat.mpr (.inl ⟨rfl, ⟨symbols, rfl⟩, fun old hold => ?_⟩)
        rw [← h.found, hnew] at hold
        cases hold
      refine List.pairwise_append.mpr ⟨hordered, List.pairwise_singleton _ _, ?_⟩
      intro u hu v hv
      obtain rfl := List.mem_singleton.mp hv
      obtain ⟨old, hold⟩ := OrderedMap.mem_keys_iff.mp hu
      obtain ⟨i, hi⟩ := ((h.found u old).mp hold).cameIn
      exact ⟨i, history.length, hi.lt, hkept hi, hcame⟩
    · rw [OrderedMap.keys_insert_of_get? hold]
      exact hordered

/-- **A removal** drops the exports of a document. The others keep their order. -/
theorem drop (h : Listing history table) (hop : op.Drops uri)
    {table' : OrderedMap Uri (List Symbol)} (hkeys : table'.keys = table.keys.filter (!· == uri))
    (hget : ∀ v, table'.get? v = if v = uri then none else table.get? v) :
    Listing (history ++ [op]) table' where
  found := by
    intro v current
    have hupdate : op ≠ .updateContent v current := fun heq => hop.not_sets ⟨current, heq⟩
    rw [hget, current_concat, hop.iff, ← h.found]
    split
    next hv => simp [hv, hv ▸ hupdate]
    next hv => simp [hv, hupdate, hop.not_sets]
  ordered := by
    have hkept : ∀ {v i}, v ≠ uri → CameIn history v i → CameIn (history ++ [op]) v i :=
      fun hne hv => cameIn_concat.mpr (.inr ⟨hv, fun hdrops => hne (hop.iff.mp hdrops)⟩)
    rw [hkeys]
    refine (h.ordered.filter _).imp_of_mem ?_
    rintro u v hu hv ⟨i, j, hlt, hi, hj⟩
    have hne : ∀ {w}, w ∈ table.keys.filter (!· == uri) → w ≠ uri := by
      intro w hw
      simpa using (List.mem_filter.mp hw).2
    exact ⟨i, j, hlt, hkept (hne hu) hi, hkept (hne hv) hj⟩

theorem nil : Listing [] .empty where
  found := by
    intro uri symbols
    simp [Current]
  ordered := List.Pairwise.nil

end Listing

end History

/-! ## Runs -/

section Run

variable {types : TypeGraph} {x : Index} {op : Operation} {history : List Operation} {i : ℕ}

theorem carriedOut_concat (types : TypeGraph) (x : Index) (history : List Operation)
    (op : Operation) : carriedOut types x (history ++ [op]) =
      ((carriedOut types x history).carryOut types op).2 := by
  rw [carriedOut, List.foldl_append]
  rfl

/-- What was answered to an operation is what the index after those before it
answers. -/
theorem getElem?_answers (types : TypeGraph) (x : Index) (history : List Operation) (i : ℕ) :
    (answers types x history)[i]? =
      history[i]?.map fun op => ((carriedOut types x (history.take i)).carryOut types op).1 := by
  induction history generalizing x i with
  | nil => rfl
  | cons op history ih =>
    cases i with
    | zero => rfl
    | succ i => exact ih (x.carryOut types op).2 i

theorem exports_allElements (types : TypeGraph) (x : Index) (type : Option String) :
    (x.allElements types type).2.exports = x.exports := by
  rw [allElements]
  split <;> rfl

/-- An operation makes an index of an index. -/
theorem Made.carryOut (h : x.Made types) (op : Operation) : (x.carryOut types op).2.Made types := by
  cases op with
  | updateContent uri symbols => exact h.updateContent uri symbols
  | removeContent uri => exact h.removeContent uri
  | remove uri => exact (h.removeContent uri).removeReferences uri
  | updateReferences d => exact h.updateReferences d
  | removeReferences uri => exact h.removeReferences uri
  | allElements type => exact h.allElements type

theorem made_carriedOut (types : TypeGraph) (history : List Operation) :
    (carriedOut types .empty history).Made types := by
  induction history using List.reverseRecOn with
  | nil => exact .empty
  | append_singleton history op ih =>
    rw [carriedOut_concat]
    exact ih.carryOut op

/-- **An operation keeps the exports listed.** -/
theorem Listing.carryOut (h : Listing history x.exports) (op : Operation) :
    Listing (history ++ [op]) (x.carryOut types op).2.exports := by
  cases op with
  | updateContent uri symbols => exact h.update uri symbols
  | removeContent uri =>
    exact h.drop (.inl rfl) (x.keys_exports_removeContent uri) (x.get?_removeContent uri)
  | remove uri =>
    exact h.drop (.inr rfl) (x.keys_exports_removeContent uri) (x.get?_removeContent uri)
  | updateReferences d =>
    have hexports := x.exports_updateReferences d
    exact hexports.symm ▸ h.other (by simp [Operation.Drops]) (by simp [Operation.Sets])
  | removeReferences uri =>
    exact h.other (by simp [Operation.Drops]) (by simp [Operation.Sets])
  | allElements type =>
    have hexports := exports_allElements types x type
    exact hexports.symm ▸ h.other (by simp [Operation.Drops]) (by simp [Operation.Sets])

/-- **The exports of an index are those its history lists.** -/
theorem listing_carriedOut (types : TypeGraph) (history : List Operation) :
    Listing history (carriedOut types .empty history).exports := by
  induction history using List.reverseRecOn with
  | nil => exact Listing.nil
  | append_singleton history op ih =>
    rw [carriedOut_concat]
    exact ih.carryOut op

end Run

/-- **No answer is out of date.** When the exports of all documents are asked for,
or those of a type, the operations before have one listing, and its exports of
that type are the answer. -/
theorem answers_current (types : TypeGraph) {history : List Operation} {i : ℕ}
    {type : Option String} (hask : history[i]? = some (.allElements type)) :
    ∃ table, Listing (history.take i) table ∧
      (∀ table', Listing (history.take i) table' → table' = table) ∧
      (answers types .empty history)[i]? = some (some (table.values.flatten.filter
        fun s => type.all (types.isSubtype s.typeName))) := by
  have hlisting := listing_carriedOut types (history.take i)
  refine ⟨_, hlisting, fun _ => hlisting.unique, ?_⟩
  rw [getElem?_answers, hask, Option.map_some, Index.carryOut,
    (made_carriedOut types (history.take i)).allElements_eq, elements]

namespace Returning

/-- A type above another. -/
def types : TypeGraph := ⟨["Entity", "Type"], [("Entity", ["Type"])], []⟩

def first : Uri := ⟨"file", some .blank, "/w/a", ""⟩
def second : Uri := ⟨"file", some .blank, "/w/b", ""⟩

def entity (uri : Uri) (version : ℕ) : Symbol := ⟨"E", "Entity", uri, version, ⟨1⟩, "/e@0", none⟩
def package (uri : Uri) : Symbol := ⟨"P", "Package", uri, 1, ⟨2⟩, "/e@1", none⟩

/-- The first document goes and comes back. The types are asked for in between. -/
def history : List Operation :=
  [.updateContent first [entity first 1, package first], .allElements (some "Type"),
    .updateContent second [entity second 1], .allElements (some "Type"), .remove first,
    .updateContent first [package first, entity first 2], .allElements (some "Type")]

end Returning

/-- A document that went and came back comes last. -/
theorem answers_current_returning :
    Returning.history[6]? = some (.allElements (some "Type")) ∧
    (answers Returning.types .empty Returning.history)[3]? = some (some
      [Returning.entity Returning.first 1, Returning.entity Returning.second 1]) ∧
    (answers Returning.types .empty Returning.history)[6]? = some (some
      [Returning.entity Returning.second 1, Returning.entity Returning.first 2]) := by
  have hask : Returning.history[6]? = some (.allElements (some "Type")) := rfl
  obtain ⟨table, hlisting, -, hanswer⟩ := answers_current Returning.types hask
  obtain rfl := (listing_carriedOut Returning.types _).unique hlisting
  exact ⟨hask, by decide, hanswer.trans (by decide)⟩

end Index

end Workbench
