import Workbench.OrderedMap
import Mathlib.Data.List.Nodup
/-!
# Entries of maps in insertion order

Giving a key a value replaces the value of its entry, or adds an entry at
the end. Everything that is shown about the entries after an insertion
follows from these two cases. What is found under a key is then an equation
for each operation.
-/

namespace Workbench

namespace OrderedMap

variable {κ α : Type} [BEq κ] [LawfulBEq κ] {k k' : κ} {v : α} {es : List (κ × α)}

/-- A new key comes last. -/
theorem insertInto_of_not_mem (h : k ∉ es.map Prod.fst) : insertInto k v es = es ++ [(k, v)] := by
  induction es with
  | nil => rfl
  | cons e es ih =>
    rw [List.map_cons, List.mem_cons, not_or] at h
    obtain ⟨k', v'⟩ := e
    rw [insertInto, if_neg (by simpa using h.1), ih h.2]
    rfl

/-- **What an insertion does to the entries**: it replaces one, or adds one
at the end. -/
theorem insert_cases (m : OrderedMap κ α) (k : κ) (v : α) :
    (∃ pre v₀ post, m.entries = pre ++ (k, v₀) :: post ∧ m.get? k = some v₀ ∧
      (m.insert k v).entries = pre ++ (k, v) :: post) ∨
    (k ∉ m.keys ∧ m.get? k = none ∧ (m.insert k v).entries = m.entries ++ [(k, v)]) := by
  obtain ⟨es⟩ := m
  simp only [get?, insert, keys]
  induction es with
  | nil => exact Or.inr ⟨List.not_mem_nil, rfl, rfl⟩
  | cons e es ih =>
    obtain ⟨k', v'⟩ := e
    by_cases hk : k = k'
    · subst hk
      exact Or.inl ⟨[], v', es, rfl, by simp, by simp [insertInto]⟩
    · have hb : (k == k') = false := beq_false_of_ne hk
      rw [List.lookup_cons, insertInto]
      simp only [hb, Bool.false_eq_true, if_false]
      rcases ih with ⟨pre, v₀, post, hes, hget, hins⟩ | ⟨hnot, hget, hins⟩
      · exact Or.inl ⟨(k', v') :: pre, v₀, post, by rw [hes]; rfl, hget, by rw [hins]; rfl⟩
      · refine Or.inr ⟨?_, hget, by rw [hins]; rfl⟩
        rw [List.map_cons, List.mem_cons, not_or]
        exact ⟨hk, hnot⟩

/-- A value that is found is in an entry of its key. -/
theorem mem_of_get? {m : OrderedMap κ α} (h : m.get? k = some v) : (k, v) ∈ m.entries := by
  rcases insert_cases m k v with ⟨pre, v₀, post, hes, hget, -⟩ | ⟨-, hget, -⟩
  · rw [h, Option.some.injEq] at hget
    subst hget
    rw [hes]
    exact List.mem_append_right _ List.mem_cons_self
  · rw [h] at hget
    cases hget

/-- What is under a key is the default, or the value of an entry. -/
theorem getD_get?_cases (m : OrderedMap κ α) (k : κ) (default : α) :
    (m.get? k).getD default = default ∨ (k, (m.get? k).getD default) ∈ m.entries := by
  cases hget : m.get? k with
  | none => exact Or.inl rfl
  | some v => exact Or.inr (mem_of_get? hget)

theorem nodup_keys_insert {m : OrderedMap κ α} (h : m.keys.Nodup) (k : κ) (v : α) :
    (m.insert k v).keys.Nodup := by
  rcases insert_cases m k v with ⟨pre, v₀, post, hes, -, hins⟩ | ⟨hnot, -, hins⟩
  · rw [keys, hes] at h
    rw [keys, hins]
    simpa using h
  · rw [keys, hins, List.map_append, List.map_cons, List.map_nil, List.nodup_append]
    refine ⟨h, List.nodup_singleton _, ?_⟩
    rintro a ha b hb rfl
    rw [List.mem_singleton.mp hb] at ha
    exact hnot ha

/-- An entry after an insertion is the new one, or was there under another
key or with an equal one replaced. -/
theorem mem_insert {m : OrderedMap κ α} {e : κ × α} (h : e ∈ (m.insert k v).entries) :
    e = (k, v) ∨ e ∈ m.entries := by
  rcases insert_cases m k v with ⟨pre, v₀, post, hes, -, hins⟩ | ⟨-, -, hins⟩
  · rw [hins, List.mem_append, List.mem_cons] at h
    rw [hes, List.mem_append, List.mem_cons]
    rcases h with h | h | h
    · exact Or.inr (Or.inl h)
    · exact Or.inl h
    · exact Or.inr (Or.inr (Or.inr h))
  · rw [hins, List.mem_append, List.mem_singleton] at h
    exact h.symm

/-! ## What the values hold together -/

variable {β : Type} {m : OrderedMap κ α} {f : α → List β}

/-- A value that holds what the old one held changes nothing. -/
theorem flatMap_values_insert (h : f v = ((m.get? k).map f).getD []) :
    (m.insert k v).values.flatMap f = m.values.flatMap f := by
  rw [values, values]
  rcases insert_cases m k v with ⟨pre, v₀, post, hes, hget, hins⟩ | ⟨-, hget, hins⟩
  · rw [hget, Option.map_some, Option.getD_some] at h
    rw [hins, hes]
    simp only [List.map_append, List.map_cons, List.flatMap_append, List.flatMap_cons, h]
  · rw [hget, Option.map_none, Option.getD_none] at h
    rw [hins]
    simp only [List.map_append, List.map_cons, List.map_nil, List.flatMap_append,
      List.flatMap_cons, List.flatMap_nil, h, List.append_nil]

/-- A new value comes in addition to what is left of the others. -/
theorem flatMap_values_insert_perm (m : OrderedMap κ α) (k : κ) (v : α) (f : α → List β) :
    ∃ rest, rest.Sublist (m.values.flatMap f) ∧
      ((m.insert k v).values.flatMap f).Perm (rest ++ f v) := by
  rw [values, values]
  rcases insert_cases m k v with ⟨pre, v₀, post, hes, -, hins⟩ | ⟨-, -, hins⟩
  · refine ⟨(pre.map Prod.snd).flatMap f ++ (post.map Prod.snd).flatMap f, ?_, ?_⟩
    · rw [hes, List.map_append, List.map_cons, List.flatMap_append, List.flatMap_cons]
      exact (List.Sublist.refl _).append (List.sublist_append_right _ _)
    · rw [hins, List.map_append, List.map_cons, List.flatMap_append, List.flatMap_cons,
        List.append_assoc]
      exact (List.Perm.refl _).append List.perm_append_comm
  · refine ⟨(m.entries.map Prod.snd).flatMap f, List.Sublist.refl _, ?_⟩
    rw [hins, List.map_append, List.flatMap_append, List.map_singleton, List.flatMap_singleton]

/-- If only one key holds anything, its value holds all there is. -/
theorem flatMap_values_of_only (hnodup : m.keys.Nodup)
    (honly : ∀ name v, (name, v) ∈ m.entries → f v ≠ [] → name = k) :
    m.values.flatMap f = ((m.get? k).map f).getD [] := by
  have hnil : ∀ es : List (κ × α), (∀ e ∈ es, e ∈ m.entries ∧ e.1 ≠ k) →
      (es.map Prod.snd).flatMap f = [] := by
    intro es hes
    rw [List.flatMap_map, List.flatMap_eq_nil_iff]
    intro e he
    by_contra hne
    exact (hes e he).2 (honly e.1 e.2 (hes e he).1 hne)
  cases hget : m.get? k with
  | none =>
    rw [values, Option.map_none, Option.getD_none]
    refine hnil m.entries fun e he => ⟨he, ?_⟩
    rintro rfl
    rcases insert_cases m e.1 e.2 with ⟨_, _, _, -, hsome, -⟩ | ⟨hnot, -, -⟩
    · rw [hget] at hsome
      cases hsome
    · exact hnot (List.mem_map_of_mem he)
  | some v₀ =>
    rcases insert_cases m k v₀ with ⟨pre, v₁, post, hes, hsome, -⟩ | ⟨-, hnone, -⟩
    · rw [hget, Option.some.injEq] at hsome
      subst hsome
      rw [keys, hes, List.map_append, List.map_cons, List.nodup_append, List.nodup_cons] at hnodup
      obtain ⟨-, ⟨hpost, -⟩, hpre⟩ := hnodup
      -- keys are different, so the key is neither before nor after its entry
      have hbefore : (pre.map Prod.snd).flatMap f = [] := by
        refine hnil pre fun e he => ⟨by rw [hes]; exact List.mem_append_left _ he, ?_⟩
        exact hpre e.1 (List.mem_map_of_mem he) k List.mem_cons_self
      have hafter : (post.map Prod.snd).flatMap f = [] := by
        refine hnil post fun e he => ⟨?_, ?_⟩
        · rw [hes]
          exact List.mem_append_right _ (List.mem_cons_of_mem _ he)
        · intro heq
          exact hpost (List.mem_map.mpr ⟨e, he, heq⟩)
      rw [values, hes]
      simp only [List.map_append, List.map_cons, List.flatMap_append, List.flatMap_cons, hbefore,
        hafter, List.nil_append, List.append_nil, Option.map_some, Option.getD_some]
    · rw [hget] at hnone
      cases hnone

/-! ## Keys and what is found under them -/

omit [BEq κ] [LawfulBEq κ] in
/-- A map is its entries. -/
theorem ext_entries {m m' : OrderedMap κ α} (h : m.entries = m'.entries) : m = m' := by
  cases m
  cases m'
  rw [mk.injEq]
  exact h

theorem get?_eq_none_iff : m.get? k = none ↔ k ∉ m.keys := by
  rw [get?, keys, List.lookup_eq_none_iff, List.mem_map, not_exists]
  constructor
  · rintro h e ⟨he, rfl⟩
    simpa using h e he
  · intro h e he
    simp only [bne_iff_ne, ne_eq]
    rintro rfl
    exact h e ⟨he, rfl⟩

theorem contains_iff : m.contains k = true ↔ ∃ v, m.get? k = some v := by
  rw [← Option.isSome_iff_exists, Option.isSome_iff_ne_none, ne_eq, get?_eq_none_iff, not_not,
    contains, keys, List.any_eq_true, List.mem_map]
  simp only [beq_iff_eq]

theorem mem_keys_iff : k ∈ m.keys ↔ ∃ v, m.get? k = some v := by
  rw [← contains_iff, contains, keys, List.any_eq_true, List.mem_map]
  simp only [beq_iff_eq]

/-- Maps of the same keys have something under the same ones. -/
theorem exists_of_keys_eq {m m' : OrderedMap κ α} {v : α} (hkeys : m'.keys = m.keys)
    (h : m.get? k = some v) : ∃ v', m'.get? k = some v' := by
  rw [← mem_keys_iff, hkeys, mem_keys_iff]
  exact ⟨v, h⟩

theorem get?_insert [DecidableEq κ] (m : OrderedMap κ α) (k k' : κ) (v : α) :
    (m.insert k v).get? k' = if k' = k then some v else m.get? k' := by
  split
  next h => rw [h, get?_insert_self]
  next h => exact get?_insert_of_ne m v h

/-- A value given to a key that is there leaves the keys alone. -/
theorem keys_insert_of_get? {v₀ : α} (h : m.get? k = some v₀) (v : α) :
    (m.insert k v).keys = m.keys := by
  rcases insert_cases m k v with ⟨pre, v₁, post, hes, -, hins⟩ | ⟨-, hnone, -⟩
  · rw [keys, keys, hins, hes]
    simp
  · rw [h] at hnone
    cases hnone

/-- A value given to a new key puts the key behind the others. -/
theorem keys_insert_of_not_mem (h : k ∉ m.keys) (v : α) : (m.insert k v).keys = m.keys ++ [k] := by
  rcases insert_cases m k v with ⟨pre, v₀, post, hes, -, -⟩ | ⟨-, -, hins⟩
  · refine absurd ?_ h
    rw [keys, hes]
    simp
  · rw [keys, keys, hins]
    simp

/-- A key that is given the value it has. -/
theorem insert_of_get? (h : m.get? k = some v) : m.insert k v = m := by
  apply ext_entries
  rcases insert_cases m k v with ⟨pre, v₁, post, hes, hget, hins⟩ | ⟨-, hnone, -⟩
  · rw [h, Option.some.injEq] at hget
    rw [hins, hes, hget]
  · rw [h] at hnone
    cases hnone

omit [LawfulBEq κ] in
theorem keys_modify (m : OrderedMap κ α) (k : κ) (f : α → α) : (m.modify k f).keys = m.keys := by
  rw [keys, keys, modify, List.map_map]
  apply List.map_congr_left
  rintro ⟨k', v⟩ -
  simp only [Function.comp_apply]
  by_cases h : (k' == k) = true
  · rw [if_pos h]
  · rw [if_neg h]

theorem get?_modify [DecidableEq κ] (m : OrderedMap κ α) (k k' : κ) (f : α → α) :
    (m.modify k f).get? k' = if k' = k then (m.get? k).map f else m.get? k' := by
  simp only [get?, modify]
  induction m.entries with
  | nil => simp
  | cons e rest ih =>
    obtain ⟨k₀, v⟩ := e
    rw [List.map_cons]
    by_cases h₀ : k₀ = k
    · subst h₀
      by_cases hk : k' = k₀
      · subst hk
        simp
      · rw [if_pos (beq_self_eq_true k₀), List.lookup_cons, beq_false_of_ne hk, ih, if_neg hk,
          if_neg hk, List.lookup_cons, beq_false_of_ne hk]
    · have hb : (k == k₀) = false := beq_false_of_ne (Ne.symm h₀)
      rw [if_neg (by simpa using h₀), List.lookup_cons, List.lookup_cons, List.lookup_cons, hb]
      by_cases hk : k' = k₀
      · subst hk
        simp [h₀]
      · rw [beq_false_of_ne hk, ih]

omit [LawfulBEq κ] in
theorem modify_modify (m : OrderedMap κ α) (k : κ) (f g : α → α) :
    (m.modify k f).modify k g = m.modify k (g ∘ f) := by
  apply ext_entries
  rw [modify, modify, modify, List.map_map]
  apply List.map_congr_left
  rintro ⟨k', v⟩ -
  simp only [Function.comp_apply]
  by_cases h : (k' == k) = true
  · rw [if_pos h, if_pos h, if_pos h]
  · rw [if_neg h, if_neg h, if_neg h]

omit [LawfulBEq κ] in
theorem keys_erase (m : OrderedMap κ α) (k : κ) : (m.erase k).keys = m.keys.filter (!· == k) := by
  rw [keys, keys, erase, List.filter_map]
  rfl

theorem get?_erase [DecidableEq κ] (m : OrderedMap κ α) (k k' : κ) :
    (m.erase k).get? k' = if k' = k then none else m.get? k' := by
  simp only [get?, erase]
  induction m.entries with
  | nil => simp
  | cons e rest ih =>
    obtain ⟨k₀, v⟩ := e
    by_cases h₀ : k₀ = k
    · subst h₀
      rw [List.filter_cons_of_neg (by simp), ih]
      by_cases hk : k' = k₀
      · rw [if_pos hk, if_pos hk]
      · rw [if_neg hk, if_neg hk, List.lookup_cons, beq_false_of_ne hk]
    · rw [List.filter_cons_of_pos (by simp [h₀]), List.lookup_cons, List.lookup_cons, ih]
      by_cases hk : k' = k₀
      · subst hk
        simp [h₀]
      · rw [beq_false_of_ne hk]

/-- With each key once, an entry is what is found under its key. -/
theorem get?_of_mem (hnodup : m.keys.Nodup) (h : (k, v) ∈ m.entries) : m.get? k = some v := by
  rcases insert_cases m k v with ⟨pre, v₀, post, hes, hget, -⟩ | ⟨hnot, -, -⟩
  · rw [keys, hes, List.map_append, List.map_cons, List.nodup_append, List.nodup_cons] at hnodup
    obtain ⟨-, ⟨hpost, -⟩, hpre⟩ := hnodup
    rw [hes, List.mem_append, List.mem_cons] at h
    rcases h with h | h | h
    · exact absurd rfl (hpre k (List.mem_map_of_mem h) k List.mem_cons_self)
    · cases h
      exact hget
    · exact absurd (List.mem_map_of_mem h) hpost
  · exact absurd (List.mem_map_of_mem h) hnot

/-- Changing a value into itself changes nothing. -/
theorem modify_of_get? {f : α → α} (hnodup : m.keys.Nodup) (h : ∀ v, m.get? k = some v → f v = v) :
    m.modify k f = m := by
  apply ext_entries
  have hsame : ∀ e ∈ m.entries, (if e.1 == k then (e.1, f e.2) else (e.1, e.2)) = e := by
    rintro ⟨k', v⟩ he
    split
    next heq =>
      obtain rfl := beq_iff_eq.mp heq
      rw [h v (get?_of_mem hnodup he)]
    next => rfl
  rw [modify]
  exact (List.map_congr_left hsame).trans (List.map_id _)

end OrderedMap

end Workbench
