/-!
# Maps in insertion order

A map as the list of its entries in the order their keys were first
inserted. Replacing a value keeps its place; erasing a key and inserting it
again moves it to the end.
-/

namespace Workbench

/-- A map whose entries keep the order in which their keys came. -/
structure OrderedMap (κ α : Type) where
  entries : List (κ × α)
deriving DecidableEq, Repr, Inhabited

namespace OrderedMap

variable {κ α β : Type} [BEq κ]

/-- The map without entries. -/
def empty : OrderedMap κ α := ⟨[]⟩

/-- The keys, in order. -/
def keys (m : OrderedMap κ α) : List κ := m.entries.map Prod.fst

/-- The values, in the order of their keys. -/
def values (m : OrderedMap κ α) : List α := m.entries.map Prod.snd

/-- The number of entries. -/
def size (m : OrderedMap κ α) : Nat := m.entries.length

/-- The value of a key. -/
def get? (m : OrderedMap κ α) (k : κ) : Option α := m.entries.lookup k

/-- Whether the map has the key. -/
def contains (m : OrderedMap κ α) (k : κ) : Bool := m.entries.any (·.1 == k)

/-- Puts a value into a list of entries. -/
def insertInto (k : κ) (v : α) : List (κ × α) → List (κ × α)
  | [] => [(k, v)]
  | (k', v') :: rest => if k == k' then (k', v) :: rest else (k', v') :: insertInto k v rest

/-- **Gives a key a value**, in its place if the key is there, at the end if
not. -/
def insert (m : OrderedMap κ α) (k : κ) (v : α) : OrderedMap κ α := ⟨insertInto k v m.entries⟩

/-- Removes a key; the others keep their order. -/
def erase (m : OrderedMap κ α) (k : κ) : OrderedMap κ α := ⟨m.entries.filter (!·.1 == k)⟩

/-- Changes the value of a key that is there. -/
def modify (m : OrderedMap κ α) (k : κ) (f : α → α) : OrderedMap κ α :=
  ⟨m.entries.map fun (k', v) => if k' == k then (k', f v) else (k', v)⟩

/-- Changes every value. -/
def mapValues (m : OrderedMap κ α) (f : κ → α → β) : OrderedMap κ β :=
  ⟨m.entries.map fun (k, v) => (k, f k v)⟩

@[simp] theorem get?_empty (k : κ) : (empty : OrderedMap κ α).get? k = none := rfl

/-- The value just given to a key is found under it. -/
theorem get?_insert_self [LawfulBEq κ] (m : OrderedMap κ α) (k : κ) (v : α) :
    (m.insert k v).get? k = some v := by
  simp only [get?, insert]
  induction m.entries with
  | nil => simp [insertInto]
  | cons e rest ih =>
    obtain ⟨k', v'⟩ := e
    by_cases h : k = k'
    · subst h; simp [insertInto]
    · have hb : (k == k') = false := by simp [h]
      simp [insertInto, hb, List.lookup_cons, ih]

/-- Other keys keep their values. -/
theorem get?_insert_of_ne [LawfulBEq κ] (m : OrderedMap κ α) {k k' : κ} (v : α) (h : k' ≠ k) :
    (m.insert k v).get? k' = m.get? k' := by
  simp only [get?, insert]
  induction m.entries with
  | nil =>
    have hb : (k' == k) = false := by simp [h]
    simp [insertInto, List.lookup_cons, hb]
  | cons e rest ih =>
    obtain ⟨k'', v''⟩ := e
    by_cases hk : k = k''
    · subst hk
      have hb : (k' == k) = false := by simp [h]
      simp [insertInto, List.lookup_cons, hb]
    · have hb : (k == k'') = false := by simp [hk]
      simp only [insertInto, hb, Bool.false_eq_true, if_false, List.lookup_cons]
      split <;> simp_all

end OrderedMap

end Workbench
