import Mathlib.Algebra.GroupWithZero.Nat
import Mathlib.Data.List.SplitBy
import Workbench.Pattern.Extent
/-!
# The size of a set

What a set adds to the automaton of a pattern is bounded by the number of its
ranges. A range has only a few rows of bytes: at each place it is cut at its
start and at its end, so there are two rows for each byte and one between
(`length_digitRows`). Forwards every state of a row but the first is counted
once at most (`internRows_size`), backwards every byte of a row is.
-/

namespace Workbench

namespace Text

/-! ## Rows -/

theorem blockSize_pos : ∀ k, 0 < blockSize k
  | 0 => Nat.one_pos
  | k + 1 => Nat.mul_pos (by decide) (blockSize_pos k)

theorem blockSize_sub_one_mod (k : Nat) :
    (blockSize (k + 1) - 1) % blockSize k = blockSize k - 1 := by
  have hpos := blockSize_pos k
  have heq : blockSize (k + 1) - 1 = (blockSize k - 1) + blockSize k * 63 := by
    rw [blockSize]
    omega
  rw [heq, Nat.add_mul_mod_self_left, Nat.mod_eq_of_lt (by omega)]

theorem length_of_mem_digitRows : ∀ (k lo hi : Nat), ∀ row ∈ digitRows k lo hi, row.length = k + 1
  | 0, lo, hi, row, h => by
    rw [digitRows, List.mem_singleton] at h
    rw [h]
    rfl
  | k + 1, lo, hi, row, h => by
    have hled :
        ∀ d lo hi, row ∈ (digitRows k lo hi).map ((d, d) :: ·) → row.length = k + 1 + 1 := by
      intro d lo hi hrow
      obtain ⟨rest, hrest, rfl⟩ := List.mem_map.mp hrow
      rw [List.length_cons, length_of_mem_digitRows k lo hi rest hrest]
    rw [digitRows] at h
    dsimp only at h
    split at h
    · exact hled _ _ _ h
    · simp only [List.mem_append, List.mem_ite_nil_right, List.mem_singleton] at h
      rcases h with (⟨-, h⟩ | ⟨-, rfl⟩) | ⟨-, h⟩
      · exact hled _ _ _ h
      · simp
      · exact hled _ _ _ h

theorem length_ite_nil_le {α : Type} {c : Prop} [Decidable c] {xs : List α} {n : Nat}
    (h : xs.length ≤ n) : (if c then xs else []).length ≤ n := by
  split
  · exact h
  · exact Nat.zero_le n

/-- A range inside of one block is cut there, and any other where its first
block begins and its last one ends. -/
theorem length_digitRows_succ (k lo hi : Nat) :
    (digitRows (k + 1) lo hi).length ≤
        (digitRows k (lo % blockSize (k + 1)) (hi % blockSize (k + 1))).length ∨
      (digitRows (k + 1) lo hi).length ≤
        (if lo % blockSize (k + 1) ≠ 0 then
          (digitRows k (lo % blockSize (k + 1)) (blockSize (k + 1) - 1)).length else 0) + 1 +
        (if hi % blockSize (k + 1) ≠ blockSize (k + 1) - 1 then
          (digitRows k 0 (hi % blockSize (k + 1))).length else 0) := by
  rw [digitRows]
  dsimp only
  split
  · left
    rw [List.length_map]
  · right
    rw [List.length_append, List.length_append]
    refine Nat.add_le_add (Nat.add_le_add ?_ (length_ite_nil_le (Nat.le_refl 1))) ?_ <;>
    split <;> simp

/-- A range that ends with a block is only cut at its start. -/
theorem length_digitRows_of_ends : ∀ (k lo hi : Nat), hi % blockSize k = blockSize k - 1 →
    (digitRows k lo hi).length ≤ k + 1
  | 0, lo, hi, _ => Nat.le_refl 1
  | k + 1, lo, hi, h => by
    have hinner : ∀ lo, (digitRows k lo (blockSize (k + 1) - 1)).length ≤ k + 1 := fun lo =>
      length_digitRows_of_ends k lo _ (blockSize_sub_one_mod k)
    rcases length_digitRows_succ k lo hi with hinside | hcut
    · rw [h] at hinside
      exact Nat.le_succ_of_le (hinside.trans (hinner _))
    · have hopens := hinner (lo % blockSize (k + 1))
      rw [if_neg (not_not_intro h)] at hcut
      split at hcut <;> omega

/-- A range that starts with a block is only cut at its end. -/
theorem length_digitRows_of_starts : ∀ (k lo hi : Nat), lo % blockSize k = 0 →
    (digitRows k lo hi).length ≤ k + 1
  | 0, lo, hi, _ => Nat.le_refl 1
  | k + 1, lo, hi, h => by
    have hinner : ∀ hi, (digitRows k 0 hi).length ≤ k + 1 := fun hi =>
      length_digitRows_of_starts k 0 hi (Nat.zero_mod _)
    rcases length_digitRows_succ k lo hi with hinside | hcut
    · rw [h] at hinside
      exact Nat.le_succ_of_le (hinside.trans (hinner _))
    · have hcloses := hinner (hi % blockSize (k + 1))
      rw [if_neg (not_not_intro h)] at hcut
      split at hcut <;> omega

/-- **A range has two rows for each byte at most, and one between.** -/
theorem length_digitRows : ∀ k lo hi : Nat, (digitRows k lo hi).length ≤ 2 * k + 1
  | 0, lo, hi => Nat.le_refl 1
  | k + 1, lo, hi => by
    rcases length_digitRows_succ k lo hi with hinside | hcut
    · have hinner := length_digitRows k (lo % blockSize (k + 1)) (hi % blockSize (k + 1))
      omega
    · have hopens := length_digitRows_of_ends k (lo % blockSize (k + 1)) (blockSize (k + 1) - 1)
        (blockSize_sub_one_mod k)
      have hcloses := length_digitRows_of_starts k 0 (hi % blockSize (k + 1)) (Nat.zero_mod _)
      split at hcut <;> split at hcut <;> omega

/-- The bytes of rows. -/
def rowBytes (rows : List (List (Nat × Nat))) : Nat := (rows.map List.length).sum

theorem rowBytes_append (rows rows' : List (List (Nat × Nat))) :
    rowBytes (rows ++ rows') = rowBytes rows + rowBytes rows' := by
  rw [rowBytes, List.map_append, List.sum_append, rowBytes, rowBytes]

theorem rowBytes_of_length {n : Nat} : ∀ {rows : List (List (Nat × Nat))},
    (∀ row ∈ rows, row.length = n) → rowBytes rows = n * rows.length
  | [], _ => by simp [rowBytes]
  | row :: rows, h => by
    have hrows := rowBytes_of_length fun r hr => h r (List.mem_cons_of_mem _ hr)
    have hrow := h row List.mem_cons_self
    rw [rowBytes, List.map_cons, List.sum_cons, ← rowBytes, hrows, hrow, List.length_cons,
      Nat.mul_succ, Nat.add_comm]

theorem length_markRow (mark : Nat) (row : List (Nat × Nat)) :
    (markRow mark row).length = row.length := by
  cases row with
  | nil => rfl
  | cons r rest => simp [markRow]

/-- **A range has 21 rows of bytes at most**, which have 65 bytes at most. -/
theorem byteRowsOf_bound (lo hi : Nat) :
    (byteRowsOf lo hi).length ≤ 21 ∧ rowBytes (byteRowsOf lo hi) ≤ 65 ∧
      rowBytes (byteRowsOf lo hi) ≤ (byteRowsOf lo hi).length + 44 := by
  have hform : ∀ (first last k mark : Nat) (rows : List (List (Nat × Nat))),
      rows = (if max lo first ≤ min hi last then
        (digitRows k (max lo first) (min hi last)).map (markRow mark) else []) →
      rows.length ≤ 2 * k + 1 ∧ rowBytes rows = (k + 1) * rows.length := by
    rintro first last k mark rows rfl
    split
    · rw [List.length_map]
      refine ⟨length_digitRows k _ _, ?_⟩
      rw [rowBytes_of_length (n := k + 1) fun row hrow => ?_, List.length_map]
      obtain ⟨digits, hdigits, rfl⟩ := List.mem_map.mp hrow
      rw [length_markRow, length_of_mem_digitRows k _ _ digits hdigits]
    · simp [rowBytes]
  have h₀ := hform 0 0x7F 0 0 _ rfl
  have h₁ := hform 0x80 0x7FF 1 0xC0 _ rfl
  have h₂ := hform 0x800 0xD7FF 2 0xE0 _ rfl
  have h₃ := hform 0xE000 0xFFFF 2 0xE0 _ rfl
  have h₄ := hform 0x10000 0x10FFFF 3 0xF0 _ rfl
  simp only [byteRowsOf, byteForms, List.flatMap_cons, List.flatMap_nil, List.append_nil,
    List.length_append, rowBytes_append]
  omega

end Text

open Text

/-- **The rows of a set** are bounded by the number of its ranges. -/
theorem CharSet.byteRows_bound (s : CharSet) :
    s.byteRows.length ≤ 21 * s.ranges.length ∧ rowBytes s.byteRows ≤ 65 * s.ranges.length ∧
      rowBytes s.byteRows ≤ s.byteRows.length + 44 * s.ranges.length := by
  rw [CharSet.byteRows]
  induction s.ranges with
  | nil => simp [rowBytes]
  | cons r rest ih =>
    have hrow := byteRowsOf_bound r.1 r.2
    rw [List.flatMap_cons, List.length_append, rowBytes_append, List.length_cons]
    omega

theorem CharSet.ne_nil_of_mem_byteRows {s : CharSet} : ∀ row ∈ s.byteRows, row ≠ [] := by
  intro row h
  obtain ⟨r, -, hrow⟩ := List.mem_flatMap.mp h
  obtain ⟨⟨first, last, k, mark⟩, -, hrow⟩ := List.mem_flatMap.mp hrow
  dsimp only at hrow
  rw [List.mem_ite_nil_right] at hrow
  obtain ⟨digits, hdigits, rfl⟩ := List.mem_map.mp hrow.2
  rw [← List.length_pos_iff, length_markRow, length_of_mem_digitRows k _ _ digits hdigits]
  exact Nat.succ_pos k

namespace Extent

/-! ## Forwards -/

/-- The entries of the states so far. -/
def entries (nodes : Array Node) : Nat := nodes.foldl (fun n node => n + node.length) 0

theorem entries_push (nodes : Array Node) (node : Node) :
    entries (nodes.push node) = entries nodes + node.length := by
  simp [entries]

/-- The rows without their first bytes have one byte less each. -/
theorem rowBytes_map_tail : ∀ {rows : List (List (Nat × Nat))}, (∀ row ∈ rows, row ≠ []) →
    rowBytes (rows.map List.tail) + rows.length = rowBytes rows
  | [], _ => by simp [rowBytes]
  | row :: rows, h => by
    have hrows := rowBytes_map_tail fun r hr => h r (List.mem_cons_of_mem _ hr)
    have hrow := List.length_pos_iff.mpr (h row List.mem_cons_self)
    simp only [rowBytes, List.map_cons, List.sum_cons, List.length_cons, List.length_tail] at hrows ⊢
    omega

theorem rowBytes_filter (rows : List (List (Nat × Nat))) :
    rowBytes (rows.filter (!·.isEmpty)) = rowBytes rows := by
  induction rows with
  | nil => rfl
  | cons row rows ih =>
    cases row with
    | nil => simpa [rowBytes] using ih
    | cons r rest =>
      rw [List.filter_cons_of_pos (by simp)]
      simp only [rowBytes, List.map_cons, List.sum_cons] at ih ⊢
      rw [ih]

theorem length_le_length_flatten {α : Type} : ∀ {groups : List (List α)}, (∀ g ∈ groups, g ≠ []) →
    groups.length ≤ groups.flatten.length
  | [], _ => Nat.le_refl 0
  | g :: groups, h => by
    have hgroups := length_le_length_flatten fun g hg => h g (List.mem_cons_of_mem _ hg)
    have hg := List.length_pos_iff.mpr (h g List.mem_cons_self)
    rw [List.length_cons, List.flatten_cons, List.length_append]
    omega

/-- A state gets an entry for each group of rows, and what each group adds to
the states and their entries is bounded by the rest of its rows. -/
theorem foldl_groups_bound {f : Node × Array Node → List (List (Nat × Nat)) → Node × Array Node}
    (hf : ∀ s group, (f s group).1.length = s.1.length + 1 ∧
      (f s group).2.size ≤ s.2.size + rowBytes (group.map List.tail) ∧
      entries (f s group).2 ≤ entries s.2 + rowBytes (group.map List.tail)) :
    ∀ (groups : List (List (List (Nat × Nat)))) (s : Node × Array Node),
      (groups.foldl f s).1.length = s.1.length + groups.length ∧
      (groups.foldl f s).2.size ≤ s.2.size + rowBytes (groups.flatten.map List.tail) ∧
      entries (groups.foldl f s).2 ≤ entries s.2 + rowBytes (groups.flatten.map List.tail)
  | [], s => by simp [rowBytes]
  | group :: groups, s => by
    obtain ⟨hlength, hsize, hentries⟩ := hf s group
    obtain ⟨hlength', hsize', hentries'⟩ := foldl_groups_bound hf groups (f s group)
    rw [List.foldl_cons, List.flatten_cons, List.map_append, rowBytes_append, List.length_cons]
    omega

/-- **Forwards a set has a state for each byte of its rows at most**, all
first bytes share one, and it has an entry for each byte at most. -/
theorem internRows_bound : ∀ (depth : Nat) (rows : List (List (Nat × Nat))) (nodes : Array Node),
    (internRows depth rows nodes).2.size ≤ nodes.size + rowBytes rows ∧
    (internRows depth rows nodes).2.size + (rows.filter (!·.isEmpty)).length ≤
      nodes.size + rowBytes rows + 1 ∧
    entries (internRows depth rows nodes).2 ≤ entries nodes + rowBytes rows
  | 0, rows, nodes => by
    have hfilter : (rows.filter (!·.isEmpty)).length ≤ rowBytes rows := by
      have hne : ∀ row ∈ rows.filter (!·.isEmpty), row ≠ [] := fun row hrow => by
        simpa using (List.mem_filter.mp hrow).2
      have htail := rowBytes_map_tail hne
      rw [rowBytes_filter] at htail
      omega
    simp only [internRows]
    omega
  | depth + 1, rows, nodes => by
    have hne : ∀ row ∈ rows.filter (!·.isEmpty), row ≠ [] := fun row hrow => by
      simpa using (List.mem_filter.mp hrow).2
    have htail := rowBytes_map_tail hne
    rw [rowBytes_filter] at htail
    rw [internRows]
    dsimp only
    generalize hrows : rows.filter (!·.isEmpty) = rows' at hne htail ⊢
    split
    · rename_i hempty
      rw [List.isEmpty_iff.mp hempty]
      simp
      omega
    · rename_i hsome
      have hpos : 0 < rows'.length := List.length_pos_iff.mpr fun hnil => hsome (by simp [hnil])
      -- no group is empty, so there are no more of them than rows
      have hgroups := @length_le_length_flatten _ (rows'.splitBy fun a b => a.head? == b.head?)
        fun g hg => List.ne_nil_of_mem_splitBy hg
      rw [List.flatten_splitBy] at hgroups
      obtain ⟨hlength, hsize, hentries⟩ := foldl_groups_bound
        (f := fun s group =>
          let interned := internRows depth (group.map List.tail) s.2
          (s.1 ++ [((group.head?.bind List.head?).getD (0, 0), interned.1)], interned.2))
        (fun s group => by
          obtain ⟨hsize, -, hentries⟩ := internRows_bound depth (group.map List.tail) s.2
          exact ⟨by simp, hsize, hentries⟩)
        (rows'.splitBy fun a b => a.head? == b.head?) ([], nodes)
      rw [List.flatten_splitBy] at hsize hentries
      generalize List.foldl _ _ _ = r at hlength hsize hentries ⊢
      obtain ⟨node, nodes'⟩ := r
      simp only [List.length_nil, Nat.zero_add] at hlength hsize hentries ⊢
      split
      · dsimp only
        omega
      · rw [Array.size_push, entries_push]
        omega

/-! ## Backwards -/

theorem states_allot_le (slot : Nat) (key : Nat × Nat × Nat) (slots : Slots) (states : Nat) :
    (allot slot key slots states).2.2 ≤ states + 1 := by
  rw [allot]
  split
  · split
    · exact Nat.le_succ states
    · exact Nat.le_refl _
  · exact Nat.le_refl _

theorem addByte_bound : ∀ (s : Nat × Slots × Nat) (r : Nat × Nat), (addByte s r).2.2 ≤ s.2.2 + 1
  | (_, slots, states), (_, _) => states_allot_le _ _ slots states

theorem addRow_bound (next : Nat) (row : List (Nat × Nat)) (s : Slots × Nat) :
    (addRow next row s).2 ≤ s.2 + row.length := by
  have hfold : ∀ (row : List (Nat × Nat)) (s : Nat × Slots × Nat),
      (row.foldl addByte s).2.2 ≤ s.2.2 + row.length := by
    intro row
    induction row with
    | nil => exact fun s => Nat.le_refl _
    | cons r row ih =>
      intro s
      have hr := addByte_bound s r
      have hrow := ih (addByte s r)
      rw [List.foldl_cons, List.length_cons]
      omega
  exact hfold row (next, s)

theorem foldl_addRow_bound (next : Nat) : ∀ (rows : List (List (Nat × Nat))) (s : Slots × Nat),
    (rows.foldl (fun s row => addRow next row s) s).2 ≤ s.2 + rowBytes rows
  | [], s => by simp [rowBytes]
  | row :: rows, s => by
    have hrow := addRow_bound next row s
    have hrows := foldl_addRow_bound next rows (addRow next row s)
    rw [List.foldl_cons, rowBytes, List.map_cons, List.sum_cons, ← rowBytes]
    omega

/-! ## Both directions -/

/-- What a set of so many ranges adds to a pattern, in bytes at most. -/
def setLimit (ranges : Nat) : Nat := 128 + 2164 * ranges

theorem bytes_add (e : Extent) (states lists : Nat) :
    (e.add states lists).bytes = e.bytes + 32 * states + lists := by
  simp only [add, bytes]
  omega

theorem bytes_addForwards (s : CharSet) (e : Extent) :
    (addForwards s.byteRows e).bytes ≤ e.bytes + setLimit s.ranges.length := by
  obtain ⟨hrows, hbytes, hshared⟩ := s.byteRows_bound
  have hfull : s.byteRows.filter (!·.isEmpty) = s.byteRows := List.filter_eq_self.mpr fun row hrow => by
    simpa using CharSet.ne_nil_of_mem_byteRows row hrow
  obtain ⟨-, hsize, hentries⟩ := internRows_bound 5 s.byteRows #[]
  rw [hfull, show (#[] : Array Node).size = 0 from rfl] at hsize
  rw [show entries #[] = 0 from rfl] at hentries
  rw [addForwards, bytes_add, setLimit, ← entries]
  omega

theorem bytes_addBackwards (s : CharSet) (e : Extent) :
    (addBackwards s.byteRows e).bytes ≤ e.bytes + setLimit s.ranges.length := by
  obtain ⟨hrows, hbytes, hshared⟩ := s.byteRows_bound
  have hstates := foldl_addRow_bound (e.states + 1) s.byteRows
    (Array.replicate 1000 none, e.states + 2)
  rw [addBackwards, setLimit]
  dsimp only [bytes] at hstates ⊢
  omega

/-- **A set adds to a pattern in proportion to the number of its ranges.** -/
theorem bytes_addSet (d : Direction) (s : CharSet) (e : Extent) :
    (addSet d s e).bytes ≤ e.bytes + setLimit s.ranges.length := by
  unfold addSet
  split
  · rename_i c _
    have := c.utf8Size_le_four
    rw [bytes_add, setLimit]
    omega
  · split
    · rw [bytes_add, setLimit]
      omega
    · cases d with
      | forwards => exact bytes_addForwards s e
      | backwards => exact bytes_addBackwards s e

theorem bytes_repeatedly {grow : Extent → Extent} {w : Nat}
    (h : ∀ e, (grow e).bytes ≤ e.bytes + w) : ∀ n e, (repeatedly grow n e).bytes ≤ e.bytes + n * w
  | 0, e => by simp [repeatedly]
  | n + 1, e => by
    have hround := h e
    have hrest := bytes_repeatedly h n (grow e)
    rw [repeatedly, Nat.succ_mul]
    split <;> omega

theorem bytes_rounds {d : Direction} {grow : Extent → Extent} {w : Nat}
    (h : ∀ e, (grow e).bytes ≤ e.bytes + w) (n : Nat) (e : Extent) :
    (rounds d grow n e).bytes ≤ e.bytes + n * w := by
  cases d with
  | forwards =>
    have honce := Nat.mul_le_mul_left n (h ⟨0, 0⟩)
    simp only [bytes, Nat.mul_add] at honce
    simp only [rounds, bytes_add]
    rw [Nat.mul_left_comm]
    omega
  | backwards => exact bytes_repeatedly h n e

end Extent

namespace Pattern

/-! ## Patterns -/

/-- Whether the pattern has no choice between words. -/
def wordless : Pattern → Bool
  | seq p q => p.wordless && q.wordless
  | alt p q => (Extent.words? (alt p q).choices).isNone && p.wordless && q.wordless
  | repeated _ _ _ p => p.wordless
  | group _ p => p.wordless
  | _ => true

/-- The bytes of a pattern at most, by the ranges of its sets. -/
def weight : Pattern → Nat
  | empty => 32
  | char set => Extent.setLimit set.ranges.length
  | assertion _ => 32
  | seq p q => p.weight + q.weight
  | alt p q => p.weight + q.weight + 136
  | repeated least most _ p => (least + most.getD 0 + 1) * (p.weight + 40) + 112
  | group _ p => p.weight + 64

/-- A choice adds two states and four bytes of its own to each of its sides. -/
theorem bytes_grow_alt {d : Direction} {p q : Pattern}
    (hwords : Extent.words? (alt p q).choices = none)
    (hp : ∀ place e, (grow d place p e).bytes ≤ e.bytes + p.weight)
    (hq : ∀ place e, (grow d place q e).bytes ≤ e.bytes + q.weight) (place : Nat) (e : Extent) :
    (grow d place (alt p q) e).bytes ≤ e.bytes + (alt p q).weight := by
  have hnone : (if place = 0 then Extent.words? (alt p q).choices else none) = none := by
    rw [hwords, ite_self]
  have htwo : ∀ n, (if place = n then 2 else 0) ≤ 2 := fun n => by split <;> omega
  have hsecond := htwo 1
  have hfirst := htwo 0
  have hleft := hp 0 e
  rw [grow, hnone, weight]
  dsimp only
  split
  · have hright := hq (place + 1) ((grow d 0 p e).add (if place = 1 then 2 else 0) 4)
    rw [Extent.bytes_add] at hright
    omega
  · have hright := hq 0 ((grow d 0 p e).add (if place = 1 then 2 else 0) 4)
    rw [Extent.bytes_add] at hright ⊢
    omega

/-- A repetition has its body once for each round that it may make, and one
state of its own for each. -/
theorem bytes_grow_repeated {d : Direction} {p : Pattern}
    (hp : ∀ e, (grow d 0 p e).bytes ≤ e.bytes + p.weight) (least : Nat) (most : Option Nat)
    (greedy : Bool) (place : Nat) (e : Extent) :
    (grow d place (repeated least most greedy p) e).bytes ≤
      e.bytes + (repeated least most greedy p).weight := by
  have hround : ∀ e : Extent, (grow d 0 p (e.add 1 8)).bytes ≤ e.bytes + (p.weight + 40) := fun e => by
    have hbody := hp (e.add 1 8)
    rw [Extent.bytes_add] at hbody
    omega
  have hleast : least * p.weight ≤ least * (p.weight + 40) :=
    Nat.mul_le_mul_left least (Nat.le_add_right _ 40)
  rw [weight, Nat.add_mul, Nat.add_mul, Nat.one_mul]
  unfold grow
  split
  · -- one round, which may be left out
    have hbody := hround e
    rw [Extent.bytes_add]
    omega
  · -- any number of rounds
    have hbody := hround e
    have hplain := hp e
    split
    · omega
    · rw [Extent.bytes_add]
      omega
  · -- some rounds that are needed, and a loop
    have hrounds := Extent.bytes_rounds (d := d) hp least e
    rw [Extent.bytes_add]
    omega
  · -- some rounds that are needed, and some that may be left out
    rename_i most _
    have hrounds := Extent.bytes_rounds (d := d) hp least (if least = 0 then e.add 1 0 else e)
    have hstart : (if least = 0 then e.add 1 0 else e).bytes ≤ e.bytes + 32 := by
      have hadd := e.bytes_add 1 0
      split <;> omega
    dsimp only
    split
    · omega
    · have hoptions := Extent.bytes_rounds (d := d) hround (most - least)
        ((Extent.rounds d (grow d 0 p) least (if least = 0 then e.add 1 0 else e)).add 1 0)
      have hmost : (most - least) * (p.weight + 40) ≤ most * (p.weight + 40) :=
        Nat.mul_le_mul_right _ (Nat.sub_le most least)
      rw [Extent.bytes_add] at hoptions
      rw [Option.getD_some]
      omega

/-- **A pattern grows by its weight at most**, in both directions. -/
theorem bytes_grow (d : Direction) : ∀ (p : Pattern) (place : Nat) (e : Extent),
    p.wordless = true → (grow d place p e).bytes ≤ e.bytes + p.weight
  | empty, place, e, _ => by
    rw [grow, Extent.bytes_add]
    exact Nat.le_refl _
  | char set, place, e, _ => Extent.bytes_addSet d set e
  | assertion a, place, e, _ => by
    rw [grow, Extent.bytes_add]
    exact Nat.le_refl _
  | seq p q, place, e, h => by
    rw [wordless, Bool.and_eq_true] at h
    cases d with
    | forwards =>
      have hp := bytes_grow .forwards p 0 e h.1
      have hq := bytes_grow .forwards q 0 (grow .forwards 0 p e) h.2
      simp only [grow, weight]
      omega
    | backwards =>
      have hq := bytes_grow .backwards q 0 e h.2
      have hp := bytes_grow .backwards p 0 (grow .backwards 0 q e) h.1
      simp only [grow, weight]
      omega
  | alt p q, place, e, h => by
    simp only [wordless, Bool.and_eq_true, Option.isNone_iff_eq_none] at h
    exact bytes_grow_alt h.1.1 (fun place e => bytes_grow d p place e h.1.2)
      (fun place e => bytes_grow d q place e h.2) place e
  | group i p, place, e, h => by
    cases d with
    | forwards =>
      have hp := bytes_grow .forwards p 0 (e.add 1 0) h
      simp only [grow, weight, Extent.bytes_add] at hp ⊢
      omega
    | backwards =>
      have hp := bytes_grow .backwards p 0 e h
      simp only [grow, weight]
      omega
  | repeated least most greedy p, place, e, h =>
    bytes_grow_repeated (fun e => bytes_grow d p 0 e h) least most greedy place e

/-- **A pattern whose sets have few ranges is small enough.** -/
theorem isSmall_of_weight {p : Pattern} (h : p.wordless = true)
    (hweight : p.weight + 208 ≤ Extent.limit) : p.isSmall = true := by
  have hforwards := bytes_grow .forwards p 0
    ⟨if p.startsText then 2 else 4, if p.startsText then 0 else 16⟩ h
  have hbackwards := bytes_grow .backwards p 0 ⟨3, 16⟩ h
  have hstart : (⟨if p.startsText then 2 else 4, if p.startsText then 0 else 16⟩ : Extent).bytes ≤
      144 := by
    cases p.startsText <;> simp [Extent.bytes]
  have hstart' : (⟨3, 16⟩ : Extent).bytes = 112 := rfl
  rw [isSmall, Bool.and_eq_true, decide_eq_true_iff, decide_eq_true_iff, extent, extent,
    Extent.bytes_add, Extent.bytes_add]
  omega

end Pattern

end Workbench
