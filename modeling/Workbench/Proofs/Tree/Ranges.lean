import Workbench.Proofs.Text.Positions
import Workbench.Proofs.Tree.LeafAt
/-!
# Ranges of nodes

A concrete node has a span in bytes and a range in lines and characters. Both
are put together from those of its children, the span by taking the two ends,
the range by covering the first child's and the last child's. If the leaves
come in the order of the text and lie between characters
(`LeavesLocated`), the two agree (`LeavesLocated.rangeTo_eq`): positions keep
the order of character boundaries, so that covering takes the two ends as
well.
-/

namespace Workbench

open Text

/-! ## Covering -/

/-- What covers the first and the last of some ranges. -/
def coverEnds (ranges : List Range) : Option Range :=
  match ranges.head?, ranges.getLast? with
  | some first, some last => some (first.cover last)
  | _, _ => none

/-- The range of a span of a text. -/
def locatedIn (chars : List Char) (p : ℕ × ℕ) : Range := ⟨locate chars p.1, locate chars p.2⟩

section Cover

variable {chars : List Char} {pieces : List (ℕ × ℕ)} {p q : ℕ × ℕ}

theorem locatedIn_eq_rangeAt (h : p.1 ≤ p.2) :
    locatedIn chars p = rangeAt chars p.1 (p.2 - p.1) := by
  rw [locatedIn, rangeAt, Nat.add_sub_cancel' h]

/-- **A span between characters of a text.** -/
structure IsCut (chars : List Char) (p : ℕ × ℕ) : Prop where
  start : IsBoundary chars p.1
  stop : IsBoundary chars p.2
  le : p.1 ≤ p.2

theorem le_byteLength_of_isBoundary {n : ℕ} (h : IsBoundary chars n) : n ≤ byteLength chars := by
  obtain ⟨front, rest, rfl, rfl⟩ := h
  rw [byteLength_append]
  exact Nat.le_add_right _ _

/-- Boundaries in order have positions in order. -/
theorem locate_le_of_boundaries {a b : ℕ} (ha : IsBoundary chars a) (hb : IsBoundary chars b)
    (hle : a ≤ b) : locate chars a ≤ locate chars b :=
  locate_le_of_boundary ha hle (le_byteLength_of_isBoundary hb)

/-- **Ranges in order cover from the start of the first to the end of the last.** -/
theorem cover_locatedIn (hp : IsCut chars p) (hq : IsCut chars q) (hstart : p.1 ≤ q.1)
    (hstop : p.2 ≤ q.2) :
    (locatedIn chars p).cover (locatedIn chars q) = locatedIn chars (p.1, q.2) := by
  rw [Range.cover, locatedIn, locatedIn, Position.min, Position.max,
    if_pos (locate_le_of_boundaries hp.start hq.start hstart),
    if_pos (locate_le_of_boundaries hp.stop hq.stop hstop), locatedIn]

/-- So the ranges of pieces in order cover what their hull does. -/
theorem coverEnds_map (hordered : pieces.Pairwise fun p q => p.2 ≤ q.1)
    (hcut : ∀ p ∈ pieces, IsCut chars p) :
    coverEnds (pieces.map (locatedIn chars)) = (hull pieces).map (locatedIn chars) := by
  cases pieces with
  | nil => rfl
  | cons first rest =>
    have hmem := List.getLast_mem (List.cons_ne_nil first rest)
    have hfirst := hcut first List.mem_cons_self
    have hlast := hcut _ hmem
    rw [hull_of_ne_nil (List.cons_ne_nil first rest), coverEnds,
      List.getLast?_map, List.getLast?_eq_some_getLast (List.cons_ne_nil first rest)]
    generalize (first :: rest).getLast _ = last at hmem hlast
    have hin : first.1 ≤ last.1 ∧ first.2 ≤ last.2 := by
      rcases List.mem_cons.mp hmem with rfl | hrest
      · exact ⟨Nat.le_refl _, Nat.le_refl _⟩
      · have hbefore := List.rel_of_pairwise_cons hordered hrest
        exact ⟨Nat.le_trans hfirst.le hbefore, Nat.le_trans hbefore hlast.le⟩
    exact congrArg some (cover_locatedIn hfirst hlast hin.1 hin.2)

/-- The hull starts where one of the pieces does, and ends where one does. -/
theorem ends_of_hull (h : hull pieces = some p) : ∃ f ∈ pieces, ∃ l ∈ pieces, p = (f.1, l.2) := by
  have hne : pieces ≠ [] := fun hnil => by rw [hnil] at h; cases h
  rw [hull_of_ne_nil hne, Option.some.injEq] at h
  exact ⟨_, List.head_mem hne, _, List.getLast_mem hne, h.symm⟩

/-- The hull of cuts in order is one. -/
theorem IsCut.hull (hordered : pieces.Pairwise fun p q => p.2 ≤ q.1)
    (hcut : ∀ p ∈ pieces, IsCut chars p) (h : Workbench.hull pieces = some p) : IsCut chars p := by
  obtain ⟨f, hf, l, hl, rfl⟩ := ends_of_hull h
  refine ⟨(hcut f hf).start, (hcut l hl).stop, ?_⟩
  obtain ⟨start, stop, hhull, hstart, hstop⟩ :=
    exists_hull_of_mem hordered (fun p hp => (hcut p hp).le) hf
  rw [h, Option.some.injEq, Prod.mk.injEq] at hhull
  have hle := (hcut f hf).le
  show f.1 ≤ l.2
  omega

end Cover

/-- In an arena in preorder every handle has what is below it right behind it. -/
theorem Spans.exists_below {α : Type} {below : α → List α} {handle : ℕ → α} {roots : List α}
    {a c : ℕ} (h : Spans below handle roots a c) :
    ∀ i, a ≤ i → i < c → ∃ b, b ≤ c ∧ Spans below handle (below (handle i)) (i + 1) b := by
  induction h with
  | nil a => omega
  | @cons a b c rest hbelow hrest ih₁ ih₂ =>
    intro i hai hic
    have hbc := hrest.le
    rcases Nat.lt_or_ge i b with hib | hbi
    · rcases Nat.eq_or_lt_of_le hai with rfl | hlt
      · exact ⟨b, hbc, hbelow⟩
      · obtain ⟨d, hdb, hspans⟩ := ih₁ i hlt hib
        exact ⟨d, Nat.le_trans hdb hbc, hspans⟩
    · exact ih₂ i hbi hic

/-- The range of a leaf. -/
def CstNode.range? (node : CstNode) : Option Range :=
  match node.kind with
  | .leaf _ _ _ range => some range
  | _ => none

namespace SyntaxTree

variable {t : SyntaxTree} {chars : List Char} {roots : List CstId} {a b c : ℕ} {id : CstId}

/-- The range of the leaf with a handle. -/
def leafRange? (t : SyntaxTree) (id : CstId) : Option Range := (t.cst? id).bind CstNode.range?

/-- A leaf has its range, and any other node that which covers its children's. -/
theorem rangeTo_succ (n : ℕ) (id : CstId) :
    t.rangeTo (n + 1) id =
      (t.leafRange? id).or (coverEnds ((t.cstChildrenOf id).filterMap (t.rangeTo n))) := by
  rw [rangeTo, leafRange?, cstChildrenOf]
  cases t.cst? id with
  | none => rfl
  | some node =>
    rcases node with ⟨kind, _, _, _, _, _⟩
    cases kind <;> rfl

/-- **A tree whose leaves are located in a text**: in its order, between its
characters, and with the ranges of their bytes. -/
structure LeavesLocated (t : SyntaxTree) (chars : List Char) : Prop extends t.LeavesInOrder where
  cut : ∀ id p, t.leafBytes? id = some p → IsCut chars p
  range : ∀ id, t.leafRange? id = (t.leafBytes? id).map (locatedIn chars)

namespace LeavesLocated

theorem cut_of_mem {n : ℕ} (h : t.LeavesLocated chars) : ∀ p ∈ t.bytesFrom a n, IsCut chars p := by
  intro p hp
  obtain ⟨i, -, hbytes⟩ := List.mem_filterMap.mp hp
  exact h.cut ⟨i⟩ p hbytes

/-- **What nodes side by side cover** comes in order, cut between characters, each
from the start of a leaf to the end of one. -/
theorem spans_ordered (h : t.LeavesLocated chars)
    (hspans : Spans t.cstChildrenOf CstId.mk roots a c) :
    ∀ n, c - a ≤ n → (roots.filterMap (t.spanTo n)).Pairwise (fun p q => p.2 ≤ q.1) ∧
      ∀ p ∈ roots.filterMap (t.spanTo n), IsCut chars p ∧ ∃ f ∈ t.bytesFrom a (c - a), p.1 = f.1 := by
  induction hspans with
  | nil a => exact fun n _ => ⟨.nil, nofun⟩
  | @cons a b c rest hbelow hrest _ ih =>
    intro n hn
    have hab := hbelow.le
    have hbc := hrest.le
    obtain ⟨hordered, hcut⟩ := ih n (by omega)
    have hhead : t.spanTo n ⟨a⟩ = hull (t.bytesFrom a (b - a)) := spanTo_eq_hull hbelow n (by omega)
    have hbytes := bytesFrom_append (t := t) (a := a) (b := b) (c := c) (by omega) hbc
    have hrestCut : ∀ p ∈ rest.filterMap (t.spanTo n),
        IsCut chars p ∧ ∃ f ∈ t.bytesFrom a (c - a), p.1 = f.1 := by
      intro p hp
      obtain ⟨hcutp, f, hf, hstart⟩ := hcut p hp
      exact ⟨hcutp, f, hbytes ▸ List.mem_append_right _ hf, hstart⟩
    rw [List.filterMap_cons]
    cases hspan : t.spanTo n ⟨a⟩ with
    | none => exact ⟨hordered, hrestCut⟩
    | some p =>
      rw [hspan, eq_comm] at hhead
      obtain ⟨f, hf, l, hl, rfl⟩ := ends_of_hull hhead
      refine ⟨.cons ?_ hordered, List.forall_mem_cons.mpr ⟨⟨?_, f, ?_, rfl⟩, hrestCut⟩⟩
      · -- the leaf it ends with comes before those the others start with
        intro q hq
        obtain ⟨-, f', hf', hstart⟩ := hcut q hq
        obtain ⟨i, -, hib, hi⟩ := mem_bytesFrom.mp hl
        obtain ⟨j, hbj, -, hj⟩ := mem_bytesFrom.mp hf'
        rw [hstart]
        exact h.ordered i j l f' (by omega) hi hj
      · exact IsCut.hull (h.pairwise_bytesFrom a (b - a)) h.cut_of_mem hhead
      · exact hbytes ▸ List.mem_append_left _ hf

/-- The range of a node is that of its span, if this is so of the nodes below it. -/
theorem rangeTo_of_children (h : t.LeavesLocated chars)
    (hspans : Spans t.cstChildrenOf CstId.mk (t.cstChildrenOf ⟨a⟩) (a + 1) b)
    (hbelow : ∀ n, b - (a + 1) ≤ n → (t.cstChildrenOf ⟨a⟩).filterMap (t.rangeTo n) =
      ((t.cstChildrenOf ⟨a⟩).filterMap (t.spanTo n)).map (locatedIn chars)) (n : ℕ)
    (hn : b - a ≤ n) : t.rangeTo n ⟨a⟩ = (t.spanTo n ⟨a⟩).map (locatedIn chars) := by
  have hab := hspans.le
  obtain ⟨m, rfl⟩ : ∃ m, n = m + 1 := ⟨n - 1, by omega⟩
  obtain ⟨hordered, hcut⟩ := h.spans_ordered hspans m (by omega)
  rw [rangeTo_succ, spanTo_succ, hbelow m (by omega), coverEnds_map hordered fun p hp => (hcut p hp).1,
    h.range]
  cases t.leafBytes? ⟨a⟩ <;> rfl

/-- Nodes side by side have the ranges of their spans. -/
theorem filterMap_rangeTo (h : t.LeavesLocated chars)
    (hspans : Spans t.cstChildrenOf CstId.mk roots a c) :
    ∀ n, c - a ≤ n → roots.filterMap (t.rangeTo n) =
      (roots.filterMap (t.spanTo n)).map (locatedIn chars) := by
  induction hspans with
  | nil a => exact fun _ _ => rfl
  | @cons a b c rest hbelow hrest ih₁ ih₂ =>
    intro n hn
    have hab := hbelow.le
    have hbc := hrest.le
    rw [List.filterMap_cons, List.filterMap_cons,
      h.rangeTo_of_children hbelow ih₁ n (by omega), ih₂ n (by omega)]
    cases t.spanTo n ⟨a⟩ <;> rfl

/-- **The range of a node is that of its span.** -/
theorem rangeTo_eq (h : t.LeavesLocated chars)
    (hspans : Spans t.cstChildrenOf CstId.mk (t.cstChildrenOf ⟨a⟩) (a + 1) b) :
    ∀ n, b - a ≤ n → t.rangeTo n ⟨a⟩ = (t.spanTo n ⟨a⟩).map (locatedIn chars) :=
  h.rangeTo_of_children hspans (h.filterMap_rangeTo hspans)

end LeavesLocated

/-- Every node of the arena has what is below it right behind it. -/
theorem LeavesInOrder.exists_below (h : t.LeavesInOrder) {i : ℕ} (hi : i < t.cst.size) :
    ∃ b, b ≤ t.cst.size ∧ Spans t.cstChildrenOf CstId.mk (t.cstChildrenOf ⟨i⟩) (i + 1) b := by
  rcases Nat.eq_zero_or_pos i with rfl | hpos
  · exact ⟨t.cst.size, Nat.le_refl _, h.root_eq ▸ h.spans⟩
  · exact h.spans.exists_below i hpos hi

end SyntaxTree

end Workbench
