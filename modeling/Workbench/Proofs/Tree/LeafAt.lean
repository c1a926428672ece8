import Workbench.Proofs.Tree.Spans
import Workbench.Tree.Span
/-!
# The leaf at an offset

A concrete node covers the bytes from the start of the first leaf below it to
the end of the last (`spanTo_eq_hull`), so it may cover blanks and hidden
leaves, or nothing at all. The descent to the leaf at an offset takes the
first visible child that covers the offset and never turns back. If the
leaves of the arena come in the order of the text (`LeavesInOrder`), it does
not have to: what the child does not hold lies outside of what it covers.
-/

namespace Workbench

/-! ## Hulls -/

/-- What reaches from the start of the first of some pieces to the end of the
last. -/
def hull (pieces : List (ℕ × ℕ)) : Option (ℕ × ℕ) :=
  match pieces.head?, pieces.getLast? with
  | some first, some last => some (first.1, last.2)
  | _, _ => none

section Hull

variable {pieces more more' : List (ℕ × ℕ)} {p : ℕ × ℕ} {start stop : ℕ}

@[simp] theorem hull_nil : hull [] = none := rfl

theorem hull_of_ne_nil (h : pieces ≠ []) :
    hull pieces = some ((pieces.head h).1, (pieces.getLast h).2) := by
  rw [hull, List.head?_eq_some_head h, List.getLast?_eq_some_getLast h]

theorem hull_eq_none_iff : hull pieces = none ↔ pieces = [] := by
  refine ⟨fun h => ?_, fun h => h ▸ rfl⟩
  by_contra hne
  rw [hull_of_ne_nil hne] at h
  cases h

/-- Pieces may be joined before the hull is taken. -/
theorem hull_append (h : hull more = hull more') :
    hull ((hull pieces).toList ++ more) = hull (pieces ++ more') := by
  by_cases hpieces : pieces = []
  · rw [hpieces, hull_nil, Option.toList_none, List.nil_append, List.nil_append, h]
  · rw [hull_of_ne_nil hpieces, Option.toList_some]
    by_cases hmore : more = []
    · have hmore' : more' = [] := by rwa [hmore, hull_nil, eq_comm, hull_eq_none_iff] at h
      rw [hmore, hmore', List.append_nil, List.append_nil, hull_of_ne_nil hpieces]
      rfl
    · have hmore' : more' ≠ [] := by rwa [Ne, ← hull_eq_none_iff, ← h, hull_eq_none_iff]
      rw [hull_of_ne_nil hmore, hull_of_ne_nil hmore', Option.some.injEq, Prod.mk.injEq] at h
      rw [hull_of_ne_nil (by simp), hull_of_ne_nil (by simp [hpieces]),
        List.getLast_append_of_right_ne_nil _ _ hmore,
        List.getLast_append_of_right_ne_nil _ _ hmore', List.head_append_of_ne_nil hpieces, h.2]
      rfl

/-- The hull of pieces in order covers each of them. -/
theorem exists_hull_of_mem (hordered : pieces.Pairwise fun p q => p.2 ≤ q.1)
    (hproper : ∀ p ∈ pieces, p.1 ≤ p.2) (hp : p ∈ pieces) :
    ∃ start stop, hull pieces = some (start, stop) ∧ start ≤ p.1 ∧ p.2 ≤ stop := by
  have hne := List.ne_nil_of_mem hp
  refine ⟨_, _, hull_of_ne_nil hne, ?_, ?_⟩
  · cases pieces with
    | nil => exact absurd rfl hne
    | cons first rest =>
      rcases List.mem_cons.mp hp with rfl | hrest
      · exact Nat.le_refl _
      · have hbefore := List.rel_of_pairwise_cons hordered hrest
        have hfirst := hproper first List.mem_cons_self
        exact Nat.le_trans hfirst hbefore
  · have hsplit := List.dropLast_append_getLast hne
    rw [← hsplit] at hp hordered
    rcases List.mem_append.mp hp with hfront | hlast
    · have hbefore := (List.pairwise_append.mp hordered).2.2 p hfront _ List.mem_cons_self
      have hlast := hproper _ (List.getLast_mem hne)
      exact Nat.le_trans hbefore hlast
    · rw [List.mem_singleton.mp hlast]

/-- The hull ends where one of the pieces does. -/
theorem exists_mem_of_hull (h : hull pieces = some (start, stop)) : ∃ p ∈ pieces, p.2 = stop := by
  have hne : pieces ≠ [] := fun hnil => by rw [hnil] at h; cases h
  rw [hull_of_ne_nil hne, Option.some.injEq, Prod.mk.injEq] at h
  exact ⟨_, List.getLast_mem hne, h.2⟩

end Hull

/-- In an arena in preorder every handle lies at or below one of the roots. -/
theorem Spans.reaches {α : Type} {below : α → List α} {handle : ℕ → α} {roots : List α} {a c : ℕ}
    (h : Spans below handle roots a c) :
    ∀ i, a ≤ i → i < c → ∃ root ∈ roots, Reaches below root (handle i) := by
  induction h with
  | nil a => omega
  | @cons a b c rest _ _ ih₁ ih₂ =>
    intro i hai hic
    rcases Nat.lt_or_ge i b with hib | hbi
    · refine ⟨handle a, List.mem_cons_self, ?_⟩
      rcases Nat.eq_or_lt_of_le hai with rfl | hlt
      · exact Reaches.refl _
      · obtain ⟨child, hchild, hreaches⟩ := ih₁ i hlt hib
        exact Reaches.of_mem hchild hreaches
    · obtain ⟨root, hroot, hreaches⟩ := ih₂ i hbi hic
      exact ⟨root, List.mem_cons_of_mem _ hroot, hreaches⟩

/-! ## What nodes cover -/

/-- The bytes of a leaf. -/
def CstNode.bytes? (node : CstNode) : Option (ℕ × ℕ) :=
  match node.kind with
  | .leaf _ offset length _ => some (offset, offset + length)
  | _ => none

theorem CstNode.isLeaf_of_bytes? {node : CstNode} {p : ℕ × ℕ} (h : node.bytes? = some p) :
    node.isLeaf = true ∧ p.1 ≤ p.2 := by
  rcases node with ⟨kind, _, _, _, _, _⟩
  cases kind with
  | leaf type offset length range =>
    cases h
    exact ⟨rfl, Nat.le_add_right _ _⟩
  | _ => cases h

theorem CstNode.exists_bytes? (node : CstNode) (h : node.isLeaf = true) :
    ∃ p, node.bytes? = some p := by
  rcases node with ⟨kind, _, _, _, _, _⟩
  cases kind with
  | leaf => exact ⟨_, rfl⟩
  | _ => cases h

namespace SyntaxTree

variable {t : SyntaxTree} {roots : List CstId} {a b c offset : ℕ} {id : CstId} {hidden : Bool}

theorem exists_cst? {i : ℕ} (h : i < t.cst.size) : ∃ node, t.cst? ⟨i⟩ = some node :=
  ⟨_, Array.getElem?_eq_getElem h⟩

/-- The bytes of the leaf with a handle. -/
def leafBytes? (t : SyntaxTree) (id : CstId) : Option (ℕ × ℕ) := (t.cst? id).bind CstNode.bytes?

/-- The bytes of the leaves among `n` nodes from `a` on. -/
def bytesFrom (t : SyntaxTree) (a n : ℕ) : List (ℕ × ℕ) :=
  (List.range' a n).filterMap fun i => t.leafBytes? ⟨i⟩

theorem bytesFrom_append (hab : a ≤ b) (hbc : b ≤ c) :
    t.bytesFrom a (c - a) = t.bytesFrom a (b - a) ++ t.bytesFrom b (c - b) := by
  rw [bytesFrom, bytesFrom, bytesFrom, ← List.filterMap_append,
    show c - a = (b - a) + (c - b) by omega, ← List.range'_append_1,
    show a + (b - a) = b by omega]

theorem mem_bytesFrom {p : ℕ × ℕ} :
    p ∈ t.bytesFrom a (b - a) ↔ ∃ i, a ≤ i ∧ i < b ∧ t.leafBytes? ⟨i⟩ = some p := by
  rw [bytesFrom, List.mem_filterMap]
  refine exists_congr fun i => ?_
  rw [List.mem_range'_1]
  constructor
  · rintro ⟨⟨hai, hib⟩, hp⟩
    exact ⟨hai, by omega, hp⟩
  · rintro ⟨hai, hib, hp⟩
    exact ⟨⟨hai, by omega⟩, hp⟩

theorem proper_of_mem_bytesFrom {n : ℕ} : ∀ p ∈ t.bytesFrom a n, p.1 ≤ p.2 := by
  intro p hp
  obtain ⟨i, -, hp⟩ := List.mem_filterMap.mp hp
  obtain ⟨_, -, hbytes⟩ := Option.bind_eq_some_iff.mp hp
  exact (CstNode.isLeaf_of_bytes? hbytes).2

/-- A leaf covers its bytes, and any other node what its children cover. -/
theorem spanTo_succ (n : ℕ) (id : CstId) :
    t.spanTo (n + 1) id =
      (t.leafBytes? id).or (hull ((t.cstChildrenOf id).filterMap (t.spanTo n))) := by
  rw [spanTo, leafBytes?, cstChildrenOf]
  cases t.cst? id with
  | none => rfl
  | some node =>
    rcases node with ⟨kind, _, _, _, _, _⟩
    cases kind <;> rfl

/-- Nothing lies below a leaf. -/
theorem cstChildrenOf_of_leafBytes? {p : ℕ × ℕ} (h : t.leafBytes? id = some p) :
    t.cstChildrenOf id = [] := by
  obtain ⟨node, hnode, hbytes⟩ := Option.bind_eq_some_iff.mp h
  rw [cstChildrenOf, hnode]
  rcases node with ⟨kind, _, _, _, _, _⟩
  cases kind with
  | leaf => rfl
  | _ => cases hbytes

/-- What a node covers, if this is so of the nodes below it. -/
theorem spanTo_of_children (hspans : Spans t.cstChildrenOf CstId.mk (t.cstChildrenOf ⟨a⟩) (a + 1) b)
    (hbelow : ∀ n, b - (a + 1) ≤ n → hull ((t.cstChildrenOf ⟨a⟩).filterMap (t.spanTo n)) =
      hull (t.bytesFrom (a + 1) (b - (a + 1)))) (n : ℕ) (hn : b - a ≤ n) :
    t.spanTo n ⟨a⟩ = hull (t.bytesFrom a (b - a)) := by
  have hab := hspans.le
  obtain ⟨m, rfl⟩ : ∃ m, n = m + 1 := ⟨n - 1, by omega⟩
  have hhere : t.bytesFrom a (a + 1 - a) = (t.leafBytes? ⟨a⟩).toList := by
    rw [bytesFrom, Nat.add_sub_cancel_left, List.range'_one]
    cases h : t.leafBytes? ⟨a⟩ <;> simp [h]
  rw [spanTo_succ, hbelow m (by omega), bytesFrom_append (b := a + 1) (Nat.le_succ a) hab, hhere]
  cases h : t.leafBytes? ⟨a⟩ with
  | none => rw [Option.none_or, Option.toList_none, List.nil_append]
  | some p =>
    rw [cstChildrenOf_of_leafBytes? h] at hspans
    cases hspans
    rw [Nat.sub_self]
    rfl

/-- Nodes side by side cover what their leaves do. -/
theorem hull_spanTo (h : Spans t.cstChildrenOf CstId.mk roots a c) :
    ∀ n, c - a ≤ n → hull (roots.filterMap (t.spanTo n)) = hull (t.bytesFrom a (c - a)) := by
  induction h with
  | nil a =>
    intro n _
    rw [Nat.sub_self]
    rfl
  | @cons a b c rest hbelow hrest ih₁ ih₂ =>
    intro n hn
    have hab := hbelow.le
    have hbc := hrest.le
    have hhead := spanTo_of_children hbelow ih₁ n (by omega)
    rw [bytesFrom_append (b := b) (by omega) hbc, ← hull_append (ih₂ n (by omega)), ← hhead,
      List.filterMap_cons]
    cases t.spanTo n ⟨a⟩ <;> rfl

/-- **A node covers from the start of the first leaf below it to the end of
the last**, and nothing if there is none. -/
theorem spanTo_eq_hull (h : Spans t.cstChildrenOf CstId.mk (t.cstChildrenOf ⟨a⟩) (a + 1) b) :
    ∀ n, b - a ≤ n → t.spanTo n ⟨a⟩ = hull (t.bytesFrom a (b - a)) :=
  spanTo_of_children h (hull_spanTo h)

/-! ## Trees with their leaves in order -/

/-- **A tree whose leaves are in the order of the text.** -/
structure LeavesInOrder (t : SyntaxTree) : Prop where
  /-- The root comes first. -/
  root_eq : t.cstRoot = ⟨0⟩
  /-- The root is no leaf. -/
  root : t.leafBytes? t.cstRoot = none
  /-- The nodes below the root are all others, in preorder. -/
  spans : Spans t.cstChildrenOf CstId.mk (t.cstChildrenOf t.cstRoot) 1 t.cst.size
  /-- A leaf ends before the next one starts. -/
  ordered : ∀ i j p q, i < j → t.leafBytes? ⟨i⟩ = some p → t.leafBytes? ⟨j⟩ = some q → p.2 ≤ q.1
  /-- Only leaves are hidden. -/
  visible : ∀ id node, t.cst? id = some node → node.isLeaf = false → node.hidden = false

/-- **A leaf at an offset**: it lies in the tree and covers the offset. -/
structure LeafOver (t : SyntaxTree) (hidden : Bool) (offset : ℕ) (id : CstId) : Prop where
  reached : t.HasCst id
  leaf : ∃ node, t.cst? id = some node ∧ node.isLeaf = true ∧ node.hidden = hidden
  covers : ∃ start stop, t.cstSpan? id = some (start, stop) ∧ start ≤ offset ∧ offset < stop

/-- Whether the node with a handle is a leaf with the offset among its bytes. -/
def Bears (t : SyntaxTree) (hidden : Bool) (offset : ℕ) (id : CstId) : Prop :=
  ∃ node p, t.cst? id = some node ∧ node.bytes? = some p ∧ node.hidden = hidden ∧
    p.1 ≤ offset ∧ offset < p.2

/-- A leaf covers its bytes. -/
theorem cstSpan?_of_leafBytes? {p : ℕ × ℕ} (h : t.leafBytes? id = some p) :
    t.cstSpan? id = some p := by
  rw [cstSpan?, spanTo_succ, h, Option.some_or]

theorem leafBytes?_eq {node : CstNode} (h : t.cst? id = some node) :
    t.leafBytes? id = node.bytes? := by rw [leafBytes?, h, Option.bind_some]

theorem Bears.leafBytes? (h : t.Bears hidden offset id) :
    ∃ p, t.leafBytes? id = some p ∧ p.1 ≤ offset ∧ offset < p.2 := by
  obtain ⟨node, p, hnode, hbytes, -, hle, hlt⟩ := h
  exact ⟨p, (leafBytes?_eq hnode).trans hbytes, hle, hlt⟩

theorem Bears.lt (h : t.Bears hidden offset id) : id.index < t.cst.size := by
  obtain ⟨node, _, hnode, -⟩ := h
  exact (Array.getElem?_eq_some_iff.mp hnode).1

/-- The search of the descent among nodes side by side. -/
def seek (t : SyntaxTree) (offset n : ℕ) (roots : List CstId) : Option CstId :=
  match roots.find? (t.coversVisibly offset) with
  | none => none
  | some child => if (t.cst? child).any CstNode.isLeaf then some child else t.leafFrom? offset n child

theorem seek_cons_of_not (h : t.coversVisibly offset id = false) (n : ℕ) (rest : List CstId) :
    t.seek offset n (id :: rest) = t.seek offset n rest := by
  rw [seek, List.find?_cons, h]
  rfl

theorem seek_cons_of_covers (h : t.coversVisibly offset id = true) (n : ℕ) (rest : List CstId) :
    t.seek offset n (id :: rest) =
      if (t.cst? id).any CstNode.isLeaf then some id else t.leafFrom? offset n id := by
  rw [seek, List.find?_cons, h]

theorem leafFrom?_succ (n : ℕ) : t.leafFrom? offset (n + 1) id = t.seek offset n (t.cstChildrenOf id) :=
  rfl

namespace LeavesInOrder

/-- Two leaves at one offset are one. -/
theorem bears_unique (h : t.LeavesInOrder) {hidden' : Bool} {id' : CstId}
    (hid : t.Bears hidden offset id) (hid' : t.Bears hidden' offset id') : id = id' := by
  obtain ⟨p, hp, hple, hplt⟩ := hid.leafBytes?
  obtain ⟨q, hq, hqle, hqlt⟩ := hid'.leafBytes?
  rcases Nat.lt_trichotomy id.index id'.index with hlt | heq | hlt
  · have hbefore := h.ordered _ _ p q hlt hp hq
    omega
  · exact CstId.ext_index heq
  · have hbefore := h.ordered _ _ q p hlt hq hp
    omega

/-- The leaves among consecutive nodes come in order. -/
theorem pairwise_bytesFrom (h : t.LeavesInOrder) (a n : ℕ) :
    (t.bytesFrom a n).Pairwise fun p q => p.2 ≤ q.1 := by
  refine List.Pairwise.filterMap _ ?_ (List.pairwise_lt_range' (s := a) (n := n))
  exact fun i j hij p hp q hq => h.ordered i j p q hij hp hq

/-- What a node covers visibly has its leaves in it. -/
theorem coversVisibly_of_bears (h : t.LeavesInOrder)
    (hspans : Spans t.cstChildrenOf CstId.mk (t.cstChildrenOf ⟨a⟩) (a + 1) b) (hb : b ≤ t.cst.size)
    (hai : a ≤ id.index) (hib : id.index < b) (hbears : t.Bears false offset id) :
    t.coversVisibly offset ⟨a⟩ = true := by
  obtain ⟨node, hnode⟩ := exists_cst? (t := t) (i := a) (by omega)
  obtain ⟨p, hp, hle, hlt⟩ := hbears.leafBytes?
  have hvisible : node.hidden = false := by
    cases hleaf : node.isLeaf with
    | false => exact h.visible _ node hnode hleaf
    | true =>
      -- a leaf has nothing below it, so it is the one at the offset
      obtain ⟨bytes, hbytes⟩ := node.exists_bytes? hleaf
      rw [cstChildrenOf_of_leafBytes? ((leafBytes?_eq hnode).trans hbytes)] at hspans
      cases hspans
      obtain rfl : id = ⟨a⟩ := CstId.ext_index (Nat.le_antisymm (Nat.le_of_lt_succ hib) hai)
      obtain ⟨node', _, hnode', -, hhidden, -⟩ := hbears
      rw [hnode, Option.some.injEq] at hnode'
      rw [hnode', hhidden]
  obtain ⟨start, stop, hhull, hstart, hstop⟩ := exists_hull_of_mem
    (h.pairwise_bytesFrom a (b - a)) proper_of_mem_bytesFrom
    (mem_bytesFrom.mpr ⟨id.index, hai, hib, hp⟩)
  have hspan : t.cstSpan? ⟨a⟩ = some (start, stop) := by
    rw [← hhull]
    exact spanTo_eq_hull hspans _ (by omega)
  have hin : start ≤ offset ∧ offset < stop := by omega
  simp [coversVisibly, hspan, hnode, hvisible, hin]

/-- Behind a node that covers an offset no leaf does. -/
theorem not_bears_of_coversVisibly (h : t.LeavesInOrder)
    (hspans : Spans t.cstChildrenOf CstId.mk (t.cstChildrenOf ⟨a⟩) (a + 1) b) (hb : b ≤ t.cst.size)
    (hcovers : t.coversVisibly offset ⟨a⟩ = true) (hbi : b ≤ id.index) : ¬ t.Bears false offset id := by
  intro hbears
  obtain ⟨q, hq, hqle, -⟩ := hbears.leafBytes?
  have hab := hspans.le
  have hspan : t.cstSpan? ⟨a⟩ = hull (t.bytesFrom a (b - a)) := spanTo_eq_hull hspans _ (by omega)
  rw [coversVisibly, hspan] at hcovers
  split at hcovers
  next start stop node hhull _ =>
    obtain ⟨p, hp, rfl⟩ := exists_mem_of_hull hhull
    obtain ⟨i, -, hib, hp⟩ := mem_bytesFrom.mp hp
    have hbefore := h.ordered i id.index p q (by omega) hp hq
    simp only [Bool.and_eq_true, decide_eq_true_eq] at hcovers
    omega
  next => cases hcovers

/-- A leaf that covers an offset visibly is the one there. -/
theorem bears_of_coversVisibly {node : CstNode} (hnode : t.cst? id = some node)
    (hleaf : node.isLeaf = true) (hcovers : t.coversVisibly offset id = true) :
    t.Bears false offset id := by
  obtain ⟨⟨start, stop⟩, hbytes⟩ := node.exists_bytes? hleaf
  rw [coversVisibly, cstSpan?_of_leafBytes? ((leafBytes?_eq hnode).trans hbytes), hnode] at hcovers
  simp only [Bool.and_eq_true, decide_eq_true_eq, Bool.not_eq_true'] at hcovers
  exact ⟨node, _, hnode, hbytes, hcovers.2, hcovers.1.1, hcovers.1.2⟩

/-- **The search finds the leaf**, wherever it lies below the nodes. -/
theorem seek_eq_some_iff (h : t.LeavesInOrder) (hspans : Spans t.cstChildrenOf CstId.mk roots a c) :
    c ≤ t.cst.size → ∀ n, c - a ≤ n →
      (t.seek offset n roots = some id ↔ a ≤ id.index ∧ id.index < c ∧ t.Bears false offset id) := by
  induction hspans with
  | nil a =>
    intro _ n _
    constructor
    · nofun
    · omega
  | @cons a b c rest hbelow hrest ih₁ ih₂ =>
    intro hc n hn
    have hab := hbelow.le
    have hbc := hrest.le
    obtain ⟨m, rfl⟩ : ∃ m, n = m + 1 := ⟨n - 1, by omega⟩
    cases hcovers : t.coversVisibly offset ⟨a⟩ with
    | false =>
      -- no leaf at or below the first node bears the offset
      rw [seek_cons_of_not hcovers, ih₂ hc (m + 1) (by omega)]
      constructor
      · rintro ⟨hbi, hic, hid⟩
        exact ⟨by omega, hic, hid⟩
      · rintro ⟨hai, hic, hid⟩
        refine ⟨?_, hic, hid⟩
        by_contra hlt
        rw [h.coversVisibly_of_bears hbelow (by omega) hai (by omega) hid] at hcovers
        cases hcovers
    | true =>
      obtain ⟨node, hnode⟩ := exists_cst? (t := t) (i := a) (by omega)
      rw [seek_cons_of_covers hcovers, hnode, Option.any_some]
      cases hleaf : node.isLeaf with
      | true =>
        have hbears := bears_of_coversVisibly hnode hleaf hcovers
        rw [if_pos rfl, Option.some.injEq]
        constructor
        · rintro rfl
          exact ⟨Nat.le_refl a, Nat.lt_of_lt_of_le hab hbc, hbears⟩
        · rintro ⟨-, -, hid⟩
          exact h.bears_unique hbears hid
      | false =>
        rw [if_neg Bool.false_ne_true, leafFrom?_succ, ih₁ (by omega) m (by omega)]
        constructor
        · rintro ⟨hai, hib, hid⟩
          exact ⟨by omega, by omega, hid⟩
        · rintro ⟨hai, hic, hid⟩
          have hne : id.index ≠ a := by
            rintro rfl
            obtain ⟨_, _, hnode', hbytes, -⟩ := hid
            rw [hnode, Option.some.injEq] at hnode'
            subst hnode'
            rw [(CstNode.isLeaf_of_bytes? hbytes).1] at hleaf
            cases hleaf
          refine ⟨by omega, ?_, hid⟩
          by_contra hge
          exact h.not_bears_of_coversVisibly hbelow (by omega) hcovers (Nat.le_of_not_lt hge) hid

theorem ne_root_of_bears (h : t.LeavesInOrder) (hbears : t.Bears hidden offset id) :
    1 ≤ id.index := by
  obtain ⟨p, hp, -⟩ := hbears.leafBytes?
  refine Nat.one_le_iff_ne_zero.mpr fun hzero => ?_
  obtain rfl : id = t.cstRoot := h.root_eq ▸ CstId.ext_index hzero
  rw [h.root] at hp
  cases hp

/-- The leaves of the tree are those of the arena. -/
theorem leafOver_iff (h : t.LeavesInOrder) :
    t.LeafOver hidden offset id ↔ t.Bears hidden offset id := by
  constructor
  · rintro ⟨-, ⟨node, hnode, hleaf, hhidden⟩, start, stop, hspan, hle, hlt⟩
    obtain ⟨p, hp⟩ := node.exists_bytes? hleaf
    rw [cstSpan?_of_leafBytes? ((leafBytes?_eq hnode).trans hp), Option.some.injEq] at hspan
    subst hspan
    exact ⟨node, _, hnode, hp, hhidden, hle, hlt⟩
  · intro hbears
    obtain ⟨p, hp, hle, hlt⟩ := hbears.leafBytes?
    obtain ⟨child, hchild, hreaches⟩ :=
      h.spans.reaches id.index (h.ne_root_of_bears hbears) hbears.lt
    obtain ⟨node, _, hnode, hbytes, hhidden, -⟩ := hbears
    exact ⟨Reaches.of_mem hchild hreaches,
      ⟨node, hnode, (CstNode.isLeaf_of_bytes? hbytes).1, hhidden⟩, p.1, p.2,
      cstSpan?_of_leafBytes? hp, hle, hlt⟩

/-- **The descent finds exactly the visible leaf at the offset.** -/
theorem leafAt?_eq_some_iff (h : t.LeavesInOrder) :
    t.leafAt? offset = some id ↔ t.LeafOver false offset id := by
  have hpos : 1 ≤ t.cst.size := h.spans.le
  obtain ⟨n, hn⟩ : ∃ n, t.cst.size = n + 1 := ⟨t.cst.size - 1, by omega⟩
  have hseek : t.seek offset n (t.cstChildrenOf t.cstRoot) = some id ↔ _ :=
    h.seek_eq_some_iff h.spans (Nat.le_refl _) n (by omega)
  rw [leafAt?, hn, leafFrom?_succ, hseek, h.leafOver_iff]
  exact ⟨fun hid => hid.2.2, fun hid => ⟨h.ne_root_of_bears hid, hid.lt, hid⟩⟩

/-- **Two leaves at one offset are one**, hidden or not. -/
theorem leafOver_unique (h : t.LeavesInOrder) {hidden' : Bool} {id' : CstId}
    (hid : t.LeafOver hidden offset id) (hid' : t.LeafOver hidden' offset id') : id = id' :=
  h.bears_unique (h.leafOver_iff.mp hid) (h.leafOver_iff.mp hid')

end LeavesInOrder

end SyntaxTree

end Workbench
