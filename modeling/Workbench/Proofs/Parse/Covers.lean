import Workbench.Proofs.Parse.Pointing
import Workbench.Proofs.Tree.Ranges
/-!
# What the nodes of a parsed text cover

The leaves of a parse are tokens, cut out between characters of the text with
the ranges of their bytes, which 32 bits can tell apart in a text of less than
4 GiB (`Parse.leavesLocated_of_entry`). So what a concrete node covers can be read off the leaves below it, in bytes and in lines and
characters alike: both reach from the start of the first leaf to the end of
the last (`Grammar.parse_covers`).
-/

namespace Workbench

open Text

/-- The leaves at and below a concrete node, in preorder. -/
def SyntaxTree.leavesBelow (t : SyntaxTree) (id : CstId) : List Leaf :=
  (t.cstPreorderTo t.cst.size id).filterMap fun id => (t.cst? id).bind CstNode.leaf?

/-- The bytes of a leaf. -/
def Leaf.bytes (leaf : Leaf) : ℕ × ℕ := (leaf.offset, leaf.offset + leaf.length)

/-- A piece is cut out between two characters. -/
theorem Text.isCut_of_slice? {chars piece : List Char} {start stop : ℕ}
    (h : slice? chars start stop = some piece) : IsCut chars (start, stop) := by
  rw [slice?] at h
  split at h
  next hle =>
    obtain ⟨⟨front, rest⟩, hfront, hrest⟩ := Option.bind_eq_some_iff.mp h
    obtain ⟨⟨taken, behind⟩, htaken, -⟩ := Option.map_eq_some_iff.mp hrest
    obtain ⟨rfl, hstart⟩ := splitBytes?_eq_some hfront
    obtain ⟨rfl, hlength⟩ := splitBytes?_eq_some htaken
    refine ⟨⟨front, taken ++ behind, rfl, hstart⟩, ⟨front ++ taken, behind, by simp, ?_⟩, hle⟩
    rw [byteLength_append, hstart, hlength]
    exact Nat.add_sub_cancel' hle
  next => cases h

namespace SyntaxTree

variable {t : SyntaxTree} {a b : ℕ}

/-- In an arena in preorder the leaves below a node stand side by side. -/
theorem leavesBelow_eq (hspans : Spans t.cstChildrenOf CstId.mk (t.cstChildrenOf ⟨a⟩) (a + 1) b)
    (hb : b ≤ t.cst.size) :
    t.leavesBelow ⟨a⟩ =
      (List.range' a (b - a)).filterMap fun i => (t.cst? ⟨i⟩).bind CstNode.leaf? := by
  have hwalk := (Spans.cons hspans (.nil b)).walk t.cst.size (by omega)
  rw [List.flatMap_singleton] at hwalk
  rw [leavesBelow, cstPreorderTo_eq_walk, hwalk, List.filterMap_map]
  rfl

theorem map_bytes_leavesBelow
    (hspans : Spans t.cstChildrenOf CstId.mk (t.cstChildrenOf ⟨a⟩) (a + 1) b)
    (hb : b ≤ t.cst.size) : (t.leavesBelow ⟨a⟩).map Leaf.bytes = t.bytesFrom a (b - a) := by
  rw [leavesBelow_eq hspans hb, List.map_filterMap, bytesFrom]
  refine List.filterMap_congr fun i _ => ?_
  rw [leafBytes?, Option.map_bind, funext Parse.bytes?_eq_leaf?]
  rfl

/-- **A node covers from the start of its first leaf to the end of its last**, in
bytes and in lines and characters. -/
theorem LeavesLocated.covers {chars : List Char} (h : t.LeavesLocated chars) {id : CstId}
    (hid : id.index < t.cst.size) :
    t.cstSpan? id = hull ((t.leavesBelow id).map Leaf.bytes) ∧
    t.cstRange? id = (t.cstSpan? id).map (locatedIn chars) ∧
    ∀ p ∈ t.cstSpan? id, p.1 ≤ p.2 := by
  obtain ⟨i⟩ := id
  obtain ⟨b, hb, hspans⟩ := h.toLeavesInOrder.exists_below hid
  have hspan : t.cstSpan? ⟨i⟩ = hull (t.bytesFrom i (b - i)) := spanTo_eq_hull hspans _ (by omega)
  refine ⟨?_, h.rangeTo_eq hspans _ (by omega), ?_⟩
  · rw [hspan, map_bytes_leavesBelow hspans hb]
  · intro p hp
    rw [hspan] at hp
    exact (IsCut.hull (h.pairwise_bytesFrom i (b - i)) h.cut_of_mem hp).le

end SyntaxTree

namespace Parse

variable {g : Grammar} {text : String} {lexemes : List Lexeme} {s : State}

/-- **A parse gives its leaves located in the text.** -/
theorem leavesLocated_of_entry (hsize : byteLength text.toList < UInt32.size)
    (hlexemes : Lexeme.ofText? g text.toList = some lexemes)
    {rule : Rule} {interrupt : Interrupt} {u : Unit} {t : SyntaxTree}
    (h : Parse.entry (sourceOf g text lexemes) rule
      (State.start (sourceOf g text lexemes) rule interrupt) = .ok (u, s))
    (ht : t = ⟨s.ast, s.cst, s.references, ⟨0⟩, ⟨0⟩⟩) : t.LeavesLocated text.toList := by
  have hleaves : t.cst.toList.filterMap CstNode.leaf? =
      (sourceOf g text lexemes).tokens.toList.map Token.leaf := by
    rw [ht]
    exact Covered.entry h
  -- a leaf is a token of the text
  have htoken : ∀ id node leaf, t.cst? id = some node → node.leaf? = some leaf →
      IsCut text.toList leaf.bytes ∧ leaf.range = locatedIn text.toList leaf.bytes := by
    intro id node leaf hnode hleaf
    have hmem : leaf ∈ (sourceOf g text lexemes).tokens.toList.map Token.leaf := by
      rw [← hleaves, List.mem_filterMap]
      exact ⟨node, Array.mem_def.mp (Array.mem_of_getElem? hnode), hleaf⟩
    obtain ⟨tok, htok, rfl⟩ := List.mem_map.mp hmem
    have hof := token_of hlexemes tok (Array.mem_def.mpr htok)
    exact ⟨isCut_of_slice? hof.text, hof.range.trans (LineIndex.range_eq hsize _ _)⟩
  refine ⟨leavesInOrder_of_entry (spread_sourceOf hlexemes) h ht, ?_, ?_⟩
  · intro id p hp
    obtain ⟨node, hnode, hbytes⟩ := Option.bind_eq_some_iff.mp hp
    rw [bytes?_eq_leaf?] at hbytes
    obtain ⟨leaf, hleaf, rfl⟩ := Option.map_eq_some_iff.mp hbytes
    exact (htoken id node leaf hnode hleaf).1
  · intro id
    rw [SyntaxTree.leafRange?, SyntaxTree.leafBytes?]
    cases hnode : t.cst? id with
    | none => rfl
    | some node =>
      have hrange := htoken id node
      rcases node with ⟨kind, _, _, _, _, _⟩
      cases kind with
      | leaf type offset length range => exact congrArg some (hrange _ hnode rfl).2
      | _ => rfl

end Parse

/-- **Ranges of nodes agree with their spans.** A concrete node of a parse has
neither exactly if no leaf is below it. Else its span is from the start of the
first leaf below it to the end of the last, and its range is that of this span
in the table of the lines of the text. -/
theorem Grammar.parse_covers {g : Grammar} {text : String} {name : Option String}
    {interrupt left : Interrupt} {r : ParseResult} (hsize : text.utf8ByteSize < UInt32.size)
    (hparse : g.parse text name interrupt = .ok (r, left)) {id : CstId}
    (hid : id.index < r.tree.cst.size) :
    (r.tree.cstSpan? id = none ↔ r.tree.leavesBelow id = []) ∧
    (r.tree.cstRange? id = none ↔ r.tree.leavesBelow id = []) ∧
    ∀ first last, (r.tree.leavesBelow id).head? = some first →
      (r.tree.leavesBelow id).getLast? = some last →
        first.offset ≤ last.offset + last.length ∧
        r.tree.cstSpan? id = some (first.offset, last.offset + last.length) ∧
        r.tree.cstRange? id = some ((LineIndex.ofText text.toList).range text.toList first.offset
          (last.offset + last.length - first.offset)) := by
  obtain ⟨rule, -, lexemes, _, s, -, -, -, hlexemes, hentry, -, htree, -, -⟩ := Parse.parse_ok hparse
  rw [← byteLength_toList] at hsize
  have hlocated := Parse.leavesLocated_of_entry hsize hlexemes hentry htree
  obtain ⟨hspan, hrange, hproper⟩ := hlocated.covers hid
  have hnone : r.tree.cstSpan? id = none ↔ r.tree.leavesBelow id = [] := by
    rw [hspan, hull_eq_none_iff, List.map_eq_nil_iff]
  refine ⟨hnone, by rw [hrange, Option.map_eq_none_iff, hnone], ?_⟩
  intro first last hfirst hlast
  have hsome : r.tree.cstSpan? id = some (first.offset, last.offset + last.length) := by
    rw [hspan, hull, List.head?_map, List.getLast?_map, hfirst, hlast]
    rfl
  have hle := hproper _ hsome
  refine ⟨hle, hsome, ?_⟩
  rw [hrange, hsome, Option.map_some, locatedIn_eq_rangeAt hle, LineIndex.range_eq hsize]

/-- An item on the second line, with a note in front: its bytes are those from 3 to
7, and its characters the second to the fourth of the line. -/
theorem Grammar.parse_covers_second :
    ∃ r left, "é\n#a:b#".utf8ByteSize < UInt32.size ∧
      Noted.grammar.parse "é\n#a:b#" none .never = .ok (r, left) ∧ 1 < r.tree.cst.size ∧
      r.tree.leavesBelow ⟨1⟩ ≠ [] ∧ r.tree.cstSpan? ⟨1⟩ = some (3, 7) ∧
      r.tree.cstRange? ⟨1⟩ = some ⟨⟨1, 0⟩, ⟨1, 4⟩⟩ := by
  have hparsed : (Noted.grammar.parse "é\n#a:b#" none .never).toOption.any (fun parsed =>
      decide (1 < parsed.1.tree.cst.size) &&
        ((parsed.1.tree.leavesBelow ⟨1⟩).head?.map Leaf.bytes == some (3, 4)) &&
        ((parsed.1.tree.leavesBelow ⟨1⟩).getLast?.map Leaf.bytes == some (6, 7))) = true := by
    decide +kernel
  obtain ⟨⟨r, left⟩, hparse, hends⟩ := (Option.any_eq_true _ _).mp hparsed
  simp only [Bool.and_eq_true, decide_eq_true_eq, beq_iff_eq, Option.map_eq_some_iff] at hends
  obtain ⟨⟨hid, first, hfirst, hstart⟩, last, hlast, hstop⟩ := hends
  have hsize : "é\n#a:b#".utf8ByteSize < UInt32.size := by decide
  have hok := ok_of_toOption hparse
  have hnode : (⟨1⟩ : CstId).index < r.tree.cst.size := hid
  obtain ⟨hnone, -, hcovers⟩ := Grammar.parse_covers hsize hok hnode
  obtain ⟨-, hspan, hrange⟩ := hcovers first last hfirst hlast
  have hoffset : first.offset = 3 := congrArg Prod.fst hstart
  have hend : last.offset + last.length = 7 := congrArg Prod.snd hstop
  rw [hoffset, hend] at hspan hrange
  refine ⟨r, left, hsize, hok, hid, ?_, hspan, ?_⟩
  · rw [ne_eq, ← hnone, hspan]
    exact Option.some_ne_none _
  · rw [hrange]
    decide

end Workbench
