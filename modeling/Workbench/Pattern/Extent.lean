import Workbench.Pattern.Basic
import Workbench.Text.ByteRanges
/-!
# The size of patterns

A pattern that unfolds to too much is refused. What counts is the size of the
automata over bytes that would match it, one reading forwards and one reading
backwards: 32 bytes for each state, 8 for each of several ranges a state
distinguishes and 4 for each choice. Forwards, the states of a set are
shared whenever they go on alike. Backwards they are shared from the leading
byte on, as far as a table of 1000 slots remembers them, where a later state
takes the slot of an earlier one.
-/

namespace Workbench

/-- What an automaton holds so far: the number of its states and the bytes
of their lists. -/
structure Extent where
  states : Nat
  lists : Nat
deriving DecidableEq, Repr, Inhabited

/-- The direction an automaton reads in. -/
inductive Direction where
  | forwards
  | backwards
deriving DecidableEq, Repr, Inhabited

namespace Extent

/-- The size in bytes. -/
def bytes (e : Extent) : Nat := 32 * e.states + e.lists

/-- The greatest size that is accepted. -/
def limit : Nat := 10 * 1024 * 1024

/-- Adds states that hold lists of so many bytes together. -/
def add (e : Extent) (states lists : Nat) : Extent := ⟨e.states + states, e.lists + lists⟩

/-- Grows `n` times backwards, or as often as the limit allows. -/
def repeatedly (grow : Extent → Extent) : Nat → Extent → Extent
  | 0, e => e
  | n + 1, e => if limit < e.bytes then e else repeatedly grow n (grow e)

/-- Grows `n` times. Forwards every round adds the same; backwards it depends
on the states before. -/
def rounds (d : Direction) (grow : Extent → Extent) (n : Nat) (e : Extent) : Extent :=
  match d with
  | .forwards =>
    let once := grow ⟨0, 0⟩
    e.add (n * once.states) (n * once.lists)
  | .backwards => repeatedly grow n e

/-! ## Sets -/

/-- A state of a set that reads forwards: byte ranges with the states they
lead to. -/
abbrev Node := List ((Nat × Nat) × Nat)

/-- The number of the state for rows that are `depth` bytes long at most,
among the states so far; `0` stands for the end of the set. -/
def internRows : Nat → List (List (Nat × Nat)) → Array Node → Nat × Array Node
  | 0, _, nodes => (0, nodes)
  | depth + 1, rows, nodes =>
    let rows := rows.filter (!·.isEmpty)
    if rows.isEmpty then (0, nodes)
    else
      let groups := rows.splitBy fun a b => a.head? == b.head?
      let (node, nodes) := groups.foldl (fun (node, nodes) group =>
        let (child, nodes) := internRows depth (group.map List.tail) nodes
        (node ++ [((group.head?.bind List.head?).getD (0, 0), child)], nodes)) (([] : Node), nodes)
      match nodes.idxOf? node with
      | some i => (i + 1, nodes)
      | none => (nodes.size + 1, nodes.push node)

/-- A set that reads forwards. -/
def addForwards (rows : List (List (Nat × Nat))) (e : Extent) : Extent :=
  let (_, nodes) := internRows 5 rows #[]
  e.add (1 + nodes.size) (8 * nodes.foldl (fun n node => n + node.length) 0)

/-- A remembered state: where it goes on, its range and its number. -/
abbrev Slots := Array (Option ((Nat × Nat × Nat) × Nat))

/-- The slot for a state that goes on to `next` after the bytes from `lo` to
`hi`. -/
def slotOf (next lo hi : Nat) : Nat :=
  let mix (h : UInt64) (n : Nat) : UInt64 := (h ^^^ n.toUInt64) * 1099511628211
  (mix (mix (mix 14695981039346656037 next) lo) hi).toNat % 1000

/-- The number of a state that may be remembered in a slot; it takes the slot
if it is not. -/
def allot (slot : Nat) (key : Nat × Nat × Nat) (slots : Slots) (states : Nat) :
    Nat × Slots × Nat :=
  let another := (states, slots.setIfInBounds slot (some (key, states)), states + 1)
  match slots.getD slot none with
  | some (key', state) => if key' = key then (state, slots, states) else another
  | none => another

/-- The state for a range of bytes before the state `next`. -/
def addByte : Nat × Slots × Nat → Nat × Nat → Nat × Slots × Nat
  | (next, slots, states), (lo, hi) => allot (slotOf next lo hi) (next, lo, hi) slots states

/-- The states of one row that reads backwards, from the leading byte on. -/
def addRow (next : Nat) (row : List (Nat × Nat)) (s : Slots × Nat) : Slots × Nat :=
  (row.foldl addByte (next, s)).2

/-- A set that reads backwards. -/
def addBackwards (rows : List (List (Nat × Nat))) (e : Extent) : Extent :=
  let (_, states) := rows.foldl (fun s row => addRow (e.states + 1) row s)
    (Array.replicate 1000 none, e.states + 2)
  ⟨states, e.lists + 4 * rows.length⟩

/-- Adds the states of a set. One character has a state for each byte, a set
of ASCII characters two states. -/
def addSet (d : Direction) (s : CharSet) (e : Extent) : Extent :=
  match s.onlyMember? with
  | some c => e.add c.utf8Size 0
  | none =>
    if s.isAscii then e.add 2 (8 * s.ranges.length)
    else match d with
      | .forwards => addForwards s.byteRows e
      | .backwards => addBackwards s.byteRows e

/-! ## Choices between words -/

/-- The words of a choice, if each alternative is a word. -/
def words? (ps : List Pattern) : Option (List (List Char)) :=
  ps.mapM fun p =>
    if p.items.isEmpty then none
    else p.items.mapM fun item => item.set?.bind CharSet.onlyMember?

/-- Adds a tree of words, at most `depth` bytes long: each inner node has a
choice, and a state for the bytes that go on from it. A word that ends at an
inner node parts the words before it from those after it. -/
def addTree : Nat → List (List UInt8) → Extent → Extent
  | 0, _, e => e
  | depth + 1, words, e =>
    let parts := words.splitBy fun a b => a.isEmpty == b.isEmpty
    let ends := (parts.filter fun part => part.all List.isEmpty).length
    parts.foldl (fun e part =>
      let heads := (part.filterMap List.head?).eraseDups
      if heads.isEmpty then e
      else
        let e := heads.foldl (fun e b =>
          let tails := (part.filter (·.head? == some b)).map List.tail
          if tails.all List.isEmpty then e else addTree depth tails e) e
        e.add 1 (4 + if heads.length = 1 then 0 else 8 * heads.length))
      (e.add 1 (4 * ends))

/-- Adds a choice between words. -/
def addWords (d : Direction) (words : List (List Char)) (e : Extent) : Extent :=
  let bytes := words.map fun w => w.flatMap fun c => c.toString.toUTF8.toList
  let bytes := if d = .backwards then bytes.map List.reverse else bytes
  addTree (bytes.foldl (fun n w => max n w.length) 0) bytes (e.add 1 0)

end Extent

namespace Pattern

/-- Whether the pattern is a choice. -/
def isChoice : Pattern → Bool
  | alt _ _ => true
  | _ => false

/-- Adds the states of a pattern; `place` counts the alternatives before it
in the same choice. Two states for the choice itself come after its second
alternative, and it has 4 bytes for each. -/
def grow (d : Direction) : Nat → Pattern → Extent → Extent
  | _, empty, e => e.add 1 0
  | _, char set, e => e.addSet d set
  | _, assertion _, e => e.add 1 0
  | _, seq p q, e =>
    match d with
    | .forwards => grow d 0 q (grow d 0 p e)
    | .backwards => grow d 0 p (grow d 0 q e)
  | place, alt p q, e =>
    match if place = 0 then Extent.words? (alt p q).choices else none with
    | some words => e.addWords d words
    | none =>
      let e := (grow d 0 p e).add (if place = 1 then 2 else 0) 4
      if q.isChoice then grow d (place + 1) q e
      else (grow d 0 q e).add (if place = 0 then 2 else 0) 4
  | _, group _ p, e =>
    match d with
    | .forwards => (grow d 0 p (e.add 1 0)).add 1 0
    | .backwards => grow d 0 p e
  | _, repeated least most _ p, e =>
    match least, most with
    | 0, some 1 => (grow d 0 p (e.add 1 8)).add 1 0
    | 0, none =>
      if p.minLength?.any (0 < ·) then grow d 0 p (e.add 1 8) else (grow d 0 p e).add 3 16
    | least, none => (Extent.rounds d (grow d 0 p) least e).add 1 8
    | least, some most =>
      let e := Extent.rounds d (grow d 0 p) least (if least = 0 then e.add 1 0 else e)
      if most = least then e
      else Extent.rounds d (fun e => grow d 0 p (e.add 1 8)) (most - least) (e.add 1 0)

/-- **The automaton of a pattern in one direction.** A search that can start
anywhere has three states of its own, the group of the whole match two and
acceptance one. -/
def extent (p : Pattern) (d : Direction) : Extent :=
  match d with
  | .forwards =>
    (grow d 0 p ⟨if p.startsText then 2 else 4, if p.startsText then 0 else 16⟩).add 2 0
  | .backwards => (grow d 0 p ⟨3, 16⟩).add 1 0

/-- Whether a pattern is small enough in both directions. -/
def isSmall (p : Pattern) : Bool :=
  (p.extent .backwards).bytes ≤ Extent.limit && (p.extent .forwards).bytes ≤ Extent.limit

end Pattern

end Workbench
