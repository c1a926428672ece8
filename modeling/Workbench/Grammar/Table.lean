import Workbench.Grammar.Basic
/-!
# The element table

The table lists every rule and element of a grammar at its number. Both
ends of a transfer derive it from their own grammar, so that a number is
enough to name an element on the way; a digest of the table tells whether
the two ends agree.
-/

namespace Workbench

/-- The shape of a numbered element. -/
inductive ElementTag where
  | rule (name : String)
  | keyword (text : String)
  | terminal (name : String)
  | ruleCall (rule : String)
  | crossRef (target : String)
  | assignment (feature : String)
  | group
  | alternatives
  | repeated (cardinality : Cardinality)
deriving DecidableEq, Repr, Inhabited

/-- The shape of an element and what it names, in words. -/
def ElementTag.words : ElementTag → List String
  | rule name => ["Rule", name]
  | keyword text => ["Keyword", text]
  | terminal name => ["Terminal", name]
  | ruleCall callee => ["RuleCall", callee]
  | crossRef target => ["CrossRef", target]
  | assignment feature => ["Assignment", feature]
  | group => ["Group"]
  | alternatives => ["Alternatives"]
  | repeated .optional => ["Repeat", "Optional"]
  | repeated .many => ["Repeat", "Many"]
  | repeated .atLeastOne => ["Repeat", "AtLeastOne"]

/-- What the table holds of one element: its shape, the index of its rule,
and the feature assigned by it or around it. -/
structure TableEntry where
  tag : ElementTag
  rule : Nat
  feature : Option String
deriving DecidableEq, Repr, Inhabited

/-- All elements of a grammar by number. -/
structure ElementTable where
  entries : Array TableEntry
deriving DecidableEq, Repr, Inhabited

mutual

/-- The entries of an element and its parts, in preorder. -/
def Element.entries (g : Grammar) (rule : Nat) (feature : Option String) : Element → List TableEntry
  | .keyword _ text => [⟨.keyword text, rule, feature⟩]
  | .terminal _ index => [⟨.terminal (g.terminalName index), rule, feature⟩]
  | .call _ index => [⟨.ruleCall (g.ruleName index), rule, feature⟩]
  | .crossRef _ target _ => [⟨.crossRef target.typeName, rule, feature⟩]
  | .assign _ name _ value =>
    ⟨.assignment name, rule, some name⟩ :: value.entries g rule (some name)
  | .seq _ items => ⟨.group, rule, feature⟩ :: Element.entriesOf g rule feature items
  | .alt _ items => ⟨.alternatives, rule, feature⟩ :: Element.entriesOf g rule feature items
  | .repeated _ cardinality body =>
    ⟨.repeated cardinality, rule, feature⟩ :: body.entries g rule feature

/-- The entries of several elements, in order. -/
def Element.entriesOf (g : Grammar) (rule : Nat) (feature : Option String) :
    List Element → List TableEntry
  | [] => []
  | e :: es => e.entries g rule feature ++ Element.entriesOf g rule feature es

end

/-- The entries of rules whose first index is `index`. -/
def Rule.entriesFrom (g : Grammar) : Nat → List Rule → List TableEntry
  | _, [] => []
  | index, rule :: rules =>
    ⟨.rule rule.name, index, none⟩ ::
      (rule.body.entries g index none ++ Rule.entriesFrom g (index + 1) rules)

/-- **The element table of a grammar.** -/
def Grammar.table (g : Grammar) : ElementTable :=
  ⟨(Rule.entriesFrom g 0 g.rules.toList).toArray⟩

/-- A number that names no element. -/
structure UnknownElement where
  raw : Int
deriving DecidableEq, Repr, Inhabited

/-- The text of the defect. -/
def UnknownElement.message (e : UnknownElement) : String :=
  "invalid grammar element id: " ++ toString e.raw

namespace ElementTable

/-- The number that stands for no element. -/
def noElement : Int := -1

/-- The number that stands for an optional element. -/
def encode : Option ElementId → Int
  | some id => Int.ofNat id.index
  | none => noElement

/-- The optional element a number stands for. -/
def decode (t : ElementTable) (raw : Int) : Except UnknownElement (Option ElementId) :=
  if raw = noElement then .ok none
  else if 0 ≤ raw ∧ raw.toNat < t.entries.size then .ok (some ⟨raw.toNat⟩)
  else .error ⟨raw⟩

/-- The entry of an element. -/
def entry? (t : ElementTable) (id : ElementId) : Option TableEntry := t.entries[id.index]?

/-- The feature assigned by an element or around it. -/
def feature? (t : ElementTable) (id : ElementId) : Option String :=
  (t.entry? id).bind TableEntry.feature

/-- What is sent for every known number comes back. -/
theorem decode_encode (t : ElementTable) (source : Option ElementId)
    (h : ∀ id ∈ source, id.index < t.entries.size) : t.decode (encode source) = .ok source := by
  cases source with
  | none => rfl
  | some id =>
    have hid := h id rfl
    have hne : ¬ ((id.index : Int) = noElement) := by simp only [noElement]; omega
    simp [decode, encode, hne, hid]

/-- What is decoded is in the table. -/
theorem index_lt_of_decode {t : ElementTable} {raw : Int} {source : Option ElementId}
    (h : t.decode raw = .ok source) : ∀ id ∈ source, id.index < t.entries.size := by
  rw [decode] at h
  split at h
  · cases h
    nofun
  · split at h
    · next hraw =>
      cases h
      rintro id ⟨⟩
      exact hraw.2
    · cases h

/-! ## Digest -/

/-- Mixes a number into a digest. -/
def mix (h : UInt64) (n : UInt64) : UInt64 := (h ^^^ n) * 0x100000001b3

/-- Mixes a text and its length into a digest. -/
def mixText (h : UInt64) (s : String) : UInt64 :=
  s.toList.foldl (fun h c => mix h c.val.toUInt64) (mix h s.length.toUInt64)

/-- Mixes the shape of an element into a digest. -/
def mixTag (h : UInt64) : ElementTag → UInt64
  | .rule name => mixText (mix h 0) name
  | .keyword text => mixText (mix h 1) text
  | .terminal name => mixText (mix h 2) name
  | .ruleCall rule => mixText (mix h 3) rule
  | .crossRef target => mixText (mix h 4) target
  | .assignment feature => mixText (mix h 5) feature
  | .group => mix h 6
  | .alternatives => mix h 7
  | .repeated .optional => mix h 8
  | .repeated .many => mix h 9
  | .repeated .atLeastOne => mix h 10

/-- Mixes an entry into a digest. -/
def mixEntry (h : UInt64) (e : TableEntry) : UInt64 :=
  let h := mix (mixTag h e.tag) e.rule.toUInt64
  match e.feature with
  | none => mix h 0
  | some feature => mixText (mix h 1) feature

/-- **A digest of the table**: equal tables have equal digests. Its highest
bit is set, so that every digest takes the same number of bytes on the way. -/
def digest (t : ElementTable) : UInt64 :=
  t.entries.foldl mixEntry 0xcbf29ce484222325 ||| 0x8000000000000000

end ElementTable

end Workbench
