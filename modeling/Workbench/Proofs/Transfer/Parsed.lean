import Workbench.Proofs.Parse.Linked
import Workbench.Proofs.Transfer.RoundTrip
/-!
# Transfers of parses

A parse may give a result that a transfer does not keep: an assignment that
is overwritten leaves concrete nodes that point to what nothing holds any
more, a feature may have the name of a built-in property, and a feature may
refer to different types in different places. `Portable` excludes these
three, and lists that are too long for their places to be sent; nothing else
goes wrong, as the links of every parse agree.
-/

namespace Workbench

/-- **A copy that cannot be told from a result.** It has the same nodes,
references and links at new handles, so the same types, targets and links
between the trees; it is shown alike, and it has the same errors. -/
structure ParseResult.Mirrored (r copy : ParseResult) : Prop where
  /-- It is the tree as its receiver sees it. -/
  tree : copy.tree = r.tree.received
  /-- The abstract trees are shown alike. -/
  shown : copy.tree.render = r.tree.render
  /-- The concrete trees are shown alike. -/
  shownCst : copy.tree.renderCst = r.tree.renderCst
  /-- The same characters were not read. -/
  lexerErrors : copy.lexerErrors = r.lexerErrors
  /-- The same errors were met. -/
  parserErrors : copy.parserErrors = r.parserErrors

theorem SyntaxTree.Linked.mirrored_received {g : Grammar} {r : ParseResult}
    (h : r.tree.Linked g) (hp : r.tree.Portable g) : r.Mirrored r.received where
  tree := rfl
  shown := h.render_received
  shownCst := h.renderCst_received hp.links
  lexerErrors := rfl
  parserErrors := rfl

namespace Transfer

/-- A receiver rebuilds a copy that cannot be told from a result exactly if
nothing is lost on the way to it. -/
theorem exists_mirrored_iff {g : Grammar} {r : ParseResult} (h : r.tree.Linked g) :
    (∃ copy, rebuild g (flatten r) = .ok copy ∧ r.Mirrored copy) ↔ r.tree.Portable g := by
  constructor
  · rintro ⟨copy, hcopy, hmirrored⟩
    exact portable_of_rebuild h hcopy hmirrored.tree
  · intro hportable
    exact ⟨r.received, rebuild_flatten_of_portable h hportable, h.mirrored_received hportable⟩

/-- **Which parses a transfer keeps.** The instructions of a parse rebuild a
copy that cannot be told from it exactly if its concrete nodes point to
nodes that the root reaches, the names of its properties are free, its
references have the targets of their places, and the places that its nodes
record fit in what is sent. -/
theorem mirrored_iff_portable {d : Definition} {g : Grammar} (hbuild : d.build = .ok g)
    {text : String} {name : Option String} {interrupt left : Interrupt} {r : ParseResult}
    (hparse : g.parse text name interrupt = .ok (r, left)) :
    (∃ copy, rebuild g (flatten r) = .ok copy ∧ r.Mirrored copy) ↔ r.tree.Portable g :=
  exists_mirrored_iff (Grammar.parse_linked hbuild hparse)

/-! ## A feature that is assigned twice -/

namespace Overwritten

/-- A model of two items, of which the second replaces the first. -/
def definition : Definition :=
  { name := "Pair"
    terminals := []
    rules := [
      ⟨"Model", some "Model",
        .seq [.assign "item" .set (.call "Item"), .assign "item" .set (.call "Item")]⟩,
      ⟨"Item", some "Item", .keyword "x"⟩]
    entry := none }

/-- The compiled definition. -/
def grammar : Grammar :=
  { name := "Pair"
    terminals := #[]
    rules := #[
      ⟨⟨0⟩, "Model", .node "Model",
        .seq ⟨1⟩ [.assign ⟨2⟩ "item" .set (.call ⟨3⟩ 1), .assign ⟨4⟩ "item" .set (.call ⟨5⟩ 1)]⟩,
      ⟨⟨6⟩, "Item", .node "Item", .keyword ⟨7⟩ "x"⟩]
    entry := 0
    keywords := ["x"] }

/-- The parse of two items. -/
def result : ParseResult :=
  { tree :=
      { ast := #[
          ⟨"Model", none, none, none, some ⟨0⟩, ⟨[("item", .node ⟨2⟩)]⟩⟩,
          ⟨"Item", some ⟨0⟩, some "item", none, some ⟨1⟩, ⟨[]⟩⟩,
          ⟨"Item", some ⟨0⟩, some "item", none, some ⟨3⟩, ⟨[]⟩⟩]
        cst := #[
          ⟨.root "xx" #[⟨1⟩, ⟨3⟩], none, ⟨0⟩, some ⟨0⟩, some ⟨0⟩, false⟩,
          ⟨.composite #[⟨2⟩], some ⟨0⟩, ⟨0⟩, some ⟨1⟩, some ⟨3⟩, false⟩,
          ⟨.leaf "x" 0 1 ⟨⟨0, 0⟩, ⟨0, 1⟩⟩, some ⟨1⟩, ⟨0⟩, some ⟨1⟩, some ⟨7⟩, false⟩,
          ⟨.composite #[⟨4⟩], some ⟨0⟩, ⟨0⟩, some ⟨2⟩, some ⟨5⟩, false⟩,
          ⟨.leaf "x" 1 1 ⟨⟨0, 1⟩, ⟨0, 2⟩⟩, some ⟨3⟩, ⟨0⟩, some ⟨2⟩, some ⟨7⟩, false⟩]
        references := #[]
        root := ⟨0⟩
        cstRoot := ⟨0⟩ }
    lexerErrors := []
    parserErrors := [] }

theorem build_definition : definition.build = .ok grammar :=
  Definition.build_of_ordered (by decide) rfl rfl

theorem parse_text : grammar.parse "xx" none .never = .ok (result, .never) := by
  decide +kernel

/-- The first composite points to the first item, and the root does not reach
it. -/
theorem not_portable : ¬ result.tree.Portable grammar := by
  intro h
  have hcst : result.tree.HasCst ⟨1⟩ := (Reaches.refl _).down (by decide)
  have hitem : result.tree.HasNode ⟨1⟩ := h.links ⟨1⟩ _ hcst rfl ⟨1⟩ rfl
  have hmem : (⟨1⟩ : NodeId) ∈ [⟨0⟩, (⟨2⟩ : NodeId)] :=
    hitem.invariant (P := (· ∈ [⟨0⟩, (⟨2⟩ : NodeId)])) (by decide) (by decide)
  revert hmem
  decide

end Overwritten

/-- A copy of two items, of which the second replaces the first, can be told
from the original: it is shown without a link to the first item. -/
theorem mirrored_iff_portable_overwritten :
    Overwritten.definition.build = .ok Overwritten.grammar ∧
    Overwritten.grammar.parse "xx" none .never = .ok (Overwritten.result, .never) ∧
    ¬ (∃ copy, rebuild Overwritten.grammar (flatten Overwritten.result) = .ok copy ∧
      Overwritten.result.Mirrored copy) ∧
    (rebuild Overwritten.grammar (flatten Overwritten.result)).toOption.map
      (fun copy => copy.tree.renderCst) ≠ some Overwritten.result.tree.renderCst := by
  refine ⟨Overwritten.build_definition, Overwritten.parse_text, ?_, by decide +kernel⟩
  rw [mirrored_iff_portable Overwritten.build_definition Overwritten.parse_text]
  exact Overwritten.not_portable

end Transfer

end Workbench
