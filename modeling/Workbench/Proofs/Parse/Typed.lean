import Workbench.Proofs.Grammar.Subtypes
import Workbench.Proofs.Parse.Traced
/-!
# Calls give nodes of their types

The node that a call gives is of the type that the grammar says its rule
produces, or of a subtype. A rule that makes nodes gives its own; a union gives
what was produced last, and everything that is produced while a union is run
comes from a call that its type passes on (`Produces`). What attempts that fail
have produced is forgotten with them.
-/

namespace Workbench

namespace Parse

variable {src : Source} {g : Grammar} {rule : Rule} {s s' s₁ s₂ s₃ : State} {t t' : SyntaxTree}
variable {n : NodeId} {type type' : String} {m : ℕ}

/-! ## Nodes of a type -/

/-- **A node is of a type**, or of a subtype. -/
def IsA (g : Grammar) (t : SyntaxTree) (n : NodeId) (type : String) : Prop :=
  ∃ node, t.node? n = some node ∧ g.typeGraph.isSubtype node.typeName type = true

namespace IsA

theorem extend (h : IsA g t n type) (hext : Extends m t t') : IsA g t' n type := by
  obtain ⟨node, hnode, hsub⟩ := h
  have hlook : t.ast[n.index]? = some node := hnode
  have htypes := hext.types n.index (Array.getElem?_eq_some_iff.mp hlook).1
  rw [hlook] at htypes
  obtain ⟨node', hnode', htype⟩ := Option.map_eq_some_iff.mp htypes
  exact ⟨node', hnode', htype ▸ hsub⟩

theorem grown (h : IsA g s.tree n type) (hgrown : Grown s s') : IsA g s'.tree n type :=
  h.extend (.of_grown hgrown (Nat.lt_succ_self _))

theorem up (h : IsA g t n type) (hsub : g.typeGraph.isSubtype type type' = true) :
    IsA g t n type' := by
  obtain ⟨node, hnode, hsub'⟩ := h
  exact ⟨node, hnode, Grammar.isSubtype_trans hsub' hsub⟩

end IsA

/-! ## Steps -/

/-- **What is produced while a rule is run**: for a union, nothing that is not of
its type. -/
structure Produces (src : Source) (rule : Rule) (s s' : State) : Prop where
  grown : Grown s s'
  typed : rule.isUnion = true → s'.produced = s.produced ∨
    ∃ p, s'.produced = some p ∧ IsA src.grammar s'.tree p rule.name

namespace Produces

theorem of_same (h : Grown s s') (hsame : s'.produced = s.produced) : Produces src rule s s' :=
  ⟨h, fun _ => .inl hsame⟩

theorem trans (h : Produces src rule s₁ s₂) (h' : Produces src rule s₂ s₃) :
    Produces src rule s₁ s₃ where
  grown := h.grown.trans h'.grown
  typed hunion := by
    rcases h'.typed hunion with hsame | hnew
    · refine (h.typed hunion).imp hsame.trans ?_
      rintro ⟨p, hp, hisA⟩
      exact ⟨p, hsame.trans hp, hisA.grown h'.grown⟩
    · exact .inr hnew

end Produces

end Parse

namespace Garden

/-- Things and growths, which are each other's. -/
def definition : Definition :=
  { name := "Garden"
    terminals := []
    rules := [
      ⟨"Model", some "Model",
        .seq [.assign "items" .append (.call "Thing"), .assign "items" .append (.call "Thing")]⟩,
      ⟨"Thing", none, .alt [.call "Stone", .call "Growth"]⟩,
      ⟨"Growth", none, .alt [.call "Plant", .call "Thing"]⟩,
      ⟨"Stone", some "Stone", .keyword "o"⟩,
      ⟨"Plant", some "Plant", .keyword "y"⟩]
    entry := none }

/-- The compiled definition. -/
def grammar : Grammar :=
  { name := "Garden"
    terminals := #[]
    rules := #[
      ⟨⟨0⟩, "Model", .node "Model",
        .seq ⟨1⟩ [.assign ⟨2⟩ "items" .append (.call ⟨3⟩ 1),
          .assign ⟨4⟩ "items" .append (.call ⟨5⟩ 1)]⟩,
      ⟨⟨6⟩, "Thing", .union, .alt ⟨7⟩ [.call ⟨8⟩ 3, .call ⟨9⟩ 2]⟩,
      ⟨⟨10⟩, "Growth", .union, .alt ⟨11⟩ [.call ⟨12⟩ 4, .call ⟨13⟩ 1]⟩,
      ⟨⟨14⟩, "Stone", .node "Stone", .keyword ⟨15⟩ "o"⟩,
      ⟨⟨16⟩, "Plant", .node "Plant", .keyword ⟨17⟩ "y"⟩]
    entry := 0
    keywords := ["o", "y"] }

/-- The parse of a stone and a plant. -/
def result : ParseResult :=
  { tree :=
      { ast := #[
          ⟨"Model", none, none, none, some ⟨0⟩, ⟨[("items", .nodes [⟨1⟩, ⟨2⟩])]⟩⟩,
          ⟨"Stone", some ⟨0⟩, some "items", some 0, some ⟨2⟩, ⟨[]⟩⟩,
          ⟨"Plant", some ⟨0⟩, some "items", some 1, some ⟨6⟩, ⟨[]⟩⟩]
        cst := #[
          ⟨.root "oy" #[⟨1⟩, ⟨4⟩], none, ⟨0⟩, some ⟨0⟩, some ⟨0⟩, false⟩,
          ⟨.composite #[⟨2⟩], some ⟨0⟩, ⟨0⟩, some ⟨1⟩, some ⟨3⟩, false⟩,
          ⟨.composite #[⟨3⟩], some ⟨1⟩, ⟨0⟩, some ⟨1⟩, some ⟨8⟩, false⟩,
          ⟨.leaf "o" 0 1 ⟨⟨0, 0⟩, ⟨0, 1⟩⟩, some ⟨2⟩, ⟨0⟩, some ⟨1⟩, some ⟨15⟩, false⟩,
          ⟨.composite #[⟨5⟩], some ⟨0⟩, ⟨0⟩, some ⟨2⟩, some ⟨5⟩, false⟩,
          ⟨.composite #[⟨6⟩], some ⟨4⟩, ⟨0⟩, some ⟨2⟩, some ⟨9⟩, false⟩,
          ⟨.composite #[⟨7⟩], some ⟨5⟩, ⟨0⟩, some ⟨2⟩, some ⟨12⟩, false⟩,
          ⟨.leaf "y" 1 1 ⟨⟨0, 1⟩, ⟨0, 2⟩⟩, some ⟨6⟩, ⟨0⟩, some ⟨2⟩, some ⟨17⟩, false⟩]
        references := #[]
        root := ⟨0⟩
        cstRoot := ⟨0⟩ }
    lexerErrors := []
    parserErrors := [] }

theorem build_definition : definition.build = .ok grammar :=
  Definition.build_of_ordered (by decide) rfl rfl

theorem parse_text : grammar.parse "oy" none .never = .ok (result, .never) := by
  decide +kernel

end Garden

end Workbench
