import Workbench.Grammar.Basic
import Mathlib.Data.List.Basic
/-!
# Kinds of items

A feature holds scalars, nodes or references. Which of them an assignment
may store can be read off its value. A feature that a body appends items of
different kinds to is mixed (`Element.Mixes`): an item then may replace the
list of the others.
-/

namespace Workbench

/-- What an item of a feature can be. -/
inductive ItemKind where
  | scalar
  | node
  | reference
deriving DecidableEq, Repr

namespace Element

mutual

/-- The kinds of values an element may have inside an assignment. -/
def kinds : Element → List ItemKind
  | keyword _ _ => [.scalar]
  | terminal _ _ => [.scalar]
  | call _ _ => [.node]
  | crossRef _ _ _ => [.reference]
  | alt _ items => kindsOf items
  | assign _ _ _ _ => []
  | seq _ _ => []
  | repeated _ _ _ => []

/-- The kinds of values several elements may have inside an assignment. -/
def kindsOf : List Element → List ItemKind
  | [] => []
  | e :: es => e.kinds ++ kindsOf es

end

/-- The kinds of items a body may append to a feature. -/
def appended (body : Element) (feature : String) : List ItemKind :=
  body.assignments.flatMap fun (name, op, value) =>
    if name = feature ∧ op = .append then value.kinds else []

/-- **A mixed feature**: items of different kinds are appended to it. -/
def Mixes (body : Element) (feature : String) : Prop :=
  ∃ k ∈ body.appended feature, ∃ k' ∈ body.appended feature, k ≠ k'

instance (body : Element) (feature : String) : Decidable (body.Mixes feature) :=
  inferInstanceAs (Decidable (∃ k ∈ body.appended feature, ∃ k' ∈ body.appended feature, k ≠ k'))

theorem mem_appended {body : Element} {feature : String} {k : ItemKind} :
    k ∈ body.appended feature ↔
      ∃ value, (feature, .append, value) ∈ body.assignments ∧ k ∈ value.kinds := by
  rw [appended, List.mem_flatMap]
  constructor
  · rintro ⟨⟨name, op, value⟩, hmem, hk⟩
    dsimp only at hk
    split at hk
    next h => exact ⟨value, h.1 ▸ h.2 ▸ hmem, hk⟩
    next => cases hk
  · rintro ⟨value, hmem, hk⟩
    refine ⟨_, hmem, ?_⟩
    dsimp only
    rwa [if_pos ⟨rfl, rfl⟩]

end Element

end Workbench
