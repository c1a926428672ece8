import Workbench.Grammar.Basic
import Mathlib.Data.Nat.Notation
/-!
# Grammars without left recursion

A rule that is called again inside itself before any token is passed is
called for ever. Which rules an element calls first can be read off it, once
it is known which rules may match without a token: `Graded` says that rules
call first only rules of lower ranks, so that no rule comes back to itself.
-/

namespace Workbench

namespace Element

mutual

/-- **Whether an element may match without a token**, if certain rules may. -/
def idle (rules : ℕ → Bool) : Element → Bool
  | .keyword _ _ => false
  | .terminal _ _ => false
  | .call _ rule => rules rule
  | .crossRef _ _ _ => false
  | .assign _ _ _ value => value.idle rules
  | .seq _ items => idleAll rules items
  | .alt _ items => idleAny rules items
  | .repeated _ cardinality body => cardinality != .atLeastOne || body.idle rules

/-- Whether all elements may match without a token. -/
def idleAll (rules : ℕ → Bool) : List Element → Bool
  | [] => true
  | e :: es => e.idle rules && idleAll rules es

/-- Whether one of the elements may match without a token. -/
def idleAny (rules : ℕ → Bool) : List Element → Bool
  | [] => false
  | e :: es => e.idle rules || idleAny rules es

end

mutual

/-- **The rules that an element may call before it passes a token.** -/
def leads (rules : ℕ → Bool) : Element → List ℕ
  | .keyword _ _ => []
  | .terminal _ _ => []
  | .call _ rule => [rule]
  | .crossRef _ _ _ => []
  | .assign _ _ _ value => value.leads rules
  | .seq _ items => leadsAll rules items
  | .alt _ items => leadsAny rules items
  | .repeated _ _ body => body.leads rules

/-- The rules called before a token is passed, if all elements have to match. -/
def leadsAll (rules : ℕ → Bool) : List Element → List ℕ
  | [] => []
  | e :: es => e.leads rules ++ if e.idle rules then leadsAll rules es else []

/-- The rules called before a token is passed, if one element has to match. -/
def leadsAny (rules : ℕ → Bool) : List Element → List ℕ
  | [] => []
  | e :: es => e.leads rules ++ leadsAny rules es

end

end Element

/-- **A grammar without left recursion**: some rules may match without a
token, and every rule has a rank above those that it calls first. -/
structure Graded (g : Grammar) (rules : ℕ → Bool) (rank : ℕ → ℕ) : Prop where
  idle : ∀ (i : ℕ) rule, g.rules[i]? = some rule → rule.body.idle rules = true → rules i = true
  rank_lt : ∀ (i : ℕ) rule, g.rules[i]? = some rule →
    ∀ j ∈ rule.body.leads rules, rank j < rank i
  rank_bound : ∀ i, rank i < g.rules.size

/-- Whether every rule of a grammar has a rank above those that it calls
first. -/
def Grammar.isGraded (g : Grammar) (rules : ℕ → Bool) (rank : ℕ → ℕ) : Bool :=
  g.rules.toList.zipIdx.all fun (rule, i) =>
    (!rule.body.idle rules || rules i) && (rule.body.leads rules).all fun j => rank j < rank i

theorem Graded.of_isGraded {g : Grammar} {rules : ℕ → Bool} {rank : ℕ → ℕ}
    (h : g.isGraded rules rank = true) (hbound : ∀ i, rank i < g.rules.size) :
    Graded g rules rank := by
  have hrule : ∀ (i : ℕ) rule, g.rules[i]? = some rule →
      (rule.body.idle rules = true → rules i = true) ∧
        ∀ j ∈ rule.body.leads rules, rank j < rank i := by
    intro i rule hrule
    have hmem : (rule, i) ∈ g.rules.toList.zipIdx := by
      rw [List.mem_zipIdx_iff_getElem?, Array.getElem?_toList]
      exact hrule
    have hone := List.all_eq_true.mp h (rule, i) hmem
    rw [Bool.and_eq_true, Bool.or_eq_true, List.all_eq_true] at hone
    refine ⟨fun hidle => ?_, fun j hj => decide_eq_true_iff.mp (hone.2 j hj)⟩
    rcases hone.1 with hnot | hrules
    · rw [hidle] at hnot
      cases hnot
    · exact hrules
  exact ⟨fun i rule hi => (hrule i rule hi).1, fun i rule hi => (hrule i rule hi).2, hbound⟩

end Workbench
