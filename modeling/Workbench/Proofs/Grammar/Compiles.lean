import Workbench.Grammar.Compile
import Mathlib.Data.List.Basic
/-!
# Compilation as a relation

What compiling gives, without the checks that it makes on the way: an
expression compiles to an element as its parts compile to those of the
element, and a rule as its body does. Whatever holds of everything that is
compiled is shown by induction on these relations, so that what the compiler
checks, and in which order, is looked at here only.
-/

namespace Workbench

/-! ## Results -/

/-- A result that was computed in two steps. -/
theorem bind_eq_ok {ε α β : Type} {x : Except ε α} {f : α → Except ε β} {b : β}
    (h : (x >>= f) = .ok b) : ∃ a, x = .ok a ∧ f a = .ok b := by
  cases x with
  | error e => cases h
  | ok a => exact ⟨a, rfl, h⟩

/-! ## Expressions -/

mutual

/-- **An expression compiles to an element** in a rule, inside of an
assignment or not. The numbers of the element are those from `next` on, and
`next'` is the first that is left. -/
inductive Expr.Compiles (d : Definition) (rule : RuleDef) :
    Bool → Expr → ℕ → Element → ℕ → Prop
  | keyword {assigned : Bool} {text : String} {next : ℕ} :
      Expr.Compiles d rule assigned (.keyword text) next (.keyword ⟨next⟩ text) (next + 1)
  | terminal {assigned : Bool} {name : String} {next index : ℕ} : d.token rule name = .ok index →
      Expr.Compiles d rule assigned (.terminal name) next (.terminal ⟨next⟩ index) (next + 1)
  /-- A rule that makes nodes assigns what it calls. -/
  | call {assigned : Bool} {name : String} {next index : ℕ} :
      d.rules.findIdx? (·.name == name) = some index →
      (assigned = true ∨ rule.typeName.isNone = true) →
      Expr.Compiles d rule assigned (.call name) next (.call ⟨next⟩ index) (next + 1)
  | crossRef {target name : String} {multi : Bool} {next index : ℕ} : d.declares target = true →
      d.token rule name = .ok index →
      Expr.Compiles d rule true (.crossRef target name multi) next
        (.crossRef ⟨next⟩ ⟨target, multi⟩ index) (next + 1)
  /-- Assignments are made to nodes, and stand in no other. -/
  | assign {feature : String} {op : AssignOp} {value : Expr} {next next' : ℕ} {compiled : Element} :
      rule.typeName.isNone = false → value.assignable = true →
      Expr.Compiles d rule true value (next + 1) compiled next' →
      Expr.Compiles d rule false (.assign feature op value) next
        (.assign ⟨next⟩ feature op compiled) next'
  | seq {assigned : Bool} {items : List Expr} {next next' : ℕ} {compiled : List Element} :
      Expr.CompilesAll d rule assigned items (next + 1) compiled next' →
      Expr.Compiles d rule assigned (.seq items) next (.seq ⟨next⟩ compiled) next'
  | alt {assigned : Bool} {items : List Expr} {next next' : ℕ} {compiled : List Element} :
      Expr.CompilesAll d rule assigned items (next + 1) compiled next' →
      Expr.Compiles d rule assigned (.alt items) next (.alt ⟨next⟩ compiled) next'
  | repeated {assigned : Bool} {cardinality : Cardinality} {body : Expr} {next next' : ℕ}
      {compiled : Element} : Expr.Compiles d rule assigned body (next + 1) compiled next' →
      Expr.Compiles d rule assigned (.repeated cardinality body) next
        (.repeated ⟨next⟩ cardinality compiled) next'

/-- Expressions compile from left to right. -/
inductive Expr.CompilesAll (d : Definition) (rule : RuleDef) :
    Bool → List Expr → ℕ → List Element → ℕ → Prop
  | nil {assigned : Bool} {next : ℕ} : Expr.CompilesAll d rule assigned [] next [] next
  | cons {assigned : Bool} {e : Expr} {es : List Expr} {next next₁ next' : ℕ} {compiled : Element}
      {others : List Element} : Expr.Compiles d rule assigned e next compiled next₁ →
      Expr.CompilesAll d rule assigned es next₁ others next' →
      Expr.CompilesAll d rule assigned (e :: es) next (compiled :: others) next'

end

variable {d : Definition} {rule : RuleDef}

mutual

/-- **The compiler follows the relation.** -/
theorem Expr.compiles : ∀ {e : Expr} {assigned : Bool} {next next' : ℕ} {compiled : Element},
    e.compile d rule assigned next = .ok (compiled, next') →
      Expr.Compiles d rule assigned e next compiled next'
  | .keyword text, _, _, _, _, h => by
    rw [Expr.compile] at h
    cases h
    exact .keyword
  | .terminal name, _, _, _, _, h => by
    rw [Expr.compile] at h
    obtain ⟨index, hindex, h⟩ := bind_eq_ok h
    cases h
    exact .terminal hindex
  | .call name, assigned, _, _, _, h => by
    rw [Expr.compile] at h
    split at h
    · cases h
    · next index hindex =>
      split at h
      · cases h
      · next hplace =>
        cases h
        refine .call hindex ?_
        rwa [Bool.and_eq_true, Bool.not_eq_true', not_and_or, Bool.not_eq_false,
          Option.not_isSome_iff_eq_none, ← Option.isNone_iff_eq_none] at hplace
  | .crossRef target name multi, assigned, _, _, _, h => by
    rw [Expr.compile] at h
    split at h
    · cases h
    · next hassigned =>
      split at h
      · cases h
      · next hdeclares =>
        obtain ⟨index, hindex, h⟩ := bind_eq_ok h
        cases h
        obtain rfl : assigned = true := by simpa using hassigned
        exact .crossRef (by simpa using hdeclares) hindex
  | .assign feature op value, assigned, _, _, _, h => by
    rw [Expr.compile] at h
    split at h
    · cases h
    · next hassigned =>
      split at h
      · cases h
      · next hunion =>
        split at h
        · cases h
        · next hvalue =>
          obtain ⟨⟨compiled, next'⟩, hcompiled, h⟩ := bind_eq_ok h
          cases h
          obtain rfl : assigned = false := by simpa using hassigned
          exact .assign (Bool.eq_false_iff.mpr hunion) (by simpa using hvalue)
            (Expr.compiles hcompiled)
  | .seq items, _, _, _, _, h => by
    rw [Expr.compile] at h
    obtain ⟨⟨compiled, next'⟩, hitems, h⟩ := bind_eq_ok h
    cases h
    exact .seq (Expr.compilesAll hitems)
  | .alt items, _, _, _, _, h => by
    rw [Expr.compile] at h
    obtain ⟨⟨compiled, next'⟩, hitems, h⟩ := bind_eq_ok h
    cases h
    exact .alt (Expr.compilesAll hitems)
  | .repeated cardinality body, _, _, _, _, h => by
    rw [Expr.compile] at h
    obtain ⟨⟨compiled, next'⟩, hbody, h⟩ := bind_eq_ok h
    cases h
    exact .repeated (Expr.compiles hbody)

theorem Expr.compilesAll : ∀ {es : List Expr} {assigned : Bool} {next next' : ℕ}
    {compiled : List Element}, Expr.compileAll d rule assigned es next = .ok (compiled, next') →
      Expr.CompilesAll d rule assigned es next compiled next'
  | [], _, _, _, _, h => by
    rw [Expr.compileAll] at h
    cases h
    exact .nil
  | e :: es, _, _, _, _, h => by
    rw [Expr.compileAll] at h
    obtain ⟨⟨compiled, next₁⟩, he, h⟩ := bind_eq_ok h
    obtain ⟨⟨others, next'⟩, hes, h⟩ := bind_eq_ok h
    cases h
    exact .cons (Expr.compiles he) (Expr.compilesAll hes)

end

/-! ## Rules -/

/-- **A rule compiles** to one with the same name, whose number comes before
those of its body. -/
structure RuleDef.Compiles (d : Definition) (r : RuleDef) (next : ℕ) (compiled : Rule)
    (next' : ℕ) : Prop where
  id : compiled.id = ⟨next⟩
  name : compiled.name = r.name
  kind : compiled.kind = r.typeName.elim .union .node
  body : Expr.Compiles d r false r.body (next + 1) compiled.body next'

/-- A rule makes no nodes of its own if it names no type for them. -/
theorem RuleDef.Compiles.isUnion {r : RuleDef} {next next' : ℕ} {compiled : Rule}
    (h : r.Compiles d next compiled next') : compiled.isUnion = r.typeName.isNone := by
  rw [Rule.isUnion, h.kind]
  cases r.typeName <;> rfl

/-- Rules compile in order. -/
inductive RuleDef.CompilesAll (d : Definition) : List RuleDef → ℕ → List Rule → ℕ → Prop
  | nil {next : ℕ} : RuleDef.CompilesAll d [] next [] next
  | cons {r : RuleDef} {rs : List RuleDef} {next next₁ next' : ℕ} {compiled : Rule}
      {others : List Rule} : r.Compiles d next compiled next₁ →
      RuleDef.CompilesAll d rs next₁ others next' →
      RuleDef.CompilesAll d (r :: rs) next (compiled :: others) next'

theorem RuleDef.compiles {r : RuleDef} {next next' : ℕ} {compiled : Rule}
    (h : r.compile d next = .ok (compiled, next')) : r.Compiles d next compiled next' := by
  rw [RuleDef.compile] at h
  obtain ⟨⟨body, next₁⟩, hbody, h⟩ := bind_eq_ok h
  cases h
  refine ⟨rfl, rfl, ?_, Expr.compiles hbody⟩
  cases r.typeName <;> rfl

theorem RuleDef.compilesAll {rs : List RuleDef} {next next' : ℕ} {compiled : List Rule}
    (h : RuleDef.compileAll d rs next = .ok (compiled, next')) :
    RuleDef.CompilesAll d rs next compiled next' := by
  induction rs generalizing next compiled with
  | nil =>
    rw [RuleDef.compileAll] at h
    cases h
    exact .nil
  | cons r rs ih =>
    rw [RuleDef.compileAll] at h
    obtain ⟨⟨one, next₁⟩, hone, h⟩ := bind_eq_ok h
    obtain ⟨⟨others, next'⟩, hrest, h⟩ := bind_eq_ok h
    cases h
    exact .cons (RuleDef.compiles hone) (ih hrest)

end Workbench
