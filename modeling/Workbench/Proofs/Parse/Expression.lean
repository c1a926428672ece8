import Workbench.Lexeme
import Workbench.Proofs.Grammar.Numbering
/-!
# Bodies as parsing expressions

What the body of a rule says about tokens, without trees, places or errors:
a body is read as a parsing expression, in which a choice takes the first
alternative that matches and repetitions are greedy (`Reads`). A reading
matches and leaves tokens, or fails, and for the same tokens it always ends
in the same way (`Reads.unique`).

A union passes on the node of a rule it calls, so a reading also tells
whether a call was used for the tokens it has matched.

Building a grammar makes sure that its bodies make sense: an assignment has
a value and a node that takes it (`Definition.placed`).
-/

namespace Workbench

/-- How a reading ends: it fails, or it leaves tokens, and tells whether a
call was used. -/
abbrev Reading := Option (List Token × Bool)

namespace Element

/-- The kind of the token that an element stands for, if it stands for one. -/
def single? : Element → Option LexemeKind
  | keyword _ text => some (.keyword text)
  | terminal _ index => some (.terminal index)
  | crossRef _ _ index => some (.terminal index)
  | _ => none

end Element

/-- **How an element reads tokens**, by the rules of a grammar. -/
inductive Reads (g : Grammar) : Element → List Token → Reading → Prop
  | token {e : Element} {kind : LexemeKind} {token : Token} {rest : List Token} :
      e.single? = some kind → token.kind = kind → Reads g e (token :: rest) (some (rest, false))
  | noToken {e : Element} {kind : LexemeKind} {tokens : List Token} : e.single? = some kind →
      (∀ token rest, tokens = token :: rest → token.kind ≠ kind) → Reads g e tokens none
  /-- A call whose node is assigned is not the product of a union. -/
  | assign {id : ElementId} {feature : String} {op : AssignOp} {value : Element}
      {tokens rest : List Token} {used : Bool} : Reads g value tokens (some (rest, used)) →
      Reads g (.assign id feature op value) tokens (some (rest, false))
  | assignFails {id : ElementId} {feature : String} {op : AssignOp} {value : Element}
      {tokens : List Token} : Reads g value tokens none →
      Reads g (.assign id feature op value) tokens none
  /-- A call reads what the rule's body reads; a union has to use a call. -/
  | call {id : ElementId} {index : Nat} {rule : Rule} {tokens rest : List Token} {used : Bool} :
      g.rules[index]? = some rule → Reads g rule.body tokens (some (rest, used)) →
      (rule.isUnion = true → used = true) → Reads g (.call id index) tokens (some (rest, true))
  | callFails {id : ElementId} {index : Nat} {rule : Rule} {tokens : List Token} :
      g.rules[index]? = some rule → Reads g rule.body tokens none →
      Reads g (.call id index) tokens none
  | callUnused {id : ElementId} {index : Nat} {rule : Rule} {tokens rest : List Token} :
      g.rules[index]? = some rule → rule.isUnion = true →
      Reads g rule.body tokens (some (rest, false)) → Reads g (.call id index) tokens none
  | seqNil {id : ElementId} {tokens : List Token} : Reads g (.seq id []) tokens (some (tokens, false))
  | seqCons {id : ElementId} {item : Element} {items : List Element}
      {tokens between rest : List Token} {used used' : Bool} :
      Reads g item tokens (some (between, used)) →
      Reads g (.seq id items) between (some (rest, used')) →
      Reads g (.seq id (item :: items)) tokens (some (rest, used || used'))
  | seqFails {id : ElementId} {item : Element} {items : List Element} {tokens : List Token} :
      Reads g item tokens none → Reads g (.seq id (item :: items)) tokens none
  | seqBreaks {id : ElementId} {item : Element} {items : List Element}
      {tokens between : List Token} {used : Bool} : Reads g item tokens (some (between, used)) →
      Reads g (.seq id items) between none → Reads g (.seq id (item :: items)) tokens none
  | altNil {id : ElementId} {tokens : List Token} : Reads g (.alt id []) tokens none
  /-- An alternative that matches is never given up for a later one. -/
  | altHere {id : ElementId} {item : Element} {items : List Element} {tokens rest : List Token}
      {used : Bool} : Reads g item tokens (some (rest, used)) →
      Reads g (.alt id (item :: items)) tokens (some (rest, used))
  | altNext {id : ElementId} {item : Element} {items : List Element} {tokens : List Token}
      {reading : Reading} : Reads g item tokens none → Reads g (.alt id items) tokens reading →
      Reads g (.alt id (item :: items)) tokens reading
  | repeatedNone {id : ElementId} {cardinality : Cardinality} {body : Element}
      {tokens : List Token} : Reads g body tokens none → cardinality ≠ .atLeastOne →
      Reads g (.repeated id cardinality body) tokens (some (tokens, false))
  | repeatedFails {id : ElementId} {body : Element} {tokens : List Token} :
      Reads g body tokens none → Reads g (.repeated id .atLeastOne body) tokens none
  /-- A round that passes no token is the last. -/
  | repeatedLast {id : ElementId} {cardinality : Cardinality} {body : Element}
      {tokens rest : List Token} {used : Bool} : Reads g body tokens (some (rest, used)) →
      cardinality = .optional ∨ rest = tokens →
      Reads g (.repeated id cardinality body) tokens (some (rest, used))
  | repeatedMore {id : ElementId} {cardinality : Cardinality} {body : Element}
      {tokens between rest : List Token} {used used' : Bool} :
      Reads g body tokens (some (between, used)) → cardinality ≠ .optional → between ≠ tokens →
      Reads g (.repeated id .many body) between (some (rest, used')) →
      Reads g (.repeated id cardinality body) tokens (some (rest, used || used'))

/-- What a call of a rule makes of the reading of its body. -/
def Rule.relay (rule : Rule) : Reading → Reading
  | none => none
  | some (rest, used) => if rule.isUnion && !used then none else some (rest, true)

theorem Rule.relay_of_used {rule : Rule} {rest : List Token} {used : Bool}
    (h : rule.isUnion = true → used = true) : rule.relay (some (rest, used)) = some (rest, true) := by
  cases hunion : rule.isUnion with
  | false => rw [relay, hunion, Bool.false_and, if_neg Bool.false_ne_true]
  | true => rw [relay, h hunion, Bool.not_true, Bool.and_false, if_neg Bool.false_ne_true]

theorem Rule.relay_of_unused {rule : Rule} {rest : List Token} (h : rule.isUnion = true) :
    rule.relay (some (rest, false)) = none := by
  rw [relay, h, Bool.not_false, Bool.and_true, if_pos rfl]

namespace Reads

variable {g : Grammar} {e item body value : Element} {items : List Element} {id : ElementId}
variable {tokens : List Token} {reading reading' : Reading}

/-! ## Taking a reading apart -/

theorem of_single {kind : LexemeKind} (hsingle : e.single? = some kind)
    (h : Reads g e tokens reading) :
    (∃ token rest, tokens = token :: rest ∧ token.kind = kind ∧ reading = some (rest, false)) ∨
      ((∀ token rest, tokens = token :: rest → token.kind ≠ kind) ∧ reading = none) := by
  cases h with
  | token hsingle' hkind =>
    obtain rfl := Option.some.inj (hsingle.symm.trans hsingle')
    exact .inl ⟨_, _, rfl, hkind, rfl⟩
  | noToken hsingle' hnone =>
    obtain rfl := Option.some.inj (hsingle.symm.trans hsingle')
    exact .inr ⟨hnone, rfl⟩
  | _ => cases hsingle

theorem of_assign {feature : String} {op : AssignOp}
    (h : Reads g (.assign id feature op value) tokens reading) :
    ∃ inner, Reads g value tokens inner ∧ reading = inner.map fun (rest, _) => (rest, false) := by
  cases h with
  | token hsingle | noToken hsingle => cases hsingle
  | assign hvalue => exact ⟨_, hvalue, rfl⟩
  | assignFails hvalue => exact ⟨_, hvalue, rfl⟩

theorem of_call {index : Nat} (h : Reads g (.call id index) tokens reading) :
    ∃ rule inner, g.rules[index]? = some rule ∧ Reads g rule.body tokens inner ∧
      reading = rule.relay inner := by
  cases h with
  | token hsingle | noToken hsingle => cases hsingle
  | call hrule hbody hused => exact ⟨_, _, hrule, hbody, (Rule.relay_of_used hused).symm⟩
  | callFails hrule hbody => exact ⟨_, _, hrule, hbody, rfl⟩
  | callUnused hrule hunion hbody => exact ⟨_, _, hrule, hbody, (Rule.relay_of_unused hunion).symm⟩

theorem of_seq_nil (h : Reads g (.seq id []) tokens reading) : reading = some (tokens, false) := by
  cases h with
  | token hsingle | noToken hsingle => cases hsingle
  | seqNil => rfl

theorem of_seq_cons (h : Reads g (.seq id (item :: items)) tokens reading) :
    (Reads g item tokens none ∧ reading = none) ∨
      ∃ between used inner, Reads g item tokens (some (between, used)) ∧
        Reads g (.seq id items) between inner ∧
        reading = inner.map fun (rest, used') => (rest, used || used') := by
  cases h with
  | token hsingle | noToken hsingle => cases hsingle
  | seqCons hitem hitems => exact .inr ⟨_, _, _, hitem, hitems, rfl⟩
  | seqFails hitem => exact .inl ⟨hitem, rfl⟩
  | seqBreaks hitem hitems => exact .inr ⟨_, _, _, hitem, hitems, rfl⟩

theorem of_alt_nil (h : Reads g (.alt id []) tokens reading) : reading = none := by
  cases h with
  | token hsingle | noToken hsingle => cases hsingle
  | altNil => rfl

theorem of_alt_cons (h : Reads g (.alt id (item :: items)) tokens reading) :
    ∃ first, Reads g item tokens first ∧
      ((∃ read, first = some read ∧ reading = some read) ∨
        (first = none ∧ Reads g (.alt id items) tokens reading)) := by
  cases h with
  | token hsingle | noToken hsingle => cases hsingle
  | altHere hitem => exact ⟨_, hitem, .inl ⟨_, rfl, rfl⟩⟩
  | altNext hitem hitems => exact ⟨_, hitem, .inr ⟨rfl, hitems⟩⟩

theorem of_repeated {cardinality : Cardinality}
    (h : Reads g (.repeated id cardinality body) tokens reading) :
    (Reads g body tokens none ∧
      reading = if cardinality = .atLeastOne then none else some (tokens, false)) ∨
    ∃ between used, Reads g body tokens (some (between, used)) ∧
      (((cardinality = .optional ∨ between = tokens) ∧ reading = some (between, used)) ∨
        (¬ (cardinality = .optional ∨ between = tokens) ∧ ∃ rest used',
          Reads g (.repeated id .many body) between (some (rest, used')) ∧
          reading = some (rest, used || used'))) := by
  cases h with
  | token hsingle | noToken hsingle => cases hsingle
  | repeatedNone hbody hcard => exact .inl ⟨hbody, (if_neg hcard).symm⟩
  | repeatedFails hbody => exact .inl ⟨hbody, (if_pos rfl).symm⟩
  | repeatedLast hbody hlast => exact .inr ⟨_, _, hbody, .inl ⟨hlast, rfl⟩⟩
  | repeatedMore hbody hcard hpassed hrest =>
    exact .inr ⟨_, _, hbody, .inr ⟨not_or.mpr ⟨hcard, hpassed⟩, _, _, hrest, rfl⟩⟩

/-- **A reading can end in one way only.** -/
theorem unique (h : Reads g e tokens reading) (h' : Reads g e tokens reading') :
    reading = reading' := by
  -- The first reading is taken apart rule by rule; its parts agree with those of the second.
  induction h generalizing reading' with
  | token hsingle hkind =>
    rcases h'.of_single hsingle with ⟨_, _, hcons, -, rfl⟩ | ⟨hnone, -⟩
    · cases hcons
      rfl
    · exact absurd hkind (hnone _ _ rfl)
  | noToken hsingle hnone =>
    rcases h'.of_single hsingle with ⟨_, _, hcons, hkind, -⟩ | ⟨-, rfl⟩
    · exact absurd hkind (hnone _ _ hcons)
    · rfl
  | assign _ ih | assignFails _ ih =>
    obtain ⟨_, hvalue, rfl⟩ := h'.of_assign
    rw [← ih hvalue]
    rfl
  | call hrule _ hused ih =>
    obtain ⟨_, _, hrule', hbody, rfl⟩ := h'.of_call
    obtain rfl := Option.some.inj (hrule.symm.trans hrule')
    rw [← ih hbody, Rule.relay_of_used hused]
  | callFails hrule _ ih =>
    obtain ⟨_, _, hrule', hbody, rfl⟩ := h'.of_call
    obtain rfl := Option.some.inj (hrule.symm.trans hrule')
    rw [← ih hbody, Rule.relay]
  | callUnused hrule hunion _ ih =>
    obtain ⟨_, _, hrule', hbody, rfl⟩ := h'.of_call
    obtain rfl := Option.some.inj (hrule.symm.trans hrule')
    rw [← ih hbody, Rule.relay_of_unused hunion]
  | seqNil => exact h'.of_seq_nil.symm
  | seqCons _ _ ih ihrest =>
    rcases h'.of_seq_cons with ⟨hitem, -⟩ | ⟨_, _, _, hitem, hitems, rfl⟩
    · cases ih hitem
    · cases ih hitem
      rw [← ihrest hitems]
      rfl
  | seqFails _ ih =>
    rcases h'.of_seq_cons with ⟨-, rfl⟩ | ⟨_, _, _, hitem, -, -⟩
    · rfl
    · cases ih hitem
  | seqBreaks _ _ ih ihrest =>
    rcases h'.of_seq_cons with ⟨-, rfl⟩ | ⟨_, _, _, hitem, hitems, rfl⟩
    · rfl
    · cases ih hitem
      rw [← ihrest hitems]
      rfl
  | altNil => exact h'.of_alt_nil.symm
  | altHere _ ih =>
    obtain ⟨_, hitem, ⟨_, rfl, rfl⟩ | ⟨rfl, -⟩⟩ := h'.of_alt_cons
    · exact ih hitem
    · cases ih hitem
  | altNext _ _ ih ihrest =>
    obtain ⟨_, hitem, ⟨_, rfl, -⟩ | ⟨rfl, hitems⟩⟩ := h'.of_alt_cons
    · cases ih hitem
    · exact ihrest hitems
  | repeatedNone _ hcard ih =>
    rcases h'.of_repeated with ⟨-, rfl⟩ | ⟨_, _, hbody, -⟩
    · rw [if_neg hcard]
    · cases ih hbody
  | repeatedFails _ ih =>
    rcases h'.of_repeated with ⟨-, rfl⟩ | ⟨_, _, hbody, -⟩
    · rw [if_pos rfl]
    · cases ih hbody
  | repeatedLast _ hlast ih =>
    rcases h'.of_repeated with ⟨hbody, -⟩ | ⟨_, _, hbody, ⟨-, rfl⟩ | ⟨hmore, -⟩⟩
    · cases ih hbody
    · exact ih hbody
    · cases ih hbody
      exact absurd hlast hmore
  | repeatedMore _ hcard hpassed _ ih ihrest =>
    rcases h'.of_repeated with ⟨hbody, -⟩ | ⟨_, _, hbody, ⟨hlast, -⟩ | ⟨-, _, _, hrest, rfl⟩⟩
    · cases ih hbody
    · cases ih hbody
      exact absurd hlast (not_or.mpr ⟨hcard, hpassed⟩)
    · cases ih hbody
      cases ihrest hrest
      rfl

end Reads

/-! ## Where elements may stand -/

namespace Element

mutual

/-- Whether an element can be the value of an assignment, in a grammar of so
many rules. -/
def isValue (rules : Nat) : Element → Bool
  | keyword _ _ => true
  | terminal _ _ => true
  | crossRef _ _ _ => true
  | call _ rule => decide (rule < rules)
  | alt _ items => areValues rules items
  | assign _ _ _ _ => false
  | seq _ _ => false
  | repeated _ _ _ => false

/-- Whether all elements can be values. -/
def areValues (rules : Nat) : List Element → Bool
  | [] => true
  | e :: es => e.isValue rules && areValues rules es

end

mutual

/-- **Whether an element can be in the body of a rule**, a union or not: a
cross-reference has to be assigned, and unions assign nothing. -/
def placed (rules : Nat) (union : Bool) : Element → Bool
  | keyword _ _ => true
  | terminal _ _ => true
  | crossRef _ _ _ => false
  | call _ rule => decide (rule < rules)
  | assign _ _ _ value => !union && value.isValue rules
  | seq _ items => allPlaced rules union items
  | alt _ items => allPlaced rules union items
  | repeated _ _ body => body.placed rules union

/-- Whether all elements can be in the body of a rule. -/
def allPlaced (rules : Nat) (union : Bool) : List Element → Bool
  | [] => true
  | e :: es => e.placed rules union && allPlaced rules union es

end

mutual

/-- The parts of a body that are matched for themselves, itself first. -/
def parts : Element → List Element
  | keyword id text => [keyword id text]
  | terminal id index => [terminal id index]
  | crossRef id target index => [crossRef id target index]
  | call id rule => [call id rule]
  | assign id feature op value => [assign id feature op value]
  | seq id items => seq id items :: partsOf items
  | alt id items => alt id items :: partsOf items
  | repeated id cardinality body => repeated id cardinality body :: body.parts

/-- The parts of several elements. -/
def partsOf : List Element → List Element
  | [] => []
  | e :: es => e.parts ++ partsOf es

end

mutual

/-- What can be in a body consists of what can be there. -/
theorem placed_of_mem_parts {rules : Nat} {union : Bool} : ∀ (e : Element),
    e.placed rules union = true → ∀ part ∈ e.parts, part.placed rules union = true
  | keyword id text, h, part, hpart => by
    rw [List.mem_singleton.mp hpart]
    exact h
  | terminal id index, h, part, hpart => by
    rw [List.mem_singleton.mp hpart]
    exact h
  | crossRef id target index, h, part, hpart => by
    rw [List.mem_singleton.mp hpart]
    exact h
  | call id rule, h, part, hpart => by
    rw [List.mem_singleton.mp hpart]
    exact h
  | assign id feature op value, h, part, hpart => by
    rw [List.mem_singleton.mp hpart]
    exact h
  | seq id items, h, part, hpart => by
    rw [parts] at hpart
    rcases List.mem_cons.mp hpart with rfl | hpart
    · exact h
    · exact placed_of_mem_partsOf items h part hpart
  | alt id items, h, part, hpart => by
    rw [parts] at hpart
    rcases List.mem_cons.mp hpart with rfl | hpart
    · exact h
    · exact placed_of_mem_partsOf items h part hpart
  | repeated id cardinality body, h, part, hpart => by
    rw [parts] at hpart
    rcases List.mem_cons.mp hpart with rfl | hpart
    · exact h
    · exact placed_of_mem_parts body h part hpart

theorem placed_of_mem_partsOf {rules : Nat} {union : Bool} : ∀ (es : List Element),
    allPlaced rules union es = true → ∀ part ∈ partsOf es, part.placed rules union = true
  | [], _, part, hpart => by cases hpart
  | e :: es, h, part, hpart => by
    rw [allPlaced, Bool.and_eq_true] at h
    rw [partsOf] at hpart
    rcases List.mem_append.mp hpart with hpart | hpart
    · exact placed_of_mem_parts e h.1 part hpart
    · exact placed_of_mem_partsOf es h.2 part hpart

end

end Element

/-! ## What building makes sure of -/

variable {d : Definition} {rule : RuleDef}

mutual

/-- What can be assigned is compiled to a value. -/
theorem Expr.Compiles.isValue : ∀ {assigned : Bool} {e : Expr} {next next' : ℕ} {el : Element},
    Expr.Compiles d rule assigned e next el next' → e.assignable = true →
      el.isValue d.rules.length = true
  | _, _, _, _, _, .keyword, _ => rfl
  | _, _, _, _, _, .terminal _, _ => rfl
  | _, _, _, _, _, .call hindex _, _ =>
    decide_eq_true (List.findIdx?_eq_some_iff_getElem.mp hindex).1
  | _, _, _, _, _, .crossRef _ _, _ => rfl
  | _, _, _, _, _, .alt hitems, hassign => by
    rw [Expr.assignable, Bool.and_eq_true] at hassign
    exact hitems.areValues hassign.2
  | _, _, _, _, _, .assign _ _ _, hassign => by cases hassign
  | _, _, _, _, _, .seq _, hassign => by cases hassign
  | _, _, _, _, _, .repeated _, hassign => by cases hassign

theorem Expr.CompilesAll.areValues : ∀ {assigned : Bool} {es : List Expr} {next next' : ℕ}
    {els : List Element}, Expr.CompilesAll d rule assigned es next els next' →
      Expr.allAssignable es = true → Element.areValues d.rules.length els = true
  | _, _, _, _, _, .nil, _ => rfl
  | _, _, _, _, _, .cons he hes, hassign => by
    rw [Expr.allAssignable, Bool.and_eq_true] at hassign
    rw [Element.areValues, he.isValue hassign.1, hes.areValues hassign.2]
    rfl

end

mutual

theorem Expr.Compiles.placed : ∀ {assigned : Bool} {e : Expr} {next next' : ℕ} {el : Element},
    Expr.Compiles d rule assigned e next el next' → assigned = false →
      el.placed d.rules.length rule.typeName.isNone = true
  | _, _, _, _, _, .keyword, _ => rfl
  | _, _, _, _, _, .terminal _, _ => rfl
  | _, _, _, _, _, .call hindex _, _ =>
    decide_eq_true (List.findIdx?_eq_some_iff_getElem.mp hindex).1
  | _, _, _, _, _, .crossRef _ _, hassigned => by cases hassigned
  | _, _, _, _, _, .assign hunion hassign hvalue, _ => by
    rw [Element.placed, hvalue.isValue hassign, hunion]
    rfl
  | _, _, _, _, _, .seq hitems, hassigned => hitems.placed hassigned
  | _, _, _, _, _, .alt hitems, hassigned => hitems.placed hassigned
  | _, _, _, _, _, .repeated hbody, hassigned => by
    rw [Element.placed]
    exact hbody.placed hassigned

theorem Expr.CompilesAll.placed : ∀ {assigned : Bool} {es : List Expr} {next next' : ℕ}
    {els : List Element}, Expr.CompilesAll d rule assigned es next els next' → assigned = false →
      Element.allPlaced d.rules.length rule.typeName.isNone els = true
  | _, _, _, _, _, .nil, _ => rfl
  | _, _, _, _, _, .cons he hes, hassigned => by
    rw [Element.allPlaced, he.placed hassigned, hes.placed hassigned]
    rfl

end

theorem RuleDef.CompilesAll.placed {rs : List RuleDef} {next next' : ℕ} {compiled : List Rule}
    (h : RuleDef.CompilesAll d rs next compiled next') : compiled.length = rs.length ∧
      ∀ r ∈ compiled, r.body.placed d.rules.length r.isUnion = true := by
  induction h with
  | nil => exact ⟨rfl, nofun⟩
  | cons hone _ ih =>
    refine ⟨congrArg (· + 1) ih.1, List.forall_mem_cons.mpr ⟨?_, ih.2⟩⟩
    rw [hone.isUnion]
    exact hone.body.placed rfl

/-- Whether all bodies of a grammar have their elements where they can be. -/
def Grammar.Placed (g : Grammar) : Prop :=
  ∀ rule ∈ g.rules, rule.body.placed g.rules.size rule.isUnion = true

/-- **In a grammar that was built, elements are where they can be.** -/
theorem Definition.placed {g : Grammar} (h : d.build = .ok g) : g.Placed := by
  obtain ⟨terminals, rules, last, entry, -, hrules, -, rfl⟩ := Definition.build_ok h
  obtain ⟨hlength, hplaced⟩ := (RuleDef.compilesAll hrules).placed
  intro rule hrule
  show rule.body.placed rules.toArray.size rule.isUnion = true
  rw [List.size_toArray, hlength]
  exact hplaced rule (List.mem_toArray.mp hrule)

end Workbench
