import Workbench.Proofs.Grammar.Numbering
import Mathlib.Data.List.Nodup
/-!
# Which definitions are grammars

Building checks a definition in several passes: the names, the patterns, the
bodies with a flag for being inside an assignment and a test of the shape of
what is assigned, and the entry. What all of them accept together is said here
without any order of checks (`Definition.WellFormed`), and building accepts
exactly that (`Definition.exists_build_iff`).
-/

namespace Workbench

/-! ## Well-formed definitions -/

namespace Definition

/-- There is a terminal of the name, and rules may match it. -/
def HasToken (d : Definition) (name : String) : Prop :=
  ∃ t ∈ d.terminals, t.name = name ∧ t.kind = .token

/-- There is a rule of the name. -/
def HasRule (d : Definition) (name : String) : Prop := ∃ r ∈ d.rules, r.name = name

/-- A rule makes nodes of the type, or is the union of the name. -/
def HasType (d : Definition) (type : String) : Prop :=
  ∃ r ∈ d.rules, r.typeName = some type ∨ r.typeName = none ∧ r.name = type

end Definition

/-- **What may be assigned**: a keyword, a terminal, a call, a cross-reference,
or a choice of these. -/
inductive Expr.IsValue (d : Definition) : Expr → Prop
  | keyword (text : String) : IsValue d (.keyword text)
  | terminal {name : String} : d.HasToken name → IsValue d (.terminal name)
  | call {name : String} : d.HasRule name → IsValue d (.call name)
  | crossRef {target terminal : String} (multi : Bool) : d.HasType target → d.HasToken terminal →
      IsValue d (.crossRef target terminal multi)
  | alt {items : List Expr} : items ≠ [] → (∀ e ∈ items, IsValue d e) → IsValue d (.alt items)

/-- **What the body of a rule may be**, a union or not: only unions call rules
without assigning what comes of it, and unions assign nothing. -/
inductive Expr.IsBody (d : Definition) (union : Bool) : Expr → Prop
  | keyword (text : String) : IsBody d union (.keyword text)
  | terminal {name : String} : d.HasToken name → IsBody d union (.terminal name)
  | call {name : String} : union = true → d.HasRule name → IsBody d union (.call name)
  | assign (feature : String) (op : AssignOp) {value : Expr} : union = false → value.IsValue d →
      IsBody d union (.assign feature op value)
  | seq {items : List Expr} : (∀ e ∈ items, IsBody d union e) → IsBody d union (.seq items)
  | alt {items : List Expr} : (∀ e ∈ items, IsBody d union e) → IsBody d union (.alt items)
  | repeated (cardinality : Cardinality) {body : Expr} : IsBody d union body →
      IsBody d union (.repeated cardinality body)

/-- **A definition in good order.** -/
structure Definition.WellFormed (d : Definition) : Prop where
  /-- There is a rule. -/
  rules : d.rules ≠ []
  /-- Terminals and rules have names of their own. -/
  names : d.names.Nodup
  /-- Every pattern can be read, and does not match the empty text. -/
  patterns : ∀ t ∈ d.terminals,
    ∃ matcher, Pattern.terminal? t.pattern = some matcher ∧ matcher.matchesEmpty = false
  /-- Every rule has a body that it may have. -/
  bodies : ∀ r ∈ d.rules, r.body.IsBody d r.typeName.isNone
  /-- The entry, which is the first rule if none is named, makes nodes. -/
  entry : ∃ r, (match d.entry with
    | none => d.rules.head? = some r
    | some name => r ∈ d.rules ∧ r.name = name) ∧ r.typeName.isSome

/-! ## Looking names up -/

section Names

variable {d : Definition}

theorem firstDuplicate?_eq_none_iff (seen names : List String) :
    Definition.firstDuplicate? seen names = none ↔ names.Nodup ∧ ∀ n ∈ names, n ∉ seen := by
  induction names generalizing seen with
  | nil => simp [Definition.firstDuplicate?]
  | cons name names ih =>
    rw [Definition.firstDuplicate?]
    by_cases hseen : name ∈ seen
    · simp [hseen]
    · simp only [List.contains_eq_mem, hseen, decide_false, Bool.false_eq_true, if_false, ih,
        List.nodup_cons, List.mem_cons, not_or, forall_eq_or_imp, not_false_eq_true, true_and]
      constructor
      · rintro ⟨hnodup, hnew⟩
        exact ⟨⟨fun hmem => (hnew name hmem).1 rfl, hnodup⟩, fun n hn => (hnew n hn).2⟩
      · rintro ⟨⟨hnot, hnodup⟩, hnew⟩
        exact ⟨hnodup, fun n hn => ⟨fun heq => hnot (heq ▸ hn), hnew n hn⟩⟩

/-- Where names are different, looking for one finds the only item that has
it. -/
theorem findIdx?_of_nodup {α : Type} {name : α → String} {l : List α} (hnodup : (l.map name).Nodup)
    {a : α} (ha : a ∈ l) : ∃ i, l.findIdx? (name · == name a) = some i ∧ l[i]? = some a := by
  obtain ⟨i, hi, hget⟩ := List.mem_iff_getElem.mp ha
  refine ⟨i, List.findIdx?_eq_some_iff_getElem.mpr ⟨hi, by rw [hget]; simp, fun j hj => ?_⟩,
    by rw [List.getElem?_eq_getElem hi, hget]⟩
  rw [Bool.not_eq_true, beq_eq_false_iff_ne]
  intro heq
  have hsame : (l.map name)[j]? = (l.map name)[i]? := by
    rw [List.getElem?_map, List.getElem?_map, List.getElem?_eq_getElem hi,
      List.getElem?_eq_getElem (by omega), hget, Option.map_some, Option.map_some, heq]
  have hij := (List.getElem?_inj (by rw [List.length_map]; omega) hnodup).mp hsame
  omega

theorem findIdx?_isSome_iff {α : Type} {name : α → String} {l : List α} {n : String} :
    (l.findIdx? (name · == n)).isSome ↔ ∃ a ∈ l, name a = n := by
  simp

theorem token?_isSome_iff (hnodup : (d.terminals.map TerminalDef.name).Nodup) {name : String} :
    (d.token? name).isSome ↔ d.HasToken name := by
  rw [Definition.token?, Definition.HasToken]
  constructor
  · intro hsome
    obtain ⟨i, hfilter⟩ := Option.isSome_iff_exists.mp hsome
    obtain ⟨hfound, hkind⟩ := Option.filter_eq_some_iff.mp hfilter
    obtain ⟨hi, hname, -⟩ := List.findIdx?_eq_some_iff_getElem.mp hfound
    rw [List.getElem?_eq_getElem hi] at hkind
    exact ⟨d.terminals[i], List.getElem_mem hi, by simpa using hname, by simpa using hkind⟩
  · rintro ⟨t, ht, rfl, hkind⟩
    obtain ⟨i, hfound, hget⟩ := findIdx?_of_nodup hnodup ht
    rw [hfound, Option.filter_some, if_pos (by rw [hget]; simp [hkind])]
    rfl

theorem declares_iff {type : String} : d.declares type = true ↔ d.HasType type := by
  rw [Definition.declares, List.any_eq_true, Definition.HasType]
  refine exists_congr fun r => and_congr_right fun _ => ?_
  rw [beq_iff_eq, RuleDef.produces]
  cases r.typeName <;> simp

end Names

/-! ## Steps that come through -/

section Steps

variable {ε α β : Type}

theorem exists_bind_iff {x : Except ε α} {f : α → Except ε β} :
    (∃ b, (x >>= f) = .ok b) ↔ ∃ a, x = .ok a ∧ ∃ b, f a = .ok b := by
  constructor
  · rintro ⟨b, h⟩
    obtain ⟨a, ha, hb⟩ := bind_eq_ok h
    exact ⟨a, ha, b, hb⟩
  · rintro ⟨a, rfl, b, hb⟩
    exact ⟨b, hb⟩

/-- A step that is followed by one that always comes through. -/
theorem exists_bind_ok_iff {x : Except ε α} {f : α → β} :
    (∃ b, (x >>= fun a => .ok (f a)) = .ok b) ↔ ∃ a, x = .ok a := by
  rw [exists_bind_iff]
  exact exists_congr fun a => and_iff_left ⟨f a, rfl⟩

theorem exists_mapM_iff {f : α → Except ε β} {l : List α} :
    (∃ bs, l.mapM f = .ok bs) ↔ ∀ a ∈ l, ∃ b, f a = .ok b := by
  constructor
  · rintro ⟨bs, hbs⟩ a ha
    obtain ⟨i, hi, rfl⟩ := List.mem_iff_getElem.mp ha
    have hlt : i < bs.length := by rw [length_of_mapM hbs]; exact hi
    obtain ⟨a, hget, hfa⟩ := getElem?_of_mapM hbs (List.getElem?_eq_getElem hlt)
    rw [List.getElem?_eq_getElem hi, Option.some.injEq] at hget
    exact ⟨_, hget ▸ hfa⟩
  · intro h
    obtain ⟨bs, hbs, -⟩ := mapM_eq_ok (p := fun _ => True) fun a ha =>
      (h a ha).imp fun b hb => ⟨hb, trivial⟩
    exact ⟨bs, hbs⟩

end Steps

theorem TerminalDef.exists_compile_iff {t : TerminalDef} :
    (∃ compiled, t.compile = .ok compiled) ↔
      ∃ matcher, Pattern.terminal? t.pattern = some matcher ∧ matcher.matchesEmpty = false := by
  rw [TerminalDef.compile]
  cases Pattern.terminal? t.pattern with
  | none => simp
  | some matcher => cases hempty : matcher.matchesEmpty <;> simp [hempty]

/-! ## Bodies -/

section Bodies

variable {d : Definition} {rule : RuleDef}

theorem exists_token_iff (hnodup : (d.terminals.map TerminalDef.name).Nodup) (rule : RuleDef)
    {name : String} :
    (∃ index, d.token rule name = .ok index) ↔ d.HasToken name := by
  rw [← token?_isSome_iff hnodup, Definition.token]
  cases d.token? name <;> simp

mutual

/-- **What compiles inside an assignment and has the shape of a value.** -/
theorem Expr.exists_value_iff (hnodup : (d.terminals.map TerminalDef.name).Nodup) :
    ∀ (e : Expr) (next : ℕ),
    (e.assignable = true ∧ ∃ r, e.compile d rule true next = .ok r) ↔ e.IsValue d
  | .keyword text, next => by
    rw [Expr.compile]
    exact ⟨fun _ => .keyword text, fun _ => ⟨rfl, _, rfl⟩⟩
  | .terminal name, next => by
    have htoken : (∃ r, (Expr.terminal name).compile d rule true next = .ok r) ↔
        d.HasToken name := by
      rw [Expr.compile, ← exists_token_iff hnodup rule]
      exact exists_bind_ok_iff
    rw [htoken]
    exact ⟨fun h => .terminal h.2, fun h => by cases h with | terminal h => exact ⟨rfl, h⟩⟩
  | .call name, next => by
    have hrule : (∃ r, (Expr.call name).compile d rule true next = .ok r) ↔ d.HasRule name := by
      rw [Expr.compile, Definition.HasRule, ← findIdx?_isSome_iff]
      cases d.rules.findIdx? (·.name == name) <;> simp
    rw [hrule]
    exact ⟨fun h => .call h.2, fun h => by cases h with | call h => exact ⟨rfl, h⟩⟩
  | .crossRef target name multi, next => by
    have href : (∃ r, (Expr.crossRef target name multi).compile d rule true next = .ok r) ↔
        d.HasType target ∧ d.HasToken name := by
      rw [Expr.compile, if_neg (by decide), ← declares_iff, ← exists_token_iff hnodup rule]
      cases d.declares target with
      | false => simp
      | true =>
        simp only [Bool.not_true, Bool.false_eq_true, if_false, true_and]
        exact exists_bind_ok_iff
    rw [href]
    exact ⟨fun h => .crossRef multi h.2.1 h.2.2,
      fun h => by cases h with | crossRef _ htype htoken => exact ⟨rfl, htype, htoken⟩⟩
  | .alt items, next => by
    have hitems : (∃ r, (Expr.alt items).compile d rule true next = .ok r) ↔
        ∃ r, Expr.compileAll d rule true items (next + 1) = .ok r := by
      rw [Expr.compile]
      exact exists_bind_ok_iff (f := fun r : List Element × ℕ => (Element.alt ⟨next⟩ r.1, r.2))
    rw [hitems, Expr.assignable, Bool.and_eq_true, Bool.not_eq_true', List.isEmpty_eq_false_iff,
      and_assoc, Expr.forall_value_iff hnodup items (next + 1)]
    exact ⟨fun h => .alt h.1 h.2, fun h => by cases h with | alt hne hall => exact ⟨hne, hall⟩⟩
  | .assign _ _ _, next => ⟨fun h => (nomatch h.1), fun h => (nomatch h)⟩
  | .seq _, next => ⟨fun h => (nomatch h.1), fun h => (nomatch h)⟩
  | .repeated _ _, next => ⟨fun h => (nomatch h.1), fun h => (nomatch h)⟩

theorem Expr.forall_value_iff (hnodup : (d.terminals.map TerminalDef.name).Nodup) :
    ∀ (es : List Expr) (next : ℕ),
    (Expr.allAssignable es = true ∧ ∃ r, Expr.compileAll d rule true es next = .ok r) ↔
      ∀ e ∈ es, e.IsValue d
  | [], next => by
    rw [Expr.compileAll]
    exact ⟨fun _ => nofun, fun _ => ⟨rfl, _, rfl⟩⟩
  | e :: es, next => by
    rw [List.forall_mem_cons, Expr.allAssignable, Bool.and_eq_true, Expr.compileAll,
      exists_bind_iff]
    constructor
    · rintro ⟨⟨he, hes⟩, ⟨el, next₁⟩, hel, hrest⟩
      obtain ⟨⟨els, next₂⟩, hels, -⟩ := exists_bind_iff.mp hrest
      exact ⟨(Expr.exists_value_iff hnodup e next).mp ⟨he, _, hel⟩,
        (Expr.forall_value_iff hnodup es next₁).mp ⟨hes, _, hels⟩⟩
    · rintro ⟨he, hes⟩
      obtain ⟨hassign, ⟨el, next₁⟩, hel⟩ := (Expr.exists_value_iff hnodup e next).mpr he
      obtain ⟨hassigns, ⟨els, next₂⟩, hels⟩ := (Expr.forall_value_iff hnodup es next₁).mpr hes
      exact ⟨⟨hassign, hassigns⟩, _, hel, exists_bind_iff.mpr ⟨_, hels, _, rfl⟩⟩

end

mutual

/-- **What compiles outside of assignments.** -/
theorem Expr.exists_body_iff (hnodup : (d.terminals.map TerminalDef.name).Nodup) :
    ∀ (e : Expr) (next : ℕ),
    (∃ r, e.compile d rule false next = .ok r) ↔ e.IsBody d rule.typeName.isNone
  | .keyword text, next => by
    rw [Expr.compile]
    exact ⟨fun _ => .keyword text, fun _ => ⟨_, rfl⟩⟩
  | .terminal name, next => by
    have htoken : (∃ r, (Expr.terminal name).compile d rule false next = .ok r) ↔
        d.HasToken name := by
      rw [Expr.compile, ← exists_token_iff hnodup rule]
      exact exists_bind_ok_iff
    rw [htoken]
    exact ⟨.terminal, fun h => by cases h with | terminal h => exact h⟩
  | .call name, next => by
    have hrule : (∃ r, (Expr.call name).compile d rule false next = .ok r) ↔
        rule.typeName.isNone = true ∧ d.HasRule name := by
      rw [Expr.compile, Definition.HasRule, ← findIdx?_isSome_iff]
      cases d.rules.findIdx? (·.name == name) with
      | none => simp
      | some index => cases rule.typeName <;> simp
    rw [hrule]
    exact ⟨fun h => .call h.1 h.2, fun h => by cases h with | call hunion h => exact ⟨hunion, h⟩⟩
  | .crossRef target name multi, next => by
    rw [Expr.compile, if_pos (by decide)]
    exact ⟨fun ⟨_, h⟩ => (nomatch h), fun h => (nomatch h)⟩
  | .assign feature op value, next => by
    -- the rule and the value are looked at before the value is compiled
    have hassign : (∃ r, (Expr.assign feature op value).compile d rule false next = .ok r) ↔
        rule.typeName.isNone = false ∧
          value.assignable = true ∧ ∃ r, value.compile d rule true (next + 1) = .ok r := by
      rw [Expr.compile, if_neg (by decide)]
      cases rule.typeName with
      | none => simp
      | some type =>
        rw [Option.isNone_some, if_neg (by decide), eq_self_iff_true, true_and]
        cases value.assignable with
        | false => simp
        | true =>
          simp only [Bool.not_true, Bool.false_eq_true, if_false, true_and]
          exact exists_bind_ok_iff
            (f := fun r : Element × ℕ => (Element.assign ⟨next⟩ feature op r.1, r.2))
    rw [hassign, Expr.exists_value_iff hnodup value (next + 1)]
    exact ⟨fun h => .assign feature op h.1 h.2,
      fun h => by cases h with | assign _ _ hunion hvalue => exact ⟨hunion, hvalue⟩⟩
  | .seq items, next => by
    have hitems : (∃ r, (Expr.seq items).compile d rule false next = .ok r) ↔
        ∃ r, Expr.compileAll d rule false items (next + 1) = .ok r := by
      rw [Expr.compile]
      exact exists_bind_ok_iff (f := fun r : List Element × ℕ => (Element.seq ⟨next⟩ r.1, r.2))
    rw [hitems, Expr.forall_body_iff hnodup items (next + 1)]
    exact ⟨.seq, fun h => by cases h with | seq hall => exact hall⟩
  | .alt items, next => by
    have hitems : (∃ r, (Expr.alt items).compile d rule false next = .ok r) ↔
        ∃ r, Expr.compileAll d rule false items (next + 1) = .ok r := by
      rw [Expr.compile]
      exact exists_bind_ok_iff (f := fun r : List Element × ℕ => (Element.alt ⟨next⟩ r.1, r.2))
    rw [hitems, Expr.forall_body_iff hnodup items (next + 1)]
    exact ⟨.alt, fun h => by cases h with | alt hall => exact hall⟩
  | .repeated cardinality body, next => by
    have hbody : (∃ r, (Expr.repeated cardinality body).compile d rule false next = .ok r) ↔
        ∃ r, body.compile d rule false (next + 1) = .ok r := by
      rw [Expr.compile]
      exact exists_bind_ok_iff
        (f := fun r : Element × ℕ => (Element.repeated ⟨next⟩ cardinality r.1, r.2))
    rw [hbody, Expr.exists_body_iff hnodup body (next + 1)]
    exact ⟨.repeated cardinality, fun h => by cases h with | repeated _ hbody => exact hbody⟩

theorem Expr.forall_body_iff (hnodup : (d.terminals.map TerminalDef.name).Nodup) :
    ∀ (es : List Expr) (next : ℕ),
    (∃ r, Expr.compileAll d rule false es next = .ok r) ↔
      ∀ e ∈ es, e.IsBody d rule.typeName.isNone
  | [], next => by
    rw [Expr.compileAll]
    exact ⟨fun _ => nofun, fun _ => ⟨_, rfl⟩⟩
  | e :: es, next => by
    rw [List.forall_mem_cons, Expr.compileAll, exists_bind_iff]
    constructor
    · rintro ⟨⟨el, next₁⟩, hel, hrest⟩
      obtain ⟨⟨els, next₂⟩, hels, -⟩ := exists_bind_iff.mp hrest
      exact ⟨(Expr.exists_body_iff hnodup e next).mp ⟨_, hel⟩,
        (Expr.forall_body_iff hnodup es next₁).mp ⟨_, hels⟩⟩
    · rintro ⟨he, hes⟩
      obtain ⟨⟨el, next₁⟩, hel⟩ := (Expr.exists_body_iff hnodup e next).mpr he
      obtain ⟨⟨els, next₂⟩, hels⟩ := (Expr.forall_body_iff hnodup es next₁).mpr hes
      exact ⟨_, hel, exists_bind_iff.mpr ⟨_, hels, _, rfl⟩⟩

end

/-! ## Rules and the entry -/

theorem RuleDef.forall_body_iff (hnodup : (d.terminals.map TerminalDef.name).Nodup)
    (rs : List RuleDef) (next : ℕ) :
    (∃ r, RuleDef.compileAll d rs next = .ok r) ↔ ∀ r ∈ rs, r.body.IsBody d r.typeName.isNone := by
  have hone : ∀ (r : RuleDef) (next : ℕ),
      (∃ compiled, r.compile d next = .ok compiled) ↔ r.body.IsBody d r.typeName.isNone := by
    intro r next
    rw [← Expr.exists_body_iff hnodup r.body (next + 1), RuleDef.compile, exists_bind_iff]
    exact exists_congr fun compiled => and_iff_left ⟨_, rfl⟩
  induction rs generalizing next with
  | nil =>
    rw [RuleDef.compileAll]
    exact ⟨fun _ => List.forall_mem_nil _, fun _ => ⟨_, rfl⟩⟩
  | cons r rs ih =>
    rw [List.forall_mem_cons, RuleDef.compileAll, exists_bind_iff]
    constructor
    · rintro ⟨⟨one, next₁⟩, hr, hrest⟩
      obtain ⟨⟨rest, next₂⟩, hrs, -⟩ := exists_bind_iff.mp hrest
      exact ⟨(hone r next).mp ⟨_, hr⟩, (ih next₁).mp ⟨_, hrs⟩⟩
    · rintro ⟨hr, hrs⟩
      obtain ⟨⟨one, next₁⟩, hone⟩ := (hone r next).mpr hr
      obtain ⟨⟨rest, next₂⟩, hrest⟩ := (ih next₁).mpr hrs
      exact ⟨_, hone, exists_bind_iff.mpr ⟨_, hrest, _, rfl⟩⟩

end Bodies

section Build

variable {d : Definition} {g : Grammar}

/-- Each rule is compiled from what stands in its place. -/
theorem RuleDef.CompilesAll.getElem? {rs : List RuleDef} {next next' : ℕ} {rules : List Rule}
    (h : RuleDef.CompilesAll d rs next rules next') (i : ℕ) :
    rules[i]?.map Rule.isUnion = rs[i]?.map (·.typeName.isNone) := by
  induction h generalizing i with
  | nil => rfl
  | cons hone _ ih =>
    cases i with
    | zero => simp [hone.isUnion]
    | succ i => simpa using ih i

/-- The rule at an index as the entry. -/
def entryAt (rules : List Rule) (index : ℕ) : Except GrammarError ℕ :=
  match rules[index]? with
  | some rule => if rule.isUnion then .error (.invalidEntry rule.name) else .ok index
  | none => .error .empty

theorem Definition.findEntry_eq (d : Definition) (rules : List Rule) :
    d.findEntry rules = match d.entry with
      | none => entryAt rules 0
      | some name => match d.rules.findIdx? (·.name == name) with
        | some index => entryAt rules index
        | none => .error (.unknownRule entryLabel name) := by
  rw [Definition.findEntry]
  cases d.entry with
  | none => rfl
  | some name =>
    dsimp only
    cases d.rules.findIdx? (·.name == name) <;> rfl

/-- An entry has to make nodes. -/
theorem exists_entryAt_iff {rules : List Rule} {last : ℕ}
    (hrules : RuleDef.compileAll d d.rules 0 = .ok (rules, last)) (index : ℕ) :
    (∃ entry, entryAt rules index = .ok entry) ↔
      ∃ r, d.rules[index]? = some r ∧ r.typeName.isSome := by
  have hkind := (RuleDef.compilesAll hrules).getElem? index
  rw [entryAt]
  cases hr : d.rules[index]? with
  | none =>
    rw [hr, Option.map_none, Option.map_eq_none_iff] at hkind
    simp [hkind]
  | some r =>
    rw [hr, Option.map_some] at hkind
    obtain ⟨rule, hrule, hunion⟩ := Option.map_eq_some_iff.mp hkind
    rw [hrule]
    dsimp only
    rw [hunion]
    cases htype : r.typeName <;> simp [htype]

/-- An entry is found if it is one. -/
theorem Definition.exists_findEntry_iff (hnodup : (d.rules.map RuleDef.name).Nodup)
    {rules : List Rule} {last : ℕ} (hrules : RuleDef.compileAll d d.rules 0 = .ok (rules, last)) :
    (∃ entry, d.findEntry rules = .ok entry) ↔ ∃ r, (match d.entry with
      | none => d.rules.head? = some r
      | some name => r ∈ d.rules ∧ r.name = name) ∧ r.typeName.isSome := by
  rw [Definition.findEntry_eq]
  cases d.entry with
  | none =>
    dsimp only
    rw [List.head?_eq_getElem?, exists_entryAt_iff hrules]
  | some name =>
    dsimp only
    constructor
    · rintro ⟨entry, h⟩
      split at h
      next i hfound =>
        obtain ⟨r, hr, htype⟩ := (exists_entryAt_iff hrules i).mp ⟨entry, h⟩
        obtain ⟨hi, hname, -⟩ := List.findIdx?_eq_some_iff_getElem.mp hfound
        rw [List.getElem?_eq_getElem hi, Option.some.injEq] at hr
        subst hr
        exact ⟨_, ⟨List.getElem_mem hi, by simpa using hname⟩, htype⟩
      next => cases h
    · rintro ⟨r, ⟨hr, rfl⟩, htype⟩
      obtain ⟨i, hfound, hget⟩ := findIdx?_of_nodup hnodup hr
      rw [hfound]
      exact (exists_entryAt_iff hrules i).mpr ⟨r, hget, htype⟩

/-- **Building accepts exactly the well-formed definitions.** -/
theorem Definition.exists_build_iff (d : Definition) : (∃ g, d.build = .ok g) ↔ d.WellFormed := by
  have hnames : d.names.Nodup → (d.terminals.map TerminalDef.name).Nodup ∧
      (d.rules.map RuleDef.name).Nodup := fun h => ⟨h.of_append_left, h.of_append_right⟩
  constructor
  · rintro ⟨g, hbuild⟩
    have hchecks : d.rules ≠ [] ∧ Definition.firstDuplicate? [] d.names = none := by
      rw [Definition.build] at hbuild
      split at hbuild
      · cases hbuild
      next hempty =>
        dsimp only at hbuild
        split at hbuild
        · cases hbuild
        next hnone => exact ⟨by simpa using hempty, hnone⟩
    -- names are checked first: with one of a name, what is found by it is what it stands for
    obtain ⟨hrules, hnone⟩ := hchecks
    have hnodup := ((firstDuplicate?_eq_none_iff _ _).mp hnone).1
    obtain ⟨terminals, rules, last, entry, hterminals, hcompiled, hentry, -⟩ :=
      Definition.build_ok hbuild
    exact
      { rules := hrules
        names := hnodup
        patterns := fun t ht =>
          TerminalDef.exists_compile_iff.mp (exists_mapM_iff.mp ⟨_, hterminals⟩ t ht)
        bodies := (RuleDef.forall_body_iff (hnames hnodup).1 _ _).mp ⟨_, hcompiled⟩
        entry := (Definition.exists_findEntry_iff (hnames hnodup).2 hcompiled).mp ⟨_, hentry⟩ }
  · intro h
    obtain ⟨terminals, hterminals⟩ :=
      exists_mapM_iff.mpr fun t ht => TerminalDef.exists_compile_iff.mpr (h.patterns t ht)
    obtain ⟨⟨rules, last⟩, hcompiled⟩ :=
      (RuleDef.forall_body_iff (hnames h.names).1 _ 0).mpr h.bodies
    obtain ⟨entry, hentry⟩ :=
      (Definition.exists_findEntry_iff (hnames h.names).2 hcompiled).mpr h.entry
    refine ⟨_, Definition.build_eq_ok ?_ ?_ hterminals hcompiled hentry⟩
    · simpa using h.rules
    · exact (firstDuplicate?_eq_none_iff _ _).mpr ⟨h.names, fun _ _ => List.not_mem_nil⟩

/-- The entry of a grammar makes nodes. -/
theorem Definition.exists_entry (h : d.build = .ok g) :
    ∃ rule, g.rules[g.entry]? = some rule ∧ rule.isUnion = false := by
  obtain ⟨terminals, rules, last, entry, -, -, hentry, rfl⟩ := Definition.build_ok h
  have hat : ∀ index, entryAt rules index = .ok entry →
      ∃ rule, rules[entry]? = some rule ∧ rule.isUnion = false := by
    intro index hindex
    rw [entryAt] at hindex
    split at hindex
    next rule hrule =>
      split at hindex
      · cases hindex
      next hunion =>
        cases hindex
        exact ⟨rule, hrule, by simpa using hunion⟩
    next => cases hindex
  have hrule : ∃ rule, rules[entry]? = some rule ∧ rule.isUnion = false := by
    rw [Definition.findEntry_eq] at hentry
    split at hentry
    · exact hat 0 hentry
    · split at hentry
      next index _ => exact hat index hentry
      next => cases hentry
  obtain ⟨rule, hrule, hunion⟩ := hrule
  exact ⟨rule, by rw [List.getElem?_toArray]; exact hrule, hunion⟩

end Build

end Workbench
