import Workbench.Grammar.Table
import Workbench.Proofs.Grammar.Compiles
/-!
# The numbers of a compiled grammar

Compiling threads the next free number through the bodies of the rules, and
the element table lists what was numbered in the same order. So the numbers
that have been handed out are those of the table: every rule and every part
of a body is in the table of its grammar.
-/

namespace Workbench

/-- A result that was checked to be there. -/
theorem ok_of_isOk {ε α : Type} {x : Except ε α} (h : x.isOk = true) : ∃ a, x = .ok a := by
  cases x with
  | error e => cases h
  | ok a => exact ⟨a, rfl⟩

/-- A result that was found to be a certain one. -/
theorem ok_of_toOption {ε α : Type} {x : Except ε α} {a : α} (h : x.toOption = some a) :
    x = .ok a := by
  cases x with
  | error e => cases h
  | ok b =>
    cases h
    rfl

/-- Results that were computed one after the other. -/
theorem mapM_eq_ok {ε α β : Type} {f : α → Except ε β} {p : β → Prop} : ∀ {as : List α},
    (∀ a ∈ as, ∃ b, f a = .ok b ∧ p b) → ∃ bs, as.mapM f = .ok bs ∧ ∀ b ∈ bs, p b
  | [], _ => ⟨[], rfl, nofun⟩
  | a :: as, h => by
    obtain ⟨b, hb, hp⟩ := h a List.mem_cons_self
    obtain ⟨bs, hbs, hps⟩ := mapM_eq_ok fun a ha => h a (List.mem_cons_of_mem _ ha)
    refine ⟨b :: bs, ?_, List.forall_mem_cons.mpr ⟨hp, hps⟩⟩
    rw [List.mapM_cons, hb]
    show (as.mapM f >>= fun bs => pure (b :: bs)) = _
    rw [hbs]
    rfl

/-- Each of them was computed from what stands in its place. -/
theorem getElem?_of_mapM {α β ε : Type} {f : α → Except ε β} {l : List α} {l' : List β}
    (h : l.mapM f = .ok l') {k : ℕ} {b : β} (hb : l'[k]? = some b) :
    ∃ a, l[k]? = some a ∧ f a = .ok b := by
  induction l generalizing l' k with
  | nil =>
    cases h
    cases hb
  | cons a l ih =>
    rw [List.mapM_cons] at h
    obtain ⟨b', hb', h⟩ := bind_eq_ok h
    obtain ⟨bs, hbs, h⟩ := bind_eq_ok h
    cases h
    cases k with
    | zero =>
      rw [List.getElem?_cons_zero, Option.some.injEq] at hb
      subst hb
      exact ⟨a, rfl, hb'⟩
    | succ k => exact ih hbs hb

theorem length_of_mapM {α β ε : Type} {f : α → Except ε β} {l : List α} {l' : List β}
    (h : l.mapM f = .ok l') : l'.length = l.length := by
  induction l generalizing l' with
  | nil =>
    cases h
    rfl
  | cons a l ih =>
    rw [List.mapM_cons] at h
    obtain ⟨b, -, h⟩ := bind_eq_ok h
    obtain ⟨bs, hbs, h⟩ := bind_eq_ok h
    cases h
    rw [List.length_cons, List.length_cons, ih hbs]

mutual

/-- The numbers of an element and its parts. -/
def Element.ids : Element → List ElementId
  | .keyword id _ => [id]
  | .terminal id _ => [id]
  | .call id _ => [id]
  | .crossRef id _ _ => [id]
  | .assign id _ _ value => id :: value.ids
  | .seq id items => id :: Element.idsOf items
  | .alt id items => id :: Element.idsOf items
  | .repeated id _ body => id :: body.ids

/-- The numbers of several elements and their parts. -/
def Element.idsOf : List Element → List ElementId
  | [] => []
  | e :: es => e.ids ++ Element.idsOf es

end

/-- **Numbers that have been handed out** from `next` on, one after the other;
`next'` is the first that is left. -/
def Numbered (next next' : ℕ) (ids : List ElementId) : Prop :=
  next' = next + ids.length ∧ ids = (List.range' next ids.length).map ElementId.mk

namespace Numbered

variable {next next₁ next₂ : ℕ} {ids ids' : List ElementId}

theorem nil (next : ℕ) : Numbered next next [] := ⟨rfl, rfl⟩

/-- A number for the whole, then those for the parts. -/
theorem cons (h : Numbered (next + 1) next₁ ids) : Numbered next next₁ (⟨next⟩ :: ids) := by
  obtain ⟨rfl, hids⟩ := h
  refine ⟨by rw [List.length_cons]; omega, ?_⟩
  rw [List.length_cons, List.range'_succ, List.map_cons, ← hids]

theorem one (next : ℕ) : Numbered next (next + 1) [⟨next⟩] := (nil (next + 1)).cons

theorem append (h₁ : Numbered next next₁ ids) (h₂ : Numbered next₁ next₂ ids') :
    Numbered next next₂ (ids ++ ids') := by
  obtain ⟨rfl, hids⟩ := h₁
  obtain ⟨rfl, hids'⟩ := h₂
  refine ⟨by rw [List.length_append, Nat.add_assoc], ?_⟩
  rw [List.length_append, ← List.range'_append_1, List.map_append, ← hids, ← hids']

end Numbered

/-! ## Bodies -/

variable {d : Definition} {rule : RuleDef} {g : Grammar} {index : ℕ}

mutual

/-- **The numbers of a compiled expression.** -/
theorem Expr.Compiles.numbered : ∀ {assigned : Bool} {e : Expr} {next next' : ℕ} {el : Element},
    Expr.Compiles d rule assigned e next el next' → Numbered next next' el.ids
  | _, _, _, _, _, .keyword => .one _
  | _, _, _, _, _, .terminal _ => .one _
  | _, _, _, _, _, .call _ _ => .one _
  | _, _, _, _, _, .crossRef _ _ => .one _
  | _, _, _, _, _, .assign _ _ hvalue => hvalue.numbered.cons
  | _, _, _, _, _, .seq hitems => hitems.numbered.cons
  | _, _, _, _, _, .alt hitems => hitems.numbered.cons
  | _, _, _, _, _, .repeated hbody => hbody.numbered.cons

theorem Expr.CompilesAll.numbered : ∀ {assigned : Bool} {es : List Expr} {next next' : ℕ}
    {els : List Element}, Expr.CompilesAll d rule assigned es next els next' →
      Numbered next next' (Element.idsOf els)
  | _, _, _, _, _, .nil => .nil _
  | _, _, _, _, _, .cons he hes => he.numbered.append hes.numbered

end

/-! ## Rules -/

/-- The numbers of a rule and its body. -/
def Rule.ids (rule : Rule) : List ElementId := rule.id :: rule.body.ids

theorem RuleDef.Compiles.numbered {r : RuleDef} {next next' : ℕ} {compiled : Rule}
    (h : r.Compiles d next compiled next') : Numbered next next' compiled.ids := by
  rw [Rule.ids, h.id]
  exact h.body.numbered.cons

theorem RuleDef.CompilesAll.numbered {rs : List RuleDef} {next next' : ℕ} {compiled : List Rule}
    (h : RuleDef.CompilesAll d rs next compiled next') :
    Numbered next next' (compiled.flatMap Rule.ids) := by
  induction h with
  | nil => exact .nil _
  | cons hone _ ih => exact hone.numbered.append ih

/-! ## Entries -/

mutual

/-- An element and each of its parts have an entry. -/
theorem Element.length_entries (feature : Option String) :
    ∀ (e : Element), (e.entries g index feature).length = e.ids.length
  | .keyword _ _ => rfl
  | .terminal _ _ => rfl
  | .call _ _ => rfl
  | .crossRef _ _ _ => rfl
  | .assign _ name _ value => congrArg (· + 1) (Element.length_entries (some name) value)
  | .seq _ items => congrArg (· + 1) (Element.length_entriesOf feature items)
  | .alt _ items => congrArg (· + 1) (Element.length_entriesOf feature items)
  | .repeated _ _ body => congrArg (· + 1) (Element.length_entries feature body)

theorem Element.length_entriesOf (feature : Option String) : ∀ (es : List Element),
    (Element.entriesOf g index feature es).length = (Element.idsOf es).length
  | [] => rfl
  | e :: es => by
    rw [Element.entriesOf, Element.idsOf, List.length_append, List.length_append,
      Element.length_entries feature e, Element.length_entriesOf feature es]

end

theorem Rule.length_entriesFrom (g : Grammar) (index : ℕ) (rules : List Rule) :
    (Rule.entriesFrom g index rules).length = (rules.flatMap Rule.ids).length := by
  induction rules generalizing index with
  | nil => rfl
  | cons rule rules ih =>
    rw [Rule.entriesFrom, List.length_cons, List.length_append, Element.length_entries, ih,
      List.flatMap_cons, List.length_append, Rule.ids, List.length_cons]
    omega

/-! ## Grammars -/

/-- What compiling a definition takes. -/
theorem Definition.build_ok (h : d.build = .ok g) :
    ∃ terminals rules last entry, d.terminals.mapM TerminalDef.compile = .ok terminals ∧
      RuleDef.compileAll d d.rules 0 = .ok (rules, last) ∧ d.findEntry rules = .ok entry ∧
      g = ⟨d.name, terminals.toArray, rules.toArray, entry, collectKeywords rules⟩ := by
  rw [Definition.build] at h
  split at h
  · cases h
  · dsimp only at h
    split at h
    · cases h
    · obtain ⟨terminals, hterminals, h⟩ := bind_eq_ok h
      obtain ⟨⟨rules, last⟩, hrules, h⟩ := bind_eq_ok h
      obtain ⟨entry, hentry, h⟩ := bind_eq_ok h
      cases h
      exact ⟨terminals, rules, last, entry, hterminals, hrules, hentry, rfl⟩

/-- A definition compiles if its parts do. -/
theorem Definition.build_eq_ok {terminals : List Terminal} {rules : List Rule} {last entry : ℕ}
    (hempty : d.rules.isEmpty = false) (hnames : Definition.firstDuplicate? [] d.names = none)
    (hterminals : d.terminals.mapM TerminalDef.compile = .ok terminals)
    (hrules : RuleDef.compileAll d d.rules 0 = .ok (rules, last))
    (hentry : d.findEntry rules = .ok entry) :
    d.build = .ok ⟨d.name, terminals.toArray, rules.toArray, entry, collectKeywords rules⟩ := by
  rw [Definition.build, hempty, hnames]
  simp only [Bind.bind, Except.bind, hterminals, hrules, hentry]
  rfl

theorem Definition.grammar_eq (h : d.build = .ok g) : d.grammar = g := by
  rw [Definition.grammar, h]

theorem Definition.build_of_isOk (h : d.build.isOk = true) : d.build = .ok d.grammar := by
  obtain ⟨g, hg⟩ := ok_of_isOk h
  rw [hg, Definition.grammar_eq hg]

/-- Keywords that the rules have in order need not be sorted. -/
theorem Definition.build_of_ordered
    (hordered : (g.rules.toList.flatMap fun rule => rule.body.keywords).Pairwise
      fun a b => keywordBefore a b = true)
    (hkeywords : (g.rules.toList.flatMap fun rule => rule.body.keywords).eraseDups = g.keywords)
    (hbuild : d.build = .ok { g with keywords := collectKeywords g.rules.toList }) :
    d.build = .ok g := by
  rw [hbuild, collectKeywords, List.mergeSort_of_pairwise hordered, hkeywords]

/-- **The numbers of a compiled grammar are those of its table**, each once and
in order. -/
theorem Definition.ids_eq_range (h : d.build = .ok g) :
    g.rules.toList.flatMap Rule.ids = (List.range g.table.entries.size).map ElementId.mk := by
  obtain ⟨terminals, rules, last, entry, -, hrules, -, hg⟩ := Definition.build_ok h
  obtain ⟨-, hids⟩ := (RuleDef.compilesAll hrules).numbered
  rw [Grammar.table, List.size_toArray, Rule.length_entriesFrom, List.range_eq_range', hg]
  exact hids

/-- **Every rule of a compiled grammar and every part of its body is in the
table.** -/
theorem Definition.ids_in_table (h : d.build = .ok g) {rule : Rule} (hrule : rule ∈ g.rules) :
    ∀ id ∈ rule.ids, id.index < g.table.entries.size := by
  intro id hid
  have hmem : id ∈ g.rules.toList.flatMap Rule.ids :=
    List.mem_flatMap.mpr ⟨rule, Array.mem_toList_iff.mpr hrule, hid⟩
  rw [Definition.ids_eq_range h] at hmem
  obtain ⟨i, hi, rfl⟩ := List.mem_map.mp hmem
  exact List.mem_range.mp hi

theorem Definition.body_ids_in_table (h : d.build = .ok g) {rule : Rule} (hrule : rule ∈ g.rules) :
    ∀ id ∈ rule.body.ids, id.index < g.table.entries.size :=
  fun id hid => Definition.ids_in_table h hrule id (List.mem_cons_of_mem _ hid)

end Workbench
