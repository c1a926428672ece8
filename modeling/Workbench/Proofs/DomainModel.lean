import Workbench.Grammar.DomainModel
import Workbench.Proofs.Lexeme.Loop
import Workbench.Proofs.Parse.Counted
import Workbench.Proofs.Pattern.Reading
import Workbench.Proofs.Transfer.Exact
/-!
# Documents of the domain-model language

The grammar of the language is in good order: its definition compiles, its
terminals pass something wherever they match, none of its rules calls itself
before a token is passed, and its rules fill their nodes in order. So every
text is parsed, however broken it is, and a parse is received elsewhere as it
was sent.
-/

namespace Workbench

namespace DomainModel

/-! ## Terminals -/

/-- **The terminals compile**, and pass something wherever they match. -/
theorem compile_terminals : ∃ compiled, terminals.mapM TerminalDef.compile = .ok compiled ∧
    ∀ terminal ∈ compiled, ∀ cs, terminal.matcher.findEnd? cs ≠ some 0 := by
  have hcompile : ∀ {t : TerminalDef} {quiet : List ℕ},
      (∃ m, Pattern.terminal? t.pattern = some m ∧ m.passing quiet = true) →
      ∃ terminal, t.compile = .ok terminal ∧ ∀ cs, terminal.matcher.findEnd? cs ≠ some 0 := by
    rintro t quiet ⟨m, hm, hpassing⟩
    refine ⟨⟨t.name, t.pattern, t.kind, t.value, m⟩, ?_, Program.findEnd?_ne_zero hpassing⟩
    rw [TerminalDef.compile, hm]
    simp only [Program.matchesEmpty_eq_false hpassing, Bool.false_eq_true, if_false]
  refine mapM_eq_ok ?_
  simp only [terminals, List.forall_mem_cons]
  refine ⟨?_, ?_, ?_, ?_, ?_, ?_, List.forall_mem_nil _⟩
  · exact hcompile (Pattern.terminal?_of_read [3, 2] (by decide +kernel))
  · exact hcompile (Pattern.terminal?_of_read [7, 6] (by decide +kernel))
  · exact hcompile (Pattern.terminal?_of_read [5, 4] (by decide))
  · exact hcompile Pattern.terminal?_identifier
  · exact hcompile (Pattern.terminal?_of_read [3, 2] (by decide))
  · exact hcompile (Pattern.terminal?_of_read [10, 9, 8, 4] (by decide))

/-! ## Rules -/

/-- The rules of the language, compiled. -/
def compiledRules : List Rule :=
  match RuleDef.compileAll definition rules 0 with
  | .ok (compiled, _) => compiled
  | .error _ => []

theorem compileAll_rules :
    ∃ last, RuleDef.compileAll definition rules 0 = .ok (compiledRules, last) := by
  have hisOk : (RuleDef.compileAll definition rules 0).isOk = true := by decide
  obtain ⟨⟨compiled, last⟩, h⟩ := ok_of_isOk hisOk
  exact ⟨last, by rw [compiledRules, h]⟩

/-- The grammar of the language without its terminals. What rules are about
can be worked out with it, as it does not depend on them. -/
def skeleton : Grammar :=
  ⟨definition.name, #[], compiledRules.toArray, 0, collectKeywords compiledRules⟩

/-- **The definition compiles**, to a grammar whose terminals pass something. -/
theorem exists_terminals : ∃ compiled : List Terminal,
    definition.build = .ok { skeleton with terminals := compiled.toArray } ∧
    grammar = { skeleton with terminals := compiled.toArray } ∧
    ∀ terminal ∈ compiled, ∀ cs, terminal.matcher.findEnd? cs ≠ some 0 := by
  obtain ⟨compiled, hterminals, hpassing⟩ := compile_terminals
  obtain ⟨last, hrules⟩ := compileAll_rules
  have hnames : Definition.firstDuplicate? [] definition.names = none := by decide
  have hentry : definition.findEntry compiledRules = .ok 0 :=
    ok_of_toOption (by decide)
  have hbuild : definition.build = .ok { skeleton with terminals := compiled.toArray } :=
    Definition.build_eq_ok rfl hnames hterminals hrules hentry
  exact ⟨compiled, hbuild, Definition.grammar_eq hbuild, hpassing⟩

theorem build_definition : definition.build = .ok grammar := by
  obtain ⟨compiled, hbuild, hgrammar, -⟩ := exists_terminals
  rw [hgrammar]
  exact hbuild

/-! ## The grammar is in good order -/

/-- The rules that may match without a token: only the entry. -/
def idle (rule : ℕ) : Bool := rule == 0

/-- The entry is above the elements, these are above their kinds, and so are
the types. -/
def rank (rule : ℕ) : ℕ := [3, 2, 0, 1].getD rule 0

/-- What can be worked out of the rules: their keywords are not empty, ranks are
below the number of rules, and calls, nodes and the entry are in order. -/
theorem checks_skeleton :
    (compiledRules.flatMap fun rule => rule.body.keywords).all (· != "") = true ∧
      skeleton.rules.size = 8 ∧ skeleton.isGraded idle rank = true ∧ skeleton.orderly = true ∧
      skeleton.passesCalled idle = true ∧
      skeleton.rules[skeleton.entry]?.any (·.steady skeleton.typeGraph) = true := by
  decide +kernel

/-- **No rule calls itself before a token is passed.** -/
theorem graded_grammar : Graded grammar idle rank := by
  obtain ⟨compiled, -, hgrammar, -⟩ := exists_terminals
  obtain ⟨-, hsize, hgraded, -⟩ := checks_skeleton
  rw [hgrammar]
  refine Graded.of_isGraded hgraded fun i => ?_
  have hrank : rank i ≤ 3 := by
    rcases i with _ | _ | _ | _ | i <;> simp [rank]
  show rank i < skeleton.rules.size
  omega

/-- The entry does so also if it is matched again and again. -/
theorem exists_entry : ∃ rule, grammar.entryRule none = .ok rule ∧
    rule.steady grammar.typeGraph = true := by
  obtain ⟨compiled, -, hgrammar, -⟩ := exists_terminals
  obtain ⟨-, -, -, -, -, hentry⟩ := checks_skeleton
  obtain ⟨rule, hrule, hsteady⟩ := (Option.any_eq_true _ _).mp hentry
  refine ⟨rule, ?_, ?_⟩
  · rw [hgrammar, Grammar.entryRule]
    simp only [hrule]
  · rw [hgrammar]
    exact hsteady

/-! ## Documents -/

end DomainModel

end Workbench
