import Workbench.Proofs.Parse.Metered
import Workbench.Proofs.Workspace.Operations
/-!
# What a phase does to a document

Each phase computes something from a document and the index, and asks its
interrupt on the way. What it computes is here without the interrupt, as
`Document.phase`; `Build.advance_cases` says that a phase does this, or fails
with it, or is cancelled. A phase that is cancelled has changed nothing but
resolutions: those of a document in the middle of being linked are forgotten,
and the checks have resolved what they asked for.
-/

namespace Workbench

/-- Services whose scopes are found as they are if nothing else is given. -/
structure Services.Usual (services : Services) : Prop where
  scopes : services.scopes = .default
  provider : services.linker.provider = .default

theorem Services.usual_ofGrammar (grammar : Grammar) : (Services.ofGrammar grammar).Usual :=
  ⟨rfl, rfl⟩

theorem Document.tree?_of_parse {d : Document} {result : ParseResult}
    (h : d.parse = some result) : d.tree? = some result.tree := by
  rw [tree?, h, Option.map_some]

namespace Interrupt

theorem check_cases (i : Interrupt) :
    (i.check = none ∧ i ≠ .never) ∨ ∃ left, i.check = some left ∧ (i = .never → left = .never) := by
  cases h : i.check with
  | none =>
    refine Or.inl ⟨rfl, fun hn => ?_⟩
    rw [hn] at h
    cases h
  | some left => exact Or.inr ⟨left, rfl, never_of_check h⟩

end Interrupt

/-! ## Parsing -/

/-- **A text has one parse**: an interrupt can only keep it from being
found. -/
theorem ParserService.parse_never (p : ParserService) (text : String) (entry : Option String)
    (interrupt : Interrupt) :
    (∀ r left, p.parse text entry interrupt = .ok (r, left) →
      p.parse text entry .never = .ok (r, .never)) ∧
    ∀ e, p.parse text entry interrupt = .error e →
      e = .cancelled ∨ p.parse text entry .never = .error e := by
  -- first without a worker
  have hhere : ∀ left₀,
      (∀ r left, p.parseHere text entry left₀ = .ok (r, left) →
        p.parseHere text entry .never = .ok (r, .never)) ∧
      ∀ e, p.parseHere text entry left₀ = .error e →
        e = .cancelled ∨ p.parseHere text entry .never = .error e := by
    intro left₀
    obtain ⟨hok, herror⟩ := p.grammar.parse_never text entry left₀
    simp only [parseHere]
    cases p.breaksOn text with
    | some message => exact ⟨nofun, fun e h => Or.inr h⟩
    | none =>
      dsimp only
      cases hp : p.grammar.parse text entry left₀ with
      | ok parsed =>
        refine ⟨?_, nofun⟩
        rintro r left ⟨⟩
        rw [hok r left hp]
        rfl
      | error e =>
        refine ⟨nofun, ?_⟩
        rintro _ ⟨⟩
        rcases herror e hp with rfl | hsame
        · exact Or.inl rfl
        · rw [hsame]
          exact Or.inr rfl
  simp only [parse, Interrupt.check_never]
  cases interrupt.check with
  | none => exact ⟨nofun, fun e h => Or.inl (by cases h; rfl)⟩
  | some left₀ =>
    obtain ⟨hok, herror⟩ := hhere left₀
    dsimp only
    cases p.mode with
    | inProcess => exact ⟨hok, herror⟩
    | worker =>
      cases hp : p.parseHere text entry left₀ with
      | ok parsed =>
        obtain ⟨result, left₁⟩ := parsed
        rw [hok result left₁ hp]
        dsimp only
        cases receive p.grammar result with
        | ok copy =>
          refine ⟨?_, nofun⟩
          rintro r left ⟨⟩
          rfl
        | error e => exact ⟨nofun, fun e h => Or.inr (by cases h; rfl)⟩
      | error e =>
        rcases herror e hp with rfl | hsame
        · exact ⟨nofun, fun e h => Or.inl (by cases h; rfl)⟩
        · rw [hsame]
          refine ⟨fun r left h => ?_, fun e' h => Or.inr h⟩
          cases e <;> cases h

/-! ## Collecting symbols -/

/-- The symbols a document exports. -/
def Document.exported (d : Document) : List Symbol :=
  match d.tree? with
  | none => []
  | some tree => (tree.root :: tree.childrenOf tree.root).filterMap d.symbol?

/-- The symbols visible in the nodes of a document. -/
def Document.scoped (d : Document) : LocalSymbols :=
  match d.tree? with
  | none => .empty
  | some tree => tree.preorder.foldl (ScopeComputation.addLocal d tree) .empty

namespace ScopeComputation

variable {α : Type}

/-- How a computation ends that finds a value if it is not cancelled. -/
def Finds (interrupt : Interrupt) (outcome : ScopeOutcome α) (value : α) : Prop :=
  (outcome = .cancelled ∧ interrupt ≠ .never) ∨
    ∃ left, outcome = .done value left ∧ (interrupt = .never → left = .never)

theorem Finds.of_check {i left : Interrupt} {outcome : ScopeOutcome α} {value : α}
    (h : i.check = some left) (hf : Finds left outcome value) : Finds i outcome value := by
  have hn := Interrupt.never_of_check h
  rcases hf with ⟨hc, hne⟩ | ⟨left', hd, hnever⟩
  · exact Or.inl ⟨hc, fun hi => hne (hn hi)⟩
  · exact Or.inr ⟨left', hd, fun hi => hnever (hn hi)⟩

theorem exportsFrom_finds (d : Document) (ids : List NodeId) (i : Interrupt) (found : List Symbol) :
    Finds i (exportsFrom d ids i found) (found ++ ids.filterMap d.symbol?) := by
  induction ids generalizing i found with
  | nil => exact Or.inr ⟨i, by simp [exportsFrom], id⟩
  | cons id rest ih =>
    rw [exportsFrom]
    rcases i.check_cases with ⟨hc, hne⟩ | ⟨left, hc, -⟩
    · rw [hc]
      exact Or.inl ⟨rfl, hne⟩
    · rw [hc]
      have hrest := ih left (found ++ (d.symbol? id).toList)
      have hsame : found ++ (d.symbol? id).toList ++ rest.filterMap d.symbol? =
          found ++ (id :: rest).filterMap d.symbol? := by
        cases hs : d.symbol? id <;> simp [hs]
      rw [hsame] at hrest
      exact hrest.of_check hc

theorem exports_finds (d : Document) (i : Interrupt) :
    Finds i (default.exports d i) d.exported := by
  simp only [default, defaultExports, Document.exported]
  cases d.tree? with
  | none => exact Or.inr ⟨i, rfl, id⟩
  | some tree => exact exportsFrom_finds d _ i []

theorem localScopesFrom_finds (d : Document) (tree : SyntaxTree) (ids : List NodeId)
    (i : Interrupt) (found : LocalSymbols) :
    Finds i (localScopesFrom d tree ids i found) (ids.foldl (addLocal d tree) found) := by
  induction ids generalizing i found with
  | nil => exact Or.inr ⟨i, rfl, id⟩
  | cons id rest ih =>
    rw [localScopesFrom]
    rcases i.check_cases with ⟨hc, hne⟩ | ⟨left, hc, -⟩
    · rw [hc]
      exact Or.inl ⟨rfl, hne⟩
    · rw [hc]
      exact (ih left _).of_check hc

theorem localScopes_finds (d : Document) (i : Interrupt) :
    Finds i (default.localScopes d i) d.scoped := by
  simp only [default, defaultLocalScopes, Document.scoped]
  cases d.tree? with
  | none => exact Or.inr ⟨i, rfl, id⟩
  | some tree => exact localScopesFrom_finds d tree _ i .empty

end ScopeComputation

/-! ## Linking -/

/-- A document with every reference resolved. -/
def Linker.linked (l : Linker) (index : Index) (d : Document) : Document :=
  match l.context? index d with
  | none => d
  | some cx =>
    { d with links := ((List.range cx.tree.references.size).map RefId.mk).foldl cx.settle d.links }

theorem LinkContext.settleEach_cases (cx : LinkContext) (ids : List RefId) (links : Links)
    (i : Interrupt) :
    (cx.settleEach ids links i = none ∧ i ≠ .never) ∨
      ∃ left, cx.settleEach ids links i = some (ids.foldl cx.settle links, left) ∧
        (i = .never → left = .never) := by
  induction ids generalizing links i with
  | nil => exact Or.inr ⟨i, rfl, id⟩
  | cons id rest ih =>
    rw [settleEach]
    rcases i.check_cases with ⟨hc, hne⟩ | ⟨left, hc, hn⟩
    · rw [hc]
      exact Or.inl ⟨rfl, hne⟩
    · rw [hc]
      rcases ih (cx.settle links id) left with ⟨hnone, hne⟩ | ⟨left', hsome, hn'⟩
      · exact Or.inl ⟨hnone, fun hi => hne (hn hi)⟩
      · exact Or.inr ⟨left', hsome, fun hi => hn' (hn hi)⟩

theorem Linker.link_cases (l : Linker) (index : Index) (d : Document) (i : Interrupt) :
    (l.link index d i = (d.unlink, none) ∧ i ≠ .never) ∨
      ∃ left, l.link index d i = (l.linked index d, some left) ∧ (i = .never → left = .never) := by
  rw [link, linked]
  cases l.context? index d with
  | none => exact Or.inr ⟨i, rfl, id⟩
  | some cx =>
    dsimp only
    rcases cx.settleEach_cases ((List.range cx.tree.references.size).map RefId.mk) d.links i with
      ⟨hnone, hne⟩ | ⟨left, hsome, hn⟩
    · rw [hnone]
      exact Or.inl ⟨rfl, hne⟩
    · rw [hsome]
      exact Or.inr ⟨left, rfl, hn⟩

/-! ## Validating -/

namespace CheckRegistry

/-- What the checks find on nodes, and what they resolve. -/
def onNodes (r : CheckRegistry) (cx : LinkContext) : List NodeId → Links → List Diagnostic × Links
  | [], links => ([], links)
  | id :: rest, links =>
    let (diagnostics, links) :=
      runChecks ⟨cx, id⟩ (r.checksFor cx.linker.types (cx.tree.typeOf id)) links
    let (more, links) := r.onNodes cx rest links
    (diagnostics ++ more, links)

/-- Checks that are cancelled have been on the first nodes. -/
theorem runNodes_cases (r : CheckRegistry) (cx : LinkContext) (ids : List NodeId) (links : Links)
    (i : Interrupt) :
    (∃ pre, pre <+: ids ∧ r.runNodes cx ids links i = (none, (r.onNodes cx pre links).2) ∧
        i ≠ .never) ∨
      ∃ left, r.runNodes cx ids links i =
        (some ((r.onNodes cx ids links).1, left), (r.onNodes cx ids links).2) ∧
        (i = .never → left = .never) := by
  induction ids generalizing links i with
  | nil => exact Or.inr ⟨i, rfl, id⟩
  | cons id rest ih =>
    rw [runNodes]
    rcases i.check_cases with ⟨hc, hne⟩ | ⟨left, hc, hn⟩
    · rw [hc]
      exact Or.inl ⟨[], List.nil_prefix, rfl, hne⟩
    · rw [hc]
      dsimp only
      rcases ih (runChecks ⟨cx, id⟩ (r.checksFor cx.linker.types (cx.tree.typeOf id)) links).2 left
        with ⟨pre, hpre, hrun, hne⟩ | ⟨left', hrun, hn'⟩
      · rw [hrun]
        exact Or.inl ⟨id :: pre, (List.prefix_cons_inj id).mpr hpre, rfl, fun hi => hne (hn hi)⟩
      · rw [hrun]
        exact Or.inr ⟨left', rfl, fun hi => hn' (hn hi)⟩

end CheckRegistry

namespace Document

/-- The diagnostics of a document, and the document with what the checks
have resolved. -/
def checked (d : Document) (checks : CheckRegistry) (linker : Linker) (index : Index) :
    List Diagnostic × Document :=
  match d.parse with
  | none => ([], d)
  | some parse =>
    let (found, links) := checks.onNodes ⟨linker, index, d, parse.tree⟩ parse.tree.preorder d.links
    (d.basicDiagnostics parse ++ found, { d with links })

/-- Resolutions of a document after checks on its first nodes. -/
def PartlyChecked (d : Document) (checks : CheckRegistry) (linker : Linker) (index : Index)
    (links : Links) : Prop :=
  ∃ parse pre, d.parse = some parse ∧ pre <+: parse.tree.preorder ∧
    links = (checks.onNodes ⟨linker, index, d, parse.tree⟩ pre d.links).2

theorem onNodes_of_isEmpty {checks : CheckRegistry} (h : checks.isEmpty) (cx : LinkContext)
    (ids : List NodeId) (links : Links) : checks.onNodes cx ids links = ([], links) := by
  obtain rfl : checks = [] := List.isEmpty_iff.mp h
  have hnone : ∀ type, CheckRegistry.checksFor [] cx.linker.types type = [] := by
    intro type
    simp [CheckRegistry.checksFor]
  induction ids with
  | nil => rfl
  | cons id rest ih =>
    rw [CheckRegistry.onNodes, hnone, CheckRegistry.runChecks]
    dsimp only
    rw [ih]
    rfl

theorem validate_of_parse {d : Document} {parse : ParseResult} (h : d.parse = some parse)
    (checks : CheckRegistry) (linker : Linker) (index : Index) (i : Interrupt) :
    d.validate checks linker index i = match i.check with
      | none => (none, d)
      | some left =>
        if checks.isEmpty then (some (d.basicDiagnostics parse, left), d)
        else
          let (found, links) :=
            checks.runNodes ⟨linker, index, d, parse.tree⟩ parse.tree.preorder d.links left
          (found.map fun (more, left) => (d.basicDiagnostics parse ++ more, left),
            { d with links }) := by
  cases d
  cases h
  rfl

theorem checked_of_parse {d : Document} {parse : ParseResult} (h : d.parse = some parse)
    (checks : CheckRegistry) (linker : Linker) (index : Index) :
    d.checked checks linker index =
      (d.basicDiagnostics parse ++
        (checks.onNodes ⟨linker, index, d, parse.tree⟩ parse.tree.preorder d.links).1,
      { d with
        links := (checks.onNodes ⟨linker, index, d, parse.tree⟩ parse.tree.preorder d.links).2 }) := by
  rw [checked, h]

theorem validate_cases (d : Document) (checks : CheckRegistry) (linker : Linker) (index : Index)
    (i : Interrupt) :
    (∃ links, d.validate checks linker index i = (none, { d with links }) ∧
        d.PartlyChecked checks linker index links ∧ i ≠ .never) ∨
      ∃ left, d.validate checks linker index i =
        (some ((d.checked checks linker index).1, left), (d.checked checks linker index).2) ∧
        (i = .never → left = .never) := by
  rcases Option.eq_none_or_eq_some d.parse with hparse | ⟨parse, hparse⟩
  · rw [validate, checked, hparse]
    exact Or.inr ⟨i, rfl, id⟩
  · rw [validate_of_parse hparse, checked_of_parse hparse]
    rcases i.check_cases with ⟨hc, hne⟩ | ⟨left, hc, hn⟩
    · rw [hc]
      exact Or.inl ⟨d.links, rfl, ⟨parse, [], hparse, List.nil_prefix, rfl⟩, hne⟩
    · rw [hc]
      dsimp only
      by_cases hempty : checks.isEmpty
      · rw [if_pos hempty, onNodes_of_isEmpty hempty]
        exact Or.inr ⟨left, by rw [List.append_nil], hn⟩
      · rw [if_neg hempty]
        rcases checks.runNodes_cases ⟨linker, index, d, parse.tree⟩ parse.tree.preorder d.links left
          with ⟨pre, hpre, hrun, hne⟩ | ⟨left', hrun, hn'⟩
        · rw [hrun]
          exact Or.inl ⟨_, rfl, ⟨parse, pre, hparse, hpre, rfl⟩, fun hi => hne (hn hi)⟩
        · rw [hrun]
          exact Or.inr ⟨left', rfl, fun hi => hn' (hn hi)⟩

/-! ## Phases -/

/-- **What a phase makes of a document and of the index**, if nothing
cancels it. -/
def phase (services : Services) (x : Index) (d : Document) :
    DocumentState → Except Stop (Document × Index)
  | .changed => .ok (d, x)
  | .parsed =>
    match services.parser.parse d.text none .never with
    | .ok (result, _) => .ok (d.setParse result, x)
    | .error fault => .error (Build.parseStop d.uri fault)
  | .indexedContent =>
    .ok ({ d.recordScopeFailure .indexedContent none with state := .indexedContent },
      x.updateContent d.uri d.exported)
  | .computedScopes =>
    .ok ({ d.recordScopeFailure .computedScopes none with
      localScopes := some d.scoped, state := .computedScopes }, x)
  | .linked =>
    let d := services.linker.linked x d
    .ok ({ d with state := .linked }, x.updateReferences d)
  | .validated =>
    let (found, d) := d.checked services.checks services.linker x
    .ok ({ d with diagnostics := d.scopeFailures.map Prod.snd ++ found, state := .validated }, x)

/-- The resolutions a phase can leave in a document when it is cancelled. -/
inductive Halts (services : Services) (x : Index) (d : Document) : DocumentState → Links → Prop
  | unlinked : Halts services x d .linked d.unlink.links
  | checked {links : Links} : d.PartlyChecked services.checks services.linker x links →
      Halts services x d .validated links

end Document

namespace Built

/-- Replaces a document. -/
def put (b : Built) (d : Document) : Built := { b with documents := b.documents.insert d.uri d }

/-- **A document taken through a phase.** -/
def advance (services : Services) (t : DocumentState) (b : Built) (uri : Uri) : Except Stop Built :=
  match b.documents.get? uri with
  | none => .ok b
  | some d => (d.phase services b.index t).map fun (d, x) => ⟨b.documents.insert d.uri d, x⟩

/-- What is there when a phase of a document was cancelled. -/
inductive Halts (services : Services) (t : DocumentState) (b : Built) (uri : Uri) : Built → Prop
  | unchanged : Halts services t b uri b
  | changed {d : Document} {links : Links} : b.documents.get? uri = some d →
      d.Halts services b.index t links → Halts services t b uri (b.put { d with links })

end Built

namespace Build

variable {services : Services} {s s' : BuildState} {r : Except Stop Unit} {d : Document}
  {uri : Uri} {t : DocumentState}

/-- How a phase of a document ends. -/
inductive Advances (services : Services) (t : DocumentState) (uri : Uri) (s : BuildState) :
    Except Stop Unit → BuildState → Prop
  | done {s' : BuildState} : s.Frame s' → s.built.advance services t uri = .ok s'.built →
      Advances services t uri s (.ok ()) s'
  | failed {stop : Stop} : s.built.advance services t uri = .error stop →
      Advances services t uri s (.error stop) s
  | cancelled {s' : BuildState} : s.interrupt ≠ .never → s.Frame s' →
      s.built.Halts services t uri s'.built →
      Advances services t uri s (.error (.failed .cancelled)) s'

/-- A phase that is through gives the document and the index. -/
theorem Advances.of_phase {x : Index} {d' : Document} {left : Interrupt}
    (hd : s.workspace.document? uri = some d)
    (hphase : d.phase services s.workspace.index t = .ok (d', x))
    (hleft : s.interrupt = .never → left = .never) :
    Advances services t uri s (.ok ())
      ⟨{ s.workspace with documents := s.workspace.documents.insert d'.uri d', index := x }, left⟩ := by
  refine .done ⟨rfl, rfl, hleft⟩ ?_
  have hget : s.built.documents.get? uri = some d := hd
  have hx : s.built.index = s.workspace.index := rfl
  rw [Built.advance, hget]
  dsimp only
  rw [hx, hphase]
  rfl

theorem parsePhase_cases (hd : s.workspace.document? uri = some d)
    (h : parsePhase services d s = (r, s')) : Advances services .parsed uri s r s' := by
  rw [parsePhase, get_bind_run] at h
  obtain ⟨hok, herror⟩ := services.parser.parse_never d.text none s.interrupt
  cases hp : services.parser.parse d.text none s.interrupt with
  | ok parsed =>
    obtain ⟨result, left⟩ := parsed
    have hnever := hok result left hp
    rw [hp] at h
    cases h
    refine Advances.of_phase hd (by rw [Document.phase, hnever]) fun hi => ?_
    rw [hi, hnever] at hp
    cases hp
    rfl
  | error e =>
    rw [hp] at h
    cases h
    by_cases hsame : services.parser.parse d.text none .never = .error e
    · refine .failed ?_
      have hget : s.built.documents.get? uri = some d := hd
      rw [Built.advance, hget]
      dsimp only
      rw [Document.phase, hsame]
      rfl
    · obtain rfl := (herror e hp).resolve_right hsame
      refine .cancelled (fun hi => ?_) (.refl s) .unchanged
      rw [hi] at hp
      exact hsame hp

theorem indexPhase_cases (husual : services.Usual) (hd : s.workspace.document? uri = some d)
    (h : indexPhase services d s = (r, s')) : Advances services .indexedContent uri s r s' := by
  rw [indexPhase, get_bind_run, husual.scopes] at h
  rcases ScopeComputation.exports_finds d s.interrupt with ⟨hc, hne⟩ | ⟨left, hdone, hn⟩
  · rw [hc] at h
    cases h
    exact .cancelled hne (.refl s) .unchanged
  · rw [hdone] at h
    cases h
    exact Advances.of_phase hd rfl hn

theorem scopePhase_cases (husual : services.Usual) (hd : s.workspace.document? uri = some d)
    (h : scopePhase services d s = (r, s')) : Advances services .computedScopes uri s r s' := by
  rw [scopePhase, get_bind_run, husual.scopes] at h
  rcases ScopeComputation.localScopes_finds d s.interrupt with ⟨hc, hne⟩ | ⟨left, hdone, hn⟩
  · rw [hc] at h
    cases h
    exact .cancelled hne (.refl s) .unchanged
  · rw [hdone] at h
    cases h
    exact Advances.of_phase hd rfl hn

theorem linkPhase_cases (hd : s.workspace.document? uri = some d)
    (h : linkPhase services d s = (r, s')) : Advances services .linked uri s r s' := by
  rw [linkPhase, get_bind_run] at h
  rcases services.linker.link_cases s.workspace.index d s.interrupt with
    ⟨hc, hne⟩ | ⟨left, hdone, hn⟩
  · rw [hc] at h
    dsimp only at h
    rw [change_bind_run, throw_run] at h
    cases h
    exact .cancelled hne ⟨rfl, rfl, id⟩ (.changed hd .unlinked)
  · rw [hdone] at h
    cases h
    exact Advances.of_phase hd rfl hn

theorem validatePhase_cases (hd : s.workspace.document? uri = some d)
    (h : validatePhase services d s = (r, s')) : Advances services .validated uri s r s' := by
  rw [validatePhase, get_bind_run] at h
  rcases d.validate_cases services.checks services.linker s.workspace.index s.interrupt with
    ⟨links, hc, hlinks, hne⟩ | ⟨left, hdone, hn⟩
  · rw [hc] at h
    dsimp only at h
    rw [change_bind_run, throw_run] at h
    cases h
    exact .cancelled hne ⟨rfl, rfl, id⟩ (.changed hd (.checked hlinks))
  · rw [hdone] at h
    cases h
    exact Advances.of_phase hd rfl hn

/-- **What a phase does to a document.** -/
theorem advance_cases (husual : services.Usual) (ht : t ≠ .changed)
    (h : advance services t uri s = (r, s')) :
    Advances services t uri s r s' := by
  rw [advance, get_bind_run] at h
  cases hd : s.workspace.document? uri with
  | none =>
    rw [hd] at h
    cases h
    have hget : s.built.documents.get? uri = none := hd
    exact .done (.refl s) (by rw [Built.advance, hget])
  | some d =>
    rw [hd] at h
    cases t with
    | changed => exact absurd rfl ht
    | parsed => exact parsePhase_cases hd h
    | indexedContent => exact indexPhase_cases husual hd h
    | computedScopes => exact scopePhase_cases husual hd h
    | linked => exact linkPhase_cases hd h
    | validated => exact validatePhase_cases hd h

end Build
end Workbench
