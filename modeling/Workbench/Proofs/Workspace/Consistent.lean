import Workbench.Proofs.Workspace.Reached
/-!
# Documents, scopes and the index agree

Documents, the exports in the index and the references in the index are
three stores, which different phases fill and different resets empty. In
every workspace that is reached they agree: each holds what the states of
the documents say, whatever calls were cancelled or failed on the way.
-/

namespace Workbench

/-- **What documents and the index have to say of each other.** -/
structure Workspace.Consistent (services : Services) (w : Workspace) : Prop where
  /-- A document that was parsed has the parse of its text. -/
  trees : ∀ uri d, w.document? uri = some d → .parsed ≤ d.state →
    ∃ result, services.parser.parse d.text none .never = .ok (result, .never) ∧
      d.parse = some result
  /-- A document has local scopes from the phase on that computes them, and
  they are what is computed for it. -/
  scopes : ∀ uri d, w.document? uri = some d →
    (d.localScopes.isSome ↔ .computedScopes ≤ d.state) ∧
      ∀ symbols, d.localScopes = some symbols →
        services.scopes.localScopes d .never = .done symbols .never
  /-- The index has exports of the documents from the phase on that computes
  them, and they are what is computed for them. -/
  exports : ∀ uri symbols, w.index.exports.get? uri = some symbols ↔
    ∃ d, w.document? uri = some d ∧ .indexedContent ≤ d.state ∧
      services.scopes.exports d .never = .done symbols .never
  /-- The index has references of the documents that are linked. -/
  references : ∀ uri, w.index.references.contains uri = true ↔
    ∃ d, w.document? uri = some d ∧ .linked ≤ d.state

namespace Workspace

section

variable {services : Services} {w : Workspace}

theorem exports_never (husual : services.Usual) (d : Document) :
    services.scopes.exports d .never = .done d.exported .never := by
  rw [husual.scopes]
  rcases ScopeComputation.exports_finds d .never with ⟨-, hne⟩ | ⟨left, hdone, hleft⟩
  · exact absurd rfl hne
  · rw [hdone, hleft rfl]

theorem localScopes_never (husual : services.Usual) (d : Document) :
    services.scopes.localScopes d .never = .done d.scoped .never := by
  rw [husual.scopes]
  rcases ScopeComputation.localScopes_finds d .never with ⟨-, hne⟩ | ⟨left, hdone, hleft⟩
  · exact absurd rfl hne
  · rw [hdone, hleft rfl]

/-- **In every workspace that is reached, documents and the index agree.** -/
theorem Reached.consistent (husual : services.Usual) (h : Reached services w) :
    w.Consistent services := by
  obtain ⟨hsound, -⟩ := h.sound husual
  refine ⟨fun uri d hd => (hsound.document uri d hd).parsed, fun uri d hd => ?_,
    fun uri symbols => ?_, fun uri => ?_⟩
  · have hdocument := hsound.document uri d hd
    by_cases hle : .computedScopes ≤ d.state
    · rw [hdocument.scopes hle]
      refine ⟨⟨fun _ => hle, fun _ => rfl⟩, fun symbols hsymbols => ?_⟩
      cases hsymbols
      exact localScopes_never husual d
    · rw [hdocument.unscoped (Nat.lt_of_not_le hle)]
      exact ⟨⟨nofun, fun h => absurd h hle⟩, nofun⟩
  · have hexports := (hsound.index uri).exports
    rw [show w.index.exports.get? uri = w.built.index.exports.get? uri from rfl, hexports,
      Option.bind_eq_some_iff]
    refine exists_congr fun d => and_congr_right fun _ => ?_
    rw [exports_never husual]
    by_cases hle : .indexedContent ≤ d.state
    · rw [Document.indexed?_of_le hle, Option.some.injEq]
      constructor
      · rintro rfl
        exact ⟨hle, rfl⟩
      · rintro ⟨-, hdone⟩
        cases hdone
        rfl
    · rw [Document.indexed?_of_lt (Nat.lt_of_not_le hle)]
      exact ⟨nofun, fun hand => absurd hand.1 hle⟩
  · rw [OrderedMap.contains_iff]
    exact (hsound.index uri).references

theorem Reached.updated (h : Reached services w) (changed deleted : List Uri)
    (interrupt : Interrupt) :
    Reached services ((Build.update services changed deleted).run w interrupt).2 :=
  .update h (Prod.eta _).symm

end

theorem run_of_fst {run whole : Except Stop Unit × Workspace} {result : Except Stop Unit}
    (hrun : run = whole) (h : whole.1 = result) : run = (result, whole.2) := by
  rw [hrun, ← h]

/-! ## A language of items -/

namespace Items

/-- Items of a type have names of one letter, and can refer to each other by a
feature. -/
def language (type feature : String) (multi : Bool) : Definition :=
  { name := "Items"
    terminals := [⟨"ID", "[a-z]", .token, .text⟩]
    rules := [
      ⟨"Model", some "Model", .repeated .many (.assign "items" .append (.call type))⟩,
      ⟨type, some type,
        .seq [.assign "name" .set (.terminal "ID"),
          .repeated .optional
            (.seq [.keyword ":", .assign feature .set (.crossRef type "ID" multi)])]⟩]
    entry := none }

/-- Items that refer to one item each. -/
def definition : Definition := language "Item" "of" false

/-- The compiled definition. -/
def grammar : Grammar := definition.grammar

theorem build_definition : definition.build = .ok grammar :=
  Definition.build_of_isOk (by decide +kernel)

/-- The services of the language. -/
def services : Services := .ofGrammar grammar

/-- A text that is parsed, with its local scopes computed. -/
def documentOf (parser : ParserService) (uri : Uri) (text : String) : Document :=
  match parser.parse text none .never with
  | .ok (result, _) =>
    let d := (Document.ofText uri text).setParse result
    { d with localScopes := some d.scoped, state := .computedScopes }
  | .error _ => .ofText uri text

/-- A file of one item. -/
def first : Uri := ⟨"file", some .blank, "/a.dmodel", ""⟩

/-- A file of one item that refers to the other. -/
def second : Uri := ⟨"file", some .blank, "/b.dmodel", ""⟩

/-- A file that is not there. -/
def missing : Uri := ⟨"file", some .blank, "/c.dmodel", ""⟩

/-- The two files. -/
def files : FileSystem := ⟨.memory, ⟨⟨[(first, "a"), (second, "b:a")]⟩⟩⟩

/-- The files, with a new text for the first. -/
def renamed : FileSystem := ⟨.memory, ⟨⟨[(first, "x"), (second, "b:a")]⟩⟩⟩

/-- The workspace of the two files. -/
def loaded : Workspace := ((Build.update services [first, second] []).run (.ofFiles files) .never).2

theorem reached_loaded : Reached services loaded :=
  Reached.updated (.start files) [first, second] [] .never

end Items

/-- Cut off while the second of two files is parsed again, the first one is
as it was and the second one is there with its new text only. -/
theorem consistent_cut :
    let cut := ((Build.update Items.services [Items.second] []).run
      { Items.loaded with files := ⟨.memory, ⟨⟨[(Items.first, "a"), (Items.second, "b")]⟩⟩⟩ }
      (.after 1)).2
    cut.documents.values.map (fun d => (d.state, d.text)) = [(.validated, "a"), (.changed, "b")] ∧
      cut.index.exports.keys = [Items.first] ∧ cut.Consistent Items.services :=
  ⟨by decide +kernel, by decide +kernel,
    Reached.consistent (Services.usual_ofGrammar _)
      (Reached.updated (.edit _ Items.reached_loaded) _ _ _)⟩

end Workspace
end Workbench
