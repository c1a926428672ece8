import Workbench.Link
/-!
# Validation

The diagnostics of a document are its lexer errors, its parser errors and
its linking errors, and then whatever the checks of the language report. A
check that fails itself becomes an error on the node it was looking at.
-/

namespace Workbench

/-- What a check looks at. -/
structure CheckContext where
  linking : LinkContext
  node : NodeId

/-- What a check reports, and how it failed if it did. -/
structure CheckReport where
  diagnostics : List Diagnostic
  failure : Option String
deriving Repr, Inhabited

/-- A check of a node. It may resolve references, and the outcomes are
kept. -/
abbrev Check := CheckContext → Links → CheckReport × Links

/-- The checks of a language with the types of the nodes they are for, in
the order they were registered. -/
abbrev CheckRegistry := List (String × Check)

namespace CheckContext

/-- The tree of the document. -/
def tree (cx : CheckContext) : SyntaxTree := cx.linking.tree

/-- The range of a node, or the start of the text if it covers nothing. -/
def rangeOf (cx : CheckContext) (id : NodeId) : Range := (cx.tree.nodeRange? id).getD .origin

/-- A diagnostic on a node. -/
def report (cx : CheckContext) (severity : Severity) (id : NodeId) (message : String) :
    Diagnostic :=
  .ofMessage severity message (cx.rangeOf id)

end CheckContext

namespace CheckRegistry

/-- **The checks for nodes of a type**: its own, then those of its
supertypes. -/
def checksFor (r : CheckRegistry) (types : TypeGraph) (type : String) : List Check :=
  (type :: types.supertypes type).flatMap fun t =>
    r.filterMap fun (registered, check) => if registered = t then some check else none

/-- Runs checks on a node, one after the other. -/
def runChecks (cx : CheckContext) : List Check → Links → List Diagnostic × Links
  | [], links => ([], links)
  | check :: rest, links =>
    let (report, links) := check cx links
    let failure := report.failure.toList.map fun message =>
      { cx.report .error cx.node ("An error occurred during validation: " ++ message) with
        code := some Diagnostic.checkFailed }
    let (diagnostics, links) := runChecks cx rest links
    (report.diagnostics ++ failure ++ diagnostics, links)

/-- Runs the checks on nodes, with a check of the interrupt before each. -/
def runNodes (r : CheckRegistry) (cx : LinkContext) :
    List NodeId → Links → Interrupt → Option (List Diagnostic × Interrupt) × Links
  | [], links, interrupt => (some ([], interrupt), links)
  | id :: rest, links, interrupt =>
    match interrupt.check with
    | none => (none, links)
    | some left =>
      let checks := r.checksFor cx.linker.types (cx.tree.typeOf id)
      let (diagnostics, links) := runChecks ⟨cx, id⟩ checks links
      let (later, links) := r.runNodes cx rest links left
      (later.map fun (more, left) => (diagnostics ++ more, left), links)

end CheckRegistry

namespace Document

/-- The diagnostics of the references that could not be resolved. -/
def linkingDiagnostics (d : Document) (tree : SyntaxTree) : List Diagnostic :=
  tree.references.toList.zipIdx.filterMap fun (reference, i) =>
    match d.resolution? ⟨i⟩ with
    | some (.error message) =>
      let leaf := reference.refNode.bind tree.cstRange?
      let range := (leaf.or (tree.nodeRange? reference.container)).getD .origin
      some ⟨.error, message, range, some Diagnostic.linkingError,
        some (.record [("property", .str reference.property), ("refText", .str reference.refText)])⟩
    | _ => none

/-- The diagnostics that need no checks: those of the lexer, of the parser
and of linking. -/
def basicDiagnostics (d : Document) (parse : ParseResult) : List Diagnostic :=
  parse.lexerErrors.map (Diagnostic.ofSyntaxError · Diagnostic.lexingError) ++
    parse.parserErrors.map (Diagnostic.ofSyntaxError · Diagnostic.parsingError) ++
    d.linkingDiagnostics parse.tree

/-- **The diagnostics of a document**, if it is not cancelled, and the
document with the references that the checks resolved. -/
def validate (d : Document) (checks : CheckRegistry) (linker : Linker) (index : Index)
    (interrupt : Interrupt) : Option (List Diagnostic × Interrupt) × Document :=
  match d.parse with
  | none => (some ([], interrupt), d)
  | some parse =>
    match interrupt.check with
    | none => (none, d)
    | some left =>
      let diagnostics := d.basicDiagnostics parse
      if checks.isEmpty then (some (diagnostics, left), d)
      else
        let (found, links) :=
          checks.runNodes ⟨linker, index, d, parse.tree⟩ parse.tree.preorder d.links left
        (found.map fun (more, left) => (diagnostics ++ more, left), { d with links })

end Document

end Workbench
