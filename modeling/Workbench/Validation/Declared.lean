import Workbench.Validation.Basic
/-!
# Declared checks

A check that needs no code of its own is written down as data: the nodes it
looks at and what it says about each.
-/

namespace Workbench

/-- What a declared check does with a node. -/
inductive CheckAction where
  /-- Reports an error. -/
  | error
  /-- Reports a warning with a code and a payload for tools. -/
  | warn (code : Option String) (data : Option Data)
  /-- Leaves a hint at the start of the text, with the name of the node as
  its payload. -/
  | accept
  /-- Resolves every reference of the node and reports the number of the
  targets of each. -/
  | countTargets
  /-- Fails, or breaks down, under the given headings. -/
  | fail (headings : List String)
deriving Repr, Inhabited

/-- **A check as data.** -/
structure DeclaredCheck where
  /-- Only nodes of this name are looked at, where `?` is the name of a node
  without one. -/
  name : Option String
  /-- What is said, where `{name}` stands for the name of the node. -/
  message : String
  action : CheckAction
deriving Repr, Inhabited

namespace DeclaredCheck

/-- The place of the name in a message. -/
def nameMark : String := "\x7bname\x7d"

/-- What stands for the name of a node without a name. -/
def noName : String := "?"

/-- The references of a node in the order in which they were read, also those
whose property holds a later one. -/
def referencesOf (cx : CheckContext) : List RefId :=
  ((List.range cx.tree.references.size).map RefId.mk).filter fun id =>
    (cx.tree.reference? id).any (·.container == cx.node)

/-- Resolves references and reports their numbers of targets, up to the
first that is in a cycle. -/
def countTargets (cx : CheckContext) : List RefId → Links → CheckReport × Links
  | [], links => (⟨[], none⟩, links)
  | id :: rest, links =>
    match cx.linking.resolve links id with
    | (.error cycle, links) => (⟨[], some cycle.message⟩, links)
    | (.ok resolution, links) =>
      let property := ((cx.tree.reference? id).map Reference.property).getD ""
      let found := property ++ "=" ++ toString resolution.targets.length
      let (report, links) := countTargets cx rest links
      let diagnostic := cx.report .information cx.node found
      ({ report with diagnostics := diagnostic :: report.diagnostics }, links)

/-- **The check that was declared.** -/
def check (c : DeclaredCheck) : Check := fun cx links =>
  let name := (cx.tree.name? cx.node).getD noName
  let text := c.message.replace nameMark name
  let reports (ds : List Diagnostic) : CheckReport × Links := (⟨ds, none⟩, links)
  if c.name.any (· != name) then reports []
  else match c.action with
    | .error => reports [cx.report .error cx.node text]
    | .warn code data => reports [{ cx.report .warning cx.node text with code, data }]
    | .accept => reports [⟨.hint, text, .origin, none, some (.record [("name", .str name)])⟩]
    | .countTargets => countTargets cx (referencesOf cx) links
    | .fail headings => (⟨[], some (String.intercalate ": " (headings ++ [text]))⟩, links)

end DeclaredCheck

end Workbench
