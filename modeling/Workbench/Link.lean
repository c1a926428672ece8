import Workbench.Index
import Workbench.Interrupt
import Workbench.Scope
/-!
# Resolving references

A reference is resolved when it is asked for, and the outcome is kept. The
scope in which its text is looked up comes from a provider, which may
resolve other references of the document first. A reference that is asked
for while it is being resolved is an error, and so the process ends.
-/

namespace Workbench

/-- A reference was asked for while it was being resolved. -/
structure Cycle where
  /-- The path of the node that holds the reference. -/
  path : String
  property : String
  refText : String
deriving DecidableEq, Repr, Inhabited

/-- The text of a cycle. -/
def Cycle.message (c : Cycle) : String :=
  "Cyclic reference resolution detected: " ++ c.path ++ "/" ++ c.property ++
    " (symbol '" ++ c.refText ++ "')"

/-- The scope a provider gives. -/
inductive ScopeVerdict where
  /-- The symbols of the enclosing nodes, then the exports of all documents. -/
  | lexical
  /-- Nothing is visible. -/
  | nothing
  /-- There is no scope. -/
  | failed (message : String)
deriving DecidableEq, Repr, Inhabited

/-- What a provider does for a reference. -/
structure ScopeRule where
  /-- The references of the document that it resolves first. -/
  first : List RefId
  verdict : ScopeVerdict
deriving DecidableEq, Repr, Inhabited

/-- Says how the scope of a reference is found. -/
abbrev ScopeProvider := SyntaxTree → RefId → Reference → ScopeRule

/-- The provider that is used if none is given. -/
def ScopeProvider.default : ScopeProvider := fun _ _ _ => ⟨[], .lexical⟩

/-- What references of all documents are resolved with. -/
structure Linker where
  types : TypeGraph
  provider : ScopeProvider

/-- What one document's references are resolved with. -/
structure LinkContext where
  linker : Linker
  index : Index
  document : Document
  tree : SyntaxTree

namespace LinkContext

/-! ## Scopes -/

/-- A node and the nodes that contain it, at most `n` of them, from the
inside out. -/
def enclosing (tree : SyntaxTree) : Nat → NodeId → List NodeId
  | 0, _ => []
  | n + 1, id =>
    id :: match (tree.node? id).bind AstNode.container with
      | some container => enclosing tree n container
      | none => []

/-- **The scope of a reference**: the symbols visible in its container and
in each node around that, then the exports of all documents; only those of
the type the reference wants. -/
def lexicalScope (cx : LinkContext) (reference : Reference) : Scope :=
  let wanted := reference.target.typeName
  let layers := match cx.document.localScopes with
    | none => []
    | some symbols =>
      (enclosing cx.tree cx.tree.ast.size reference.container).map fun id =>
        ((symbols.get? id).getD []).filter fun s => cx.linker.types.isSubtype s.typeName wanted
  (Scope.mk layers).withOuter (cx.index.elements cx.linker.types (some wanted))

/-! ## Outcomes -/

/-- The outcome of a reference without a scope. -/
def scopeFailure (reference : Reference) (message : String) : Resolution :=
  .error ("An error occurred while resolving reference to '" ++ reference.refText ++ "': " ++
    message)

/-- The outcome of a reference whose text stands for nothing. -/
def notFound (reference : Reference) : Resolution :=
  .error ("Could not resolve reference to " ++ reference.target.typeName ++ " named '" ++
    reference.refText ++ "'.")

/-- **Looks a reference up in a scope**: the first symbol of its text, or
all of them if it stands for many. -/
def lookUp (reference : Reference) (scope : Scope) : Resolution :=
  if reference.target.multi then
    match scope.symbolsNamed reference.refText with
    | [] => notFound reference
    | symbols => .multi (symbols.map Symbol.handle)
  else
    match scope.symbol? reference.refText with
    | some symbol => .single symbol.handle
    | none => notFound reference

/-- The outcome under the verdict of a provider. -/
def conclude (cx : LinkContext) (reference : Reference) : ScopeVerdict → Resolution
  | .lexical => lookUp reference (cx.lexicalScope reference)
  | .nothing => lookUp reference .empty
  | .failed message => scopeFailure reference message

/-- The cycle at a reference. -/
def cycleAt (cx : LinkContext) (reference : Reference) : Cycle :=
  ⟨cx.tree.pathOf reference.container, reference.property, reference.refText⟩

/-- Whether an outcome is kept: errors from before the scopes were computed
are not. -/
def keeps (cx : LinkContext) (resolution : Resolution) : Bool :=
  !(resolution.isError && decide (cx.document.state < .computedScopes))

/-! ## Resolving -/

/-- Resolves references one after the other, up to the first cycle. -/
def resolveEach (resolve : Links → RefId → Except Cycle Resolution × Links) :
    List RefId → Links → Option Cycle × Links
  | [], links => (none, links)
  | id :: rest, links =>
    match resolve links id with
    | (.error cycle, links) => (some cycle, links)
    | (.ok _, links) => resolveEach resolve rest links

/-- Resolves a reference while those of `inFlight` are being resolved, at
most `n` deep. -/
def resolveTo (cx : LinkContext) :
    Nat → List RefId → Links → RefId → Except Cycle Resolution × Links
  | n, inFlight, links, id =>
    match (links[id.index]?).join, cx.tree.reference? id with
    | some resolution, _ => (.ok resolution, links)
    | none, none => (.ok (.error "There is no such reference."), links)
    | none, some reference =>
      match n with
      | 0 => (.error (cx.cycleAt reference), links)
      | n + 1 =>
        if inFlight.contains id then (.error (cx.cycleAt reference), links)
        else
          let rule := cx.linker.provider cx.tree id reference
          let (cycle, links) := resolveEach (resolveTo cx n (id :: inFlight)) rule.first links
          let resolution := match cycle with
            | some cycle => scopeFailure reference cycle.message
            | none => cx.conclude reference rule.verdict
          (.ok resolution,
            if cx.keeps resolution then links.setIfInBounds id.index (some resolution) else links)

/-- **Resolves a reference**, or gives what it was resolved to before. At
most every reference of the document is being resolved at once. -/
def resolve (cx : LinkContext) (links : Links) (id : RefId) : Except Cycle Resolution × Links :=
  cx.resolveTo (cx.tree.references.size + 1) [] links id

/-- Resolves a reference for good: a cycle is kept as an error. -/
def settle (cx : LinkContext) (links : Links) (id : RefId) : Links :=
  match (links[id.index]?).join with
  | some _ => links
  | none =>
    match cx.resolve links id with
    | (.ok _, links) => links
    | (.error cycle, links) => links.setIfInBounds id.index (some (.error cycle.message))

/-- Settles references one after the other, with a check before each. -/
def settleEach (cx : LinkContext) : List RefId → Links → Interrupt → Option (Links × Interrupt)
  | [], links, interrupt => some (links, interrupt)
  | id :: rest, links, interrupt =>
    match interrupt.check with
    | none => none
    | some left => cx.settleEach rest (cx.settle links id) left

end LinkContext

namespace Linker

/-- The context for a document, if it was parsed. -/
def context? (l : Linker) (index : Index) (d : Document) : Option LinkContext :=
  d.tree?.map fun tree => ⟨l, index, d, tree⟩

/-- The outcome for a document that was not parsed. -/
def notParsed (d : Document) : Resolution := .error (d.uri.render ++ " has not been parsed")

/-- Resolves a reference of a document, and keeps the outcome in it. -/
def resolve (l : Linker) (index : Index) (d : Document) (id : RefId) :
    Except Cycle Resolution × Document :=
  match l.context? index d with
  | none => (.ok (notParsed d), d)
  | some cx =>
    let (outcome, links) := cx.resolve d.links id
    (outcome, { d with links })

/-- **Resolves every reference of a document.** If this is cancelled, no
resolution is left. -/
def link (l : Linker) (index : Index) (d : Document) (interrupt : Interrupt) :
    Document × Option Interrupt :=
  match l.context? index d with
  | none => (d, some interrupt)
  | some cx =>
    match cx.settleEach ((List.range cx.tree.references.size).map RefId.mk) d.links interrupt with
    | none => (d.unlink, none)
    | some (links, left) => ({ d with links }, some left)

end Linker

end Workbench
