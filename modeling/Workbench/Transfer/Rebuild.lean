import Workbench.Transfer.Instruction
import Workbench.Grammar.Table
import Workbench.Grammar.Types
/-!
# Rebuilding a parse result

Instructions are carried out one after the other on arenas of the announced
sizes, so that they may speak of nodes that are defined later. Links back
to containers are set as ownership and nesting show them, numbers of
elements are looked up in the receiver's own table, and references get
their targets from its types at the end. The first defect met is reported.
-/

namespace Workbench

namespace Transfer

/-- Why instructions rebuild nothing. -/
inductive RebuildError where
  | missingAllocate
  | duplicateAllocate
  | missingReturn
  | trailingInstruction (name : String)
  | outOfRange (target : Target)
  | unknownElement (e : UnknownElement)
  | unbalancedCst (place : String)
  | redefined (target : Target)
  | undefined (target : Target)
  | missingType (target : Target)
  | multipleContainers (target : Target)
  | unknownProperty (target : Target) (property : String)
  | invalidValue (target : Target) (property : String)
  | unknownReferenceProperty (typeName property : String)
  | invalidLink (source target : Target) (property : String)
deriving DecidableEq, Repr, Inhabited

/-- The text of a defect. -/
def RebuildError.message : RebuildError → String
  | missingAllocate => "instruction stream does not start with Allocate"
  | duplicateAllocate => "Allocate appears more than once"
  | missingReturn => "instruction stream ends without Return"
  | trailingInstruction name => name ++ " after Return"
  | outOfRange target => target.render ++ " is out of range"
  | unknownElement e => e.message
  | unbalancedCst place => "unbalanced CST nesting at " ++ place
  | redefined target => target.render ++ " is defined twice"
  | undefined target => target.render ++ " is allocated but never defined"
  | missingType target => target.render ++ " has no $type"
  | multipleContainers target => target.render ++ " is contained more than once"
  | unknownProperty target property =>
    "unknown property '" ++ property ++ "' on " ++ target.render
  | invalidValue target property =>
    "property '" ++ property ++ "' on " ++ target.render ++ " has the wrong value kind"
  | unknownReferenceProperty typeName property =>
    "'" ++ property ++ "' is not a cross-reference feature of " ++ typeName
  | invalidLink source target property =>
    "cannot link " ++ source.render ++ " to " ++ target.render ++ " through '" ++ property ++ "'"

/-- The kind of a defect, for tools. -/
def RebuildError.kind : RebuildError → String
  | missingAllocate => "MissingAllocate"
  | duplicateAllocate => "DuplicateAllocate"
  | missingReturn => "MissingReturn"
  | trailingInstruction _ => "TrailingInstruction"
  | outOfRange _ => "OutOfRange"
  | unknownElement _ => "UnknownGrammarElement"
  | unbalancedCst _ => "UnbalancedCst"
  | redefined _ => "Redefined"
  | undefined _ => "Undefined"
  | missingType _ => "MissingType"
  | multipleContainers _ => "MultipleContainers"
  | unknownProperty _ _ => "UnknownProperty"
  | invalidValue _ _ => "InvalidValue"
  | unknownReferenceProperty _ _ => "UnknownReferenceProperty"
  | invalidLink _ _ _ => "InvalidLink"

/-- A reference whose target is not known yet. -/
structure PendingReference where
  container : NodeId
  property : String
  index : Option Nat
  sent : SentReference
deriving DecidableEq, Repr, Inhabited

/-- A parse result that is being rebuilt. -/
structure Site where
  cst : Array (Option CstNode)
  ast : Array AstNode
  /-- Which nodes have been given a type. -/
  typed : Array Bool
  /-- Which nodes are owned. -/
  contained : Array Bool
  references : Array PendingReference
  /-- The open concrete nodes, innermost first. -/
  stack : List CstId
  rootCst : Option CstId
  lexerErrors : Array SyntaxError
  parserErrors : Array SyntaxError
deriving Repr, Inhabited

namespace Site

/-- Empty arenas of the given sizes. -/
def allocate (cst ast : Nat) : Site :=
  { cst := Array.replicate cst none
    ast := Array.replicate ast (AstNode.ofType "")
    typed := Array.replicate ast false
    contained := Array.replicate ast false
    references := #[]
    stack := []
    rootCst := none
    lexerErrors := #[]
    parserErrors := #[] }

/-- Requires an abstract node to be allocated. -/
def needNode (s : Site) (id : NodeId) : Except RebuildError Unit :=
  if id.index < s.ast.size then .ok () else .error (.outOfRange (.ast id))

/-- Requires a concrete node to be allocated. -/
def needCst (s : Site) (id : CstId) : Except RebuildError Unit :=
  if id.index < s.cst.size then .ok () else .error (.outOfRange (.cst id))

/-- Requires a concrete node to be defined. -/
def needDefined (s : Site) (id : CstId) : Except RebuildError Unit :=
  match s.cst[id.index]? with
  | some (some _) => .ok ()
  | some none => .error (.undefined (.cst id))
  | none => .error (.outOfRange (.cst id))

/-- Changes an abstract node. -/
def modifyNode (s : Site) (id : NodeId) (f : AstNode → AstNode) : Site :=
  { s with ast := s.ast.modify id.index f }

/-- Changes a concrete node. -/
def modifyCst (s : Site) (id : CstId) (f : CstNode → CstNode) : Site :=
  { s with cst := s.cst.modify id.index (Option.map f) }

/-- Sets a property of an abstract node. -/
def setProperty (s : Site) (id : NodeId) (name : String) (value : Property) : Site :=
  s.modifyNode id fun node => { node with properties := node.properties.insert name value }

/-- Defines a concrete node below the innermost open one, or as the root. -/
def defineCst (s : Site) (id : CstId) (kind : CstKind) (parent : Option CstId) :
    Except RebuildError Site :=
  match s.cst[id.index]? with
  | none => .error (.outOfRange (.cst id))
  | some (some _) => .error (.redefined (.cst id))
  | some none =>
    let node : CstNode := ⟨kind, parent, s.rootCst.getD id, none, none, false⟩
    let s := { s with cst := s.cst.setIfInBounds id.index (some node) }
    match parent with
    | none => .ok s
    | some parent =>
      .ok (s.modifyCst parent fun node =>
        { node with kind := node.kind.mapChildren (·.push id) })

/-- The innermost open concrete node. -/
def openParent (s : Site) (place : String) : Except RebuildError CstId :=
  match s.stack with
  | parent :: _ => .ok parent
  | [] => .error (.unbalancedCst place)

/-- Puts a node under its owner; no node has two. -/
def adopt (s : Site) (parent child : NodeId) : Except RebuildError Site :=
  match s.contained[child.index]? with
  | none => .error (.outOfRange (.ast child))
  | some true => .error (.multipleContainers (.ast child))
  | some false =>
    .ok { s.modifyNode child fun node => { node with container := some parent } with
      contained := s.contained.setIfInBounds child.index true }

/-- Puts several nodes under their owner, in order. -/
def adoptAll (parent : NodeId) : List NodeId → Site → Except RebuildError Site
  | [], s => .ok s
  | child :: children, s => do adoptAll parent children (← s.adopt parent child)

/-- Adds a reference whose target is not known yet. -/
def addReference (s : Site) (node : NodeId) (property : String) (index : Option Nat)
    (sent : SentReference) : Except RebuildError (RefId × Site) := do
  s.needNode node
  match sent.refNode with
  | some cst => s.needCst cst
  | none => pure ()
  return (⟨s.references.size⟩,
    { s with references := s.references.push ⟨node, property, index, sent⟩ })

/-- Adds references that take consecutive places from `index` on. -/
def addReferences (node : NodeId) (property : String) :
    Nat → List SentReference → Site → Except RebuildError (List RefId × Site)
  | _, [], s => .ok ([], s)
  | index, sent :: rest, s => do
    let (id, s) ← s.addReference node property (some index) sent
    let (ids, s) ← addReferences node property (index + 1) rest s
    return (id :: ids, s)

/-- Sets a scalar property of a concrete node; there are two. -/
def setCstProperty (table : ElementTable) (s : Site) (id : CstId) (property : String)
    (value : Scalar) : Except RebuildError Site := do
  s.needDefined id
  if property = hiddenProperty then
    match value with
    | .bool hidden => return s.modifyCst id fun node => { node with hidden }
    | _ => throw (.invalidValue (.cst id) property)
  else if property = sourceProperty then
    match value with
    | .int raw =>
      match table.decode raw with
      | .ok source => return s.modifyCst id fun node => { node with source }
      | .error e => throw (.unknownElement e)
    | _ => throw (.invalidValue (.cst id) property)
  else throw (.unknownProperty (.cst id) property)

/-- Sets a scalar property of an abstract node, built-in ones included. -/
def setNodeProperty (s : Site) (id : NodeId) (property : String) (value : Scalar) :
    Except RebuildError Site := do
  s.needNode id
  if property = typeProperty then
    match value with
    | .str typeName =>
      return { s.modifyNode id fun node => { node with typeName } with
        typed := s.typed.setIfInBounds id.index true }
    | _ => throw (.invalidValue (.ast id) property)
  else if property = containerPropertyProperty then
    match value with
    | .str name => return s.modifyNode id fun node => { node with containerProperty := some name }
    | _ => throw (.invalidValue (.ast id) property)
  else if property = containerIndexProperty then
    match value with
    | .int (.ofNat i) => return s.modifyNode id fun node => { node with containerIndex := some i }
    | _ => throw (.invalidValue (.ast id) property)
  else return s.setProperty id property (.scalar value)

/-- Links two nodes: a concrete node to its abstract node, back, or an owner
to what it owns. -/
def link (s : Site) (source : Target) (property : String) (target : Target) :
    Except RebuildError Site :=
  match source, target with
  | .cst cst, .ast ast =>
    if property = astNodeProperty then do
      s.needNode ast
      s.needDefined cst
      return s.modifyCst cst fun node => { node with astNode := some ast }
    else .error (.invalidLink source target property)
  | .ast ast, .cst cst =>
    if property = cstNodeProperty then do
      s.needCst cst
      s.needNode ast
      return s.modifyNode ast fun node => { node with cstNode := some cst }
    else .error (.invalidLink source target property)
  | .ast parent, .ast child =>
    if property.toList.head? = some '$' then .error (.invalidLink source target property)
    else do
      s.needNode parent
      let s ← s.adopt parent child
      return s.setProperty parent property (.node child)
  | .cst _, .cst _ => .error (.invalidLink source target property)

/-- **Carries out one instruction.** -/
def apply (table : ElementTable) (s : Site) : Instruction → Except RebuildError Site
  | .allocate _ _ => .error .duplicateAllocate
  | .property (.cst id) property value => s.setCstProperty table id property value
  | .property (.ast id) property value => s.setNodeProperty id property value
  | .propertyArray node property values => do
    s.needNode node
    return s.setProperty node property (.scalars values)
  | .reference node property sent => do
    let (id, s) ← s.addReference node property none sent
    return s.setProperty node property (.reference id)
  | .referenceArray node property refs => do
    let (ids, s) ← addReferences node property 0 refs s
    s.needNode node
    return s.setProperty node property (.references ids)
  | .linkNode source property target => s.link source property target
  | .linkNodeArray node property children => do
    s.needNode node
    let s ← adoptAll node children s
    return s.setProperty node property (.nodes children)
  | .empty node property => do
    s.needNode node
    return s.setProperty node property .empty
  | .rootCstNode id text =>
    if s.rootCst.isSome || !s.stack.isEmpty then .error (.unbalancedCst "RootCstNode")
    else do
      let s ← s.defineCst id (.root text #[]) none
      return { s with rootCst := some id, stack := [id] }
  | .compositeCstNode id => do
    let parent ← s.openParent "CompositeCstNode"
    let s ← s.defineCst id (.composite #[]) (some parent)
    return { s with stack := id :: s.stack }
  | .leafCstNode id tokenType offset length range => do
    let parent ← s.openParent "LeafCstNode"
    s.defineCst id (.leaf tokenType offset length range) (some parent)
  | .popCstNode =>
    match s.stack with
    | _ :: stack => .ok { s with stack }
    | [] => .error (.unbalancedCst "PopCstNode")
  | .error .lexer e => .ok { s with lexerErrors := s.lexerErrors.push e }
  | .error .parser e => .ok { s with parserErrors := s.parserErrors.push e }
  | .returnRoot _ => .ok s

/-- All concrete nodes, if they are defined. -/
def definedCst (s : Site) : Except RebuildError (Array CstNode) := do
  let nodes ← s.cst.toList.zipIdx.mapM fun
    | (some node, _) => Except.ok node
    | (none, index) => Except.error (RebuildError.undefined (.cst ⟨index⟩))
  return nodes.toArray

/-- A reference with the target its place has in the types. -/
def settle (types : TypeGraph) (s : Site) (r : PendingReference) : Except RebuildError Reference :=
  let typeName := (s.ast[r.container.index]?.map AstNode.typeName).getD ""
  match types.referenceTarget? typeName r.property with
  | some target => .ok ⟨r.container, r.property, r.index, r.sent.refText, r.sent.refNode, target⟩
  | none => .error (.unknownReferenceProperty typeName r.property)

/-- **The rebuilt result**, if nothing is left open or undefined. -/
def finish (types : TypeGraph) (s : Site) (root : NodeId) : Except RebuildError ParseResult := do
  if !s.stack.isEmpty then throw (.unbalancedCst "Return")
  s.needNode root
  match s.typed.findIdx? (!·) with
  | some missing => throw (.missingType (.ast ⟨missing⟩))
  | none => pure ()
  match s.rootCst with
  | none => throw (.undefined (.cst ⟨0⟩))
  | some cstRoot => do
    let cst ← s.definedCst
    let references ← s.references.toList.mapM (s.settle types)
    return ⟨⟨s.ast, cst, references.toArray, root, cstRoot⟩, s.lexerErrors.toList,
      s.parserErrors.toList⟩

/-- Carries out instructions up to the one that names the root, which has to
be the last. -/
def run (table : ElementTable) (types : TypeGraph) : List Instruction → Site →
    Except RebuildError ParseResult
  | [], _ => .error .missingReturn
  | .returnRoot root :: rest, s =>
    match rest with
    | [] => s.finish types root
    | trailing :: _ => .error (.trailingInstruction trailing.name)
  | instruction :: rest, s => do run table types rest (← s.apply table instruction)

end Site

/-- **The parse result instructions describe**, for a receiver with a
grammar. -/
def rebuild (g : Grammar) : List Instruction → Except RebuildError ParseResult
  | .allocate cst ast :: rest => Site.run g.table g.typeGraph rest (Site.allocate cst ast)
  | _ => .error .missingAllocate

end Transfer

end Workbench
