import Workbench.Document
import Workbench.Grammar.Types
/-!
# The index

The index holds, for each document, the symbols it exports and the
references it resolved. The exports of all documents are the global scope;
the references tell which documents depend on which. Lists of exports that
were asked for are kept until the exports change.
-/

namespace Workbench

/-- A resolved reference of a document. -/
structure ReferenceRecord where
  source : Uri
  /-- The path of the node that holds the reference. -/
  path : String
  property : String
  range : Option Range
  target : NodeHandle
deriving DecidableEq, Repr, Inhabited

/-- Whether a reference stays within its document. -/
def ReferenceRecord.isLocal (r : ReferenceRecord) : Bool := r.target.uri == r.source

/-- The references a document has resolved to nodes, one record for each
target. -/
def Document.referenceRecords (d : Document) (tree : SyntaxTree) : List ReferenceRecord :=
  tree.references.toList.zipIdx.flatMap fun (reference, i) =>
    match d.resolution? ⟨i⟩ with
    | none => []
    | some resolution => resolution.targets.map fun target =>
      ⟨d.uri, tree.pathOf reference.container, reference.property,
        reference.refNode.bind tree.cstRange?, target⟩

/-- **The index of a workspace.** -/
structure Index where
  exports : OrderedMap Uri (List Symbol)
  references : OrderedMap Uri (List ReferenceRecord)
  /-- Lists of exports that were asked for, by the type asked for. -/
  kept : OrderedMap (Option String) (List Symbol)
deriving DecidableEq, Repr, Inhabited

namespace Index

/-- The index of no documents. -/
def empty : Index := ⟨.empty, .empty, .empty⟩

/-- Replaces the exports of a document. -/
def updateContent (x : Index) (uri : Uri) (symbols : List Symbol) : Index :=
  { x with exports := x.exports.insert uri symbols, kept := .empty }

/-- Records the references a document has resolved. -/
def updateReferences (x : Index) (d : Document) : Index :=
  match d.tree? with
  | none => x
  | some tree => { x with references := x.references.insert d.uri (d.referenceRecords tree) }

/-- Drops the exports of a document. -/
def removeContent (x : Index) (uri : Uri) : Index :=
  if x.exports.contains uri then { x with exports := x.exports.erase uri, kept := .empty } else x

/-- Drops the references of a document. -/
def removeReferences (x : Index) (uri : Uri) : Index :=
  { x with references := x.references.erase uri }

/-- Drops all that is known about a document. -/
def remove (x : Index) (uri : Uri) : Index := (x.removeContent uri).removeReferences uri

/-- **The exports of all documents**, in the order of the documents; only
those of a type if one is given. -/
def elements (x : Index) (types : TypeGraph) (type : Option String) : List Symbol :=
  x.exports.values.flatten.filter fun s => type.all (types.isSubtype s.typeName)

/-- The exports of all documents, from the lists that were kept if this one
was asked for before. -/
def allElements (x : Index) (types : TypeGraph) (type : Option String) : List Symbol × Index :=
  match x.kept.get? type with
  | some symbols => (symbols, x)
  | none =>
    let symbols := x.elements types type
    (symbols, { x with kept := x.kept.insert type symbols })

/-- The exports of a document. -/
def exportsOf (x : Index) (uri : Uri) : List Symbol := (x.exports.get? uri).getD []

/-- **Whether a document refers into one of the changed documents.** What it
refers to within itself does not count. -/
def isAffected (x : Index) (uri : Uri) (changed : List Uri) : Bool :=
  ((x.references.get? uri).getD []).any fun r => !r.isLocal && changed.contains r.target.uri

/-- The order of reference records: by document, then by path. -/
def recordLe (a b : ReferenceRecord) : Bool :=
  if a.source.render = b.source.render then !(decide (b.path < a.path))
  else decide (a.source.render < b.source.render)

/-- Every recorded reference to a node. -/
def findReferences (x : Index) (target : NodeHandle) : List ReferenceRecord :=
  (x.references.values.flatten.filter (·.target == target)).mergeSort recordLe

end Index

end Workbench
