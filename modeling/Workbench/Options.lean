/-!
# Modes

Choices that settings, documents and builds share.
-/

namespace Workbench

/-- Where documents are parsed. -/
inductive ParserMode where
  /-- By a pool of workers. -/
  | worker
  | inProcess
deriving DecidableEq, Repr, Inhabited

/-- The name of a parser mode. -/
def ParserMode.render : ParserMode → String
  | worker => "worker"
  | inProcess => "in-process"

/-- Whether documents are validated. -/
inductive ValidationMode where
  | all
  | none
deriving DecidableEq, Repr, Inhabited

/-- The name of a validation mode. -/
def ValidationMode.render : ValidationMode → String
  | all => "All"
  | none => "None"

end Workbench
