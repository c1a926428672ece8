import Workbench.OrderedMap
/-!
# Records of workers

What is known about each worker, under its name.
-/

namespace Workbench

/-- What a task is for. -/
inductive TaskClass where
  /-- Somebody waits for it. -/
  | interactive
  /-- It can be delayed. -/
  | background
  /-- It keeps a processor busy. -/
  | cpuBlocking
deriving DecidableEq, Repr, Inhabited

/-- The name of a task class. -/
def TaskClass.render : TaskClass → String
  | interactive => "interactive"
  | background => "background"
  | cpuBlocking => "cpu_blocking"

/-- The task class of a name; a processor is kept busy by whatever is not
known. -/
def TaskClass.ofName : String → TaskClass
  | "interactive" => interactive
  | "background" => background
  | _ => cpuBlocking

/-- What is known about the worker of one slot. -/
structure WorkerRecord where
  name : String
  taskClass : TaskClass
  /-- Which of all workers ever started has the slot. -/
  generation : Nat
  /-- How often the slot's worker was replaced. -/
  restarts : Nat
  /-- Requests under way. -/
  pending : Nat
  /-- Why the previous worker of the slot went away. -/
  lastExit : Option String
deriving DecidableEq, Repr, Inhabited

/-- The records by name. -/
structure WorkerRegistry where
  records : OrderedMap String WorkerRecord
deriving DecidableEq, Repr, Inhabited

namespace WorkerRegistry

/-- No records. -/
def empty : WorkerRegistry := ⟨.empty⟩

/-- Inserts or replaces the record of a name. -/
def upsert (r : WorkerRegistry) (record : WorkerRecord) : WorkerRegistry :=
  ⟨r.records.insert record.name record⟩

/-- Changes a record that is there. -/
def update (r : WorkerRegistry) (name : String) (f : WorkerRecord → WorkerRecord) :
    WorkerRegistry :=
  ⟨r.records.modify name f⟩

/-- The record of a name. -/
def get? (r : WorkerRegistry) (name : String) : Option WorkerRecord := r.records.get? name

/-- **The records, sorted by name.** -/
def snapshots (r : WorkerRegistry) : List WorkerRecord :=
  r.records.values.mergeSort fun a b => !(decide (b.name < a.name))

end WorkerRegistry

/-! ## Groups of tasks -/

/-- How a task ended. -/
inductive TaskOutcome where
  | completed
  | panicked
deriving DecidableEq, Repr, Inhabited

/-- Tasks that are waited for together. -/
structure TaskGroup where
  tasks : List TaskOutcome
deriving DecidableEq, Repr, Inhabited

namespace TaskGroup

/-- No tasks. -/
def empty : TaskGroup := ⟨[]⟩

/-- Adds a task that will end so. -/
def spawn (g : TaskGroup) (outcome : TaskOutcome) : TaskGroup := ⟨g.tasks ++ [outcome]⟩

/-- The number of tasks that were not waited for. -/
def size (g : TaskGroup) : Nat := g.tasks.length

/-- **Waits for every task**: how many panicked, and a group without tasks. -/
def joinAll (g : TaskGroup) : Nat × TaskGroup := (g.tasks.count .panicked, empty)

end TaskGroup

end Workbench
