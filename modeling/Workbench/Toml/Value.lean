/-!
# TOML documents

A document is a table of named values. Tables remember how they came about,
since that decides whether a later line may add to them: one written inline
is closed, one opened by a header is opened once, and one that only arose
on the way to another table may still be opened.
-/

namespace Workbench

namespace Toml

/-- How a table came about. -/
inductive Origin where
  /-- Written in braces. -/
  | inline
  /-- On the way to a table with a header. -/
  | implicit
  /-- Through a dotted key. -/
  | dotted
  /-- Opened by a header. -/
  | header
deriving DecidableEq, Repr, Inhabited

/-- A value of a document. -/
inductive Value where
  | text (s : String)
  | int (i : Int)
  /-- A truth value, a fraction or a point in time; its content is dropped. -/
  | other
  /-- A list, written as one or gathered from headers. -/
  | array (gathered : Bool) (items : List Value)
  | table (origin : Origin) (entries : List (String × Value))
deriving Repr, Inhabited

/-- The named values of a table. -/
abbrev Entries := List (String × Value)

namespace Entries

/-- Gives an existing name another value. -/
def replace (name : String) (value : Value) (es : Entries) : Entries :=
  es.map fun (name', value') => if name' = name then (name', value) else (name', value')

/-- Adds a value under a dotted name; nothing is defined twice. -/
def insert? : List String → Value → Entries → Option Entries
  | [], _, _ => none
  | [name], value, es => if (es.lookup name).isSome then none else some (es ++ [(name, value)])
  | name :: names, value, es =>
    match es.lookup name with
    | none => (insert? names value []).map fun sub => es ++ [(name, .table .dotted sub)]
    | some (.table .dotted sub) =>
      (insert? names value sub).map fun sub => es.replace name (.table .dotted sub)
    | some (.table .implicit sub) =>
      (insert? names value sub).map fun sub => es.replace name (.table .implicit sub)
    | some _ => none

/-- Changes the table a path of names leads to; a gathered list leads to its
last table. -/
def update? (f : Entries → Option Entries) : List String → Entries → Option Entries
  | [], es => f es
  | name :: names, es =>
    match es.lookup name with
    | some (.table origin sub) =>
      (update? f names sub).map fun sub => es.replace name (.table origin sub)
    | some (.array true items) =>
      match items.getLast? with
      | some (.table origin sub) =>
        (update? f names sub).map fun sub =>
          es.replace name (.array true (items.dropLast ++ [.table origin sub]))
      | _ => none
    | _ => none

/-- Opens the last table of a header inside the table that holds it. -/
def openTable? (name : String) (es : Entries) : Option Entries :=
  match es.lookup name with
  | none => some (es ++ [(name, .table .header [])])
  | some (.table .implicit sub) => some (es.replace name (.table .header sub))
  | some _ => none

/-- Adds a table to a gathered list inside the table that holds it. -/
def openItem? (name : String) (es : Entries) : Option Entries :=
  match es.lookup name with
  | none => some (es ++ [(name, .array true [.table .header []])])
  | some (.array true items) =>
    some (es.replace name (.array true (items ++ [.table .header []])))
  | some _ => none

/-- Walks the path of a header, making the tables that are missing, and opens
the last one. -/
def openPath? (last? : String → Entries → Option Entries) : List String → Entries → Option Entries
  | [], _ => none
  | [name], es => last? name es
  | name :: names, es =>
    match es.lookup name with
    | none => (openPath? last? names []).map fun sub => es ++ [(name, .table .implicit sub)]
    | some (.table .inline _) => none
    | some (.table origin sub) =>
      (openPath? last? names sub).map fun sub => es.replace name (.table origin sub)
    | some (.array true items) =>
      match items.getLast? with
      | some (.table origin sub) =>
        (openPath? last? names sub).map fun sub =>
          es.replace name (.array true (items.dropLast ++ [.table origin sub]))
      | _ => none
    | some _ => none

end Entries

end Toml

end Workbench
