import BackendAudit.Toml.Value

/-!
# Putting a document together

A document is a list of statements: headers, which open a table, and keys with
values, which add to the table that is open.  No key may be given twice, no header
may open a table twice, and neither may add to what was written as a value.
-/

namespace BackendAudit.Toml

/-- A statement of a document.  The last part of a key or header is kept apart from
the path before it. -/
inductive Statement where
  | header (path : List String) (key : String)
  | repeatedHeader (path : List String) (key : String)
  | entry (path : List String) (key : String) (value : Value)
  deriving Inhabited

namespace Entries

/-- The entries with the value of a key replaced. -/
def set (entries : Entries) (key : String) (value : Value) : Entries :=
  entries.map fun e => if e.1 = key then (key, value) else e

/-- The entries without a key. -/
def erase (entries : Entries) (key : String) : Entries :=
  entries.filter fun e => e.1 ≠ key

/-- Changes the table at the end of a path, creating those that are missing.  With
`dotted` the path is that of a key, and may not lead through a table with a header;
a header may go through any table that is not a value, and through the last of
several tables with one name. -/
def update (dotted : Bool) (change : TableStyle → Entries → Option Entries) :
    TableStyle → List String → Entries → Option Entries
  | style, [], entries => change style entries
  | _, key :: path, entries =>
    match entries.lookup key with
    | none =>
      let style := if dotted then TableStyle.dotted else .above
      (update dotted change style path []).map fun t => entries ++ [(key, .table style t)]
    | some (.table style t) =>
      if style = .inline ∨ (dotted ∧ style = .named) then none
      else (update dotted change style path t).map fun t => set entries key (.table style t)
    | some (.tables items) =>
      match items.getLast? with
      | none => none
      | some t =>
        (update dotted change .named path t).map fun t =>
          set entries key (.tables (items.dropLast ++ [t]))
    | some _ => none

/-- The value at the end of a path. -/
def get? (key : String) : List String → Entries → Option Value
  | [], entries => entries.lookup key
  | first :: path, entries =>
    match entries.lookup first with
    | some (.table _ t) => get? key path t
    | some (.tables items) =>
      match items.getLast? with
      | some t => get? key path t
      | none => none
    | _ => none

/-- Adds a key with its value.  A key with points adds to tables that were made by
such keys, and any other key to the table itself. -/
def add (style : TableStyle) (path : List String) (key : String) (value : Value)
    (entries : Entries) : Option Entries :=
  update true (fun style t =>
    if (style = .dotted ↔ path = []) ∨ (t.lookup key).isSome then none
    else some (t ++ [(key, value)])) style path entries

/-- The table that keys and values in braces make. -/
def ofInline (items : List (List String × String × Value)) : Option Value :=
  (items.foldlM (fun t (path, key, value) => add .inline path key value t) []).map
    (Value.table .inline)

end Entries

/-- The document so far, without the table that is open. -/
structure Draft where
  root : Entries := []
  /-- The header of the open table, without its last part; absent at first, when the
  document itself is open. -/
  header : Option (List String × String) := none
  /-- Whether the header is in double brackets. -/
  repeated : Bool := false
  /-- The entries of the open table. -/
  current : Entries := []
  deriving Inhabited

namespace Draft

/-- The document with the open table put into it. -/
def close (d : Draft) : Option Entries :=
  match d.header with
  | none => some d.current
  | some (path, key) =>
    Entries.update false (fun _ t =>
      if d.repeated then
        match t.lookup key with
        | some (.tables items) => some (Entries.set t key (.tables (items ++ [d.current])))
        | _ => none
      else some (t ++ [(key, .table .named d.current)])) .named path d.root

/-- Opens a table.  One that is there already because of a table below it is moved
to the end. -/
def openTable (path : List String) (key : String) (root : Entries) : Option Draft :=
  let current? : Option Entries :=
    match Entries.get? key path root with
    | none => some []
    | some (.table .above t) => some t
    | some _ => none
  match current? with
  | none => none
  | some current =>
    (Entries.update false (fun _ t => some (Entries.erase t key)) .named path root).map fun root =>
      { root, header := some (path, key), repeated := false, current }

/-- Opens one more of the tables with one name. -/
def openRepeated (path : List String) (key : String) (root : Entries) : Option Draft :=
  (Entries.update false (fun _ t =>
    match t.lookup key with
    | none => some (t ++ [(key, .tables [])])
    | some (.tables _) => some t
    | some _ => none) .named path root).map fun root =>
      { root, header := some (path, key), repeated := true, current := [] }

/-- Takes one statement. -/
def step (d : Draft) : Statement → Option Draft
  | .header path key => d.close.bind (openTable path key)
  | .repeatedHeader path key => d.close.bind (openRepeated path key)
  | .entry path key value =>
    (Entries.add .named path key value d.current).map fun current => { d with current }

end Draft

/-- The document that statements make. -/
def document? (statements : List Statement) : Option Entries :=
  (statements.foldlM Draft.step {}).bind Draft.close

end BackendAudit.Toml
