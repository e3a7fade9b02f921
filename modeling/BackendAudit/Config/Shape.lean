import BackendAudit.Text.Quoted
import BackendAudit.Toml.Value

/-!
# The shape of a document

What a value of a document has to be for a setting, and why it is not.  A record is
read from a table, or from a list that has the values of its fields in their order;
the fields that are not there keep their defaults, and keys without a field say
nothing.  The first fault in the order of the document is the one that is reported.
-/

namespace BackendAudit.Config

open BackendAudit.Toml (Value Entries)

/-- What a setting wants. -/
inductive Wanted where
  | text
  | truth
  | list
  /-- A number of things. -/
  | count
  /-- A size or a time. -/
  | measure
  | record (name : String)
  deriving Repr, DecidableEq, Inhabited

/-- Why a value is not what a setting wants. -/
inductive ShapeFault where
  | unexpected (value : Value) (wanted : Wanted)
  | negative (n : Int) (wanted : Wanted)
  | missing (field : String)
  /-- A list for a record with so many fields ends before one that is needed. -/
  | tooShort (length : Nat) (record : String) (fields : Nat)
  | unknownName (name : String) (known : List String)
  /-- A name is wanted, and this is neither a text nor a table. -/
  | noName
  /-- A name may be the only key of a table, and this one has none. -/
  | noKey
  /-- A name may be the only key of a table, and this one has several. -/
  | severalKeys
  /-- Behind a name that is a key there is a table with entries. -/
  | notEmpty
  /-- Behind a name that is a key there is no table. -/
  | noTable (value : Value)
  deriving Inhabited

/-- The wording of what is wanted. -/
def Wanted.message : Wanted → String
  | text => "a string"
  | truth => "a boolean"
  | list => "a sequence"
  | count => "usize"
  | measure => "u64"
  | record name => "struct " ++ name

/-- A text in backticks. -/
def ticked (s : String) : String := "\x60" ++ s ++ "\x60"

/-- The wording of what was found instead. -/
def foundText : Value → String
  | .string s => "string " ++ Text.quoted s
  | .integer n => "integer " ++ ticked (toString n)
  | .float x => "floating point " ++ ticked x.text
  | .boolean b => "boolean " ++ ticked (if b then "true" else "false")
  | .array _ | .tables _ => "sequence"
  | .moment | .table _ _ => "map"

/-- The kind of a value. -/
def kindText : Value → String
  | .string _ => "string"
  | .integer _ => "integer"
  | .float _ => "float"
  | .boolean _ => "boolean"
  | .moment => "datetime"
  | .array _ => "array"
  | .tables _ => "array of tables"
  | .table .inline _ => "inline table"
  | .table _ _ => "table"

/-- The wording of a fault. -/
def ShapeFault.message : ShapeFault → String
  | unexpected value wanted =>
    "invalid type: " ++ foundText value ++ ", expected " ++ wanted.message
  | negative n wanted =>
    "invalid value: integer " ++ ticked (toString n) ++ ", expected " ++ wanted.message
  | missing field => "missing field " ++ ticked field
  | tooShort length record fields =>
    "invalid length " ++ toString length ++ ", expected struct " ++ record ++ " with " ++
      toString fields ++ " elements"
  | unknownName name known =>
    "unknown variant " ++ ticked name ++ ", expected one of " ++
      String.intercalate ", " (known.map ticked)
  | noName => "wanted string or table"
  | noKey => "wanted exactly 1 element, found 0 elements"
  | severalKeys => "wanted exactly 1 element, more than 1 element"
  | notEmpty => "expected empty table"
  | noTable value => "expected table, found " ++ kindText value

/-! ## Simple values -/

/-- Reads a text. -/
def readText : Value → Except ShapeFault String
  | .string s => .ok s
  | value => .error (.unexpected value .text)

/-- Reads a truth value. -/
def readTruth : Value → Except ShapeFault Bool
  | .boolean b => .ok b
  | value => .error (.unexpected value .truth)

/-- Reads a natural number. -/
def readNat (wanted : Wanted) : Value → Except ShapeFault Nat
  | .integer n => if n < 0 then .error (.negative n wanted) else .ok n.toNat
  | value => .error (.unexpected value wanted)

/-- The items of a list, whose tables may have been written with headers. -/
def items? : Value → Option (List Value)
  | .array items => some items
  | .tables items => some (items.map (Value.table .named))
  | _ => none

/-- Reads a list. -/
def readList {α : Type} (read : Value → Except ShapeFault α) (value : Value) :
    Except ShapeFault (List α) :=
  match items? value with
  | some items => items.mapM read
  | none => .error (.unexpected value .list)

/-- Reads one of several names: a text, or the only key of a table, with an empty
table behind it. -/
def readName {α : Type} (known : List (String × α)) : Value → Except ShapeFault α
  | .string s => find s
  | .table _ [] => .error .noKey
  | .table _ [(name, value)] => do
    let a ← find name
    match value with
    | .table _ [] => .ok a
    | .table _ _ => .error .notEmpty
    | value => .error (.noTable value)
  | .table _ _ => .error .severalKeys
  | _ => .error .noName
where
  /-- What a name stands for. -/
  find (name : String) : Except ShapeFault α :=
    match known.lookup name with
    | some a => .ok a
    | none => .error (.unknownName name (known.map Prod.fst))

/-! ## Records -/

/-- A field of a record: its key, and how the record changes by its value. -/
structure Field (α : Type) where
  key : String
  set : Value → α → Except ShapeFault α

/-- A field whose value is read and then put into the record. -/
def Field.of {α β : Type} (key : String) (read : Value → Except ShapeFault β)
    (put : α → β → α) : Field α :=
  ⟨key, fun value r => (read value).map (put r)⟩

/-- Takes the value of a key into a record. -/
def setKey {α : Type} (fields : List (Field α)) (r : α) (entry : String × Value) :
    Except ShapeFault α :=
  match fields.find? fun f => f.key == entry.1 with
  | some f => f.set entry.2 r
  | none => .ok r

/-- Reads a record from the entries of a table. -/
def readEntries {α : Type} (fields : List (Field α)) (start : α) (entries : Entries) :
    Except ShapeFault α :=
  entries.foldlM (setKey fields) start

/-- Reads a record from the values of its fields. -/
def readFields {α : Type} (fields : List (Field α)) (start : α) (items : List Value) :
    Except ShapeFault α :=
  (fields.zip items).foldlM (fun r (f, value) => f.set value r) start

/-- Reads a record.  A date has no key that is a field. -/
def readRecord {α : Type} (name : String) (fields : List (Field α)) (start : α)
    (value : Value) : Except ShapeFault α :=
  match value with
  | .table _ entries => readEntries fields start entries
  | .moment => .ok start
  | value =>
    match items? value with
    | some items => readFields fields start items
    | none => .error (.unexpected value (.record name))

end BackendAudit.Config
