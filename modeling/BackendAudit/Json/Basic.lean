import BackendAudit.Number.Shortest

/-!
# Documents of object notation

A value is null, a truth value, a number, a text, a list or an object.  The
members of an object that is read are kept in the order of their names, and of
several members with one name only the last counts.
-/

namespace BackendAudit

/-- A number: an integer of 64 bits, with or without sign, or a number of double
precision. -/
inductive Json.Number where
  | integer (n : Int)
  | double (negative : Bool) (magnitude : Number.Double)
  deriving Repr, DecidableEq, Inhabited

/-- A value of object notation. -/
inductive Json where
  | null
  | bool (b : Bool)
  | number (n : Json.Number)
  | string (s : String)
  | array (items : List Json)
  | object (members : List (String × Json))
  deriving Repr, Inhabited

namespace Json

/-- A natural number as a value. -/
def ofNat (n : Nat) : Json := number (.integer n)

/-- The members of an object; absent for any other value. -/
def members? : Json → Option (List (String × Json))
  | object members => some members
  | _ => none

/-- The text that a value is; absent for any other value. -/
def text? : Json → Option String
  | string s => some s
  | _ => none

/-- The value of the member with a name. -/
def member? (members : List (String × Json)) (name : String) : Option Json :=
  (members.find? fun m => m.1 == name).map (·.2)

/-- Drops each member that is followed by one with the same name. -/
def dropOverridden : List (String × Json) → List (String × Json)
  | [] => []
  | [m] => [m]
  | m :: n :: rest =>
    if m.1 == n.1 then dropOverridden (n :: rest) else m :: dropOverridden (n :: rest)

/-- The object that members in the order of writing make. -/
def ofMembers (members : List (String × Json)) : Json :=
  object (dropOverridden (members.mergeSort fun a b => a.1 ≤ b.1))

end Json
end BackendAudit
