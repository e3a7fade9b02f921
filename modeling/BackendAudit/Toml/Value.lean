import BackendAudit.Number.Shortest

/-!
# Values of TOML

A document is a table: keys with their values, in the order of writing.  How a
table came to be decides what may be added to it later in the document, and so a
table knows it.
-/

namespace BackendAudit.Toml

/-- A floating-point number. -/
inductive Real where
  | finite (negative : Bool) (magnitude : Number.Double)
  | infinite (negative : Bool)
  | notANumber
  deriving Repr, DecidableEq, Inhabited

/-- How a table came to be. -/
inductive TableStyle where
  /-- It has a header of its own, or is the document. -/
  | named
  /-- Only a header of a table below it was written so far. -/
  | above
  /-- A key with points was written. -/
  | dotted
  /-- It was written in braces, as a value. -/
  | inline
  deriving Repr, DecidableEq, Inhabited

/-- A value. -/
inductive Value where
  | string (s : String)
  | integer (n : Int)
  | float (x : Real)
  | boolean (b : Bool)
  /-- A date, a time of day, or both. -/
  | moment
  | array (items : List Value)
  /-- The tables whose headers are in double brackets, in order. -/
  | tables (items : List (List (String × Value)))
  | table (style : TableStyle) (entries : List (String × Value))
  deriving Inhabited

/-- The keys of a table with their values. -/
abbrev Entries := List (String × Value)

namespace Real

/-- A number without an exponent; an integral one has a zero behind the point. -/
def text : Real → String
  | finite negative x =>
    let magnitude :=
      if x.isZero then ['0', '.', '0']
      else
        let (digits, first) := x.shortest.scientific
        Number.positional digits first
    String.ofList ((if negative then ['-'] else []) ++ magnitude)
  | infinite negative => if negative then "-inf" else "inf"
  | notANumber => "NaN"

end Real
end BackendAudit.Toml
