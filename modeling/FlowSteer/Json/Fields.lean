import FlowSteer.Json.Text

/-!
# Records in JSON

A record is written as an object, its fields by name and in any order, or as an array, its fields
by position. Members of an object that are no field are passed over, but a field must not occur
twice, and every name must be a text.
-/

namespace FlowSteer

namespace Json

/-! ## Numbers and truth values -/

/-- The value of a run of decimal digits. -/
def decimal (digits : List Char) : Nat :=
  digits.foldl (fun value digit => value * 10 + (digit.toNat - '0'.toNat)) 0

/-- A natural number below a bound, written without sign, fraction and exponent. -/
def nat? (bound : Nat) : Json → Option Nat
  | number text =>
      if !text.isEmpty && text.all Char.isDigit && decimal text < bound then some (decimal text)
      else none
  | _ => none

/-- A number that fits a 32-bit word. -/
def uint32? (value : Json) : Option UInt32 := (value.nat? UInt32.size).map UInt32.ofNat

/-- A number that fits a 64-bit word. -/
def uint64? (value : Json) : Option UInt64 := (value.nat? UInt64.size).map UInt64.ofNat

/-- A truth value. -/
def bool? : Json → Option Bool
  | bool value => some value
  | _ => none

/-- A value that may be null. -/
def optional? (read : Json → Option α) : Json → Option (Option α)
  | null => some none
  | value => (read value).map some

/-- One of the cases of an enumeration: its name, or an object whose one member has that name
and the value null. -/
def case? (ofLabel? : String → Option α) : Json → Option α
  | string body => (unescape? body).bind fun name => ofLabel? (String.ofList name)
  | object [(body, null)] => (unescape? body).bind fun name => ofLabel? (String.ofList name)
  | _ => none

/-! ## Fields -/

/-- The fields of a record as they were given. -/
inductive Fields where
  | byName (members : List (List Char × Json))
  | byPosition (items : List Json)
deriving Inhabited

/-- Members of an object with the text of their names. -/
def namedMembers? : List (List Char × Json) → Option (List (List Char × Json))
  | [] => some []
  | (body, value) :: rest => do
      let name ← unescape? body
      let members ← namedMembers? rest
      return (name, value) :: members

/-- The fields of a record that has `count` of them. -/
def fields? (count : Nat) : Json → Option Fields
  | object members => (namedMembers? members).map .byName
  | array items => if items.length ≤ count then some (.byPosition items) else none
  | _ => none

namespace Fields

/-- The values given for a field, which has a position and one or more names. -/
def given (fields : Fields) (position : Nat) (names : List String) : List Json :=
  match fields with
  | byName members =>
      (members.filter fun member => names.any fun name => name.toList == member.1).map Prod.snd
  | byPosition items => (items.drop position).take 1

/-- Reads a field that has to be given exactly once. -/
def required (fields : Fields) (position : Nat) (names : List String)
    (read : Json → Option α) : Option α :=
  match fields.given position names with
  | [value] => read value
  | _ => none

/-- Reads a field that may be left out, but not given twice. -/
def withDefault (fields : Fields) (position : Nat) (names : List String)
    (read : Json → Option α) (default : α) : Option α :=
  match fields.given position names with
  | [] => some default
  | [value] => read value
  | _ => none

end Fields

end Json

end FlowSteer
