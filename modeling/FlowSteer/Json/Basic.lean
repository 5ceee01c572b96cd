/-!
# JSON values

A value keeps the text of its numbers and strings as written, so that reading loses nothing: what
a number or a string stands for is decided where it is used. Members of an object stay in order,
also when a name occurs twice.
-/

namespace FlowSteer

/-- A JSON value as written. -/
inductive Json where
  | null
  | bool (value : Bool)
  /-- A number by its characters. -/
  | number (text : List Char)
  /-- A string by the characters between its quotes, escapes included. -/
  | string (body : List Char)
  | array (items : List Json)
  | object (members : List (List Char × Json))
deriving Inhabited

namespace Json

/-- A natural number in decimal. -/
def ofNat (n : Nat) : Json := number (Nat.toDigits 10 n)

/-- A text without characters that need an escape. -/
def ofLabel (text : String) : Json := string text.toList

/-- A value that may be absent. -/
def ofOption (write : α → Json) : Option α → Json
  | none => null
  | some value => write value

/-- An object with names that need no escape. -/
def ofMembers (members : List (String × Json)) : Json :=
  object (members.map fun member => (member.1.toList, member.2))

end Json

end FlowSteer
