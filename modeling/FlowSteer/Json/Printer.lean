import FlowSteer.Json.Basic

/-!
# Writing JSON

Values are written over several lines, two blanks deeper for each open container, with one blank
behind a colon. An empty container is written without a line break.
-/

namespace FlowSteer

namespace Json

/-- A line break and the indentation of a depth. -/
def lineBreak (depth : Nat) : List Char := '\n' :: List.replicate (2 * depth) ' '

/-- A string in its quotes. -/
def quote (body : List Char) : List Char := '"' :: body ++ ['"']

mutual

/-- A value, its first character already at a depth. -/
def pretty (depth : Nat) : Json → List Char
  | null => ['n', 'u', 'l', 'l']
  | bool true => ['t', 'r', 'u', 'e']
  | bool false => ['f', 'a', 'l', 's', 'e']
  | number text => text
  | string body => quote body
  | array [] => ['[', ']']
  | array (item :: items) =>
      '[' :: (lineBreak (depth + 1) ++ pretty (depth + 1) item ++ prettyItems (depth + 1) items ++
        lineBreak depth ++ [']'])
  | object [] => ['\x7b', '\x7d']
  | object (member :: members) =>
      '\x7b' :: (lineBreak (depth + 1) ++ quote member.1 ++ [':', ' '] ++
        pretty (depth + 1) member.2 ++ prettyMembers (depth + 1) members ++
        lineBreak depth ++ ['\x7d'])

/-- Further items of an array. -/
def prettyItems (depth : Nat) : List Json → List Char
  | [] => []
  | item :: items => ',' :: (lineBreak depth ++ pretty depth item ++ prettyItems depth items)

/-- Further members of an object. -/
def prettyMembers (depth : Nat) : List (List Char × Json) → List Char
  | [] => []
  | (name, value) :: members =>
      ',' :: (lineBreak depth ++ quote name ++ [':', ' '] ++ pretty depth value ++
        prettyMembers depth members)

end

/-- A value over several lines. -/
def render (value : Json) : List Char := pretty 0 value

end Json

end FlowSteer
