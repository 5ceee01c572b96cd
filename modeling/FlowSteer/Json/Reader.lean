import FlowSteer.Json.Token

/-!
# Reading JSON

The reader takes tokens one at a time. It keeps the containers that are still open, innermost
first, and what may come next. Nesting may be as deep as the text makes it.
-/

namespace FlowSteer

namespace Json

/-- A container that is still open, with what it holds so far in reverse. -/
inductive Frame where
  | array (items : List Json)
  /-- An object whose member `name` waits for its value. -/
  | object (members : List (List Char × Json)) (name : List Char)
deriving Inhabited

/-- What may come next. -/
inductive Reading where
  /-- A value. -/
  | anyValue (frames : List Frame)
  /-- A value, or the end of the array just opened. -/
  | firstItem (frames : List Frame)
  /-- A name, or the end of the object just opened. -/
  | firstName (frames : List Frame)
  /-- A name of an object that holds members already. -/
  | nextName (members : List (List Char × Json)) (frames : List Frame)
  /-- The colon behind a name. -/
  | colon (members : List (List Char × Json)) (name : List Char) (frames : List Frame)
  /-- A comma or the end of the innermost container. -/
  | separator (frame : Frame) (value : Json) (frames : List Frame)
  /-- Nothing: the value is complete. -/
  | finished (value : Json)
deriving Inhabited

namespace Reading

/-- A value has been read: it goes into the innermost open container, or is the whole text. -/
def deliver (value : Json) : List Frame → Reading
  | [] => finished value
  | frame :: frames => separator frame value frames

/-- Takes a token where a value may start. -/
def startValue (token : Token) (frames : List Frame) : Option Reading :=
  match token with
  | .scalar value => some (deliver value frames)
  | .text body => some (deliver (.string body) frames)
  | .openArray => some (firstItem frames)
  | .openObject => some (firstName frames)
  | _ => none

/-- Takes one token. -/
def step (reading : Reading) (token : Token) : Option Reading :=
  match reading, token with
  | anyValue frames, token => startValue token frames
  | firstItem frames, .closeArray => some (deliver (.array []) frames)
  | firstItem frames, token => startValue token (.array [] :: frames)
  | firstName frames, .closeObject => some (deliver (.object []) frames)
  | firstName frames, .text body => some (colon [] body frames)
  | nextName members frames, .text body => some (colon members body frames)
  | colon members body frames, .colon => some (anyValue (.object members body :: frames))
  | separator (.array items) last frames, .comma =>
      some (anyValue (.array (last :: items) :: frames))
  | separator (.array items) last frames, .closeArray =>
      some (deliver (.array (last :: items).reverse) frames)
  | separator (.object members body) last frames, .comma =>
      some (nextName ((body, last) :: members) frames)
  | separator (.object members body) last frames, .closeObject =>
      some (deliver (.object ((body, last) :: members).reverse) frames)
  | _, _ => none

/-- Takes tokens one after another. -/
def run (reading : Reading) : List Token → Option Reading
  | [] => some reading
  | token :: rest => (reading.step token).bind fun next => next.run rest

end Reading

/-- The value that a list of tokens spells. -/
def ofTokens? (tokens : List Token) : Option Json :=
  match (Reading.anyValue []).run tokens with
  | some (.finished value) => some value
  | _ => none

/-- The value that a text spells. -/
def parse? (text : List Char) : Option Json := (tokens? text).bind ofTokens?

end Json

end FlowSteer
