/-
  Region routing — JSON documents.

  * `Value.tokens` and `Value.text` write a value without blanks;
  * `Value.parse?` reads a text.  It is a machine that takes one token at a
    time and keeps, on a stack, the arrays and objects that are still open.

  The members of an object stay as they are written: in order, and with every
  repetition of a name.
-/
import RegionRouting.Json.Token

namespace RegionRouting.Json

inductive Value where
  | null
  | bool (value : Bool)
  | int (value : Int)
  /-- a number that is not written as an integer -/
  | real (numeral : String)
  | str (text : Literal)
  | arr (items : List Value)
  | obj (members : List (Literal × Value))

namespace Value

/-! ## Writing -/

mutual

/-- The tokens of a value. -/
def tokens : Value → List Token
  | null => [.null]
  | bool value => [.bool value]
  | int value => [.int value]
  | real numeral => [.real numeral]
  | str text => [.str text]
  | arr items => .openArray :: itemTokens items ++ [.closeArray]
  | obj members => .openObject :: memberTokens members ++ [.closeObject]

/-- The tokens of the items of an array, with commas in between. -/
def itemTokens : List Value → List Token
  | [] => []
  | [item] => item.tokens
  | item :: items => item.tokens ++ .comma :: itemTokens items

/-- The tokens of the members of an object, with commas in between. -/
def memberTokens : List (Literal × Value) → List Token
  | [] => []
  | [(name, value)] => .str name :: .colon :: value.tokens
  | (name, value) :: members =>
    .str name :: .colon :: value.tokens ++ .comma :: memberTokens members

end

/-- The text of a value, without blanks. -/
def text (value : Value) : String :=
  String.ofList (value.tokens.flatMap Token.text)

/-! ## Reading -/

/-- An array or object that is still open, with what was read of it, latest
    first; in an object, a name waits for its value. -/
inductive Frame where
  | arr (items : List Value)
  | obj (members : List (Literal × Value)) (name : Literal)

/-- What has to come next, and the open arrays and objects around it. -/
inductive State where
  /-- a value -/
  | value (frames : List Frame)
  /-- a value, or the end of an array that was just opened -/
  | first (frames : List Frame)
  /-- the name of a member -/
  | name (members : List (Literal × Value)) (frames : List Frame)
  /-- the name of a member, or the end of an object that was just opened -/
  | firstName (frames : List Frame)
  /-- the colon after a name -/
  | colon (members : List (Literal × Value)) (name : Literal) (frames : List Frame)
  /-- whatever may follow a value -/
  | after (value : Value) (frames : List Frame)

namespace State

/-- Begins a value with a token. -/
def begin (frames : List Frame) : Token → Option State
  | .null => some (after null frames)
  | .bool b => some (after (bool b) frames)
  | .int n => some (after (int n) frames)
  | .real numeral => some (after (real numeral) frames)
  | .str text => some (after (str text) frames)
  | .openArray => some (first frames)
  | .openObject => some (firstName frames)
  | _ => none

/-- Takes the next token. -/
def next (state : State) (token : Token) : Option State :=
  match state, token with
  | value frames, token => begin frames token
  | first frames, .closeArray => some (after (arr []) frames)
  | first frames, token => begin (.arr [] :: frames) token
  | firstName frames, .closeObject => some (after (obj []) frames)
  | firstName frames, .str text => some (colon [] text frames)
  | name members frames, .str text => some (colon members text frames)
  | colon members key frames, .colon => some (value (.obj members key :: frames))
  | after item (.arr items :: frames), .comma => some (value (.arr (item :: items) :: frames))
  | after item (.arr items :: frames), .closeArray =>
    some (after (arr (item :: items).reverse) frames)
  | after item (.obj members key :: frames), .comma =>
    some (name ((key, item) :: members) frames)
  | after item (.obj members key :: frames), .closeObject =>
    some (after (obj ((key, item) :: members).reverse) frames)
  | _, _ => none

end State

/-- Reads a text that holds one value. -/
def parse? (text : String) : Option Value := do
  let tokens ← Token.scan text.toList
  match ← tokens.foldlM State.next (.value []) with
  | .after value [] => some value
  | _ => none

end Value
end RegionRouting.Json
