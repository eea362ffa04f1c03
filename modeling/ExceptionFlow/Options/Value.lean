import ExceptionFlow.Options.Token

set_option autoImplicit false

/-! # Values in the options text

The tree that an options text writes. The members of an object are kept in their order and with
repeated keys; what a repetition means is up to whoever reads them. -/

namespace ExceptionFlow.Options

inductive Value where
  | bool (value : Bool)
  | text (value : String)
  | array (items : List Value)
  | object (members : List (String × Value))

/-! The readers take the tokens from the left and return those they leave. Each of them takes a
token or hands all tokens to one that does, so twice the number of tokens is fuel enough. -/

mutual
/-- Read a value. -/
def readValue : Nat → List Token → Option (Value × List Token)
  | 0, _ => none
  | fuel + 1, tokens =>
    match tokens with
    | .bool b :: rest => some (.bool b, rest)
    | .text chars :: rest => some (.text (String.ofList chars), rest)
    | .openArray :: .closeArray :: rest => some (.array [], rest)
    | .openArray :: rest => (readItems fuel rest).map fun (items, left) => (.array items, left)
    | .openObject :: .closeObject :: rest => some (.object [], rest)
    | .openObject :: rest =>
      (readMembers fuel rest).map fun (members, left) => (.object members, left)
    | _ => none
/-- Read the items of an array that is not empty, and its closing bracket. -/
def readItems : Nat → List Token → Option (List Value × List Token)
  | 0, _ => none
  | fuel + 1, tokens =>
    match readValue fuel tokens with
    | some (item, .closeArray :: rest) => some ([item], rest)
    | some (item, .comma :: rest) =>
      (readItems fuel rest).map fun (items, left) => (item :: items, left)
    | _ => none
/-- Read the members of an object that is not empty, and its closing brace. -/
def readMembers : Nat → List Token → Option (List (String × Value) × List Token)
  | 0, _ => none
  | fuel + 1, tokens =>
    match tokens with
    | .text chars :: .colon :: rest =>
      match readValue fuel rest with
      | some (value, .closeObject :: left) => some ([(String.ofList chars, value)], left)
      | some (value, .comma :: left) =>
        (readMembers fuel left).map fun (members, tail) =>
          ((String.ofList chars, value) :: members, tail)
      | _ => none
    | _ => none
end

/-- The value that a text writes, with nothing after it. -/
def Value.ofText? (text : String) : Option Value :=
  match tokens? text with
  | none => none
  | some tokens =>
    match readValue (2 * tokens.length + 1) tokens with
    | some (value, []) => some value
    | _ => none

end ExceptionFlow.Options
