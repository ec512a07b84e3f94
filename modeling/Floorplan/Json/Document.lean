import Floorplan.Json.Token

set_option autoImplicit false

/-! # Documents

A document in JSON: read from tokens, written compactly or indented by two spaces a level. Objects
keep the order of their members, and repeated names. -/

namespace Floorplan

/-- A document. A name or a text is `none` if its string denotes no text. -/
inductive Json where
  | null
  | bool (b : Bool)
  | number (n : Json.Numeral)
  | string (s : Option String)
  | array (items : List Json)
  | object (members : List (Option String × Json))

namespace Json

/-! ## Writing -/

mutual

/-- The tokens of a document. -/
def tokens : Json → List Token
  | null => [.null]
  | bool b => [.bool b]
  | number n => [.number n]
  | string s => [.string s]
  | array items => .openArray :: (itemTokens items ++ [.closeArray])
  | object members => .openObject :: (memberTokens members ++ [.closeObject])

/-- The tokens between the brackets of an array. -/
def itemTokens : List Json → List Token
  | [] => []
  | [j] => tokens j
  | j :: rest => tokens j ++ .comma :: itemTokens rest

/-- The tokens between the braces of an object. -/
def memberTokens : List (Option String × Json) → List Token
  | [] => []
  | [(k, j)] => .string k :: .colon :: tokens j
  | (k, j) :: rest => .string k :: .colon :: (tokens j ++ .comma :: memberTokens rest)

end

/-- The document without white space. -/
def compact (j : Json) : String := String.ofList (j.tokens.flatMap Token.chars)

/-- A new line at a level. -/
def newLine (level : Nat) : List Char := '\n' :: List.replicate (2 * level) ' '

mutual

/-- The document indented at a level, without the white space in front of it. -/
def indented (level : Nat) : Json → List Char
  | null => Token.chars .null
  | bool b => Token.chars (.bool b)
  | number n => Token.chars (.number n)
  | string s => Token.chars (.string s)
  | array [] => ['[', ']']
  | array (j :: rest) =>
    '[' :: (indentedItems (level + 1) (j :: rest) ++ newLine level ++ [']'])
  | object [] => ['\x7b', '\x7d']
  | object (m :: rest) =>
    '\x7b' :: (indentedMembers (level + 1) (m :: rest) ++ newLine level ++ ['\x7d'])

/-- The items of an array, each on a line of its own. -/
def indentedItems (level : Nat) : List Json → List Char
  | [] => []
  | [j] => newLine level ++ indented level j
  | j :: rest => newLine level ++ indented level j ++ ',' :: indentedItems level rest

/-- The members of an object, each on a line of its own. -/
def indentedMembers (level : Nat) : List (Option String × Json) → List Char
  | [] => []
  | [(k, j)] => newLine level ++ Token.chars (.string k) ++ ':' :: ' ' :: indented level j
  | (k, j) :: rest =>
    newLine level ++ Token.chars (.string k) ++ ':' :: ' ' :: indented level j ++
      ',' :: indentedMembers level rest

end

/-- The document with a line for every item and member. -/
def pretty (j : Json) : String := String.ofList (indented 0 j)

/-! ## Reading -/

mutual

/-- Reads a document of at most `fuel` tokens from the beginning of a list of tokens. -/
def readValue : Nat → List Token → Option (Json × List Token)
  | 0, _ => none
  | fuel + 1, ts =>
    match ts with
    | .null :: rest => some (null, rest)
    | .bool b :: rest => some (bool b, rest)
    | .number n :: rest => some (number n, rest)
    | .string s :: rest => some (string s, rest)
    | .openArray :: .closeArray :: rest => some (array [], rest)
    | .openArray :: rest => (readItems fuel rest).map fun (js, left) => (array js, left)
    | .openObject :: .closeObject :: rest => some (object [], rest)
    | .openObject :: rest => (readMembers fuel rest).map fun (ms, left) => (object ms, left)
    | _ => none

/-- Reads the items of an array and its closing bracket; there is at least one. -/
def readItems : Nat → List Token → Option (List Json × List Token)
  | 0, _ => none
  | fuel + 1, ts =>
    match readValue fuel ts with
    | some (j, .closeArray :: rest) => some ([j], rest)
    | some (j, .comma :: rest) => (readItems fuel rest).map fun (js, left) => (j :: js, left)
    | _ => none

/-- Reads the members of an object and its closing brace; there is at least one. -/
def readMembers : Nat → List Token → Option (List (Option String × Json) × List Token)
  | 0, _ => none
  | fuel + 1, ts =>
    match ts with
    | .string k :: .colon :: value =>
      match readValue fuel value with
      | some (j, .closeObject :: rest) => some ([(k, j)], rest)
      | some (j, .comma :: rest) => (readMembers fuel rest).map fun (ms, left) => ((k, j) :: ms, left)
      | _ => none
    | _ => none

end

/-- The document that a text holds, if the text is one document and white space. -/
def parse? (s : String) : Option Json := do
  let ts ← tokens? s.toList
  match readValue (2 * ts.length) ts with
  | some (j, []) => some j
  | _ => none

end Json

end Floorplan
