import Narrowing.Json.Token

/-!
# Nodes

The tree that a text spells, as far as it spells one. Where the text breaks off or goes wrong, the
tree says so in place: a node may be broken, and the list of elements or members of a node tells
how it ends. So the tree can be built without knowing who will read it, and a reader meets the
errors of the text at the places where they are, from left to right. What follows on an error is of
no meaning.
-/

namespace Narrowing.Json

/-- What is found where there is no value. -/
inductive Break where
  /-- The text has ended. -/
  | absent
  /-- Something that begins no value. -/
  | stray
  /-- A word that the end of the text cuts off. -/
  | wordCutOff
  /-- A word that is misspelt. -/
  | wordMisspelt
  /-- A key without a colon. -/
  | colonMissing
  /-- A key at the end of the text. -/
  | colonCutOff
  deriving Repr, DecidableEq, Inhabited

/-- What is wrong with a break. -/
def Break.error : Break → SyntaxError
  | .absent => .valueCutOff
  | .stray => .valueExpected
  | .wordCutOff => .valueCutOff
  | .wordMisspelt => .wordMisspelt
  | .colonMissing => .colonExpected
  | .colonCutOff => .objectCutOff

/-- What follows on the last element of an array or on the last member of an object. -/
inductive Tail where
  /-- The closing bracket or brace. -/
  | closed
  /-- The end of the text. -/
  | cutOff
  /-- Something else. -/
  | stray
  /-- A comma and the closing bracket or brace. -/
  | commaClosed
  /-- A comma and the end of the text. -/
  | commaCutOff
  deriving Repr, DecidableEq, Inhabited

/-- The tree of a text. -/
inductive Node where
  /-- The word `null`. -/
  | null
  /-- The words `true` and `false`. -/
  | bool (value : Bool)
  /-- A numeral, sound or not. -/
  | number (lexeme : NumberLexeme)
  /-- A quoted string, sound or not. -/
  | string (quotation : Quotation)
  /-- An array. -/
  | array (elements : List Node) (tail : Tail)
  /-- An object, as keys and values. A key should be a string. -/
  | object (members : List (Node × Node)) (tail : Tail)
  /-- No value. -/
  | broken (cause : Break)
  deriving Repr, Inhabited

namespace Node

mutual

/-- Builds the node at the beginning of a list of tokens. Every call is given one step less than
its caller has. -/
def build : Nat → List Token → Node × List Token
  | 0, tokens => (.broken .absent, tokens)
  | steps + 1, tokens =>
    match tokens with
    | [] => (.broken .absent, [])
    | .word (.sound .null) :: rest => (.null, rest)
    | .word (.sound (.bool value)) :: rest => (.bool value, rest)
    | .word .cutOff :: rest => (.broken .wordCutOff, rest)
    | .word .misspelt :: rest => (.broken .wordMisspelt, rest)
    | .number lexeme :: rest => (.number lexeme, rest)
    | .string quotation :: rest => (.string quotation, rest)
    | [.openArray] => (.array [] .cutOff, [])
    | .openArray :: .closeArray :: rest => (.array [] .closed, rest)
    | .openArray :: rest =>
      let (elements, tail, rest) := buildElements steps rest
      (.array elements tail, rest)
    | [.openObject] => (.object [] .cutOff, [])
    | .openObject :: .closeObject :: rest => (.object [] .closed, rest)
    | .openObject :: rest =>
      let (members, tail, rest) := buildMembers steps rest
      (.object members tail, rest)
    | _ :: rest => (.broken .stray, rest)

/-- Builds the elements of an array, of which there is at least one. -/
def buildElements : Nat → List Token → List Node × Tail × List Token
  | 0, tokens => ([], .cutOff, tokens)
  | steps + 1, tokens =>
    let (element, rest) := build steps tokens
    match rest with
    | [] => ([element], .cutOff, [])
    | .closeArray :: rest => ([element], .closed, rest)
    | [.comma] => ([element], .commaCutOff, [])
    | .comma :: .closeArray :: rest => ([element], .commaClosed, rest)
    | .comma :: rest =>
      let (elements, tail, rest) := buildElements steps rest
      (element :: elements, tail, rest)
    | rest => ([element], .stray, rest)

/-- Builds the members of an object, of which there is at least one. -/
def buildMembers : Nat → List Token → List (Node × Node) × Tail × List Token
  | 0, tokens => ([], .cutOff, tokens)
  | steps + 1, tokens =>
    let (key, rest) := build steps tokens
    match rest with
    | [] => ([(key, .broken .colonCutOff)], .cutOff, [])
    | .colon :: rest =>
      let (value, rest) := build steps rest
      match rest with
      | [] => ([(key, value)], .cutOff, [])
      | .closeObject :: rest => ([(key, value)], .closed, rest)
      | [.comma] => ([(key, value)], .commaCutOff, [])
      | .comma :: .closeObject :: rest => ([(key, value)], .commaClosed, rest)
      | .comma :: rest =>
        let (members, tail, rest) := buildMembers steps rest
        ((key, value) :: members, tail, rest)
      | rest => ([(key, value)], .stray, rest)
    | rest => ([(key, .broken .colonMissing)], .cutOff, rest)

end

end Node

/-- A whole text: its tree, and whether anything follows on it. -/
structure Document where
  /-- The tree. -/
  root : Node
  /-- Whether the text goes on after the tree. -/
  goesOn : Bool
  deriving Repr, Inhabited

/-- Reads a text. A node takes at least one token and no more than two steps for each of them. -/
def Document.ofText (text : String) : Document :=
  let tokens := tokens text.toList
  let (root, rest) := Node.build (2 * tokens.length + 2) tokens
  { root, goesOn := !rest.isEmpty }

end Narrowing.Json
