import Narrowing.Reading.Check.Draft

/-!
# Reading checks

The key `op` of an object, or the first element of an array, tells what kind of check it is. It is
looked at as soon as it is met, while the rest of the check is taken in as it stands. The fields of
the check are made out only after that, and so are the checks that it guards.
-/

namespace Narrowing

namespace Check

/-- The key under which a test lists the checks it guards. -/
def guardedKey : String := "then"

/-- The fields of a kind of check that an array gives first, in order; the guarded checks of a test
may follow on them. -/
def leadingFields : Kind → List String
  | .assign => ["symbol", "type"]
  | .test => ["symbol", "type", "target"]
  | .access => ["symbol", "type", "field"]

/-- Makes out the leading fields of a check from the elements of an array. What is left of the
elements is returned beside the draft. -/
def leadingElements (kind : Kind) : List String → Nat → List Json.Value → Draft →
    Except ReadError (Draft × List Json.Value)
  | [], _, rest, draft => .ok (draft, rest)
  | _ :: _, position, [], _ => .error (.wrongLength position kind.arrayDescription)
  | name :: names, position, value :: rest, draft => do
    leadingElements kind names (position + 1) rest (← draft.put kind name value)

/-- Checks that an array is used up, given the number of its elements that were used. -/
def endOfElements (used : Nat) (rest : List Json.Value) : Except ReadError Unit :=
  if rest.isEmpty then .ok ()
  else .error (.wrongLength (used + rest.length) (toString used ++ " elements in sequence"))

/-- Finds the kind of a check among the members of an object. -/
def kindOfMembers : List (String × Json.Value) → Option Kind → Except ReadError Kind
  | [], none => .error (.missingField kindKey)
  | [], some kind => .ok kind
  | (key, value) :: rest, known? =>
    if key = kindKey then
      match known? with
      | some _ => .error (.duplicateField kindKey)
      | none => do kindOfMembers rest (some (← Kind.ofValue value))
    else kindOfMembers rest known?

mutual

/-- The check that a value writes. -/
def ofValue : Json.Value → Except ReadError Check
  | .object members => do
    let kind ← kindOfMembers members none
    ofMembers kind members {}
  | .array [] => .error (.missingField kindKey)
  | .array (tag :: elements) => do
    let kind ← Kind.ofValue tag
    ofElements kind elements
  | value => .error (.wrongKind value.found description)

/-- The checks that values write. -/
def ofValues : List Json.Value → Except ReadError (List Check)
  | [] => .ok []
  | value :: rest => do return (← ofValue value) :: (← ofValues rest)

/-- The check of a known kind that the members of an object write, given what has been made out of
earlier members. -/
def ofMembers (kind : Kind) : List (String × Json.Value) → Draft → Except ReadError Check
  | [], draft => draft.finish kind
  | (key, .array values) :: rest, draft =>
    if kind = .test ∧ key = guardedKey then do
      Draft.once key draft.guarded?
      let guarded ← ofValues values
      ofMembers kind rest { draft with guarded? := some guarded }
    else do ofMembers kind rest (← draft.put kind key (.array values))
  | (key, value) :: rest, draft =>
    if kind = .test ∧ key = guardedKey then do
      Draft.once key draft.guarded?
      throw (.wrongKind value.found "a sequence")
    else do ofMembers kind rest (← draft.put kind key value)

/-- The check of a known kind that the elements of an array write. -/
def ofElements (kind : Kind) : List Json.Value → Except ReadError Check
  | first :: second :: third :: .array values :: rest => do
    let leading := [first, second, third, .array values] ++ rest
    let (draft, afterLeading) ← leadingElements kind (leadingFields kind) 0 leading {}
    if kind = .test then
      let guarded ← ofValues values
      endOfElements 4 rest
      { draft with guarded? := some guarded }.finish kind
    else
      endOfElements (leadingFields kind).length afterLeading
      draft.finish kind
  | elements => do
    let (draft, rest) ← leadingElements kind (leadingFields kind) 0 elements {}
    match kind, rest with
    | .test, other :: _ => throw (.wrongKind other.found "a sequence")
    | _, rest =>
      endOfElements (leadingFields kind).length rest
      draft.finish kind

end

/-- Takes in the members of a check, and reads its kind where it is met. -/
def readMembers (depth : Nat) : List (Json.Node × Json.Node) → Option Kind →
    Except ReadError (Option Kind × List (String × Json.Value))
  | [], kind? => .ok (kind?, [])
  | (key, value) :: rest, kind? => do
    let name ← Reader.lift key.takeKey
    if name = kindKey then
      if kind?.isSome then throw (.duplicateField kindKey)
      let kind ← Kind.ofNode value
      readMembers depth rest (some kind)
    else
      let value ← Reader.lift (value.take depth)
      let (kind?, members) ← readMembers depth rest kind?
      return (kind?, (name, value) :: members)

/-- Reads a check. -/
def reader : Reader Check
  | depth, .object members tail => do
    let (kind?, members) ← readMembers (← Reader.openNested depth) members none
    Reader.lift tail.checkObject
    ofMembers (← requiredField kindKey kind?) members {}
  | depth, .array elements tail => do
    let inner ← Reader.openNested depth
    match elements with
    | [] =>
      Reader.lift tail.checkArray
      throw (.missingField kindKey)
    | tag :: rest =>
      let kind ← Kind.ofNode tag
      let values ← Reader.lift (Json.Node.takeElements inner rest)
      Reader.lift tail.checkArray
      ofElements kind values
  | _, node => Reader.reject node description

end Check

end Narrowing
