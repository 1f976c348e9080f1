import Narrowing.Reading.Record
import Narrowing.Reading.TypeRef
import Narrowing.Script

/-!
# Drafts of checks

The kinds of checks and their fields. A draft holds the fields of a check as they are made out, one
after the other and in any order; which of them have to be there depends on the kind.
-/

namespace Narrowing

namespace Check

/-- The kinds of checks. -/
inductive Kind where
  /-- An assignment. -/
  | assign
  /-- A type test. -/
  | test
  /-- A field access. -/
  | access
  deriving Repr, DecidableEq, Inhabited

namespace Kind

/-- The name of a kind in scripts. -/
def keyword : Kind → String
  | .assign => "assign"
  | .test => "is"
  | .access => "field"

/-- All kinds, in the order in which they are numbered and messages list them. -/
def all : List Kind := [.assign, .test, .access]

/-- The kind that a word names. -/
def ofKeyword? (word : String) : Option Kind := all.find? (·.keyword == word)

/-- The names of all kinds. -/
def keywords : List String := all.map keyword

/-- Reads a kind. -/
def ofNode (node : Json.Node) : Except ReadError Kind :=
  Reader.variant keywords ofKeyword? node

/-- Makes out a kind from a value that was taken in. Here a kind may also be given by its number. -/
def ofValue : Json.Value → Except ReadError Kind
  | .string word => Reader.meaning keywords ofKeyword? word
  | .number (.integer (.ofNat n)) =>
    match all[n]? with
    | some kind => .ok kind
    | none =>
      .error (.wrongValue (.number (.integer n))
        ("variant index 0 <= i < " ++ toString all.length))
  | value => .error (.wrongKind value.found "variant identifier")

/-- How messages describe an array of the fields of a kind of check. -/
def arrayDescription : Kind → String
  | .assign => Field.arrayDescription "struct variant Check::Assign" 2
  | .test => Field.arrayDescription "struct variant Check::Is" 4
  | .access => Field.arrayDescription "struct variant Check::Field" 3

end Kind

/-- The key that tells the kind of a check. -/
def kindKey : String := "op"

/-- What any kind of check is expected to be. -/
def description : String := "internally tagged enum Check"

/-- The fields of a check, as far as they have been made out. Which of them a check has depends on
its kind; those that it does not have are ignored. -/
structure Draft where
  /-- The symbol; `some none` if it is given as none. -/
  symbol? : Option (Option String) := none
  /-- The written type; `some none` if it is given as none. -/
  type? : Option (Option TypeRef) := none
  /-- The target of a test. -/
  target? : Option TypeRef := none
  /-- The name of a field to access. -/
  field? : Option String := none
  /-- The checks that a test guards. -/
  guarded? : Option (List Check) := none
  deriving Inhabited

namespace Draft

/-- Makes out a string. -/
def string : Json.Value → Except ReadError String
  | .string s => .ok s
  | value => .error (.wrongKind value.found "a string")

/-- Makes out what may be `null`. -/
def optional {α : Type} (make : Json.Value → Except ReadError α) :
    Json.Value → Except ReadError (Option α)
  | .null => .ok none
  | value => (make value).map some

/-- Checks that a field has not been made out before. -/
def once {α : Type} (name : String) (known? : Option α) : Except ReadError Unit :=
  if known?.isSome then .error (.duplicateField name) else .ok ()

/-- Makes out a field of a check, the guarded checks apart. The symbol and the type of an
assignment have to be there, and for all other kinds they may be `null`. -/
def put (draft : Draft) (kind : Kind) (name : String) (value : Json.Value) :
    Except ReadError Draft :=
  match kind, name with
  | .assign, "symbol" => do
    once name draft.symbol?
    return { draft with symbol? := some (some (← string value)) }
  | _, "symbol" => do
    once name draft.symbol?
    return { draft with symbol? := some (← optional string value) }
  | .assign, "type" => do
    once name draft.type?
    return { draft with type? := some (some (← TypeRef.ofValue value)) }
  | _, "type" => do
    once name draft.type?
    return { draft with type? := some (← optional TypeRef.ofValue value) }
  | .test, "target" => do
    once name draft.target?
    return { draft with target? := some (← TypeRef.ofValue value) }
  | .access, "field" => do
    once name draft.field?
    return { draft with field? := some (← string value) }
  | _, _ => .ok draft

/-- The subject of a test or an access. -/
def subject (draft : Draft) : Subject := ⟨draft.symbol?.join, draft.type?.join⟩

/-- The check that a draft amounts to, unless a required field is missing. -/
def finish (draft : Draft) : Kind → Except ReadError Check
  | .assign => do
    let symbol ← requiredField "symbol" draft.symbol?.join
    return .assign symbol (← requiredField "type" draft.type?.join)
  | .test => do
    let target ← requiredField "target" draft.target?
    return .test draft.subject target (draft.guarded?.getD [])
  | .access => do return .access draft.subject (← requiredField "field" draft.field?)

end Draft

end Check

end Narrowing
