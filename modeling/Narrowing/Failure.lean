/-!
# Failures

Everything that can go wrong in a run, from an unreadable script to a rejected check. Each cause
has a short machine-readable kind and a text for people.
-/

namespace Narrowing

/-- A failure of any stage of a run. -/
inductive Failure where
  /-- A rule rejected the program. The rule's own kind and message are kept as texts, so that a
  report does not depend on the rules that are in force. -/
  | semantic (kind message : String)
  /-- A name was declared a second time. -/
  | redefinition (name : String)
  /-- A name is not declared. -/
  | undefinedSymbol (name : String)
  /-- No identifier is left for a further symbol. -/
  | symbolTableFull (capacity : Nat)
  /-- A union type is not well formed. -/
  | invalidUnion (message : String)
  /-- A script, or a check in it, makes no sense. -/
  | script (message : String)
  /-- A file could not be read. -/
  | file (message : String)
  deriving Repr, DecidableEq, Inhabited

namespace Failure

/-- The category of a failure. -/
def kind : Failure → String
  | .semantic kind _ => kind
  | .redefinition _ => "redefinition"
  | .undefinedSymbol _ => "undefined-symbol"
  | .symbolTableFull _ => "symbol-table-full"
  | .invalidUnion _ => "invalid-union"
  | .script _ => "script"
  | .file _ => "io"

/-- The text of a failure. -/
def message : Failure → String
  | .semantic _ message => s!"Semantic Error: {message}"
  | .redefinition name => s!"Redefinition of symbol '{name}'"
  | .undefinedSymbol name => s!"Undefined symbol '{name}'"
  | .symbolTableFull capacity => s!"Symbol table is full ({capacity} symbols)"
  | .invalidUnion message => s!"Invalid union type: {message}"
  | .script message => s!"Script error: {message}"
  | .file message => s!"IO error: {message}"

/-- The failure to build a union without members. -/
def emptyUnion : Failure := .invalidUnion "a union must have at least one member"

end Failure

end Narrowing
