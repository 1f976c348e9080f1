import Narrowing.Failure
import Narrowing.Ty.Basic

/-!
# Symbols

The symbols of a program, in one flat scope. A declaration is final: a name is declared once and
its type never changes. Symbols are numbered from zero in the order of their declarations, by
32-bit identifiers, so a table holds at most `2 ^ 32` of them. Tables carry both guarantees with
them, and a declaration that would break either one is rejected.
-/

namespace Narrowing

/-- A name with its declared type. -/
structure Symbol where
  /-- The declared name. -/
  name : String
  /-- The declared type. -/
  type : Ty
  deriving Repr, Inhabited

/-- The identifier of a symbol: how many symbols were declared before it. -/
abbrev SymbolId := UInt32

/-- The symbols declared so far. -/
@[ext]
structure SymbolTable where
  /-- The symbols, in the order of their declarations. -/
  toList : List Symbol
  /-- Each name is declared once. -/
  nodup_names : (toList.map Symbol.name).Nodup := by decide
  /-- There are no more symbols than identifiers. -/
  length_le : toList.length ≤ UInt32.size := by decide
  deriving Repr

namespace SymbolTable

/-- The table without symbols. -/
def empty : SymbolTable where
  toList := []

instance : Inhabited SymbolTable := ⟨empty⟩

/-- How many symbols are declared. -/
def size (table : SymbolTable) : Nat := table.toList.length

/-- Whether no symbol is declared. -/
def isEmpty (table : SymbolTable) : Bool := table.toList.isEmpty

/-- The identifier of a declared name. -/
def lookup (table : SymbolTable) (name : String) : Option SymbolId :=
  (table.toList.findIdx? (·.name == name)).map UInt32.ofNat

/-- The symbol with the given identifier. -/
def get? (table : SymbolTable) (id : SymbolId) : Option Symbol := table.toList[id.toNat]?

/-- The symbol of a name. -/
def find? (table : SymbolTable) (name : String) : Option Symbol :=
  table.toList.find? (·.name == name)

/-- The symbol of a name that must be declared. -/
def resolve (table : SymbolTable) (name : String) : Except Failure Symbol :=
  match table.find? name with
  | some symbol => .ok symbol
  | none => .error (.undefinedSymbol name)

/-- The identifier that follows on `count` declared symbols, if there is one left. -/
def nextId (count : Nat) : Except Failure SymbolId :=
  if count < UInt32.size then .ok (UInt32.ofNat count) else .error (.symbolTableFull count)

/-- A name leads nowhere when it is not among the names of the symbols. -/
theorem find?_eq_none_iff_not_mem {table : SymbolTable} {name : String} :
    table.find? name = none ↔ name ∉ table.toList.map Symbol.name := by
  simp [find?]

/-- The next identifier is the number of symbols, as long as that is an identifier. -/
theorem nextId_eq_ok_iff {count : Nat} {id : SymbolId} :
    nextId count = .ok id ↔ count < UInt32.size ∧ id = UInt32.ofNat count := by
  unfold nextId
  by_cases hcount : count < UInt32.size
  · simp [hcount, eq_comm]
  · simp [hcount]

/-- There is no next identifier when all of them are taken. -/
theorem nextId_eq_error_iff {count : Nat} {failure : Failure} :
    nextId count = .error failure ↔ UInt32.size ≤ count ∧ failure = .symbolTableFull count := by
  unfold nextId
  by_cases hcount : count < UInt32.size
  · simp [hcount, Nat.not_le_of_lt hcount]
  · simp [hcount, Nat.le_of_not_lt hcount, eq_comm]

/-- Adds a symbol at the end, if its name is free and there is an identifier for it. -/
def push (table : SymbolTable) (symbol : Symbol) (hfree : table.find? symbol.name = none)
    (hsize : table.size < UInt32.size) : SymbolTable where
  toList := table.toList ++ [symbol]
  nodup_names := by
    have hnew : symbol.name ∉ table.toList.map Symbol.name := find?_eq_none_iff_not_mem.mp hfree
    rw [List.map_append, List.map_singleton, List.nodup_append]
    refine ⟨table.nodup_names, List.nodup_cons.mpr ⟨List.not_mem_nil, List.nodup_nil⟩, ?_⟩
    rintro name hname other hother rfl
    exact hnew (List.mem_singleton.mp hother ▸ hname)
  length_le := by
    rw [List.length_append, List.length_singleton]
    exact hsize

@[simp] theorem toList_push (table : SymbolTable) (symbol : Symbol)
    (hfree : table.find? symbol.name = none) (hsize : table.size < UInt32.size) :
    (table.push symbol hfree hsize).toList = table.toList ++ [symbol] := rfl

/-- Declares a symbol; a name that is declared already is rejected before the table's size is
looked at. -/
def declare (table : SymbolTable) (symbol : Symbol) : Except Failure (SymbolId × SymbolTable) :=
  match hfind : table.find? symbol.name with
  | some _ => .error (.redefinition symbol.name)
  | none =>
    match hid : nextId table.size with
    | .error failure => .error failure
    | .ok id => .ok (id, table.push symbol hfind (nextId_eq_ok_iff.mp hid).1)

/-- A symbol that a name leads to bears that name. -/
theorem name_of_find? {table : SymbolTable} {name : String} {symbol : Symbol}
    (h : table.find? name = some symbol) : symbol.name = name := by
  simpa using List.find?_some h

/-- Names resolve exactly when they are declared. -/
theorem resolve_eq_ok_iff {table : SymbolTable} {name : String} {symbol : Symbol} :
    table.resolve name = .ok symbol ↔ table.find? name = some symbol := by
  unfold resolve
  cases table.find? name <;> simp

/-- A symbol can be declared exactly when its name is free and an identifier is left. -/
theorem declare_eq_ok_iff {table after : SymbolTable} {symbol : Symbol} {id : SymbolId} :
    table.declare symbol = .ok (id, after) ↔
      table.find? symbol.name = none ∧ table.size < UInt32.size ∧
        id = UInt32.ofNat table.size ∧ after.toList = table.toList ++ [symbol] := by
  unfold declare
  split
  · next hfind => simp [hfind]
  · next hfind =>
    split
    · next failure hid =>
      obtain ⟨hfull, rfl⟩ := nextId_eq_error_iff.mp hid
      simp [hfind, Nat.not_lt_of_le hfull]
    · next given hid =>
      obtain ⟨hsize, rfl⟩ := nextId_eq_ok_iff.mp hid
      simp only [Except.ok.injEq, Prod.mk.injEq, SymbolTable.ext_iff, toList_push, hfind, hsize,
        true_and]
      exact and_congr eq_comm eq_comm

theorem declare_eq_ok {table : SymbolTable} {symbol : Symbol}
    (hfree : table.find? symbol.name = none) (hsize : table.size < UInt32.size) :
    table.declare symbol = .ok (UInt32.ofNat table.size, table.push symbol hfree hsize) :=
  declare_eq_ok_iff.mpr ⟨hfree, hsize, rfl, rfl⟩

/-- A declaration fails when its name is taken, and otherwise only when no identifier is left. -/
theorem declare_eq_error_iff {table : SymbolTable} {symbol : Symbol} {failure : Failure} :
    table.declare symbol = .error failure ↔
      (table.find? symbol.name).isSome = true ∧ failure = .redefinition symbol.name ∨
        table.find? symbol.name = none ∧ UInt32.size ≤ table.size ∧
          failure = .symbolTableFull table.size := by
  unfold declare
  split
  · next other hfind => simp [hfind, eq_comm]
  · next hfind =>
    split
    · next hid =>
      obtain ⟨hfull, rfl⟩ := nextId_eq_error_iff.mp hid
      simp [hfind, hfull, eq_comm]
    · next hid =>
      have hsize := (nextId_eq_ok_iff.mp hid).1
      simp [hfind, Nat.not_le_of_lt hsize]

end SymbolTable

end Narrowing
