import Narrowing.Proofs.Symbols.Table

/-!
# Tables with an index

Names are found without a search if an index leads from each name to its identifier. Such a table
has two containers, the symbols and the index, and a declaration changes both of them or neither.
They stay in step along every sequence of declarations, so the table gives the same answers with the
index as without.
-/

namespace Narrowing

/-- A table of symbols with an index. -/
structure IndexedTable where
  /-- The identifiers of the declared names. -/
  index : Std.HashMap String SymbolId := ∅
  /-- The symbols, in the order of their declarations. -/
  symbols : Array Symbol := #[]

namespace IndexedTable

/-- The table without symbols. -/
def empty : IndexedTable := {}

/-- How many symbols are declared. -/
def size (table : IndexedTable) : Nat := table.symbols.size

/-- The identifier of a declared name. -/
def lookup (table : IndexedTable) (name : String) : Option SymbolId := table.index[name]?

/-- The symbol with the given identifier. -/
def get? (table : IndexedTable) (id : SymbolId) : Option Symbol := table.symbols[id.toNat]?

/-- The symbol of a name that must be declared. -/
def resolve (table : IndexedTable) (name : String) : Except Failure Symbol :=
  match (table.lookup name).bind table.get? with
  | some symbol => .ok symbol
  | none => .error (.undefinedSymbol name)

/-- Declares a symbol: its identifier or the reason that it has none, and the table after that. -/
def declare (table : IndexedTable) (symbol : Symbol) : Except Failure SymbolId × IndexedTable :=
  if table.index.contains symbol.name then (.error (.redefinition symbol.name), table)
  else
    match SymbolTable.nextId table.size with
    | .error failure => (.error failure, table)
    | .ok id =>
      (.ok id, ⟨table.index.insert symbol.name id, table.symbols.push symbol⟩)

/-- The table after the listed symbols are declared, one after the other. -/
def declareAll (table : IndexedTable) (symbols : List Symbol) : IndexedTable :=
  symbols.foldl (fun before symbol => (before.declare symbol).2) table

/-- The tables have the same symbols, and the index of the first knows the identifiers that the
second finds. -/
structure InStep (indexed : IndexedTable) (table : SymbolTable) : Prop where
  /-- The symbols are the same. -/
  symbols : indexed.symbols.toList = table.toList
  /-- The index knows the identifiers. -/
  index : ∀ name, indexed.index[name]? = table.lookup name

/-- The tables cannot be told apart by what they answer. -/
structure SameAnswers (indexed : IndexedTable) (table : SymbolTable) : Prop where
  /-- They list the same symbols. -/
  toList : indexed.symbols.toList = table.toList
  /-- They have the same size. -/
  size : indexed.size = table.size
  /-- They give a name the same identifier. -/
  lookup : ∀ name, indexed.lookup name = table.lookup name
  /-- They store the same symbol under an identifier. -/
  get? : ∀ id, indexed.get? id = table.get? id
  /-- They resolve a name alike. -/
  resolve : ∀ name, indexed.resolve name = table.resolve name
  /-- They accept and reject a declaration alike, with the same identifier or the same failure. -/
  declare : ∀ symbol, (indexed.declare symbol).1 = (table.declare symbol).map Prod.fst

namespace InStep

variable {indexed : IndexedTable} {table : SymbolTable}

theorem size_eq (h : indexed.InStep table) : indexed.size = table.size := by
  unfold IndexedTable.size SymbolTable.size
  rw [← h.symbols, Array.length_toList]

theorem get?_eq (h : indexed.InStep table) (id : SymbolId) : indexed.get? id = table.get? id := by
  unfold IndexedTable.get? SymbolTable.get?
  rw [← h.symbols, Array.getElem?_toList]

/-- The index has a name exactly when some symbol bears it. -/
theorem contains_eq (h : indexed.InStep table) (name : String) :
    indexed.index.contains name = (table.find? name).isSome := by
  rw [Std.HashMap.contains_eq_isSome_getElem?, h.index name, SymbolTable.isSome_lookup]

/-- A name resolves alike with the index and without: the identifier that the index knows is that of
the only symbol of the name. -/
theorem resolve_eq (h : indexed.InStep table) (name : String) :
    indexed.resolve name = table.resolve name := by
  have hfind : (indexed.lookup name).bind indexed.get? = table.find? name := by
    have hlookup : indexed.lookup name = table.lookup name := h.index name
    rw [hlookup]
    cases hid : table.lookup name with
    | none =>
      have hnone : table.find? name = none := SymbolTable.lookup_eq_none_iff.mp hid
      rw [hnone, Option.bind_none]
    | some id =>
      obtain ⟨symbol, hget, hname⟩ := SymbolTable.lookup_eq_some_iff.mp hid
      have hmem : symbol ∈ table.toList := List.mem_of_getElem? hget
      have hsome : table.find? name = some symbol :=
        SymbolTable.find?_eq_some_iff.mpr ⟨hmem, hname⟩
      rw [hsome, Option.bind_some, h.get?_eq id, hget]
  cases hname : table.find? name with
  | none => simp only [IndexedTable.resolve, SymbolTable.resolve, hfind, hname]
  | some symbol => simp only [IndexedTable.resolve, SymbolTable.resolve, hfind, hname]

/-- A declaration that the plain table accepts changes both containers of the other one. -/
theorem declare_of_ok (h : indexed.InStep table) {after : SymbolTable} {symbol : Symbol}
    {id : SymbolId} (hdeclare : table.declare symbol = .ok (id, after)) :
    indexed.declare symbol =
      (.ok id, ⟨indexed.index.insert symbol.name id, indexed.symbols.push symbol⟩) := by
  obtain ⟨hfree, hsize, rfl, _⟩ := SymbolTable.declare_eq_ok_iff.mp hdeclare
  have hcontains : indexed.index.contains symbol.name = false := by
    rw [h.contains_eq, hfree, Option.isSome_none]
  simp [declare, hcontains, SymbolTable.nextId, h.size_eq, hsize]

/-- A declaration that the plain table rejects changes neither. -/
theorem declare_of_error (h : indexed.InStep table) {symbol : Symbol} {failure : Failure}
    (hdeclare : table.declare symbol = .error failure) :
    indexed.declare symbol = (.error failure, indexed) := by
  rcases SymbolTable.declare_eq_error_iff.mp hdeclare with
    ⟨hdeclared, rfl⟩ | ⟨hfree, hfull, rfl⟩
  · have hcontains : indexed.index.contains symbol.name = true := by
      rw [h.contains_eq, hdeclared]
    simp [declare, hcontains]
  · have hcontains : indexed.index.contains symbol.name = false := by
      rw [h.contains_eq, hfree, Option.isSome_none]
    have hsize : ¬ table.size < UInt32.size := Nat.not_lt_of_le hfull
    simp [declare, hcontains, SymbolTable.nextId, h.size_eq, hsize]

/-- A declaration keeps the containers in step. A new symbol comes last, so no other name has its
identifier, and its own name was not in the index before. -/
theorem afterDeclare (h : indexed.InStep table) (symbol : Symbol) :
    (indexed.declare symbol).2.InStep (table.afterDeclare symbol) := by
  cases hdeclare : table.declare symbol with
  | error failure =>
    rw [h.declare_of_error hdeclare, SymbolTable.afterDeclare_of_error hdeclare]
    exact h
  | ok result =>
    obtain ⟨id, after⟩ := result
    obtain ⟨hfree, _, hid, hafter⟩ := SymbolTable.declare_eq_ok_iff.mp hdeclare
    rw [h.declare_of_ok hdeclare, SymbolTable.afterDeclare_of_ok hdeclare]
    constructor
    · simp [hafter, h.symbols]
    · intro name
      have hbefore := h.index name
      unfold SymbolTable.lookup at hbefore ⊢
      rw [Std.HashMap.getElem?_insert, hafter, List.findIdx?_append]
      by_cases hname : symbol.name = name
      · have hnone : table.toList.findIdx? (·.name == name) = none := by
          rw [List.findIdx?_eq_none_iff, ← hname]
          simpa using SymbolTable.find?_eq_none_iff.mp hfree
        simp [hname, hnone, hid, SymbolTable.size]
      · simp [hname, hbefore]

theorem declareAll (h : indexed.InStep table) (symbols : List Symbol) :
    (indexed.declareAll symbols).InStep (table.declareAll symbols) := by
  induction symbols generalizing indexed table with
  | nil => exact h
  | cons symbol rest ih => exact ih (h.afterDeclare symbol)

/-- Tables in step answer alike. -/
theorem sameAnswers (h : indexed.InStep table) : indexed.SameAnswers table where
  toList := h.symbols
  size := h.size_eq
  lookup := h.index
  get? := h.get?_eq
  resolve := h.resolve_eq
  declare := by
    intro symbol
    cases hdeclare : table.declare symbol with
    | error failure => rw [h.declare_of_error hdeclare, Except.map]
    | ok result => rw [h.declare_of_ok hdeclare, Except.map]

end InStep

/-- Nothing is in step with nothing. -/
theorem inStep_empty : empty.InStep .empty where
  symbols := rfl
  index := by simp [empty, SymbolTable.lookup, SymbolTable.empty]

end IndexedTable

namespace SymbolTable

/-- The table that a sequence of declarations builds from nothing answers as the sequence of their
outcomes requires. -/
structure Consistent (calls : List Symbol) : Prop where
  /-- The symbols are those whose declaration succeeded, in the order of the calls. -/
  toList : (empty.declareAll calls).toList = empty.accepted calls
  /-- No two of them have the same name. -/
  names : ((empty.accepted calls).map Symbol.name).Nodup
  /-- The next identifier is the number of the calls that have succeeded so far. -/
  id : ∀ symbol id after, (empty.declareAll calls).declare symbol = .ok (id, after) →
    id.toNat = (empty.accepted calls).length
  /-- No later call gets it again. -/
  id_ne : ∀ symbol id after later other id' after',
    (empty.declareAll calls).declare symbol = .ok (id, after) →
      (empty.declareAll (calls ++ symbol :: later)).declare other = .ok (id', after') → id ≠ id'
  /-- A name has the identifier by which a symbol of that name is stored. -/
  lookup : ∀ name id, (empty.declareAll calls).lookup name = some id ↔
    ∃ symbol, (empty.declareAll calls).get? id = some symbol ∧ symbol.name = name
  /-- A name resolves to the first symbol of that name whose declaration succeeded, now and after
  any further calls. -/
  resolve : ∀ name symbol, (empty.accepted calls).find? (·.name == name) = some symbol ↔
    ∀ later, (empty.declareAll (calls ++ later)).resolve name = .ok symbol
  /-- It does not resolve exactly when there is no such symbol. -/
  unresolved : ∀ name failure, (empty.declareAll calls).resolve name = .error failure ↔
    failure = .undefinedSymbol name ∧ ∀ symbol ∈ empty.accepted calls, symbol.name ≠ name
  /-- A further call fails exactly when the name is taken, or else when there are as many symbols as
  identifiers, which are `2 ^ 32`. -/
  failure : ∀ symbol failure, (empty.declareAll calls).declare symbol = .error failure ↔
    ((empty.declareAll calls).lookup symbol.name).isSome = true ∧
        failure = .redefinition symbol.name ∨
      (empty.declareAll calls).lookup symbol.name = none ∧
        (empty.declareAll calls).size = UInt32.size ∧ failure = .symbolTableFull UInt32.size
  /-- If it fails, then nothing that can be asked has another answer than before. -/
  unchanged : ∀ symbol failure, (empty.declareAll calls).declare symbol = .error failure →
    (empty.declareAll (calls ++ [symbol])).toList = (empty.declareAll calls).toList ∧
      (empty.declareAll (calls ++ [symbol])).size = (empty.declareAll calls).size ∧
      (∀ name, (empty.declareAll (calls ++ [symbol])).lookup name =
        (empty.declareAll calls).lookup name) ∧
      ∀ id, (empty.declareAll (calls ++ [symbol])).get? id = (empty.declareAll calls).get? id
  /-- A table that keeps an index gives the same answers after the same calls. -/
  indexed : (IndexedTable.empty.declareAll calls).SameAnswers (empty.declareAll calls)

/-- Every sequence of declarations builds a consistent table. -/
theorem declareAll_consistent (calls : List Symbol) : Consistent calls := by
  have hlist : (empty.declareAll calls).toList = empty.accepted calls :=
    toList_declareAll_empty calls
  have hsize : (empty.declareAll calls).size = (empty.accepted calls).length :=
    congrArg List.length hlist
  constructor
  case toList => exact hlist
  case names =>
    rw [← hlist]
    exact (empty.declareAll calls).nodup_names
  case id =>
    intro symbol id after hdeclare
    rw [toNat_of_declare hdeclare, hsize]
  case id_ne =>
    intro symbol id after later other id' after' hdeclare hdeclare'
    rw [declareAll_append] at hdeclare'
    exact id_ne_of_declare hdeclare hdeclare'
  case lookup => exact fun name id => lookup_eq_some_iff
  case resolve =>
    intro name symbol
    rw [← hlist]
    constructor
    · intro hfind later
      rw [declareAll_append, resolve_eq_ok_iff]
      exact find?_declareAll hfind later
    · intro hresolve
      have hnow := hresolve []
      rw [List.append_nil, resolve_eq_ok_iff] at hnow
      exact hnow
  case unresolved =>
    intro name failure
    rw [← hlist, resolve_eq_error_iff]
  case failure => exact fun symbol failure => declare_eq_error_iff_lookup
  case unchanged =>
    intro symbol failure hdeclare
    have hsame : empty.declareAll (calls ++ [symbol]) = empty.declareAll calls := by
      rw [declareAll_append]
      exact afterDeclare_of_error hdeclare
    rw [hsame]
    exact ⟨rfl, rfl, fun _ => rfl, fun _ => rfl⟩
  case indexed => exact (IndexedTable.inStep_empty.declareAll calls).sameAnswers

end SymbolTable

end Narrowing
