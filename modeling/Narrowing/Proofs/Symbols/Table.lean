import Mathlib.Data.List.Nodup
import Narrowing.Proofs.Outcome
import Narrowing.Symbol

/-!
# Tables that declarations build

A table grows at its end, by one symbol at a time, and a declaration that fails leaves it as it was.
So an identifier stays with its symbol once it is given, and a name leads to the same symbol ever
after. This rests on what every table guarantees: each name is declared once, and there are no more
symbols than identifiers. Different names can fill a table to this bound, and no further.
-/

namespace Narrowing

namespace SymbolTable

/-- The table after a declaration, which is the table before it if the declaration fails. -/
def afterDeclare (table : SymbolTable) (symbol : Symbol) : SymbolTable :=
  match table.declare symbol with
  | .ok (_, after) => after
  | .error _ => table

/-- The table after the listed symbols are declared, one after the other. -/
def declareAll (table : SymbolTable) (symbols : List Symbol) : SymbolTable :=
  symbols.foldl afterDeclare table

/-- Those of the listed symbols whose declaration succeeds, when they are declared one after the
other. -/
def accepted (table : SymbolTable) : List Symbol → List Symbol
  | [] => []
  | symbol :: rest =>
    (if (table.declare symbol).isOk then [symbol] else []) ++
      (table.afterDeclare symbol).accepted rest

/-! ### Names -/

/-- A name leads nowhere when no symbol bears it. -/
theorem find?_eq_none_iff {table : SymbolTable} {name : String} :
    table.find? name = none ↔ ∀ symbol ∈ table.toList, symbol.name ≠ name := by
  simp [find?]

/-- A name fails to resolve when no symbol bears it, and there is one way to fail. -/
theorem resolve_eq_error_iff {table : SymbolTable} {name : String} {failure : Failure} :
    table.resolve name = .error failure ↔
      failure = .undefinedSymbol name ∧ ∀ symbol ∈ table.toList, symbol.name ≠ name := by
  rw [← find?_eq_none_iff]
  unfold resolve
  cases table.find? name <;> simp [eq_comm]

/-- A name leads to whatever symbol bears it, since no other symbol does. -/
theorem find?_eq_some_iff {table : SymbolTable} {name : String} {symbol : Symbol} :
    table.find? name = some symbol ↔ symbol ∈ table.toList ∧ symbol.name = name := by
  constructor
  · intro hfind
    exact ⟨List.mem_of_find?_eq_some hfind, name_of_find? hfind⟩
  · rintro ⟨hsymbol, hname⟩
    cases hfind : table.find? name with
    | none => exact absurd hname (find?_eq_none_iff.mp hfind symbol hsymbol)
    | some other =>
      have hother : other ∈ table.toList := List.mem_of_find?_eq_some hfind
      have hsame : other.name = symbol.name := by rw [name_of_find? hfind, hname]
      rw [List.inj_on_of_nodup_map table.nodup_names hother hsymbol hsame]

/-- The order of the symbols does not matter to the names. -/
theorem find?_eq_of_perm {table table' : SymbolTable} (hperm : table.toList.Perm table'.toList)
    (name : String) : table.find? name = table'.find? name := by
  ext symbol
  rw [find?_eq_some_iff, find?_eq_some_iff, hperm.mem_iff]

/-- The table of those symbols that bear one of the listed names. -/
def restrict (table : SymbolTable) (names : List String) : SymbolTable where
  toList := table.toList.filter fun symbol => symbol.name ∈ names
  nodup_names := (List.filter_sublist.map Symbol.name).nodup table.nodup_names
  length_le := Nat.le_trans (List.length_filter_le _ _) table.length_le

theorem mem_restrict {table : SymbolTable} {names : List String} {symbol : Symbol} :
    symbol ∈ (table.restrict names).toList ↔ symbol ∈ table.toList ∧ symbol.name ∈ names := by
  simp [restrict]

/-- The listed names lead where they led before, when the other symbols are left out. -/
theorem find?_restrict {table : SymbolTable} {names : List String} {name : String}
    (h : name ∈ names) : (table.restrict names).find? name = table.find? name := by
  ext symbol
  rw [find?_eq_some_iff, find?_eq_some_iff, mem_restrict]
  constructor
  · rintro ⟨⟨hsymbol, -⟩, hname⟩
    exact ⟨hsymbol, hname⟩
  · rintro ⟨hsymbol, rfl⟩
    exact ⟨⟨hsymbol, h⟩, rfl⟩

/-- A name has an identifier when it leads to a symbol. -/
theorem isSome_lookup (table : SymbolTable) (name : String) :
    (table.lookup name).isSome = (table.find? name).isSome := by
  rw [Bool.eq_iff_iff]
  simp [lookup, find?]

theorem lookup_eq_none_iff {table : SymbolTable} {name : String} :
    table.lookup name = none ↔ table.find? name = none := by
  simp [lookup, find?]

/-- A name has the identifier by which its symbol is stored. -/
theorem lookup_eq_some_iff {table : SymbolTable} {name : String} {id : SymbolId} :
    table.lookup name = some id ↔ ∃ symbol, table.get? id = some symbol ∧ symbol.name = name := by
  unfold lookup get?
  constructor
  · intro hlookup
    obtain ⟨index, hindex, rfl⟩ := Option.map_eq_some_iff.mp hlookup
    obtain ⟨hlt, hname, _⟩ := List.findIdx?_eq_some_iff_getElem.mp hindex
    have hid : (UInt32.ofNat index).toNat = index :=
      UInt32.toNat_ofNat_of_lt' (Nat.lt_of_lt_of_le hlt table.length_le)
    have hget : table.toList[(UInt32.ofNat index).toNat]? = some table.toList[index] := by
      rw [hid, List.getElem?_eq_getElem hlt]
    exact ⟨table.toList[index], hget, by simpa using hname⟩
  · rintro ⟨symbol, hget, hname⟩
    obtain ⟨hlt, hsymbol⟩ := List.getElem?_eq_some_iff.mp hget
    have hindex : table.toList.findIdx? (·.name == name) = some id.toNat := by
      rw [List.findIdx?_eq_some_iff_getElem]
      refine ⟨hlt, by simp [hsymbol, hname], ?_⟩
      intro earlier hearlier hmatch
      have hlength : id.toNat < (table.toList.map Symbol.name).length := by simpa using hlt
      have hsame : (table.toList.map Symbol.name)[earlier]? =
          (table.toList.map Symbol.name)[id.toNat]? := by
        have hearlierLt : earlier < table.toList.length := by omega
        simpa [hearlierLt, hlt, hsymbol, hname] using hmatch
      exact List.nodup_iff_getElem?_ne_getElem?.mp table.nodup_names earlier id.toNat hearlier
        hlength hsame
    rw [hindex]
    simp

/-! ### One declaration -/

/-- A declaration fails when its name has an identifier, and otherwise only when there are as many
symbols as identifiers. -/
theorem declare_eq_error_iff_lookup {table : SymbolTable} {symbol : Symbol} {failure : Failure} :
    table.declare symbol = .error failure ↔
      (table.lookup symbol.name).isSome = true ∧ failure = .redefinition symbol.name ∨
        table.lookup symbol.name = none ∧ table.size = UInt32.size ∧
          failure = .symbolTableFull UInt32.size := by
  have hfull : UInt32.size ≤ table.size ∧ failure = .symbolTableFull table.size ↔
      table.size = UInt32.size ∧ failure = .symbolTableFull UInt32.size := by
    constructor
    · rintro ⟨hle, rfl⟩
      have hsize : table.size = UInt32.size := Nat.le_antisymm table.length_le hle
      exact ⟨hsize, by rw [hsize]⟩
    · rintro ⟨hsize, rfl⟩
      exact ⟨Nat.le_of_eq hsize.symm, by rw [hsize]⟩
  rw [declare_eq_error_iff, isSome_lookup, lookup_eq_none_iff, hfull]

/-- A new identifier is the number of the symbols that were there before. -/
theorem toNat_of_declare {table after : SymbolTable} {symbol : Symbol} {id : SymbolId}
    (h : table.declare symbol = .ok (id, after)) : id.toNat = table.size := by
  obtain ⟨_, hsize, rfl, _⟩ := declare_eq_ok_iff.mp h
  exact UInt32.toNat_ofNat_of_lt' hsize

theorem afterDeclare_of_ok {table after : SymbolTable} {symbol : Symbol} {id : SymbolId}
    (h : table.declare symbol = .ok (id, after)) : table.afterDeclare symbol = after := by
  simp only [afterDeclare, h]

theorem afterDeclare_of_error {table : SymbolTable} {symbol : Symbol} {failure : Failure}
    (h : table.declare symbol = .error failure) : table.afterDeclare symbol = table := by
  simp only [afterDeclare, h]

/-- A declaration adds its symbol at the end of the table if it succeeds, and nothing else. -/
theorem toList_afterDeclare (table : SymbolTable) (symbol : Symbol) :
    (table.afterDeclare symbol).toList =
      table.toList ++ if (table.declare symbol).isOk then [symbol] else [] := by
  cases hdeclare : table.declare symbol with
  | error failure =>
    rw [afterDeclare_of_error hdeclare]
    simp [Except.isOk, Except.toBool]
  | ok result =>
    obtain ⟨id, after⟩ := result
    obtain ⟨_, _, _, hafter⟩ := declare_eq_ok_iff.mp hdeclare
    rw [afterDeclare_of_ok hdeclare, hafter]
    simp [Except.isOk, Except.toBool]

/-! ### Many declarations -/

theorem declareAll_append (table : SymbolTable) (first second : List Symbol) :
    table.declareAll (first ++ second) = (table.declareAll first).declareAll second := by
  unfold declareAll
  rw [List.foldl_append]

/-- Declarations add the symbols that are declared successfully, in order. -/
theorem toList_declareAll (table : SymbolTable) (symbols : List Symbol) :
    (table.declareAll symbols).toList = table.toList ++ table.accepted symbols := by
  induction symbols generalizing table with
  | nil => simp [declareAll, accepted]
  | cons symbol rest ih =>
    calc (table.declareAll (symbol :: rest)).toList
        = (table.afterDeclare symbol).toList ++ (table.afterDeclare symbol).accepted rest :=
          ih (table.afterDeclare symbol)
      _ = table.toList ++ table.accepted (symbol :: rest) := by
          rw [toList_afterDeclare, accepted, List.append_assoc]

/-- The table that declarations build from nothing lists the symbols that were declared
successfully. -/
theorem toList_declareAll_empty (symbols : List Symbol) :
    (empty.declareAll symbols).toList = empty.accepted symbols := by
  rw [toList_declareAll]
  rfl

/-- Once a name leads to a symbol, later declarations do not change that. -/
theorem find?_declareAll {table : SymbolTable} {name : String} {symbol : Symbol}
    (h : table.find? name = some symbol) (later : List Symbol) :
    (table.declareAll later).find? name = some symbol := by
  unfold find? at h ⊢
  rw [toList_declareAll, List.find?_append, h, Option.some_or]

/-- A declaration that succeeds makes the table longer, and later declarations do not shorten it. -/
theorem size_lt_of_declare {table after : SymbolTable} {symbol : Symbol} {id : SymbolId}
    (h : table.declare symbol = .ok (id, after)) (later : List Symbol) :
    table.size < (table.declareAll (symbol :: later)).size := by
  obtain ⟨_, _, _, hafter⟩ := declare_eq_ok_iff.mp h
  have hgrown : (table.declareAll (symbol :: later)).toList =
      table.toList ++ symbol :: after.accepted later := by
    calc (table.declareAll (symbol :: later)).toList
        = (table.afterDeclare symbol).toList ++ (table.afterDeclare symbol).accepted later :=
          toList_declareAll (table.afterDeclare symbol) later
      _ = table.toList ++ symbol :: after.accepted later := by
          rw [afterDeclare_of_ok h, hafter, List.append_assoc, List.singleton_append]
  unfold size
  rw [hgrown, List.length_append, List.length_cons]
  omega

/-- No later declaration gets the identifier of an earlier one, since the table has grown in
between. -/
theorem id_ne_of_declare {table after after' : SymbolTable} {symbol other : Symbol}
    {id id' : SymbolId} {later : List Symbol} (h : table.declare symbol = .ok (id, after))
    (h' : (table.declareAll (symbol :: later)).declare other = .ok (id', after')) : id ≠ id' := by
  intro heq
  have hfirst := toNat_of_declare h
  have hsecond := toNat_of_declare h'
  have hgrown := size_lt_of_declare h later
  rw [heq] at hfirst
  omega

/-! ### Full tables -/

/-- Symbols with new and different names are all accepted, as long as there are identifiers for
them. -/
theorem accepted_eq_self {table : SymbolTable} {symbols : List Symbol}
    (hnames : ((table.toList ++ symbols).map Symbol.name).Nodup)
    (hsize : table.size + symbols.length ≤ UInt32.size) : table.accepted symbols = symbols := by
  induction symbols generalizing table with
  | nil => rfl
  | cons symbol rest ih =>
    rw [List.length_cons] at hsize
    have hfree : table.find? symbol.name = none := by
      rw [find?_eq_none_iff_not_mem]
      intro hmem
      rw [List.map_append, List.nodup_append] at hnames
      have hlisted : symbol.name ∈ (symbol :: rest).map Symbol.name :=
        List.mem_map_of_mem (List.mem_cons_self ..)
      exact hnames.2.2 symbol.name hmem symbol.name hlisted rfl
    have hroom : table.size < UInt32.size := by omega
    have hrest : (table.afterDeclare symbol).accepted rest = rest := by
      rw [afterDeclare_of_ok (declare_eq_ok hfree hroom)]
      apply ih
      · simpa using hnames
      · simp only [size, toList_push, List.length_append, List.length_singleton] at hsize ⊢
        omega
    rw [accepted, hrest, declare_eq_ok hfree hroom]
    rfl

/-- After as many different names as there are identifiers, no other name can be declared. -/
theorem declare_eq_symbolTableFull {symbols : List Symbol} {symbol : Symbol}
    (hnames : ((symbols ++ [symbol]).map Symbol.name).Nodup)
    (hlength : symbols.length = UInt32.size) :
    (empty.declareAll symbols).declare symbol = .error (.symbolTableFull UInt32.size) := by
  rw [List.map_append, List.nodup_append] at hnames
  obtain ⟨hdistinct, _, hnew⟩ := hnames
  have hlist : (empty.declareAll symbols).toList = symbols := by
    rw [toList_declareAll_empty]
    exact accepted_eq_self hdistinct (by simp [size, empty, hlength])
  have hsize : (empty.declareAll symbols).size = UInt32.size := by
    rw [size, hlist, hlength]
  have hfree : (empty.declareAll symbols).find? symbol.name = none := by
    rw [find?_eq_none_iff_not_mem, hlist]
    intro hmem
    exact hnew symbol.name hmem symbol.name (List.mem_singleton_self _) rfl
  exact declare_eq_error_iff.mpr (.inr ⟨hfree, Nat.le_of_eq hsize.symm, by rw [hsize]⟩)

end SymbolTable

end Narrowing
