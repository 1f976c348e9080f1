import Narrowing.Proofs.Run.Declarations
import Narrowing.Proofs.Symbols.Table
import Narrowing.Proofs.Ty.Reference

/-!
# The first declaration of a name

A declaration whose reference stands for nothing is rejected, whatever has been declared before. Of
the others, the first one of each name is accepted and the later ones are rejected. So the verdict
on a declaration depends on the earlier declarations of the same name that stand for something, and
a rejected declaration leaves no trace but its error.
-/

namespace Narrowing

namespace Declaration

/-- The reference of a declaration stands for a type. -/
def Resolves (declaration : Declaration) : Prop := ∃ type, declaration.type.resolve = .ok type

/-- Some declaration of a name stands for a type. -/
def Gives (declarations : List Declaration) (name : String) : Prop :=
  ∃ declaration ∈ declarations, declaration.name = name ∧ declaration.Resolves

/-- After the given declarations, a declaration is the first one of its name that stands for a type.
The symbol has the name and the type. -/
def Introduces (earlier : List Declaration) (declaration : Declaration) (symbol : Symbol) : Prop :=
  declaration.name = symbol.name ∧ declaration.type.resolve = .ok symbol.type ∧
    ¬ Gives earlier symbol.name

/-- The declaration at a position introduces a symbol after those before it. -/
def IntroducesAt (declarations : List Declaration) (index : Nat) (symbol : Symbol) : Prop :=
  ∃ declaration, declarations[index]? = some declaration ∧
    Introduces (declarations.take index) declaration symbol

/-- The error that a declaration is rejected with. Its note names the symbol. -/
def rejection (declaration : Declaration) (kind message : String) : Diagnostic where
  severity := .error
  kind? := some kind
  message := message
  notes := [s!"while declaring '{declaration.name}'"]

/-- The symbol that a declaration describes, if it stands for a type. -/
def symbol? (declaration : Declaration) : Option Symbol :=
  match declaration.type.resolve with
  | .ok type => some ⟨declaration.name, type⟩
  | .error _ => none

variable {declared : List Declaration} {declaration : Declaration}

theorem symbol?_eq_none (h : ¬ declaration.Resolves) : declaration.symbol? = none := by
  unfold symbol?
  cases hresolve : declaration.type.resolve with
  | error _ => rfl
  | ok type => exact absurd ⟨type, hresolve⟩ h

theorem IntroducesAt.lt {index : Nat} {symbol : Symbol} (h : IntroducesAt declared index symbol) :
    index < declared.length := by
  obtain ⟨declaration, hget, -⟩ := h
  exact (List.getElem?_eq_some_iff.mp hget).1

/-- A declaration introduces one symbol only. -/
theorem Introduces.eq {symbol symbol' : Symbol} (h : Introduces declared declaration symbol)
    (h' : Introduces declared declaration symbol') : symbol = symbol' := by
  obtain ⟨hname, htype, -⟩ := h
  obtain ⟨hname', htype', -⟩ := h'
  have hsameName : symbol.name = symbol'.name := hname.symm.trans hname'
  have hsameType : symbol.type = symbol'.type := Except.ok.inj (htype.symm.trans htype')
  calc symbol = ⟨symbol.name, symbol.type⟩ := rfl
    _ = symbol' := by rw [hsameName, hsameType]

theorem gives_append_singleton {name : String} :
    Gives (declared ++ [declaration]) name ↔
      Gives declared name ∨ declaration.name = name ∧ declaration.Resolves := by
  simp only [Gives, List.mem_append, List.mem_singleton]
  constructor
  · rintro ⟨other, hother | rfl, hname⟩
    · exact .inl ⟨other, hother, hname⟩
    · exact .inr hname
  · rintro (⟨other, hother, hname⟩ | hname)
    · exact ⟨other, .inl hother, hname⟩
    · exact ⟨declaration, .inr rfl, hname⟩

theorem introducesAt_append_singleton {index : Nat} {symbol : Symbol} :
    IntroducesAt (declared ++ [declaration]) index symbol ↔
      IntroducesAt declared index symbol ∨
        index = declared.length ∧ Introduces declared declaration symbol := by
  unfold IntroducesAt
  rcases Nat.lt_trichotomy index declared.length with hlt | rfl | hgt
  · have hne : index ≠ declared.length := Nat.ne_of_lt hlt
    rw [List.getElem?_append_left hlt, List.take_append_of_le_length (Nat.le_of_lt hlt)]
    simp [hne]
  · simp
  · have hnone : (declared ++ [declaration])[index]? = none := by
      rw [List.getElem?_eq_none_iff, List.length_append, List.length_singleton]
      omega
    have hnone' : declared[index]? = none := List.getElem?_eq_none_iff.mpr (Nat.le_of_lt hgt)
    have hne : index ≠ declared.length := Nat.ne_of_gt hgt
    simp [hnone, hnone', hne]

end Declaration

namespace SymbolTable

open Declaration

/-- The symbols of a table are those that the declarations introduce. -/
structure HoldsFirsts (table : SymbolTable) (declared : List Declaration) : Prop where
  /-- There are no more symbols than declarations. -/
  size_le : table.size ≤ declared.length
  /-- A name is taken exactly when some declaration of it stands for a type. -/
  names : ∀ name, (table.find? name).isSome = true ↔ Gives declared name
  /-- A name leads to the symbol that the first such declaration introduces. -/
  lookup : ∀ name symbol, table.find? name = some symbol ↔
    symbol.name = name ∧ ∃ index, IntroducesAt declared index symbol
  /-- The symbols are in the order in which they are introduced, and none is left out. -/
  order : ∃ indices : List Nat, indices.Pairwise (· < ·) ∧
    (∀ index, index ∈ indices ↔ ∃ symbol, IntroducesAt declared index symbol) ∧
    List.Forall₂ (IntroducesAt declared) indices table.toList

variable {table after : SymbolTable} {declared : List Declaration} {declaration : Declaration}

theorem holdsFirsts_empty : empty.HoldsFirsts [] where
  size_le := Nat.le_refl 0
  names name := by simp [find?, empty, Gives]
  lookup name symbol := by simp [find?, empty, IntroducesAt]
  order := ⟨[], .nil, by simp [IntroducesAt], .nil⟩

/-- A table still holds the symbols that are introduced after one more declaration that introduces
none. -/
theorem HoldsFirsts.keep (h : table.HoldsFirsts declared)
    (hnone : ∀ symbol, ¬ Introduces declared declaration symbol) :
    table.HoldsFirsts (declared ++ [declaration]) := by
  have hgives : ∀ name, Gives (declared ++ [declaration]) name ↔ Gives declared name := by
    intro name
    rw [gives_append_singleton, or_iff_left_of_imp]
    rintro ⟨rfl, type, htype⟩
    by_contra hnot
    exact hnone ⟨declaration.name, type⟩ ⟨rfl, htype, hnot⟩
  have hintroduces : IntroducesAt (declared ++ [declaration]) = IntroducesAt declared := by
    funext index symbol
    rw [introducesAt_append_singleton, eq_iff_iff]
    exact or_iff_left fun hlast => hnone symbol hlast.2
  constructor
  case size_le =>
    rw [List.length_append]
    exact Nat.le_add_right_of_le h.size_le
  case names =>
    intro name
    rw [h.names, hgives]
  case lookup =>
    intro name symbol
    rw [h.lookup, hintroduces]
  case order =>
    rw [hintroduces]
    exact h.order

/-- A table holds the symbols that are introduced after one more declaration if the symbol that it
introduces is added at the end. -/
theorem HoldsFirsts.extend (h : table.HoldsFirsts declared) {symbol : Symbol}
    (hnew : Introduces declared declaration symbol)
    (hafter : after.toList = table.toList ++ [symbol]) :
    after.HoldsFirsts (declared ++ [declaration]) := by
  have hunique : ∀ other, Introduces declared declaration other ↔ other = symbol := by
    intro other
    constructor
    · intro hother
      exact hother.eq hnew
    · rintro rfl
      exact hnew
  obtain ⟨hname, htype, hfree⟩ := hnew
  have hfind : ∀ name, after.find? name =
      (table.find? name).or (if symbol.name = name then some symbol else none) := by
    intro name
    unfold find?
    rw [hafter, List.find?_append, List.find?_singleton]
    simp only [beq_iff_eq]
  have hintroduces : ∀ index other, IntroducesAt (declared ++ [declaration]) index other ↔
      IntroducesAt declared index other ∨ index = declared.length ∧ other = symbol := by
    intro index other
    rw [introducesAt_append_singleton, hunique]
  constructor
  case size_le =>
    have hsize : after.size = table.size + 1 := by simp [size, hafter]
    rw [hsize, List.length_append]
    exact Nat.add_le_add_right h.size_le 1
  case names =>
    intro name
    rw [hfind, gives_append_singleton, ← h.names, hname]
    cases table.find? name <;> by_cases hsame : symbol.name = name <;> simp [hsame]
    exact ⟨symbol.type, htype⟩
  case lookup =>
    intro name other
    have hsplit : (other.name = name ∧
        ∃ index, IntroducesAt (declared ++ [declaration]) index other) ↔
          table.find? name = some other ∨ other.name = name ∧ other = symbol := by
      rw [h.lookup]
      simp only [hintroduces, exists_or, exists_eq_left, and_or_left]
    rw [hsplit, hfind]
    -- The name of the new symbol was free, and all other names lead where they led before.
    by_cases hsame : symbol.name = name
    · have hnone : table.find? name = none := by
        rw [← Option.not_isSome_iff_eq_none, h.names, ← hsame]
        exact hfree
      rw [hnone, if_pos hsame]
      constructor
      · intro hother
        obtain rfl : symbol = other := Option.some.inj hother
        exact .inr ⟨hsame, rfl⟩
      · rintro (hold | ⟨-, rfl⟩)
        · cases hold
        · rfl
    · rw [if_neg hsame, Option.or_none]
      refine (or_iff_left ?_).symm
      rintro ⟨hname', rfl⟩
      exact hsame hname'
  case order =>
    obtain ⟨indices, hordered, hall, hsymbols⟩ := h.order
    have hlast : ∀ index ∈ indices, index < declared.length := by
      intro index hindex
      obtain ⟨_, hsymbol⟩ := (hall index).mp hindex
      exact hsymbol.lt
    refine ⟨indices ++ [declared.length], ?_, ?_, ?_⟩
    · rw [List.pairwise_append]
      refine ⟨hordered, List.pairwise_singleton _ _, ?_⟩
      intro index hindex last heq
      rw [List.mem_singleton.mp heq]
      exact hlast index hindex
    · intro index
      simp [hintroduces, hall, exists_or]
    · rw [hafter]
      refine List.rel_append ?_ (.cons ((hintroduces _ _).mpr (.inr ⟨rfl, rfl⟩)) .nil)
      exact hsymbols.imp fun index other hold => (hintroduces index other).mpr (.inl hold)

end SymbolTable

namespace Runner

open Declaration

/-- A declaration is rejected because it stands for nothing or because its name is taken, or else it
adds its symbol at the end of the table, as long as an identifier is left. -/
theorem declare_cases (runner : Runner) (declaration : Declaration)
    (hsize : runner.symbols.size < UInt32.size) :
    (¬ declaration.Resolves ∧ (runner.declare declaration).symbols = runner.symbols ∧
      (runner.declare declaration).report = runner.report.add
        (declaration.rejection "invalid-union" Failure.emptyUnion.message)) ∨
    (declaration.Resolves ∧ (runner.symbols.find? declaration.name).isSome = true ∧
      (runner.declare declaration).symbols = runner.symbols ∧
      (runner.declare declaration).report = runner.report.add
        (declaration.rejection "redefinition" (Failure.redefinition declaration.name).message)) ∨
    ∃ symbol : Symbol, declaration.name = symbol.name ∧
      declaration.type.resolve = .ok symbol.type ∧ runner.symbols.find? symbol.name = none ∧
      (runner.declare declaration).symbols.toList = runner.symbols.toList ++ [symbol] ∧
      (runner.declare declaration).report = runner.report := by
  cases hresolve : declaration.type.resolve with
  | error failure =>
    obtain rfl : failure = .emptyUnion := TypeRef.eq_emptyUnion_of_resolve hresolve
    have hnot : ¬ declaration.Resolves := by
      rintro ⟨type, htype⟩
      rw [hresolve] at htype
      cases htype
    rw [declare_of_error (enlist_of_error hresolve)]
    exact .inl ⟨hnot, rfl, rfl⟩
  | ok type =>
    cases hfind : runner.symbols.find? declaration.name with
    | some other =>
      have htaken : (runner.symbols.find? declaration.name).isSome = true := by rw [hfind]; rfl
      have hdeclare : runner.symbols.declare ⟨declaration.name, type⟩ =
          .error (.redefinition declaration.name) :=
        SymbolTable.declare_eq_error_iff.mpr (.inl ⟨htaken, rfl⟩)
      rw [declare_of_error ((enlist_of_ok hresolve).trans hdeclare)]
      exact .inr (.inl ⟨⟨type, hresolve⟩, rfl, rfl, rfl⟩)
    | none =>
      rw [declare_of_ok ((enlist_of_ok hresolve).trans (SymbolTable.declare_eq_ok hfind hsize))]
      exact .inr (.inr ⟨⟨declaration.name, type⟩, rfl, rfl, hfind, rfl, rfl⟩)

/-- A declaration keeps the invariant, as long as an identifier is left. -/
theorem holdsFirsts_declare {runner : Runner} {declared : List Declaration}
    (h : runner.symbols.HoldsFirsts declared) (declaration : Declaration)
    (hlength : declared.length < UInt32.size) :
    (runner.declare declaration).symbols.HoldsFirsts (declared ++ [declaration]) := by
  have hsize : runner.symbols.size < UInt32.size := Nat.lt_of_le_of_lt h.size_le hlength
  rcases declare_cases runner declaration hsize with
    ⟨hnot, hsymbols, -⟩ | ⟨-, htaken, hsymbols, -⟩ | ⟨symbol, hname, htype, hfree, hsymbols, -⟩
  · rw [hsymbols]
    refine h.keep ?_
    rintro symbol ⟨-, htype, -⟩
    exact hnot ⟨symbol.type, htype⟩
  · rw [hsymbols]
    refine h.keep ?_
    rintro symbol ⟨hname, -, hfirst⟩
    rw [hname] at htaken
    exact hfirst ((h.names symbol.name).mp htaken)
  · refine h.extend ⟨hname, htype, ?_⟩ hsymbols
    rw [← h.names, hfree]
    exact Bool.false_ne_true

/-- A runner before its first declaration. -/
def fresh (checker : Checker) (log : List Record) : Runner := { checker, log }

/-- Declarations that are made one after the other keep the invariant. -/
theorem holdsFirsts_foldl_declare (checker : Checker) (log : List Record)
    (declarations : List Declaration) (hlength : declarations.length ≤ UInt32.size) :
    (declarations.foldl declare (fresh checker log)).symbols.HoldsFirsts declarations := by
  induction declarations using List.reverseRecOn with
  | nil => exact SymbolTable.holdsFirsts_empty
  | append_singleton declared declaration ih =>
    rw [List.length_append, List.length_singleton] at hlength
    rw [List.foldl_append]
    exact holdsFirsts_declare (ih (by omega)) declaration hlength

/-- A declaration brings its symbol to the table, if it stands for a type. -/
theorem symbols_declare (runner : Runner) (declaration : Declaration) :
    (runner.declare declaration).symbols =
      runner.symbols.declareAll declaration.symbol?.toList := by
  unfold symbol?
  cases hresolve : declaration.type.resolve with
  | error failure =>
    rw [declare_of_error (enlist_of_error hresolve)]
    rfl
  | ok type =>
    have hafter : runner.symbols.declareAll [⟨declaration.name, type⟩] =
        runner.symbols.afterDeclare ⟨declaration.name, type⟩ := rfl
    rw [Option.toList_some, hafter]
    have henlist : runner.enlist declaration = runner.symbols.declare ⟨declaration.name, type⟩ :=
      enlist_of_ok hresolve
    cases hdeclare : runner.symbols.declare ⟨declaration.name, type⟩ with
    | error failure =>
      rw [declare_of_error (henlist.trans hdeclare), SymbolTable.afterDeclare_of_error hdeclare]
    | ok result =>
      rw [declare_of_ok (henlist.trans hdeclare), SymbolTable.afterDeclare_of_ok hdeclare]

/-- Declarations bring their symbols to the table, as far as they stand for types. -/
theorem symbols_foldl_declare (runner : Runner) (declarations : List Declaration) :
    (declarations.foldl declare runner).symbols =
      runner.symbols.declareAll (declarations.filterMap symbol?) := by
  induction declarations generalizing runner with
  | nil => rfl
  | cons declaration rest ih =>
    rw [List.foldl_cons, ih, symbols_declare, ← SymbolTable.declareAll_append, List.filterMap_cons]
    cases declaration.symbol? <;> rfl

/-- A runner after the first so many of the declarations. -/
def afterFirst (runner : Runner) (declarations : List Declaration) (count : Nat) : Runner :=
  (declarations.take count).foldl declare runner

theorem afterFirst_add_one (runner : Runner) {declarations : List Declaration} {index : Nat}
    {declaration : Declaration} (hget : declarations[index]? = some declaration) :
    runner.afterFirst declarations (index + 1) =
      (runner.afterFirst declarations index).declare declaration := by
  unfold afterFirst
  rw [List.take_add_one, hget, List.foldl_append]
  rfl

/-- What comes of declarations: the symbols that are introduced, and one error for each declaration
that is rejected. -/
structure GoesByFirsts (start : Runner) (declarations : List Declaration) : Prop
    extends SymbolTable.HoldsFirsts (declarations.foldl declare start).symbols declarations where
  /-- A declaration that stands for nothing is rejected, even if its name is taken. -/
  unresolved : ∀ index declaration, declarations[index]? = some declaration →
    ¬ declaration.Resolves →
      (start.afterFirst declarations (index + 1)).report =
        (start.afterFirst declarations index).report.add
          (declaration.rejection "invalid-union" Failure.emptyUnion.message)
  /-- Another declaration is rejected if an earlier one of its name stands for a type. -/
  redeclared : ∀ index declaration, declarations[index]? = some declaration →
    declaration.Resolves → Gives (declarations.take index) declaration.name →
      (start.afterFirst declarations (index + 1)).report =
        (start.afterFirst declarations index).report.add
          (declaration.rejection "redefinition" (Failure.redefinition declaration.name).message)
  /-- The others add nothing to the report. -/
  accepted : ∀ index declaration, declarations[index]? = some declaration →
    declaration.Resolves → ¬ Gives (declarations.take index) declaration.name →
      (start.afterFirst declarations (index + 1)).report =
        (start.afterFirst declarations index).report
  /-- The symbols are the same without a declaration that stands for nothing. -/
  unreserved : ∀ earlier declaration later, declarations = earlier ++ declaration :: later →
    ¬ declaration.Resolves →
      (declarations.foldl declare start).symbols =
        ((earlier ++ later).foldl declare start).symbols

/-- Declarations go by the first of each name that stands for a type, if there are fewer of
them than identifiers. -/
theorem declarations_go_by_firsts (checker : Checker) (log : List Record)
    {declarations : List Declaration} (hlength : declarations.length < 2 ^ 32) :
    (fresh checker log).GoesByFirsts declarations := by
  have hidentifiers : UInt32.size = 2 ^ 32 := rfl
  have hbefore : ∀ index, ((fresh checker log).afterFirst declarations index).symbols.HoldsFirsts
      (declarations.take index) := by
    intro index
    have hle : (declarations.take index).length ≤ declarations.length := List.length_take_le' _ _
    exact holdsFirsts_foldl_declare checker log _ (by omega)
  -- So an identifier is left before each declaration, and the invariant tells which case it is.
  have hsize : ∀ index, ((fresh checker log).afterFirst declarations index).symbols.size <
      UInt32.size := by
    intro index
    have hle := (hbefore index).size_le
    have htake : (declarations.take index).length ≤ declarations.length := List.length_take_le' _ _
    omega
  constructor
  case toHoldsFirsts => exact holdsFirsts_foldl_declare checker log declarations (by omega)
  case unresolved =>
    intro index declaration hget hnot
    rw [afterFirst_add_one _ hget]
    rcases declare_cases _ declaration (hsize index) with
      ⟨-, -, hreport⟩ | ⟨hresolves, -⟩ | ⟨symbol, -, htype, -⟩
    · exact hreport
    · exact absurd hresolves hnot
    · exact absurd ⟨symbol.type, htype⟩ hnot
  case redeclared =>
    intro index declaration hget hresolves hgives
    rw [afterFirst_add_one _ hget]
    rcases declare_cases _ declaration (hsize index) with
      ⟨hnot, -⟩ | ⟨-, -, -, hreport⟩ | ⟨symbol, hname, -, hfree, -⟩
    · exact absurd hresolves hnot
    · exact hreport
    · have htaken := ((hbefore index).names declaration.name).mpr hgives
      rw [hname, hfree] at htaken
      cases htaken
  case accepted =>
    intro index declaration hget hresolves hnew
    rw [afterFirst_add_one _ hget]
    rcases declare_cases _ declaration (hsize index) with
      ⟨hnot, -⟩ | ⟨-, htaken, -⟩ | ⟨-, -, -, -, -, hreport⟩
    · exact absurd hresolves hnot
    · exact absurd (((hbefore index).names declaration.name).mp htaken) hnew
    · exact hreport
  case unreserved =>
    rintro earlier declaration later rfl hnot
    rw [symbols_foldl_declare, symbols_foldl_declare, List.filterMap_append, List.filterMap_append,
      List.filterMap_cons, symbol?_eq_none hnot]

/-- Declarations of one name, of which the second is the first that stands for a type. -/
def hesitant : List Declaration :=
  [⟨"x", .union []⟩, ⟨"x", .named "int"⟩, ⟨"x", .union []⟩, ⟨"x", .named "bool"⟩]

/-- The name is not reserved by the first of them, and the last two are rejected for different
reasons. -/
theorem hesitant_go_by_firsts :
    hesitant.length < 2 ^ 32 ∧ (fresh {} []).GoesByFirsts hesitant ∧
      (hesitant.foldl declare (fresh {} [])).symbols.toList = [⟨"x", .nominal "int"⟩] ∧
      (hesitant.foldl declare (fresh {} [])).report.diagnostics.map Diagnostic.kind? =
        [some "invalid-union", some "invalid-union", some "redefinition"] := by
  have hlength : hesitant.length < 2 ^ 32 := by decide
  exact ⟨hlength, declarations_go_by_firsts {} [] hlength, rfl, rfl⟩

end Runner

end Narrowing
