import Narrowing.Ty.Basic

/-!
# Two ways to compare types

By name, a type equals every type of the same name, so all unions are equal to each other and to
any nominal type that is named like them. By structure, nominal types compare by name and unions
by their sets of members, and a union never equals a nominal type.
-/

namespace Narrowing

namespace Ty

/-- Equality of names. -/
def eqName (a b : Ty) : Bool := a.name == b.name

mutual

/-- Equality of structure: two unions are equal when each member of either one is equal to some
member of the other. Both tests compare a member of the first union to one of the second, so that
the recursion goes down the first type; `eqStructure_union_covers` has the second test as the first
one with the unions exchanged. -/
def eqStructure : Ty → Ty → Bool
  | .nominal a, .nominal b => a == b
  | .union as, .union bs => allOccurIn as bs && bs.all fun b => anyEqStructure as b
  | _, _ => false

/-- Whether each type of the first list is equal, by structure, to some type of the second. -/
def allOccurIn : List Ty → List Ty → Bool
  | [], _ => true
  | a :: as, bs => (bs.any fun b => a.eqStructure b) && allOccurIn as bs

/-- Whether some type of the list is equal, by structure, to the given type. -/
def anyEqStructure : List Ty → Ty → Bool
  | [], _ => false
  | a :: as, b => a.eqStructure b || anyEqStructure as b

end

@[simp] theorem eqStructure_nominal (a b : String) :
    (nominal a).eqStructure (nominal b) = (a == b) := by
  simp [eqStructure]

@[simp] theorem eqStructure_nominal_union (a : String) (bs : List Ty) :
    (nominal a).eqStructure (union bs) = false := by
  simp [eqStructure]

@[simp] theorem eqStructure_union_nominal (as : List Ty) (b : String) :
    (union as).eqStructure (nominal b) = false := by
  simp [eqStructure]

theorem allOccurIn_eq_all (as bs : List Ty) :
    allOccurIn as bs = as.all fun a => bs.any fun b => a.eqStructure b := by
  induction as with
  | nil => simp [allOccurIn]
  | cons a as ih => simp [allOccurIn, ih]

theorem anyEqStructure_eq_any (as : List Ty) (b : Ty) :
    anyEqStructure as b = as.any fun a => a.eqStructure b := by
  induction as with
  | nil => simp [anyEqStructure]
  | cons a as ih => simp [anyEqStructure, ih]

/-- Two unions are equal by structure when each covers the members of the other. -/
theorem eqStructure_union (as bs : List Ty) :
    (union as).eqStructure (union bs) =
      ((as.all fun a => bs.any fun b => a.eqStructure b) &&
        bs.all fun b => as.any fun a => a.eqStructure b) := by
  simp [eqStructure, allOccurIn_eq_all, anyEqStructure_eq_any]

end Ty

/-- Which of the two comparisons the checking rules use. -/
inductive UnionEquality where
  /-- Types are equal when their names are. -/
  | byName
  /-- Types are equal when their structure is. -/
  | structural
  deriving Repr, DecidableEq, Inhabited

namespace UnionEquality

/-- The comparison that a setting stands for. -/
def typesEqual : UnionEquality → Ty → Ty → Bool
  | .byName => Ty.eqName
  | .structural => Ty.eqStructure

/-- The name of a setting in scripts and on the command line. -/
def keyword : UnionEquality → String
  | .byName => "by-name"
  | .structural => "structural"

/-- The name of a setting in log records. -/
def label : UnionEquality → String
  | .byName => "ByName"
  | .structural => "Structural"

/-- All settings, in the order in which error messages list them. -/
def all : List UnionEquality := [.byName, .structural]

/-- The setting that a word names. -/
def ofKeyword? (word : String) : Option UnionEquality := all.find? (·.keyword == word)

/-- Reading a setting's own name gives the setting back. -/
@[simp] theorem ofKeyword?_keyword (equality : UnionEquality) :
    ofKeyword? equality.keyword = some equality := by
  cases equality <;> decide

end UnionEquality

/-- What a checker can be set up with. -/
structure Config where
  /-- How the rules compare types; by name unless a script or a user asks otherwise. -/
  unionEquality : UnionEquality := .byName
  deriving Repr, DecidableEq, Inhabited

end Narrowing
