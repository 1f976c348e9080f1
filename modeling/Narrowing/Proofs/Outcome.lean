import Mathlib.Data.List.Forall2
import Narrowing.Failure

/-!
# Outcomes

Computations that may fail are put together from smaller ones. What a sequence of two comes to is
told by what each of them comes to, for one computation and for two that run side by side.
-/

namespace Narrowing

section

variable {ε ε' α β : Type}

/-- A sequence of two computations succeeds when the first does, and the second does with its
result. -/
theorem bind_eq_ok_iff {first : Except ε α} {second : α → Except ε β} {result : β} :
    first >>= second = .ok result ↔ ∃ value, first = .ok value ∧ second value = .ok result := by
  cases first <;> simp [bind, Except.bind]

/-- A sequence of two computations fails when the first does, or when the second does with its
result. -/
theorem bind_eq_error_iff {first : Except ε α} {second : α → Except ε β} {error : ε} :
    first >>= second = .error error ↔
      first = .error error ∨ ∃ value, first = .ok value ∧ second value = .error error := by
  cases first <;> simp [bind, Except.bind]

/-- After a success the rest of a sequence goes on with the result. -/
theorem ok_bind (value : α) (second : α → Except ε β) :
    (Except.ok value >>= second) = second value := rfl

/-- Two sequences that begin alike come to the same if they go on alike after a success. -/
theorem bind_congr_ok {first : Except ε α} {second second' : α → Except ε β}
    (h : ∀ value, first = .ok value → second value = second' value) :
    first >>= second = first >>= second' := by
  cases first with
  | error error => rfl
  | ok value => exact h value rfl

theorem pure_eq_ok_iff {value result : α} :
    (pure value : Except ε α) = .ok result ↔ value = result := by
  simp [pure, Except.pure]

/-- A result that is changed is the change of a result. -/
theorem map_eq_ok_iff {outcome : Except ε α} {f : α → β} {result : β} :
    f <$> outcome = .ok result ↔ ∃ value, outcome = .ok value ∧ f value = result := by
  cases outcome <;> simp [Functor.map, Except.map]

/-- A computation succeeds for all items of a list when it does for each of them. -/
theorem mapM_eq_ok_iff {f : α → Except ε β} {items : List α} {results : List β} :
    items.mapM f = .ok results ↔
      List.Forall₂ (fun item result => f item = .ok result) items results := by
  induction items generalizing results with
  | nil => rw [List.mapM_nil, pure_eq_ok_iff, List.forall₂_nil_left_iff, eq_comm]
  | cons item rest ih =>
    simp only [List.mapM_cons, bind_eq_ok_iff, pure_eq_ok_iff, List.forall₂_cons_left_iff, ih]
    constructor
    · rintro ⟨result, hresult, results, hresults, rfl⟩
      exact ⟨result, results, hresult, hresults, rfl⟩
    · rintro ⟨result, results, hresult, hresults, rfl⟩
      exact ⟨result, hresult, results, hresults, rfl⟩

/-- If each item of a list is related to something, the list is related to some list, item by
item. -/
theorem exists_forall₂ {R : α → β → Prop} {items : List α}
    (h : ∀ item ∈ items, ∃ result, R item result) : ∃ results, List.Forall₂ R items results := by
  induction items with
  | nil => exact ⟨[], .nil⟩
  | cons item rest ih =>
    obtain ⟨result, hresult⟩ := h item List.mem_cons_self
    obtain ⟨results, hresults⟩ := ih fun other hother => h other (List.mem_cons_of_mem item hother)
    exact ⟨result :: results, .cons hresult hresults⟩

theorem pure_ne_error {value : α} {error : ε} : (pure value : Except ε α) ≠ .error error := by
  simp [pure, Except.pure]

/-- A computation fails for the items of a list only if it does for one of them. -/
theorem exists_error_of_mapM {f : α → Except ε β} {items : List α} {error : ε}
    (h : items.mapM f = .error error) : ∃ item ∈ items, f item = .error error := by
  induction items with
  | nil => exact (pure_ne_error h).elim
  | cons item rest ih =>
    simp only [List.mapM_cons, bind_eq_error_iff] at h
    rcases h with hfirst | ⟨_, _, hrest | ⟨_, _, hpure⟩⟩
    · exact ⟨item, List.mem_cons_self, hfirst⟩
    · obtain ⟨other, hother, herror⟩ := ih hrest
      exact ⟨other, List.mem_cons_of_mem item hother, herror⟩
    · exact (pure_ne_error hpure).elim

@[simp] theorem mapError_ok (f : ε → ε') (value : α) :
    (Except.ok value : Except ε α).mapError f = .ok value := rfl

@[simp] theorem mapError_error (f : ε → ε') (error : ε) :
    (Except.error error : Except ε α).mapError f = .error (f error) := rfl

/-- Naming errors differently makes no computation succeed. -/
theorem mapError_eq_ok_iff {outcome : Except ε α} {f : ε → ε'} {result : α} :
    outcome.mapError f = .ok result ↔ outcome = .ok result := by
  cases outcome <;> simp

end

section

variable {α α' β β' : Type}

/-- Two outcomes that a report does not tell apart: results that are related, or failures of one
kind. -/
def Alike (R : α → α' → Prop) : Except Failure α → Except Failure α' → Prop
  | .ok value, .ok value' => R value value'
  | .error failure, .error failure' => failure.kind = failure'.kind
  | _, _ => False

@[simp] theorem alike_ok_ok {R : α → α' → Prop} {value : α} {value' : α'} :
    Alike R (.ok value) (.ok value') ↔ R value value' := Iff.rfl

@[simp] theorem alike_error_error {R : α → α' → Prop} {failure failure' : Failure} :
    Alike R (.error failure) (.error failure') ↔ failure.kind = failure'.kind := Iff.rfl

/-- Outcomes that are alike are related results, or failures of one kind. -/
theorem Alike.elim {R : α → α' → Prop} {outcome : Except Failure α} {outcome' : Except Failure α'}
    (h : Alike R outcome outcome') :
    (∃ value value', outcome = .ok value ∧ outcome' = .ok value' ∧ R value value') ∨
      ∃ failure failure', outcome = .error failure ∧ outcome' = .error failure' ∧
        failure.kind = failure'.kind := by
  cases outcome with
  | error failure =>
    cases outcome' with
    | error failure' => exact .inr ⟨failure, failure', rfl, rfl, h⟩
    | ok value' => exact False.elim h
  | ok value =>
    cases outcome' with
    | error failure' => exact False.elim h
    | ok value' => exact .inl ⟨value, value', rfl, rfl, h⟩

/-- What is like a success is a success, with a related result. -/
theorem Alike.exists_ok {R : α → α' → Prop} {value : α} {outcome' : Except Failure α'}
    (h : Alike R (.ok value) outcome') : ∃ value', outcome' = .ok value' ∧ R value value' := by
  cases outcome' with
  | error failure' => exact False.elim h
  | ok value' => exact ⟨value', rfl, h⟩

/-- Computations that are alike may be continued by ones that are alike on related results. -/
theorem Alike.bind {R : α → α' → Prop} {S : β → β' → Prop} {first : Except Failure α}
    {first' : Except Failure α'} {second : α → Except Failure β} {second' : α' → Except Failure β'}
    (hfirst : Alike R first first')
    (hsecond : ∀ value value', R value value' → Alike S (second value) (second' value')) :
    Alike S (first >>= second) (first' >>= second') := by
  rcases hfirst.elim with ⟨value, value', rfl, rfl, hvalue⟩ | ⟨failure, failure', rfl, rfl, hkind⟩
  · exact hsecond value value' hvalue
  · exact hkind

/-- Computations that only give back related values are alike. -/
theorem Alike.pure {R : α → α' → Prop} {value : α} {value' : α'} (h : R value value') :
    Alike R (Pure.pure value) (Pure.pure value') := h

end

end Narrowing
