/-!
# Ordered tables

A table lists keys with their values in the order in which the keys were first entered. Entering a
key again replaces its value in place.

Main statements: `Table.get?_put_self` and `Table.get?_put_of_ne`, the last value entered is the one
found, and `Table.keys_put_of_mem`, entering a known key moves nothing.
-/
namespace FormStudio

/-- Keys with values, in order of first entry. -/
abbrev Table (α : Type) := List (String × α)

namespace Table

variable {α β : Type}

/-- The value of the first entry under a key. -/
def get? (key : String) : Table α → Option α
  | [] => none
  | (k, v) :: rest => if k = key then some v else get? key rest

/-- Enters a value: in place under a known key, else at the end. -/
def put (key : String) (value : α) : Table α → Table α
  | [] => [(key, value)]
  | (k, v) :: rest => if k = key then (key, value) :: rest else (k, v) :: put key value rest

/-- Removes every entry under a key. -/
def erase (key : String) (t : Table α) : Table α := t.filter fun (k, _) => k != key

def keys (t : Table α) : List String := t.map (·.1)

def has (key : String) (t : Table α) : Bool := (get? key t).isSome

/-- Enters each pair of `updates` in turn. -/
def overlay (t updates : Table α) : Table α := updates.foldl (fun t (k, v) => put k v t) t

/-- The table of a list of pairs, in which a key may come more than once. -/
def ofPairs (pairs : List (String × α)) : Table α := overlay [] pairs

@[simp] theorem get?_nil (key : String) : get? key ([] : Table α) = none := rfl

@[simp] theorem get?_put_self (key : String) (value : α) (t : Table α) :
    get? key (put key value t) = some value := by
  induction t with
  | nil => simp [put, get?]
  | cons entry rest ih =>
    by_cases h : entry.1 = key <;> simp [put, get?, h, ih]

theorem get?_put_of_ne {key other : String} (h : other ≠ key) (value : α) (t : Table α) :
    get? other (put key value t) = get? other t := by
  induction t with
  | nil => simp [put, get?, Ne.symm h]
  | cons entry rest ih =>
    by_cases hk : entry.1 = key
    · simp [put, get?, hk, Ne.symm h]
    · simp [put, get?, hk, ih]

theorem get?_isSome_iff {key : String} {t : Table α} : (get? key t).isSome ↔ key ∈ t.keys := by
  induction t with
  | nil => simp [keys]
  | cons entry rest ih =>
    by_cases h : entry.1 = key
    · simp [get?, keys, h]
    · have : ¬ key = entry.1 := fun e => h e.symm
      simp [get?, h, keys, this] at ih ⊢
      exact ih

theorem keys_put_of_mem {key : String} {value : α} {t : Table α} (h : key ∈ t.keys) :
    (put key value t).keys = t.keys := by
  induction t with
  | nil => simp [keys] at h
  | cons entry rest ih =>
    by_cases hk : entry.1 = key
    · simp [put, keys, hk]
    · have hr : key ∈ keys rest := by
        simp only [keys, List.map_cons, List.mem_cons] at h
        exact h.resolve_left fun e => hk e.symm
      simp only [put, hk, if_false]
      simp only [keys, List.map_cons] at ih ⊢
      rw [ih hr]

theorem keys_put_of_not_mem {key : String} {value : α} {t : Table α} (h : key ∉ t.keys) :
    (put key value t).keys = t.keys ++ [key] := by
  induction t with
  | nil => simp [put, keys]
  | cons entry rest ih =>
    simp only [keys, List.map_cons, List.mem_cons, not_or] at h
    have hk : ¬ entry.1 = key := fun e => h.1 e.symm
    simp only [put, hk, if_false]
    simp only [keys, List.map_cons, List.cons_append] at ih ⊢
    rw [ih h.2]

end Table

end FormStudio
