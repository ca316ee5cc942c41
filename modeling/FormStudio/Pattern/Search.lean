/-!
# Searches

The outcomes of a search with choices, in the order in which they are tried. What comes after a
choice is only worked out when it is reached, so the first outcome is found without the others.

Main statement: `Search.first?_eq_head?`, the search finds the first outcome of the list of all.
-/
namespace FormStudio

/-- A search for outcomes. -/
inductive Search (α : Type) where
  | fail
  | found (outcome : α)
  /-- A search that goes on. -/
  | later (next : Unit → Search α)
  /-- Two searches, one after the other. -/
  | either (first second : Unit → Search α)

namespace Search

variable {α : Type}

/-- All outcomes in order. -/
def toList : Search α → List α
  | .fail => []
  | .found a => [a]
  | .later next => (next ()).toList
  | .either first second => (first ()).toList ++ (second ()).toList

/-- The number of steps of a whole search. -/
def size : Search α → Nat
  | .fail => 1
  | .found _ => 1
  | .later next => (next ()).size + 1
  | .either first second => (first ()).size + (second ()).size + 1

def waitingSize : List (Unit → Search α) → Nat
  | [] => 0
  | other :: waiting => (other ()).size + waitingSize waiting

theorem size_lt_fail (other : Unit → Search α) (waiting : List (Unit → Search α)) :
    (other ()).size + waitingSize waiting <
      (fail : Search α).size + waitingSize (other :: waiting) := by
  simp only [size, waitingSize]
  omega

theorem size_lt_later (next : Unit → Search α) (waiting : List (Unit → Search α)) :
    (next ()).size + waitingSize waiting < (later next).size + waitingSize waiting := by
  simp only [size]
  omega

theorem size_lt_either (first second : Unit → Search α) (waiting : List (Unit → Search α)) :
    (first ()).size + waitingSize (second :: waiting) <
      (either first second).size + waitingSize waiting := by
  simp only [size, waitingSize]
  omega

/-- The first outcome of a search, and then of the searches that wait. -/
def firstOf (search : Search α) (waiting : List (Unit → Search α)) : Option α :=
  match search, waiting with
  | .found a, _ => some a
  | .fail, [] => none
  | .fail, other :: waiting => firstOf (other ()) waiting
  | .later next, waiting => firstOf (next ()) waiting
  | .either first second, waiting => firstOf (first ()) (second :: waiting)
termination_by search.size + waitingSize waiting
decreasing_by
  · exact size_lt_fail other waiting
  · exact size_lt_later next waiting
  · exact size_lt_either first second waiting

def first? (search : Search α) : Option α := search.firstOf []

theorem firstOf_eq_head? (search : Search α) (waiting : List (Unit → Search α)) :
    search.firstOf waiting =
      (search.toList ++ waiting.flatMap fun other => (other ()).toList).head? := by
  fun_induction firstOf search waiting with
  | case1 => simp [toList]
  | case2 => simp [toList]
  | case3 _ _ ih => simpa [toList] using ih
  | case4 _ _ ih => simpa [toList] using ih
  | case5 _ _ _ ih => simpa [toList, List.append_assoc] using ih

theorem first?_eq_head? (search : Search α) : search.first? = search.toList.head? := by
  simp [first?, firstOf_eq_head?]

end Search

end FormStudio
