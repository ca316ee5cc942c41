import FormStudio.Pattern.Basic
import FormStudio.Pattern.Search

/-!
# Matching patterns

How a pattern fits a text from a place on: the ways are tried in a fixed order, and each leads to a
place and to the parts remembered on the way. A repetition that fits nothing more is not tried again
at the same place.

Main statements: `Pattern.toList_run`, what follows a pattern is tried after each of its outcomes in
turn, and `Pattern.search_iff`, a text is accepted exactly when some place in it has an outcome.
-/
namespace FormStudio

/-- A remembered part: where it was last begun, and where it was last ended. -/
structure Capture where
  number : Nat
  start : Nat
  stop : Option Nat
  deriving DecidableEq, Repr

/-- How far a match has come. -/
structure Progress where
  place : Place
  captures : List Capture

namespace Progress

/-- The remembered part of a number. -/
def capture? (s : Progress) (number : Nat) : Option Capture :=
  s.captures.find? fun c => c.number == number

/-- The indices between which a remembered part stands. One that has been begun again since it was
ended is there only if nothing stands between. -/
def span? (s : Progress) (number : Nat) : Option (Nat × Nat) := do
  let c ← s.capture? number
  let stop ← c.stop
  if c.start ≤ stop then some (c.start, stop) else none

/-- The text of a remembered part. -/
def text? (s : Progress) (number : Nat) : Option (List Char) :=
  (s.span? number).map fun (start, stop) => s.place.between start stop

/-- Replaces what is remembered of a part. -/
def remember (s : Progress) (c : Capture) : Progress :=
  { s with captures := c :: s.captures.filter fun other => other.number != c.number }

/-- Begins a part. -/
def opened (s : Progress) (number : Nat) : Progress :=
  s.remember ⟨number, s.place.index, (s.capture? number).bind Capture.stop⟩

/-- Ends a part. -/
def closed (s : Progress) (number : Nat) : Progress :=
  let start := ((s.capture? number).map Capture.start).getD s.place.index
  s.remember ⟨number, start, some s.place.index⟩

end Progress

/-- A way to go on from a progress, given what to do after it. -/
abbrev Trial := Progress → (Progress → Search Progress) → Search Progress

namespace Pattern

/-- Repeats a trial while it moves on, at most some times; `last` is where the repetition before
began. -/
def optional (trial : Trial) (preference : Preference) : Nat → Option Nat → Trial
  | 0, _, s, next => next s
  | more + 1, last, s, next =>
    if last = some s.place.index then next s
    else
      let again := fun _ =>
        trial s fun t => optional trial preference more (some s.place.index) t next
      let done := fun _ => next s
      if preference = .fewest then .either done again else .either again done

/-- Repeats a trial some times, and then as `rest` says. -/
def mandatory (trial rest : Trial) : Nat → Trial
  | 0, s, next => rest s next
  | least + 1, s, next => .later fun _ => trial s fun t => mandatory trial rest least t next

/-- Repeats the first outcome of a trial some times, and then while there is one and it moves on. -/
def greedy (first : Progress → Option Progress) : Nat → Nat → Option Nat → Progress →
    Option Progress
  | least + 1, more, last, s =>
    match first s with
    | some t => greedy first least more last t
    | none => none
  | 0, 0, _, s => some s
  | 0, more + 1, last, s =>
    if last = some s.place.index then some s
    else
      match first s with
      | some t => greedy first 0 more (some s.place.index) t
      | none => some s

/-- Goes on from a result, if there is one. -/
def continued (result : Option Progress) (next : Progress → Search Progress) : Search Progress :=
  match result with
  | some s => next s
  | none => .fail

/-- Goes on where a condition is as wanted; what is remembered in a condition that holds is kept. -/
def condition (negated : Bool) (result : Option Progress) (s : Progress) : Option Progress :=
  match result, negated with
  | some t, false => some { t with place := s.place }
  | none, true => some s
  | _, _ => none

def run : Pattern → Trial
  | .empty, s, next => next s
  | .set chars, s, next =>
    match s.place.next? with
    | some (c, place) => if chars.holds c then next { s with place := place } else .fail
    | none => .fail
  | .mark m, s, next => if m.holds s.place then next s else .fail
  | .group number body, s, next => body.run (s.opened number) fun t => next (t.closed number)
  | .again casing number, s, next =>
    let place? := (s.text? number).bind fun text => s.place.skip? casing text
    continued (place?.map fun place => { s with place := place }) next
  | .seq first second, s, next => first.run s fun t => second.run t next
  | .alt left right, s, next => .either (fun _ => left.run s next) fun _ => right.run s next
  | .rep preference body least most, s, next =>
    let more (s : Progress) : Nat := (most.map (· - least)).getD (s.place.after.length + 1)
    if preference = .possessive then
      continued (greedy (fun t => (body.run t .found).first?) least (more s) none s) next
    else
      mandatory body.run (fun t next => optional body.run preference (more t) none t next) least s
        next
  | .atomic body, s, next => continued (body.run s .found).first? next
  | .ahead negated body, s, next =>
    continued (condition negated (body.run s .found).first? s) next
  | .behind negated least _ body, s, next =>
    let result := (s.place.back? least).bind fun place =>
      (body.run { s with place := place } .found).first?
    continued (condition negated result s) next
  | .choice number present absent, s, next =>
    if (s.span? number).isSome then present.run s next else absent.run s next

/-- The outcomes of a pattern, in the order in which they are tried. -/
def outcomes (pattern : Pattern) (s : Progress) : List Progress := (pattern.run s .found).toList

/-- A trial that tries what follows after each of its own outcomes in turn. -/
def Ordered (trial : Trial) : Prop :=
  ∀ s next, (trial s next).toList = (trial s .found).toList.flatMap fun t => (next t).toList

theorem ordered_optional {trial : Trial} (h : Ordered trial) (preference : Preference) (more : Nat)
    (last : Option Nat) : Ordered (optional trial preference more last) := by
  induction more generalizing last with
  | zero => intro s next; simp [optional, Search.toList]
  | succ more ih =>
    intro s next
    unfold optional
    split
    · simp [Search.toList]
    · have again : (trial s fun t =>
          optional trial preference more (some s.place.index) t next).toList =
          (trial s fun t =>
            optional trial preference more (some s.place.index) t .found).toList.flatMap
            fun t => (next t).toList := by
        rw [h, h s fun t => optional trial preference more (some s.place.index) t .found,
          List.flatMap_assoc]
        exact congrArg (List.flatMap · _) (funext fun t => ih _ t next)
      split <;> simp [Search.toList, again]

theorem ordered_mandatory {trial rest : Trial} (h : Ordered trial) (hr : Ordered rest)
    (least : Nat) : Ordered (mandatory trial rest least) := by
  induction least with
  | zero => exact hr
  | succ least ih =>
    intro s next
    simp only [mandatory, Search.toList]
    rw [h, h s fun t => mandatory trial rest least t .found, List.flatMap_assoc]
    exact congrArg (List.flatMap · _) (funext fun t => ih t next)

theorem toList_continued (result : Option Progress) (next : Progress → Search Progress) :
    (continued result next).toList = result.toList.flatMap fun t => (next t).toList := by
  cases result <;> simp [continued, Search.toList]

theorem ordered_continued (result : Progress → Option Progress) :
    Ordered fun s next => continued (result s) next := by
  intro s next
  simp only [toList_continued]
  cases result s <;> simp [Search.toList]

theorem ordered_run (pattern : Pattern) : Ordered pattern.run := by
  induction pattern with
  | empty => intro s next; simp [run, Search.toList]
  | set chars =>
    intro s next
    simp only [run]
    split
    · split <;> simp [Search.toList]
    · simp [Search.toList]
  | mark m => intro s next; simp only [run]; split <;> simp [Search.toList]
  | group number body ih =>
    intro s next
    simp only [run]
    rw [ih, ih _ fun t => .found (t.closed number), List.flatMap_assoc]
    simp [Search.toList]
  | again casing number => exact ordered_continued _
  | seq first second ih₁ ih₂ =>
    intro s next
    simp only [run]
    rw [ih₁, ih₁ s fun t => second.run t .found, List.flatMap_assoc]
    exact congrArg (List.flatMap · _) (funext fun t => ih₂ t next)
  | alt left right ih₁ ih₂ =>
    intro s next
    simp only [run, Search.toList, List.flatMap_append]
    rw [ih₁, ih₂]
  | rep preference body least most ih =>
    intro s next
    simp only [run]
    split
    · simp only [toList_continued]
      cases greedy (fun t => (body.run t .found).first?) least _ none s <;> simp [Search.toList]
    · refine ordered_mandatory ih ?_ least s next
      exact fun t next => ordered_optional ih preference _ none t next
  | atomic body => exact ordered_continued _
  | ahead negated body => exact ordered_continued _
  | behind negated least most body => exact ordered_continued _
  | choice number present absent ih₁ ih₂ =>
    intro s next
    simp only [run]
    split
    · exact ih₁ s next
    · exact ih₂ s next

theorem toList_run (pattern : Pattern) (s : Progress) (next : Progress → Search Progress) :
    (pattern.run s next).toList = (pattern.outcomes s).flatMap fun t => (next t).toList :=
  ordered_run pattern s next

theorem outcomes_seq (first second : Pattern) (s : Progress) :
    (seq first second).outcomes s = (first.outcomes s).flatMap second.outcomes :=
  toList_run first s fun t => second.run t .found

theorem outcomes_alt (left right : Pattern) (s : Progress) :
    (alt left right).outcomes s = left.outcomes s ++ right.outcomes s := rfl

/-- Whether a text has a match somewhere. -/
def search (pattern : Pattern) (text : String) : Bool :=
  (Place.start text).onward.any fun place => (pattern.run ⟨place, []⟩ .found).first?.isSome

theorem search_iff {pattern : Pattern} {text : String} :
    pattern.search text = true ↔
      ∃ place ∈ (Place.start text).onward, ∃ s, s ∈ pattern.outcomes ⟨place, []⟩ := by
  simp [search, outcomes, List.any_eq_true, Search.first?_eq_head?, List.eq_nil_iff_forall_not_mem]

end Pattern

end FormStudio
