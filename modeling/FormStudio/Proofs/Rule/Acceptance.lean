import Mathlib.Logic.Basic
import FormStudio.Proofs.Outcome
import FormStudio.Rule.Schema

/-!
# What a schema accepts

`Schema.Accepts` says what the keywords of a schema mean, without a word on how a value is checked:
a keyword that speaks of one type accepts all others, `anyOf` and `allOf` are alternatives and
conjunctions, and a member without a schema is free. Going through a schema finds out
(`Schema.decides_violations`): nothing is found where the value is accepted, and where something is
found it is not, however many violations there are and whether or not the check breaks off behind
the first one.
-/
namespace FormStudio

/-! ## Acceptance -/

/-- Whether a keyword that has no schemas inside accepts a value. The constants of a schema hold no
numbers, so that they are compared as they are. A number is a multiple as `Number.isMultipleOf?`
divides: exactly by an integer step, and with a quotient that rounds to a whole one by a binary
step. -/
def Keyword.PlainlyAccepts : Keyword → Json → Prop
  | .ofType type, value => type.holds value = true
  | .minLength bound, .str s => bound ≤ s.length
  | .maxLength bound, .str s => (s.length : Int) ≤ bound
  | .pattern written, .str s => Pattern.find written s = .ok true
  | .minimum bound, .num n => bound.le n = true
  | .maximum bound, .num n => n.le bound = true
  | .multipleOf step, .num n => n.isMultipleOf? step = some true
  | .const expected, value => value = expected
  | .enum values, value => value ∈ values
  | .minItems bound, .arr entries => bound ≤ entries.length
  | .maxItems bound, .arr entries => (entries.length : Int) ≤ bound
  | _, _ => True

mutual

/-- Whether a keyword accepts a value. -/
def Keyword.Accepts : Keyword → Json → Prop
  | .items schema, value =>
    ∀ entries, value = .arr entries → ∀ entry ∈ entries, Schema.Accepts schema entry
  | .anyOf branches, value => Schema.AnyAccepts branches value
  | .allOf branches, value => Schema.AllAccept branches value
  | .not schema, value => ¬ Schema.Accepts schema value
  | .properties schemas, value =>
    ∀ members, value = .obj members → Schema.MembersAccepted schemas members
  | .required names, value =>
    ∀ members, value = .obj members → ∀ name ∈ names, name ∈ Table.keys members
  | keyword, value => keyword.PlainlyAccepts value

/-- Whether all keywords of a schema accept a value. -/
def Schema.Accepts : List Keyword → Json → Prop
  | [], _ => True
  | keyword :: rest, value => keyword.Accepts value ∧ Schema.Accepts rest value

/-- Whether one of several schemas accepts a value. -/
def Schema.AnyAccepts : List (List Keyword) → Json → Prop
  | [], _ => False
  | schema :: rest, value => Schema.Accepts schema value ∨ Schema.AnyAccepts rest value

/-- Whether each of several schemas accepts a value. -/
def Schema.AllAccept : List (List Keyword) → Json → Prop
  | [], _ => True
  | schema :: rest, value => Schema.Accepts schema value ∧ Schema.AllAccept rest value

/-- Whether each member that has a schema is accepted by it. -/
def Schema.MembersAccepted : List (String × List Keyword) → Members → Prop
  | [], _ => True
  | (name, schema) :: rest, members =>
    (∀ value, Table.get? name members = some value → Schema.Accepts schema value) ∧
      Schema.MembersAccepted rest members

end

/-! ## Deciding by findings -/

namespace Findings

variable {α : Type} {P Q : Prop}

/-- Findings decide a proposition: it holds where there are none, and does not where there are. A
check that breaks off before it found anything says nothing. -/
def Decides (P : Prop) : Findings α → Prop
  | .done => P
  | .brokenOff _ => True
  | .found .. => ¬ P

theorem Decides.append {first second : Findings α} (hfirst : first.Decides P)
    (hsecond : second.Decides Q) : (first ++ second).Decides (P ∧ Q) := by
  show Decides (P ∧ Q) (Findings.append first second)
  cases first with
  | done =>
    have hiff : (P ∧ Q) ↔ Q := and_iff_right hfirst
    cases second with
    | done => exact hiff.2 hsecond
    | brokenOff e => trivial
    | found a rest => exact fun h => hsecond (hiff.1 h)
  | brokenOff e => trivial
  | found a rest => exact fun h => hfirst h.1

theorem Decides.congr {findings : Findings α} (h : findings.Decides P) (hiff : P ↔ Q) :
    findings.Decides Q := by
  rwa [← hiff]

theorem Decides.of_toDerived {findings : Findings α} {items : List α} (h : findings.Decides P)
    (hitems : findings.toDerived = .ok items) : items = [] ↔ P := by
  cases findings with
  | done =>
    cases hitems
    exact iff_of_true rfl h
  | brokenOff e => cases hitems
  | found a rest =>
    obtain ⟨others, -, hitems⟩ := bind_eq_ok_iff.1 hitems
    cases hitems
    exact iff_of_false nofun h

theorem decides_ofList {items : List α} (h : items = [] ↔ P) : (ofList items).Decides P := by
  cases items with
  | nil => exact h.1 rfl
  | cons a rest => exact fun hp => nomatch h.2 hp

end Findings

namespace Keyword

theorem decides_demand (keyword : Keyword) (path : List PathStep) (value : Json) {holds : Bool}
    {P : Prop} (h : holds = true ↔ P) : (keyword.demand path value holds).Decides P := by
  cases holds with
  | true => exact h.1 rfl
  | false => exact fun hp => nomatch h.2 hp

/-- A keyword without schemas inside finds a violation exactly where it does not accept. -/
theorem decides_plainViolations (keyword : Keyword) (path : List PathStep) (value : Json) :
    (keyword.plainViolations path value).Decides (keyword.PlainlyAccepts value) := by
  unfold plainViolations
  dsimp only
  split
  · exact decides_demand _ _ _ Iff.rfl
  · exact decides_demand _ _ _ decide_eq_true_iff
  · exact decides_demand _ _ _ decide_eq_true_iff
  · next written s =>
    rw [PlainlyAccepts]
    cases Pattern.find written s with
    | error e => trivial
    | ok isFound => exact decides_demand _ _ _ (by rw [Except.ok.injEq])
  · exact decides_demand _ _ _ Iff.rfl
  · exact decides_demand _ _ _ Iff.rfl
  · next step n =>
    rw [PlainlyAccepts]
    cases n.isMultipleOf? step with
    | none => trivial
    | some divides => exact decides_demand _ _ _ Option.some_inj.symm
  · exact decides_demand _ _ _ (Json.same_iff _ _)
  · refine decides_demand _ _ _ ?_
    simp [PlainlyAccepts, Json.same_iff]
  · exact decides_demand _ _ _ decide_eq_true_iff
  · exact decides_demand _ _ _ decide_eq_true_iff
  · unfold PlainlyAccepts
    split <;> first | trivial | simp_all

end Keyword

/-! ## Going through a schema -/

theorem decides_eachItem {check : List PathStep → Json → Findings Violation} {P : Json → Prop}
    (h : ∀ path value, (check path value).Decides (P value)) (path : List PathStep)
    (position : Nat) (entries : List Json) :
    (eachItem check path position entries).Decides (∀ entry ∈ entries, P entry) := by
  induction entries generalizing position with
  | nil => exact nofun
  | cons entry rest ih =>
    rw [List.forall_mem_cons]
    exact (h _ entry).append (ih (position + 1))

theorem decides_missingMembers (names : List String) (path : List PathStep) (members : Members) :
    (missingMembers names path (.obj members)).Decides (∀ name ∈ names, name ∈ members.keys) := by
  refine Findings.decides_ofList ?_
  rw [List.map_eq_nil_iff, List.filter_eq_nil_iff]
  refine forall₂_congr fun name _ => ?_
  rw [Bool.not_eq_true', Bool.not_eq_false, Table.has, Table.get?_isSome_iff]

mutual

/-- **Going through a keyword** finds out whether it accepts a value. -/
theorem Keyword.decides_violations : ∀ (keyword : Keyword) (path : List PathStep) (value : Json),
    (keyword.violations path value).Decides (keyword.Accepts value)
  | .items schema, path, value => by
    rw [Keyword.Accepts]
    cases value with
    | arr entries =>
      rw [Keyword.violations]
      refine (decides_eachItem (Schema.decides_violations schema) path 0 entries).congr ?_
      simp
    | _ => simp only [Keyword.violations, Findings.Decides, reduceCtorEq, false_imp_iff,
        implies_true]
  | .anyOf branches, path, value => by
    rw [Keyword.violations, Keyword.Accepts]
    cases hfound : Schema.eachBranch branches path value with
    | error e => trivial
    | ok found =>
      have hiff := Schema.decides_eachBranch branches path value hfound
      cases found with
      | none => exact hiff.1 rfl
      | some found => exact fun haccepts => nomatch hiff.2 haccepts
  | .allOf branches, path, value => by
    rw [Keyword.violations, Keyword.Accepts]
    exact Schema.decides_allBranches branches path value
  | .not schema, path, value => by
    have hschema := Schema.decides_violations schema path value
    rw [Keyword.violations, Keyword.Accepts]
    cases hfound : Schema.violations schema path value with
    | done =>
      rw [hfound] at hschema
      exact fun hnot => hnot hschema
    | brokenOff e => trivial
    | found v rest =>
      rw [hfound] at hschema
      exact hschema
  | .properties schemas, path, value => by
    rw [Keyword.Accepts]
    cases value with
    | obj members =>
      rw [Keyword.violations]
      refine (Schema.decides_propertyViolations schemas path members).congr ?_
      simp
    | _ => simp only [Keyword.violations, Findings.Decides, reduceCtorEq, false_imp_iff,
        implies_true]
  | .required names, path, value => by
    rw [Keyword.violations, Keyword.Accepts]
    cases value with
    | obj members =>
      refine (decides_missingMembers names path members).congr ?_
      simp
    | _ => exact nofun
  | .dialect _, path, value | .title _, path, value | .ofType _, path, value
  | .minLength _, path, value | .maxLength _, path, value | .pattern _, path, value
  | .minimum _, path, value | .maximum _, path, value | .multipleOf _, path, value
  | .const _, path, value | .enum _, path, value | .minItems _, path, value
  | .maxItems _, path, value => by
    simpa only [Keyword.violations, Keyword.Accepts] using Keyword.decides_plainViolations _ path value

/-- **Going through a schema** finds out whether it accepts a value. -/
theorem Schema.decides_violations : ∀ (schema : List Keyword) (path : List PathStep) (value : Json),
    (Schema.violations schema path value).Decides (Schema.Accepts schema value)
  | [], path, value => by
    rw [Schema.violations_nil, Schema.Accepts]
    trivial
  | keyword :: rest, path, value => by
    rw [Schema.violations, Schema.Accepts]
    exact (Keyword.decides_violations keyword path value).append
      (Schema.decides_violations rest path value)

theorem Schema.decides_eachBranch : ∀ (branches : List (List Keyword)) (path : List PathStep)
    (value : Json) {found : Option (List (List Violation))},
    Schema.eachBranch branches path value = .ok found →
      (found = none ↔ Schema.AnyAccepts branches value)
  | [], path, value, found, h => by
    rw [Schema.eachBranch] at h
    cases h
    rw [Schema.AnyAccepts]
    exact iff_of_false nofun id
  | branch :: rest, path, value, found, h => by
    rw [Schema.eachBranch] at h
    obtain ⟨first, hfirst, h⟩ := bind_eq_ok_iff.1 h
    have hbranch := (Schema.decides_violations branch path value).of_toDerived hfirst
    rw [Schema.AnyAccepts, ← hbranch]
    split at h
    · next hempty =>
      cases h
      exact iff_of_true rfl (.inl (List.isEmpty_iff.1 hempty))
    · next hempty =>
      obtain ⟨others, hothers, h⟩ := bind_eq_ok_iff.1 h
      cases h
      have hne : first ≠ [] := fun hnil => hempty (List.isEmpty_iff.2 hnil)
      rw [Option.map_eq_none_iff, Schema.decides_eachBranch rest path value hothers]
      exact (or_iff_right hne).symm

theorem Schema.decides_allBranches : ∀ (branches : List (List Keyword)) (path : List PathStep)
    (value : Json), (Schema.allBranches branches path value).Decides (Schema.AllAccept branches value)
  | [], path, value => by
    rw [Schema.allBranches, Schema.AllAccept]
    trivial
  | branch :: rest, path, value => by
    rw [Schema.allBranches, Schema.AllAccept]
    exact (Schema.decides_violations branch path value).append
      (Schema.decides_allBranches rest path value)

theorem Schema.decides_propertyViolations : ∀ (schemas : List (String × List Keyword))
    (path : List PathStep) (members : Members),
    (Schema.propertyViolations schemas path members).Decides (Schema.MembersAccepted schemas members)
  | [], path, members => by
    rw [Schema.propertyViolations, Schema.MembersAccepted]
    trivial
  | (name, schema) :: rest, path, members => by
    rw [Schema.propertyViolations, Schema.MembersAccepted]
    refine Findings.Decides.append ?_ (Schema.decides_propertyViolations rest path members)
    cases Table.get? name members with
    | none => exact nofun
    | some value =>
      refine (Schema.decides_violations schema (path ++ [.key name]) value).congr ?_
      simp

end

end FormStudio
