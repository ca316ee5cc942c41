import FormStudio.Derivation

/-!
# Findings

What a check finds, one thing after another. A check may break off: what it found before stands, and
whoever goes through the findings in order meets the failure only behind them.

Main statements: `Findings.toDerived_append`, findings behind others are those of both, and
`Findings.collect_pure`, going through findings without a failure of one's own gives what they give.
-/
namespace FormStudio

/-- What a check finds. -/
inductive Findings (α : Type) where
  | done
  /-- The check fails. -/
  | brokenOff (error : DerivationError)
  | found (a : α) (rest : Findings α)
  deriving Repr, Inhabited

namespace Findings

variable {α β : Type}

def ofList : List α → Findings α
  | [] => .done
  | a :: rest => .found a (ofList rest)

/-- The findings of a check and then of another. -/
def append : Findings α → Findings α → Findings α
  | .done, others => others
  | .brokenOff e, _ => .brokenOff e
  | .found a rest, others => .found a (append rest others)

instance : Append (Findings α) := ⟨append⟩

/-- All findings, if the check does not fail. -/
def toDerived : Findings α → Derived (List α)
  | .done => .ok []
  | .brokenOff e => .error e
  | .found a rest => do .ok (a :: (← rest.toDerived))

/-- Turns each finding into several things, in order. The first failure counts, be it of the turning
or of the check. -/
def collect (f : α → Derived (List β)) : Findings α → Derived (List β)
  | .done => .ok []
  | .brokenOff e => .error e
  | .found a rest => do
    let first ← f a
    .ok (first ++ (← rest.collect f))

theorem toDerived_ofList (items : List α) : (ofList items).toDerived = .ok items := by
  induction items with
  | nil => rfl
  | cons a rest ih => simp [ofList, toDerived, ih]; rfl

theorem toDerived_append (first second : Findings α) :
    (first ++ second).toDerived =
      (do .ok ((← first.toDerived) ++ (← second.toDerived)) : Derived (List α)) := by
  change (append first second).toDerived = _
  induction first with
  | done => cases h : second.toDerived <;> simp [append, toDerived, h] <;> rfl
  | brokenOff e => rfl
  | found a rest ih =>
    simp only [append, toDerived, ih]
    cases rest.toDerived with
    | error e => rfl
    | ok items => cases second.toDerived <;> rfl

theorem collect_pure (f : α → List β) (findings : Findings α) :
    findings.collect (fun a => .ok (f a)) =
      findings.toDerived.map fun items => items.flatMap f := by
  induction findings with
  | done => rfl
  | brokenOff e => rfl
  | found a rest ih =>
    simp only [collect, toDerived, ih]
    cases rest.toDerived <;> rfl

end Findings

end FormStudio
