import FormStudio.Number.Power
import FormStudio.Pattern.Error

/-!
# Widths of patterns

How short and how long the texts are that a pattern fits, and the faults that show only in a whole
pattern: a condition on what stands before a place has to fit texts of one length.

Main statement: `Pattern.width_le`, the least width is no more than the greatest where no repetition
has its bounds reversed.
-/
namespace FormStudio

namespace Pattern

/-- Widths from this one on are not told apart. -/
def endless : Nat := 2 ^ 64

/-- Whether no repetition asks for more times at least than at most. -/
def ordered : Pattern → Bool
  | .group _ body => body.ordered
  | .seq first second => first.ordered && second.ordered
  | .alt left right => left.ordered && right.ordered
  | .rep _ body least most => most.all (least ≤ ·) && body.ordered
  | .atomic body => body.ordered
  | .ahead _ body => body.ordered
  | .behind _ _ _ body => body.ordered
  | .choice _ present absent => present.ordered && absent.ordered
  | _ => true

/-- The least and the greatest width of a pattern, given those of the groups it refers to. -/
def width (groups : Nat → Nat × Nat) : Pattern → Nat × Nat
  | .empty => (0, 0)
  | .set _ => (1, 1)
  | .mark _ => (0, 0)
  | .group _ body => body.width groups
  | .again _ number => groups number
  | .seq first second =>
    let (a, b) := first.width groups
    let (c, d) := second.width groups
    (min (a + c) endless, min (b + d) endless)
  | .alt left right =>
    let (a, b) := left.width groups
    let (c, d) := right.width groups
    (min a c, max b d)
  | .rep _ body least most =>
    let (a, b) := body.width groups
    let longest := match most with
      | some n => min (b * n) endless
      | none => if b = 0 then 0 else endless
    (min (a * least) endless, longest)
  | .atomic body => body.width groups
  | .ahead .. => (0, 0)
  | .behind .. => (0, 0)
  | .choice _ present absent =>
    let (a, b) := present.width groups
    let (c, d) := absent.width groups
    (min a c, max b d)

theorem width_le {groups : Nat → Nat × Nat} (h : ∀ n, (groups n).1 ≤ (groups n).2) :
    (pattern : Pattern) → ordered pattern = true →
      (pattern.width groups).1 ≤ (pattern.width groups).2 := by
  intro pattern
  induction pattern with
  | empty => simp [width]
  | set => simp [width]
  | mark => simp [width]
  | group _ body ih => simpa [width, ordered] using ih
  | again _ number => intro _; simpa [width] using h number
  | seq first second ih₁ ih₂ =>
    simp only [width, ordered, Bool.and_eq_true]
    intro ⟨h₁, h₂⟩
    have := ih₁ h₁
    have := ih₂ h₂
    omega
  | alt left right ih₁ ih₂ =>
    simp only [width, ordered, Bool.and_eq_true]
    intro ⟨h₁, h₂⟩
    have := ih₁ h₁
    have := ih₂ h₂
    omega
  | rep _ body least most ih =>
    simp only [width, ordered, Bool.and_eq_true]
    intro ⟨hm, hb⟩
    have hw := ih hb
    cases most with
    | none =>
      by_cases hz : (body.width groups).2 = 0
      · have : (body.width groups).1 = 0 := by omega
        simp [this, hz]
      · simp only [if_neg hz]
        exact Nat.min_le_right ..
    | some n =>
      have hn : least ≤ n := by simpa using hm
      have := Nat.mul_le_mul hw hn
      simp only
      omega
  | atomic body ih => simpa [width, ordered] using ih
  | ahead => simp [width]
  | behind => simp [width]
  | choice _ present absent ih₁ ih₂ =>
    simp only [width, ordered, Bool.and_eq_true]
    intro ⟨h₁, h₂⟩
    have := ih₁ h₁
    have := ih₂ h₂
    omega

/-- The greatest width that a condition on what stands before may have. -/
def furthestBehind : Nat := 2 ^ 32 - 1

/-- The first fault of a whole pattern, which may have to be without repetitions. -/
def fault? (unrepeated : Bool) : Pattern → Option PatternError
  | .group _ body => body.fault? unrepeated
  | .seq first second => first.fault? unrepeated <|> second.fault? unrepeated
  | .alt left right => left.fault? unrepeated <|> right.fault? unrepeated
  | .rep preference body _ _ =>
    if unrepeated then some (.repetition preference) else body.fault? unrepeated
  | .atomic body => body.fault? unrepeated
  | .ahead _ body => body.fault? unrepeated
  | .behind _ least most body =>
    if furthestBehind < least then some .tooFarBehind
    else if least != most then some .severalWidths
    else body.fault? unrepeated
  | .choice _ present absent => present.fault? unrepeated <|> absent.fault? unrepeated
  | _ => none

end Pattern

end FormStudio
