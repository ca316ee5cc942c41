import FormStudio.Proofs.Form.Answer
import FormStudio.Proofs.Rule.Blame

/-!
# What a field is told

`RuleKind.IsNoAnswer` says which values stand for no answer, and `Field.Fails` what each type of
error means, in terms of the field and of the handler of its variant alone. A field that has to be
answered is told so where it is not, and in one more case: where its answer is a list with `null` in
place of an item. A field that is not told so is told just those types of error that its answer
fails by (`Form.tells_required_iff`).
-/
namespace FormStudio

/-! ## Answers that stand for none -/

namespace RuleKind

/-- Whether a value of a kind stands for no answer. -/
def IsNoAnswer : RuleKind → Json → Prop
  | .string, value | .date, value =>
    value = .null ∨ ∃ s, value = .str s ∧ ∀ c ∈ s.toList, isBlank c = true
  | .array, value => value = .null ∨ value = .arr []
  | .any, value => value = .null ∨ value = .str "" ∨ value = .arr []
  | .number, value | .boolean, value => value = .null

/-- Whether a field of a kind has no answer. -/
def IsUnanswered (kind : RuleKind) : Option Json → Prop
  | none => True
  | some value => kind.IsNoAnswer value

/-- Whether a value is a list with `null` in place of an item. -/
def LacksItem (kind : RuleKind) (value : Json) : Prop :=
  kind = .array ∧ ∃ entries, value = .arr entries ∧ .null ∈ entries

/-- Whether a value is of a kind, with all its items. -/
def Holds : RuleKind → Json → Prop
  | .string, value | .date, value => ∃ s, value = .str s
  | .number, value => ∃ n, value = .num n
  | .boolean, value => ∃ b, value = .bool b
  | .array, value => ∃ texts : List String, value = .arr (texts.map Json.str)
  | .any, _ => True

end RuleKind

/-! ## Types of error -/

namespace Handler

/-- The pattern of a variant asks for something else than a character or a date. -/
def HasOwnPattern (handler : Handler) : Prop :=
  ∀ written ∈ handler.pattern, written ≠ "" ∧ written ≠ nonBlankPattern ∧ written ≠ datePattern

theorem hasOwnPattern_builtin {variant : String} {handler : Handler}
    (h : builtin.get? variant = some handler) : handler.HasOwnPattern := by
  have hall : ∀ entry ∈ builtin, ∀ written ∈ entry.2.pattern,
      written ≠ "" ∧ written ≠ nonBlankPattern ∧ written ≠ datePattern := by decide +kernel
  exact hall _ (Table.mem_of_get? h)

variable {handler : Handler} {f : Field}

theorem kind_rule : (handler.rule f).kind = handler.kind := by cases handler <;> rfl

theorem required_rule : (handler.rule f).required = f.isRequired := by cases handler <;> rfl

theorem minLength_rule : (handler.rule f).minLength = handler.lengths.1 := by cases handler <;> rfl

theorem maxLength_rule : (handler.rule f).maxLength = handler.lengths.2 := by cases handler <;> rfl

theorem pattern_rule : (handler.rule f).pattern = handler.pattern := by cases handler <;> rfl

end Handler

namespace Field

/-- Whether the bounds of a text count. Where none is required, the empty text passes for none. -/
def Examines (f : Field) (s : String) : Prop := f.isRequired = true ∨ s ≠ ""

/-- What each type of error says of a value. No variant asks for a least count of items, and that
an answer is required says nothing of what is there. -/
def Fails (f : Field) (handler : Handler) (value : Json) : ErrorType → Prop
  | .wrongType => ¬ handler.kind.Holds value
  | .minLength =>
    ∃ s, value = .str s ∧ f.Examines s ∧ ∃ bound ∈ handler.lengths.1, ¬ bound ≤ s.length
  | .maxLength =>
    ∃ s, value = .str s ∧ f.Examines s ∧ ∃ bound ∈ handler.lengths.2, ¬ (s.length : Int) ≤ bound
  | .pattern =>
    ∃ s, value = .str s ∧ f.Examines s ∧
      ∃ written ∈ handler.pattern, ¬ Pattern.find written s = .ok true
  | .format =>
    ∃ s, value = .str s ∧ f.Examines s ∧ handler.kind = .date ∧
      ¬ Pattern.find datePattern s = .ok true
  | .minimum =>
    handler.kind = .number ∧ ∃ n, value = .num n ∧ ∃ bound ∈ f.min, ¬ bound.le n = true
  | .maximum =>
    handler.kind = .number ∧ ∃ n, value = .num n ∧ ∃ bound ∈ f.max, ¬ n.le bound = true
  | .step =>
    handler.kind = .number ∧ ∃ n, value = .num n ∧
      ∃ step ∈ f.step, step.isZero = false ∧ ¬ n.IsMultipleOf step
  | .maxItems =>
    ∃ style bound fallback, handler = .list style (some bound) fallback ∧
      ∃ entries, value = .arr entries ∧ ¬ (entries.length : Int) ≤ bound
  | .mustBeTrue =>
    ∃ component, handler = .toggle component true ∧ f.isRequired = true ∧ value ≠ .bool true
  | .required | .minItems => False

/-- Whether a value leads to the error that an answer is required: it stands for none, or for one
item of it there is none. -/
def IsMissed (f : Field) (kind : RuleKind) (value : Json) : Prop :=
  f.isRequired = true ∧ (kind.IsNoAnswer value ∨ kind.LacksItem value)

variable {f : Field} {handler : Handler} {value : Json} {type : ErrorType}

theorem not_null_of_not_isMissed {kind : RuleKind} (h : ¬ f.IsMissed kind value) :
    ¬ (value = .null ∧ f.isRequired = true) := by
  rintro ⟨rfl, hrequired⟩
  exact h ⟨hrequired, .inl (by cases kind <;> simp [RuleKind.IsNoAnswer])⟩

section Toggle

variable {component : Import} {agreement : Bool}

theorem finds_required_toggle_iff :
    ((Handler.toggle component agreement).rule f).Finds value .required ↔
      f.IsMissed .boolean value := by
  rw [Rule.finds_boolean_iff rfl, Rule.required_of_type_iff, Handler.required_rule]
  simp [IsMissed, RuleKind.IsNoAnswer, RuleKind.LacksItem, and_comm]

theorem finds_toggle_iff (h : ¬ f.IsMissed .boolean value) :
    ((Handler.toggle component agreement).rule f).Finds value type ↔
      f.Fails (.toggle component agreement) value type := by
  have hholds : SchemaType.holds .boolean value = true ↔ RuleKind.Holds .boolean value := by
    cases value <;> simp [SchemaType.holds, RuleKind.Holds]
  have hagree : ((Handler.toggle component agreement).rule f).mustBeTrue = true ↔
      agreement = true ∧ f.isRequired = true := Bool.and_eq_true_iff
  rw [Rule.finds_boolean_iff rfl, Rule.errorType_ofType_of_not (not_null_of_not_isMissed h), hagree,
    hholds]
  cases type <;> simp [Fails, Handler.kind, Handler.lengths, Handler.pattern, and_assoc]

end Toggle

section Number

variable {style : NumberStyle}

theorem finds_required_number_iff :
    ((Handler.number style).rule f).Finds value .required ↔ f.IsMissed .number value := by
  rw [Rule.finds_number_iff rfl, Rule.required_of_type_iff, Handler.required_rule]
  simp [IsMissed, RuleKind.IsNoAnswer, RuleKind.LacksItem, and_comm]

theorem finds_number_iff (h : ¬ f.IsMissed .number value) :
    ((Handler.number style).rule f).Finds value type ↔ f.Fails (.number style) value type := by
  have hholds : SchemaType.holds .number value = true ↔ RuleKind.Holds .number value := by
    cases value <;> simp [SchemaType.holds, RuleKind.Holds]
  have hstep : ∀ n : Number, (∃ step ∈ ((Handler.number style).rule f).effectiveStep,
      ¬ n.isMultipleOf? step = some true) ↔
        ∃ step ∈ f.step, step.isZero = false ∧ ¬ n.IsMultipleOf step := by
    intro n
    show (∃ step ∈ f.step.filter fun s => !s.isZero, _) ↔ _
    simp only [Option.mem_def, Option.filter_eq_some_iff, and_assoc, Bool.not_eq_true',
      Number.isMultipleOf_iff]
  rw [Rule.finds_number_iff rfl, Rule.errorType_ofType_of_not (not_null_of_not_isMissed h), hholds]
  cases type <;> simp [Fails, Handler.kind, Handler.lengths, Handler.pattern]
  case minimum => exact Iff.rfl
  case maximum => exact Iff.rfl
  case step => simpa using exists_congr fun n => and_congr_right fun _ => hstep n

end Number

section List

variable {style : ListStyle} {maxItems : Option Int} {fallback : List String}

/-- The items of a list are counted only where there has to be one. -/
theorem exists_leastItems_iff {entries : List Json} :
    (∃ bound ∈ ((Handler.list style maxItems fallback).rule f).leastItems,
      ¬ bound ≤ (entries.length : Int)) ↔ f.isRequired = true ∧ entries = [] := by
  have hleast : ((Handler.list style maxItems fallback).rule f).leastItems =
      if f.isRequired then some 1 else none := rfl
  rw [hleast]
  cases f.isRequired with
  | false => simp
  | true =>
    simp only [↓reduceIte, Option.mem_def, Option.some.injEq, exists_eq_left', true_and,
      ← List.length_eq_zero_iff]
    omega

theorem finds_required_list_iff :
    ((Handler.list style maxItems fallback).rule f).Finds value .required ↔
      f.IsMissed .array value := by
  rw [Rule.finds_array_iff rfl]
  simp only [Rule.required_of_type_iff, Rule.errorType_minItems_iff, Handler.required_rule]
  constructor
  · rintro (⟨hnull, hrequired⟩ | ⟨entries, rfl, ⟨entry, hentry, rfl, hrequired⟩ |
      ⟨bound, hbound, -, hempty, hrequired⟩ | ⟨bound, hbound, -, htype⟩⟩)
    · exact ⟨hrequired, .inl (.inl hnull)⟩
    · exact ⟨hrequired, .inr ⟨rfl, entries, rfl, hentry⟩⟩
    · exact ⟨hrequired, .inl (.inr hempty)⟩
    · cases htype
  · rintro ⟨hrequired, (rfl | rfl) | ⟨-, entries, rfl, hnull⟩⟩
    · exact .inl ⟨rfl, hrequired⟩
    · obtain ⟨bound, hbound, hlength⟩ := exists_leastItems_iff.2 ⟨hrequired, rfl⟩
      exact .inr ⟨[], rfl, .inr (.inl ⟨bound, hbound, hlength, rfl, hrequired⟩)⟩
    · exact .inr ⟨entries, rfl, .inl ⟨.null, hnull, rfl, hrequired⟩⟩

/-- A value is no list of texts where it is no list, or where an item is no text. -/
theorem not_holds_array_iff : ¬ RuleKind.Holds .array value ↔
    ¬ SchemaType.holds .array value = true ∨
      ∃ entries, value = .arr entries ∧
        ∃ entry ∈ entries, ¬ SchemaType.holds .string entry = true := by
  cases value with
  | arr entries =>
    have hrange : RuleKind.Holds .array (.arr entries) ↔
        entries ∈ Set.range (List.map Json.str) := by
      simp only [RuleKind.Holds, Json.arr.injEq, Set.mem_range, eq_comm]
    have htext : ∀ entry : Json,
        SchemaType.holds .string entry = true ↔ entry ∈ Set.range Json.str := by
      intro entry
      cases entry <;> simp [SchemaType.holds]
    have hlist : SchemaType.holds .array (.arr entries) = true := rfl
    rw [hrange, Set.range_list_map]
    simp only [htext, hlist, not_true, false_or, Json.arr.injEq, exists_eq_left', Set.mem_ofPred_eq,
      not_forall, exists_prop]
  | _ => simp [RuleKind.Holds, SchemaType.holds]

theorem finds_list_iff (h : ¬ f.IsMissed .array value) :
    ((Handler.list style maxItems fallback).rule f).Finds value type ↔
      f.Fails (.list style maxItems fallback) value type := by
  rw [Rule.finds_array_iff rfl, Rule.errorType_ofType_of_not (not_null_of_not_isMissed h)]
  have hitem : ∀ entries, value = .arr entries → ∀ entry ∈ entries,
      ((Handler.list style maxItems fallback).rule f).errorType (.ofType .string) entry =
        .wrongType := by
    rintro entries rfl entry hentry
    refine Rule.errorType_ofType_of_not ?_
    rintro ⟨rfl, hrequired⟩
    exact h ⟨hrequired, .inr ⟨rfl, entries, rfl, hentry⟩⟩
  constructor
  · rintro (⟨hnot, rfl⟩ | ⟨entries, hvalue, ⟨entry, hentry, hnot, htype⟩ |
      ⟨bound, hbound, hcount, -⟩ | ⟨bound, hbound, hcount, rfl⟩⟩)
    · exact not_holds_array_iff.2 (.inl hnot)
    · rw [← htype, hitem entries hvalue entry hentry]
      exact not_holds_array_iff.2 (.inr ⟨entries, hvalue, entry, hentry, hnot⟩)
    · obtain ⟨hrequired, rfl⟩ := exists_leastItems_iff.1 ⟨bound, hbound, hcount⟩
      exact absurd ⟨hrequired, .inl (.inr hvalue)⟩ h
    · obtain rfl : maxItems = some bound := hbound
      exact ⟨style, bound, fallback, rfl, entries, hvalue, hcount⟩
  · intro hfails
    cases type with
    | wrongType =>
      rcases not_holds_array_iff.1 hfails with hnot | ⟨entries, hvalue, entry, hentry, hnot⟩
      · exact .inl ⟨hnot, rfl⟩
      · exact .inr ⟨entries, hvalue, .inl ⟨entry, hentry, hnot, hitem entries hvalue entry hentry⟩⟩
    | maxItems =>
      obtain ⟨_, bound, _, hhandler, entries, hvalue, hcount⟩ := hfails
      cases hhandler
      exact .inr ⟨entries, hvalue, .inr (.inr ⟨bound, rfl, hcount, rfl⟩)⟩
    | _ => simp [Fails, Handler.kind, Handler.lengths, Handler.pattern] at hfails

end List

section Text

/-- A text that a variant has bounds for is held against them where it is examined. -/
theorem not_skips_rule_iff {s : String} : ¬ (handler.rule f).Skips (.str s) ↔
    ((∃ bound, handler.lengths.1 = some bound) ∨ (∃ bound, handler.lengths.2 = some bound) ∨
      (∃ written, handler.pattern = some written) ∨ handler.kind = .date → f.Examines s) := by
  have hbounds : (handler.rule f).hasShapeConstraints = true ↔
      (∃ bound, handler.lengths.1 = some bound) ∨ (∃ bound, handler.lengths.2 = some bound) ∨
        (∃ written, handler.pattern = some written) ∨ handler.kind = .date := by
    simp only [Rule.hasShapeConstraints, Handler.minLength_rule, Handler.maxLength_rule,
      Handler.pattern_rule, Handler.kind_rule, Bool.or_eq_true, Option.isSome_iff_exists,
      beq_iff_eq, or_assoc]
  have hexamines : f.Examines s ↔ ¬ (f.isRequired = false ∧ s = "") := by
    rw [Examines, not_and_or, Bool.not_eq_false]
  rw [Rule.Skips, Handler.required_rule, hbounds, Json.str.injEq, hexamines, and_left_comm, not_and]

/-- A text that is held against a pattern and does not have it. -/
theorem exists_pattern_iff (hown : handler.HasOwnPattern) {s : String} :
    (∃ written ∈ (handler.rule f).patterns, ¬ Pattern.find written s = .ok true ∧
        (handler.rule f).errorType (.pattern written) value = type) ↔
      (f.isRequired = true ∧ (∀ c ∈ s.toList, isBlank c = true) ∧ type = .required) ∨
        ((∃ written ∈ handler.pattern, ¬ Pattern.find written s = .ok true) ∧ type = .pattern) ∨
          handler.kind = .date ∧ ¬ Pattern.find datePattern s = .ok true ∧ type = .format := by
  have hblank : ¬ Pattern.find nonBlankPattern s = .ok true ↔ ∀ c ∈ s.toList, isBlank c = true := by
    rw [Pattern.find_nonBlank_iff]
    simp
  have howned : (∃ written ∈ handler.pattern, written ≠ "" ∧ ¬ Pattern.find written s = .ok true ∧
      (handler.rule f).errorType (.pattern written) value = type) ↔
        (∃ written ∈ handler.pattern, ¬ Pattern.find written s = .ok true) ∧ type = .pattern := by
    have herror : ∀ written ∈ handler.pattern,
        (handler.rule f).errorType (.pattern written) value = .pattern := by
      intro written hwritten
      obtain ⟨-, hnonBlank, hdate⟩ := hown written hwritten
      rw [Rule.errorType, if_neg hnonBlank, if_neg hdate]
    constructor
    · rintro ⟨written, hwritten, -, hnot, rfl⟩
      exact ⟨⟨written, hwritten, hnot⟩, herror written hwritten⟩
    · rintro ⟨⟨written, hwritten, hnot⟩, rfl⟩
      exact ⟨written, hwritten, (hown written hwritten).1, hnot, herror written hwritten⟩
  have hrequired : (handler.rule f).errorType (.pattern nonBlankPattern) value = .required := by
    rw [Rule.errorType, if_pos rfl]
  have hdate : (handler.rule f).errorType (.pattern datePattern) value = .format := by
    rw [Rule.errorType, if_neg (by decide), if_pos rfl]
  rw [Rule.exists_mem_patterns_iff, Handler.required_rule, Handler.pattern_rule, Handler.kind_rule,
    howned, hblank, hrequired, hdate, @eq_comm _ ErrorType.required, @eq_comm _ ErrorType.format]

theorem finds_required_text_iff (hkind : handler.kind = .string ∨ handler.kind = .date)
    (hown : handler.HasOwnPattern) :
    (handler.rule f).Finds value .required ↔ f.IsMissed handler.kind value := by
  have hmissed : f.IsMissed handler.kind value ↔ f.isRequired = true ∧
      (value = .null ∨ ∃ s, value = .str s ∧ ∀ c ∈ s.toList, isBlank c = true) := by
    rcases hkind with hkind | hkind <;>
      simp [IsMissed, hkind, RuleKind.IsNoAnswer, RuleKind.LacksItem]
  rw [Rule.finds_text_iff (Handler.kind_rule ▸ hkind), Rule.required_of_type_iff, hmissed,
    Handler.required_rule]
  simp only [exists_pattern_iff hown]
  constructor
  · rintro ⟨-, ⟨hnull, hrequired⟩ | ⟨s, rfl, hfound⟩⟩
    · exact ⟨hrequired, .inl hnull⟩
    · obtain ⟨hrequired, hblank⟩ : f.isRequired = true ∧ ∀ c ∈ s.toList, isBlank c = true := by
        simpa using hfound
      exact ⟨hrequired, .inr ⟨s, rfl, hblank⟩⟩
  · rintro ⟨hrequired, rfl | ⟨s, rfl, hblank⟩⟩
    · exact ⟨by simp [Rule.Skips], .inl ⟨rfl, hrequired⟩⟩
    · exact ⟨not_skips_rule_iff.2 fun _ => .inl hrequired,
        .inr ⟨s, rfl, .inr (.inr (.inl ⟨hrequired, hblank, trivial⟩))⟩⟩

theorem finds_text_iff (hkind : handler.kind = .string ∨ handler.kind = .date)
    (hown : handler.HasOwnPattern) (h : ¬ f.IsMissed handler.kind value) :
    (handler.rule f).Finds value type ↔ f.Fails handler value type := by
  have hholds : SchemaType.holds .string value = true ↔ handler.kind.Holds value := by
    rcases hkind with hkind | hkind <;> cases value <;>
      simp [hkind, SchemaType.holds, RuleKind.Holds]
  rw [Rule.finds_text_iff (Handler.kind_rule ▸ hkind), Rule.errorType_ofType_of_not
    (Handler.required_rule ▸ not_null_of_not_isMissed h), hholds, Handler.minLength_rule,
    Handler.maxLength_rule]
  simp only [exists_pattern_iff hown]
  constructor
  · rintro ⟨hskips, ⟨hnot, rfl⟩ | ⟨s, rfl, hfound⟩⟩
    · exact hnot
    have hexamines := not_skips_rule_iff.1 hskips
    rcases hfound with ⟨bound, hbound, hlength, rfl⟩ | ⟨bound, hbound, hlength, rfl⟩ |
      ⟨hrequired, hblank, rfl⟩ | ⟨⟨written, hwritten, hnot⟩, rfl⟩ | ⟨hdate, hnot, rfl⟩
    · exact ⟨s, rfl, hexamines (.inl ⟨bound, hbound⟩), bound, hbound, hlength⟩
    · exact ⟨s, rfl, hexamines (.inr (.inl ⟨bound, hbound⟩)), bound, hbound, hlength⟩
    · refine absurd ⟨hrequired, .inl ?_⟩ h
      rcases hkind with hkind | hkind <;> exact hkind ▸ .inr ⟨s, rfl, hblank⟩
    · exact ⟨s, rfl, hexamines (.inr (.inr (.inl ⟨written, hwritten⟩))), written, hwritten, hnot⟩
    · exact ⟨s, rfl, hexamines (.inr (.inr (.inr hdate))), hdate, hnot⟩
  · intro hfails
    have hno : ∀ {s : String}, f.Examines s → ¬ (handler.rule f).Skips (.str s) :=
      fun hexamines => not_skips_rule_iff.2 fun _ => hexamines
    have hnumber : handler.kind ≠ .number := by rcases hkind with hkind | hkind <;> simp [hkind]
    cases type with
    | wrongType =>
      refine ⟨?_, .inl ⟨hfails, rfl⟩⟩
      rintro ⟨-, -, rfl⟩
      exact hfails (hholds.1 rfl)
    | minLength =>
      obtain ⟨s, rfl, hexamines, bound, hbound, hlength⟩ := hfails
      exact ⟨hno hexamines, .inr ⟨s, rfl, .inl ⟨bound, hbound, hlength, rfl⟩⟩⟩
    | maxLength =>
      obtain ⟨s, rfl, hexamines, bound, hbound, hlength⟩ := hfails
      exact ⟨hno hexamines, .inr ⟨s, rfl, .inr (.inl ⟨bound, hbound, hlength, rfl⟩)⟩⟩
    | pattern =>
      obtain ⟨s, rfl, hexamines, hnot⟩ := hfails
      exact ⟨hno hexamines, .inr ⟨s, rfl, .inr (.inr (.inr (.inl ⟨hnot, rfl⟩)))⟩⟩
    | format =>
      obtain ⟨s, rfl, hexamines, hdate, hnot⟩ := hfails
      exact ⟨hno hexamines, .inr ⟨s, rfl, .inr (.inr (.inr (.inr ⟨hdate, hnot, rfl⟩)))⟩⟩
    | minimum | maximum | step => exact absurd hfails.1 hnumber
    | maxItems =>
      obtain ⟨_, _, _, rfl, -⟩ := hfails
      rcases hkind with hkind | hkind <;> cases hkind
    | mustBeTrue =>
      obtain ⟨_, rfl, -⟩ := hfails
      rcases hkind with hkind | hkind <;> cases hkind
    | required | minItems => exact hfails.elim

end Text

/-! ## The errors of a field -/

/-- The kind of answer that a field takes. A field of an unknown variant takes any. -/
def kind (variants : VariantTable) (f : Field) : RuleKind :=
  ((variants.get? f.variant).map Handler.kind).getD .any

/-- **An error that an answer is required** is found in the answers that stand for none, and in
those that lack an item. -/
theorem finds_required_iff :
    (f.rule Handler.builtin).Finds value .required ↔ f.IsMissed (f.kind Handler.builtin) value := by
  unfold Field.rule Field.kind
  cases hget : Handler.builtin.get? f.variant with
  | none =>
    show (Rule.plain f.name f.variant f.label .any f.isRequired).Finds value .required ↔ _
    rw [Rule.finds_any_iff rfl]
    simp [IsMissed, RuleKind.IsNoAnswer, RuleKind.LacksItem, Rule.plain]
  | some handler =>
    have hown := Handler.hasOwnPattern_builtin hget
    cases handler with
    | toggle component agreement => exact finds_required_toggle_iff
    | number style => exact finds_required_number_iff
    | list style maxItems fallback => exact finds_required_list_iff
    | date style => exact finds_required_text_iff (.inr rfl) hown
    | _ => exact finds_required_text_iff (.inl rfl) hown

/-- **The other errors** are those by which a value fails. -/
theorem finds_iff (h : ¬ f.IsMissed (f.kind Handler.builtin) value) :
    (f.rule Handler.builtin).Finds value type ↔
      ∃ handler, Handler.builtin.get? f.variant = some handler ∧ f.Fails handler value type := by
  unfold Field.rule
  unfold Field.kind at h
  cases hget : Handler.builtin.get? f.variant with
  | none =>
    rw [hget] at h
    show (Rule.plain f.name f.variant f.label .any f.isRequired).Finds value type ↔ _
    rw [Rule.finds_any_iff rfl]
    refine iff_of_false ?_ (by simp)
    rintro ⟨⟨hrequired, hnone⟩, -⟩
    exact h ⟨hrequired, .inl hnone⟩
  | some handler =>
    rw [hget] at h
    have hown := Handler.hasOwnPattern_builtin hget
    simp only [Option.some.injEq, exists_eq_left']
    cases handler with
    | toggle component agreement => exact finds_toggle_iff h
    | number style => exact finds_number_iff h
    | list style maxItems fallback => exact finds_list_iff h
    | date style => exact finds_text_iff (.inr rfl) hown h
    | _ => exact finds_text_iff (.inl rfl) hown h

/-- **A field is told nothing** of the values that it asks for. -/
theorem check_eq_nil_iff :
    (f.rule Handler.builtin).check (some value) = .ok [] ↔
      f.IsValue Number.IsMultipleOf (Handler.builtin.get? f.variant) value :=
  (Rule.check_eq_nil_iff fun _ => hasReadablePatterns_rule f).trans accepts_rule_iff

end Field

namespace Form

variable {text : String} {form : Form} {data : Members} {result : Validation} {f : Field}

/-- **A field is told that it is required** exactly where it has to be answered and is not, or where
its answer is a list with `null` in place of an item. Where it is not told so, it is told just those
types of error by which its answer fails. -/
theorem tells_required_iff (himport : ofText text = .ok form)
    (hvalidate : (form.spec Handler.builtin).validate data = .ok result) (hf : f ∈ form.fields) :
    (result.Tells f.name .required ↔ f.isRequired = true ∧
        ((f.kind Handler.builtin).IsUnanswered (data.get? f.name) ∨
          ∃ value, data.get? f.name = some value ∧ (f.kind Handler.builtin).LacksItem value)) ∧
      ∀ type, type ≠ .required → (result.Tells f.name type ↔
        ¬ result.Tells f.name .required ∧ ∃ value handler, data.get? f.name = some value ∧
          Handler.builtin.get? f.variant = some handler ∧ f.Fails handler value type) := by
  have hnames : (form.spec Handler.builtin).fieldNames.Nodup := by
    rw [spec_fieldNames]
    exact names_nodup_of_ofText himport
  have hrule : f.rule Handler.builtin ∈ (form.spec Handler.builtin).rules := List.mem_map_of_mem hf
  have hname : (f.rule Handler.builtin).name = f.name := Field.name_rule
  cases hvalue : data.get? f.name with
  | none =>
    have htells := fun type => Spec.tells_none_iff hnames hvalidate hrule (hname ▸ hvalue) type
    simp only [hname, Field.required_rule] at htells
    refine ⟨?_, fun type htype => ?_⟩
    · rw [htells]
      simp [RuleKind.IsUnanswered]
    · rw [htells]
      simp [htype]
  | some value =>
    have htells := fun type => Spec.tells_some_iff hnames hvalidate hrule (hname ▸ hvalue) type
    rw [hname] at htells
    have hrequired : result.Tells f.name .required ↔ f.IsMissed (f.kind Handler.builtin) value := by
      rw [htells, Field.finds_required_iff]
      simp
    refine ⟨?_, fun type htype => ?_⟩
    · rw [hrequired]
      simp [Field.IsMissed, RuleKind.IsUnanswered]
    · rw [hrequired, htells, or_iff_right htype, Field.finds_required_iff, and_comm]
      refine and_congr_right fun hnot => ?_
      rw [Field.finds_iff hnot]
      simp

/-- A list with a text and `null` counts as no answer, although it is one. -/
theorem tells_required_of_null_item :
    let text := "[\x7b\"variant\":\"Tags Input\",\"name\":\"a\",\"required\":true\x7d]"
    let data : Members := [("a", .arr [.str "x", .null])]
    ∃ form result f, ofText text = .ok form ∧
      (form.spec Handler.builtin).validate data = .ok result ∧ f ∈ form.fields ∧
        result.Tells f.name .required ∧ ¬ result.Tells f.name .wrongType ∧
          ¬ (f.kind Handler.builtin).IsUnanswered (data.get? f.name) := by
  intro text data
  have hfirst : ((ofText text).toOption.bind fun form => form.fields.head?.bind fun f =>
      ((form.spec Handler.builtin).validate data).toOption.map fun _ =>
        (f.name, f.isRequired, f.kind Handler.builtin)) = some ("a", true, .array) := by
    decide +kernel
  obtain ⟨form, himport, hfirst⟩ := Option.bind_eq_some_iff.1 hfirst
  obtain ⟨f, hf, hfirst⟩ := Option.bind_eq_some_iff.1 hfirst
  obtain ⟨result, hresult, hfirst⟩ := Option.map_eq_some_iff.1 hfirst
  replace himport := toOption_eq_some_iff.1 himport
  replace hresult := toOption_eq_some_iff.1 hresult
  replace hf := List.mem_of_mem_head? hf
  simp only [Prod.mk.injEq] at hfirst
  obtain ⟨hname, hrequired, hkind⟩ := hfirst
  obtain ⟨htold, hothers⟩ := tells_required_iff himport hresult hf
  have hget : data.get? f.name = some (.arr [.str "x", .null]) := by rw [hname]; rfl
  have hlacks : (f.kind Handler.builtin).LacksItem (.arr [.str "x", .null]) :=
    ⟨hkind, _, rfl, by simp⟩
  have htells : result.Tells f.name .required := htold.2 ⟨hrequired, .inr ⟨_, hget, hlacks⟩⟩
  refine ⟨form, result, f, himport, hresult, hf, htells, fun hwrong => ?_, ?_⟩
  · exact ((hothers .wrongType nofun).1 hwrong).1 htells
  · rw [hget, hkind]
    simp [RuleKind.IsUnanswered, RuleKind.IsNoAnswer]

end Form

end FormStudio
