import FormStudio.Code.Zod
import FormStudio.Proofs.Code.Literal
import FormStudio.Proofs.Outcome
import FormStudio.Proofs.Rule.Answer

/-!
# What a chain of a validator accepts

A chain accepts a value that has the type it starts from and passes every check, the empty text or
the absent value where the chain lets them pass (`Zod.Accepts`). The numbers and patterns in a check
are those that its text denotes. The chain of a rule accepts what the rule admits
(`Rule.zod_accepts_iff`), unless a whole binary step has lost its spelling and the number is so
large or so close to zero that this makes a difference.
-/
namespace FormStudio

/-! ## Acceptance -/

/-- What a bound speaks of: the length of a text, the count of items, or the number itself. -/
def Json.size? : Json → Option Number
  | .str s => some (.int s.length)
  | .arr entries => some (.int entries.length)
  | .num n => some n
  | _ => none

/-- Whether a value, or none, has the type that a chain starts from. -/
def ZodBase.Accepts : ZodBase → Option Json → Prop
  | .string, value => ∃ s, value = some (.str s)
  | .number, value => ∃ n, value = some (.num n)
  | .boolean, value => ∃ b, value = some (.bool b)
  | .strings, value =>
    ∃ entries, value = some (.arr entries) ∧ ∀ entry ∈ entries, ∃ s, entry = .str s
  | .any, _ => True

/-- Whether a value of the type of a chain, or none, passes a check. -/
def ZodCheck.Accepts : ZodCheck → Option Json → Prop
  | .nonBlank _, value => ∃ s, value = some (.str s) ∧ Pattern.find nonBlankPattern s = .ok true
  | .regex written _, value =>
    ∃ pattern s, Script.text? (textLiteral written) = some pattern ∧ value = some (.str s) ∧
      Pattern.find pattern s = .ok true
  | .min bound _, value =>
    ∃ b size, Script.number? bound.literal = some b ∧ value.bind Json.size? = some size ∧
      b.le size = true
  | .max bound _, value =>
    ∃ b size, Script.number? bound.literal = some b ∧ value.bind Json.size? = some size ∧
      size.le b = true
  | .multipleOf step _, value =>
    ∃ s n, Script.number? step.literal = some s ∧ value = some (.num n) ∧
      n.isMultipleOf? s = some true
  | .isTrue _, value => value = some (.bool true)
  | .present _, value =>
    value ≠ none ∧ value ≠ some .null ∧ value ≠ some (.str "") ∧ value ≠ some (.arr [])

/-- Whether a chain accepts a value, or that there is none. -/
def Zod.Accepts (chain : Zod) (value : Option Json) : Prop :=
  chain.base.Accepts value ∧ (∀ check ∈ chain.checks, check.Accepts value) ∨
    chain.orEmpty = true ∧ value = some (.str "") ∨ chain.optional = true ∧ value = none

/-! ## Checks -/

namespace ZodCheck

variable {bound step n size : Number} {least most count : Int} {message : String} {value : Json}

theorem accepts_nonBlank_iff {s : String} :
    (nonBlank message).Accepts (some (.str s)) ↔ Pattern.find nonBlankPattern s = .ok true := by
  simp [Accepts]

theorem accepts_regex_iff {written s : String} :
    (regex written message).Accepts (some (.str s)) ↔ Pattern.find written s = .ok true := by
  simp [Accepts, Script.text?_textLiteral]

theorem accepts_min_iff (h : bound.isFinite = true) (hsize : value.size? = some size) :
    (min bound message).Accepts (some value) ↔ bound.le size = true := by
  simp [Accepts, Number.number?_literal h, hsize, (Number.written_le_iff h).1]

theorem accepts_max_iff (h : bound.isFinite = true) (hsize : value.size? = some size) :
    (max bound message).Accepts (some value) ↔ size.le bound = true := by
  simp [Accepts, Number.number?_literal h, hsize, (Number.written_le_iff h).2]

theorem accepts_min_int_iff (hsize : value.size? = some (.int count)) :
    (min (.int least) message).Accepts (some value) ↔ least ≤ count :=
  (accepts_min_iff rfl hsize).trans (Number.le_int_iff least count)

theorem accepts_max_int_iff (hsize : value.size? = some (.int count)) :
    (max (.int most) message).Accepts (some value) ↔ count ≤ most :=
  (accepts_max_iff rfl hsize).trans (Number.le_int_iff count most)

theorem accepts_multipleOf_iff (h : step.isFinite = true) :
    (multipleOf step message).Accepts (some (.num n)) ↔
      n.isMultipleOf? step.written = some true := by
  simp [Accepts, Number.number?_literal h]

end ZodCheck

/-! ## Chains of rules -/

theorem Pattern.find_empty (s : String) : Pattern.find "" s = .ok true := by
  have hread : Pattern.read "" = .ok .empty := rfl
  have hstart : Place.start s ∈ (Place.start s).onward := by
    unfold Place.onward Place.start
    cases s.toList <;> simp [Place.onward.go]
  have hfound : Pattern.empty.search s = true :=
    Pattern.search_iff.2 ⟨_, hstart, ⟨Place.start s, []⟩, List.mem_singleton.2 rfl⟩
  rw [Pattern.find_of_read hread, hfound]

namespace Rule

variable {rule : Rule} {value : Option Json} {links : List ZodCheck}

/-- A bound that is there is one link, and a bound that is absent is none. -/
theorem accepts_boundCheck {α : Type} {bound : Option α} {type : ErrorType}
    {check : α → String → ZodCheck} {P : α → Prop} (value : Option Json)
    (h : rule.boundCheck bound type check = .ok links)
    (hcheck : ∀ b ∈ bound, ∀ message, (check b message).Accepts value ↔ P b) :
    (∀ link ∈ links, link.Accepts value) ↔ ∀ b ∈ bound, P b := by
  cases bound with
  | none =>
    cases h
    simp
  | some b =>
    obtain ⟨message, -, h⟩ := bind_eq_ok_iff.1 h
    cases h
    simpa using hcheck b rfl message

theorem accepts_checkIf {condition : Bool} {type : ErrorType} {check : String → ZodCheck}
    {P : Prop} (value : Option Json) (h : rule.checkIf condition type check = .ok links)
    (hcheck : ∀ message, (check message).Accepts value ↔ P) :
    (∀ link ∈ links, link.Accepts value) ↔ (condition = true → P) := by
  rw [accepts_boundCheck (P := fun _ => P) value h fun _ _ => hcheck]
  cases condition <;> simp

/-- The patterns of a text, with an empty one among them: it is found in every text. -/
theorem forall_patterns_iff {s : String} :
    (∀ written ∈ rule.patterns, Pattern.find written s = .ok true) ↔
      (rule.required = true → Pattern.find nonBlankPattern s = .ok true) ∧
        (∀ written ∈ rule.pattern, Pattern.find written s = .ok true) ∧
          (rule.kind = .date → Pattern.find datePattern s = .ok true) := by
  have hpattern : (∀ written ∈ (rule.pattern.filter (· != "")).toList,
      Pattern.find written s = .ok true) ↔
        ∀ written ∈ rule.pattern, Pattern.find written s = .ok true := by
    cases rule.pattern with
    | none => simp
    | some written =>
      by_cases h : written = ""
      · simp [h, Pattern.find_empty]
      · simp [h]
  have hgiven : ∀ {condition : Prop} [Decidable condition] {written : String},
      (∀ w ∈ if condition then [written] else [], Pattern.find w s = .ok true) ↔
        (condition → Pattern.find written s = .ok true) := by
    intro condition _ written
    split
    · next h => simp [h]
    · next h => simp [h]
  rw [patterns, List.forall_mem_append, List.forall_mem_append, hgiven, hpattern, hgiven, and_assoc]

/-- A chain of a rule that starts from a type: what it asks of a value of the type, and that a rule
without a required answer lets the value be absent. -/
theorem accepts_typed {α : Type} {make : α → Json} {P : α → Prop} {base : ZodBase}
    (orEmpty : Bool) (hbase : ∀ value, base.Accepts value → ∃ a, value = some (make a))
    (hvalue : ∀ a, value = some (make a) →
      (base.Accepts (some (make a)) ∧ (∀ link ∈ links, link.Accepts (some (make a))) ↔ P a)) :
    Zod.Accepts ⟨base, links, orEmpty, !rule.required⟩ value ↔
      (∃ a, value = some (make a) ∧ P a) ∨ orEmpty = true ∧ value = some (.str "") ∨
        rule.required = false ∧ value = none := by
  have htyped : base.Accepts value ∧ (∀ link ∈ links, link.Accepts value) ↔
      ∃ a, value = some (make a) ∧ P a := by
    constructor
    · rintro ⟨htype, hlinks⟩
      obtain ⟨a, rfl⟩ := hbase value htype
      exact ⟨a, rfl, (hvalue a rfl).1 ⟨htype, hlinks⟩⟩
    · rintro ⟨a, rfl, ha⟩
      exact (hvalue a rfl).2 ha
  rw [Zod.Accepts, htyped, Bool.not_eq_true']

variable {chain : Zod}

theorem accepts_textZod (h : rule.textZod = .ok chain) :
    chain.Accepts value ↔ (∃ s, value = some (.str s) ∧ (rule.HasShape s ∨
      rule.required = false ∧ rule.hasShapeConstraints = true ∧ s = "")) ∨
        rule.required = false ∧ value = none := by
  obtain ⟨given, hgiven, h⟩ := bind_eq_ok_iff.1 h
  obtain ⟨least, hleast, h⟩ := bind_eq_ok_iff.1 h
  obtain ⟨most, hmost, h⟩ := bind_eq_ok_iff.1 h
  obtain ⟨shaped, hshaped, h⟩ := bind_eq_ok_iff.1 h
  obtain ⟨dated, hdated, h⟩ := bind_eq_ok_iff.1 h
  cases h
  have hvalue : ∀ s, value = some (.str s) → (ZodBase.Accepts .string (some (.str s)) ∧
      (∀ link ∈ given ++ least ++ most ++ shaped ++ dated, link.Accepts (some (.str s))) ↔
        rule.HasShape s) := by
    rintro s rfl
    have hgiven := accepts_checkIf (some (.str s)) hgiven fun _ => ZodCheck.accepts_nonBlank_iff
    have hleast := accepts_boundCheck (some (.str s)) hleast fun _ _ _ =>
      ZodCheck.accepts_min_int_iff rfl
    have hmost := accepts_boundCheck (some (.str s)) hmost fun _ _ _ =>
      ZodCheck.accepts_max_int_iff rfl
    have hshaped := accepts_boundCheck (some (.str s)) hshaped fun _ _ _ =>
      ZodCheck.accepts_regex_iff
    have hdated := accepts_checkIf (some (.str s)) hdated fun _ => ZodCheck.accepts_regex_iff
    simp only [List.forall_mem_append, hgiven, hleast, hmost, hshaped, hdated, beq_iff_eq]
    constructor
    · rintro ⟨-, ⟨⟨⟨hgiven, hleast⟩, hmost⟩, hshaped⟩, hdated⟩
      exact ⟨hleast, hmost, forall_patterns_iff.2 ⟨hgiven, hshaped, hdated⟩⟩
    · intro h
      obtain ⟨hgiven, hshaped, hdated⟩ := forall_patterns_iff.1 h.patterns
      exact ⟨⟨s, rfl⟩, ⟨⟨⟨hgiven, h.least⟩, h.most⟩, hshaped⟩, hdated⟩
  rw [accepts_typed _ (fun _ => id) hvalue, ← or_assoc, Bool.and_eq_true, Bool.not_eq_true']
  refine or_congr_left ?_
  constructor
  · rintro (⟨s, rfl, hs⟩ | ⟨⟨hrequired, hshape⟩, rfl⟩)
    · exact ⟨s, rfl, .inl hs⟩
    · exact ⟨"", rfl, .inr ⟨hrequired, hshape, rfl⟩⟩
  · rintro ⟨s, rfl, hs | ⟨hrequired, hshape, rfl⟩⟩
    · exact .inl ⟨s, rfl, hs⟩
    · exact .inr ⟨⟨hrequired, hshape⟩, rfl⟩

/-- The bounds that are written as numbers are finite. -/
structure HasFiniteBounds (rule : Rule) : Prop where
  least : ∀ bound ∈ rule.minimum, bound.isFinite = true
  most : ∀ bound ∈ rule.maximum, bound.isFinite = true
  step : ∀ step ∈ rule.step, step.isFinite = true

/-- Where a rule has a whole binary step, the number that is divided by it is moderate. -/
def HasModerate (rule : Rule) (value : Option Json) : Prop :=
  ∀ x n, rule.step = some (.float x) → x.isWhole = true → value = some (.num n) → n.IsModerate

theorem accepts_numberZod (h : rule.numberZod = .ok chain) (hfinite : rule.HasFiniteBounds)
    (hmoderate : rule.HasModerate value) :
    chain.Accepts value ↔ (∃ n, value = some (.num n) ∧ rule.HasSize n) ∨
      rule.required = false ∧ value = none := by
  obtain ⟨least, hleast, h⟩ := bind_eq_ok_iff.1 h
  obtain ⟨most, hmost, h⟩ := bind_eq_ok_iff.1 h
  obtain ⟨stepped, hstepped, h⟩ := bind_eq_ok_iff.1 h
  cases h
  have hvalue : ∀ n, value = some (.num n) → (ZodBase.Accepts .number (some (.num n)) ∧
      (∀ link ∈ least ++ most ++ stepped, link.Accepts (some (.num n))) ↔ rule.HasSize n) := by
    rintro n rfl
    have hleast := accepts_boundCheck (some (.num n)) hleast fun b hb message =>
      ZodCheck.accepts_min_iff (hfinite.least b hb) rfl
    have hmost := accepts_boundCheck (some (.num n)) hmost fun b hb message =>
      ZodCheck.accepts_max_iff (hfinite.most b hb) rfl
    have hstepped := accepts_boundCheck (some (.num n)) hstepped fun step hstep message => by
      obtain ⟨hstep, hzero⟩ := Option.mem_filter_iff.1 hstep
      have hdivides := Number.isMultipleOf?_written (n := n) (by simpa using hzero) fun hwhole => by
        obtain ⟨x, rfl, hwhole⟩ := hwhole
        exact hmoderate x n hstep hwhole rfl
      exact hdivides ▸ ZodCheck.accepts_multipleOf_iff (hfinite.step step hstep)
    simp only [List.forall_mem_append, hleast, hmost, hstepped]
    constructor
    · rintro ⟨-, ⟨hleast, hmost⟩, hstep⟩
      exact ⟨hleast, hmost, hstep⟩
    · intro h
      exact ⟨⟨n, rfl⟩, ⟨h.least, h.most⟩, h.step⟩
  simpa using accepts_typed false (fun _ => id) hvalue

theorem accepts_booleanZod (h : rule.booleanZod = .ok chain) :
    chain.Accepts value ↔
      (∃ b, value = some (.bool b) ∧ (rule.mustBeTrue = true → b = true)) ∨
        rule.required = false ∧ value = none := by
  obtain ⟨agreed, hagreed, h⟩ := bind_eq_ok_iff.1 h
  cases h
  have hvalue : ∀ b, value = some (.bool b) → (ZodBase.Accepts .boolean (some (.bool b)) ∧
      (∀ link ∈ agreed, link.Accepts (some (.bool b))) ↔ (rule.mustBeTrue = true → b = true)) := by
    rintro b rfl
    rw [accepts_checkIf (some (.bool b)) hagreed fun _ => Iff.rfl]
    simp [ZodBase.Accepts]
  simpa using accepts_typed false (fun _ => id) hvalue

/-- Of the bounds on a count of items, the greater one counts. -/
theorem forall_leastItems_iff (rule : Rule) (count : Int) :
    (∀ bound ∈ rule.leastItems, bound ≤ count) ↔
      (rule.required = true → 1 ≤ count) ∧ ∀ bound ∈ rule.minItems, bound ≤ count := by
  unfold leastItems
  cases rule.required with
  | false => simp
  | true =>
    cases rule.minItems with
    | none =>
      have hone : max (0 : Int) 1 = 1 := rfl
      rw [if_pos rfl, Option.getD_none, hone]
      simp
    | some least =>
      have hgreater : max least 1 ≤ count ↔ 1 ≤ count ∧ least ≤ count := Int.max_le.trans and_comm
      simpa using hgreater

theorem accepts_arrayZod (h : rule.arrayZod = .ok chain) :
    chain.Accepts value ↔ (∃ entries, value = some (.arr entries) ∧ rule.HasItems entries) ∨
      rule.required = false ∧ value = none := by
  obtain ⟨given, hgiven, h⟩ := bind_eq_ok_iff.1 h
  obtain ⟨least, hleast, h⟩ := bind_eq_ok_iff.1 h
  obtain ⟨most, hmost, h⟩ := bind_eq_ok_iff.1 h
  cases h
  have hvalue : ∀ entries, value = some (.arr entries) →
      (ZodBase.Accepts .strings (some (.arr entries)) ∧
        (∀ link ∈ given ++ least ++ most, link.Accepts (some (.arr entries))) ↔
          rule.HasItems entries) := by
    rintro entries rfl
    have hgiven := accepts_checkIf (some (.arr entries)) hgiven fun _ =>
      ZodCheck.accepts_min_int_iff rfl
    have hleast := accepts_boundCheck (some (.arr entries)) hleast fun _ _ _ =>
      ZodCheck.accepts_min_int_iff rfl
    have hmost := accepts_boundCheck (some (.arr entries)) hmost fun _ _ _ =>
      ZodCheck.accepts_max_int_iff rfl
    have hitems := rule.forall_leastItems_iff entries.length
    have htexts : ZodBase.Accepts .strings (some (.arr entries)) ↔
        ∀ entry ∈ entries, ∃ s, entry = .str s := by simp [ZodBase.Accepts]
    simp only [List.forall_mem_append, hgiven, hleast, hmost, htexts, ← hitems]
    constructor
    · rintro ⟨htexts, hleast, hmost⟩
      exact ⟨htexts, hleast, hmost⟩
    · intro h
      exact ⟨h.texts, h.least, h.most⟩
  refine (accepts_typed false ?_ hvalue).trans (by simp)
  rintro _ ⟨entries, rfl, -⟩
  exact ⟨entries, rfl⟩

theorem accepts_anyZod (h : rule.anyZod = .ok chain) :
    chain.Accepts value ↔
      (rule.required = true → value ≠ none ∧ value ≠ some .null ∧ value ≠ some (.str "") ∧
        value ≠ some (.arr [])) := by
  obtain ⟨given, hgiven, h⟩ := bind_eq_ok_iff.1 h
  cases h
  have hgiven := accepts_checkIf value hgiven fun _ => Iff.rfl
  simp [Zod.Accepts, ZodBase.Accepts, hgiven]

/-- **The chain of a rule** accepts what the rule admits. -/
theorem zod_accepts_iff (h : rule.zod = .ok chain)
    (hfinite : rule.kind = .number → rule.HasFiniteBounds)
    (hmoderate : rule.HasModerate value) : chain.Accepts value ↔ rule.Admits value := by
  unfold zod at h
  unfold Admits Accepts
  cases hkind : rule.kind with
  | string =>
    rw [hkind] at h
    rw [accepts_textZod h]
    cases value <;> simp
  | date =>
    rw [hkind] at h
    rw [accepts_textZod h]
    cases value <;> simp
  | number =>
    rw [hkind] at h
    rw [accepts_numberZod h (hfinite hkind) hmoderate]
    cases value <;> simp
  | boolean =>
    rw [hkind] at h
    rw [accepts_booleanZod h]
    cases value <;> simp
  | array =>
    rw [hkind] at h
    rw [accepts_arrayZod h]
    cases value <;> simp
  | any =>
    rw [hkind] at h
    rw [accepts_anyZod h]
    cases value <;> simp

end Rule

end FormStudio
