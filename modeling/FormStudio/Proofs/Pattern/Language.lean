import Mathlib.Computability.Language
import FormStudio.Pattern.Match

/-!
# The language of a pattern

A pattern without references, conditions and repetitions of nothing stands for a language, and the
ways in which it fits from a place on are the words of that language that follow there
(`Pattern.mem_outcomes_iff`): the order in which they are tried, and that a repetition is not tried
twice at one place, neither lose nor add a word. A pattern between the marks of the two ends is
found in the words of its language, and in these before a line feed
(`Pattern.search_iff_of_anchored`).
-/
namespace FormStudio

/-! ## Reading on -/

namespace Place

/-- Whether a text stands between two places. -/
inductive Reads : Place → List Char → Place → Prop
  | done (p : Place) : Reads p [] p
  | step {p q r : Place} {c : Char} {w : List Char} (next : p.next? = some (c, q))
      (rest : Reads q w r) : Reads p (c :: w) r

variable {p q r : Place} {c : Char} {u v w : List Char}

theorem reads_nil_iff : Reads p [] q ↔ q = p := by
  constructor
  · rintro ⟨⟩
    rfl
  · rintro rfl
    exact .done q

theorem reads_cons_iff : Reads p (c :: w) r ↔ ∃ q, p.next? = some (c, q) ∧ Reads q w r := by
  constructor
  · rintro (_ | ⟨next, rest⟩)
    exact ⟨_, next, rest⟩
  · rintro ⟨q, next, rest⟩
    exact .step next rest

theorem reads_append_iff : Reads p (u ++ v) r ↔ ∃ q, Reads p u q ∧ Reads q v r := by
  induction u generalizing p with
  | nil => simp [reads_nil_iff]
  | cons c u ih =>
    simp only [List.cons_append, reads_cons_iff, ih]
    constructor
    · rintro ⟨p', hnext, q, hu, hv⟩
      exact ⟨q, ⟨p', hnext, hu⟩, hv⟩
    · rintro ⟨q, ⟨p', hnext, hu⟩, hv⟩
      exact ⟨p', hnext, q, hu, hv⟩

theorem after_of_next? (h : p.next? = some (c, q)) : p.after = c :: q.after := by
  unfold next? at h
  split at h
  · cases h
  · next hafter =>
    cases h
    exact hafter

theorem Reads.after_eq (h : Reads p w q) : p.after = w ++ q.after := by
  induction h with
  | done p => rfl
  | step next rest ih => rw [after_of_next? next, ih, List.cons_append]

theorem Reads.index_eq (h : Reads p w q) : q.index = p.index + w.length := by
  induction h with
  | done p => rfl
  | step next rest ih => rw [ih, index_next? next, List.length_cons]; omega

/-- What follows a place can be read. -/
theorem exists_reads (h : p.after = u ++ v) : ∃ q, Reads p u q ∧ q.after = v := by
  induction u generalizing p with
  | nil => exact ⟨p, .done p, h⟩
  | cons c u ih =>
    obtain ⟨before, after, index, hindex⟩ := p
    obtain rfl : after = c :: (u ++ v) := h
    obtain ⟨q, hreads, hafter⟩ := ih (p := ⟨c :: before, u ++ v, index + 1, by simp [hindex]⟩) rfl
    exact ⟨q, .step rfl hreads, hafter⟩

theorem index_le_of_mem_onward (h : q ∈ p.onward) : p.index ≤ q.index := by
  obtain ⟨before, after, index, hindex⟩ := p
  change q ∈ onward.go before after index hindex at h
  show index ≤ q.index
  induction after generalizing before index with
  | nil =>
    rw [onward.go, List.mem_singleton] at h
    rw [h]
  | cons c after ih =>
    rw [onward.go, List.mem_cons] at h
    rcases h with rfl | h
    · exact Nat.le_refl _
    · exact Nat.le_of_succ_le (ih _ _ _ h)

theorem onward_eq (p : Place) :
    p.onward = p :: (match p.next? with | some (_, q) => q.onward | none => []) := by
  obtain ⟨before, after, index, hindex⟩ := p
  cases after <;> rfl

/-- Of the places from the start on, only the first has nothing before it. -/
theorem mem_onward_start_iff {text : String} :
    q ∈ (start text).onward ∧ q.before = [] ↔ q = start text := by
  rw [onward_eq, List.mem_cons]
  constructor
  · rintro ⟨rfl | hmem, hbefore⟩
    · rfl
    · split at hmem
      · next c r hnext =>
        have hindex := q.index_eq
        have hle := index_le_of_mem_onward hmem
        rw [index_next? hnext, hindex, hbefore] at hle
        exact absurd hle (Nat.not_succ_le_zero _)
      · cases hmem
  · rintro rfl
    exact ⟨.inl rfl, rfl⟩

end Place

namespace Progress

/-- Whether a progress comes of another by reading a word of a language. -/
def Takes (words : Language Char) (s t : Progress) : Prop :=
  ∃ w ∈ words, ∃ q, s.place.Reads w q ∧ t = { s with place := q }

variable {s t : Progress} {first second : Language Char}

theorem takes_one_iff : Takes 1 s t ↔ t = s := by
  simp [Takes, Place.reads_nil_iff]

theorem takes_add_iff : Takes (first + second) s t ↔ Takes first s t ∨ Takes second s t := by
  simp only [Takes, Language.mem_add, or_and_right, exists_or]

theorem takes_mul_iff : Takes (first * second) s t ↔ ∃ u, Takes first s u ∧ Takes second u t := by
  constructor
  · rintro ⟨_, hw, r, hreads, rfl⟩
    obtain ⟨u, hu, v, hv, rfl⟩ := Language.mem_mul.1 hw
    obtain ⟨q, hread, hreads⟩ := Place.reads_append_iff.1 hreads
    exact ⟨{ s with place := q }, ⟨u, hu, q, hread, rfl⟩, v, hv, r, hreads, rfl⟩
  · rintro ⟨_, ⟨u, hu, q, hread, rfl⟩, v, hv, r, hreads, rfl⟩
    exact ⟨u ++ v, Language.append_mem_mul hu hv, r,
      Place.reads_append_iff.2 ⟨q, hread, hreads⟩, rfl⟩

end Progress

/-! ## Languages of patterns -/

namespace Pattern

open Progress

/-- The words of one character of a set. -/
def wordsOf (chars : CharSet) : Language Char := {w | ∃ c, chars.holds c = true ∧ w = [c]}

/-- The words of several words, at least `least` and at most `most`. -/
def repeated (words : Language Char) (least : Nat) (most : Option Nat) : Language Char :=
  {w | ∃ n, (∀ bound ∈ most, n ≤ bound - least) ∧ w ∈ words ^ (least + n)}

/-- The words that a pattern stands for. A pattern that looks at more than what follows stands for
none. -/
def language : Pattern → Language Char
  | .empty => 1
  | .set chars => wordsOf chars
  | .seq first second => first.language * second.language
  | .alt left right => left.language + right.language
  | .rep _ body least most => repeated body.language least most
  | _ => 0

/-- The words of some characters of a set are those of that length. -/
theorem mem_wordsOf_pow_iff {chars : CharSet} {n : Nat} {w : List Char} :
    w ∈ wordsOf chars ^ n ↔ (∀ c ∈ w, chars.holds c = true) ∧ w.length = n := by
  induction n generalizing w with
  | zero =>
    rw [pow_zero, Language.mem_one, List.length_eq_zero_iff]
    exact ⟨fun h => ⟨h ▸ nofun, h⟩, And.right⟩
  | succ n ih =>
    rw [pow_succ', Language.mem_mul]
    constructor
    · rintro ⟨_, ⟨c, hc, rfl⟩, v, hv, rfl⟩
      obtain ⟨hall, hlength⟩ := ih.1 hv
      exact ⟨List.forall_mem_cons.2 ⟨hc, hall⟩, by simp [hlength]⟩
    · rintro ⟨hall, hlength⟩
      cases w with
      | nil => cases hlength
      | cons c v =>
        obtain ⟨hc, hall⟩ := List.forall_mem_cons.1 hall
        exact ⟨[c], ⟨c, hc, rfl⟩, v, ih.2 ⟨hall, Nat.succ.inj hlength⟩, rfl⟩

theorem takes_wordsOf_iff {chars : CharSet} {s t : Progress} :
    Takes (wordsOf chars) s t ↔
      ∃ c q, s.place.next? = some (c, q) ∧ chars.holds c = true ∧ t = { s with place := q } := by
  constructor
  · rintro ⟨_, ⟨c, hc, rfl⟩, q, hreads, rfl⟩
    obtain ⟨q', hnext, hrest⟩ := Place.reads_cons_iff.1 hreads
    obtain rfl := Place.reads_nil_iff.1 hrest
    exact ⟨c, q, hnext, hc, rfl⟩
  · rintro ⟨c, q, hnext, hc, rfl⟩
    exact ⟨[c], ⟨c, hc, rfl⟩, q, .step hnext (.done q), rfl⟩

theorem takes_repeated_iff {words : Language Char} {least : Nat} {most : Option Nat}
    {s t : Progress} :
    Takes (repeated words least most) s t ↔
      ∃ n, (∀ bound ∈ most, n ≤ bound - least) ∧ Takes (words ^ (least + n)) s t := by
  constructor
  · rintro ⟨w, ⟨n, hn, hw⟩, ht⟩
    exact ⟨n, hn, w, hw, ht⟩
  · rintro ⟨n, hn, w, hw, ht⟩
    exact ⟨w, ⟨n, hn, hw⟩, ht⟩

/-- Whether a pattern cannot fit without a character. -/
def takesSome : Pattern → Bool
  | .set _ => true
  | .seq first second => first.takesSome || second.takesSome
  | .alt left right => left.takesSome && right.takesSome
  | .rep _ body least _ => decide (0 < least) && body.takesSome
  | _ => false

/-- Whether a pattern is built from sets alone, and repeats nothing that fits without a
character. -/
def isRegular : Pattern → Bool
  | .empty => true
  | .set _ => true
  | .seq first second => first.isRegular && second.isRegular
  | .alt left right => left.isRegular && right.isRegular
  | .rep preference body _ _ =>
    decide (preference ≠ .possessive) && body.takesSome && body.isRegular
  | _ => false

theorem length_pos_of_takesSome {pattern : Pattern} (h : pattern.takesSome = true) {w : List Char}
    (hw : w ∈ pattern.language) : 0 < w.length := by
  induction pattern generalizing w with
  | set chars =>
    obtain ⟨c, -, rfl⟩ := hw
    exact Nat.one_pos
  | seq first second ih₁ ih₂ =>
    rw [language] at hw
    obtain ⟨u, hu, v, hv, rfl⟩ := Language.mem_mul.1 hw
    rw [List.length_append]
    rcases Bool.or_eq_true_iff.1 h with h | h
    · have := ih₁ h hu
      omega
    · have := ih₂ h hv
      omega
  | alt left right ih₁ ih₂ =>
    obtain ⟨hleft, hright⟩ := Bool.and_eq_true_iff.1 h
    rw [language, Language.mem_add] at hw
    rcases hw with hw | hw
    · exact ih₁ hleft hw
    · exact ih₂ hright hw
  | rep preference body least most ih =>
    obtain ⟨hleast, hbody⟩ := Bool.and_eq_true_iff.1 h
    obtain ⟨n, -, hw⟩ := hw
    obtain ⟨k, hk⟩ := Nat.exists_eq_add_one.2 (of_decide_eq_true hleast)
    rw [hk, Nat.add_right_comm, pow_succ'] at hw
    obtain ⟨u, hu, v, -, rfl⟩ := Language.mem_mul.1 hw
    have := ih hbody hu
    rw [List.length_append]
    omega
  | _ => cases h

/-- A word of several parts that are not empty has a character for each. -/
theorem le_length_of_mem_pow {words : Language Char} (hpos : ∀ w ∈ words, 0 < w.length) {n : Nat}
    {w : List Char} (hw : w ∈ words ^ n) : n ≤ w.length := by
  induction n generalizing w with
  | zero => exact Nat.zero_le _
  | succ n ih =>
    rw [pow_succ'] at hw
    obtain ⟨u, hu, v, hv, rfl⟩ := Language.mem_mul.1 hw
    have hfirst := hpos u hu
    have hrest := ih hv
    rw [List.length_append]
    omega

/-! ## Outcomes and words -/

section Repetition

variable {body : Pattern} {s t : Progress}
  (hbody : ∀ s t, t ∈ body.outcomes s ↔ Takes body.language s t)

include hbody

theorem mem_mandatory_iff {rest : Trial} (least : Nat) :
    t ∈ (mandatory body.run rest least s .found).toList ↔
      ∃ u, Takes (body.language ^ least) s u ∧ t ∈ (rest u .found).toList := by
  induction least generalizing s with
  | zero => simp [mandatory, takes_one_iff]
  | succ least ih =>
    simp only [mandatory, Search.toList, toList_run, List.mem_flatMap, hbody, ih, pow_succ',
      takes_mul_iff]
    constructor
    · rintro ⟨a, ha, u, hu, ht⟩
      exact ⟨u, ⟨a, ha, hu⟩, ht⟩
    · rintro ⟨u, ⟨a, ha, hu⟩, ht⟩
      exact ⟨a, ha, u, hu, ht⟩

/-- A repetition that moves on each time is never cut short. -/
theorem mem_optional_iff (hpos : ∀ w ∈ body.language, 0 < w.length) (preference : Preference)
    (more : Nat) {last : Option Nat} (hlast : last ≠ some s.place.index) :
    t ∈ (optional body.run preference more last s .found).toList ↔
      ∃ n ≤ more, Takes (body.language ^ n) s t := by
  induction more generalizing s last with
  | zero => simp [optional, Search.toList, takes_one_iff]
  | succ more ih =>
    -- a repetition that has read something begins behind where the one before began
    have hagain : t ∈ (body.run s fun u =>
        optional body.run preference more (some s.place.index) u .found).toList ↔
          ∃ n ≤ more, Takes (body.language ^ (n + 1)) s t := by
      have hstep : ∀ u, Takes body.language s u →
          (t ∈ (optional body.run preference more (some s.place.index) u .found).toList ↔
            ∃ n ≤ more, Takes (body.language ^ n) u t) := by
        rintro _ ⟨w, hw, q, hreads, rfl⟩
        refine ih fun hsame => ?_
        have hindex := Option.some.inj hsame
        have hmoved := hreads.index_eq
        have hlength := hpos w hw
        simp only at hindex
        omega
      simp only [toList_run, List.mem_flatMap, hbody, pow_succ', takes_mul_iff]
      constructor
      · rintro ⟨u, hu, ht⟩
        obtain ⟨n, hn, ht⟩ := (hstep u hu).1 ht
        exact ⟨n, hn, u, hu, ht⟩
      · rintro ⟨n, hn, u, hu, ht⟩
        exact ⟨u, hu, (hstep u hu).2 ⟨n, hn, ht⟩⟩
    have hall : (∃ n ≤ more + 1, Takes (body.language ^ n) s t) ↔
        (∃ n ≤ more, Takes (body.language ^ (n + 1)) s t) ∨ t = s := by
      constructor
      · rintro ⟨n, hn, ht⟩
        cases n with
        | zero => exact .inr (takes_one_iff.1 ht)
        | succ n => exact .inl ⟨n, Nat.le_of_succ_le_succ hn, ht⟩
      · rintro (⟨n, hn, ht⟩ | rfl)
        · exact ⟨n + 1, Nat.succ_le_succ hn, ht⟩
        · exact ⟨0, Nat.zero_le _, takes_one_iff.2 rfl⟩
    unfold optional
    rw [if_neg hlast]
    dsimp only
    split
    · simp only [Search.toList, List.mem_append, hagain, hall, List.mem_singleton, or_comm]
    · simp only [Search.toList, List.mem_append, hagain, hall, List.mem_singleton]

/-- The outcomes of a repetition. One without a bound is tried as often as characters follow, and
that is enough, for each time takes one of them. -/
theorem mem_outcomes_rep_iff (hpos : ∀ w ∈ body.language, 0 < w.length) {preference : Preference}
    (hpreference : preference ≠ .possessive) {least : Nat} {most : Option Nat} :
    t ∈ (rep preference body least most).outcomes s ↔
      Takes (rep preference body least most).language s t := by
  have hoptional : ∀ u more, t ∈ (optional body.run preference more none u .found).toList ↔
      ∃ n ≤ more, Takes (body.language ^ n) u t :=
    fun u more => mem_optional_iff hbody hpos preference more (Option.some_ne_none _).symm
  rw [outcomes, run, if_neg hpreference, mem_mandatory_iff hbody, language, takes_repeated_iff]
  simp only [hoptional, pow_add, takes_mul_iff]
  constructor
  · rintro ⟨u, hu, n, hn, ht⟩
    refine ⟨n, ?_, u, hu, ht⟩
    rintro bound rfl
    exact hn
  · rintro ⟨n, hn, u, hu, ht⟩
    refine ⟨u, hu, n, ?_, ht⟩
    cases most with
    | some bound => exact hn bound rfl
    | none =>
      obtain ⟨w, hw, q, hreads, -⟩ := ht
      have hcount := le_length_of_mem_pow hpos hw
      have hafter := congrArg List.length hreads.after_eq
      rw [List.length_append] at hafter
      show n ≤ u.place.after.length + 1
      omega

end Repetition

/-- **The outcomes of a pattern** are the words of its language that follow. -/
theorem mem_outcomes_iff {pattern : Pattern} (h : pattern.isRegular = true) {s t : Progress} :
    t ∈ pattern.outcomes s ↔ Takes pattern.language s t := by
  induction pattern generalizing s t with
  | empty =>
    rw [language, takes_one_iff]
    simp [outcomes, run, Search.toList]
  | set chars =>
    rw [language, takes_wordsOf_iff]
    simp only [outcomes, run]
    cases hnext : s.place.next? with
    | none => simp [Search.toList]
    | some next =>
      obtain ⟨c, q⟩ := next
      cases hc : chars.holds c <;> simp [hc, Search.toList]
  | seq first second ih₁ ih₂ =>
    obtain ⟨hfirst, hsecond⟩ := Bool.and_eq_true_iff.1 h
    rw [outcomes_seq, List.mem_flatMap, language, takes_mul_iff]
    simp only [ih₁ hfirst, ih₂ hsecond]
  | alt left right ih₁ ih₂ =>
    obtain ⟨hleft, hright⟩ := Bool.and_eq_true_iff.1 h
    rw [outcomes_alt, List.mem_append, language, takes_add_iff, ih₁ hleft, ih₂ hright]
  | rep preference body least most ih =>
    rw [isRegular, Bool.and_eq_true, Bool.and_eq_true, decide_eq_true_iff] at h
    obtain ⟨⟨hpreference, hsome⟩, hregular⟩ := h
    exact mem_outcomes_rep_iff (fun s t => ih hregular)
      (fun w hw => length_pos_of_takesSome hsome hw) hpreference
  | _ => cases h

/-! ## Patterns between the marks of the ends -/

/-- What stands before a mark of the end of a text. -/
def beforeStop? : Pattern → Option Pattern
  | .mark .stop => some .empty
  | .seq first second => second.beforeStop?.map (.seq first)
  | _ => none

/-- What stands between the marks of the start and the end of a text. -/
def anchored? : Pattern → Option Pattern
  | .seq (.mark .start) rest => rest.beforeStop?
  | _ => none

theorem mem_outcomes_of_beforeStop {pattern body : Pattern} (h : pattern.beforeStop? = some body)
    {s t : Progress} :
    t ∈ pattern.outcomes s ↔ t ∈ body.outcomes s ∧ Mark.stop.holds t.place = true := by
  induction pattern generalizing body s with
  | mark kind =>
    cases kind <;> cases h
    simp only [outcomes, run]
    cases hholds : Mark.stop.holds s.place <;> simp [Search.toList]
    · rintro rfl
      exact hholds
    · rintro rfl
      exact hholds
  | seq first second ih₁ ih₂ =>
    obtain ⟨rest, hrest, rfl⟩ := Option.map_eq_some_iff.1 h
    simp only [outcomes_seq, List.mem_flatMap, ih₂ hrest, ← and_assoc, exists_and_right]
  | _ => cases h

theorem mem_outcomes_of_anchored {pattern body : Pattern} (h : pattern.anchored? = some body)
    {place : Place} {t : Progress} :
    t ∈ pattern.outcomes ⟨place, []⟩ ↔
      place.before = [] ∧ t ∈ body.outcomes ⟨place, []⟩ ∧ Mark.stop.holds t.place = true := by
  unfold anchored? at h
  split at h
  · next rest =>
    have hmark : (mark .start).outcomes ⟨place, []⟩ =
        if place.before = [] then [⟨place, []⟩] else [] := by
      simp only [outcomes, run, Mark.holds, List.isEmpty_iff]
      split <;> rfl
    rw [outcomes_seq, hmark, ← mem_outcomes_of_beforeStop h]
    split <;> simp_all
  · cases h

/-- The words that lead to a mark of the end of a text are the whole text, or all but a line feed
that ends it. -/
theorem exists_takes_stop_iff {words : Language Char} {text : String} :
    (∃ t, Takes words ⟨.start text, []⟩ t ∧ Mark.stop.holds t.place = true) ↔
      text.toList ∈ words ∨ ∃ w ∈ words, text.toList = w ++ ['\n'] := by
  have hstop : ∀ place : Place, Mark.stop.holds place = true ↔
      place.after = [] ∨ place.after = ['\n'] := by
    intro place
    simp [Mark.holds]
  constructor
  · rintro ⟨_, ⟨w, hw, q, hreads, rfl⟩, hholds⟩
    have hafter : text.toList = w ++ q.after := hreads.after_eq
    rcases (hstop q).1 hholds with hnone | hfeed
    · rw [hafter, hnone, List.append_nil]
      exact .inl hw
    · exact .inr ⟨w, hw, by rw [hafter, hfeed]⟩
  · intro hword
    obtain ⟨w, hw, last, hlast, htext⟩ : ∃ w ∈ words, ∃ last : List Char,
        (last = [] ∨ last = ['\n']) ∧ text.toList = w ++ last := by
      rcases hword with hw | ⟨w, hw, htext⟩
      · exact ⟨_, hw, [], .inl rfl, (List.append_nil _).symm⟩
      · exact ⟨w, hw, _, .inr rfl, htext⟩
    obtain ⟨q, hreads, hafter⟩ := Place.exists_reads (p := .start text) htext
    exact ⟨_, ⟨w, hw, q, hreads, rfl⟩, (hstop q).2 (hafter ▸ hlast)⟩

/-- **A pattern between the marks of the ends** is found in the words of its language, and in these
before a line feed that ends the text. -/
theorem search_iff_of_anchored {pattern body : Pattern} (h : pattern.anchored? = some body)
    (hregular : body.isRegular = true) {text : String} :
    pattern.search text = true ↔
      text.toList ∈ body.language ∨ ∃ w ∈ body.language, text.toList = w ++ ['\n'] := by
  rw [search_iff, ← exists_takes_stop_iff]
  simp only [mem_outcomes_of_anchored h, mem_outcomes_iff hregular]
  constructor
  · rintro ⟨place, hmem, t, hbefore, ht⟩
    obtain rfl := Place.mem_onward_start_iff.1 ⟨hmem, hbefore⟩
    exact ⟨t, ht⟩
  · rintro ⟨t, ht⟩
    obtain ⟨hmem, hbefore⟩ := Place.mem_onward_start_iff.2 (rfl : Place.start text = .start text)
    exact ⟨_, hmem, t, hbefore, ht⟩

end Pattern

end FormStudio
