import FormStudio.Derivation

/-!
# Outcomes in sequence

A sequence of steps that may fail succeeds exactly when every step of it does
(`bind_eq_ok_iff`, `succeeds_mapM_iff`).
-/
namespace FormStudio

variable {ε ε' α β γ : Type}

theorem ok_bind (a : α) (next : α → Except ε β) : (Except.ok a >>= next) = next a := rfl

theorem error_bind (e : ε) (next : α → Except ε β) :
    (Except.error e >>= next) = .error e := rfl

theorem bind_eq_ok_iff {first : Except ε α} {next : α → Except ε β} {b : β} :
    (first >>= next) = .ok b ↔ ∃ a, first = .ok a ∧ next a = .ok b := by
  cases first with
  | error e => simp [error_bind]
  | ok a => simp [ok_bind]

theorem bind_eq_error_iff {first : Except ε α} {next : α → Except ε β} {e : ε} :
    (first >>= next) = .error e ↔
      first = .error e ∨ ∃ a, first = .ok a ∧ next a = .error e := by
  cases first with
  | error e' => simp [error_bind]
  | ok a => simp [ok_bind]

/-- Two sequences agree when their first steps do and, where these succeed, the rest does. -/
theorem bind_congr_of_ok {first first' : Except ε α} {next next' : α → Except ε β}
    (hfirst : first = first') (hnext : ∀ a, first' = .ok a → next a = next' a) :
    (first >>= next) = (first' >>= next') := by
  subst hfirst
  cases first with
  | error e => rfl
  | ok a => exact hnext a rfl

theorem map_eq_ok_iff {outcome : Except ε α} {f : α → β} {b : β} :
    outcome.map f = .ok b ↔ ∃ a, outcome = .ok a ∧ f a = b := by
  cases outcome <;> simp [Except.map]

theorem map_eq_error_iff {outcome : Except ε α} {f : α → β} {e : ε} :
    outcome.map f = .error e ↔ outcome = .error e := by
  cases outcome <;> simp [Except.map]

@[simp] theorem mapError_ok (f : ε → ε') (a : α) : (Except.ok a).mapError f = .ok a := rfl

@[simp] theorem mapError_error (f : ε → ε') (e : ε) :
    (Except.error e : Except ε α).mapError f = .error (f e) := rfl

theorem toOption_eq_some_iff {outcome : Except ε α} {a : α} :
    outcome.toOption = some a ↔ outcome = .ok a := by
  cases outcome <;> simp [Except.toOption]

/-- An outcome that is there. -/
def Succeeds (outcome : Except ε α) : Prop := ∃ a, outcome = .ok a

@[simp] theorem succeeds_ok (a : α) : Succeeds (.ok a : Except ε α) := ⟨a, rfl⟩

@[simp] theorem not_succeeds_error (e : ε) : ¬ Succeeds (.error e : Except ε α) := by
  rintro ⟨a, h⟩
  cases h

/-- Where the second step cannot fail, the sequence fails only with the first. -/
theorem succeeds_bind_ok_iff {first : Except ε α} {next : α → β} :
    Succeeds (first >>= fun a => .ok (next a)) ↔ Succeeds first := by
  cases first <;> simp [ok_bind, error_bind]

theorem succeeds_map_iff {outcome : Except ε α} {f : α → β} :
    Succeeds (outcome.map f) ↔ Succeeds outcome := by
  cases outcome <;> simp [Except.map]

theorem succeeds_bind {first : Except ε α} {next : α → Except ε β} (hfirst : Succeeds first)
    (hnext : ∀ a, Succeeds (next a)) : Succeeds (first >>= next) := by
  obtain ⟨a, rfl⟩ := hfirst
  exact hnext a

/-- Where it does not matter to the second step what the first one gives, both have to succeed. -/
theorem succeeds_bind_iff {first : Except ε α} {next : α → Except ε β} {P : Prop}
    (h : ∀ a, Succeeds (next a) ↔ P) : Succeeds (first >>= next) ↔ Succeeds first ∧ P := by
  cases first with
  | error e => simp [error_bind]
  | ok a => simpa [ok_bind] using h a

theorem succeeds_mapM_iff {f : α → Except ε β} {items : List α} :
    Succeeds (items.mapM f) ↔ ∀ a ∈ items, Succeeds (f a) := by
  induction items with
  | nil => simp [pure, Except.pure]
  | cons a rest ih =>
    rw [List.mapM_cons]
    cases h : f a with
    | error e => simp [h, error_bind]
    | ok b =>
      rw [List.forall_mem_cons, h, ok_bind]
      simpa [pure, Except.pure] using succeeds_bind_ok_iff.trans ih

/-- What comes of a list comes of its items, one by one. -/
theorem of_mapM_eq_ok {f : α → Except ε β} {items : List α} {bs : List β}
    (h : items.mapM f = .ok bs) :
    (∀ a ∈ items, ∃ b ∈ bs, f a = .ok b) ∧ ∀ b ∈ bs, ∃ a ∈ items, f a = .ok b := by
  induction items generalizing bs with
  | nil =>
    cases h
    exact ⟨nofun, nofun⟩
  | cons a rest ih =>
    rw [List.mapM_cons] at h
    obtain ⟨b, hb, h⟩ := bind_eq_ok_iff.1 h
    obtain ⟨others, hothers, h⟩ := bind_eq_ok_iff.1 h
    cases h
    obtain ⟨hall, hfrom⟩ := ih hothers
    refine ⟨?_, ?_⟩
    · refine List.forall_mem_cons.2 ⟨⟨b, List.mem_cons_self, hb⟩, fun a' ha' => ?_⟩
      obtain ⟨b', hb', heq⟩ := hall a' ha'
      exact ⟨b', List.mem_cons_of_mem b hb', heq⟩
    · refine List.forall_mem_cons.2 ⟨⟨a, List.mem_cons_self, hb⟩, fun b' hb' => ?_⟩
      obtain ⟨a', ha', heq⟩ := hfrom b' hb'
      exact ⟨a', List.mem_cons_of_mem a ha', heq⟩

/-- Items may be turned into something else one by one, or all together. -/
theorem mapM_bind_ok (f : α → Except ε β) (g : β → γ) (items : List α) :
    items.mapM (fun a => f a >>= fun b => .ok (g b)) =
      items.mapM f >>= fun bs => .ok (bs.map g) := by
  induction items with
  | nil => rfl
  | cons a rest ih =>
    rw [List.mapM_cons, List.mapM_cons, ih]
    cases f a with
    | error e => rfl
    | ok b => cases rest.mapM f <;> rfl

theorem map_of_mapM_eq_ok {f : α → Except ε β} {g : β → γ} {k : α → γ} {items : List α}
    {bs : List β} (h : items.mapM f = .ok bs) (hg : ∀ a b, f a = .ok b → g b = k a) :
    bs.map g = items.map k := by
  induction items generalizing bs with
  | nil =>
    cases h
    rfl
  | cons a rest ih =>
    rw [List.mapM_cons] at h
    obtain ⟨b, hb, h⟩ := bind_eq_ok_iff.1 h
    obtain ⟨others, hothers, h⟩ := bind_eq_ok_iff.1 h
    cases h
    rw [List.map_cons, List.map_cons, hg a b hb, ih hothers]

end FormStudio
