import FormStudio.Table

/-!
# Laws of ordered tables

What entering a list of pairs does to the keys and to the entries of a table. Keys that differ stay
so (`Table.nodup_keys_overlay`), every entry comes from one of the two tables
(`Table.mem_of_mem_overlay`), and pairs with different keys are entered as they stand
(`Table.ofPairs_of_nodup`). What was entered last under a key is found there (`Table.get?_overlay`),
and entering the same pairs again changes nothing (`Table.overlay_overlay`).
-/
namespace FormStudio

namespace Table

variable {α β : Type}

@[simp] theorem keys_nil : keys ([] : Table α) = [] := rfl

@[simp] theorem keys_cons (key : String) (value : α) (t : Table α) :
    keys ((key, value) :: t) = key :: keys t := rfl

@[simp] theorem keys_append (s t : Table α) : keys (s ++ t) = keys s ++ keys t := List.map_append

theorem mem_keys {key : String} {value : α} {t : Table α} (h : (key, value) ∈ t) : key ∈ t.keys :=
  List.mem_map.2 ⟨_, h, rfl⟩

/-! ## Looking up -/

@[simp] theorem get?_cons (key other : String) (value : α) (t : Table α) :
    get? key ((other, value) :: t) = if other = key then some value else get? key t := rfl

theorem get?_append (key : String) (s t : Table α) :
    get? key (s ++ t) = (get? key s).or (get? key t) := by
  induction s with
  | nil => rfl
  | cons entry rest ih =>
    by_cases h : entry.1 = key
    · simp [get?, h]
    · simp [get?, h, ih]

theorem get?_eq_none_iff {key : String} {t : Table α} : get? key t = none ↔ key ∉ t.keys := by
  rw [← get?_isSome_iff]
  cases get? key t <;> simp

theorem mem_of_get? {key : String} {value : α} {t : Table α} (h : get? key t = some value) :
    (key, value) ∈ t := by
  induction t with
  | nil => cases h
  | cons entry rest ih =>
    obtain ⟨k, v⟩ := entry
    simp only [get?_cons] at h
    split at h
    · next hk =>
      cases h
      exact hk ▸ List.mem_cons_self
    · exact List.mem_cons_of_mem _ (ih h)

theorem get?_of_mem {t : Table α} (ht : t.keys.Nodup) {key : String} {value : α}
    (h : (key, value) ∈ t) : get? key t = some value := by
  induction t with
  | nil => cases h
  | cons entry rest ih =>
    obtain ⟨other, found⟩ := entry
    rw [keys_cons, List.nodup_cons] at ht
    rw [get?_cons]
    rcases List.mem_cons.1 h with heq | hrest
    · cases heq
      exact if_pos rfl
    · have hne : other ≠ key := fun heq => ht.1 (heq ▸ mem_keys hrest)
      rw [if_neg hne, ih ht.2 hrest]

/-! ## Entering pairs -/

theorem mem_of_mem_put {key : String} {value : α} {t : Table α} {entry : String × α}
    (h : entry ∈ put key value t) : entry = (key, value) ∨ entry ∈ t := by
  induction t with
  | nil => exact .inl (by simpa [put] using h)
  | cons first rest ih =>
    simp only [put] at h
    split at h
    · exact (List.mem_cons.1 h).imp_right (List.mem_cons_of_mem _)
    · rcases List.mem_cons.1 h with rfl | h
      · exact .inr List.mem_cons_self
      · exact (ih h).imp_right (List.mem_cons_of_mem _)

theorem nodup_keys_put {t : Table α} (h : t.keys.Nodup) (key : String) (value : α) :
    (put key value t).keys.Nodup := by
  by_cases hk : key ∈ t.keys
  · rwa [keys_put_of_mem hk]
  · rw [keys_put_of_not_mem hk]
    refine List.nodup_append.2 ⟨h, by simp, ?_⟩
    rintro a ha b hb rfl
    exact hk (List.mem_singleton.1 hb ▸ ha)

theorem put_of_not_mem {key : String} {value : α} {t : Table α} (h : key ∉ t.keys) :
    put key value t = t ++ [(key, value)] := by
  induction t with
  | nil => rfl
  | cons entry rest ih =>
    obtain ⟨k, v⟩ := entry
    simp only [keys_cons, List.mem_cons, not_or] at h
    have hk : k ≠ key := fun e => h.1 e.symm
    simp [put, hk, ih h.2]

@[simp] theorem overlay_nil (t : Table α) : overlay t [] = t := rfl

@[simp] theorem overlay_cons (t : Table α) (key : String) (value : α) (updates : Table α) :
    overlay t ((key, value) :: updates) = overlay (put key value t) updates := rfl

theorem overlay_append (t first second : Table α) :
    overlay t (first ++ second) = overlay (overlay t first) second := by
  simp [overlay]

theorem mem_of_mem_overlay {t updates : Table α} {entry : String × α}
    (h : entry ∈ overlay t updates) : entry ∈ t ∨ entry ∈ updates := by
  induction updates generalizing t with
  | nil => exact .inl h
  | cons first rest ih =>
    obtain ⟨key, value⟩ := first
    rcases ih h with h | h
    · rcases mem_of_mem_put h with rfl | h
      · exact .inr List.mem_cons_self
      · exact .inl h
    · exact .inr (List.mem_cons_of_mem _ h)

theorem nodup_keys_overlay {t : Table α} (h : t.keys.Nodup) (updates : Table α) :
    (overlay t updates).keys.Nodup := by
  induction updates generalizing t with
  | nil => exact h
  | cons first rest ih => exact ih (nodup_keys_put h first.1 first.2)

theorem overlay_of_nodup {t updates : Table α} (h : (t ++ updates).keys.Nodup) :
    overlay t updates = t ++ updates := by
  induction updates generalizing t with
  | nil => simp
  | cons first rest ih =>
    obtain ⟨key, value⟩ := first
    have hkey : key ∉ t.keys := by
      intro hmem
      rw [keys_append, keys_cons] at h
      exact (List.nodup_append.1 h).2.2 key hmem key List.mem_cons_self rfl
    rw [overlay_cons, put_of_not_mem hkey, ih (by simpa using h)]
    simp

theorem mem_of_mem_ofPairs {pairs : List (String × α)} {entry : String × α}
    (h : entry ∈ ofPairs pairs) : entry ∈ pairs :=
  (mem_of_mem_overlay h).resolve_left (by simp)

theorem nodup_keys_ofPairs (pairs : List (String × α)) : (ofPairs pairs).keys.Nodup :=
  nodup_keys_overlay (by simp) pairs

/-- **Pairs with different keys** are a table as they stand. -/
theorem ofPairs_of_nodup {pairs : Table α} (h : pairs.keys.Nodup) : ofPairs pairs = pairs :=
  overlay_of_nodup h

/-! ## What is found where pairs were entered -/

/-- The value of the last entry under a key. -/
def last? (key : String) (t : Table α) : Option α := get? key t.reverse

@[simp] theorem last?_nil (key : String) : last? key ([] : Table α) = none := rfl

theorem last?_cons (key other : String) (value : α) (t : Table α) :
    last? key ((other, value) :: t) =
      (last? key t).or (if other = key then some value else none) := by
  rw [last?, List.reverse_cons, get?_append]
  rfl

theorem last?_of_nodup {t : Table α} (h : t.keys.Nodup) (key : String) :
    last? key t = get? key t := by
  induction t with
  | nil => rfl
  | cons entry rest ih =>
    obtain ⟨other, value⟩ := entry
    rw [keys_cons, List.nodup_cons] at h
    rw [last?_cons, get?_cons, ih h.2]
    by_cases hother : other = key
    · rw [if_pos hother, if_pos hother, get?_eq_none_iff.2 (hother ▸ h.1), Option.none_or]
    · rw [if_neg hother, if_neg hother, Option.or_none]

theorem get?_put (key other : String) (value : α) (t : Table α) :
    get? key (put other value t) = if other = key then some value else get? key t := by
  by_cases h : other = key
  · rw [if_pos h, h, get?_put_self]
  · rw [if_neg h, get?_put_of_ne (Ne.symm h)]

/-- **What was entered last under a key** is found there. -/
theorem get?_overlay (key : String) (t updates : Table α) :
    get? key (overlay t updates) = (last? key updates).or (get? key t) := by
  induction updates generalizing t with
  | nil => rfl
  | cons entry rest ih =>
    obtain ⟨other, value⟩ := entry
    rw [overlay_cons, ih, last?_cons, get?_put]
    cases last? key rest <;> by_cases h : other = key <;> simp [h]

theorem get?_ofPairs (key : String) (pairs : List (String × α)) :
    get? key (ofPairs pairs) = last? key pairs := by
  rw [ofPairs, get?_overlay, get?_nil, Option.or_none]

theorem last?_isSome_iff {key : String} {t : Table α} : (last? key t).isSome ↔ key ∈ t.keys := by
  rw [last?, get?_isSome_iff, keys, keys, List.map_reverse, List.mem_reverse]

/-! ## Tables with the same entries -/

theorem keys_overlay_of_subset {t updates : Table α} (h : ∀ key ∈ updates.keys, key ∈ t.keys) :
    (overlay t updates).keys = t.keys := by
  induction updates generalizing t with
  | nil => rfl
  | cons entry rest ih =>
    obtain ⟨hfirst, hrest⟩ := List.forall_mem_cons.1 h
    have hput : (put entry.1 entry.2 t).keys = t.keys := keys_put_of_mem hfirst
    rw [← hput] at hrest ⊢
    exact ih hrest

/-- Tables in which the same keys come in the same order, each once, with the same values. -/
theorem eq_of_get? {s t : Table α} (hkeys : s.keys = t.keys) (ht : t.keys.Nodup)
    (h : ∀ key, get? key s = get? key t) : s = t := by
  induction s generalizing t with
  | nil => exact (List.map_eq_nil_iff.1 hkeys.symm).symm
  | cons entry s ih =>
    obtain ⟨key, value⟩ := entry
    cases t with
    | nil => cases hkeys
    | cons entry' t =>
      obtain ⟨key', value'⟩ := entry'
      rw [keys_cons, keys_cons] at hkeys
      obtain ⟨rfl, hrest⟩ := List.cons.inj hkeys
      rw [keys_cons, List.nodup_cons] at ht
      have hvalue : value = value' := by simpa using h key
      subst hvalue
      refine congrArg _ (ih hrest ht.2 fun other => ?_)
      by_cases hother : key = other
      · subst hother
        rw [get?_eq_none_iff.2 (hrest ▸ ht.1), get?_eq_none_iff.2 ht.1]
      · simpa [hother] using h other

theorem overlay_self {t : Table α} (h : t.keys.Nodup) : overlay t t = t := by
  refine eq_of_get? (keys_overlay_of_subset fun _ => id) h fun key => ?_
  rw [get?_overlay, last?_of_nodup h, Option.or_self]

/-- Pairs that were entered are entered again without a change. -/
theorem overlay_overlay {t : Table α} (h : t.keys.Nodup) (updates : Table α) :
    overlay (overlay t updates) updates = overlay t updates := by
  refine eq_of_get? (keys_overlay_of_subset fun key hkey => ?_) (nodup_keys_overlay h updates)
    fun key => ?_
  · obtain ⟨value, hvalue⟩ := Option.isSome_iff_exists.1 (last?_isSome_iff.2 hkey)
    rw [← get?_isSome_iff, get?_overlay, hvalue]
    rfl
  · rw [get?_overlay, get?_overlay]
    cases last? key updates <;> rfl

/-! ## Some of the keys -/

/-- The entries whose keys have a property. -/
def restrict (p : String → Bool) (t : Table α) : Table α := t.filter fun (key, _) => p key

section Restrict

variable {p : String → Bool}

theorem restrict_cons (key : String) (value : α) (t : Table α) :
    restrict p ((key, value) :: t) =
      if p key = true then (key, value) :: restrict p t else restrict p t := List.filter_cons

theorem get?_restrict (key : String) (t : Table α) :
    get? key (restrict p t) = if p key = true then get? key t else none := by
  induction t with
  | nil => simp [restrict]
  | cons entry rest ih =>
    obtain ⟨other, value⟩ := entry
    rw [restrict_cons]
    by_cases hother : other = key
    · subst hother
      cases hp : p other <;> simp [hp, ih]
    · cases hp : p other <;> simp [hother, ih]

theorem last?_restrict (key : String) (t : Table α) :
    last? key (restrict p t) = if p key = true then last? key t else none := by
  rw [last?, restrict, ← List.filter_reverse]
  exact get?_restrict key t.reverse

theorem restrict_put_of_pos {key : String} (h : p key = true) (value : α) (t : Table α) :
    restrict p (put key value t) = put key value (restrict p t) := by
  induction t with
  | nil => simp [put, restrict, h]
  | cons entry rest ih =>
    obtain ⟨other, found⟩ := entry
    by_cases hother : other = key
    · subst hother
      simp [put, restrict_cons, h]
    · cases hp : p other <;> simp [put, restrict_cons, hother, hp, ih]

theorem restrict_put_of_neg {key : String} (h : ¬ p key = true) (value : α) (t : Table α) :
    restrict p (put key value t) = restrict p t := by
  induction t with
  | nil => simp [put, restrict, h]
  | cons entry rest ih =>
    obtain ⟨other, found⟩ := entry
    by_cases hother : other = key
    · subst hother
      simp [put, restrict_cons, h]
    · simp [put, restrict_cons, hother, ih]

theorem restrict_overlay (t updates : Table α) :
    restrict p (overlay t updates) = overlay (restrict p t) (restrict p updates) := by
  induction updates generalizing t with
  | nil => rfl
  | cons entry rest ih =>
    obtain ⟨key, value⟩ := entry
    rw [overlay_cons, ih, restrict_cons]
    by_cases h : p key = true
    · rw [if_pos h, overlay_cons, restrict_put_of_pos h]
    · rw [if_neg h, restrict_put_of_neg h]

end Restrict

end Table

end FormStudio
