import FormStudio.Proofs.Json.Blank

/-!
# Texts without escapes

Only an escape writes half of a surrogate pair: a text without any is read as the same value,
whatever characters stand for halves (`Json.hasNoHalf_of_not_mem`). What is read leaves the rest of
the text behind (`Json.EndsIn`), in which there are no escapes either.
-/
namespace FormStudio

namespace Json

variable {cs rest : List Char}

theorem EndsIn.not_mem {c : Char} (h : EndsIn cs rest) (hc : c ∉ cs) : c ∉ rest :=
  fun hrest => hc (h.suffix.subset hrest)

theorem not_mem_of_skipSpace {c : Char} (hc : c ∉ cs) (h : skipSpace cs = rest) : c ∉ rest :=
  fun hrest => hc ((skipSpace_suffix cs).subset (h ▸ hrest))

/-- The units of a text without escapes are those of its characters. -/
theorem exists_of_scanUnits {units : List Nat} (hescape : '\\' ∉ cs)
    (h : scanUnits cs = some (units, rest)) :
    ∃ chars : List Char, units = chars.flatMap (charUnits false) := by
  fun_induction scanUnits cs generalizing units with
  | case1 => cases h
  | case2 =>
    cases h
    exact ⟨[], rfl⟩
  | case3 => exact absurd List.mem_cons_self hescape
  | case4 => exact absurd List.mem_cons_self hescape
  | case5 => cases h
  | case6 c more _ _ _ _ ih =>
    simp only [Option.bind_eq_bind, Option.bind_eq_some_iff] at h
    obtain ⟨⟨_, _⟩, hmore, h⟩ := h
    cases h
    obtain ⟨chars, rfl⟩ := ih (List.not_mem_of_not_mem_cons hescape) hmore
    exact ⟨c :: chars, by simp [charUnits]⟩

theorem scanString_eq_of_not_mem (hescape : '\\' ∉ cs) (halves halves' : Nat) :
    scanString halves cs = scanString halves' cs := by
  refine Option.map_congr fun found hfound => ?_
  obtain ⟨units, rest⟩ := found
  obtain ⟨chars, rfl⟩ := exists_of_scanUnits hescape hfound
  dsimp only
  rw [joinUnits_flatMap, joinUnits_flatMap]

/-- A string is read the same, if what follows it is. -/
theorem readString_eq_of_not_mem {α : Type} (hescape : '\\' ∉ cs) (halves halves' : Nat)
    {next next' : String → List Char → Except ReadError α}
    (hnext : ∀ s rest, '\\' ∉ rest → next s rest = next' s rest) :
    readString halves cs next = readString halves' cs next' := by
  unfold readString
  rw [scanString_eq_of_not_mem hescape halves halves']
  cases h : scanString halves' cs with
  | none => rfl
  | some found => exact hnext _ _ ((endsIn_scanString h).not_mem hescape)

variable {dialect : Dialect} {halves : Nat}

-- by the fuel, as the readers go: what each step leaves behind has no escapes either

mutual

/-- **Without escapes**, the characters that stand for halves do not count. -/
theorem readValue_eq_of_not_mem {fuel : Nat} {cs : List Char} (hescape : '\\' ∉ cs) :
    readValue { dialect with halves := halves } fuel cs = readValue dialect fuel cs := by
  match fuel with
  | 0 => rfl
  | fuel + 1 =>
    simp only [readValue]
    split
    · next rest =>
      have hrest : '\\' ∉ rest := List.not_mem_of_not_mem_cons hescape
      exact readString_eq_of_not_mem hrest _ _ fun _ _ _ => rfl
    · next rest =>
      have hrest : '\\' ∉ rest := List.not_mem_of_not_mem_cons hescape
      split
      · rfl
      · exact bind_congr_of_ok (readItems_eq_of_not_mem (not_mem_of_skipSpace hrest rfl))
          fun _ _ => rfl
    · next rest =>
      have hrest : '\\' ∉ rest := List.not_mem_of_not_mem_cons hescape
      split
      · rfl
      · exact bind_congr_of_ok (readMembers_eq_of_not_mem (not_mem_of_skipSpace hrest rfl))
          fun _ _ => rfl
    · rfl

theorem readItems_eq_of_not_mem {fuel : Nat} {cs : List Char} (hescape : '\\' ∉ cs) :
    readItems { dialect with halves := halves } fuel cs = readItems dialect fuel cs := by
  match fuel with
  | 0 => rfl
  | fuel + 1 =>
    simp only [readItems]
    refine bind_congr_of_ok (readValue_eq_of_not_mem hescape) fun found hitem => ?_
    obtain ⟨item, rest⟩ := found
    have hrest : '\\' ∉ rest := (endsIn_readValue hitem).not_mem hescape
    dsimp only
    split
    · next more hskip =>
      have hmore : '\\' ∉ more :=
        List.not_mem_of_not_mem_cons (not_mem_of_skipSpace hrest hskip)
      exact bind_congr_of_ok (readItems_eq_of_not_mem (not_mem_of_skipSpace hmore rfl))
        fun _ _ => rfl
    · rfl
    · rfl

theorem readMembers_eq_of_not_mem {fuel : Nat} {cs : List Char} (hescape : '\\' ∉ cs) :
    readMembers { dialect with halves := halves } fuel cs = readMembers dialect fuel cs := by
  match fuel with
  | 0 => rfl
  | fuel + 1 =>
    simp only [readMembers]
    split
    · next rest =>
      have hrest : '\\' ∉ rest := List.not_mem_of_not_mem_cons hescape
      refine readString_eq_of_not_mem hrest _ _ fun key rest' hkey => ?_
      split
      · next valueText hcolon =>
        have hvalueText : '\\' ∉ valueText :=
          List.not_mem_of_not_mem_cons (not_mem_of_skipSpace hkey hcolon)
        refine bind_congr_of_ok (readValue_eq_of_not_mem (not_mem_of_skipSpace hvalueText rfl))
          fun found hvalue => ?_
        obtain ⟨value, rest''⟩ := found
        have hrest'' : '\\' ∉ rest'' :=
          (endsIn_readValue hvalue).not_mem (not_mem_of_skipSpace hvalueText rfl)
        dsimp only
        split
        · next more hskip =>
          have hmore : '\\' ∉ more :=
            List.not_mem_of_not_mem_cons (not_mem_of_skipSpace hrest'' hskip)
          exact bind_congr_of_ok (readMembers_eq_of_not_mem (not_mem_of_skipSpace hmore rfl))
            fun _ _ => rfl
        · rfl
        · rfl
      · rfl
    · rfl

end

theorem hasNoHalf_of_not_mem {text : String} (hescape : '\\' ∉ text.toList) :
    HasNoHalf text := by
  intro dialect halves
  unfold read
  exact bind_congr_of_ok (readValue_eq_of_not_mem (not_mem_of_skipSpace hescape rfl))
    fun _ _ => rfl

end Json

end FormStudio
