import FormStudio.Proofs.Json.LongInteger
import FormStudio.Proofs.Preferences.Run
import FormStudio.Session.Basic

/-!
# Failures of a file

A file that is no JSON, or holds no object, is a matter of storage: asking for a preference says so,
setting one writes the file anew, and a session starts with a message. What is no matter of storage
is an integer of too many digits, which stops each of the three (`PreferenceFile.Escapes`). Nothing
else does, whatever the text of the file (`PreferenceFile.isContained_iff_and_escapes`).
-/
namespace FormStudio

namespace PreferenceFile

variable {file : PreferenceFile} {digits : Nat} {e : StoreError}

/-! ## Overlong files -/

/-- Whether reading a file ends at an integer of too many digits. -/
def IsOverlong (file : PreferenceFile) (digits : Nat) : Prop :=
  ∃ content, file.place = .text content ∧
    Json.read .extended (String.ofList (plainLines content.toList)) = .error (.longInteger digits)

theorem load_eq_longInteger_iff : file.load = .error (.longInteger digits) ↔
    file.IsOverlong digits := by
  unfold load IsOverlong
  cases file.place with
  | text content =>
    simp only [FilePlace.text.injEq, exists_eq_left']
    cases Json.read .extended (String.ofList (plainLines content.toList)) with
    | error fault => cases fault <;> simp
    | ok v => cases v <;> simp
  | _ => simp

theorem isLoadable_iff : file.IsLoadable ↔ ∀ digits, ¬ file.IsOverlong digits := by
  constructor
  · intro h digits hlong
    cases h _ (load_eq_longInteger_iff.2 hlong)
  · intro h e he
    cases e with
    | longInteger digits => exact absurd (load_eq_longInteger_iff.1 he) (h digits)
    | _ => rfl

theorem eq_nil_of_prefix_break {ds cs : List Char} (hds : Json.AllDigits ds)
    (h : ds <+: '\n' :: cs) : ds = [] := by
  cases ds with
  | nil => rfl
  | cons d ds =>
    obtain ⟨rfl, -⟩ := List.cons_prefix_cons.1 h
    exact absurd (hds '\n' List.mem_cons_self) (by decide)

/-- Digits at the front of a text stand there however its lines end. -/
theorem prefix_of_plainLines {ds cs : List Char} (hds : Json.AllDigits ds)
    (h : ds <+: plainLines cs) : ds <+: cs := by
  fun_induction plainLines cs generalizing ds with
  | case1 rest ih => exact eq_nil_of_prefix_break hds h ▸ List.nil_prefix
  | case2 rest _ ih => exact eq_nil_of_prefix_break hds h ▸ List.nil_prefix
  | case3 c rest _ _ ih =>
    cases ds with
    | nil => exact List.nil_prefix
    | cons d ds =>
      obtain ⟨hd, hrest⟩ := List.cons_prefix_cons.1 h
      have hmore : Json.AllDigits ds := fun c hc => hds c (List.mem_cons_of_mem d hc)
      exact List.cons_prefix_cons.2 ⟨hd, ih hmore hrest⟩
  | case4 => exact h

theorem infix_of_plainLines {ds cs : List Char} (hds : Json.AllDigits ds)
    (h : ds <:+: plainLines cs) : ds <:+: cs := by
  fun_induction plainLines cs with
  | case1 rest ih =>
    rcases List.infix_cons_iff.1 h with hfront | h
    · exact eq_nil_of_prefix_break hds hfront ▸ List.nil_infix
    · exact List.infix_cons (List.infix_cons (ih h))
  | case2 rest _ ih =>
    rcases List.infix_cons_iff.1 h with hfront | h
    · exact eq_nil_of_prefix_break hds hfront ▸ List.nil_infix
    · exact List.infix_cons (ih h)
  | case3 c rest hbreak hreturn ih =>
    rcases List.infix_cons_iff.1 h with hfront | h
    · rw [← plainLines] at hfront
      · exact (prefix_of_plainLines hds hfront).isInfix
      · exact hbreak
      · exact hreturn
    · exact List.infix_cons (ih h)
  | case4 => exact h

/-- What is read of a file has no more digits one after the other than the file has. -/
theorem hasLongRun_of_plainLines {cs : List Char} (h : Json.HasLongRun digits (plainLines cs)) :
    Json.HasLongRun digits cs := by
  obtain ⟨hlimit, ds, hrun, hds, hlength⟩ := h
  exact ⟨hlimit, ds, infix_of_plainLines hds hrun, hds, hlength⟩

theorem IsOverlong.exists_hasLongRun (h : file.IsOverlong digits) :
    ∃ content, file.place = .text content ∧ Json.HasLongRun digits content.toList := by
  obtain ⟨content, hplace, hread⟩ := h
  refine ⟨content, hplace, hasLongRun_of_plainLines ?_⟩
  simpa using Json.hasLongRun_of_read hread

/-- A file that is nothing but a long integer is overlong. -/
theorem isOverlong_of_toDigits (path : String) {n : Nat}
    (hn : Json.integerDigitLimit < Binary64.digitCount n) :
    IsOverlong ⟨path, .text (String.ofList (Nat.toDigits 10 n))⟩ (Binary64.digitCount n) := by
  have hlines : plainLines (Nat.toDigits 10 n) = Nat.toDigits 10 n :=
    plainLines_of_not_mem fun h => absurd (Json.allDigits_toDigits n _ h) (by decide)
  refine ⟨_, rfl, ?_⟩
  rw [String.toList_ofList, hlines]
  exact Json.read_toDigits_of_long hn

/-- No session can be started on an overlong file. -/
theorem IsOverlong.not_isOpenable (h : file.IsOverlong digits) :
    ¬ (PreferenceStore.onDisk file).IsOpenable := by
  intro hopen
  have hget : file.get PreferenceStore.libraryKey = .error (.longInteger digits) :=
    get_eq_error_iff.2 (load_eq_longInteger_iff.2 h)
  cases hopen _ hget

/-! ## What is contained -/

/-- Whether a failure of a file stays a matter of storage, which a session lives with. -/
structure IsContained (file : PreferenceFile) : Prop where
  gets : ∀ key, Succeeds (file.get key) ∨ ∃ e, file.get key = .error e ∧ e.isStorage = true
  sets : ∀ key value,
    (∃ new, file.set key value = .ok new ∧ new.get key = .ok (.str value)) ∨
      ∃ e, file.set key value = .error e ∧ e.isStorage = true
  /-- At worst there is one message, and it is an error. -/
  starts : ∀ config form clipboard digits, ∃ session,
    Session.start config form (.onDisk file) clipboard digits = .ok session ∧
      session.form = form ∧
        (session.toasts = [] ∨ ∃ message, session.toasts = [⟨.error, message⟩])

/-- Whether nothing can be done with a file, for the same reason. -/
structure Escapes (file : PreferenceFile) (e : StoreError) : Prop where
  gets : ∀ key, file.get key = .error e
  sets : ∀ key value, file.set key value = .error e
  starts : ∀ config form clipboard digits,
    Session.start config form (.onDisk file) clipboard digits = .error e

theorem IsLoadable.isContained (h : file.IsLoadable) : file.IsContained := by
  have hget : ∀ key, Succeeds (file.get key) ∨
      ∃ e, file.get key = .error e ∧ e.isStorage = true := by
    intro key
    cases hkey : file.get key with
    | ok v => exact .inl ⟨v, rfl⟩
    | error e => exact .inr ⟨e, rfl, h e (get_eq_error_iff.1 hkey)⟩
  refine { gets := hget, sets := fun key value => ?_, starts := fun config form _ _ => ?_ }
  · cases hset : file.set key value with
    | ok new => exact .inl ⟨new, rfl, get_set hset⟩
    | error e => exact .inr ⟨e, rfl, isStorage_of_set h hset⟩
  · unfold Session.start PreferenceStore.get
    rcases hget PreferenceStore.libraryKey with ⟨saved, hsaved⟩ | ⟨e, he, hstorage⟩
    · simp only [hsaved]
      exact ⟨_, rfl, rfl, .inl rfl⟩
    · simp only [he, hstorage, if_true]
      exact ⟨_, rfl, rfl, .inr ⟨_, rfl⟩⟩

theorem escapes_of_load (h : file.load = .error e) (he : e.isStorage = false) :
    file.Escapes e := by
  have hget : ∀ key, file.get key = .error e := fun _ => get_eq_error_iff.2 h
  refine { gets := hget, sets := fun _ _ => set_of_load_error h he, starts := ?_ }
  · intro config form _ _
    simp [Session.start, PreferenceStore.get, hget, he]

theorem Escapes.not_isContained (h : file.Escapes e) (he : e.isStorage = false) :
    ¬ file.IsContained := by
  intro hcontained
  rcases hcontained.gets "" with ⟨v, hv⟩ | ⟨e', he', hstorage⟩
  · rw [h.gets] at hv
    cases hv
  · rw [h.gets] at he'
    cases he'
    rw [he] at hstorage
    cases hstorage

/-- **What a file cannot give is a matter of storage**, unless reading it ends at an integer of too
many digits: then nothing can be got or set, and no session starts. -/
theorem isContained_iff_and_escapes (file : PreferenceFile) :
    (file.IsContained ↔ ∀ digits, ¬ file.IsOverlong digits) ∧
      ∀ digits, file.IsOverlong digits → file.Escapes (.longInteger digits) ∧
        ∃ content, file.place = .text content ∧ Json.HasLongRun digits content.toList := by
  have hescapes : ∀ digits, file.IsOverlong digits → file.Escapes (.longInteger digits) :=
    fun digits h => escapes_of_load (load_eq_longInteger_iff.2 h) rfl
  refine ⟨⟨fun h digits hlong => ?_, fun h => ?_⟩, fun digits h => ?_⟩
  · exact (hescapes digits hlong).not_isContained rfl h
  · exact (isLoadable_iff.2 h).isContained
  · exact ⟨hescapes digits h, h.exists_hasLongRun⟩

/-- A one and as many zeros as an integer may have digits. -/
theorem not_isContained_of_power_of_ten :
    let content := String.ofList (Nat.toDigits 10 (10 ^ Json.integerDigitLimit))
    let file : PreferenceFile := ⟨"preferences.json", .text content⟩
    ¬ file.IsContained ∧ ∃ digits, Json.integerDigitLimit < digits ∧
      file.get "formLibrary" = .error (.longInteger digits) := by
  intro content file
  have hlong : Json.integerDigitLimit < Binary64.digitCount (10 ^ Json.integerDigitLimit) :=
    Json.lt_digitCount_pow (by decide)
  have hover : file.IsOverlong _ := isOverlong_of_toDigits "preferences.json" hlong
  obtain ⟨hiff, hescapes⟩ := isContained_iff_and_escapes file
  exact ⟨fun h => hiff.1 h _ hover, _, hlong, (hescapes _ hover).1.gets _⟩

end PreferenceFile

end FormStudio
