import FormStudio.Proofs.Session.Frame
import Mathlib.Data.List.Induction

/-!
# The library of a session

The library is kept twice, in the session and in its store. A choice writes both
(`Session.step_of_set`), and no other command writes either (`Session.step_of_chosen?_eq_none`). So
on a store that works, the library of a session is the one that a new session would start with
(`Session.IsSaved`), and on a store that always fails it is the one chosen last, with a message for
each choice that could not be saved (`Session.IsUnsaved`, `Session.TakesUnsaved`). This holds from
the start and after every command (`Session.library_of_run`).
-/
namespace FormStudio

/-! ## Choices -/

/-- The library that a command chooses, if it is a choice and names a library. -/
def Command.chosen? : Command → Option Library
  | .select choice => (Library.ofJson choice).toOption
  | _ => none

/-- The library chosen last. -/
def Command.lastChosen? (commands : List Command) : Option Library :=
  (commands.filterMap chosen?).getLast?

theorem Command.lastChosen?_concat (commands : List Command) (command : Command) :
    lastChosen? (commands ++ [command]) = command.chosen?.or (lastChosen? commands) := by
  unfold lastChosen?
  cases h : command.chosen? <;> simp [List.filterMap_append, h]

theorem Library.mem_all (library : Library) : library ∈ all := by
  cases library <;> decide

namespace Session

variable (studio : Studio) {session : Session} {command : Command} {library : Library}

theorem run_concat (studio : Studio) (session : Session) (commands : List Command)
    (command : Command) :
    session.run studio (commands ++ [command]) =
      ((session.run studio commands).step studio command).2 := by
  rw [run_append]
  rfl

/-- A command that chooses no library leaves the library and the store alone. -/
theorem step_of_chosen?_eq_none (hstore : session.store.IsOpenable)
    (h : command.chosen? = none) :
    (session.step studio command).2.library = session.library ∧
      (session.step studio command).2.store = session.store := by
  have hframed : session.IsFramed studio command (session.step studio command) :=
    isFramed_step hstore command
  generalize session.step studio command = result at hframed ⊢
  obtain ⟨outcome, new⟩ := result
  cases outcome with
  | error e =>
    have hseen : session.IsSeenIn new := hframed
    rw [hseen]
    exact ⟨rfl, rfl⟩
  | ok reply =>
    have hframes : Frames studio session command reply new := hframed
    cases hframes with
    | selected hlibrary _ _ =>
      rw [Command.chosen?, hlibrary] at h
      cases h
    | notSaved hlibrary _ _ =>
      rw [Command.chosen?, hlibrary] at h
      cases h
    | _ => exact ⟨rfl, rfl⟩

/-- A choice is a command that asks for the library. -/
theorem exists_choice_of_chosen? (h : command.chosen? = some library) :
    ∃ choice, command = .select choice ∧ Library.ofJson choice = .ok library := by
  cases command with
  | select choice => exact ⟨choice, rfl, toOption_eq_some_iff.1 h⟩
  | _ => cases h

/-- A library that is chosen is saved, where the store takes it. -/
theorem step_of_set {store : PreferenceStore} (h : command.chosen? = some library)
    (hset : session.store.set PreferenceStore.libraryKey library.id = .ok store) :
    session.step studio command =
      (.ok (.library library), { session with library := library, store := store }) := by
  obtain ⟨choice, rfl, hlibrary⟩ := exists_choice_of_chosen? h
  rw [step, select, hlibrary]
  simp only [hset]

/-- A library that is chosen stays chosen with a message, where the store fails. -/
theorem step_of_set_error {e : StoreError} (h : command.chosen? = some library)
    (hset : session.store.set PreferenceStore.libraryKey library.id = .error e)
    (hstorage : e.isStorage = true) :
    session.step studio command =
      (.ok (.library library), { session with library := library }.notify .error
        ("Could not save form library preference: " ++ e.message)) := by
  obtain ⟨choice, rfl, hlibrary⟩ := exists_choice_of_chosen? h
  rw [step, select, hlibrary]
  simp only [hset, hstorage, if_true]

/-! ## Stores that work -/

/-- The library is the one that is saved, as far as that is known, else the configured one. -/
structure IsSaved (config : Config) (session : Session) : Prop where
  works : session.store.IsWorking
  saved : ∃ saved, session.store.get PreferenceStore.libraryKey = .ok saved ∧
    session.library = .resolve config saved.text?

theorem IsSaved.step {config : Config} (h : session.IsSaved config) (command : Command) :
    (session.step studio command).2.IsSaved config := by
  cases hchosen : command.chosen? with
  | none =>
    obtain ⟨hlibrary, hstore⟩ := step_of_chosen?_eq_none studio h.works.isOpenable hchosen
    exact ⟨hstore ▸ h.works, by rw [hlibrary, hstore]; exact h.saved⟩
  | some library =>
    obtain ⟨store, hset⟩ := h.works.sets library.id
    rw [step_of_set studio hchosen hset]
    refine ⟨.of_set hset, .str library.id, PreferenceStore.get_set hset, ?_⟩
    exact (Library.resolve_id config library).symm

theorem IsSaved.run {config : Config} (h : session.IsSaved config) (commands : List Command) :
    (session.run studio commands).IsSaved config := by
  induction commands generalizing session with
  | nil => exact h
  | cons command rest ih => exact ih (h.step studio command)

section Start

variable (config : Config) {store : PreferenceStore} (form : Form) (clipboard : Clipboard)
  (digits : DigitSource)

/-- A session starts with the library that is saved. -/
theorem start_of_get {saved : Json} (hget : store.get PreferenceStore.libraryKey = .ok saved) :
    start config form store clipboard digits =
      .ok ⟨form, .resolve config saved.text?, store, [], clipboard, none, digits⟩ := by
  rw [start, hget]

theorem exists_start_of_isWorking (hstore : store.IsWorking) :
    ∃ session, start config form store clipboard digits = .ok session ∧ session.IsSaved config := by
  obtain ⟨saved, hget⟩ := hstore.gets
  exact ⟨_, start_of_get config form clipboard digits hget, hstore, saved, hget, rfl⟩

/-- A new session on the store of a session has its library. -/
theorem IsSaved.exists_start (h : session.IsSaved config) :
    ∃ new, start config form session.store clipboard digits = .ok new ∧
      new.library = session.library := by
  obtain ⟨saved, hget, hlibrary⟩ := h.saved
  exact ⟨_, start_of_get config form clipboard digits hget, hlibrary.symm⟩

end Start

/-! ## Stores that fail -/

/-- The library is the one chosen last, else the configured one, and the store is what it was. -/
structure IsUnsaved (config : Config) (store : PreferenceStore) (commands : List Command)
    (session : Session) : Prop where
  same : session.store = store
  chosen : session.library = (Command.lastChosen? commands).getD (.resolve config none)

/-- A library is chosen and cannot be saved: it stays chosen, with one more message. -/
def TakesUnsaved (studio : Studio) (session : Session) (command : Command) (library : Library) :
    Prop :=
  ∃ message, session.step studio command =
    (.ok (.library library),
      { session with
        library := library
        toasts := session.toasts ++ [⟨.error, message⟩] })

theorem takesUnsaved_of_chosen? (hstore : session.store.IsFailing)
    (h : command.chosen? = some library) : session.TakesUnsaved studio command library := by
  obtain ⟨e, hset, hstorage⟩ := hstore.sets library.id
  exact ⟨_, step_of_set_error studio h hset hstorage⟩

variable {config : Config} {store : PreferenceStore}

theorem IsUnsaved.step {commands : List Command} (hstore : store.IsFailing)
    (h : session.IsUnsaved config store commands) (command : Command) :
    (session.step studio command).2.IsUnsaved config store (commands ++ [command]) := by
  have hfailing : session.store.IsFailing := h.same ▸ hstore
  constructor
  · cases hchosen : command.chosen? with
    | none =>
      exact (step_of_chosen?_eq_none studio hfailing.isOpenable hchosen).2.trans h.same
    | some library =>
      obtain ⟨message, hstep⟩ := takesUnsaved_of_chosen? studio hfailing hchosen
      rw [hstep]
      exact h.same
  · rw [Command.lastChosen?_concat]
    cases hchosen : command.chosen? with
    | none =>
      rw [(step_of_chosen?_eq_none studio hfailing.isOpenable hchosen).1, Option.none_or]
      exact h.chosen
    | some library =>
      obtain ⟨message, hstep⟩ := takesUnsaved_of_chosen? studio hfailing hchosen
      rw [hstep]
      rfl

theorem IsUnsaved.run (hstore : store.IsFailing)
    (h : session.IsUnsaved config store []) (commands : List Command) :
    (session.run studio commands).IsUnsaved config store commands := by
  induction commands using List.reverseRecOn with
  | nil => exact h
  | append_singleton commands command ih =>
    rw [run_concat]
    exact ih.step studio hstore command

/-- A session on a store that fails starts with the configured library and one message. -/
theorem exists_start_of_isFailing (config : Config) (form : Form) (clipboard : Clipboard)
    (digits : DigitSource) {store : PreferenceStore} (hstore : store.IsFailing) :
    ∃ session, start config form store clipboard digits = .ok session ∧
      session.IsUnsaved config store [] ∧ ∃ message, session.toasts = [⟨.error, message⟩] := by
  obtain ⟨e, hget, hstorage⟩ := hstore.gets
  rw [start, hget]
  simp only [hstorage, if_true]
  exact ⟨_, rfl, ⟨rfl, rfl⟩, _, rfl⟩

/-! ## Runs -/

/-- **The library of a session** is always a known one. On a store that works it is the saved one,
from the start and after every command, so that a new session on the store begins with it. On a
store that always fails it is the configured one, until the first choice, and then the last one
chosen; the start and each choice show one message. -/
theorem library_of_run (studio : Studio) (form : Form) (store : PreferenceStore)
    (clipboard : Clipboard) (digits : DigitSource) :
    (store.IsWorking → ∃ session, start studio.config form store clipboard digits = .ok session ∧
      ∀ commands, let now := session.run studio commands
        now.library ∈ Library.all ∧ now.IsSaved studio.config ∧
          ∀ form clipboard digits, ∃ new, start studio.config form now.store clipboard digits =
            .ok new ∧ new.library = now.library) ∧
    (store.IsFailing → ∃ session, start studio.config form store clipboard digits = .ok session ∧
      (∃ message, session.toasts = [⟨.error, message⟩]) ∧
      ∀ commands, let now := session.run studio commands
        now.library ∈ Library.all ∧ now.IsUnsaved studio.config store commands ∧
          ∀ command library, command.chosen? = some library →
            now.TakesUnsaved studio command library) := by
  constructor
  · intro hstore
    obtain ⟨session, hstart, hsaved⟩ :=
      exists_start_of_isWorking studio.config form clipboard digits hstore
    refine ⟨session, hstart, fun commands => ?_⟩
    have hnow := hsaved.run studio commands
    exact ⟨Library.mem_all _, hnow, hnow.exists_start studio.config⟩
  · intro hstore
    obtain ⟨session, hstart, hunsaved, htoast⟩ :=
      exists_start_of_isFailing studio.config form clipboard digits hstore
    refine ⟨session, hstart, htoast, fun commands => ?_⟩
    have hnow := hunsaved.run studio hstore commands
    exact ⟨Library.mem_all _, hnow, fun command library =>
      takesUnsaved_of_chosen? studio (hnow.same ▸ hstore)⟩

/-- A configured library that is unknown, an unknown one that is saved, a choice that is refused and
one that is not. -/
theorem library_of_run_with_unknown_names :
    let studio := Studio.ofSetup ⟨{ defaultLibrary := "vue" }, Handler.builtin⟩
    let saved : PreferenceStore := .memory [("formLibrary", .str "svelte")]
    let commands : List Command := [.select (.str "tanstack-form"), .select (.str "vue"), .reset]
    (∃ session, start studio.config [] saved (.holding none) (.ofText "") = .ok session ∧
      session.library = .reactHookForm ∧ (session.run studio commands).IsSaved studio.config) ∧
    ∃ session, start studio.config [] .disabled (.holding none) (.ofText "") = .ok session ∧
      session.library = .reactHookForm ∧
        (session.run studio commands).library = .tanstackForm := by
  intro studio saved commands
  obtain ⟨hworking, -⟩ := library_of_run studio [] saved (.holding none) (.ofText "")
  obtain ⟨-, hfailing⟩ := library_of_run studio [] .disabled (.holding none) (.ofText "")
  obtain ⟨session, hstart, hnow⟩ := hworking (PreferenceStore.isWorking_memory _)
  obtain ⟨other, hother, -, hunsaved⟩ := hfailing PreferenceStore.isFailing_disabled
  refine ⟨⟨session, hstart, ?_, (hnow commands).2.1⟩, other, hother, ?_, ?_⟩
  · cases hstart
    decide
  · cases hother
    decide
  · exact (hunsaved commands).2.1.chosen.trans (by decide)

end Session

end FormStudio
