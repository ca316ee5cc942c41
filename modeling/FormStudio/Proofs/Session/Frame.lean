import FormStudio.Proofs.Preferences.Containment
import FormStudio.Proofs.Session.Cache

/-!
# What a command changes

`Session.Frames` lists what the commands that succeed do, one case for each outcome: the session
after it is the one before with the named parts replaced, so everything else is as it was. A command
that fails replaces nothing that can be seen (`Session.IsSeenIn`): it may only have used up a new
name or have kept artifacts for later.

The one exception is a store that cannot be opened, since an integer in its file is too long to be
read: choosing another library fails after the library was changed. No session starts on such a
store, and commands write none, but the file may be changed behind the session. `Session.step_framed`
says of every session which commands are framed, and what becomes of the others.
-/
namespace FormStudio

namespace Session

/-! ## Frames -/

/-- Whether a session looks like another one: the form, the library, the store, the messages and the
clipboard are the same. -/
def IsSeenIn (session new : Session) : Prop :=
  new = { session with kept := new.kept, digits := new.digits }

/-- What a command that succeeds does. -/
inductive Frames (studio : Studio) (session : Session) : Command → Reply → Session → Prop
  | add {variant : String} {index : Option Json} {form : Form} {f : Field} {digits : DigitSource}
    (h : session.form.add variant (index.getD (.int session.form.length)) session.digits =
      (.ok (form, f), digits)) :
    Frames studio session (.add variant index) (.field f)
      { session with form := form, digits := digits }
  | edit {name : String} {updates : Update} {path : FieldPath} {form : Form} {f : Field}
    (hpath : session.form.find? name = some path)
    (hform : session.form.update path updates = .ok form) (hfield : form.get path = .ok f) :
    Frames studio session (.edit name updates) (.field f) { session with form := form }
  | remove {name : String} {form : Form} (h : session.form.remove name = .ok form) :
    Frames studio session (.remove name) .done { session with form := form }
  | reset : Frames studio session .reset .done { session with form := [] }
  | importForm {source : Json} {form : Form} (h : Form.ofSource source = .ok form) :
    Frames studio session (.importForm source) .done { session with form := form }
  | exportText {text : String} (h : session.form.text studio.config.indent = .ok text) :
    Frames studio session .exportText (.text text) session
  | selected {choice : Json} {library : Library} {store : PreferenceStore}
    (h : Library.ofJson choice = .ok library)
    (hset : session.store.set PreferenceStore.libraryKey library.id = .ok store)
    (hget : store.get PreferenceStore.libraryKey = .ok (.str library.id)) :
    Frames studio session (.select choice) (.library library)
      { session with library := library, store := store }
  | notSaved {choice : Json} {library : Library} {e : StoreError}
    (h : Library.ofJson choice = .ok library)
    (hset : session.store.set PreferenceStore.libraryKey library.id = .error e)
    (hstorage : e.isStorage = true) :
    Frames studio session (.select choice) (.library library)
      { session with
        library := library
        toasts := session.toasts ++
          [⟨.error, "Could not save form library preference: " ++ e.message⟩] }
  | artifacts {artifacts : Artifacts} {wasKept : Bool} {kept : Option Artifacts} :
    Frames studio session .artifacts (.artifacts artifacts wasKept) { session with kept := kept }
  | copied {name text : String} {kind : ArtifactKind} {held : Option String}
    {kept : Option Artifacts} (hkind : ArtifactKind.ofId? name = some kind)
    (hclipboard : session.clipboard = .holding held) :
    Frames studio session (.copy name) (.copied true)
      { session with
        kept := kept
        clipboard := .holding (some text)
        toasts := session.toasts ++ [⟨.success, kind.label ++ " copied to clipboard"⟩] }
  | notCopied {name : String} {kept : Option Artifacts}
    (hclipboard : session.clipboard = .unavailable) :
    Frames studio session (.copy name) (.copied false)
      { session with kept := kept, toasts := session.toasts ++ [⟨.error, "Failed to copy"⟩] }
  | text {name text : String} {kept : Option Artifacts} :
    Frames studio session (.text name) (.text text) { session with kept := kept }
  | notify {kind : ToastKind} {message : String} :
    Frames studio session (.notify kind message) (.toast ⟨kind, message⟩)
      { session with toasts := session.toasts ++ [⟨kind, message⟩] }
  | clear : Frames studio session .clear .done { session with toasts := [] }

/-- The frame of the outcome of a command. -/
def IsFramed (studio : Studio) (session : Session) (command : Command) :
    Except SessionError Reply × Session → Prop
  | (.ok reply, new) => Frames studio session command reply new
  | (.error _, new) => session.IsSeenIn new

/-! ## Steps -/

variable {studio : Studio} {session new : Session}

theorem isSeenIn_self : session.IsSeenIn session := rfl

theorem isSeenIn_kept (kept : Option Artifacts) : session.IsSeenIn { session with kept := kept } :=
  rfl

theorem isFramed_add (variant : String) (index : Option Json) :
    session.IsFramed studio (.add variant index) (session.step studio (.add variant index)) := by
  simp only [step, Session.add]
  cases hadd : session.form.add variant (index.getD (.int session.form.length)) session.digits with
  | mk outcome digits =>
    cases outcome with
    | error e => exact rfl
    | ok added => exact .add hadd

theorem isFramed_edit (name : String) (updates : Update) :
    session.IsFramed studio (.edit name updates) (session.step studio (.edit name updates)) := by
  simp only [step, Session.edit]
  cases hpath : session.form.find? name with
  | none => exact isSeenIn_self
  | some path =>
    dsimp only
    cases hform : session.form.update path updates with
    | error e => exact isSeenIn_self
    | ok form =>
      obtain ⟨f, hfield⟩ := Form.get_of_update hform
      simp only [ok_bind, hfield]
      exact .edit hpath hform hfield

theorem isFramed_remove (name : String) :
    session.IsFramed studio (.remove name) (session.step studio (.remove name)) := by
  simp only [step, Session.remove]
  cases hform : session.form.remove name with
  | error e => exact isSeenIn_self
  | ok form => exact .remove hform

theorem isFramed_importForm (source : Json) :
    session.IsFramed studio (.importForm source) (session.step studio (.importForm source)) := by
  simp only [step, Session.importForm]
  cases hform : Form.ofSource source with
  | error e => exact isSeenIn_self
  | ok form => exact .importForm hform

theorem isFramed_exportText :
    session.IsFramed studio .exportText (session.step studio .exportText) := by
  simp only [step, Session.exportText]
  cases htext : session.form.text studio.config.indent with
  | error e => exact isSeenIn_self
  | ok text => exact .exportText htext

/-- A store that can be opened either saves a library, or fails for a reason of storage. -/
theorem isFramed_select (hstore : session.store.IsOpenable) (choice : Json) :
    session.IsFramed studio (.select choice) (session.step studio (.select choice)) := by
  simp only [step, Session.select]
  cases hlibrary : Library.ofJson choice with
  | error e => exact isSeenIn_self
  | ok library =>
    dsimp only
    cases hset : session.store.set PreferenceStore.libraryKey library.id with
    | ok store => exact .selected hlibrary hset (PreferenceStore.get_set hset)
    | error e =>
      have hstorage := hstore.isStorage_of_set hset
      simp only [hstorage, if_true]
      exact .notSaved hlibrary hset hstorage

theorem isFramed_artifacts :
    session.IsFramed studio .artifacts (session.step studio .artifacts) := by
  rw [step]
  cases hartifacts : session.artifacts studio with
  | error e => exact isSeenIn_self
  | ok result =>
    obtain ⟨⟨artifacts, kept⟩, new⟩ := result
    rw [artifacts_form hartifacts]
    exact .artifacts

/-- Asking for the text of an artifact may keep artifacts, whether there is such a text or not. -/
theorem exists_kept_of_artifactText {name : String}
    {outcome : Except SessionError (ArtifactKind × String)}
    (h : session.artifactText studio name = (outcome, new)) :
    ∃ kept, new = { session with kept := kept } := by
  have hderived := session.artifactText_session studio name
  rw [h, derived] at hderived
  cases hartifacts : session.artifacts studio with
  | error e =>
    rw [hartifacts] at hderived
    exact ⟨session.kept, hderived⟩
  | ok result =>
    rw [hartifacts] at hderived
    exact ⟨_, hderived.trans (artifacts_form hartifacts)⟩

theorem ofId?_of_artifactText {name text : String} {kind : ArtifactKind}
    (h : session.artifactText studio name = (.ok (kind, text), new)) :
    ArtifactKind.ofId? name = some kind := by
  unfold artifactText at h
  split at h
  · cases h
  · split at h
    · cases h
    · next hkind =>
      cases h
      exact hkind

theorem isFramed_text (name : String) :
    session.IsFramed studio (.text name) (session.step studio (.text name)) := by
  rw [step]
  cases htext : session.artifactText studio name with
  | mk outcome new =>
    obtain ⟨kept, rfl⟩ := exists_kept_of_artifactText htext
    cases outcome with
    | error e => exact isSeenIn_kept kept
    | ok found => exact .text

theorem isFramed_copy (name : String) :
    session.IsFramed studio (.copy name) (session.step studio (.copy name)) := by
  rw [step, Session.copy]
  cases htext : session.artifactText studio name with
  | mk outcome new =>
    obtain ⟨kept, rfl⟩ := exists_kept_of_artifactText htext
    cases outcome with
    | error e => exact isSeenIn_kept kept
    | ok found =>
      have hkind := ofId?_of_artifactText htext
      dsimp only
      cases hclipboard : session.clipboard with
      | holding held => exact .copied hkind hclipboard
      | unavailable =>
        have hframe : Frames studio session (.copy name) (.copied false)
            { session with
              kept := kept
              toasts := session.toasts ++ [⟨.error, "Failed to copy"⟩] } :=
          .notCopied hclipboard
        rw [hclipboard] at hframe
        exact hframe

/-- On a store that cannot be opened, choosing a library fails when it is chosen. -/
theorem select_of_not_isOpenable (hstore : ¬ session.store.IsOpenable) {choice : Json}
    {library : Library} (h : Library.ofJson choice = .ok library) :
    ∃ e, e.isStorage = false ∧
      session.select choice = (.error (.storeFailed e), { session with library := library }) := by
  obtain ⟨e, he, hset⟩ := PreferenceStore.exists_set_of_not_isOpenable hstore
  exact ⟨e, he, by simp [Session.select, h, hset, he]⟩

theorem step_select_of_not_isOpenable (studio : Studio) (hstore : ¬ session.store.IsOpenable)
    {choice : Json} {library : Library} (h : Library.ofJson choice = .ok library) :
    ∃ e, e.isStorage = false ∧ session.step studio (.select choice) =
      (.error (.storeFailed e), { session with library := library }) := by
  obtain ⟨e, he, hselect⟩ := select_of_not_isOpenable hstore h
  exact ⟨e, he, by rw [step, hselect]⟩

theorem isFramed_select_iff (choice : Json) :
    session.IsFramed studio (.select choice) (session.step studio (.select choice)) ↔
      (session.store.IsOpenable ∨
        ∀ library, Library.ofJson choice = .ok library → library = session.library) := by
  by_cases hstore : session.store.IsOpenable
  · exact iff_of_true (isFramed_select hstore choice) (.inl hstore)
  rw [or_iff_right hstore]
  cases hlibrary : Library.ofJson choice with
  | error e =>
    simp only [step, Session.select, hlibrary]
    exact iff_of_true isSeenIn_self fun _ h => by cases h
  | ok library =>
    obtain ⟨e, -, hstep⟩ := step_select_of_not_isOpenable studio hstore hlibrary
    rw [hstep]
    constructor
    · intro hseen chosen hchosen
      cases hchosen
      exact congrArg Session.library hseen
    · rintro h
      rw [h library rfl]
      exact isSeenIn_self

/-- A command that chooses no library is framed on every store. -/
theorem isFramed_of_ne_select {command : Command} (h : ∀ choice, command ≠ .select choice) :
    session.IsFramed studio command (session.step studio command) := by
  cases command with
  | add variant index => exact isFramed_add variant index
  | edit name updates => exact isFramed_edit name updates
  | remove name => exact isFramed_remove name
  | reset => exact .reset
  | importForm source => exact isFramed_importForm source
  | exportText => exact isFramed_exportText
  | select choice => exact absurd rfl (h choice)
  | artifacts => exact isFramed_artifacts
  | copy name => exact isFramed_copy name
  | text name => exact isFramed_text name
  | notify kind message => exact .notify
  | clear => exact .clear

/-- **A command is framed** if the store can be opened. -/
theorem isFramed_step (hstore : session.store.IsOpenable) (command : Command) :
    session.IsFramed studio command (session.step studio command) := by
  by_cases h : ∃ choice, command = .select choice
  · obtain ⟨choice, rfl⟩ := h
    exact isFramed_select hstore choice
  · exact isFramed_of_ne_select fun choice hchoice => h ⟨choice, hchoice⟩

/-- **When a command is framed.** -/
theorem isFramed_step_iff (command : Command) :
    session.IsFramed studio command (session.step studio command) ↔
      session.store.IsOpenable ∨ ∀ choice library, command = .select choice →
        Library.ofJson choice = .ok library → library = session.library := by
  by_cases h : ∃ choice, command = .select choice
  · obtain ⟨choice, rfl⟩ := h
    rw [isFramed_select_iff]
    refine or_congr_right ⟨fun h _ library hcommand hlibrary => ?_,
      fun h library hlibrary => h choice library rfl hlibrary⟩
    cases hcommand
    exact h library hlibrary
  · have hother : ∀ choice, command ≠ .select choice := fun choice hchoice => h ⟨choice, hchoice⟩
    exact iff_of_true (isFramed_of_ne_select hother)
      (.inr fun choice _ hchoice => absurd hchoice (hother choice))

/-! ## Sessions as they come about -/

/-- The sessions that come about: one is started on fields that were read, commands are applied,
whether they fail or not, and from outside the store may be changed for any other one. -/
inductive Reachable (studio : Studio) : Session → Prop
  | start {config : Config} {form : Form} {store : PreferenceStore} {clipboard : Clipboard}
    {digits : DigitSource} {session : Session} (hform : ∀ f ∈ form.fields, f.IsRead)
    (h : Session.start config form store clipboard digits = .ok session) : Reachable studio session
  | step {session : Session} (h : Reachable studio session) (command : Command) :
    Reachable studio (session.step studio command).2
  | outside {session : Session} (h : Reachable studio session) (store : PreferenceStore) :
    Reachable studio { session with store := store }

theorem Reachable.run (h : session.Reachable studio) (commands : List Command) :
    (session.run studio commands).Reachable studio := by
  induction commands generalizing session with
  | nil => exact h
  | cons command rest ih => exact ih (h.step command)

/-- A session that was started has the given form, and a store that can be opened. -/
theorem of_start {config : Config} {form : Form} {store : PreferenceStore} {clipboard : Clipboard}
    {digits : DigitSource} (h : Session.start config form store clipboard digits = .ok session) :
    session.form = form ∧ session.store = store ∧ session.kept = none ∧ store.IsOpenable := by
  unfold Session.start at h
  split at h
  · next saved hget =>
    cases h
    refine ⟨rfl, rfl, rfl, fun e he => ?_⟩
    rw [hget] at he
    cases he
  · next e hget =>
    split at h
    · next hstorage =>
      cases h
      refine ⟨rfl, rfl, rfl, fun e' he' => ?_⟩
      rw [hget] at he'
      cases he'
      exact hstorage
    · cases h

theorem isOpenable_step (hstore : session.store.IsOpenable) (command : Command) :
    (session.step studio command).2.store.IsOpenable := by
  have hframed : session.IsFramed studio command (session.step studio command) :=
    isFramed_step hstore command
  generalize session.step studio command = result at hframed ⊢
  obtain ⟨outcome, new⟩ := result
  cases outcome with
  | error e =>
    have hseen : session.IsSeenIn new := hframed
    rw [hseen]
    exact hstore
  | ok reply =>
    have hframes : Frames studio session command reply new := hframed
    cases hframes with
    | selected _ hset _ => exact PreferenceStore.isOpenable_of_set hset
    | _ => exact hstore

theorem Reachable.isRead (h : session.Reachable studio) : ∀ f ∈ session.form.fields, f.IsRead := by
  induction h with
  | start hform h =>
    obtain ⟨heq, -⟩ := of_start h
    rwa [heq]
  | step _ command ih => exact isRead_step ih command
  | outside _ _ ih => exact ih

/-- A run leaves a store that can be opened as one. -/
theorem isOpenable_run (hstore : session.store.IsOpenable) (commands : List Command) :
    (session.run studio commands).store.IsOpenable := by
  induction commands generalizing session with
  | nil => exact hstore
  | cons command rest ih => exact ih (isOpenable_step hstore command)

/-- **The commands of a session are atomic and framed**, on every store but one that cannot be
opened: a command that fails leaves all that can be seen as it was, and one that succeeds changes
what it is for. No run of commands comes to such a store. On it, a library is chosen and the command
fails all the same, which changes the session unless the library was chosen before. -/
theorem step_framed (studio : Studio) (session : Session) (command : Command) :
    (session.IsFramed studio command (session.step studio command) ↔
      session.store.IsOpenable ∨ ∀ choice library, command = .select choice →
        Library.ofJson choice = .ok library → library = session.library) ∧
    (session.store.IsOpenable → ∀ commands, let now := session.run studio commands
      now.IsFramed studio command (now.step studio command)) ∧
    (¬ session.store.IsOpenable → ∀ choice library, Library.ofJson choice = .ok library →
      ∃ e, e.isStorage = false ∧ session.step studio (.select choice) =
        (.error (.storeFailed e), { session with library := library })) := by
  exact ⟨isFramed_step_iff command,
    fun hstore commands => isFramed_step (isOpenable_run hstore commands) command,
    fun hstore _ _ => step_select_of_not_isOpenable studio hstore⟩

/-- A file that comes to hold a one and as many zeros as an integer may have digits, behind a
session. -/
theorem step_framed_fails_on_long_integer :
    let studio := Studio.ofSetup .standard
    let content := String.ofList (Nat.toDigits 10 (10 ^ Json.integerDigitLimit))
    let session : Session := ⟨[], .reactHookForm, .onDisk ⟨"preferences.json", .text content⟩, [],
      .holding none, none, .ofText ""⟩
    session.Reachable studio ∧
      ¬ session.IsFramed studio (.select (.str "tanstack-form"))
        (session.step studio (.select (.str "tanstack-form"))) ∧
      (session.step studio (.select (.str "tanstack-form"))).2.library = .tanstackForm ∧
      session.IsFramed studio (.select (.str "react-hook-form"))
        (session.step studio (.select (.str "react-hook-form"))) := by
  intro studio content session
  have hstart : Session.start studio.config [] (.onDisk ⟨"preferences.json", .absent⟩)
      (.holding none) (.ofText "") =
        .ok { session with store := .onDisk ⟨"preferences.json", .absent⟩ } := rfl
  have hreachable : session.Reachable studio :=
    .outside (.start (List.forall_mem_nil _) hstart) session.store
  have hlong : Json.integerDigitLimit < Binary64.digitCount (10 ^ Json.integerDigitLimit) :=
    Json.lt_digitCount_pow (by decide)
  have hclosed : ¬ session.store.IsOpenable :=
    (PreferenceFile.isOverlong_of_toDigits "preferences.json" hlong).not_isOpenable
  -- what follows holds of any such file, and does not look at the digits
  clear_value content
  have hchosen : Library.ofJson (.str "tanstack-form") = .ok .tanstackForm := rfl
  have hkept : Library.ofJson (.str "react-hook-form") = .ok .reactHookForm := rfl
  obtain ⟨hiff, -, hfails⟩ := step_framed studio session (.select (.str "tanstack-form"))
  obtain ⟨hiff', -, -⟩ := step_framed studio session (.select (.str "react-hook-form"))
  obtain ⟨e, -, hstep⟩ := hfails hclosed _ _ hchosen
  refine ⟨hreachable, fun h => ?_, congrArg (fun outcome => outcome.2.library) hstep, ?_⟩
  · rcases hiff.1 h with hopen | hsame
    · exact hclosed hopen
    · have hlibrary : Library.tanstackForm = .reactHookForm := hsame _ _ rfl hchosen
      cases hlibrary
  · refine hiff'.2 (.inr fun choice library hcommand hlibrary => ?_)
    cases hcommand
    rw [hkept] at hlibrary
    cases hlibrary
    rfl

end Session

end FormStudio
