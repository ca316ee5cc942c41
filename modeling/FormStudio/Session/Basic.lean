import FormStudio.Artifacts
import FormStudio.Form.Edit
import FormStudio.Form.Import
import FormStudio.Preferences

/-!
# Sessions

A session is the form that is being edited, the chosen library, and what is kept around them: the
preferences, the messages shown, the clipboard, and the artifacts derived last. Trouble with storage
or the clipboard is reported in a message and never touches the form.

Main statements: `Session.edit_fields`, an edit leaves everything but the form as it is, and
`Session.artifacts_form`, deriving artifacts changes no more than what is kept of them.
-/
namespace FormStudio

/-! ## Messages and the clipboard -/

/-- The tone of a message. -/
inductive ToastKind where
  | success
  | error
  | info
  | other (name : String)
  deriving DecidableEq, Repr

namespace ToastKind

/-- The name of a tone. -/
def id : ToastKind → String
  | .success => "success"
  | .error => "error"
  | .info => "info"
  | .other name => name

/-- The tone with a name. -/
def ofId : String → ToastKind
  | "success" => .success
  | "error" => .error
  | "info" => .info
  | name => .other name

end ToastKind

/-- A message that is shown for a while. -/
structure Toast where
  kind : ToastKind
  message : String
  deriving DecidableEq, Repr

/-- Where copied texts go. -/
inductive Clipboard where
  /-- The text copied last. -/
  | holding (text : Option String)
  /-- Every copy fails. -/
  | unavailable
  deriving DecidableEq, Repr

/-- The text copied last. -/
def Clipboard.text? : Clipboard → Option String
  | .holding text => text
  | .unavailable => none

/-! ## Sessions -/

/-- A session. -/
structure Session where
  form : Form
  library : Library
  store : PreferenceStore
  /-- The messages shown, in order. -/
  toasts : List Toast
  clipboard : Clipboard
  /-- The artifacts derived last. -/
  kept : Option Artifacts
  /-- Where the digits of new names come from. -/
  digits : DigitSource

/-- Why an operation of a session fails. -/
inductive SessionError where
  | notCreated (error : CreateError)
  | notEdited (error : EditError)
  | notImported (error : ImportError)
  | unknownLibrary (error : UnknownLibrary)
  | storeFailed (error : StoreError)
  | notDerived (error : DerivationError)
  | unknownKind (kind : String)
  deriving DecidableEq, Repr

def ArtifactKind.unknownMessage (kind : String) : String := "Unknown artifact kind: " ++ kind

namespace Session

def notify (session : Session) (kind : ToastKind) (message : String) : Session :=
  { session with toasts := session.toasts ++ [⟨kind, message⟩] }

/-- Removes all messages. -/
def clear (session : Session) : Session := { session with toasts := [] }

/-- The message shown last. -/
def lastToast? (session : Session) : Option Toast := session.toasts.getLast?

/-- Starts a session. The library is the saved one where it can be read and is known, else the
configured one. -/
def start (config : Config) (form : Form) (store : PreferenceStore) (clipboard : Clipboard)
    (digits : DigitSource) : Except StoreError Session :=
  let blank : Session := ⟨form, .resolve config none, store, [], clipboard, none, digits⟩
  match store.get PreferenceStore.libraryKey with
  | .ok saved => .ok { blank with library := .resolve config saved.text? }
  | .error e =>
    if e.isStorage then
      .ok (blank.notify .error ("Could not load saved form library: " ++ e.message))
    else .error e

/-! ## Changing the form -/

/-- Adds a field of a kind; without an index it is numbered as the last item. -/
def add (session : Session) (variant : String) (index : Option Json) :
    Except CreateError Field × Session :=
  let index := index.getD (.int session.form.length)
  match session.form.add variant index session.digits with
  | (.ok (form, f), digits) => (.ok f, { session with form := form, digits := digits })
  | (.error e, digits) => (.error e, { session with digits := digits })

/-- Merges an update into the field with a name. -/
def edit (session : Session) (name : String) (updates : Update) :
    Except EditError (Field × Session) :=
  match session.form.find? name with
  | none => .error (.noFieldNamed name)
  | some path => do
    let form ← session.form.update path updates
    let f ← form.get path
    .ok (f, { session with form := form })

/-- Removes the field with a name. -/
def remove (session : Session) (name : String) : Except EditError Session := do
  .ok { session with form := ← session.form.remove name }

/-- Removes all fields. -/
def reset (session : Session) : Session := { session with form := [] }

def importForm (session : Session) (source : Json) : Except ImportError Session := do
  .ok { session with form := ← Form.ofSource source }

/-! ## Choosing a library -/

/-- Chooses a library and saves the choice. -/
def select (session : Session) (choice : Json) : Except SessionError Library × Session :=
  match Library.ofJson choice with
  | .error e => (.error (.unknownLibrary e), session)
  | .ok library =>
    let session := { session with library := library }
    match session.store.set PreferenceStore.libraryKey library.id with
    | .ok store => (.ok library, { session with store := store })
    | .error e =>
      if e.isStorage then
        (.ok library,
          session.notify .error ("Could not save form library preference: " ++ e.message))
      else (.error (.storeFailed e), session)

/-! ## Artifacts -/

/-- The artifacts kept from before, where they have a fingerprint. -/
def kept? (session : Session) (fingerprint : String) : Option Artifacts :=
  session.kept.filter fun artifacts => artifacts.fingerprint == fingerprint

/-- The artifacts of the form for the library, and whether they were kept from before. -/
def artifacts (studio : Studio) (session : Session) : Derived ((Artifacts × Bool) × Session) := do
  let fingerprint ← session.form.fingerprint studio.config session.library
  match session.kept? fingerprint with
  | some artifacts => .ok ((artifacts, true), session)
  | none => do
    let artifacts ← Artifacts.build studio session.library session.form
    .ok ((artifacts, false), { session with kept := some artifacts })

def exportText (studio : Studio) (session : Session) : Derived String :=
  session.form.text studio.config.indent

def artifactText (studio : Studio) (session : Session) (kind : String) :
    Except SessionError (ArtifactKind × String) × Session :=
  match session.artifacts studio with
  | .error e => (.error (.notDerived e), session)
  | .ok ((artifacts, _), session) =>
    match ArtifactKind.ofId? kind with
    | none => (.error (.unknownKind kind), session)
    | some kind => (.ok (kind, artifacts.textOf studio.config kind), session)

/-- Copies the text of an artifact, and gives whether that worked. -/
def copy (studio : Studio) (session : Session) (kind : String) :
    Except SessionError Bool × Session :=
  match session.artifactText studio kind with
  | (.error e, session) => (.error e, session)
  | (.ok (kind, text), session) =>
    match session.clipboard with
    | .unavailable => (.ok false, session.notify .error "Failed to copy")
    | .holding _ =>
      (.ok true, { session with clipboard := .holding (some text) }.notify .success
        (kind.label ++ " copied to clipboard"))

/-! ## What stays -/

theorem edit_fields {session new : Session} {name : String} {updates : Update} {f : Field}
    (h : session.edit name updates = .ok (f, new)) : new = { session with form := new.form } := by
  unfold edit at h
  split at h
  · cases h
  · rename_i path _
    cases hu : session.form.update path updates with
    | error e => rw [hu] at h; cases h
    | ok form =>
      cases hg : form.get path with
      | error e =>
        rw [hu] at h
        change (form.get path >>= _) = _ at h
        rw [hg] at h
        cases h
      | ok g =>
        rw [hu] at h
        change (form.get path >>= _) = _ at h
        rw [hg] at h
        cases h
        rfl

theorem artifacts_form {studio : Studio} {session new : Session} {result : Artifacts × Bool}
    (h : session.artifacts studio = .ok (result, new)) :
    new = { session with kept := new.kept } := by
  unfold artifacts at h
  cases hf : session.form.fingerprint studio.config session.library with
  | error e => rw [hf] at h; cases h
  | ok fingerprint =>
    rw [hf] at h
    change (match session.kept? fingerprint with
      | some artifacts => Except.ok ((artifacts, true), session)
      | none => _) = _ at h
    split at h
    · cases h; rfl
    · cases hb : Artifacts.build studio session.library session.form with
      | error e => rw [hb] at h; cases h
      | ok artifacts => rw [hb] at h; cases h; rfl

end Session

end FormStudio
