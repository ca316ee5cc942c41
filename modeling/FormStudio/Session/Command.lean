import FormStudio.Session.Basic

/-!
# Commands of a session

What a person does in a session, as values: a command is applied to a session and answered, and a
run is a list of commands applied in turn. A command that fails leaves the form, the library, the
messages, the clipboard and the preferences as they were; a new name may be used up by it, and so
may the choice of a library when the preferences hold an integer that is too long to be read.

Main statement: `Session.run_append`, a run can be taken in parts.
-/
namespace FormStudio

/-- What a person does in a session. -/
inductive Command where
  | add (variant : String) (index : Option Json)
  | edit (name : String) (updates : Update)
  | remove (name : String)
  | reset
  | importForm (source : Json)
  | exportText
  | select (library : Json)
  | artifacts
  | copy (kind : String)
  | text (kind : String)
  | notify (kind : ToastKind) (message : String)
  | clear

/-- What a command is answered with. -/
inductive Reply where
  | done
  | field (f : Field)
  | library (library : Library)
  | text (text : String)
  /-- Artifacts, and whether they were kept from before. -/
  | artifacts (artifacts : Artifacts) (kept : Bool)
  /-- Whether a copy worked. -/
  | copied (worked : Bool)
  | toast (toast : Toast)

namespace Session

def step (studio : Studio) (session : Session) : Command → Except SessionError Reply × Session
  | .add variant index =>
    match session.add variant index with
    | (.ok f, session) => (.ok (.field f), session)
    | (.error e, session) => (.error (.notCreated e), session)
  | .edit name updates =>
    match session.edit name updates with
    | .ok (f, session) => (.ok (.field f), session)
    | .error e => (.error (.notEdited e), session)
  | .remove name =>
    match session.remove name with
    | .ok session => (.ok .done, session)
    | .error e => (.error (.notEdited e), session)
  | .reset => (.ok .done, session.reset)
  | .importForm source =>
    match session.importForm source with
    | .ok session => (.ok .done, session)
    | .error e => (.error (.notImported e), session)
  | .exportText =>
    match session.exportText studio with
    | .ok text => (.ok (.text text), session)
    | .error e => (.error (.notDerived e), session)
  | .select library =>
    match session.select library with
    | (.ok library, session) => (.ok (.library library), session)
    | (.error e, session) => (.error e, session)
  | .artifacts =>
    match session.artifacts studio with
    | .ok ((artifacts, kept), session) => (.ok (.artifacts artifacts kept), session)
    | .error e => (.error (.notDerived e), session)
  | .copy kind =>
    match session.copy studio kind with
    | (.ok worked, session) => (.ok (.copied worked), session)
    | (.error e, session) => (.error e, session)
  | .text kind =>
    match session.artifactText studio kind with
    | (.ok (_, text), session) => (.ok (.text text), session)
    | (.error e, session) => (.error e, session)
  | .notify kind message => (.ok (.toast ⟨kind, message⟩), session.notify kind message)
  | .clear => (.ok .done, session.clear)

/-- The session after some commands, whether they fail or not. -/
def run (studio : Studio) (session : Session) (commands : List Command) : Session :=
  commands.foldl (fun session command => (session.step studio command).2) session

theorem run_append (studio : Studio) (session : Session) (first second : List Command) :
    session.run studio (first ++ second) = (session.run studio first).run studio second := by
  simp [run]

end Session

end FormStudio
