import FormStudio.Catalog
import FormStudio.Http.Message
import FormStudio.Http.Target
import FormStudio.Review
import FormStudio.Session.Command

/-!
# Web interface

A session that is driven by requests. Each route stands for one command of the session, or for
something that is derived from it; a request that is refused leaves the session as it is.

Main statements: `Api.answer_get`, reading leaves the form, the library and the preferences alone,
and `Api.answer_of_unknownMethod`, other methods are refused.
-/
namespace FormStudio

/-- Why a request is not answered. -/
inductive ApiFault where
  /-- There is no request. -/
  | noRequest
  | host (fault : HostFault)
  | body (fault : BodyFault)
  | notDerived (error : DerivationError)
  | store (error : StoreError)
  | notCreated (error : CreateError)
  deriving DecidableEq, Repr

namespace Api

/-- What comes of a request: a response or a fault, and the session. -/
abbrev Outcome := Except ApiFault Response × Session

/-! ## Reading -/

/-- The response to a question for the state of the service. -/
def health (studio : Studio) (session : Session) : Response :=
  .object 200 [
    ("status", .str "healthy"),
    ("service", .str "form-builder"),
    ("port", .int studio.config.serverPort),
    ("library", .str session.library.id)]

def sessionArtifacts (studio : Studio) (session : Session) (respond : Artifacts → Response) :
    Outcome :=
  match session.artifacts studio with
  | .ok ((artifacts, _), session) => (.ok (respond artifacts), session)
  | .error e => (.error (.notDerived e), session)

/-- The artifacts of the form for another library, which stays unchosen. -/
def artifactsFor (studio : Studio) (session : Session) (choice : String) :
    Except ApiFault Response :=
  -- the form is written first, so that its fault comes before that of an unknown library
  match session.form.text studio.config.indent with
  | .error e => .error (.notDerived e)
  | .ok _ =>
    match Library.ofJson (.str choice) with
    | .error e => .ok (.refusal 400 e.message)
    | .ok library =>
      match Artifacts.build studio library session.form with
      | .ok artifacts => .ok (.object 200 artifacts.toMembers)
      | .error e => .error (.notDerived e)

/-- The artifacts, for the library that the query names or else the chosen one. -/
def preview (studio : Studio) (session : Session) (target : Target) : Outcome :=
  let choice := (target.value? "library").filter fun name =>
    name != "" && name != session.library.id
  match choice with
  | some name => (artifactsFor studio session name, session)
  | none => sessionArtifacts studio session fun artifacts => .object 200 artifacts.toMembers

/-- The page that shows a preview. -/
def pageText (artifacts : Artifacts) : String :=
  "\n".intercalate ["<!DOCTYPE html>", "<html lang=\"en\">", "<head>", "<meta charset=\"utf-8\">",
    "<title>Form preview</title>", "</head>", "<body>", artifacts.html, "</body>", "</html>", ""]

def page (studio : Studio) (session : Session) : Outcome :=
  sessionArtifacts studio session fun artifacts => ⟨200, .page (pageText artifacts)⟩

/-- Answers a request that reads. -/
def get (studio : Studio) (session : Session) (target : Target) : Outcome :=
  match target.path with
  | "/health" => (.ok (health studio session), session)
  | "/api/field-types" => (.ok ⟨200, .json Catalog.offered⟩, session)
  | "/api/preview" => preview studio session target
  | "/" => page studio session
  | "/index.html" => page studio session
  | _ => (.ok .notFound, session)

/-! ## Changing -/

def withBody (session : Session) (request : Request) (next : Members → Outcome) : Outcome :=
  match request.members with
  | .error fault => (.error (.body fault), session)
  | .ok (.error e) => (.ok (.refusal 400 e.message), session)
  | .ok (.ok members) => next members

/-- A number for a new field: an integer, or nothing. -/
def indexOf (members : Members) : Except Unit (Option Json) :=
  match Table.get? "insertion_index" members with
  | none => .ok none
  | some .null => .ok none
  | some (.num (.int i)) => .ok (some (.int i))
  | some _ => .error ()

def addField (session : Session) (members : Members) : Outcome :=
  match (Table.get? "variant" members).bind Json.text? with
  | none => (.ok (.refusal 400 "variant is required"), session)
  | some "" => (.ok (.refusal 400 "variant is required"), session)
  | some variant =>
    match indexOf members with
    | .error _ => (.ok (.refusal 400 "insertion_index must be an integer"), session)
    | .ok index =>
      match session.add variant index with
      | (.ok f, session) => (.ok (.success 201 [("field", f.toJson)]), session)
      | (.error e, session) => (.error (.notCreated e), session)

def editRefusal (e : EditError) : Response :=
  .refusal (if e.isNotFound then 404 else 400) e.message

def formResponse (session : Session) : Response := .success 200 [("fields", session.form.toJson)]

def editField (session : Session) (name : String) (members : Members) : Outcome :=
  match session.edit name (.members members) with
  | .ok (f, session) => (.ok (.success 200 [("field", f.toJson)]), session)
  | .error e => (.ok (editRefusal e), session)

def removeField (session : Session) (name : String) : Outcome :=
  match session.remove name with
  | .ok session => (.ok (formResponse session), session)
  | .error e => (.ok (editRefusal e), session)

def importRefusal (e : ImportError) : Response :=
  .object 400 ([("success", .bool false), ("error", .str e.message)] ++ e.detailMembers)

def importForm (session : Session) (members : Members) : Outcome :=
  match Table.get? "json" members with
  | some (.str text) =>
    match session.importForm (.str text) with
    | .ok session => (.ok (formResponse session), session)
    | .error e => (.ok (importRefusal e), session)
  | _ => (.ok (.refusal 400 "json must be a string"), session)

def selectLibrary (session : Session) (members : Members) : Outcome :=
  match session.select ((Table.get? "library" members).getD .null) with
  | (.ok library, session) => (.ok (.success 200 [("library", .str library.id)]), session)
  | (.error (.storeFailed e), session) => (.error (.store e), session)
  | (.error (.unknownLibrary e), session) => (.ok (.refusal 400 e.message), session)
  | (.error _, session) => (.ok .notFound, session)

def reviewRefusal : ReviewError → Except ApiFault Response
  | .empty =>
    .ok (.object 400 [("success", .bool false), ("error", .str ReviewError.empty.message)])
  | .notImported e => .ok (importRefusal e)
  | .notDerived e => .error (.notDerived e)

def reviewText (studio : Studio) (text : String) (library : Option String) :
    Except ApiFault Response :=
  match Review.ofText studio text library with
  | .ok review =>
    .ok (.success 200 (("fields", review.form.toJson) :: review.artifacts.toMembers))
  | .error e => reviewRefusal e

/-- Reviews the text of a body. -/
def review (studio : Studio) (members : Members) : Except ApiFault Response :=
  let library := (Table.get? "library" members).bind Json.text?
  match (Table.get? "json" members).getD .null with
  | .null => reviewText studio "" library
  | .str text => reviewText studio text library
  | _ => .ok (.refusal 400 "json must be a string")

/-- Answers a request that adds or derives. -/
def post (studio : Studio) (session : Session) (request : Request) (target : Target) : Outcome :=
  match target.path with
  | "/api/fields" => withBody session request (addField session)
  | "/api/reset" => (.ok (formResponse session.reset), session.reset)
  | "/api/import" => withBody session request (importForm session)
  | "/api/review" => withBody session request fun members => (review studio members, session)
  | _ => (.ok .notFound, session)

/-- The beginning of the targets that name a field. -/
def fieldsPath : String := "/api/fields/"

/-- Goes on with the field that a target names. -/
def withField (session : Session) (target : Target) (next : String → Outcome) : Outcome :=
  match target.segment? fieldsPath with
  | some name => next name
  | none => (.ok .notFound, session)

/-- Answers a request that replaces. -/
def put (session : Session) (request : Request) (target : Target) : Outcome :=
  match target.path with
  | "/api/library" => withBody session request (selectLibrary session)
  | _ => (.ok .notFound, session)

def withTarget (session : Session) (request : Request) (next : Target → Outcome) : Outcome :=
  match Target.ofText request.target with
  | .ok target => next target
  | .error fault => (.error (.host fault), session)

def answer (studio : Studio) (session : Session) (request : Request) : Outcome :=
  match request.method with
  | "GET" => withTarget session request (get studio session)
  | "POST" => withTarget session request (post studio session request)
  | "PATCH" => withTarget session request fun target => withField session target fun name =>
    withBody session request (editField session name)
  | "DELETE" => withTarget session request fun target =>
    withField session target (removeField session)
  | "PUT" => withTarget session request (put session request)
  | method => (.ok (.unsupportedMethod method), session)

/-- Answers a request as it arrives. To a blank line nothing is sent. -/
def receive (studio : Studio) (session : Session) (arrival : Arrival) : Outcome :=
  match arrival.request with
  | .ok (some request) => answer studio session request
  | .ok none => (.error .noRequest, session)
  | .error fault => (.ok (.ofLineFault fault), session)

/-! ## What stays -/

theorem sessionArtifacts_kept (studio : Studio) (session : Session)
    (respond : Artifacts → Response) :
    (sessionArtifacts studio session respond).2 =
      { session with kept := (sessionArtifacts studio session respond).2.kept } := by
  unfold sessionArtifacts
  split
  · rename_i h
    exact Session.artifacts_form h
  · rfl

theorem get_kept (studio : Studio) (session : Session) (target : Target) :
    (get studio session target).2 =
      { session with kept := (get studio session target).2.kept } := by
  unfold get
  split
  · rfl
  · rfl
  · unfold preview
    simp only
    split
    · rfl
    · exact sessionArtifacts_kept ..
  · exact sessionArtifacts_kept ..
  · exact sessionArtifacts_kept ..
  · rfl

theorem answer_get {studio : Studio} {session : Session} {request : Request}
    (h : request.method = "GET") :
    (answer studio session request).2 =
      { session with kept := (answer studio session request).2.kept } := by
  unfold answer
  simp only [h, withTarget]
  split
  · exact get_kept ..
  · rfl

theorem answer_of_unknownMethod {studio : Studio} {session : Session} {request : Request}
    (h : request.method ∉ ["GET", "POST", "PATCH", "DELETE", "PUT"]) :
    answer studio session request = (.ok (.unsupportedMethod request.method), session) := by
  simp only [List.mem_cons, List.not_mem_nil, or_false, not_or] at h
  unfold answer
  split <;> simp_all

end Api

end FormStudio
