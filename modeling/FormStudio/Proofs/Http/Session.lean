import FormStudio.Http.Api
import FormStudio.Proofs.Json.RoundTrip
import FormStudio.Proofs.Session.Kept
import FormStudio.Proofs.Text.Percent

/-!
# Requests are commands

A request on a route that changes something asks for one command of the session
(`Request.Asks`), its arguments taken from the target and the body. `Api.IsRefined` says what comes
of it: where the request is answered with success, the session is the one after that command, and the
response shows what the command left there (`Api.IsReported`); where it is refused, and where it only
reads, all that can be seen stays as it is. Each route is one lemma, and `Api.isRefined_answer` puts
them together. So requests, one after another, are a run of commands (`Api.exists_run`).

Whether a field is named in the target does not depend on how its name is percent-encoded, and a
preview for another library is that of a session where the library is chosen (`Api.answer_refines`).
-/
namespace FormStudio

/-! ## What a request asks for -/

namespace Request

section Meaning

variable (request : Request)

/-- Whether the target of a request has a path. -/
def GoesTo (path : String) : Prop :=
  ∃ target, Target.ofText request.target = .ok target ∧ target.path = path

/-- Whether the target of a request names a field. -/
def Names (name : String) : Prop :=
  ∃ target, Target.ofText request.target = .ok target ∧
    target.segment? Api.fieldsPath = some name

/-- Whether the body of a request is an object with these members. -/
def Brings (members : Members) : Prop := request.members = .ok (.ok members)

/-- Whether the body of a request is a text without halves of surrogate pairs, or no text. -/
def HasNoHalf : Prop :=
  ∀ bytes text, request.content = .ok bytes → Utf8.decode? bytes = some text → Json.HasNoHalf text

/-- Whether a request only reads. -/
inductive Reads : Prop
  | get (hmethod : request.method = "GET")
  | review (hmethod : request.method = "POST") (hpath : request.GoesTo "/api/review")

/-- Whether a request is on a route that changes something. -/
inductive Changes : Prop
  | add (hmethod : request.method = "POST") (hpath : request.GoesTo "/api/fields")
  | edit {name : String} (hmethod : request.method = "PATCH") (hname : request.Names name)
  | remove {name : String} (hmethod : request.method = "DELETE") (hname : request.Names name)
  | reset (hmethod : request.method = "POST") (hpath : request.GoesTo "/api/reset")
  | importForm (hmethod : request.method = "POST") (hpath : request.GoesTo "/api/import")
  | select (hmethod : request.method = "PUT") (hpath : request.GoesTo "/api/library")

/-- The command that a request asks for. -/
inductive Asks : Command → Prop
  | add {members : Members} {variant : String} (hmethod : request.method = "POST")
    (hpath : request.GoesTo "/api/fields") (hbody : request.Brings members)
    (hvariant : Table.get? "variant" members = some (.str variant)) :
    Asks (.add variant ((Table.get? "insertion_index" members).filter (· ≠ .null)))
  | edit {name : String} {members : Members} (hmethod : request.method = "PATCH")
    (hname : request.Names name) (hbody : request.Brings members) :
    Asks (.edit name (.members members))
  | remove {name : String} (hmethod : request.method = "DELETE") (hname : request.Names name) :
    Asks (.remove name)
  | reset (hmethod : request.method = "POST") (hpath : request.GoesTo "/api/reset") : Asks .reset
  | importForm {members : Members} {text : String} (hmethod : request.method = "POST")
    (hpath : request.GoesTo "/api/import") (hbody : request.Brings members)
    (htext : Table.get? "json" members = some (.str text)) : Asks (.importForm (.str text))
  | select {members : Members} (hmethod : request.method = "PUT")
    (hpath : request.GoesTo "/api/library") (hbody : request.Brings members) :
    Asks (.select ((Table.get? "library" members).getD .null))

/-- Whether a request asks for the preview, for the library that is chosen or for one that it
names. -/
def Previews (choice : Option Library) : Prop :=
  request.method = "GET" ∧ ∃ target, Target.ofText request.target = .ok target ∧
    target.path = "/api/preview" ∧ target.value? "library" = choice.map Library.id

end Meaning

variable {request : Request}

theorem GoesTo.unique {path path' : String} (h : request.GoesTo path)
    (h' : request.GoesTo path') : path = path' := by
  obtain ⟨target, htarget, rfl⟩ := h
  obtain ⟨target', htarget', rfl⟩ := h'
  rw [htarget] at htarget'
  cases htarget'
  rfl

theorem Names.unique {name name' : String} (h : request.Names name) (h' : request.Names name') :
    name = name' := by
  obtain ⟨target, htarget, hname⟩ := h
  obtain ⟨target', htarget', hname'⟩ := h'
  rw [htarget] at htarget'
  cases htarget'
  rw [hname] at hname'
  exact Option.some.inj hname'

theorem Brings.unique {members members' : Members} (h : request.Brings members)
    (h' : request.Brings members') : members = members' := by
  rw [Brings, h] at h'
  cases h'
  rfl

/-- **A request asks for one command at most.** -/
theorem Asks.unique {command command' : Command} (h : request.Asks command)
    (h' : request.Asks command') : command = command' := by
  have hmethods : ∀ {a b : String}, request.method = a → request.method = b → a ≠ b → False :=
    fun ha hb hne => hne (ha.symm.trans hb)
  have hpaths : ∀ {a b : String}, request.GoesTo a → request.GoesTo b → a ≠ b → False :=
    fun ha hb hne => hne (ha.unique hb)
  cases h with
  | add hmethod hpath hbody hvariant =>
    cases h' with
    | add _ _ hbody' hvariant' =>
      cases hbody.unique hbody'
      rw [hvariant] at hvariant'
      cases hvariant'
      rfl
    | reset _ hpath' => exact (hpaths hpath hpath' (by decide)).elim
    | importForm _ hpath' _ _ => exact (hpaths hpath hpath' (by decide)).elim
    | _ => exact (hmethods hmethod ‹_› (by decide)).elim
  | edit hmethod hname hbody =>
    cases h' with
    | edit _ hname' hbody' =>
      cases hname.unique hname'
      cases hbody.unique hbody'
      rfl
    | _ => exact (hmethods hmethod ‹_› (by decide)).elim
  | remove hmethod hname =>
    cases h' with
    | remove _ hname' =>
      cases hname.unique hname'
      rfl
    | _ => exact (hmethods hmethod ‹_› (by decide)).elim
  | reset hmethod hpath =>
    cases h' with
    | add _ hpath' _ _ => exact (hpaths hpath hpath' (by decide)).elim
    | reset => rfl
    | importForm _ hpath' _ _ => exact (hpaths hpath hpath' (by decide)).elim
    | _ => exact (hmethods hmethod ‹_› (by decide)).elim
  | importForm hmethod hpath hbody htext =>
    cases h' with
    | add _ hpath' _ _ => exact (hpaths hpath hpath' (by decide)).elim
    | reset _ hpath' => exact (hpaths hpath hpath' (by decide)).elim
    | importForm _ _ hbody' htext' =>
      cases hbody.unique hbody'
      rw [htext] at htext'
      cases htext'
      rfl
    | _ => exact (hmethods hmethod ‹_› (by decide)).elim
  | select hmethod hpath hbody =>
    cases h' with
    | select _ _ hbody' =>
      cases hbody.unique hbody'
      rfl
    | _ => exact (hmethods hmethod ‹_› (by decide)).elim

/-- A name may be percent-encoded in any way. -/
theorem names_of_encodes {cs : List Char} {name : String}
    (htarget : request.target = Api.fieldsPath ++ String.ofList cs)
    (h : Percent.Encodes cs (Utf8.encode name)) : request.Names name := by
  have hplain : "api/fields/".toList.any [':', ';', '?', '#'].contains = false := by decide
  have hfound : ∃ target, Target.ofText (Api.fieldsPath ++ String.ofList cs) = .ok target ∧
      target.segment? Api.fieldsPath = some name :=
    Target.segment?_of_encodes rfl (by decide) hplain h
  rwa [← htarget] at hfound

/-- A body may be any text of its members, if its length is announced. -/
theorem brings_of_print {style : Json.Style} {members : Members} {length : String}
    (hmembers : Json.IsReadableIn .extended (.obj members))
    (hbody : request.body = Utf8.encode (Json.print style (.obj members)))
    (hlength : request.contentLength = some length)
    (hread : readInteger length = .ok (request.body.length : Int)) : request.Brings members := by
  have hsome : 0 < request.body.length := by
    have htext := Json.length_write_pos style 0 (.obj members)
    have hbytes := Utf8.length_le_flatMap (Json.write style 0 (.obj members))
    rw [hbody, Json.print_eq, Utf8.encode_eq, String.toList_ofList]
    omega
  have hcontent : request.content = .ok request.body := by
    have hcount : request.isCount request.body.length = true := by
      simp only [isCount, Bool.or_eq_true, Bool.and_eq_true, decide_eq_true_eq]
      omega
    simp only [content, hlength, hread]
    rw [if_neg (by omega), if_pos hcount, if_neg (by omega), Int.toNat_natCast, List.take_length]
  rw [Brings, Request.members, hcontent, ok_bind, membersOf, hbody, Utf8.decode?_encode]
  dsimp only
  rw [Json.read_print_in style hmembers]

end Request

theorem Library.ofJson_id (library : Library) : ofJson (.str library.id) = .ok library := by
  rw [ofJson, Json.text?, Option.bind_some, ofId?_id]

theorem Library.id_injective {library library' : Library} (h : library.id = library'.id) :
    library = library' := by
  have hfound := Library.ofId?_id library
  rw [h, Library.ofId?_id] at hfound
  exact (Option.some.inj hfound).symm

namespace Session

variable {session new : Session} {f : Field}

theorem mem_fields_of_add {variant : String} {index : Option Json}
    (h : session.add variant index = (.ok f, new)) : f ∈ new.form.fields := by
  unfold Session.add Form.add at h
  dsimp only at h
  generalize Field.create variant (index.getD (.int session.form.length)) session.form.names
    session.digits = created at h
  obtain ⟨outcome, digits⟩ := created
  cases outcome with
  | error e => cases h
  | ok g =>
    cases h
    simp

theorem mem_fields_of_edit {name : String} {updates : Update}
    (h : session.edit name updates = .ok (f, new)) : f ∈ new.form.fields := by
  unfold Session.edit at h
  split at h
  · cases h
  · obtain ⟨form, -, h⟩ := bind_eq_ok_iff.1 h
    obtain ⟨g, hget, h⟩ := bind_eq_ok_iff.1 h
    cases h
    obtain ⟨before, after, hfields, -⟩ := Form.fields_of_get hget
    show f ∈ form.fields
    rw [hfields]
    exact List.mem_append_right before List.mem_cons_self

/-- What a choice comes to: the library is not known, or it is chosen, saved or not. -/
theorem select_cases {choice : Json} {outcome : Except SessionError Library}
    (h : session.select choice = (outcome, new)) :
    (∃ e, outcome = .error (.unknownLibrary e) ∧ new = session) ∨
      (∃ e, outcome = .error (.storeFailed e)) ∨ outcome = .ok new.library := by
  unfold Session.select at h
  split at h
  · cases h
    exact .inl ⟨_, rfl, rfl⟩
  · dsimp only at h
    split at h
    · cases h
      exact .inr (.inr rfl)
    · split at h
      · cases h
        exact .inr (.inr rfl)
      · cases h
        exact .inr (.inl ⟨_, rfl⟩)

/-- Whether a session is another one, or what a command makes of it. -/
def StepsTo (studio : Studio) (session new : Session) : Prop :=
  new = session ∨ ∃ command, new = (session.step studio command).2

/-- A library that is chosen by its identifier is the library, whether it is saved or not. -/
theorem library_step_select (studio : Studio) (session : Session) (library : Library) :
    (session.step studio (.select (.str library.id))).2.library = library := by
  cases hselect : session.select (.str library.id) with
  | mk outcome new =>
    have hnew : new.library = library := by
      unfold Session.select at hselect
      rw [Library.ofJson_id] at hselect
      dsimp only at hselect
      split at hselect
      · cases hselect
        rfl
      · split at hselect <;> cases hselect <;> rfl
    rw [Session.step, hselect]
    cases outcome <;> exact hnew

end Session

namespace Api

/-! ## What comes of a request -/

/-- What a command that worked is reported as: the field, the fields or the library that are in the
session now. -/
inductive IsReported (new : Session) : Command → Reply → Response → Prop
  | added {variant : String} {index : Option Json} {f : Field} (h : f ∈ new.form.fields) :
    IsReported new (.add variant index) (.field f) (.success 201 [("field", f.toJson)])
  | edited {name : String} {updates : Update} {f : Field} (h : f ∈ new.form.fields) :
    IsReported new (.edit name updates) (.field f) (.success 200 [("field", f.toJson)])
  | removed {name : String} :
    IsReported new (.remove name) .done (.success 200 [("fields", new.form.toJson)])
  | reset : IsReported new .reset .done (.success 200 [("fields", new.form.toJson)])
  | imported {source : Json} :
    IsReported new (.importForm source) .done (.success 200 [("fields", new.form.toJson)])
  | selected {choice : Json} :
    IsReported new (.select choice) (.library new.library)
      (.success 200 [("library", .str new.library.id)])

theorem IsReported.status_lt {new : Session} {command : Command} {reply : Reply}
    {response : Response} (h : IsReported new command reply response) : response.status < 400 := by
  cases h with
  | added => exact Nat.lt_of_sub_pos (Nat.succ_pos _)
  | _ => exact Nat.lt_of_sub_pos (Nat.succ_pos _)

/-- What a request does to a session, and what it is answered with. -/
structure IsRefined (studio : Studio) (session : Session) (request : Request)
    (outcome : Outcome) : Prop where
  /-- A request that is refused leaves all that can be seen as it is. -/
  refused : ∀ response, outcome.1 = .ok response → 400 ≤ response.status →
    session.IsSeenIn outcome.2
  /-- So does one that reads, whatever comes of it. -/
  reading : request.Reads → session.IsSeenIn outcome.2
  /-- One that changes something, and works, is the command it asks for. -/
  changing : ∀ response, outcome.1 = .ok response → response.status < 400 → request.Changes →
    ∃ command reply, request.Asks command ∧ (∀ other, request.Asks other → other = command) ∧
      session.step studio command = (.ok reply, outcome.2) ∧
      IsReported outcome.2 command reply response
  /-- Any other is one command at most, too. -/
  stepping : session.StepsTo studio outcome.2

variable {studio : Studio} {session new : Session} {request : Request}

namespace IsRefined

/-- A request that is refused, or not answered at all, and leaves the session as it is. -/
theorem same {result : Except ApiFault Response}
    (h : ∀ response, result = .ok response → 400 ≤ response.status) :
    IsRefined studio session request (result, session) where
  refused _ _ _ := Session.isSeenIn_self
  reading _ := Session.isSeenIn_self
  changing response hresponse hstatus := absurd (h response hresponse) (Nat.not_le.2 hstatus)
  stepping := .inl rfl

theorem fault (fault : ApiFault) : IsRefined studio session request (.error fault, session) :=
  same fun _ h => by cases h

theorem refusal {response : Response} (h : 400 ≤ response.status) :
    IsRefined studio session request (.ok response, session) :=
  same fun _ hresponse => by cases hresponse; exact h

/-- A request that reads. -/
theorem read {outcome : Outcome} (hchanges : ¬ request.Changes)
    (hseen : session.IsSeenIn outcome.2)
    (hstep : session.StepsTo studio outcome.2) :
    IsRefined studio session request outcome where
  refused _ _ _ := hseen
  reading _ := hseen
  changing _ _ _ hrequest := absurd hrequest hchanges
  stepping := hstep

/-- A request that works. -/
theorem done {command : Command} {reply : Reply} {response : Response}
    (hreads : ¬ request.Reads) (hasks : request.Asks command)
    (hstep : session.step studio command = (.ok reply, new))
    (hreported : IsReported new command reply response) :
    IsRefined studio session request (.ok response, new) where
  refused response' hresponse hstatus' := by
    cases hresponse
    exact absurd hstatus' (Nat.not_le.2 hreported.status_lt)
  reading hrequest := absurd hrequest hreads
  changing response' hresponse _ _ := by
    cases hresponse
    exact ⟨command, reply, hasks, fun _ hother => hother.unique hasks, hstep, hreported⟩
  stepping := .inr ⟨command, by rw [hstep]⟩

/-- A request that is not answered, since its command fails. -/
theorem failed {command : Command} {e : SessionError} {fault : ApiFault}
    (hreads : ¬ request.Reads) (hstep : session.step studio command = (.error e, new)) :
    IsRefined studio session request (.error fault, new) where
  refused _ h := by cases h
  reading hrequest := absurd hrequest hreads
  changing _ h := by cases h
  stepping := .inr ⟨command, by rw [hstep]⟩

/-- A body that is no object changes nothing. -/
theorem withBody {next : Members → Outcome}
    (h : ∀ members, request.Brings members → IsRefined studio session request (next members)) :
    IsRefined studio session request (withBody session request next) := by
  unfold Api.withBody
  split
  · exact fault _
  · exact refusal (Nat.le_refl 400)
  · next members hbody => exact h members hbody

end IsRefined

/-! ## Routes -/

theorem not_reads_of_post {path : String} (hmethod : request.method = "POST")
    (hpath : request.GoesTo path) (hne : path ≠ "/api/review") : ¬ request.Reads := by
  rintro (hget | ⟨-, hreview⟩)
  · exact absurd (hmethod.symm.trans hget) (by decide)
  · exact hne (hpath.unique hreview)

theorem not_reads_of_method {method : String} (hmethod : request.method = method)
    (hget : method ≠ "GET") (hpost : method ≠ "POST") : ¬ request.Reads := by
  rintro (h | ⟨h, -⟩)
  · exact hget (hmethod.symm.trans h)
  · exact hpost (hmethod.symm.trans h)

theorem eq_of_indexOf {members : Members} {index : Option Json}
    (h : indexOf members = .ok index) :
    (Table.get? "insertion_index" members).filter (· ≠ .null) = index := by
  unfold indexOf at h
  split at h
  · next hnone =>
    cases h
    rw [hnone]
    rfl
  · next hnull =>
    cases h
    rw [hnull]
    rfl
  · next i hindex =>
    cases h
    rw [hindex]
    rfl
  · cases h

theorem status_unsupportedMethod (method : String) :
    400 ≤ (Response.unsupportedMethod method).status := by
  unfold Response.unsupportedMethod
  split <;> exact Nat.le_add_right 400 101

theorem status_editRefusal (e : EditError) : 400 ≤ (editRefusal e).status := by
  unfold editRefusal
  cases e.isNotFound
  · exact Nat.le_refl 400
  · exact Nat.le_add_right 400 4

theorem get?_of_bind_text? {key text : String} {members : Members}
    (h : (Table.get? key members).bind Json.text? = some text) :
    Table.get? key members = some (.str text) := by
  obtain ⟨value, hvalue, htext⟩ := Option.bind_eq_some_iff.1 h
  rw [hvalue]
  cases value with
  | str s =>
    cases htext
    rfl
  | _ => cases htext

theorem isRefined_addField {members : Members} (hmethod : request.method = "POST")
    (hpath : request.GoesTo "/api/fields") (hbody : request.Brings members) :
    IsRefined studio session request (addField session members) := by
  have hreads := not_reads_of_post hmethod hpath (by decide)
  unfold addField
  split
  · exact .refusal (Nat.le_refl 400)
  · exact .refusal (Nat.le_refl 400)
  next variant _ hvariant =>
  have hvalue := get?_of_bind_text? hvariant
  split
  · exact .refusal (Nat.le_refl 400)
  next index hindex =>
  have hasks : request.Asks (.add variant index) := by
    rw [← eq_of_indexOf hindex]
    exact .add hmethod hpath hbody hvalue
  cases hadd : session.add variant index with
  | mk outcome new =>
    cases outcome with
    | ok f =>
      exact .done hreads hasks (by rw [Session.step, hadd])
        (.added (Session.mem_fields_of_add hadd))
    | error e =>
      have hstep : session.step studio (.add variant index) = (.error (.notCreated e), new) := by
        rw [Session.step, hadd]
      exact .failed hreads hstep

theorem isRefined_editField {name : String} {members : Members}
    (hmethod : request.method = "PATCH") (hname : request.Names name)
    (hbody : request.Brings members) :
    IsRefined studio session request (editField session name members) := by
  have hreads := not_reads_of_method hmethod (by decide) (by decide)
  unfold editField
  split
  · next f new hedit =>
    exact .done hreads (.edit hmethod hname hbody) (by rw [Session.step, hedit])
      (.edited (Session.mem_fields_of_edit hedit))
  · exact .refusal (status_editRefusal _)

theorem isRefined_removeField {name : String} (hmethod : request.method = "DELETE")
    (hname : request.Names name) :
    IsRefined studio session request (removeField session name) := by
  have hreads := not_reads_of_method hmethod (by decide) (by decide)
  unfold removeField
  split
  · next new hremove =>
    exact .done hreads (.remove hmethod hname) (by rw [Session.step, hremove]) .removed
  · exact .refusal (status_editRefusal _)

theorem isRefined_importForm {members : Members} (hmethod : request.method = "POST")
    (hpath : request.GoesTo "/api/import") (hbody : request.Brings members) :
    IsRefined studio session request (importForm session members) := by
  have hreads := not_reads_of_post hmethod hpath (by decide)
  unfold importForm
  split
  · next text htext =>
    split
    · next new himport =>
      exact .done hreads (.importForm hmethod hpath hbody htext) (by rw [Session.step, himport])
        .imported
    · exact .refusal (Nat.le_refl 400)
  · exact .refusal (Nat.le_refl 400)

theorem isRefined_selectLibrary {members : Members} (hmethod : request.method = "PUT")
    (hpath : request.GoesTo "/api/library") (hbody : request.Brings members) :
    IsRefined studio session request (selectLibrary session members) := by
  have hreads := not_reads_of_method hmethod (by decide) (by decide)
  have hasks := Request.Asks.select hmethod hpath hbody
  unfold selectLibrary
  generalize (Table.get? "library" members).getD .null = choice at hasks
  cases hselect : session.select choice with
  | mk outcome new =>
    rcases Session.select_cases hselect with ⟨e, rfl, rfl⟩ | ⟨e, rfl⟩ | rfl
    · exact .refusal (Nat.le_refl 400)
    · have hstep : session.step studio (.select choice) = (.error (.storeFailed e), new) := by
        rw [Session.step, hselect]
      exact .failed hreads hstep
    · exact .done hreads hasks (by rw [Session.step, hselect]) .selected

theorem isRefined_reset (hmethod : request.method = "POST")
    (hpath : request.GoesTo "/api/reset") :
    IsRefined studio session request (.ok (formResponse session.reset), session.reset) :=
  .done (not_reads_of_post hmethod hpath (by decide)) (.reset hmethod hpath) rfl .reset

/-! ## Reading -/

theorem not_changes_of_get (hmethod : request.method = "GET") : ¬ request.Changes := by
  have hother : ∀ {method : String}, request.method = method → method = "GET" :=
    fun h => h.symm.trans hmethod
  rintro (⟨h, -⟩ | ⟨h, -⟩ | ⟨h, -⟩ | ⟨h, -⟩ | ⟨h, -⟩ | ⟨h, -⟩) <;> exact absurd (hother h) (by decide)

theorem not_changes_of_review (hmethod : request.method = "POST")
    (hpath : request.GoesTo "/api/review") : ¬ request.Changes := by
  have hother : ∀ {method : String}, request.method = method → method = "POST" :=
    fun h => h.symm.trans hmethod
  rintro (⟨-, h⟩ | ⟨h, -⟩ | ⟨h, -⟩ | ⟨-, h⟩ | ⟨-, h⟩ | ⟨h, -⟩)
  · exact absurd (hpath.unique h) (by decide)
  · exact absurd (hother h) (by decide)
  · exact absurd (hother h) (by decide)
  · exact absurd (hpath.unique h) (by decide)
  · exact absurd (hpath.unique h) (by decide)
  · exact absurd (hother h) (by decide)

/-- To show artifacts is the command to derive them. -/
theorem stepsTo_sessionArtifacts (studio : Studio) (session : Session)
    (respond : Artifacts → Response) :
    session.StepsTo studio (sessionArtifacts studio session respond).2 := by
  refine .inr ⟨.artifacts, ?_⟩
  unfold sessionArtifacts
  rw [Session.step]
  cases session.artifacts studio <;> rfl

theorem stepsTo_get (target : Target) :
    session.StepsTo studio (get studio session target).2 := by
  unfold get
  split
  · exact .inl rfl
  · exact .inl rfl
  · unfold preview
    dsimp only
    split
    · exact .inl rfl
    · exact stepsTo_sessionArtifacts studio session _
  · exact stepsTo_sessionArtifacts studio session _
  · exact stepsTo_sessionArtifacts studio session _
  · exact .inl rfl

theorem isRefined_get (hmethod : request.method = "GET") (target : Target) :
    IsRefined studio session request (get studio session target) := by
  refine .read (not_changes_of_get hmethod) ?_ (stepsTo_get target)
  rw [get_kept]
  exact Session.isSeenIn_kept _

theorem isRefined_review (hmethod : request.method = "POST")
    (hpath : request.GoesTo "/api/review") (members : Members) :
    IsRefined studio session request (review studio members, session) :=
  .read (not_changes_of_review hmethod hpath) Session.isSeenIn_self (.inl rfl)

/-! ## All requests -/

theorem isRefined_post (hmethod : request.method = "POST") {target : Target}
    (htarget : Target.ofText request.target = .ok target) :
    IsRefined studio session request (post studio session request target) := by
  unfold post
  split
  · next hpath => exact .withBody fun _ => isRefined_addField hmethod ⟨target, htarget, hpath⟩
  · next hpath => exact isRefined_reset hmethod ⟨target, htarget, hpath⟩
  · next hpath => exact .withBody fun _ => isRefined_importForm hmethod ⟨target, htarget, hpath⟩
  · next hpath =>
    exact .withBody fun members _ => isRefined_review hmethod ⟨target, htarget, hpath⟩ members
  · exact .refusal (Nat.le_add_right 400 4)

theorem isRefined_put (hmethod : request.method = "PUT") {target : Target}
    (htarget : Target.ofText request.target = .ok target) :
    IsRefined studio session request (put session request target) := by
  unfold put
  split
  · next hpath => exact .withBody fun _ => isRefined_selectLibrary hmethod ⟨target, htarget, hpath⟩
  · exact .refusal (Nat.le_add_right 400 4)

theorem IsRefined.withTarget {next : Target → Outcome}
    (h : ∀ target, Target.ofText request.target = .ok target →
      IsRefined studio session request (next target)) :
    IsRefined studio session request (withTarget session request next) := by
  unfold Api.withTarget
  split
  · next target htarget => exact h target htarget
  · exact .fault _

theorem IsRefined.withField {target : Target} {next : String → Outcome}
    (htarget : Target.ofText request.target = .ok target)
    (h : ∀ name, request.Names name → IsRefined studio session request (next name)) :
    IsRefined studio session request (withField session target next) := by
  unfold Api.withField
  split
  · next name hname => exact h name ⟨target, htarget, hname⟩
  · exact .refusal (Nat.le_add_right 400 4)

theorem isRefined_answer (studio : Studio) (session : Session) (request : Request) :
    IsRefined studio session request (answer studio session request) := by
  unfold answer
  split
  · next hmethod => exact .withTarget fun target _ => isRefined_get hmethod target
  · next hmethod => exact .withTarget fun _ htarget => isRefined_post hmethod htarget
  · next hmethod =>
    exact .withTarget fun _ htarget => .withField htarget fun _ hname =>
      .withBody fun _ hbody => isRefined_editField hmethod hname hbody
  · next hmethod =>
    exact .withTarget fun _ htarget => .withField htarget fun _ hname =>
      isRefined_removeField hmethod hname
  · next hmethod => exact .withTarget fun _ htarget => isRefined_put hmethod htarget
  · exact .refusal (status_unsupportedMethod _)

/-! ## Requests in a row -/

/-- The session after some requests, whether they are answered or not. -/
def run (studio : Studio) (session : Session) (arrivals : List Arrival) : Session :=
  arrivals.foldl (fun session arrival => (receive studio session arrival).2) session

theorem stepsTo_receive (studio : Studio) (session : Session) (arrival : Arrival) :
    session.StepsTo studio (receive studio session arrival).2 := by
  unfold receive
  split
  · next request _ => exact (isRefined_answer studio session request).stepping
  · exact .inl rfl
  · exact .inl rfl

/-- **Requests are a run of commands**, one for each of them at most. -/
theorem exists_run (studio : Studio) (session : Session) (arrivals : List Arrival) :
    ∃ commands : List Command, commands.length ≤ arrivals.length ∧
      run studio session arrivals = session.run studio commands := by
  induction arrivals generalizing session with
  | nil => exact ⟨[], Nat.le_refl 0, rfl⟩
  | cons arrival rest ih =>
    obtain ⟨others, hothers, hrun⟩ := ih (receive studio session arrival).2
    replace hrun : run studio session (arrival :: rest) = _ := hrun
    rcases stepsTo_receive studio session arrival with hsame | ⟨command, hstep⟩
    · rw [hsame] at hrun
      exact ⟨others, Nat.le_succ_of_le hothers, hrun⟩
    · rw [hstep] at hrun
      exact ⟨command :: others, Nat.succ_le_succ hothers, hrun⟩

theorem reachable_run (h : session.Reachable studio) (arrivals : List Arrival) :
    (run studio session arrivals).Reachable studio := by
  obtain ⟨commands, -, hrun⟩ := exists_run studio session arrivals
  rw [hrun]
  exact h.run commands

/-! ## Previews -/

/-- The answer that shows what comes of a derivation. -/
def shown (respond : Artifacts → Response) (derived : Derived Artifacts) :
    Except ApiFault Response := (derived.map respond).mapError .notDerived

theorem sessionArtifacts_eq (h : session.Reachable studio) (hapart : session.KeepsApart studio)
    (respond : Artifacts → Response) :
    (sessionArtifacts studio session respond).1 =
      shown respond (Artifacts.build studio session.library session.form) := by
  rw [← Session.artifacts_eq_build h hapart]
  unfold sessionArtifacts
  cases session.artifacts studio <;> rfl

theorem artifactsFor_eq (library : Library) :
    artifactsFor studio session library.id =
      shown (fun artifacts => .object 200 artifacts.toMembers)
        (Artifacts.build studio library session.form) := by
  unfold artifactsFor
  cases htext : session.form.text studio.config.indent with
  | error e =>
    unfold Artifacts.build
    rw [htext]
    rfl
  | ok text =>
    dsimp only
    rw [Library.ofJson_id]
    dsimp only
    cases Artifacts.build studio library session.form <;> rfl

/-- **A preview shows what a build gives**, for the library that is named or chosen. -/
theorem answer_of_previews {choice : Option Library} (hrequest : request.Previews choice)
    (h : session.Reachable studio) (hapart : session.KeepsApart studio) :
    (answer studio session request).1 =
      shown (fun artifacts => .object 200 artifacts.toMembers)
        (Artifacts.build studio (choice.getD session.library) session.form) := by
  obtain ⟨hmethod, target, htarget, hpath, hvalue⟩ := hrequest
  have hanswer : answer studio session request = preview studio session target := by
    simp only [answer, hmethod, withTarget, htarget, get, hpath]
  rw [hanswer]
  unfold preview
  rw [hvalue]
  cases choice with
  | none => exact sessionArtifacts_eq h hapart _
  | some library =>
    by_cases hsame : library = session.library
    · have hnone : (some library.id).filter (fun name => name != "" && name != session.library.id) =
          none := by simp [Option.filter, hsame]
      subst hsame
      dsimp only [Option.map_some]
      rw [hnone]
      exact sessionArtifacts_eq h hapart _
    · have hgiven : library.id ≠ "" := by cases library <;> decide
      have hother : library.id ≠ session.library.id := fun hid => hsame (Library.id_injective hid)
      have hsome : (some library.id).filter (fun name => name != "" && name != session.library.id) =
          some library.id := by simp [Option.filter, hgiven, hother]
      dsimp only [Option.map_some]
      rw [hsome]
      exact artifactsFor_eq library

/-- Whether a request refines a session: what comes of it, how it may name a field and bring the
members of its body, and what it shows of a library that is not chosen. -/
structure Refines (studio : Studio) (session : Session) (request : Request) : Prop where
  outcome : IsRefined studio session request (answer studio session request)
  named : ∀ name cs, Percent.Encodes cs (Utf8.encode name) →
    request.target = fieldsPath ++ String.ofList cs → request.Names name
  brought : ∀ members style length, Json.IsReadableIn .extended (.obj members) →
    request.body = Utf8.encode (Json.print style (.obj members)) →
      request.contentLength = some length →
        readInteger length = .ok (request.body.length : Int) → request.Brings members
  previewed : ∀ library, request.Previews (some library) →
    session.Reachable studio → session.KeepsApart studio →
      ∀ other chosen, other.Reachable studio → other.KeepsApart studio →
        other.form = session.form → other.library = library → chosen.Previews none →
          (answer studio session request).1 = (answer studio other chosen).1

/-- **The requests refine the session**: each is the command it asks for, or changes nothing that
can be seen. A field may be named in any percent encoding of its name, a body may be any text of its
members, and a preview for a library that is named is that of any session with the same form where
this library is chosen. -/
theorem answer_refines (studio : Studio) (session : Session) (request : Request) :
    Refines studio session request where
  outcome := isRefined_answer studio session request
  named _ _ hcs htarget := Request.names_of_encodes htarget hcs
  brought _ _ _ hmembers hbody hlength hread :=
    Request.brings_of_print hmembers hbody hlength hread
  previewed library hrequest hsession hapart other chosen hother hapart' hform hlibrary hchosen := by
    subst hlibrary
    rw [answer_of_previews hrequest hsession hapart, answer_of_previews hchosen hother hapart',
      hform]
    rfl

theorem answer_refines_on_new_session :
    let studio := Studio.ofSetup .standard
    let start : Session := ⟨[], .reactHookForm, .memory [], [], .holding none, none, .ofText ""⟩
    let text := "[\x7b\"variant\":\"Input\",\"name\":\"ab\"\x7d]"
    let session := (start.step studio (.importForm (.str text))).2
    let chosen := (session.step studio (.select (.str "tanstack-form"))).2
    (∃ response new, answer studio session ⟨"DELETE", "/api/fields/a%62", none, []⟩ =
        (.ok response, new) ∧
      session.step studio (.remove "ab") = (.ok .done, new)) ∧
    (answer studio session ⟨"GET", "/api/preview?library=tanstack-form", none, []⟩).1 =
      (answer studio chosen ⟨"GET", "/api/preview", none, []⟩).1 := by
  intro studio start text session chosen
  have hstart : Session.start studio.config [] (.memory []) (.holding none) (.ofText "") =
      .ok start := rfl
  have hsession : session.Reachable studio := .step (.start (List.forall_mem_nil _) hstart) _
  have hkept : session.kept = none := Session.kept_step _
  refine ⟨?_, ?_⟩
  · have hrefines := answer_refines studio session ⟨"DELETE", "/api/fields/a%62", none, []⟩
    have hbytes : Utf8.encode "ab" = [UInt8.ofNat 'a'.toNat, UInt8.ofNat (6 * 16 + 2)] := by
      rw [Utf8.encode_eq]
      decide +kernel
    have hencodes : Percent.Encodes ['a', '%', '6', '2'] (Utf8.encode "ab") := by
      rw [hbytes]
      exact .plain ⟨by decide, by decide, by decide⟩ (.escaped rfl rfl .nil)
    have hname := hrefines.named "ab" _ hencodes rfl
    have hasks : Request.Asks _ (.remove "ab") := .remove rfl hname
    have hstatus : (answer studio session ⟨"DELETE", "/api/fields/a%62", none, []⟩).1.toOption.map
        Response.status = some 200 := by decide +kernel
    obtain ⟨response, hresponse, hok⟩ := Option.map_eq_some_iff.1 hstatus
    replace hresponse := toOption_eq_some_iff.1 hresponse
    obtain ⟨command, reply, -, hunique, hstep, hreported⟩ :=
      hrefines.outcome.changing response hresponse (by omega) (.remove rfl hname)
    cases hunique _ hasks
    cases hreported
    exact ⟨_, _, Prod.ext hresponse rfl, hstep⟩
  · have htarget : Target.ofText "/api/preview?library=tanstack-form" =
        .ok ⟨"/api/preview", [("library", "tanstack-form")]⟩ :=
      toOption_eq_some_iff.1 (by decide +kernel)
    have htarget' : Target.ofText "/api/preview" = .ok ⟨"/api/preview", []⟩ :=
      toOption_eq_some_iff.1 (by decide +kernel)
    have hchosen : chosen.kept = none := (Session.kept_step _).trans hkept
    refine (answer_refines studio session _).previewed .tanstackForm ⟨rfl, _, htarget, rfl, rfl⟩
      hsession (Session.keepsApart_of_kept_eq_none hkept) chosen _ (hsession.step _)
      (Session.keepsApart_of_kept_eq_none hchosen) ?_ ?_ ⟨rfl, _, htarget', rfl, rfl⟩
    · exact Session.form_step studio session _
    · exact Session.library_step_select studio session .tanstackForm

end Api

end FormStudio
