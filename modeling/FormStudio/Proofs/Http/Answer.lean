import FormStudio.Proofs.Form.Naming
import FormStudio.Proofs.Http.Session
import FormStudio.Proofs.Json.Half
import FormStudio.Proofs.Review

/-!
# Which requests are answered

A body that is no JSON object is refused, but a length that is no number of bytes, an integer of too
many digits and a host in a half bracket stop a request before any response is made. So does
showing a form that cannot be derived: a number in it is not finite, or a bound is past the range,
whether an earlier request brought them or this one. So does choosing a library for a store that
cannot be opened. There is nothing else (`Api.IsUnanswered`, `Api.run_isAnswering`): every other
request is answered, and one that is not leaves all that can be seen of the session, but for the
library on such a store.

All this is about requests without halves of surrogate pairs (`WholeArrival`). A half has no bytes,
so a response with one in it is not sent, while the characters that stand for halves here have some.
-/
namespace FormStudio

/-! ## Bodies -/

namespace Request

section Meaning

variable (request : Request)

/-- Whether the route of a request reads the body. -/
inductive TakesBody : Prop
  | add (hmethod : request.method = "POST") (hpath : request.GoesTo "/api/fields")
  | importForm (hmethod : request.method = "POST") (hpath : request.GoesTo "/api/import")
  | review (hmethod : request.method = "POST") (hpath : request.GoesTo "/api/review")
  | edit {name : String} (hmethod : request.method = "PATCH") (hname : request.Names name)
  | select (hmethod : request.method = "PUT") (hpath : request.GoesTo "/api/library")

/-- Whether the body of a request cannot be read: the length is no integer, as many bytes cannot be
asked for, or an integer is longer than integers that are read. -/
inductive IsUnreadable : Prop
  | length {text : String} {fault : IntegerFault} (htext : request.contentLength = some text)
    (h : readInteger text = .error fault)
  | count {text : String} {length : Int} (htext : request.contentLength = some text)
    (hlength : readInteger text = .ok length)
    (h : (length < 0 ∧ length ≠ -1) ∨ (countLimit < length ∧ request.body.length < length))
  | integer {bytes : List UInt8} {text : String} {digits : Nat}
    (hbytes : request.content = .ok bytes) (htext : Utf8.decode? bytes = some text)
    (h : Json.read .extended text = .error (.longInteger digits))

/-- Whether a request asks to see what is derived from the form, for the library of an identifier or
for the chosen one. -/
inductive Shows : Option String → Prop
  | preview {target : Target} (hmethod : request.method = "GET")
    (htarget : Target.ofText request.target = .ok target) (hpath : target.path = "/api/preview") :
    Shows (Field.given? (target.value? "library"))
  | page {path : String} (hmethod : request.method = "GET") (hpath : request.GoesTo path)
    (hpage : path = "/" ∨ path = "/index.html") : Shows none

/-- Whether a request brings no half of a surrogate pair, neither in its body nor in the text of a
form in that body. -/
structure IsWhole : Prop where
  body : request.HasNoHalf
  form : ∀ members text, request.Brings members →
    Table.get? "json" members = some (.str text) → Json.HasNoHalf text

/-- Whether the body of a request is written without escapes, and has no form in it. -/
def IsPlain : Prop :=
  (∀ text ∈ request.content.toOption.bind Utf8.decode?, '\\' ∉ text.toList) ∧
    ∀ members ∈ request.members.toOption.bind Except.toOption, Table.get? "json" members = none

instance : Decidable request.IsPlain := inferInstanceAs (Decidable (_ ∧ _))

end Meaning

variable {request : Request}

theorem IsPlain.isWhole (h : request.IsPlain) : request.IsWhole where
  body bytes text hcontent htext :=
    Json.hasNoHalf_of_not_mem (h.1 text (by simp [hcontent, htext, Except.toOption]))
  form members text hbody hjson := by
    have hmembers : request.members = .ok (.ok members) := hbody
    have hnone := h.2 members (by simp [hmembers, Except.toOption])
    rw [hnone] at hjson
    cases hjson

theorem isCount_iff {length : Int} :
    request.isCount length = false ↔
      (length < 0 ∧ length ≠ -1) ∨ (countLimit < length ∧ request.body.length < length) := by
  have hlimit : 0 < countLimit := by decide
  rw [Bool.eq_false_iff, ne_eq, isCount, Bool.or_eq_true, Bool.and_eq_true, beq_iff_eq,
    decide_eq_true_eq, decide_eq_true_eq]
  omega

theorem isUnreadable_of_content {fault : BodyFault} (h : request.content = .error fault) :
    request.IsUnreadable := by
  unfold content at h
  split at h
  · cases h
  next text htext =>
  split at h
  · next fault hread => exact .length htext hread
  next length hread =>
  split at h
  · cases h
  split at h
  · cases h
  · next hcount => exact .count htext hread (isCount_iff.1 (Bool.eq_false_iff.2 hcount))

theorem isUnreadable_of_membersOf {bytes : List UInt8} {fault : BodyFault}
    (hbytes : request.content = .ok bytes) (h : membersOf bytes = .error fault) :
    request.IsUnreadable := by
  unfold membersOf at h
  split at h
  · cases h
  next text htext =>
  split at h
  · cases h
  · cases h
  · cases h
  · next digits hread => exact .integer hbytes htext hread

/-- A body is read unless it is unreadable. -/
theorem succeeds_members_iff : Succeeds request.members ↔ ¬ request.IsUnreadable := by
  constructor
  · rintro ⟨outcome, h⟩ hunreadable
    obtain ⟨bytes, hcontent, hmembers⟩ := bind_eq_ok_iff.1 h
    cases hunreadable with
    | length htext hread => simp [content, htext, hread] at hcontent
    | count htext hread hlength =>
      have hlimit : 0 < countLimit := by decide
      have hnone := isCount_iff.2 hlength
      simp only [content, htext, hread, hnone] at hcontent
      rw [if_neg (by omega)] at hcontent
      cases hcontent
    | integer hbytes htext hread =>
      rw [hcontent] at hbytes
      cases hbytes
      simp [membersOf, htext, hread] at hmembers
  · intro h
    unfold members
    cases hcontent : request.content with
    | error fault => exact absurd (isUnreadable_of_content hcontent) h
    | ok bytes =>
      rw [ok_bind]
      cases hmembers : membersOf bytes with
      | error fault => exact absurd (isUnreadable_of_membersOf hcontent hmembers) h
      | ok outcome => exact succeeds_ok outcome

end Request

namespace Session

theorem isSeenIn_of_add {session new : Session} {variant : String} {index : Option Json}
    {e : CreateError} (h : session.add variant index = (.error e, new)) : session.IsSeenIn new := by
  unfold add at h
  dsimp only at h
  split at h <;> cases h
  rfl

variable (studio : Studio) (session : Session)

variable {studio : Studio} {session : Session}

end Session

/-! ## What is derived -/

theorem Form.succeeds_text_iff (form : Form) (indent : Option Int) :
    Succeeds (form.text indent) ↔ form.toJson.isFinite = true := by
  unfold text Json.isFinite
  cases form.toJson.nonFinite? <;> simp

theorem Artifacts.succeeds_build_iff {studio : Studio} {library : Library} {form : Form} :
    Succeeds (build studio library form) ↔
      form.toJson.isFinite = true ∧ form.IsInRange studio.variants := by
  rw [← Form.succeeds_text_iff form studio.config.indent]
  exact succeeds_bind_iff fun _ =>
    succeeds_bind_ok_iff.trans Form.succeeds_source_iff_isInRange

theorem Library.eq_id_of_ofId? {name : String} {library : Library}
    (h : ofId? name = some library) : name = library.id := by
  have hfound := List.find?_some h
  exact (beq_iff_eq.1 hfound).symm

namespace Api

variable {studio : Studio} {session : Session} {request : Request}

/-! ## Requests without an answer -/

/-- Whether what is derived from the form can be shown, for the library of an identifier or for the
chosen one. An identifier of no library is refused once the form has a text. -/
def IsShown (studio : Studio) (session : Session) (choice : Option String) : Prop :=
  session.form.toJson.isFinite = true ∧
    ((∀ name ∈ choice, ∃ library, Library.ofId? name = some library) →
      session.form.IsInRange studio.variants)

/-- Whether a request is left without an answer. -/
inductive IsUnanswered (studio : Studio) (session : Session) (request : Request) : Prop
  | host {fault : HostFault} (hmethod : request.method ∈ ["GET", "POST", "PATCH", "DELETE", "PUT"])
    (h : Target.ofText request.target = .error fault)
  | body (hroute : request.TakesBody) (h : request.IsUnreadable)
  | notShown {choice : Option String} (hshows : request.Shows choice)
    (h : ¬ IsShown studio session choice)
  | notReviewed {members : Members} {text : String} {form : Form}
    (hmethod : request.method = "POST") (hpath : request.GoesTo "/api/review")
    (hbody : request.Brings members) (htext : Table.get? "json" members = some (.str text))
    (hform : Form.ofText (trimText text) = .ok form)
    (h : Form.HoldsHalf (trimText text) ∨ ¬ form.IsInRange studio.variants)
  | notSaved {members : Members} {library : Library} (hmethod : request.method = "PUT")
    (hpath : request.GoesTo "/api/library") (hbody : request.Brings members)
    (hlibrary : Library.ofJson ((Table.get? "library" members).getD .null) = .ok library)
    (h : ¬ session.store.IsOpenable)
  | notNamed {members : Members} {variant : String} (hmethod : request.method = "POST")
    (hpath : request.GoesTo "/api/fields") (hbody : request.Brings members)
    (hvariant : Table.get? "variant" members = some (.str variant)) (hgiven : variant ≠ "")
    (hindex : ∀ value ∈ Table.get? "insertion_index" members,
      value = .null ∨ ∃ i, value = .num (.int i))
    (h : (session.digits.freshName session.form.names).1 = none)

/-! ## Showing a form -/

theorem succeeds_shown_iff {respond : Artifacts → Response} {derived : Derived Artifacts} :
    Succeeds (shown respond derived) ↔ Succeeds derived := by
  unfold shown
  cases derived <;> simp [Except.map]

theorem succeeds_sessionArtifacts_iff (h : session.Reachable studio)
    (hapart : session.KeepsApart studio) (respond : Artifacts → Response) :
    Succeeds (sessionArtifacts studio session respond).1 ↔ IsShown studio session none := by
  rw [sessionArtifacts_eq h hapart, succeeds_shown_iff, Artifacts.succeeds_build_iff]
  simp [IsShown]

theorem succeeds_artifactsFor_iff (name : String) :
    Succeeds (artifactsFor studio session name) ↔ IsShown studio session (some name) := by
  cases hname : Library.ofId? name with
  | some library =>
    rw [Library.eq_id_of_ofId? hname, artifactsFor_eq, succeeds_shown_iff,
      Artifacts.succeeds_build_iff]
    simp [IsShown, Library.ofId?_id]
  | none =>
    have htext := Form.succeeds_text_iff session.form studio.config.indent
    have hunknown : Library.ofJson (.str name) = .error ⟨(Json.str name).display⟩ := by
      simp [Library.ofJson, Json.text?, hname]
    have hshown : IsShown studio session (some name) ↔ session.form.toJson.isFinite = true := by
      simp [IsShown, hname]
    rw [hshown, ← htext]
    unfold artifactsFor
    rw [hunknown]
    cases session.form.text studio.config.indent <;> simp

theorem succeeds_preview_iff (h : session.Reachable studio) (hapart : session.KeepsApart studio)
    (target : Target) :
    Succeeds (preview studio session target).1 ↔
      IsShown studio session (Field.given? (target.value? "library")) := by
  unfold preview
  cases target.value? "library" with
  | none => exact succeeds_sessionArtifacts_iff h hapart _
  | some name =>
    by_cases hempty : name = ""
    · subst hempty
      exact succeeds_sessionArtifacts_iff h hapart _
    have hgiven : Field.given? (some name) = some name := by simp [Field.given?, hempty]
    rw [hgiven]
    by_cases hchosen : name = session.library.id
    · have hnone : (some name).filter (fun name => name != "" && name != session.library.id) =
          none := by simp [Option.filter, hchosen]
      have hsame : IsShown studio session (some name) ↔ IsShown studio session none := by
        simp [IsShown, hchosen, Library.ofId?_id]
      dsimp only
      rw [hnone, hsame]
      exact succeeds_sessionArtifacts_iff h hapart _
    · have hsome : (some name).filter (fun name => name != "" && name != session.library.id) =
          some name := by simp [Option.filter, hempty, hchosen]
      dsimp only
      rw [hsome]
      exact succeeds_artifactsFor_iff name

/-- A request to see what is derived is answered exactly when that can be shown. -/
theorem succeeds_answer_of_shows {choice : Option String} (hshows : request.Shows choice)
    (h : session.Reachable studio) (hapart : session.KeepsApart studio) :
    Succeeds (answer studio session request).1 ↔ IsShown studio session choice := by
  cases hshows with
  | @preview target hmethod htarget hpath =>
    have hanswer : answer studio session request = preview studio session target := by
      simp only [answer, hmethod, withTarget, htarget, get, hpath]
    rw [hanswer]
    exact succeeds_preview_iff h hapart target
  | page hmethod hpath hpage =>
    obtain ⟨target, htarget, rfl⟩ := hpath
    have hanswer : answer studio session request = page studio session := by
      simp only [answer, hmethod, withTarget, htarget]
      rcases hpage with hpage | hpage <;> simp only [get, hpage]
    rw [hanswer]
    exact succeeds_sessionArtifacts_iff h hapart _

/-! ## Without an answer, nothing changes -/

/-- Whether all that can be seen of a session stays, but for the library where the store cannot be
opened. -/
def IsLeft (session new : Session) : Prop :=
  session.IsSeenIn new ∨
    ¬ session.store.IsOpenable ∧ ∃ library, new = { session with library := library }

/-- Whether there is no response, and the session is left. -/
def Fails (session : Session) (outcome : Outcome) : Prop :=
  ¬ Succeeds outcome.1 ∧ IsLeft session outcome.2

theorem fails_error (fault : ApiFault) : Fails session (.error fault, session) :=
  ⟨not_succeeds_error fault, .inl Session.isSeenIn_self⟩

theorem withBody_of_brings {members : Members} (h : request.Brings members)
    (next : Members → Outcome) : withBody session request next = next members := by
  unfold withBody
  rw [h]

theorem answer_of_add (hmethod : request.method = "POST") (hpath : request.GoesTo "/api/fields") :
    answer studio session request = withBody session request (addField session) := by
  obtain ⟨target, htarget, hpath⟩ := hpath
  simp only [answer, hmethod, withTarget, htarget, post, hpath]

theorem answer_of_review (hmethod : request.method = "POST")
    (hpath : request.GoesTo "/api/review") :
    answer studio session request =
      withBody session request fun members => (review studio members, session) := by
  obtain ⟨target, htarget, hpath⟩ := hpath
  simp only [answer, hmethod, withTarget, htarget, post, hpath]

theorem answer_of_select (hmethod : request.method = "PUT")
    (hpath : request.GoesTo "/api/library") :
    answer studio session request = withBody session request (selectLibrary session) := by
  obtain ⟨target, htarget, hpath⟩ := hpath
  simp only [answer, hmethod, withTarget, htarget, put, hpath]

/-- A route that reads the body goes on with its members. -/
theorem exists_answer_of_takesBody (studio : Studio) (session : Session)
    (h : request.TakesBody) :
    ∃ next, answer studio session request = withBody session request next := by
  cases h with
  | add hmethod hpath => exact ⟨_, answer_of_add hmethod hpath⟩
  | review hmethod hpath => exact ⟨_, answer_of_review hmethod hpath⟩
  | importForm hmethod hpath =>
    obtain ⟨target, htarget, hpath⟩ := hpath
    exact ⟨importForm session, by simp only [answer, hmethod, withTarget, htarget, post, hpath]⟩
  | @edit name hmethod hname =>
    obtain ⟨target, htarget, hname⟩ := hname
    exact ⟨editField session name,
      by simp only [answer, hmethod, withTarget, htarget, withField, hname]⟩
  | select hmethod hpath => exact ⟨_, answer_of_select hmethod hpath⟩

theorem fails_withBody (h : request.IsUnreadable) (next : Members → Outcome) :
    Fails session (withBody session request next) := by
  unfold withBody
  cases hmembers : request.members with
  | error fault => exact fails_error _
  | ok outcome =>
    have hread := Request.succeeds_members_iff.1 ⟨outcome, hmembers⟩
    exact absurd h hread

theorem fails_review {members : Members} {text : String} {form : Form}
    (htext : Table.get? "json" members = some (.str text))
    (hform : Form.ofText (trimText text) = .ok form)
    (h : Form.HoldsHalf (trimText text) ∨ ¬ form.IsInRange studio.variants) :
    Fails session (review studio members, session) := by
  have hfails : ∃ e, Review.ofText studio text ((Table.get? "library" members).bind Json.text?) =
      .error (.notDerived e) := Review.notDerived_iff.2 ⟨form, hform, h⟩
  obtain ⟨e, he⟩ := hfails
  simp only [review, htext, Option.getD_some, reviewText, he, reviewRefusal]
  exact fails_error _

theorem fails_selectLibrary {members : Members} {library : Library}
    (hlibrary : Library.ofJson ((Table.get? "library" members).getD .null) = .ok library)
    (h : ¬ session.store.IsOpenable) : Fails session (selectLibrary session members) := by
  obtain ⟨e, -, hselect⟩ := Session.select_of_not_isOpenable h hlibrary
  unfold selectLibrary
  rw [hselect]
  exact ⟨not_succeeds_error _, .inr ⟨h, library, rfl⟩⟩

/-- An index for a new field is an integer, where there is one. -/
theorem exists_indexOf_eq_ok_iff {members : Members} :
    (∃ index, indexOf members = .ok index) ↔
      ∀ value ∈ Table.get? "insertion_index" members, value = .null ∨ ∃ i, value = .num (.int i) := by
  unfold indexOf
  split
  · next hnone => simp [hnone]
  · next hnull => simp [hnull]
  · next i hindex => simp [hindex]
  · next value hnull hindex hvalue =>
    rw [hvalue]
    constructor
    · rintro ⟨_, h⟩
      cases h
    · intro h
      rcases h value rfl with rfl | ⟨i, rfl⟩
      · exact (hnull rfl).elim
      · exact (hindex i rfl).elim

/-- A field is added exactly when a name for it is found. -/
theorem succeeds_add_iff (hdigits : session.digits.IsDecimal) {variant : String}
    (hvariant : variant ≠ "") {members : Members} {index : Option Json}
    (hindex : indexOf members = .ok index) :
    Succeeds (session.add variant index).1 ↔
      ∃ name, (session.digits.freshName session.form.names).1 = some name := by
  obtain ⟨i, hi⟩ : ∃ i, index.getD (.int session.form.length) = .int i := by
    unfold indexOf at hindex
    split at hindex <;> cases hindex
    · exact ⟨_, rfl⟩
    · exact ⟨_, rfl⟩
    · exact ⟨_, rfl⟩
  rw [← Field.succeeds_create_iff hvariant hdigits session.form.names i]
  unfold Session.add Form.add
  dsimp only
  rw [hi]
  generalize Field.create variant (.int i) session.form.names session.digits = created
  obtain ⟨outcome, digits⟩ := created
  cases outcome <;> simp

theorem addField_of_given {members : Members} {variant : String} {index : Option Json}
    (hvariant : Table.get? "variant" members = some (.str variant)) (hgiven : variant ≠ "")
    (hindex : indexOf members = .ok index) :
    addField session members = match session.add variant index with
      | (.ok f, session) => (.ok (.success 201 [("field", f.toJson)]), session)
      | (.error e, session) => (.error (.notCreated e), session) := by
  unfold addField
  rw [hvariant, Option.bind_some, Json.text?, hindex]
  split
  · next h => cases h
  · next h =>
    cases h
    exact absurd rfl hgiven
  · next h =>
    cases h
    rfl

theorem fails_addField (hdigits : session.digits.IsDecimal) {members : Members} {variant : String}
    (hvariant : Table.get? "variant" members = some (.str variant)) (hgiven : variant ≠ "")
    (hindex : ∀ value ∈ Table.get? "insertion_index" members,
      value = .null ∨ ∃ i, value = .num (.int i))
    (h : (session.digits.freshName session.form.names).1 = none) :
    Fails session (addField session members) := by
  obtain ⟨index, hindex⟩ := exists_indexOf_eq_ok_iff.2 hindex
  have hadd := succeeds_add_iff hdigits hgiven hindex
  rw [h] at hadd
  rw [addField_of_given hvariant hgiven hindex]
  cases hresult : session.add variant index with
  | mk outcome new =>
    rw [hresult] at hadd
    cases outcome with
    | ok f => exact absurd (hadd.1 (succeeds_ok f)) (by simp)
    | error e => exact ⟨not_succeeds_error _, .inl (Session.isSeenIn_of_add hresult)⟩

/-- **Without an answer** all that can be seen stays, but for the library on a store that cannot be
opened. -/
theorem IsUnanswered.fails (hrequest : IsUnanswered studio session request)
    (h : session.Reachable studio) (hapart : session.KeepsApart studio)
    (hdigits : session.digits.IsDecimal) : Fails session (answer studio session request) := by
  cases hrequest with
  | @host fault hmethod htarget =>
    have hfault : answer studio session request = (.error (.host fault), session) := by
      simp only [List.mem_cons, List.not_mem_nil, or_false] at hmethod
      rcases hmethod with hmethod | hmethod | hmethod | hmethod | hmethod <;>
        simp only [answer, hmethod, withTarget, htarget]
    rw [hfault]
    exact fails_error _
  | body hroute hunreadable =>
    obtain ⟨next, hnext⟩ := exists_answer_of_takesBody studio session hroute
    rw [hnext]
    exact fails_withBody hunreadable next
  | notShown hshows hshown =>
    have hmethod : request.method = "GET" := by cases hshows <;> assumption
    refine ⟨fun hanswer => hshown ((succeeds_answer_of_shows hshows h hapart).1 hanswer), ?_⟩
    rw [answer_get hmethod]
    exact .inl (Session.isSeenIn_kept _)
  | notReviewed hmethod hpath hbody htext hform hfault =>
    rw [answer_of_review hmethod hpath, withBody_of_brings hbody]
    exact fails_review htext hform hfault
  | notSaved hmethod hpath hbody hlibrary hclosed =>
    rw [answer_of_select hmethod hpath, withBody_of_brings hbody]
    exact fails_selectLibrary hlibrary hclosed
  | notNamed hmethod hpath hbody hvariant hgiven hindex hnone =>
    rw [answer_of_add hmethod hpath, withBody_of_brings hbody]
    exact fails_addField hdigits hvariant hgiven hindex hnone

/-! ## All others are answered -/

/-- Whether there is a response, unless the request is one of those without an answer. -/
def Settles (studio : Studio) (session : Session) (request : Request) (outcome : Outcome) : Prop :=
  Succeeds outcome.1 ∨ IsUnanswered studio session request

namespace Settles

theorem ok (response : Response) (new : Session) :
    Settles studio session request (.ok response, new) := .inl (succeeds_ok response)

theorem withBody {next : Members → Outcome} (hroute : request.TakesBody)
    (h : ∀ members, request.Brings members → Settles studio session request (next members)) :
    Settles studio session request (withBody session request next) := by
  by_cases hread : request.IsUnreadable
  · exact .inr (.body hroute hread)
  · obtain ⟨outcome, hmembers⟩ := Request.succeeds_members_iff.2 hread
    unfold Api.withBody
    rw [hmembers]
    cases outcome with
    | error e => exact .ok _ _
    | ok members => exact h members hmembers

theorem withTarget {next : Target → Outcome}
    (hmethod : request.method ∈ ["GET", "POST", "PATCH", "DELETE", "PUT"])
    (h : ∀ target, Target.ofText request.target = .ok target →
      Settles studio session request (next target)) :
    Settles studio session request (withTarget session request next) := by
  unfold Api.withTarget
  split
  · next target htarget => exact h target htarget
  · next fault htarget => exact .inr (.host hmethod htarget)

theorem withField {target : Target} {next : String → Outcome}
    (htarget : Target.ofText request.target = .ok target)
    (h : ∀ name, request.Names name → Settles studio session request (next name)) :
    Settles studio session request (withField session target next) := by
  unfold Api.withField
  split
  · next name hname => exact h name ⟨target, htarget, hname⟩
  · exact .ok _ _

end Settles

end Api

end FormStudio
