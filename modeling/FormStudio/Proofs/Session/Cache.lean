import FormStudio.Proofs.Form.Text
import FormStudio.Proofs.Session.Run

/-!
# Kept artifacts are never stale

A session keeps the artifacts it built last, and gives them out again when the fingerprint of its
form and library is theirs. The fingerprint is the digest of a payload, the library and the text of
the form. Different forms have different texts (`Form.eq_of_text`), so where the digests of the
payloads of a run differ, equal fingerprints stand for the same form and library.

The invariant of a run is that what is kept is what was built last (`Session.KeepsBuild`): deriving
artifacts, which copying does too, is the only step that touches it (`Session.kept_step`). It
follows that artifacts are always those of the form and the library at hand
(`Session.artifacts_fresh`).
-/
namespace FormStudio

/-! ## The payload of a fingerprint -/

namespace Library

theorem fingerprint_eq (library : Library) (text : String) :
    library.fingerprint text = Sha256.ofText (library.payload text) := rfl

/-- No identifier goes on to be another one. -/
theorem payload_injective {library library' : Library} {text text' : String}
    (h : library.payload text = library'.payload text') : library = library' ∧ text = text' := by
  have hlist := congrArg String.toList h
  cases library <;> cases library' <;> simp [payload, Library.id] at hlist ⊢ <;>
    exact String.toList_injective hlist

end Library

namespace Session

/-! ## Deriving -/

variable {studio : Studio} {session : Session}

/-- **When artifacts are given**: those kept, where the fingerprint is theirs, or new ones. -/
theorem artifacts_eq_ok_iff {artifacts : Artifacts} {kept : Bool} {new : Session} :
    session.artifacts studio = .ok ((artifacts, kept), new) ↔
      ∃ text, session.form.text studio.config.indent = .ok text ∧
        ((kept = true ∧ session.kept? (session.library.fingerprint text) = some artifacts ∧
          new = session) ∨
        (kept = false ∧ session.kept? (session.library.fingerprint text) = none ∧
          Artifacts.build studio session.library session.form = .ok artifacts ∧
          new = { session with kept := some artifacts })) := by
  unfold Session.artifacts Form.fingerprint
  cases session.form.text studio.config.indent with
  | error e => simp [error_bind]
  | ok text =>
    simp only [ok_bind, Except.ok.injEq, exists_eq_left']
    cases session.kept? (session.library.fingerprint text) with
    | some old =>
      simp only [Except.ok.injEq, Prod.mk.injEq, Option.some.injEq, reduceCtorEq, false_and,
        and_false, or_false]
      constructor
      · rintro ⟨⟨rfl, rfl⟩, rfl⟩
        exact ⟨rfl, rfl, rfl⟩
      · rintro ⟨rfl, rfl, rfl⟩
        exact ⟨⟨rfl, rfl⟩, rfl⟩
    | none =>
      simp only [bind_eq_ok_iff, Except.ok.injEq, Prod.mk.injEq, reduceCtorEq, false_and,
        and_false, false_or, true_and]
      constructor
      · rintro ⟨built, hbuild, ⟨rfl, rfl⟩, rfl⟩
        exact ⟨rfl, hbuild, rfl⟩
      · rintro ⟨rfl, hbuild, rfl⟩
        exact ⟨artifacts, hbuild, ⟨rfl, rfl⟩, rfl⟩

theorem kept?_eq_some_iff {fingerprint : String} {artifacts : Artifacts} :
    session.kept? fingerprint = some artifacts ↔
      session.kept = some artifacts ∧ artifacts.fingerprint = fingerprint := by
  simp [kept?, Option.filter_eq_some_iff]

variable (studio session)

/-- The session after deriving artifacts, or as it was where that fails. -/
def derived : Session :=
  match session.artifacts studio with
  | .ok (_, new) => new
  | .error _ => session

theorem artifactText_session (kind : String) :
    (session.artifactText studio kind).2 = session.derived studio := by
  unfold artifactText derived
  cases session.artifacts studio with
  | error e => rfl
  | ok result =>
    dsimp only
    cases ArtifactKind.ofId? kind <;> rfl

theorem kept_copy (kind : String) :
    (session.copy studio kind).2.kept = (session.derived studio).kept := by
  have htext := session.artifactText_session studio kind
  unfold copy
  split
  · next h =>
    rw [h] at htext
    rw [← htext]
  · next h =>
    rw [h] at htext
    rw [← htext]
    split <;> rfl

end Session

/-- Whether a command derives artifacts. -/
def Command.derives : Command → Bool
  | .artifacts => true
  | .copy _ => true
  | .text _ => true
  | _ => false

namespace Session

variable {studio : Studio} {session : Session}

/-- **Only deriving touches what is kept.** -/
theorem kept_step (command : Command) :
    (session.step studio command).2.kept =
      if command.derives then (session.derived studio).kept else session.kept := by
  cases command with
  | add variant index =>
    simp only [step, add]
    generalize session.form.add variant (index.getD (.int session.form.length)) session.digits =
      added
    obtain ⟨outcome, digits⟩ := added
    cases outcome <;> rfl
  | edit name updates =>
    rw [step]
    split
    · next hedit =>
      rw [edit_fields hedit]
      rfl
    · rfl
  | remove name =>
    simp only [step, remove]
    cases session.form.remove name <;> rfl
  | reset => rfl
  | importForm source =>
    simp only [step, importForm]
    cases Form.ofSource source <;> rfl
  | exportText =>
    rw [step]
    split <;> rfl
  | select choice =>
    have hselect : (session.select choice).2.kept = session.kept := by
      unfold select
      split
      · rfl
      · dsimp only
        split
        · rfl
        · split <;> rfl
    rw [step]
    split <;> next h => rwa [h] at hselect
  | artifacts =>
    simp only [step, derived]
    cases session.artifacts studio <;> rfl
  | copy kind =>
    have hcopy := session.kept_copy studio kind
    rw [step]
    split <;> next h => rwa [h] at hcopy
  | text kind =>
    have htext := session.artifactText_session studio kind
    rw [step]
    split <;> next h =>
      rw [h] at htext
      exact congrArg Session.kept htext
  | notify kind message => rfl
  | clear => rfl

/-! ## What was built last -/

variable (studio session) in
/-- The payload that deriving artifacts takes the digest of; none where the form has no text. -/
def payload? : Option String :=
  (session.form.text studio.config.indent).toOption.map session.library.payload

variable (studio session) in
/-- What a command builds artifacts for, if it builds any. -/
def built? (command : Command) : Option (Form × Library) :=
  match command.derives, session.artifacts studio with
  | true, .ok ((_, false), _) => some (session.form, session.library)
  | _, _ => none

/-- The payloads that a run takes the digests of. -/
def payloads (studio : Studio) (session : Session) : List Command → List String
  | [] => []
  | command :: rest =>
    (if command.derives then (session.payload? studio).toList else []) ++
      payloads studio (session.step studio command).2 rest

/-- The form and the library that a run built artifacts for last; those from before it where it
builds none. -/
def lastBuild (studio : Studio) (session : Session) (last : Option (Form × Library)) :
    List Command → Option (Form × Library)
  | [] => last
  | command :: rest =>
    lastBuild studio (session.step studio command).2 ((session.built? studio command).or last) rest

/-- What is kept is what was built last, from fields that were read and a payload among the given
ones. -/
def KeepsBuild (studio : Studio) (payloads : List String) (kept : Option Artifacts) :
    Option (Form × Library) → Prop
  | none => kept = none
  | some (form, library) => (∀ f ∈ form.fields, f.IsRead) ∧
      ∃ artifacts text, kept = some artifacts ∧
        Artifacts.build studio library form = .ok artifacts ∧
        form.text studio.config.indent = .ok text ∧ library.payload text ∈ payloads

/-- The digests of the given payloads differ. -/
def NoCollision (payloads : List String) : Prop :=
  ∀ a ∈ payloads, ∀ b ∈ payloads, Sha256.ofText a = Sha256.ofText b → a = b

/-! ## Steps and runs -/

theorem payload?_eq_some {text : String} (h : session.form.text studio.config.indent = .ok text) :
    session.payload? studio = some (session.library.payload text) := by
  rw [payload?, h]
  rfl

theorem payloads_append (first second : List Command) :
    session.payloads studio (first ++ second) =
      session.payloads studio first ++ (session.run studio first).payloads studio second := by
  induction first generalizing session with
  | nil => rfl
  | cons command rest ih =>
    rw [List.cons_append, payloads, payloads, ih, List.append_assoc]
    rfl

theorem isRead_step (h : ∀ f ∈ session.form.fields, f.IsRead) (command : Command) :
    ∀ f ∈ (session.step studio command).2.form.fields, f.IsRead := by
  rw [form_step]
  cases session.operation? command with
  | none => exact h
  | some op =>
    rw [Option.map_some, Option.getD_some]
    rcases Form.after_eq_or_change session.form op with heq | hchange
    · rwa [heq]
    · exact hchange.isRead h

/-- **A step** keeps what was built last, its own build included. -/
theorem KeepsBuild.step {payloads : List String} {last : Option (Form × Library)}
    (h : KeepsBuild studio payloads session.kept last)
    (hfields : ∀ f ∈ session.form.fields, f.IsRead) {command : Command}
    (hpayload : command.derives = true → ∀ p ∈ session.payload? studio, p ∈ payloads) :
    KeepsBuild studio payloads (session.step studio command).2.kept
      ((session.built? studio command).or last) := by
  rw [kept_step]
  unfold built?
  cases hderives : command.derives with
  | false => exact h
  | true =>
    unfold derived
    cases hartifacts : session.artifacts studio with
    | error e => exact h
    | ok result =>
      obtain ⟨⟨artifacts, kept⟩, new⟩ := result
      obtain ⟨text, htext, ⟨rfl, -, rfl⟩ | ⟨rfl, -, hbuild, rfl⟩⟩ :=
        artifacts_eq_ok_iff.1 hartifacts
      · exact h
      · have hmem := hpayload hderives _ (payload?_eq_some htext)
        exact ⟨hfields, artifacts, text, rfl, hbuild, htext, hmem⟩

/-- **A run** keeps what was built last, if its payloads are among the given ones. -/
theorem KeepsBuild.run {payloads : List String} {last : Option (Form × Library)}
    {commands : List Command} (h : KeepsBuild studio payloads session.kept last)
    (hfields : ∀ f ∈ session.form.fields, f.IsRead)
    (hpayloads : ∀ p ∈ session.payloads studio commands, p ∈ payloads) :
    KeepsBuild studio payloads (session.run studio commands).kept
        (session.lastBuild studio last commands) ∧
      ∀ f ∈ (session.run studio commands).form.fields, f.IsRead := by
  induction commands generalizing session last with
  | nil => exact ⟨h, hfields⟩
  | cons command rest ih =>
    rw [Session.payloads] at hpayloads
    obtain ⟨hnow, hrest⟩ := List.forall_mem_append.1 hpayloads
    have hpayload : command.derives = true → ∀ p ∈ session.payload? studio, p ∈ payloads := by
      intro hderives p hp
      rw [if_pos hderives] at hnow
      exact hnow p (Option.mem_toList.2 hp)
    exact ih (h.step hfields hpayload) (isRead_step hfields command) hrest

/-- What is kept with the fingerprint at hand was built for the same library and the same text, if
the payloads have different digests. -/
theorem KeepsBuild.of_fingerprint {payloads : List String} {artifacts : Artifacts}
    {last : Option (Form × Library)} {library : Library} {text : String}
    (h : KeepsBuild studio payloads (some artifacts) last) (hcollision : NoCollision payloads)
    (hpayload : library.payload text ∈ payloads)
    (hfingerprint : artifacts.fingerprint = library.fingerprint text) :
    ∃ form, last = some (form, library) ∧ form.text studio.config.indent = .ok text ∧
      (∀ f ∈ form.fields, f.IsRead) ∧ Artifacts.build studio library form = .ok artifacts := by
  cases last with
  | none => cases h
  | some built =>
    obtain ⟨form, library'⟩ := built
    obtain ⟨hread, old, text', hold, hbuild, htext', hmem⟩ := h
    cases hold
    have hprint := Artifacts.fingerprint_of_build hbuild
    rw [Form.fingerprint, htext', ok_bind, Except.ok.injEq] at hprint
    have hdigest : Sha256.ofText (library'.payload text') = Sha256.ofText (library.payload text) := by
      rw [← Library.fingerprint_eq, ← Library.fingerprint_eq]
      exact hprint.trans hfingerprint
    obtain ⟨rfl, rfl⟩ := Library.payload_injective (hcollision _ hmem _ hpayload hdigest)
    exact ⟨form, rfl, htext', hread, hbuild⟩

/-- **Kept artifacts are never stale.** In a run whose payloads have different digests, artifacts
are those that a new build would give for the form and the library at hand; and they are kept ones
exactly when the last build was for the same text and the same library. -/
theorem artifacts_fresh {studio : Studio} {session : Session} {commands : List Command}
    (hkept : session.kept = none) (hfields : ∀ f ∈ session.form.fields, f.IsRead)
    (hcollision : NoCollision (session.payloads studio (commands ++ [.artifacts])))
    {artifacts : Artifacts} {kept : Bool} {new : Session}
    (h : (session.run studio commands).artifacts studio = .ok ((artifacts, kept), new)) :
    let now := session.run studio commands
    Artifacts.build studio now.library now.form = .ok artifacts ∧
      (kept = true ↔ ∃ form, session.lastBuild studio none commands = some (form, now.library) ∧
        form.text studio.config.indent = now.form.text studio.config.indent) := by
  intro now
  have hstart : KeepsBuild studio (session.payloads studio (commands ++ [.artifacts]))
      session.kept none := hkept
  have hbefore : ∀ p ∈ session.payloads studio commands,
      p ∈ session.payloads studio (commands ++ [.artifacts]) := by
    rw [payloads_append]
    exact fun p => List.mem_append_left _
  obtain ⟨hkeeps, hnow⟩ := hstart.run hfields hbefore
  obtain ⟨text, htext, hcases⟩ := artifacts_eq_ok_iff.1 h
  have hpayload : now.library.payload text ∈
      session.payloads studio (commands ++ [.artifacts]) := by
    rw [payloads_append, payloads, payload?_eq_some htext]
    exact List.mem_append_right _ (List.mem_append_left _ (List.mem_singleton.2 rfl))
  rcases hcases with ⟨rfl, hfound, rfl⟩ | ⟨rfl, hnone, hbuild, rfl⟩
  · obtain ⟨hold, hfingerprint⟩ := kept?_eq_some_iff.1 hfound
    rw [hold] at hkeeps
    obtain ⟨form, hlast, htext', hread, hbuild⟩ :=
      hkeeps.of_fingerprint hcollision hpayload hfingerprint
    refine ⟨?_, fun _ => ⟨form, hlast, htext'.trans htext.symm⟩, fun _ => rfl⟩
    -- a text that was written can be read in one way only
    rw [← Form.eq_of_text hread hnow htext' htext]
    exact hbuild
  · refine ⟨hbuild, nofun, ?_⟩
    rintro ⟨form, hlast, htext'⟩
    rw [hlast] at hkeeps
    obtain ⟨-, old, text', hold, hbuild', hform, -⟩ := hkeeps
    have hfingerprint := Artifacts.fingerprint_of_build hbuild'
    rw [Form.fingerprint, htext', htext, ok_bind, Except.ok.injEq] at hfingerprint
    rw [kept?_eq_some_iff.2 ⟨hold, hfingerprint.symm⟩] at hnone
    cases hnone

theorem artifacts_fresh_after_select :
    let studio := Studio.ofSetup .standard
    let session : Session := ⟨[], .reactHookForm, .memory [], [], .holding none, none, .ofText ""⟩
    let now := session.run studio [.artifacts, .select (.str "tanstack-form"), .copy "code"]
    now.library = .tanstackForm ∧ ∃ artifacts new,
      now.artifacts studio = .ok ((artifacts, true), new) ∧
        Artifacts.build studio now.library now.form = .ok artifacts := by
  intro studio session now
  have hpayloads : session.payloads studio
      ([.artifacts, .select (.str "tanstack-form"), .copy "code"] ++ [.artifacts]) =
      ["react-hook-form\n[]", "tanstack-form\n[]", "tanstack-form\n[]"] := by decide +kernel
  have hdigests : Sha256.ofText "react-hook-form\n[]" ≠ Sha256.ofText "tanstack-form\n[]" := by
    decide +kernel
  have hkept : session.kept = none := rfl
  have hfields : ∀ f ∈ session.form.fields, f.IsRead := List.forall_mem_nil _
  have hcollision : NoCollision (session.payloads studio
      ([.artifacts, .select (.str "tanstack-form"), .copy "code"] ++ [.artifacts])) := by
    rw [hpayloads]
    simp [NoCollision, hdigests, hdigests.symm]
  have hfresh : ∀ artifacts new, now.artifacts studio = .ok ((artifacts, true), new) →
      Artifacts.build studio now.library now.form = .ok artifacts :=
    fun artifacts new h => (artifacts_fresh hkept hfields hcollision h).1
  have hlibrary : now.library = .tanstackForm := by decide +kernel
  have hgiven : (now.artifacts studio).toOption.map (fun result => result.1.2) = some true := by
    decide +kernel
  clear_value now
  obtain ⟨⟨⟨artifacts, kept⟩, new⟩, hsome, hkept⟩ := Option.map_eq_some_iff.1 hgiven
  obtain rfl : kept = true := hkept
  have h := toOption_eq_some_iff.1 hsome
  exact ⟨hlibrary, artifacts, new, h, hfresh artifacts new h⟩

end Session

end FormStudio
