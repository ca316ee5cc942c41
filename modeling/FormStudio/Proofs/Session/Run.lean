import FormStudio.Proofs.Form.Run
import FormStudio.Session.Command

/-!
# The form of a session

A command changes the form of a session by one operation or not at all (`Session.form_step`):
deriving, copying and choosing a library never touch it. So a run of commands takes a reachable form
to a reachable one (`Session.reachable_run`), whichever of them fail.
-/
namespace FormStudio

namespace Form

theorem getElem?_set_of_at? {α : Type} {items : List α} {index : Int} {item new : α}
    (h : at? items index = some item) : at? (items.set index.toNat new) index = some new := by
  have hitem := getElem?_of_at? h
  unfold at? at h ⊢
  split at h
  · cases h
  · next hindex =>
    rw [if_neg hindex, List.getElem?_set_self', hitem]
    rfl

/-- A field that was put in a place is found there. -/
theorem get_replace {form : Form} {path : FieldPath} {g : Field} (h : form.get path = .ok g)
    (f : Field) : (form.replace f path).get path = .ok f := by
  unfold get at h
  split at h
  · cases h
  · next i =>
    split at h <;> cases h
    next hat => simp only [replace, get, getElem?_set_of_at? hat]
  · next i j =>
    split at h
    · next members hat =>
      split at h <;> cases h
      next hmember =>
      simp only [replace, getElem?_of_at? hat, get, getElem?_set_of_at? hat,
        getElem?_set_of_at? hmember]
    · cases h
  · cases h

theorem get_of_update {form new : Form} {path : FieldPath} {updates : Update}
    (h : form.update path updates = .ok new) : ∃ f, new.get path = .ok f := by
  unfold update at h
  split at h
  · cases h
  obtain ⟨current, hget, h⟩ := bind_eq_ok_iff.1 h
  obtain ⟨updated, -, h⟩ := bind_eq_ok_iff.1 h
  split at h <;> cases h
  exact ⟨updated, get_replace hget updated⟩

end Form

namespace Session

/-- The operation a command is for the form; none for a command that leaves it alone. -/
def operation? (session : Session) : Command → Option Form.Operation
  | .add variant index =>
    some (.add variant (index.getD (.int session.form.length)) session.digits)
  | .edit name updates => some (.edit name updates)
  | .remove name => some (.remove name)
  | .reset => some .reset
  | .importForm source => some (.importForm source)
  | _ => none

variable (studio : Studio) (session : Session)

theorem form_step_add (variant : String) (index : Option Json) :
    (session.step studio (.add variant index)).2.form =
      session.form.after (.add variant (index.getD (.int session.form.length)) session.digits) := by
  simp only [step, add, Form.after, Form.perform?]
  generalize session.form.add variant (index.getD (.int session.form.length)) session.digits = added
  obtain ⟨outcome, digits⟩ := added
  cases outcome <;> rfl

theorem form_step_edit (name : String) (updates : Update) :
    (session.step studio (.edit name updates)).2.form =
      session.form.after (.edit name updates) := by
  simp only [step, edit, Form.after, Form.perform?]
  cases session.form.find? name with
  | none => rfl
  | some path =>
    simp only [Option.bind_some]
    cases hupdate : session.form.update path updates with
    | error e => rfl
    | ok form =>
      obtain ⟨f, hf⟩ := Form.get_of_update hupdate
      simp only [ok_bind, hf]
      rfl

theorem form_step_remove (name : String) :
    (session.step studio (.remove name)).2.form = session.form.after (.remove name) := by
  simp only [step, remove, Form.after, Form.perform?]
  cases session.form.remove name <;> rfl

theorem form_step_importForm (source : Json) :
    (session.step studio (.importForm source)).2.form = session.form.after (.importForm source) := by
  simp only [step, importForm, Form.after, Form.perform?]
  cases Form.ofSource source <;> rfl

theorem form_artifacts {new : Session} {result : Artifacts × Bool}
    (h : session.artifacts studio = .ok (result, new)) : new.form = session.form := by
  rw [artifacts_form h]

theorem form_artifactText (kind : String) :
    (session.artifactText studio kind).2.form = session.form := by
  unfold artifactText
  split
  · rfl
  · next artifacts kept new hartifacts =>
    split <;> exact form_artifacts studio session hartifacts

theorem form_copy (kind : String) : (session.copy studio kind).2.form = session.form := by
  have htext := form_artifactText studio session kind
  unfold copy
  split
  · next h => rwa [h] at htext
  · next h =>
    rw [h] at htext
    split <;> exact htext

theorem form_select (choice : Json) : (session.select choice).2.form = session.form := by
  unfold select
  split
  · rfl
  · dsimp only
    split
    · rfl
    · split <;> rfl

/-- **A command** changes the form by its operation, or leaves it alone. -/
theorem form_step (command : Command) :
    (session.step studio command).2.form =
      ((session.operation? command).map session.form.after).getD session.form := by
  cases command with
  | add variant index => exact form_step_add studio session variant index
  | edit name updates => exact form_step_edit studio session name updates
  | remove name => exact form_step_remove studio session name
  | reset => rfl
  | importForm source => exact form_step_importForm studio session source
  | exportText =>
    rw [step]
    split <;> rfl
  | select library =>
    have hselect := form_select session library
    rw [step]
    split <;> next h => rwa [h] at hselect
  | artifacts =>
    rw [step]
    split
    · next h => exact form_artifacts studio session h
    · rfl
  | copy kind =>
    have hcopy := form_copy studio session kind
    rw [step]
    split <;> next h => rwa [h] at hcopy
  | text kind =>
    have htext := form_artifactText studio session kind
    rw [step]
    split <;> next h => rwa [h] at htext
  | notify kind message => rfl
  | clear => rfl

/-- **A run of commands** takes a reachable form to a reachable one. -/
theorem reachable_run (commands : List Command)
    (h : session.form.Reachable fun _ => True) :
    (session.run studio commands).form.Reachable fun _ => True := by
  induction commands generalizing session with
  | nil => exact h
  | cons command rest ih =>
    refine ih (session.step studio command).2 ?_
    rw [form_step]
    cases session.operation? command with
    | none => exact h
    | some op => exact .step h trivial

end Session

end FormStudio
