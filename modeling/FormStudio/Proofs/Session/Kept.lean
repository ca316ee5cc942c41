import FormStudio.Proofs.Session.Frame

/-!
# Artifacts of reachable sessions

What a reachable session keeps was built from fields that were read (`Session.Reachable.keepsBuilt`).
So unless the digest of the payload at hand is that of another kept payload, its artifacts are just
those that a build gives for its form and its library (`Session.artifacts_eq_build`): a session with
kept artifacts shows what one without them would show.
-/
namespace FormStudio

namespace Session

variable {studio : Studio} {session : Session}

/-- Whether what is kept was built, from fields that were read. -/
def KeepsBuilt (studio : Studio) (session : Session) : Prop :=
  ∀ old ∈ session.kept, ∃ form : Form, (∀ f ∈ form.fields, f.IsRead) ∧
    Artifacts.build studio old.library form = .ok old

/-- Whether the payload at hand has the digest of the kept one only if it is the same. -/
def KeepsApart (studio : Studio) (session : Session) : Prop :=
  ∀ old ∈ session.kept, ∀ payload ∈ session.payload? studio,
    Sha256.ofText (old.library.payload old.text) = Sha256.ofText payload →
      old.library.payload old.text = payload

theorem keepsApart_of_kept_eq_none (h : session.kept = none) : session.KeepsApart studio := by
  intro old hold
  rw [h] at hold
  cases hold

end Session

namespace Artifacts

variable {studio : Studio} {library : Library} {form : Form} {artifacts : Artifacts}

/-- What was built has the text of its form, and the library it was built for. -/
theorem text_of_build (h : build studio library form = .ok artifacts) :
    form.text studio.config.indent = .ok artifacts.text ∧ artifacts.library = library := by
  obtain ⟨text, htext, h⟩ := bind_eq_ok_iff.1 h
  obtain ⟨code, -, h⟩ := bind_eq_ok_iff.1 h
  cases h
  exact ⟨htext, rfl⟩

end Artifacts

namespace Session

variable {studio : Studio} {session : Session}

/-- **A step** keeps only what was built. -/
theorem KeepsBuilt.step (h : session.KeepsBuilt studio)
    (hfields : ∀ f ∈ session.form.fields, f.IsRead) (command : Command) :
    (session.step studio command).2.KeepsBuilt studio := by
  intro old hold
  rw [kept_step] at hold
  split at hold
  · unfold derived at hold
    split at hold
    · next new hartifacts =>
      obtain ⟨text, -, ⟨-, -, rfl⟩ | ⟨-, -, hbuild, rfl⟩⟩ := artifacts_eq_ok_iff.1 hartifacts
      · exact h old hold
      · cases hold
        refine ⟨session.form, hfields, ?_⟩
        rwa [(Artifacts.text_of_build hbuild).2]
    · exact h old hold
  · exact h old hold

theorem Reachable.keepsBuilt (h : session.Reachable studio) : session.KeepsBuilt studio := by
  induction h with
  | start _ h =>
    obtain ⟨-, -, hkept, -⟩ := of_start h
    intro old hold
    rw [hkept] at hold
    cases hold
  | step h command ih => exact ih.step h.isRead command
  | outside _ _ ih => exact ih

/-- What is kept for the digest of a payload is what a build gives for it. -/
theorem Reachable.build_of_kept? (h : session.Reachable studio) (hapart : session.KeepsApart studio)
    {text : String} {old : Artifacts} (htext : session.form.text studio.config.indent = .ok text)
    (hold : session.kept? (session.library.fingerprint text) = some old) :
    Artifacts.build studio session.library session.form = .ok old := by
  obtain ⟨hkept, hfingerprint⟩ := kept?_eq_some_iff.1 hold
  obtain ⟨form, hread, hbuild⟩ := h.keepsBuilt old hkept
  have hform := (Artifacts.text_of_build hbuild).1
  have hdigest : Sha256.ofText (old.library.payload old.text) =
      Sha256.ofText (session.library.payload text) := by
    have hprint := Artifacts.fingerprint_of_build hbuild
    rw [Form.fingerprint, hform, ok_bind, Except.ok.injEq] at hprint
    exact hprint.trans hfingerprint
  have hpayload := hapart old hkept _ (payload?_eq_some htext) hdigest
  obtain ⟨hlibrary, hsame⟩ := Library.payload_injective hpayload
  -- the same text stands for the same form
  rw [hsame] at hform
  rw [← Form.eq_of_text hread h.isRead hform htext, ← hlibrary]
  exact hbuild

/-- **A session shows what a build gives** for its form and its library, kept or not. -/
theorem artifacts_eq_build (h : session.Reachable studio) (hapart : session.KeepsApart studio) :
    (session.artifacts studio).map (fun result => result.1.1) =
      Artifacts.build studio session.library session.form := by
  cases htext : session.form.text studio.config.indent with
  | error e =>
    unfold artifacts Form.fingerprint Artifacts.build
    rw [htext]
    rfl
  | ok text =>
    unfold artifacts Form.fingerprint
    rw [htext, ok_bind, ok_bind]
    cases hold : session.kept? (session.library.fingerprint text) with
    | some old => exact (h.build_of_kept? hapart htext hold).symm
    | none => cases Artifacts.build studio session.library session.form <;> rfl

end Session

end FormStudio
