import FormStudio.Artifacts
import FormStudio.Form.Import
import FormStudio.Text.Blank

/-!
# Reviews

A review derives the artifacts of a pasted text, without any session. Blanks around the text do not
count, and a library that is unknown gives way to the configured one. Where half of a surrogate pair
is left in the form, there are no bytes that a fingerprint could be taken of.

Main statement: `Review.build_of_hasNoHalf`, a form from a text without halves has the artifacts
that are built for it.
-/
namespace FormStudio

/-- Why a text is not reviewed. -/
inductive ReviewError where
  /-- There is no text. -/
  | empty
  | notImported (error : ImportError)
  | notDerived (error : DerivationError)
  deriving DecidableEq, Repr

def ReviewError.message : ReviewError → String
  | .empty => "Please paste form JSON."
  | .notImported error => error.message
  | .notDerived error => error.message

/-- A reviewed form. -/
structure Review where
  form : Form
  artifacts : Artifacts

/-- The failure to encode a text in which some characters stand for halves: the places of the first
ones, and the code unit of the first. -/
def DerivationError.ofHalves (halves : Nat) (cs : List Char) : DerivationError :=
  let first := cs.findIdx (Json.isHalf halves)
  let run := (cs.drop first).takeWhile (Json.isHalf halves)
  .notEncodable first (first + run.length - 1)
    (run.head?.elim 0 fun c => 0xd800 + (c.toNat - halves))

namespace Review

/-- The failure to take a fingerprint of the form in a text. -/
def fingerprintError (config : Config) (library : Library) (text : String) : DerivationError :=
  let written := (Form.ofTextApart text).toOption.bind fun form =>
    (form.text config.indent).toOption
  .ofHalves (Json.unusedHalves text) (library.payload (written.getD "")).toList

/-- The artifacts of the form that was imported from a text. -/
def build (studio : Studio) (library : Library) (text : String) (form : Form) :
    Derived Artifacts :=
  if Form.HoldsHalf text then .error (fingerprintError studio.config library text)
  else Artifacts.build studio library form

/-- Reviews a text for a library. -/
def ofText (studio : Studio) (text : String) (choice : Option String) :
    Except ReviewError Review :=
  let trimmed := trimText text
  if trimmed = "" then .error .empty
  else
    match Form.ofText trimmed with
    | .error e => .error (.notImported e)
    | .ok form =>
      match build studio (Library.resolve studio.config choice) trimmed form with
      | .error e => .error (.notDerived e)
      | .ok artifacts => .ok ⟨form, artifacts⟩

theorem build_of_hasNoHalf (studio : Studio) (library : Library) {text : String}
    (h : Json.HasNoHalf text) (form : Form) :
    build studio library text form = Artifacts.build studio library form :=
  if_neg (Form.not_holdsHalf h)

end Review

end FormStudio
