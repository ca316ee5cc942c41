import FormStudio.Code.Component
import FormStudio.Digest.Sha256
import FormStudio.Form.Export
import FormStudio.Palette
import FormStudio.Preview.Layout
import FormStudio.Setup

/-!
# Artifacts of a form

Everything that is derived from a form for one library: its text, its schema, the values it starts
with, the source of a component, the preview, and the components to install. They depend on the
form, the library, the settings and the widgets alone; a fingerprint stands for the form and the
library.

Main statement: `Artifacts.fingerprint_of_build`, artifacts carry the fingerprint of what they were
built from.
-/
namespace FormStudio

/-- What artifacts depend on besides a form and a library. -/
structure Studio where
  setup : Setup
  registry : Registry

namespace Studio

/-- A studio with the widgets that its variants come with. -/
def ofSetup (setup : Setup) : Studio := ⟨setup, .standard setup.variants⟩

def config (studio : Studio) : Config := studio.setup.config

def variants (studio : Studio) : VariantTable := studio.setup.variants

end Studio

/-- What is derived from a form for a library. -/
structure Artifacts where
  library : Library
  fingerprint : String
  text : String
  spec : Spec
  defaults : Members
  code : String
  preview : Preview
  /-- The components to install, by variant. -/
  components : Table String

/-- What the fingerprint of a text for a library is the digest of. -/
def Library.payload (library : Library) (text : String) : String := library.id ++ "\n" ++ text

def Library.fingerprint (library : Library) (text : String) : String :=
  Sha256.ofText (library.payload text)

def Form.fingerprint (config : Config) (library : Library) (form : Form) : Derived String := do
  .ok (library.fingerprint (← form.text config.indent))

namespace Artifacts

def build (studio : Studio) (library : Library) (form : Form) : Derived Artifacts := do
  let text ← form.text studio.config.indent
  let code ← form.source studio.variants library
  .ok {
    library := library
    fingerprint := library.fingerprint text
    text := text
    spec := form.spec studio.variants
    defaults := form.defaults studio.variants
    code := code
    preview := Preview.render studio.registry (.start studio.variants form) form
    components := form.components }

def schemaJson (artifacts : Artifacts) : Json := artifacts.spec.schemaJson Spec.standardTitle

def schemaText (config : Config) (artifacts : Artifacts) : String :=
  artifacts.schemaJson.print config.asciiStyle

def html (artifacts : Artifacts) : String := (artifacts.preview.html Preview.standardTitle).print

/-- The rows of the preview in JSON form. -/
def layoutJson (layout : List (List (String × Nat))) : Json :=
  .arr (layout.map fun row => .arr (row.map fun (name, span) => .arr [.str name, .int span]))

/-- Components to install in JSON form. -/
def componentsJson (components : Table String) : Json :=
  .arr (components.map fun (variant, component) =>
    .obj [("variant", .str variant), ("component", .str component)])

/-- The artifacts in JSON form, without the markup. -/
def toMembers (artifacts : Artifacts) : Members := [
  ("library", .str artifacts.library.id),
  ("fingerprint", .str artifacts.fingerprint),
  ("json", .str artifacts.text),
  ("schema", artifacts.schemaJson),
  ("defaults", .obj artifacts.defaults),
  ("code", .str artifacts.code),
  ("layout", layoutJson artifacts.preview.layout),
  ("unsupported", .arr (artifacts.preview.unsupported.map .str)),
  ("special_components", componentsJson artifacts.components)]

theorem fingerprint_of_build {studio : Studio} {library : Library} {form : Form}
    {artifacts : Artifacts} (h : build studio library form = .ok artifacts) :
    form.fingerprint studio.config library = .ok artifacts.fingerprint := by
  unfold build at h
  unfold Form.fingerprint
  cases ht : form.text studio.config.indent with
  | error e => rw [ht] at h; cases h
  | ok text =>
    cases hc : form.source studio.variants library with
    | error e => rw [ht, hc] at h; cases h
    | ok code => rw [ht, hc] at h; cases h; rfl

end Artifacts

/-! ## Texts to copy -/

/-- An artifact that is a text. -/
inductive ArtifactKind where
  | json
  | code
  | schema
  deriving DecidableEq, Repr

namespace ArtifactKind

def ofId? : String → Option ArtifactKind
  | "json" => some .json
  | "code" => some .code
  | "schema" => some .schema
  | _ => none

/-- What a person reads. -/
def label : ArtifactKind → String
  | .json => "JSON"
  | .code => "Code"
  | .schema => "Schema"

end ArtifactKind

def Artifacts.textOf (config : Config) (artifacts : Artifacts) : ArtifactKind → String
  | .json => artifacts.text
  | .code => artifacts.code
  | .schema => artifacts.schemaText config

end FormStudio
