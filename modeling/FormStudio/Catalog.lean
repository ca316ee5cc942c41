import FormStudio.Library
import FormStudio.Palette

/-!
# Catalog

What a form can be built from, in JSON form: the kinds of fields with their texts and the components
they need, and the libraries.
-/
namespace FormStudio

namespace PaletteEntry

/-- The component that a kind needs, in JSON form. -/
def componentMember (entry : PaletteEntry) : String × Json :=
  ("special_component", Json.ofOption .str entry.component)

/-- An entry as it is offered, without a placeholder. -/
def summary (entry : PaletteEntry) : Json := .obj [
  ("variant", .str entry.variant),
  ("label", .str entry.label),
  ("description", .str entry.description),
  entry.componentMember]

def details (entry : PaletteEntry) : Json :=
  .obj (entry.textMembers ++ [("variant", .str entry.variant), entry.componentMember])

end PaletteEntry

namespace Library

def summary (library : Library) : Json :=
  .obj [("id", .str library.id), ("label", .str library.label)]

/-- All libraries as they are offered. -/
def summaries : Json := .arr (all.map summary)

end Library

namespace Catalog

/-- The kinds of fields, without placeholders. -/
def fieldTypes : Json := .arr (palette.map PaletteEntry.summary)

def offered : Json := .obj [("field_types", fieldTypes), ("libraries", Library.summaries)]

/-- The kinds of fields with all texts, and the libraries. -/
def detailed : Json := .obj [
  ("field_types", .arr (palette.map PaletteEntry.details)),
  ("libraries", Library.summaries)]

end Catalog

end FormStudio
