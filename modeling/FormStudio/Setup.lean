import FormStudio.Config
import FormStudio.Variant.Handler

/-!
# Setup

What everything derived from a form depends on besides the form: the settings and the table of
variants.

Main statement: `Setup.register_get?`, a variant that is registered has the handler it was
registered with.
-/
namespace FormStudio

/-- The settings and the variants. -/
structure Setup where
  config : Config
  variants : VariantTable
  deriving DecidableEq, Repr

namespace Setup

/-- The standard settings and the built-in variants. -/
def standard : Setup := ⟨.standard, Handler.builtin⟩

/-- Registers a handler for a variant, in the place of the one it had. -/
def register (setup : Setup) (variant : String) (handler : Handler) : Setup :=
  { setup with variants := Table.put variant handler setup.variants }

theorem register_get? (setup : Setup) (variant : String) (handler : Handler) :
    Table.get? variant (setup.register variant handler).variants = some handler := by
  simp [register]

end Setup

end FormStudio
