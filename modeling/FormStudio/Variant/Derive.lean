import FormStudio.Form.Basic
import FormStudio.Rule.Validation
import FormStudio.Variant.Handler

/-!
# Rules and defaults of a form

The handler of a field's variant settles the rule for its answer and the value it starts with. A
field of an unknown variant accepts anything, and only has to be answered where that is required.

Main statement: `Form.spec_fieldNames`, a form has one rule for each field, in order.
-/
namespace FormStudio

namespace Handler

def kind : Handler → RuleKind
  | .toggle .. => .boolean
  | .number _ => .number
  | .list .. => .array
  | .date _ => .date
  | _ => .string

def pattern : Handler → Option String
  | .text _ _ pattern => pattern
  | .otp length => some (otpPattern length)
  | .bare pattern _ _ => pattern
  | _ => none

/-- The bounds on the length of answers. -/
def lengths : Handler → Option Int × Option Int
  | .otp length => (some length, some length)
  | .bare _ least most => (least, most)
  | _ => (none, none)

def rule (handler : Handler) (f : Field) : Rule :=
  let plain := Rule.plain f.name f.variant f.label handler.kind f.isRequired
  let rule := { plain with
    pattern := handler.pattern
    minLength := handler.lengths.1
    maxLength := handler.lengths.2 }
  match handler with
  | .toggle _ agreement => { rule with mustBeTrue := agreement && f.isRequired }
  | .number _ => { rule with minimum := f.min, maximum := f.max, step := f.step }
  | .list _ most _ => { rule with maxItems := most }
  | _ => rule

/-- The value that a field starts with: its own where that fits the variant, else an empty one. A
number starts at its lower bound. -/
def startValue (handler : Handler) (f : Field) : FieldValue :=
  match handler.kind, f.value with
  | .boolean, some (.flag b) => .flag b
  | .boolean, _ => .flag false
  | .number, some (.number n) => .number n
  | .number, _ => .number (f.min.getD .zero)
  | .array, some (.choices texts) => .choices texts
  | .array, _ => .choices []
  | _, some (.text s) => .text s
  | _, _ => .text ""

end Handler

namespace Field

def rule (variants : VariantTable) (f : Field) : Rule :=
  match variants.get? f.variant with
  | some handler => handler.rule f
  | none => .plain f.name f.variant f.label .any f.isRequired

def startValue (variants : VariantTable) (f : Field) : FieldValue :=
  match variants.get? f.variant with
  | some handler => handler.startValue f
  | none => f.value.getD (.text "")

end Field

namespace Form

def spec (variants : VariantTable) (form : Form) : Spec := ⟨form.fields.map (Field.rule variants)⟩

/-- The values that a form starts with, by name. -/
def defaults (variants : VariantTable) (form : Form) : Members :=
  Table.ofPairs (form.fields.map fun f => (f.name, (f.startValue variants).toJson))

theorem spec_fieldNames (variants : VariantTable) (form : Form) :
    (form.spec variants).fieldNames = form.names := by
  have h : ∀ f : Field, (f.rule variants).name = f.name := by
    intro f
    unfold Field.rule
    split
    · rename_i handler _
      cases handler <;> rfl
    · rfl
  simp [spec, Spec.fieldNames, names, h]

end Form

end FormStudio
