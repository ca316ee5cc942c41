import FormStudio.Table
import FormStudio.Number.Basic

/-!
# Variants

A variant is a kind of control. Its handler holds what tells it from the others: the component that
is generated for it, the style of the control, and bounds on the answer. Handlers are kept in a
table under the names of their variants; entering a handler under a known name replaces it in place.

Main statement: `Handler.builtin_keys`, the table holds each variant once.
-/
namespace FormStudio

/-- Something that generated code imports: a module and a name in it. -/
structure Import where
  source : String
  name : String
  deriving DecidableEq, Repr

/-- How one of several options is chosen. -/
inductive ChoiceStyle where
  | select
  | radio
  | combobox
  deriving DecidableEq, Repr

/-- How a number is entered. -/
inductive NumberStyle where
  | slider
  | rating
  deriving DecidableEq, Repr

/-- How a list of texts is entered. -/
inductive ListStyle where
  | multiSelect
  | tags
  | file
  | location
  deriving DecidableEq, Repr

/-- How a date is entered. -/
inductive DateStyle where
  | date
  | datetime
  | smart
  deriving DecidableEq, Repr

/-- What a variant is. -/
inductive Handler where
  /-- One line of text. -/
  | text (inputType : String) (component : Import) (pattern : Option String)
  /-- Several lines of text. -/
  | textarea
  /-- A code with a fixed count of digits. -/
  | otp (length : Nat)
  /-- A drawn signature, in a component that may need a reference to its canvas. -/
  | signature (component : Import) (canvasRef : Bool)
  /-- One of several options; those to fall back on come with it. -/
  | choice (style : ChoiceStyle) (fallback : List String)
  /-- A flag; one that asks for agreement has to be set where it is required. -/
  | toggle (component : Import) (agreement : Bool)
  /-- A number within the bounds of the field. -/
  | number (style : NumberStyle)
  /-- A list of texts. -/
  | list (style : ListStyle) (maxItems : Option Int) (fallback : List String)
  /-- A date, or a date and a time. -/
  | date (style : DateStyle)
  /-- A text with bounds for which no code is generated. -/
  | bare (pattern : Option String) (minLength maxLength : Option Int)
  deriving DecidableEq, Repr

abbrev VariantTable := Table Handler

namespace Handler

def phonePattern : String := "^\\+?[1-9]\\d\x7b6,14\x7d$"

def creditCardPattern : String := "^\\d\x7b13,19\x7d$"

/-- The digits of a one-time code. -/
def otpLength : Nat := 6

/-- A text that is a given count of digits. -/
def otpPattern (length : Nat) : String :=
  "^\\d\x7b" ++ toString length ++ "\x7d$"

/-- The options of a language choice. -/
def languages : List String :=
  ["English", "French", "German", "Spanish", "Portuguese", "Russian", "Japanese", "Korean",
    "Chinese"]

/-- The options of an address choice. -/
def emails : List String := ["m@example.com", "m@google.com", "m@support.com"]

/-- The options of a gender choice. -/
def genders : List String := ["Male", "Female", "Other"]

/-- The options of a framework choice. -/
def frameworks : List String := ["React", "Vue", "Svelte", "Angular"]

def inputComponent : Import := ⟨"@/components/ui/input", "Input"⟩

def builtin : VariantTable := [
  ("Checkbox", .toggle ⟨"@/components/ui/checkbox", "Checkbox"⟩ true),
  ("Combobox", .choice .combobox languages),
  ("Date Picker", .date .date),
  ("Datetime Picker", .date .datetime),
  ("File Input", .list .file none []),
  ("Input", .text "text" inputComponent none),
  ("Input OTP", .otp otpLength),
  ("Location Input", .list .location (some 2) []),
  ("Multi Select", .list .multiSelect none frameworks),
  ("Password", .text "password" inputComponent none),
  ("Phone", .text "tel" ⟨"@/components/ui/phone-input", "PhoneInput"⟩ (some phonePattern)),
  ("Select", .choice .select emails),
  ("Signature Input", .signature ⟨"@/components/ui/signature-input", "SignatureInput"⟩ true),
  ("Signature Pad", .signature ⟨"@/components/ui/signature-pad", "SignaturePad"⟩ false),
  ("Slider", .number .slider),
  ("Smart Datetime Input", .date .smart),
  ("Switch", .toggle ⟨"@/components/ui/switch", "Switch"⟩ false),
  ("Tags Input", .list .tags none []),
  ("Textarea", .textarea),
  ("Rating", .number .rating),
  ("RadioGroup", .choice .radio genders),
  ("Credit Card", .text "text" ⟨"@/components/ui/credit-card-input", "CreditCardInput"⟩
    (some creditCardPattern))]

theorem builtin_keys : builtin.keys.Nodup := by decide

end Handler

end FormStudio
