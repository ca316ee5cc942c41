import FormStudio.Form.Basic

/-!
# Palette

The kinds of fields that a form can be built from, in the order they are offered, with the texts a
new field starts with; and the kinds that need a component of their own to be installed.

Main statement: `PaletteEntry.find?_variant`, every entry is found under its kind.
-/
namespace FormStudio

/-- A kind of field and the texts a new field of it starts with. -/
structure PaletteEntry where
  variant : String
  label : String
  description : String
  placeholder : String
  deriving DecidableEq, Repr

/-- The kinds of fields, in the order they are offered. -/
def palette : List PaletteEntry := [
  ⟨"Checkbox", "Use different settings for my mobile devices",
    "You can manage your mobile notifications in the mobile settings page.", ""⟩,
  ⟨"Combobox", "Language",
    "This is the language that will be used in the dashboard.", ""⟩,
  ⟨"Date Picker", "Date of birth",
    "Your date of birth is used to calculate your age.", ""⟩,
  ⟨"Datetime Picker", "Submission Date",
    "Add the date of submission with detailly.", ""⟩,
  ⟨"File Input", "Select File",
    "Select a file to upload.", ""⟩,
  ⟨"Input", "Username",
    "This is your public display name.", "shadcn"⟩,
  ⟨"Input OTP", "One-Time Password",
    "Please enter the one-time password sent to your phone.", ""⟩,
  ⟨"Location Input", "Select Country",
    "If your country has states, it will be appear after selecting country", ""⟩,
  ⟨"Multi Select", "Select your framework",
    "Select multiple options.", ""⟩,
  ⟨"Password", "Password",
    "Enter your password.", ""⟩,
  ⟨"Phone", "Phone number",
    "Enter your phone number.", ""⟩,
  ⟨"Select", "Email",
    "You can manage email addresses in your email settings.",
    "Select a verified email to display"⟩,
  ⟨"Signature Input", "Sign here",
    "Please provide your signature above", ""⟩,
  ⟨"Signature Pad", "Your Signature",
    "Click the pen button to sign", ""⟩,
  ⟨"Slider", "Set Price Range",
    "Adjust the price by sliding.", ""⟩,
  ⟨"Smart Datetime Input", "What's the best time for you?",
    "Please select the full time", ""⟩,
  ⟨"Switch", "Marketing emails",
    "Receive emails about new products, features, and more.", ""⟩,
  ⟨"Tags Input", "Enter your tech stack.",
    "Add tags.", ""⟩,
  ⟨"Textarea", "Bio",
    "You can @mention other users and organizations.", ""⟩,
  ⟨"Rating", "Rating",
    "Please provide your rating.", ""⟩,
  ⟨"RadioGroup", "Gender",
    "Select your gender", ""⟩,
  ⟨"Credit Card", "Credit Card Information",
    "Enter your credit card details for payment.", ""⟩]

/-- The kinds whose control is not part of the stock set, with the component to add. -/
def specialComponents : Table String := [
  ("Combobox", "Command + Popover"),
  ("Credit Card", "CreditCardInput"),
  ("Datetime Picker", "DatetimePicker"),
  ("File Input", "FileUploader"),
  ("Location Input", "LocationSelector"),
  ("Multi Select", "MultiSelector"),
  ("Phone", "PhoneInput"),
  ("Rating", "Rating"),
  ("Signature Input", "SignatureInput"),
  ("Signature Pad", "SignaturePad"),
  ("Smart Datetime Input", "SmartDatetimeInput"),
  ("Tags Input", "TagsInput")]

namespace PaletteEntry

def find? (variant : String) : Option PaletteEntry :=
  palette.find? fun entry => entry.variant == variant

/-- The entry of a kind, with empty texts for an unknown one. -/
def find (variant : String) : PaletteEntry := (find? variant).getD ⟨variant, "", "", ""⟩

/-- The starting texts in JSON form. -/
def textMembers (entry : PaletteEntry) : Members :=
  [("label", .str entry.label), ("description", .str entry.description),
    ("placeholder", .str entry.placeholder)]

/-- The component that a kind needs, if it needs one. -/
def component (entry : PaletteEntry) : Option String := Table.get? entry.variant specialComponents

theorem find?_variant : ∀ entry ∈ palette, find? entry.variant = some entry := by decide

end PaletteEntry

/-- The components that a form needs: kinds in table order, each with its component. -/
def Form.components (form : Form) : Table String :=
  specialComponents.filter fun (variant, _) => form.fields.any fun f => f.variant == variant

end FormStudio
