import FormStudio.Derivation
import FormStudio.Form.Basic
import FormStudio.Json.Printer

/-!
# Exporting forms

The text of a form: an array of fields and groups, every field with its attributes and extras. Text
is kept as it is. All numbers in it have to be finite.

Main statement: `Form.text_of_isFinite`, a form of finite numbers has a text.
-/
namespace FormStudio

namespace Json

def nonFiniteNumber? : Number → Option Number
  | .int _ => none
  | .float x => if x.isFinite then none else some (.float x)

mutual

/-- The first number in a value that is not finite. -/
def nonFinite? : Json → Option Number
  | .num n => nonFiniteNumber? n
  | .arr items => nonFiniteItem? items
  | .obj members => nonFiniteMember? members
  | _ => none

def nonFiniteItem? : List Json → Option Number
  | [] => none
  | item :: items => item.nonFinite?.or (nonFiniteItem? items)

def nonFiniteMember? : List (String × Json) → Option Number
  | [] => none
  | (_, value) :: members => value.nonFinite?.or (nonFiniteMember? members)

end

def isFinite (value : Json) : Bool := value.nonFinite?.isNone

end Json

namespace Form

/-- The text of a form with an optional indent. A text in lines names the number that it cannot
hold. -/
def text (indent : Option Int) (form : Form) : Derived String :=
  match form.toJson.nonFinite? with
  | none => .ok (Json.print (.ofIndent indent false) form.toJson)
  | some n => .error (.notFinite (indent.map fun _ => String.ofList n.text))

theorem text_of_isFinite {form : Form} (h : form.toJson.isFinite = true) (indent : Option Int) :
    form.text indent = .ok (Json.print (.ofIndent indent false) form.toJson) := by
  have hn : form.toJson.nonFinite? = none := by simpa [Json.isFinite] using h
  simp [Form.text, hn]

end Form

end FormStudio
