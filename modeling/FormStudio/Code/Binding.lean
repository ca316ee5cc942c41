import FormStudio.Field.Basic

/-!
# Bindings of generated controls

A generated control reads the value of its field and reports changes of it. Its binding says how, as
pieces of a script: an expression for the value, one for a function that takes a new value, and a
call with a place for the new value.

Main statement: `CallTemplate.apply_append`, a template is filled in part by part.
-/
namespace FormStudio

/-- A part of a call: a piece of script, or the place of the argument. -/
inductive CallPart where
  | script (text : String)
  | argument
  deriving DecidableEq, Repr

/-- A call with a place for its argument. -/
abbrev CallTemplate := List CallPart

namespace CallPart

def apply (argument : String) : CallPart → String
  | .script text => text
  | .argument => argument

end CallPart

namespace CallTemplate

def apply (template : CallTemplate) (argument : String) : String :=
  String.join (template.map (CallPart.apply argument))

/-- The argument between a beginning and a closing parenthesis. -/
def closedBy (beginning : String) : CallTemplate := [.script beginning, .argument, .script ")"]

theorem apply_append (first second : CallTemplate) (argument : String) :
    apply (first ++ second) argument = first.apply argument ++ apply second argument := by
  simp [apply, String.join_append]

end CallTemplate

/-- How a control reads and changes the value of its field. -/
structure Binding where
  /-- The value. -/
  value : String
  /-- A function that takes a new value. -/
  callback : String
  /-- A call with a new value. -/
  change : CallTemplate
  /-- A function for the moment the control is left. -/
  blur : Option String
  /-- The identifier of the control. -/
  elementId : Option String
  deriving DecidableEq, Repr

/-- A call with a new value. -/
def Binding.call (binding : Binding) (argument : String) : String := binding.change.apply argument

end FormStudio
