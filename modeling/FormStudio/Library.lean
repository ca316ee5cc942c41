import FormStudio.Config
import FormStudio.Json.Display

/-!
# Form libraries

The libraries that forms can be generated for.

Main statement: `Library.ofId?_id`, a library is found under its identifier.
-/
namespace FormStudio

/-- A library that handles the state of a form. -/
inductive Library where
  | reactHookForm
  | tanstackForm
  | bringYourOwn
  deriving DecidableEq, Repr, Inhabited

/-- A name that is no library, as it is shown. -/
structure UnknownLibrary where
  shown : String
  deriving DecidableEq, Repr

namespace Library

/-- All libraries, in the order they are offered. -/
def all : List Library := [.reactHookForm, .tanstackForm, .bringYourOwn]

def id : Library → String
  | .reactHookForm => "react-hook-form"
  | .tanstackForm => "tanstack-form"
  | .bringYourOwn => "bring-your-own"

def label : Library → String
  | .reactHookForm => "React Hook Form"
  | .tanstackForm => "TanStack Form"
  | .bringYourOwn => "Bring Your Own Form"

/-- The identifiers in one text. -/
def idList : String := ", ".intercalate (all.map id)

def ofId? (name : String) : Option Library := all.find? fun library => library.id == name

/-- The library that a value names. -/
def ofJson (name : Json) : Except UnknownLibrary Library :=
  match name.text?.bind ofId? with
  | some library => .ok library
  | none => .error ⟨name.display⟩

/-- The library that a choice settles on: the chosen one if there is such a library, else the
configured one, else the first. -/
def resolve (config : Config) (choice : Option String) : Library :=
  match choice.bind ofId? with
  | some library => library
  | none => (ofId? config.defaultLibrary).getD .reactHookForm

theorem ofId?_id (library : Library) : ofId? library.id = some library := by
  cases library <;> decide

theorem resolve_id (config : Config) (library : Library) :
    resolve config (some library.id) = library := by
  simp [resolve, ofId?_id]

end Library

/-- The sentence for a name that is no library. -/
def UnknownLibrary.message (unknown : UnknownLibrary) : String :=
  s!"Unknown form library '{unknown.shown}'. Expected one of: " ++ Library.idList

end FormStudio
