import FormStudio.Field.Basic
import FormStudio.Field.Issue

/-!
# Forms

A form is a list of items in order. An item is a field on a row of its own, or a group of fields
that share a row. The fields of a form are those of its items, groups expanded.

Main statements: `Form.fields_append` and `Form.fields_cons_group`, the fields follow the order of
the items.
-/
namespace FormStudio

/-- A field on a row of its own, or a group of fields on one row. -/
inductive Item where
  | field (f : Field)
  | group (members : List Field)
  deriving DecidableEq, Repr

abbrev Form := List Item

/-- The place of a field: an item, or a member of a group. -/
inductive Position where
  | item (index : Nat)
  | member (index place : Nat)
  deriving DecidableEq, Repr

def Position.path : Position → List PathStep
  | .item i => [.index i]
  | .member i j => [.index i, .index j]

namespace Item

def fields : Item → List Field
  | .field f => [f]
  | .group members => members

def toJson : Item → Json
  | .field f => f.toJson
  | .group members => .arr (members.map Field.toJson)

/-- The names of an item: one name, or the array of a group's names. -/
def namesJson : Item → Json
  | .field f => .str f.name
  | .group members => .arr (members.map fun f => .str f.name)

end Item

/-- The columns of a full row. -/
def gridColumns : Nat := 12

/-- The columns for each member of a group: two or three members share the row, and otherwise each
takes all of it. -/
def columnSpan (members : Int) : Nat :=
  if members = 2 then gridColumns / 2
  else if members = 3 then gridColumns / 3
  else gridColumns

namespace Form

def fields (form : Form) : List Field := form.flatMap Item.fields

def names (form : Form) : List String := form.fields.map Field.name

def toJson (form : Form) : Json := .arr (form.map Item.toJson)

/-- The names of a form, groups as arrays. -/
def namesJson (form : Form) : Json := .arr (form.map Item.namesJson)

@[simp] theorem fields_nil : fields [] = [] := rfl

@[simp] theorem fields_cons_field (f : Field) (form : Form) :
    fields (.field f :: form) = f :: fields form := rfl

@[simp] theorem fields_cons_group (members : List Field) (form : Form) :
    fields (.group members :: form) = members ++ fields form := rfl

@[simp] theorem fields_append (first second : Form) :
    fields (first ++ second) = fields first ++ fields second := by
  simp [fields]

end Form

end FormStudio
