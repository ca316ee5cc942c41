import FormStudio.Field.Reader
import FormStudio.Form.Naming
import FormStudio.Json.Display
import FormStudio.Palette

/-!
# Editing forms

New fields, and changes to the fields of a form. A path addresses a field: an index, or the index of
a group and the place in it. An update lays members over those of a field and reads the result as a
field again; a field keeps the place it has. A field that is removed takes a group with it that held
nothing else.

Main statements: `Form.at?_nonneg`, an index that is not negative addresses what stands there, and
`Form.add_fields`, a field that is added comes last.
-/
namespace FormStudio

/-- A path into a form. -/
abbrev FieldPath := List Int

def FieldPath.shown (path : FieldPath) : String := Json.display (.arr (path.map Json.int))

/-- Why an edit is refused. -/
inductive EditError where
  | noFieldAt (path : FieldPath)
  | groupAt (path : FieldPath)
  | emptyPath
  | noFieldNamed (name : String)
  /-- The updated field would have issues. -/
  | invalid (name : String) (issues : List Issue)
  | nameTaken (name : String)
  deriving DecidableEq, Repr

namespace EditError

def message : EditError → String
  | .noFieldAt path => "No field at path " ++ path.shown
  | .groupAt path => "Path " ++ path.shown ++ " addresses a group, not a field"
  | .emptyPath => "Empty path"
  | .noFieldNamed name => s!"No field named '{name}'"
  | .invalid name issues => s!"Invalid update for field '{name}': " ++ issueCount issues
  | .nameTaken name => s!"Field name '{name}' is already in use"

/-- Whether the field was not found, rather than refused. -/
def isNotFound : EditError → Bool
  | .invalid .. => false
  | .nameTaken _ => false
  | _ => true

end EditError

/-! ## New fields -/

/-- Why a field is not created. -/
inductive CreateError where
  | issues (issues : List Issue)
  | noFreshName
  deriving DecidableEq, Repr

def newFieldMembers (variant : String) (index : Json) (name : String) : Members :=
  let entry := PaletteEntry.find variant
  [("variant", .str variant), ("name", .str name),
    ("label", .str (if entry.label = "" then name else entry.label)),
    ("description", .str entry.description),
    ("placeholder", .str (if entry.placeholder = "" then "Placeholder" else entry.placeholder)),
    ("checked", .bool true), ("disabled", .bool false), ("required", .bool true),
    ("value", .str ""), ("row_index", index)]

namespace Field

/-- A new field of a kind, with the texts of the palette and a name that is not taken. The digits of
the name are used up also when the field is refused. -/
def create (variant : String) (index : Json) (taken : List String) (source : DigitSource) :
    Except CreateError Field × DigitSource :=
  match source.freshName taken with
  | (none, source) => (.error .noFreshName, source)
  | (some name, source) =>
    match readMembers .either (newFieldMembers variant index name) with
    | .good f => (.ok f, source)
    | .bad issues => (.error (.issues issues), source)

/-! ## Updates -/

/-- The members of an update under written keys, without callbacks. Of two spellings the later one
counts. -/
def updateMembers (updates : Members) : Members :=
  Table.ofPairs ((updates.filter fun (key, _) => !callbackKeys.contains key).map
    fun (key, value) => (writtenKey key, value))

/-- Lays members over those of a field and reads the result. -/
def overlay (f : Field) (members : Members) : Except EditError Field :=
  match readMembers .written (Table.overlay f.toMembers members) with
  | .good g => .ok g
  | .bad issues => .error (.invalid f.name issues)

end Field

/-- What a field is updated with: members, or the members of another field. -/
inductive Update where
  | members (updates : Members)
  | field (source : Field)
  deriving DecidableEq, Repr

/-- Merges an update into a field. -/
def Field.merge (f : Field) : Update → Except EditError Field
  | .members updates => f.overlay (Field.updateMembers updates)
  | .field source => f.overlay source.toMembers

namespace Form

/-- The entry of a list at an index that may be negative. -/
def at? {α : Type} (items : List α) (index : Int) : Option α :=
  if index < 0 then none else items[index.toNat]?

/-! ## Looking up -/

def get (form : Form) : FieldPath → Except EditError Field
  | [] => .error (.groupAt [])
  | [i] =>
    match at? form i with
    | none => .error (.noFieldAt [i])
    | some (.group _) => .error (.groupAt [i])
    | some (.field f) => .ok f
  | [i, j] =>
    match at? form i with
    | some (.group members) =>
      match at? members j with
      | some f => .ok f
      | none => .error (.noFieldAt [i, j])
    | _ => .error (.noFieldAt [i, j])
  | path => .error (.noFieldAt path)

/-- The place of the first member with a name, counted from a place. -/
def findMember (name : String) : Nat → List Field → Option Nat
  | _, [] => none
  | place, f :: rest => if f.name = name then some place else findMember name (place + 1) rest

/-- The path to the first field with a name, items counted from an index. -/
def findFrom (name : String) : Nat → Form → Option FieldPath
  | _, [] => none
  | index, .field f :: rest =>
    if f.name = name then some [(index : Int)] else findFrom name (index + 1) rest
  | index, .group members :: rest =>
    match findMember name 0 members with
    | some place => some [(index : Int), (place : Int)]
    | none => findFrom name (index + 1) rest

def find? (form : Form) (name : String) : Option FieldPath := findFrom name 0 form

/-! ## Changing -/

/-- Puts a field in the place that a path addresses. -/
def replace (form : Form) (f : Field) : FieldPath → Form
  | [i] => form.set i.toNat (.field f)
  | [i, j] =>
    match form[i.toNat]? with
    | some (.group members) => form.set i.toNat (.group (members.set j.toNat f))
    | _ => form
  | _ => form

/-- Merges an update into the field at a path. A new name must not be that of another field. -/
def update (form : Form) (path : FieldPath) (updates : Update) : Except EditError Form :=
  if path = [] then .error .emptyPath
  else do
    let current ← form.get path
    let updated ← current.merge updates
    if updated.name ≠ current.name ∧ updated.name ∈ form.names then
      .error (.nameTaken updated.name)
    else .ok (form.replace updated path)

/-- The items without the first field that has a name; none where no field has it. -/
def removeFirst (name : String) : Form → Option Form
  | [] => none
  | .field f :: rest =>
    if f.name = name then some rest else (removeFirst name rest).map (.field f :: ·)
  | .group members :: rest =>
    if members.any (·.name == name) then
      -- a group goes with its last member
      let left := members.eraseP (·.name == name)
      some (if left.isEmpty then rest else .group left :: rest)
    else (removeFirst name rest).map (.group members :: ·)

/-- Removes the field with a name. -/
def remove (form : Form) (name : String) : Except EditError Form :=
  match removeFirst name form with
  | some rest => .ok rest
  | none => .error (.noFieldNamed name)

/-- Adds a new field at the end; also gives the field. -/
def add (form : Form) (variant : String) (index : Json) (source : DigitSource) :
    Except CreateError (Form × Field) × DigitSource :=
  match Field.create variant index form.names source with
  | (.ok f, source) => (.ok (form ++ [.field f], f), source)
  -- digits are drawn even where no field comes of them
  | (.error e, source) => (.error e, source)

theorem at?_nonneg {α : Type} (items : List α) (n : Nat) : at? items (n : Int) = items[n]? := by
  simp [at?, Int.not_lt.2 (Int.natCast_nonneg n)]

theorem add_fields {form new : Form} {variant : String} {index : Json}
    {source rest : DigitSource} {f : Field}
    (h : form.add variant index source = (.ok (new, f), rest)) :
    new.fields = form.fields ++ [f] := by
  unfold add at h
  split at h
  · cases h
    simp
  · simp at h

end Form

end FormStudio
