import FormStudio.Form.Edit

/-!
# Walks down a path

A field is put in its place, or taken out of it, by a walk down the path to it: to an item of the
form first, and from a group on to a member. The walk is made apart from the look-up of the field
and tells by itself where a path leads nowhere.

Main statement: `Form.dropAt_append`, taking out the item behind others leaves the others.
-/
namespace FormStudio

/-- Why a walk ends without a field. -/
inductive WalkError where
  | outOfRange (index : Int)
  /-- The path goes on where a field is. -/
  | isField (index : Int)
  /-- The path ends where a group is. -/
  | isGroup (index : Int)
  deriving DecidableEq, Repr

def WalkError.message : WalkError → String
  | .outOfRange index => s!"Index {index} out of range"
  | .isField index => s!"Index {index} is a field, not a group"
  | .isGroup index => s!"Index {index} is a group, not a field"

namespace Form

/-- Puts a field in the place of a member of a group. -/
def putMember (members : List Field) (f : Field) (index : Int) (rest : FieldPath) :
    Except WalkError (List Field) :=
  match at? members index, rest with
  | none, _ => .error (.outOfRange index)
  | some _, _ :: _ => .error (.isField index)
  | some _, [] => .ok (members.set index.toNat f)

/-- Puts a field in the place that a path leads to, by its first index and the others. -/
def putAt (form : Form) (f : Field) (index : Int) (rest : FieldPath) : Except WalkError Form :=
  match at? form index, rest with
  | none, _ => .error (.outOfRange index)
  | some (.field _), [] => .ok (form.set index.toNat (.field f))
  | some (.field _), _ :: _ => .error (.isField index)
  | some (.group _), [] => .error (.isGroup index)
  | some (.group members), next :: more =>
    (putMember members f next more).map fun members => form.set index.toNat (.group members)

/-- Takes out the field that a path leads to. A group that is left empty goes too. -/
def dropAt (form : Form) : FieldPath → Form
  | [] => form
  | [index] => form.eraseIdx index.toNat
  | index :: next :: _ =>
    match form[index.toNat]? with
    | some (.group members) =>
      let left := members.eraseIdx next.toNat
      if left.isEmpty then form.eraseIdx index.toNat else form.set index.toNat (.group left)
    | _ => form

theorem dropAt_append (before after : Form) (item : Item) :
    dropAt (before ++ item :: after) [(before.length : Int)] = before ++ after := by
  rw [dropAt, Int.toNat_natCast, List.eraseIdx_append_of_length_le (Nat.le_refl _), Nat.sub_self]
  rfl

theorem dropAt_append_group (before after : Form) (members : List Field) (place : Nat) :
    dropAt (before ++ .group members :: after) [(before.length : Int), (place : Int)] =
      before ++ if (members.eraseIdx place).isEmpty then after
        else .group (members.eraseIdx place) :: after := by
  rw [dropAt, Int.toNat_natCast, Int.toNat_natCast, List.getElem?_append_right (Nat.le_refl _),
    Nat.sub_self, List.getElem?_cons_zero]
  dsimp only
  split
  · rw [List.eraseIdx_append_of_length_le (Nat.le_refl _), Nat.sub_self]
    rfl
  · rw [List.set_append_right _ _ (Nat.le_refl _), Nat.sub_self]
    rfl

end Form

end FormStudio
