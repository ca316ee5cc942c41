import FormStudio.Proofs.Field.Attribute
import FormStudio.Proofs.Form.Import

/-!
# The grammar of forms

The data of a form is an array of field objects and arrays of field objects in which no name is
given twice (`Json.IsForm`). Its parts in document order, with their places, are `Json.parts`.

Importing is a walk over the parts that carries the names met so far. What it comes to
(`Traversed`) is either that all parts are acceptable, or the fault of the first part that is not;
two stretches of parts in sequence come to what they come to together (`Traversed.bind`). The main
statement is `Form.ofJson_accepts_grammar`: data is imported exactly when it is in the grammar, and
other data is refused with the fault of its first unacceptable part.
-/
namespace FormStudio

/-! ## The grammar -/

namespace Json

/-- An object that every attribute accepts. -/
def isFieldObject : Json → Bool
  | .obj members => Field.attributes.all fun a => !a.refuses members
  | _ => false

/-- A field object, or an array of field objects. -/
def isFormItem : Json → Bool
  | .arr members => members.all isFieldObject
  | value => value.isFieldObject

/-- The name that a field object gives. -/
def givenName? (value : Json) : Option String := (value.member? "name").bind text?

/-- The parts of an item: its members with their places, or the item itself. -/
def itemParts (index : Nat) : Json → List (Position × Json)
  | .arr members => members.zipIdx.map fun (raw, place) => (.member index place, raw)
  | value => [(.item index, value)]

/-- The parts of an array of items in document order. -/
def parts (items : List Json) : List (Position × Json) :=
  items.zipIdx.flatMap fun (item, index) => itemParts index item

end Json

/-- The names that parts give, in order. -/
def givenNames (parts : List (Position × Json)) : List String :=
  parts.filterMap fun part => part.2.givenName?

/-- An array of field objects and arrays of field objects, with no name given twice. -/
def Json.IsForm : Json → Prop
  | .arr items => (∀ item ∈ items, item.isFormItem = true) ∧ (givenNames (parts items)).Nodup
  | _ => False

/-- Parts that can follow fields of the given names: field objects, with no name given twice. -/
def Acceptable (names : List String) (parts : List (Position × Json)) : Prop :=
  (∀ part ∈ parts, part.2.isFieldObject = true) ∧ (names ++ givenNames parts).Nodup

namespace ImportError

/-- What an error says of a part at a place, behind fields of the given names: that it is no field
object, which attribute is the first to refuse what it gives, or that its name is taken. -/
def IsFaultAt (e : ImportError) (names : List String) (position : Position) : Json → Prop
  | .obj members =>
    match Field.refused? members with
    | some a => e.kind = "shape" ∧ e.path = position.path ++ [.key a.key]
    | none => e.kind = "duplicate" ∧ e.path = position.path ++ [.key "name"] ∧
        ∃ name ∈ names, (Json.obj members).givenName? = some name
  | _ => e.kind = "shape" ∧ e.path = position.path

/-- What an error says of refused data: that it is no array, or the fault of the first part that is
not acceptable behind the parts before it. -/
def IsFirstFault (e : ImportError) : Json → Prop
  | .arr items => ∃ before position raw after,
      Json.parts items = before ++ (position, raw) :: after ∧ Acceptable [] before ∧
        e.IsFaultAt (givenNames before) position raw
  | _ => e.kind = "shape" ∧ e.path = []

end ImportError

/-! ## Names and parts -/

theorem givenNames_append (before after : List (Position × Json)) :
    givenNames (before ++ after) = givenNames before ++ givenNames after :=
  List.filterMap_append

theorem givenNames_singleton (position : Position) (raw : Json) :
    givenNames [(position, raw)] = raw.givenName?.toList := by
  rw [givenNames, List.filterMap_cons]
  cases raw.givenName? <;> rfl

namespace Acceptable

variable {names : List String} {before after : List (Position × Json)}

theorem append (hbefore : Acceptable names before)
    (hafter : Acceptable (names ++ givenNames before) after) :
    Acceptable names (before ++ after) := by
  refine ⟨List.forall_mem_append.2 ⟨hbefore.1, hafter.1⟩, ?_⟩
  rw [givenNames_append, ← List.append_assoc]
  exact hafter.2

theorem of_append (h : Acceptable names (before ++ after)) :
    Acceptable (names ++ givenNames before) after := by
  refine ⟨(List.forall_mem_append.1 h.1).2, ?_⟩
  have hnames := h.2
  rw [givenNames_append, ← List.append_assoc] at hnames
  exact hnames

theorem nil (h : names.Nodup) : Acceptable names [] :=
  ⟨nofun, by simpa [givenNames] using h⟩

end Acceptable

theorem Json.isFieldObject_obj_iff {members : Members} :
    (Json.obj members).isFieldObject = true ↔ Field.refused? members = none := by
  simp [isFieldObject, Field.refused?]

section Fault

variable {e : ImportError} {names : List String} {position : Position} {members : Members}

theorem ImportError.isFaultAt_of_refused {a : Field.Attribute}
    (h : Field.refused? members = some a) :
    e.IsFaultAt names position (.obj members) ↔
      e.kind = "shape" ∧ e.path = position.path ++ [.key a.key] := by
  rw [IsFaultAt.eq_1, h]

theorem ImportError.isFaultAt_of_accepted (h : Field.refused? members = none) :
    e.IsFaultAt names position (.obj members) ↔
      e.kind = "duplicate" ∧ e.path = position.path ++ [.key "name"] ∧
        ∃ name ∈ names, (Json.obj members).givenName? = some name := by
  rw [IsFaultAt.eq_1, h]

/-- A part with a fault is not acceptable. -/
theorem ImportError.IsFaultAt.not_acceptable {raw : Json} (h : e.IsFaultAt names position raw)
    (after : List (Position × Json)) : ¬ Acceptable names ((position, raw) :: after) := by
  rintro ⟨hobjects, hnames⟩
  have hobject : raw.isFieldObject = true := hobjects _ List.mem_cons_self
  cases raw with
  | obj members =>
    have haccepted := Json.isFieldObject_obj_iff.1 hobject
    obtain ⟨-, -, name, hname, hgiven⟩ := (isFaultAt_of_accepted haccepted).1 h
    refine (List.nodup_append.1 hnames).2.2 name hname name ?_ rfl
    exact List.mem_filterMap.2 ⟨_, List.mem_cons_self, hgiven⟩
  | _ => cases hobject

end Fault

theorem forall_mem_zipIdx_iff {α : Type} {P : α → Prop} {l : List α} :
    (∀ entry ∈ l.zipIdx, P entry.1) ↔ ∀ a ∈ l, P a := by
  have hmap := List.forall_mem_map (l := l.zipIdx) (f := Prod.fst) (P := P)
  rw [List.zipIdx_map_fst] at hmap
  exact hmap.symm

theorem Json.isFormItem_iff {index : Nat} {item : Json} :
    item.isFormItem = true ↔ ∀ part ∈ itemParts index item, part.2.isFieldObject = true := by
  cases item with
  | arr members =>
    rw [isFormItem, List.all_eq_true, itemParts, List.forall_mem_map]
    exact forall_mem_zipIdx_iff.symm
  | _ => simp [itemParts, isFormItem]

theorem Json.isForm_arr_iff {items : List Json} :
    (Json.arr items).IsForm ↔ Acceptable [] (parts items) := by
  have hitems : (∀ item ∈ items, item.isFormItem = true) ↔
      ∀ part ∈ parts items, part.2.isFieldObject = true := by
    rw [parts, List.forall_mem_flatMap, ← forall_mem_zipIdx_iff]
    exact forall₂_congr fun entry _ => isFormItem_iff
  exact and_congr_left fun _ => hitems

/-! ## The walk -/

/-- What importing parts behind fields of the given names comes to: all parts are acceptable and
their names are added, or the error is the fault of the first part that is not acceptable. -/
def Traversed {β : Type} (namesOf : β → List String) (names : List String)
    (parts : List (Position × Json)) : Except ImportError β → Prop
  | .ok b => Acceptable names parts ∧ namesOf b = names ++ givenNames parts
  | .error e => ∃ before position raw after, parts = before ++ (position, raw) :: after ∧
      Acceptable names before ∧ e.IsFaultAt (names ++ givenNames before) position raw

namespace Traversed

variable {β γ : Type} {namesOf : β → List String} {namesOf' : γ → List String}
  {names : List String} {before after : List (Position × Json)}

theorem map {first : Except ImportError β} {f : β → γ}
    (hfirst : Traversed namesOf names before first)
    (hf : ∀ b, first = .ok b → namesOf' (f b) = namesOf b) :
    Traversed namesOf' names before (first >>= fun b => .ok (f b)) := by
  cases first with
  | error e => exact hfirst
  | ok b => exact ⟨hfirst.1, (hf b rfl).trans hfirst.2⟩

/-- Two stretches of parts in sequence come to what they come to together. -/
theorem bind {first : Except ImportError β} {next : β → Except ImportError γ}
    (hfirst : Traversed namesOf names before first)
    (hnext : ∀ b, first = .ok b → (namesOf b).Nodup →
      Traversed namesOf' (namesOf b) after (next b)) :
    Traversed namesOf' names (before ++ after) (first >>= next) := by
  cases first with
  | error e =>
    obtain ⟨start, position, raw, rest, rfl, hstart, hfault⟩ := hfirst
    refine ⟨start, position, raw, rest ++ after, ?_, hstart, hfault⟩
    rw [List.append_assoc, List.cons_append]
  | ok b =>
    obtain ⟨hbefore, hnames⟩ := hfirst
    have hrest := hnext b rfl (hnames ▸ hbefore.2)
    rw [hnames] at hrest
    rw [ok_bind]
    cases hb : next b with
    | ok c =>
      rw [hb] at hrest
      obtain ⟨hafter, hc⟩ := hrest
      refine ⟨hbefore.append hafter, ?_⟩
      rw [hc, givenNames_append, List.append_assoc]
    | error e =>
      rw [hb] at hrest
      obtain ⟨start, position, raw, rest, rfl, hstart, hfault⟩ := hrest
      refine ⟨before ++ start, position, raw, rest, ?_, hbefore.append hstart, ?_⟩
      · rw [List.append_assoc]
      · rw [givenNames_append, ← List.append_assoc]
        exact hfault

end Traversed

/-- The name of a field that is read is the one the object gives. -/
theorem Field.givenName?_of_readMembers {members : Members} {f : Field}
    (h : Field.readMembers .written members = .good f) :
    (Json.obj members).givenName? = some f.name := by
  obtain ⟨value, hvalue, hread⟩ := Field.mandatory_eq_good (Field.readMembers_eq_good_iff.1 h).name
  obtain rfl := Field.reads_name.exact hread
  show (Table.get? "name" members).bind Json.text? = _
  rw [hvalue]
  rfl

/-- A field comes to what its one part does. -/
theorem importField_traversed {seen : SeenNames} (hseen : seen.keys.Nodup) (position : Position)
    (raw : Json) :
    Traversed (fun result : Field × SeenNames => result.2.keys) seen.keys [(position, raw)]
      (importField seen position raw) := by
  -- a fault here is the first one: nothing stands before the part
  have hfault : ∀ e : ImportError, e.IsFaultAt seen.keys position raw →
      Traversed (fun result : Field × SeenNames => result.2.keys) seen.keys [(position, raw)]
        (.error e) := by
    intro e h
    refine ⟨[], position, raw, [], rfl, .nil hseen, ?_⟩
    rw [givenNames, List.filterMap_nil, List.append_nil]
    exact h
  cases raw with
  | obj members =>
    have hfollows := Field.follows_readMembers members
    unfold Field.Follows at hfollows
    unfold importField
    dsimp only
    cases hrefused : Field.refused? members with
    | some a =>
      rw [← Field.refused?, hrefused] at hfollows
      obtain ⟨rest, kind, more, hread, -⟩ := hfollows
      rw [hread]
      exact hfault _ ((ImportError.isFaultAt_of_refused hrefused).2 ⟨rfl, rfl⟩)
    | none =>
      rw [← Field.refused?, hrefused] at hfollows
      obtain ⟨f, hread⟩ := hfollows
      have hname := Field.givenName?_of_readMembers hread
      rw [hread]
      dsimp only
      cases hget : Table.get? f.name seen with
      | some first =>
        have hmem : f.name ∈ seen.keys := Table.get?_isSome_iff.1 (by rw [hget]; rfl)
        refine hfault _ ((ImportError.isFaultAt_of_accepted hrefused).2 ?_)
        exact ⟨rfl, rfl, f.name, hmem, hname⟩
      | none =>
        have hfresh : f.name ∉ seen.keys := Table.get?_eq_none_iff.1 hget
        have hgiven : givenNames [(position, Json.obj members)] = [f.name] := by
          rw [givenNames_singleton, hname]
          rfl
        refine ⟨⟨?_, ?_⟩, ?_⟩
        · intro part hpart
          cases List.mem_singleton.1 hpart
          exact Json.isFieldObject_obj_iff.2 hrefused
        · rw [hgiven]
          simpa using nodup_keys_concat hseen hfresh position
        · rw [hgiven]
          simp
  | _ => exact hfault _ ⟨rfl, rfl⟩

theorem importMembers_traversed (index place : Nat) {seen : SeenNames} (hseen : seen.keys.Nodup)
    (raws : List Json) :
    Traversed (fun result : List Field × SeenNames => result.2.keys) seen.keys
      ((raws.zipIdx place).map fun (raw, place) => (.member index place, raw))
      (importMembers index seen place raws) := by
  induction raws generalizing seen place with
  | nil => exact ⟨.nil hseen, by simp [givenNames]⟩
  | cons raw rest ih =>
    rw [List.zipIdx_cons, List.map_cons, ← List.singleton_append, importMembers]
    refine (importField_traversed hseen _ raw).bind ?_
    rintro ⟨f, seen₁⟩ - hseen₁
    exact (ih (place + 1) hseen₁).map fun _ _ => rfl

theorem importItem_traversed (index : Nat) {seen : SeenNames} (hseen : seen.keys.Nodup)
    (raw : Json) :
    Traversed (fun result : Item × SeenNames => result.2.keys) seen.keys
      (Json.itemParts index raw) (importItem seen index raw) := by
  cases raw with
  | arr raws => exact (importMembers_traversed index 0 hseen raws).map fun _ _ => rfl
  | obj members => exact (importField_traversed hseen (.item index) _).map fun _ _ => rfl
  | _ => exact ⟨[], _, _, [], rfl, .nil hseen, rfl, rfl⟩

theorem importItems_traversed (index : Nat) {seen : SeenNames} (hseen : seen.keys.Nodup)
    (raws : List Json) :
    Traversed (fun form : Form => seen.keys ++ form.names) seen.keys
      ((raws.zipIdx index).flatMap fun (item, index) => Json.itemParts index item)
      (importItems seen index raws) := by
  induction raws generalizing seen index with
  | nil => exact ⟨.nil hseen, by simp [givenNames, Form.names]⟩
  | cons raw rest ih =>
    rw [List.zipIdx_cons, List.flatMap_cons, importItems]
    refine (importItem_traversed index hseen raw).bind ?_
    rintro ⟨item, seen₁⟩ hitem hseen₁
    refine (ih (index + 1) hseen₁).map fun form _ => ?_
    rw [names_cons, ← List.append_assoc, (of_importItem hitem).2.1]

namespace Form

/-- **Importing accepts the grammar of forms.** Data in the grammar is imported, and other data is
refused with its first fault in document order. -/
theorem ofJson_accepts_grammar (data : Json) :
    (data.IsForm ∧ ∃ form, ofJson data = .ok form) ∨
      (¬ data.IsForm ∧ ∃ e, ofJson data = .error e ∧ e.IsFirstFault data) := by
  cases data with
  | arr items =>
    have hseen : (Table.keys ([] : SeenNames)).Nodup := List.nodup_nil
    have h := importItems_traversed 0 hseen items
    rw [Json.isForm_arr_iff]
    show (_ ∧ ∃ form, importItems [] 0 items = .ok form) ∨
      (_ ∧ ∃ e, importItems [] 0 items = .error e ∧ _)
    cases hitems : importItems [] 0 items with
    | ok form =>
      rw [hitems] at h
      exact .inl ⟨h.1, form, rfl⟩
    | error e =>
      rw [hitems] at h
      obtain ⟨before, position, raw, after, hparts, hbefore, hfault⟩ := h
      refine .inr ⟨fun hall => ?_, e, rfl, before, position, raw, after, hparts, hbefore, hfault⟩
      rw [Json.parts, hparts] at hall
      exact hfault.not_acceptable after hall.of_append
  | _ => exact .inr ⟨id, .notAnArray, rfl, rfl, rfl⟩

/-- An empty variant is found before the name beside it that is taken. -/
example :
    ofJson (.arr [.obj [("variant", .str "Input"), ("name", .str "a")],
      .arr [.obj [("variant", .str "Input"), ("name", .str "b")],
        .obj [("name", .str "a"), ("variant", .str "")]]]) =
      .error (.badAttribute (.member 1 1) "variant" .emptyText) := rfl

end Form

end FormStudio
