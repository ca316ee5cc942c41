import FormStudio.Proofs.Form.Update

/-!
# Searching by name

The fields of a form are listed with their paths, in the order of the fields (`Form.placed`). The
list has the paths at which a field is looked up, each once and in rising order
(`Form.arePlaces_placed`). The search by name goes through it from the front
(`Form.find?_eq_find?_placed`): it gives the first field with the name, and none only where no field
has it. So where names differ, searching and looking up are inverse to each other
(`Form.find?_isInverse_get`).
-/
namespace FormStudio

/-! ## Fields with their paths -/

/-- The fields of an item that stands at an index, with their paths. -/
def Item.placed (item : Item) (index : Nat) : List (FieldPath × Field) :=
  match item with
  | .field f => [([(index : Int)], f)]
  | .group members =>
    members.zipIdx.map fun (f, place) => ([(index : Int), (place : Int)], f)

namespace Form

/-- The fields of a form with their paths, in order. -/
def placed (form : Form) : List (FieldPath × Field) :=
  form.zipIdx.flatMap fun (item, index) => item.placed index

/-- The places of a form: each path at which a field is looked up comes once, in rising order, and
with the field. In that order the fields are those of the form. -/
structure ArePlaces (form : Form) (places : List (FieldPath × Field)) : Prop where
  fields_eq : places.map Prod.snd = form.fields
  mem_iff : ∀ path f, (path, f) ∈ places ↔ form.get path = .ok f
  rising : places.Pairwise fun place next => place.1 < next.1

variable {form : Form} {path : FieldPath} {f : Field} {name : String}

theorem map_snd_placed_item (item : Item) (index : Nat) :
    (item.placed index).map Prod.snd = item.fields := by
  cases item with
  | field f => rfl
  | group members =>
    rw [Item.placed, List.map_map]
    exact List.zipIdx_map_fst 0 members

theorem map_snd_placed (form : Form) : form.placed.map Prod.snd = form.fields := by
  calc form.placed.map Prod.snd
    _ = form.zipIdx.flatMap fun (item, _) => item.fields := by
      rw [placed, List.map_flatMap]
      exact congrArg (form.zipIdx.flatMap ·) (funext fun _ => map_snd_placed_item _ _)
    _ = (form.zipIdx.map Prod.fst).flatMap Item.fields := by rw [List.flatMap_map]
    _ = form.fields := by rw [List.zipIdx_map_fst, fields]

theorem mem_placed_iff : (path, f) ∈ form.placed ↔ form.HoldsAt path f := by
  constructor
  · intro h
    obtain ⟨⟨item, i⟩, hitem, h⟩ := List.mem_flatMap.1 h
    rw [List.mem_zipIdx_iff_getElem?] at hitem
    cases item with
    | field g =>
      cases List.mem_singleton.1 h
      exact .item hitem
    | group members =>
      obtain ⟨⟨g, j⟩, hmember, heq⟩ := List.mem_map.1 h
      rw [List.mem_zipIdx_iff_getElem?] at hmember
      cases heq
      exact .member hitem hmember
  · intro h
    cases h with
    | @item i _ hitem =>
      exact List.mem_flatMap.2 ⟨(.field f, i), List.mem_zipIdx_iff_getElem?.2 hitem,
        List.mem_singleton_self _⟩
    | @member i j members _ hitem hmember =>
      exact List.mem_flatMap.2 ⟨(.group members, i), List.mem_zipIdx_iff_getElem?.2 hitem,
        List.mem_map.2 ⟨(f, j), List.mem_zipIdx_iff_getElem?.2 hmember, rfl⟩⟩

/-- Indices rise along a list. -/
theorem pairwise_zipIdx {α : Type} (items : List α) :
    items.zipIdx.Pairwise fun entry next => entry.2 < next.2 := by
  rw [← List.pairwise_map, List.zipIdx_map_snd]
  exact List.pairwise_lt_range'

theorem exists_of_mem_placed_item {item : Item} {index : Nat} {place : FieldPath × Field}
    (h : place ∈ item.placed index) : ∃ rest, place.1 = (index : Int) :: rest := by
  cases item with
  | field g =>
    rw [List.mem_singleton.1 h]
    exact ⟨[], rfl⟩
  | group members =>
    obtain ⟨⟨g, j⟩, -, rfl⟩ := List.mem_map.1 h
    exact ⟨[(j : Int)], rfl⟩

theorem pairwise_placed_item (item : Item) (index : Nat) :
    (item.placed index).Pairwise fun place next => place.1 < next.1 := by
  cases item with
  | field g => exact List.pairwise_singleton _ _
  | group members =>
    refine List.pairwise_map.2 ((pairwise_zipIdx members).imp fun {entry next} h => ?_)
    rw [List.cons_lt_cons_iff, List.cons_lt_cons_iff]
    exact .inr ⟨rfl, .inl (Int.ofNat_lt.2 h)⟩

theorem pairwise_placed (form : Form) :
    form.placed.Pairwise fun place next => place.1 < next.1 := by
  refine List.pairwise_flatMap.2 ⟨fun (item, index) _ => pairwise_placed_item item index, ?_⟩
  refine (pairwise_zipIdx form).imp fun {entry next} h place hplace after hafter => ?_
  obtain ⟨rest, hrest⟩ := exists_of_mem_placed_item hplace
  obtain ⟨more, hmore⟩ := exists_of_mem_placed_item hafter
  rw [hrest, hmore, List.cons_lt_cons_iff]
  exact .inl (Int.ofNat_lt.2 h)

theorem arePlaces_placed (form : Form) : form.ArePlaces form.placed where
  fields_eq := map_snd_placed form
  mem_iff _ _ := mem_placed_iff.trans get_eq_ok_iff.symm
  rising := pairwise_placed form

/-! ## The search -/

theorem findMember_eq (name : String) (start : Nat) (members : List Field) :
    findMember name start members = (members.findIdx? (·.name == name)).map (· + start) := by
  induction members generalizing start with
  | nil => rfl
  | cons g rest ih =>
    rw [findMember, List.findIdx?_cons]
    by_cases hname : g.name = name
    · simp [hname]
    · simp only [hname, if_false, beq_iff_eq, ih, Option.map_map, Function.comp_def, Nat.add_assoc,
        Nat.add_comm 1]

theorem find?_placed_group (name : String) (members : List Field) (index : Nat) :
    (((Item.group members).placed index).find? (·.2.name == name)).map Prod.fst =
      (findMember name 0 members).map fun place : Nat => [(index : Int), (place : Int)] := by
  rw [findMember_eq, List.findIdx?_eq_fst_find?_zipIdx, Item.placed, List.find?_map]
  simp only [Option.map_map]
  rfl

theorem findFrom_eq (name : String) (index : Nat) (form : Form) :
    findFrom name index form =
      (((form.zipIdx index).flatMap fun (item, index) => item.placed index).find?
        (·.2.name == name)).map Prod.fst := by
  induction form generalizing index with
  | nil => rfl
  | cons item rest ih =>
    rw [List.zipIdx_cons, List.flatMap_cons, List.find?_append, Option.map_or, ← ih]
    cases item with
    | field g =>
      rw [findFrom]
      by_cases hname : g.name = name
      · simp [hname, Item.placed]
      · simp [hname, Item.placed]
    | group members =>
      rw [findFrom, find?_placed_group]
      cases findMember name 0 members <;> rfl

/-- **The search goes through the places from the front.** -/
theorem find?_eq_find?_placed (form : Form) (name : String) :
    form.find? name = (form.placed.find? (·.2.name == name)).map Prod.fst :=
  findFrom_eq name 0 form

/-- What is found is the first place with the name. -/
theorem find?_eq_some_iff : form.find? name = some path ↔
    ∃ before f after, form.placed = before ++ (path, f) :: after ∧ f.name = name ∧
      ∀ place ∈ before, place.2.name ≠ name := by
  rw [find?_eq_find?_placed, Option.map_eq_some_iff]
  constructor
  · rintro ⟨⟨path, f⟩, hfind, rfl⟩
    obtain ⟨hname, before, after, hplaced, hbefore⟩ := List.find?_eq_some_iff_append.1 hfind
    exact ⟨before, f, after, hplaced, by simpa using hname, by simpa using hbefore⟩
  · rintro ⟨before, f, after, hplaced, hname, hbefore⟩
    have hfind : form.placed.find? (·.2.name == name) = some (path, f) :=
      List.find?_eq_some_iff_append.2
        ⟨by simpa using hname, before, after, hplaced, by simpa using hbefore⟩
    exact ⟨(path, f), hfind, rfl⟩

theorem find?_eq_none_iff : form.find? name = none ↔ name ∉ form.names := by
  rw [find?_eq_find?_placed, Option.map_eq_none_iff, List.find?_eq_none, names, ← map_snd_placed]
  simp

theorem exists_get_of_find? (h : form.find? name = some path) :
    ∃ f, form.get path = .ok f ∧ f.name = name := by
  obtain ⟨before, f, after, hplaced, hname, -⟩ := find?_eq_some_iff.1 h
  have hmem : (path, f) ∈ form.placed := by
    rw [hplaced]
    exact List.mem_append_right _ List.mem_cons_self
  exact ⟨f, get_eq_ok_iff.2 (mem_placed_iff.1 hmem), hname⟩

theorem exists_find?_of_mem (h : name ∈ form.names) : ∃ path, form.find? name = some path := by
  rw [← Option.ne_none_iff_exists']
  exact fun hnone => find?_eq_none_iff.1 hnone h

/-- Where names differ, the path to a field is found by its name. -/
theorem find?_of_get (hnames : form.names.Nodup) (h : form.get path = .ok f) :
    form.find? f.name = some path := by
  have hholds := get_eq_ok_iff.1 h
  have hname : f.name ∈ form.names := List.mem_map_of_mem (mem_fields_iff.2 ⟨path, hholds⟩)
  obtain ⟨other, hother⟩ := exists_find?_of_mem hname
  obtain ⟨g, hg, hsame⟩ := exists_get_of_find? hother
  rw [hother, hholds.path_eq hnames (get_eq_ok_iff.1 hg) hsame]

/-- **Searching is inverse to looking up.** A name that is known is found, at a path where a field
with the name is looked up, and an unknown one is not. Where names differ, a path at which a field
is looked up is the one that is found by its name; where they repeat, the path of the first field
is found. -/
theorem find?_isInverse_get (form : Form) :
    (∀ name, name ∈ form.names →
      ∃ path f, form.find? name = some path ∧ form.get path = .ok f ∧ f.name = name) ∧
    (∀ name, name ∉ form.names → form.find? name = none) ∧
    (form.names.Nodup → ∀ path f, form.get path = .ok f → form.find? f.name = some path) ∧
    ∃ places, form.ArePlaces places ∧ ∀ name path, form.find? name = some path ↔
      ∃ before f after, places = before ++ (path, f) :: after ∧ f.name = name ∧
        ∀ place ∈ before, place.2.name ≠ name := by
  refine ⟨fun name hname => ?_, fun name => find?_eq_none_iff.2, fun hnames path f =>
    find?_of_get hnames, form.placed, arePlaces_placed form, fun name path => find?_eq_some_iff⟩
  obtain ⟨path, hfind⟩ := exists_find?_of_mem hname
  obtain ⟨f, hget, hf⟩ := exists_get_of_find? hfind
  exact ⟨path, f, hfind, hget, hf⟩

/-- The search goes past an empty group, and out of a group again that does not have the name. -/
theorem find?_isInverse_get_of_groups :
    let form : Form := [.group [], .group [.named "a"], .group [.named "b", .named "c"]]
    form.names.Nodup ∧ form.get [2, 1] = .ok (.named "c") ∧ form.find? "c" = some [2, 1] ∧
      form.find? "d" = none ∧
      ∃ path f, form.find? "a" = some path ∧ form.get path = .ok f ∧ f.name = "a" := by
  intro form
  have hnames : form.names.Nodup := by decide
  have hget : form.get [2, 1] = .ok (.named "c") := rfl
  obtain ⟨hknown, hunknown, hinverse, -⟩ := find?_isInverse_get form
  exact ⟨hnames, hget, hinverse hnames _ _ hget, hunknown "d" (by decide), hknown "a" (by decide)⟩

end Form

end FormStudio
