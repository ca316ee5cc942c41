import FormStudio.Form.Walk
import FormStudio.Proofs.Form.Merge

/-!
# Updates in place

A path holds a field where it is the index of a field, or the index of a group and a place in it
(`Form.HoldsAt`). Looking up finds exactly these fields (`Form.get_eq_ok_iff`), and a form is known
by its shape and what is found in it (`Form.eq_of_get`). Putting a field in a place obeys three
laws: the field is found there, all else is found as before, and the shape stays. Updates in two
places commute by these laws alone (`Form.replace_comm`). The walk that puts a field in a place
leads to the same places as looking up (`Form.putAt_eq_ok_iff`).
-/
namespace FormStudio

/-- How many fields an item has, where it is a group. -/
def Item.size? : Item → Option Nat
  | .field _ => none
  | .group members => some members.length

namespace Form

/-- Which items are groups, and of how many fields. -/
def shape (form : Form) : List (Option Nat) := form.map Item.size?

/-- A path holds a field: it leads to an item that is one, or to a member of a group. -/
inductive HoldsAt (form : Form) : FieldPath → Field → Prop
  | item {i : Nat} {f : Field} (h : form[i]? = some (.field f)) : HoldsAt form [(i : Int)] f
  | member {i j : Nat} {members : List Field} {f : Field}
    (hitem : form[i]? = some (.group members)) (hmember : members[j]? = some f) :
    HoldsAt form [(i : Int), (j : Int)] f

variable {form : Form} {path other : FieldPath} {f g current updated : Field} {updates : Update}

/-! ## Looking up -/

section At

variable {α : Type} {items : List α} {a new : α}

theorem at?_eq_some_iff {index : Int} :
    at? items index = some a ↔ ∃ n : Nat, index = n ∧ items[n]? = some a := by
  constructor
  · intro h
    have hindex : ¬ index < 0 := fun hneg => by simp [at?, hneg] at h
    exact ⟨index.toNat, (Int.toNat_of_nonneg (Int.not_lt.1 hindex)).symm, getElem?_of_at? h⟩
  · rintro ⟨n, rfl, h⟩
    rw [at?_nonneg, h]

theorem at?_set_of_ne {n : Nat} {index : Int} (h : index ≠ n) :
    at? (items.set n new) index = at? items index := by
  unfold at?
  split
  · rfl
  · next hindex => rw [List.getElem?_set_ne (by omega)]

/-- Putting in what looks the same changes nothing that is seen. -/
theorem map_set_of_eq {β : Type} {see : α → β} {n : Nat} (h : items[n]? = some a)
    (hsee : see new = see a) : (items.set n new).map see = items.map see := by
  calc (items.set n new).map see
      = (items.take n ++ new :: items.drop (n + 1)).map see := by rw [set_eq_take_append_drop h]
    _ = (items.take n ++ a :: items.drop (n + 1)).map see := by
      rw [List.map_append, List.map_append, List.map_cons, List.map_cons, hsee]
    _ = items.map see := by rw [← eq_take_append_drop h]

end At

theorem get_item_iff {i : Nat} :
    form.get [(i : Int)] = .ok f ↔ form[i]? = some (.field f) := by
  rw [get, at?_nonneg]
  cases form[i]? with
  | none => simp
  | some item => cases item <;> simp

theorem get_member_iff {i j : Nat} : form.get [(i : Int), (j : Int)] = .ok f ↔
    ∃ members, form[i]? = some (.group members) ∧ members[j]? = some f := by
  rw [get, at?_nonneg]
  cases form[i]? with
  | none => simp
  | some item =>
    cases item with
    | field g => simp
    | group members =>
      dsimp only
      rw [at?_nonneg]
      cases hmember : members[j]? <;> simp [hmember]

/-- **Looking up** finds what a path holds. -/
theorem get_eq_ok_iff : form.get path = .ok f ↔ form.HoldsAt path f := by
  constructor
  · intro h
    match path with
    | [] => cases h
    | [i] =>
      have hat : ∃ item, at? form i = some item := by
        cases hat : at? form i with
        | none => simp [get, hat] at h
        | some item => exact ⟨item, rfl⟩
      obtain ⟨item, hat⟩ := hat
      obtain ⟨n, rfl, -⟩ := at?_eq_some_iff.1 hat
      exact .item (get_item_iff.1 h)
    | [i, j] =>
      rw [get] at h
      split at h
      · next members hat =>
        split at h <;> cases h
        next hmember =>
        obtain ⟨n, rfl, hitem⟩ := at?_eq_some_iff.1 hat
        obtain ⟨m, rfl, hmember⟩ := at?_eq_some_iff.1 hmember
        exact .member hitem hmember
      · cases h
    | _ :: _ :: _ :: _ => cases h
  · rintro (h | ⟨hitem, hmember⟩)
    · exact get_item_iff.2 h
    · exact get_member_iff.2 ⟨_, hitem, hmember⟩

/-- Where no field is found, that is what the error says. -/
theorem isNotFound_of_get {e : EditError} (h : form.get path = .error e) :
    e.isNotFound = true := by
  unfold get at h
  split at h
  · cases h
    rfl
  · split at h <;> cases h <;> rfl
  · split at h
    · split at h <;> cases h
      rfl
    · cases h
      rfl
  · cases h
    rfl

/-- The fields of a form are those that its paths hold. -/
theorem mem_fields_iff : f ∈ form.fields ↔ ∃ path, form.HoldsAt path f := by
  constructor
  · intro hf
    obtain ⟨item, hitem, hf⟩ := List.mem_flatMap.1 hf
    obtain ⟨i, hi⟩ := List.mem_iff_getElem?.1 hitem
    cases item with
    | field g =>
      cases List.mem_singleton.1 hf
      exact ⟨_, .item hi⟩
    | group members =>
      obtain ⟨j, hj⟩ := List.mem_iff_getElem?.1 hf
      exact ⟨_, .member hi hj⟩
  · rintro ⟨path, h | ⟨hitem, hmember⟩⟩
    · exact List.mem_flatMap.2 ⟨_, List.mem_of_getElem? h, List.mem_singleton.2 rfl⟩
    · exact List.mem_flatMap.2 ⟨_, List.mem_of_getElem? hitem, List.mem_of_getElem? hmember⟩

/-- **A form is known by its shape and what is found in it.** -/
theorem eq_of_get {form' : Form} (hshape : form.shape = form'.shape)
    (h : ∀ path, form.get path = form'.get path) : form = form' := by
  refine List.ext_getElem? fun i => ?_
  have hsize : (form[i]?).map Item.size? = (form'[i]?).map Item.size? := by
    rw [← List.getElem?_map, ← List.getElem?_map]
    exact congrArg (·[i]?) hshape
  cases hitem : form[i]? with
  | none =>
    rw [hitem] at hsize
    exact (Option.map_eq_none_iff.1 hsize.symm).symm
  | some item =>
    cases item with
    | field f =>
      have hfound := get_item_iff.2 hitem
      rw [h] at hfound
      exact (get_item_iff.1 hfound).symm
    | group members =>
      rw [hitem] at hsize
      obtain ⟨item', hitem', hlength⟩ := Option.map_eq_some_iff.1 hsize.symm
      cases item' with
      | field g => cases hlength
      | group members' =>
        rw [hitem']
        refine congrArg (fun members => some (Item.group members)) (List.ext_getElem? fun j => ?_)
        cases hmember : members[j]? with
        | some f =>
          have hfound := get_member_iff.2 ⟨members, hitem, hmember⟩
          rw [h] at hfound
          obtain ⟨found, hfound, hmember'⟩ := get_member_iff.1 hfound
          rw [hitem'] at hfound
          cases hfound
          exact hmember'.symm
        | none =>
          have hle : members.length ≤ j := List.getElem?_eq_none_iff.1 hmember
          have hlength : members'.length = members.length := Option.some.inj hlength
          exact (List.getElem?_eq_none_iff.2 (hlength ▸ hle)).symm

/-! ## Putting a field in a place -/

theorem replace_item (form : Form) (i : Nat) (f : Field) :
    form.replace f [(i : Int)] = form.set i (.field f) := by
  simp [replace]

theorem replace_member {i : Nat} {members : List Field} (h : form[i]? = some (.group members))
    (j : Nat) (f : Field) :
    form.replace f [(i : Int), (j : Int)] = form.set i (.group (members.set j f)) := by
  simp [replace, h]

theorem HoldsAt.shape_replace (h : form.HoldsAt path g) (f : Field) :
    (form.replace f path).shape = form.shape := by
  cases h with
  | item h =>
    rw [replace_item]
    exact map_set_of_eq h rfl
  | member hitem hmember =>
    rw [replace_member hitem]
    exact map_set_of_eq hitem (by simp [Item.size?])

/-- A path that starts elsewhere finds what it found. -/
theorem get_set_of_ne {i : Nat} {k : Int} (h : k ≠ i) (item : Item) (rest : FieldPath) :
    get (form.set i item) (k :: rest) = form.get (k :: rest) := by
  rcases rest with _ | ⟨l, _ | ⟨next, more⟩⟩
  · rw [get, get, at?_set_of_ne h]
  · rw [get, get, at?_set_of_ne h]
  · rfl

theorem getElem?_set_of_some {i : Nat} {old : Item} (h : form[i]? = some old) (item : Item) :
    (form.set i item)[i]? = some item := by
  rw [List.getElem?_set_self', h]
  rfl

theorem HoldsAt.get_replace_of_ne (h : form.HoldsAt path g) (hne : other ≠ path) (f : Field) :
    (form.replace f path).get other = form.get other := by
  rcases other with _ | ⟨k, rest⟩
  · cases h with
    | item h => rw [replace_item, get, get]
    | member hitem hmember => rw [replace_member hitem, get, get]
  cases h with
  | @item i _ h =>
    rw [replace_item]
    by_cases hk : k = i
    · subst hk
      rcases rest with _ | ⟨l, _ | ⟨next, more⟩⟩
      · exact absurd rfl hne
      · -- a path that runs past a field finds nothing, whatever the field is
        rw [get, get, at?_nonneg, at?_nonneg, h, getElem?_set_of_some h]
      · rfl
    · exact get_set_of_ne hk _ rest
  | @member i j members _ hitem hmember =>
    rw [replace_member hitem]
    by_cases hk : k = i
    · subst hk
      rcases rest with _ | ⟨l, _ | ⟨next, more⟩⟩
      · rw [get, get, at?_nonneg, at?_nonneg, hitem, getElem?_set_of_some hitem]
      · have hl : l ≠ j := fun heq => hne (heq ▸ rfl)
        rw [get, get, at?_nonneg, at?_nonneg, hitem, getElem?_set_of_some hitem]
        dsimp only
        rw [at?_set_of_ne hl]
      · rfl
    · exact get_set_of_ne hk _ rest

theorem HoldsAt.get_replace (h : form.HoldsAt path g) (f : Field) :
    (form.replace f path).get path = .ok f :=
  Form.get_replace (get_eq_ok_iff.2 h) f

theorem HoldsAt.replace_of_ne (h : form.HoldsAt path g) (hother : form.HoldsAt other current)
    (hne : other ≠ path) (f : Field) : (form.replace f path).HoldsAt other current := by
  rw [← get_eq_ok_iff, h.get_replace_of_ne hne, get_eq_ok_iff]
  exact hother

/-- **Fields are put in two places** in either order. -/
theorem replace_comm (h : form.HoldsAt path current) (hother : form.HoldsAt other g)
    (hne : other ≠ path) (f f' : Field) :
    (form.replace f path).replace f' other = (form.replace f' other).replace f path := by
  have hfirst := h.replace_of_ne hother hne f
  have hsecond := hother.replace_of_ne h hne.symm f'
  refine eq_of_get ?_ fun found => ?_
  · rw [hfirst.shape_replace, h.shape_replace, hsecond.shape_replace, hother.shape_replace]
  · by_cases hpath : found = path
    · subst hpath
      rw [hsecond.get_replace, hfirst.get_replace_of_ne hne.symm, h.get_replace]
    · by_cases hplace : found = other
      · subst hplace
        rw [hfirst.get_replace, hsecond.get_replace_of_ne hpath, hother.get_replace]
      · rw [hfirst.get_replace_of_ne hplace, h.get_replace_of_ne hpath,
          hsecond.get_replace_of_ne hpath, hother.get_replace_of_ne hplace]

/-- The walk down a path puts a field where one is held, and nowhere else. -/
theorem putAt_eq_ok_iff {index : Int} {rest : FieldPath} {new : Form} :
    form.putAt f index rest = .ok new ↔
      (∃ g, form.HoldsAt (index :: rest) g) ∧ new = form.replace f (index :: rest) := by
  constructor
  · intro h
    unfold putAt at h
    split at h
    · cases h
    · next hat =>
      cases h
      obtain ⟨i, rfl, hitem⟩ := at?_eq_some_iff.1 hat
      exact ⟨⟨_, .item hitem⟩, rfl⟩
    · cases h
    · cases h
    · next members next more hat =>
      obtain ⟨i, rfl, hitem⟩ := at?_eq_some_iff.1 hat
      obtain ⟨left, hput, rfl⟩ := map_eq_ok_iff.1 h
      unfold putMember at hput
      split at hput <;> cases hput
      next hmember =>
      obtain ⟨j, rfl, hmember⟩ := at?_eq_some_iff.1 hmember
      exact ⟨⟨_, .member hitem hmember⟩, (replace_member hitem j f).symm⟩
  · rintro ⟨⟨g, h⟩, rfl⟩
    cases h with
    | item h =>
      unfold putAt
      rw [at?_nonneg, h, replace_item]
      rfl
    | member hitem hmember =>
      unfold putAt putMember
      rw [at?_nonneg, hitem, replace_member hitem]
      dsimp only
      rw [at?_nonneg, hmember]
      rfl

/-! ## Names -/

/-- The fields in front of a place and behind it. -/
theorem HoldsAt.exists_fields (h : form.HoldsAt path current) :
    ∃ pre post, form.fields = pre ++ current :: post ∧
      ∀ f, (form.replace f path).fields = pre ++ f :: post :=
  fields_of_get (get_eq_ok_iff.2 h)

/-- Where names differ, a name is found in one place. -/
theorem HoldsAt.path_eq (hnames : form.names.Nodup) (h : form.HoldsAt path f)
    (hother : form.HoldsAt other g) (hname : g.name = f.name) : other = path := by
  refine Decidable.byContradiction fun hne => ?_
  obtain ⟨pre, post, hfields, hreplace⟩ := h.exists_fields
  -- the other field is still there when the place holds one of another name
  let stranger : Field := { f with name := f.name ++ "'" }
  have hmem := mem_fields_iff.2 ⟨other, h.replace_of_ne hother hne stranger⟩
  rw [hreplace] at hmem
  have hstranger : g ≠ stranger := by
    intro heq
    have hlength := congrArg String.length (hname.symm.trans (congrArg Field.name heq))
    simp [stranger] at hlength
  rw [names, hfields, List.map_append, List.map_cons] at hnames
  obtain ⟨-, hpost, hapart⟩ := List.nodup_append.1 hnames
  rcases List.mem_append.1 hmem with hpre | hrest
  · exact hapart _ (List.mem_map_of_mem hpre) _ List.mem_cons_self hname
  · rcases List.mem_cons.1 hrest with heq | hrest
    · exact hstranger heq
    · exact (List.nodup_cons.1 hpost).1 (hname ▸ List.mem_map_of_mem hrest)

/-- A name that the field itself does not have is taken by another field. -/
theorem HoldsAt.isTaken_iff (hnames : form.names.Nodup) (h : form.HoldsAt path f) {name : String} :
    (name ≠ f.name ∧ name ∈ form.names) ↔
      ∃ other g, other ≠ path ∧ form.HoldsAt other g ∧ g.name = name := by
  constructor
  · rintro ⟨hne, hname⟩
    obtain ⟨g, hg, rfl⟩ := List.mem_map.1 hname
    obtain ⟨other, hother⟩ := mem_fields_iff.1 hg
    refine ⟨other, g, ?_, hother, rfl⟩
    rintro rfl
    have hsame := (get_eq_ok_iff.2 hother).symm.trans (get_eq_ok_iff.2 h)
    cases hsame
    exact hne rfl
  · rintro ⟨other, g, hne, hother, rfl⟩
    exact ⟨fun hname => hne (h.path_eq hnames hother hname),
      List.mem_map_of_mem (mem_fields_iff.2 ⟨other, hother⟩)⟩

/-- A field that is put in a place leaves the names as they are if it has the name of the one that
was there. -/
theorem HoldsAt.names_replace_iff (h : form.HoldsAt path current) :
    (form.replace f path).names = form.names ↔ f.name = current.name := by
  obtain ⟨pre, post, hfields, hreplace⟩ := h.exists_fields
  rw [names, names, hfields, hreplace]
  simp

/-! ## Updates -/

theorem HoldsAt.update_eq (h : form.HoldsAt path current) (updates : Update) :
    form.update path updates = current.merge updates >>= fun updated =>
      if updated.name ≠ current.name ∧ updated.name ∈ form.names then
        .error (.nameTaken updated.name)
      else .ok (form.replace updated path) := by
  have hpath : path ≠ [] := by
    rintro rfl
    cases h
  rw [update, if_neg hpath, get_eq_ok_iff.2 h, ok_bind]

/-- An update is done where it has a field to merge into, and the name of that is not taken. -/
theorem update_eq_ok_iff {new : Form} : form.update path updates = .ok new ↔
    ∃ current updated, form.HoldsAt path current ∧ current.merge updates = .ok updated ∧
      ¬ (updated.name ≠ current.name ∧ updated.name ∈ form.names) ∧
      new = form.replace updated path := by
  constructor
  · intro hupdate
    have hget : ∃ current, form.get path = .ok current := by
      unfold update at hupdate
      split at hupdate
      · cases hupdate
      · obtain ⟨current, hget, -⟩ := bind_eq_ok_iff.1 hupdate
        exact ⟨current, hget⟩
    obtain ⟨current, hget⟩ := hget
    have hholds := get_eq_ok_iff.1 hget
    rw [hholds.update_eq] at hupdate
    obtain ⟨updated, hmerge, hupdate⟩ := bind_eq_ok_iff.1 hupdate
    split at hupdate
    · cases hupdate
    · next hname =>
      cases hupdate
      exact ⟨current, updated, hholds, hmerge, hname, rfl⟩
  · rintro ⟨current, updated, hholds, hmerge, hname, rfl⟩
    rw [hholds.update_eq, hmerge, ok_bind, if_neg hname]

/-- An update fails to find a field exactly where its path holds none. -/
theorem update_isNotFound_iff :
    (∃ e, form.update path updates = .error e ∧ e.isNotFound = true) ↔
      ¬ ∃ f, form.HoldsAt path f := by
  constructor
  · rintro ⟨e, hupdate, he⟩ ⟨current, hholds⟩
    rw [hholds.update_eq] at hupdate
    cases hmerge : current.merge updates with
    | error e' =>
      rw [hmerge, error_bind] at hupdate
      obtain ⟨issues, rfl⟩ := Field.merge_eq_error hmerge
      cases hupdate
      cases he
    | ok updated =>
      rw [hmerge, ok_bind] at hupdate
      split at hupdate <;> cases hupdate
      cases he
  · intro hnone
    unfold update
    split
    · exact ⟨.emptyPath, rfl, rfl⟩
    · cases hget : form.get path with
      | ok f => exact absurd ⟨f, get_eq_ok_iff.1 hget⟩ hnone
      | error e => exact ⟨e, rfl, isNotFound_of_get hget⟩

/-- An update of the field in a place is refused: the merged field is none, or it takes the name of
the field in another place. -/
def Refuses (form : Form) (path : FieldPath) (current : Field) (updates : Update) : Prop :=
  (Json.obj (current.merged updates)).isFieldObject = false ∨
    ∃ updated, current.merge updates = .ok updated ∧
      ∃ other g, other ≠ path ∧ form.HoldsAt other g ∧ g.name = updated.name

theorem HoldsAt.update_isRefused_iff (hnames : form.names.Nodup) (h : form.HoldsAt path current) :
    (∃ e, form.update path updates = .error e ∧ e.isNotFound = false) ↔
      form.Refuses path current updates := by
  unfold Refuses
  have hobject : (Json.obj (current.merged updates)).isFieldObject = true ↔
      Succeeds (current.merge updates) := Field.succeeds_merge_iff.symm
  rw [h.update_eq]
  cases hmerge : current.merge updates with
  | error e =>
    obtain ⟨issues, rfl⟩ := Field.merge_eq_error hmerge
    rw [hmerge] at hobject
    have hinvalid : (Json.obj (current.merged updates)).isFieldObject = false := by
      simpa using hobject
    exact iff_of_true ⟨_, rfl, rfl⟩ (.inl hinvalid)
  | ok updated =>
    rw [hmerge] at hobject
    have hvalid : (Json.obj (current.merged updates)).isFieldObject = true := by
      simpa using hobject
    rw [ok_bind, hvalid]
    constructor
    · rintro ⟨e, hupdate, -⟩
      split at hupdate
      · next htaken => exact .inr ⟨updated, rfl, (h.isTaken_iff hnames).1 htaken⟩
      · cases hupdate
    · rintro (hfalse | ⟨found, hfound, htaken⟩)
      · cases hfalse
      · cases hfound
        rw [if_pos ((h.isTaken_iff hnames).2 htaken)]
        exact ⟨_, rfl, rfl⟩

/-- An update that finds a field and is not refused is done. -/
theorem HoldsAt.exists_update (hnames : form.names.Nodup) (h : form.HoldsAt path current)
    (hallowed : ¬ form.Refuses path current updates) :
    ∃ new, form.update path updates = .ok new := by
  cases hupdate : form.update path updates with
  | ok new => exact ⟨new, rfl⟩
  | error e =>
    cases hfound : e.isNotFound with
    | true => exact absurd ⟨current, h⟩ (update_isNotFound_iff.1 ⟨e, hupdate, hfound⟩)
    | false => exact absurd ((h.update_isRefused_iff hnames).1 ⟨e, hupdate, hfound⟩) hallowed

/-- What an update leaves: the merged field in its place, and all else as it was. -/
theorem get_update {new : Form} (h : form.HoldsAt path current)
    (hupdate : form.update path updates = .ok new) :
    ∃ updated, current.merge updates = .ok updated ∧ new.shape = form.shape ∧
      new.get path = .ok updated ∧ ∀ other, other ≠ path → new.get other = form.get other := by
  obtain ⟨found, updated, hfound, hmerge, -, rfl⟩ := update_eq_ok_iff.1 hupdate
  have hsame := (get_eq_ok_iff.2 hfound).symm.trans (get_eq_ok_iff.2 h)
  cases hsame
  exact ⟨updated, hmerge, h.shape_replace updated, h.get_replace updated,
    fun other hne => h.get_replace_of_ne hne updated⟩

theorem HoldsAt.update_of_merge (h : form.HoldsAt path current)
    (hmerge : current.merge updates = .ok updated) (hname : updated.name = current.name) :
    form.update path updates = .ok (form.replace updated path) :=
  update_eq_ok_iff.2 ⟨current, updated, h, hmerge, fun htaken => htaken.1 hname, rfl⟩

/-- Updates in two places that change no names are done in either order. -/
theorem update_comm {new after : Form} {others : Update} (hne : path ≠ other)
    (hnew : form.update path updates = .ok new) (hnames : new.names = form.names)
    (hafter : form.update other others = .ok after) (hnames' : after.names = form.names) :
    ∃ both, new.update other others = .ok both ∧ after.update path updates = .ok both := by
  obtain ⟨current, updated, h, hmerge, -, rfl⟩ := update_eq_ok_iff.1 hnew
  obtain ⟨current', updated', h', hmerge', -, rfl⟩ := update_eq_ok_iff.1 hafter
  have hname : updated.name = current.name := h.names_replace_iff.1 hnames
  have hname' : updated'.name = current'.name := h'.names_replace_iff.1 hnames'
  refine ⟨(form.replace updated path).replace updated' other, ?_, ?_⟩
  · exact (h.replace_of_ne h' hne.symm updated).update_of_merge hmerge' hname'
  · rw [replace_comm h h' hne.symm]
    exact (h'.replace_of_ne h hne updated').update_of_merge hmerge hname

/-- **An update is a lens on the fields of a form.** It fails to find a field exactly where its path
holds none, is refused exactly where the merged field is none or takes the name of another one, and
otherwise puts the merged field in the place of the old one and changes nothing else. The walk that
puts it there leads to a place exactly where a field is held. Two updates in different places that
change no names are done in either order. -/
theorem update_isLens {form : Form} (hnames : form.names.Nodup) :
    (∀ path updates,
      ((∃ e, form.update path updates = .error e ∧ e.isNotFound = true) ↔
        ¬ ∃ f, form.HoldsAt path f) ∧
      ∀ current, form.HoldsAt path current →
        ((∃ e, form.update path updates = .error e ∧ e.isNotFound = false) ↔
          form.Refuses path current updates) ∧
        (¬ form.Refuses path current updates → ∃ new updated,
          form.update path updates = .ok new ∧ current.merge updates = .ok updated ∧
          new.shape = form.shape ∧ new.get path = .ok updated ∧
          ∀ other, other ≠ path → new.get other = form.get other)) ∧
    (∀ index rest f new, form.putAt f index rest = .ok new ↔
      (∃ g, form.HoldsAt (index :: rest) g) ∧ new = form.replace f (index :: rest)) ∧
    ∀ path other updates others new after, path ≠ other →
      form.update path updates = .ok new → new.names = form.names →
      form.update other others = .ok after → after.names = form.names →
        ∃ both, new.update other others = .ok both ∧ after.update path updates = .ok both := by
  refine ⟨fun path updates => ⟨update_isNotFound_iff, fun current h => ?_⟩,
    fun index rest f new => putAt_eq_ok_iff, ?_⟩
  · refine ⟨h.update_isRefused_iff hnames, fun hallowed => ?_⟩
    obtain ⟨new, hupdate⟩ := h.exists_update hnames hallowed
    obtain ⟨updated, hmerge, hkept⟩ := get_update h hupdate
    exact ⟨new, updated, hupdate, hmerge, hkept⟩
  · intro path other updates others new after hne hnew hkept hafter hkept'
    exact update_comm hne hnew hkept hafter hkept'

/-- The label of a group member is changed before or after another one, and the name of another
field is refused there. -/
theorem update_isLens_of_member :
    let form : Form := [.field (.named "a"), .group [.named "b", .named "c"]]
    form.names.Nodup ∧
      (∃ new, form.update [1, 0] (.members [("label", .str "B")]) = .ok new ∧
        new.shape = [none, some 2] ∧ new.get [1, 0] = .ok { Field.named "b" with label := "B" } ∧
        new.get [1, 1] = .ok (.named "c")) ∧
      (∃ e, form.update [1, 0] (.members [("name", .str "a")]) = .error e ∧
        e.isNotFound = false) ∧
      ∃ new after both, form.update [1, 0] (.members [("label", .str "B")]) = .ok new ∧
        form.update [0] (.members [("description", .str "A")]) = .ok after ∧
        new.update [0] (.members [("description", .str "A")]) = .ok both ∧
        after.update [1, 0] (.members [("label", .str "B")]) = .ok both := by
  intro form
  have hnames : form.names.Nodup := by decide
  have hholds : form.HoldsAt [1, 0] (.named "b") := .member (i := 1) (j := 0) rfl rfl
  have hother : form.HoldsAt [0] (.named "a") := .item (i := 0) rfl
  have hlabel : (Field.named "b").merge (.members [("label", .str "B")]) =
      .ok { Field.named "b" with label := "B" } := toOption_eq_some_iff.1 (by decide +kernel)
  have hname : (Field.named "b").merge (.members [("name", .str "a")]) = .ok (.named "a") :=
    toOption_eq_some_iff.1 (by decide +kernel)
  have hdescription : (Field.named "a").merge (.members [("description", .str "A")]) =
      .ok { Field.named "a" with description := "A" } :=
    toOption_eq_some_iff.1 (by decide +kernel)
  have hlens := (update_isLens hnames).1 [1, 0]
  obtain ⟨hrefused, -⟩ := (hlens (.members [("name", .str "a")])).2 _ hholds
  obtain ⟨hlabelRefused, hdone⟩ := (hlens (.members [("label", .str "B")])).2 _ hholds
  have hallowed : ¬ form.Refuses [1, 0] (.named "b") (.members [("label", .str "B")]) := by
    intro hrefuses
    obtain ⟨e, herror, -⟩ := hlabelRefused.2 hrefuses
    rw [hholds.update_of_merge hlabel rfl] at herror
    cases herror
  obtain ⟨new, updated, hupdate, hmerge, hshape, hget, hothers⟩ := hdone hallowed
  rw [hlabel] at hmerge
  cases hmerge
  have hfirst := hholds.update_of_merge hlabel rfl
  have hsecond := hother.update_of_merge hdescription rfl
  obtain ⟨both, hafter, hbefore⟩ := (update_isLens hnames).2.2 _ _ _ _ _ _ (by decide)
    hfirst (hholds.names_replace_iff.2 rfl) hsecond (hother.names_replace_iff.2 rfl)
  exact ⟨hnames, ⟨new, hupdate, hshape, hget, hothers [1, 1] (by decide)⟩,
    hrefused.2 (.inr ⟨_, hname, [0], _, by decide, hother, rfl⟩),
    _, _, both, hfirst, hsecond, hafter, hbefore⟩

end Form

end FormStudio
