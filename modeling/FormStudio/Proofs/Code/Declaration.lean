import FormStudio.Proofs.Code.Zod
import FormStudio.Proofs.Review
import FormStudio.Proofs.Rule.Translation

/-!
# What a declared validator accepts

A declaration is an object of keys and chains (`Spec.declaration_eq_ok_iff`), and the object accepts
answers when each chain accepts the answer under its key; other answers are free
(`ZodObject.Accepts`). So a generated form accepts what the live check accepts
(`Form.declaration_accepts`), with two exceptions: a name that ends in a line break is read as a key
without it, and a whole binary step is written as an integer, which divides other numbers
(`Form.declaration_blind_to_step`).
-/
namespace FormStudio

/-! ## Declared objects -/

/-- The key that a written name is: the identifier that it begins with. -/
def Script.key (name : String) : String := String.ofList (name.toList.takeWhile isNameChar)

/-- A name is its own key, unless it ends in a line break. -/
theorem Script.key_eq_self_iff {name : String} (h : isFieldName name = true) :
    key name = name ↔ name.toList.getLast? ≠ some '\n' := by
  rw [← isIdentifier_iff_of_isFieldName h, key, ← String.toList_inj, String.toList_ofList]
  constructor
  · intro hkey
    rw [isIdentifier_iff_of_isFieldName h]
    intro hlast
    have hbreak := List.mem_of_getLast? hlast
    rw [← hkey] at hbreak
    exact absurd (List.all_eq_true.1 List.all_takeWhile _ hbreak) (by decide)
  · intro hid
    have hall : (name.toList ++ []).takeWhile isNameChar = name.toList ++ [].takeWhile isNameChar :=
      List.takeWhile_append_of_pos (isNameChar_of_isIdentifier hid)
    rwa [List.append_nil, List.takeWhile_nil, List.append_nil] at hall

/-- The entries of a declared object: names as they are written, with their chains. -/
abbrev ZodObject := List (String × Zod)

namespace ZodObject

/-- The lines that declare an object under a name. -/
def lines (object : ZodObject) (constant : String) : List String :=
  let opening := "const " ++ constant ++ " = z.object("
  match object with
  | [] => [opening ++ "\x7b\x7d);"]
  | entries => [opening ++ "\x7b"] ++
      entries.map (fun (name, chain) => "  " ++ name ++ ": " ++ chain.text ++ ",") ++ ["\x7d);"]

/-- Whether an object accepts answers: each of its keys is checked, and no other. Of entries with
one key the last counts. -/
def Accepts (object : ZodObject) (data : Members) : Prop :=
  ∀ entry ∈ Table.ofPairs (object.map fun (name, chain) => (Script.key name, chain)),
    entry.2.Accepts (data.get? entry.1)

end ZodObject

namespace Spec

/-- The object that is declared for the rules of a form. -/
def zodObject (spec : Spec) : Derived ZodObject :=
  spec.rules.mapM fun rule => do .ok (rule.name, ← rule.zod)

variable {spec : Spec} {object : ZodObject} {data : Members}

/-- **A declaration** is the text of an object. -/
theorem declaration_eq_ok_iff {constant : String} {lines : List String} :
    spec.declaration constant = .ok lines ↔
      ∃ object, spec.zodObject = .ok object ∧ lines = object.lines constant := by
  have hline : Rule.declarationLine = fun rule =>
      (do .ok (rule.name, ← rule.zod) : Derived (String × Zod)) >>= fun (name, chain) =>
        .ok ("  " ++ name ++ ": " ++ chain.text ++ ",") := by
    funext rule
    unfold Rule.declarationLine Rule.zodText
    cases rule.zod <;> rfl
  have hall : spec.declaration constant = spec.zodObject >>= fun object =>
      .ok (object.lines constant) := by
    obtain ⟨rules⟩ := spec
    cases rules with
    | nil => rfl
    | cons rule rules =>
      show ((rule :: rules).mapM Rule.declarationLine >>= _) = _
      rw [hline, mapM_bind_ok, zodObject, List.mapM_cons]
      cases rule.zod with
      | error e => rfl
      | ok chain =>
        rw [ok_bind, ok_bind]
        cases (rules.mapM fun rule => do .ok (rule.name, ← rule.zod) : Derived ZodObject) <;> rfl
  rw [hall, bind_eq_ok_iff]
  exact exists_congr fun object => and_congr_right' ⟨fun h => (Except.ok.inj h).symm,
    fun h => h ▸ rfl⟩

theorem names_of_zodObject (h : spec.zodObject = .ok object) :
    object.map Prod.fst = spec.fieldNames := by
  refine map_of_mapM_eq_ok h fun rule entry hentry => ?_
  obtain ⟨chain, -, hentry⟩ := bind_eq_ok_iff.1 hentry
  cases hentry
  rfl

/-- **A declared object** whose names are their own keys accepts the answers each rule admits. -/
theorem accepts_zodObject_iff (h : spec.zodObject = .ok object) (hnames : spec.fieldNames.Nodup)
    (hkeys : ∀ name ∈ spec.fieldNames, Script.key name = name)
    (hfinite : ∀ rule ∈ spec.rules, rule.kind = .number → rule.HasFiniteBounds)
    (hmoderate : ∀ rule ∈ spec.rules, rule.HasModerate (data.get? rule.name)) :
    object.Accepts data ↔ ∀ rule ∈ spec.rules, rule.Admits (data.get? rule.name) := by
  -- keys stay apart as names do, so that no entry takes the place of another
  have hentries : object.map (fun (name, chain) => (Script.key name, chain)) = object := by
    refine (List.map_congr_left fun entry hentry => ?_).trans (List.map_id object)
    have hname : entry.1 ∈ spec.fieldNames :=
      names_of_zodObject h ▸ List.mem_map_of_mem (f := Prod.fst) hentry
    exact Prod.ext (hkeys entry.1 hname) rfl
  unfold ZodObject.Accepts
  rw [hentries, Table.ofPairs_of_nodup (by rwa [Table.keys, names_of_zodObject h])]
  obtain ⟨hall, hfrom⟩ := of_mapM_eq_ok h
  constructor
  · intro haccepts rule hrule
    obtain ⟨entry, hentry, hzod⟩ := hall rule hrule
    obtain ⟨chain, hchain, hentry'⟩ := bind_eq_ok_iff.1 hzod
    cases hentry'
    exact (rule.zod_accepts_iff hchain (hfinite rule hrule) (hmoderate rule hrule)).1
      (haccepts _ hentry)
  · intro hadmits entry hentry
    obtain ⟨rule, hrule, hzod⟩ := hfrom entry hentry
    obtain ⟨chain, hchain, hentry'⟩ := bind_eq_ok_iff.1 hzod
    cases hentry'
    exact (Rule.zod_accepts_iff hchain (hfinite rule hrule) (hmoderate rule hrule)).2
      (hadmits rule hrule)

end Spec

/-! ## Declarations of forms -/

namespace Form

variable {text : String} {form : Form}

/-- The bounds of an imported form are finite. -/
theorem hasFiniteBounds_of_ofText (himport : ofText text = .ok form) (variants : VariantTable)
    {f : Field} (hf : f ∈ form.fields) (hnumber : f.AsksForNumber variants) :
    (f.rule variants).HasFiniteBounds := by
  obtain ⟨members, hread, hreadable⟩ := exists_members_of_ofText himport hf
  have hread := Field.readMembers_eq_good_iff.1 hread
  have hvalues := (Json.isReadable_obj_iff.1 hreadable).2
  have hfinite : ∀ {key : String} {n : Number}, (key, Json.num n) ∈ members →
      n.isFinite = true := by
    intro key n hmem
    have hn : Json.isReadableNumber n = true := hvalues _ hmem
    cases n with
    | int i => rfl
    | float x => exact hn
  obtain ⟨hmin, hmax, hstep⟩ := Field.bounds_rule hnumber
  exact ⟨fun n hn => hfinite (Field.reads_number.mem_of_optional (hmin.symm.trans hn ▸ hread.min)),
    fun n hn => hfinite (Field.reads_number.mem_of_optional (hmax.symm.trans hn ▸ hread.max)),
    fun n hn => hfinite (Field.reads_number.mem_of_optional (hstep.symm.trans hn ▸ hread.step))⟩

/-- **A generated form accepts what the live check accepts.** The declaration of an imported form is
the text of an object, and the object accepts exactly the answers that are valid, if no name ends in
a line break and the numbers that are divided by whole binary steps are moderate. -/
theorem declaration_accepts {variants : VariantTable} {constant : String} {lines : List String}
    {data : Members} {result : Validation} (himport : ofText text = .ok form)
    (hdeclared : (form.spec variants).declaration constant = .ok lines)
    (hresult : (form.spec variants).validate data = .ok result)
    (hnames : ∀ f ∈ form.fields, f.name.toList.getLast? ≠ some '\n')
    (hmoderate : ∀ f ∈ form.fields, (f.rule variants).HasModerate (data.get? f.name)) :
    ∃ object, (form.spec variants).zodObject = .ok object ∧ lines = object.lines constant ∧
      (object.Accepts data ↔ result.isValid = true) := by
  obtain ⟨object, hobject, hlines⟩ := Spec.declaration_eq_ok_iff.1 hdeclared
  refine ⟨object, hobject, hlines, ?_⟩
  have hnodup : (form.spec variants).fieldNames.Nodup := by
    rw [spec_fieldNames]
    exact names_nodup_of_ofText himport
  rw [Spec.isValid_iff_accepts hresult, Spec.accepts_toSchema_iff hnodup]
  refine Spec.accepts_zodObject_iff hobject hnodup ?_ ?_ ?_
  · rw [spec_fieldNames]
    refine List.forall_mem_map.2 fun f hf => ?_
    exact (Script.key_eq_self_iff (isFieldName_of_ofText himport f hf)).2 (hnames f hf)
  · exact List.forall_mem_map.2 fun f hf => hasFiniteBounds_of_ofText himport variants hf
  · refine List.forall_mem_map.2 fun f hf => ?_
    rw [Field.name_rule]
    exact hmoderate f hf

end Form

/-- A slider with a step and nothing else. -/
def Field.stepped (step : Number) : Field :=
  { Field.named "a" with variant := "Slider", step := some step }

namespace Form

theorem declaration_accepts_multiple :
    let spec := Form.spec Handler.builtin [.field (.stepped (.float (.ofDecimal false 3 0)))]
    ∃ object, spec.zodObject = .ok object ∧ object.Accepts [("a", .int 6)] := by
  intro spec
  have himport : ofText "[\x7b\"variant\":\"Slider\",\"name\":\"a\",\"step\":3.0\x7d]" =
      .ok [.field (.stepped (.float (.ofDecimal false 3 0)))] :=
    toOption_eq_some_iff.1 (by decide +kernel)
  have hdeclares : (spec.declaration "formSchema").toOption.isSome = true := by decide +kernel
  have hvalid : (spec.validate [("a", .int 6)]).toOption.map Validation.isValid = some true := by
    decide +kernel
  obtain ⟨lines, hlines⟩ := Option.isSome_iff_exists.1 hdeclares
  obtain ⟨result, hresult, hvalid⟩ := Option.map_eq_some_iff.1 hvalid
  obtain ⟨object, hobject, -, hiff⟩ := declaration_accepts himport (toOption_eq_some_iff.1 hlines)
    (toOption_eq_some_iff.1 hresult) (by decide) (by
      intro f hf x n _ _ hn
      obtain rfl : f = _ := List.mem_singleton.1 hf
      cases hn
      exact Number.isModerate_int (by decide))
  exact ⟨object, hobject, hiff.2 hvalid⟩

/-- **A declaration does not show how a step is spelled**, but the live check goes by it: of steps
with one value, an integer refuses a number that the binary number accepts. -/
theorem declaration_blind_to_step :
    let spec (step : Number) := Form.spec Handler.builtin [.field (.stepped step)]
    let large : Json := .num (.float (.ofDecimal false 1 17))
    (∃ lines, (spec (.int 3)).declaration "formSchema" = .ok lines ∧
      (spec (.float (.ofDecimal false 3 0))).declaration "formSchema" = .ok lines) ∧
      ((spec (.int 3)).validate [("a", large)]).toOption.map Validation.isValid = some false ∧
      ((spec (.float (.ofDecimal false 3 0))).validate [("a", large)]).toOption.map
        Validation.isValid = some true := by
  intro spec large
  have hsame : ((spec (.int 3)).declaration "formSchema").toOption =
      ((spec (.float (.ofDecimal false 3 0))).declaration "formSchema").toOption := by
    decide +kernel
  have hdeclares : ((spec (.int 3)).declaration "formSchema").toOption.isSome = true := by
    decide +kernel
  obtain ⟨lines, hlines⟩ := Option.isSome_iff_exists.1 hdeclares
  exact ⟨⟨lines, toOption_eq_some_iff.1 hlines, toOption_eq_some_iff.1 (hsame ▸ hlines)⟩,
    by decide +kernel, by decide +kernel⟩

end Form

end FormStudio
