import FormStudio.Code.Component
import FormStudio.Proofs.Session.Run

/-!
# The names of the fields

No two fields of a reachable form share a name: a new name is fresh, a changed name is free, and of
two equal names in a text the second is refused. Every name is an identifier, up to one line break
that the check of a name lets stand behind it. Where no name ends in a line break, each place in the
generated code that uses a name bare holds one identifier there (`Field.NamesAreTokens`).
-/
namespace FormStudio

namespace Form

/-! ## Names differ -/

theorem names_append_field (form : Form) (f : Field) :
    names (form ++ [.field f]) = form.names ++ [f.name] := by
  simp [names]

/-- The name of a new field is the one that was drawn for it. -/
theorem name_of_newFieldMembers {variant name : String} {index : Json} {f : Field}
    (h : Field.readMembers .either (newFieldMembers variant index name) = .good f) :
    f.name = name :=
  (Field.readMembers_eq_good_iff.1 h).name_eq (by simp [newFieldMembers])

/-- One name among others may be replaced by one that is not there. -/
theorem nodup_replace {pre post : List String} {old new : String}
    (h : (pre ++ old :: post).Nodup) (hnew : new = old ∨ new ∉ pre ++ old :: post) :
    (pre ++ new :: post).Nodup := by
  rcases hnew with rfl | hnew
  · exact h
  · obtain ⟨hpre, hpost, hdisjoint⟩ := List.nodup_append.1 h
    simp only [List.mem_append, List.mem_cons, not_or] at hnew
    obtain ⟨hnew₁, -, hnew₂⟩ := hnew
    refine List.nodup_append.2 ⟨hpre, List.nodup_cons.2 ⟨hnew₂, (List.nodup_cons.1 hpost).2⟩, ?_⟩
    intro a ha b hb
    rcases List.mem_cons.1 hb with rfl | hb
    · rintro rfl
      exact hnew₁ ha
    · exact hdisjoint a ha b (List.mem_cons_of_mem _ hb)

/-- **Every change keeps the names different.** -/
theorem Change.names_nodup {form new : Form} {op : Operation} (h : Change form op new)
    (hnames : form.names.Nodup) : new.names.Nodup := by
  cases h with
  | added fresh read =>
    rw [names_append_field, name_of_newFieldMembers read]
    refine List.nodup_append.2 ⟨hnames, by simp, ?_⟩
    rintro a ha b hb rfl
    exact fresh (List.mem_singleton.1 hb ▸ ha)
  | updated merges before merge name after =>
    rw [names, before, List.map_append, List.map_cons] at hnames
    rw [names, after, List.map_append, List.map_cons]
    rw [names, before, List.map_append, List.map_cons] at name
    exact nodup_replace hnames name
  | removed fewer => exact (fewer.map Field.name).nodup hnames
  | reset => exact List.nodup_nil
  | imported h => exact names_nodup_of_ofText h

/-- **No two fields share a name**, in every form that is reached and in every session on it. -/
theorem names_nodup_of_reachable {form : Form} (h : form.Reachable fun _ => True) :
    form.names.Nodup ∧
      ∀ (studio : Studio) (session : Session) (commands : List Command), session.form = form →
        (session.run studio commands).form.names.Nodup := by
  have hall : ∀ {form : Form}, (form.Reachable fun _ => True) → form.names.Nodup :=
    Reachable.induction (P := fun form => form.names.Nodup) List.nodup_nil names_nodup_of_ofText
      fun _ hnames hchange => hchange.names_nodup hnames
  refine ⟨hall h, ?_⟩
  rintro studio session commands rfl
  exact hall (Session.reachable_run studio session commands h)

end Form

/-- A text input with a name and nothing else. -/
def Field.named (name : String) : Field where
  variant := "Input"
  name := name
  label := ""
  type := ""
  description := none
  placeholder := none
  value := none
  checked := true
  disabled := false
  required := none
  min := none
  max := none
  step := none
  locale := none
  hour12 := none
  className := none
  rowIndex := none
  extras := []

namespace Form

theorem names_nodup_of_two_inputs :
    (names [.field (.named "a"), .group [.named "b"]]).Nodup :=
  have himport : ofText ("[\x7b\"variant\":\"Input\",\"name\":\"a\"\x7d," ++
      "[\x7b\"variant\":\"Input\",\"name\":\"b\"\x7d]]") =
        .ok [.field (.named "a"), .group [.named "b"]] :=
    toOption_eq_some_iff.1 (by decide +kernel)
  (names_nodup_of_reachable (.imported himport)).1

end Form

/-! ## Names are identifiers, but for a line break -/

theorem isFieldName_iff {name : String} :
    isFieldName name = true ↔ ∃ stem, isIdentifier stem = true ∧
      (name.toList = stem ∨ name.toList = stem ++ ['\n']) := by
  unfold isFieldName
  simp only [Bool.or_eq_true, Bool.and_eq_true, beq_iff_eq]
  constructor
  · rintro (h | ⟨hlast, h⟩)
    · exact ⟨_, h, .inl rfl⟩
    · obtain ⟨stem, hstem⟩ := List.getLast?_eq_some_iff.1 hlast
      rw [hstem, List.dropLast_concat] at h
      exact ⟨stem, h, .inr hstem⟩
  · rintro ⟨stem, h, rfl | hname⟩
    · exact .inl h
    · rw [hname]
      exact .inr ⟨by simp, by simpa using h⟩

theorem isNameChar_of_isIdentifier {cs : List Char} (h : isIdentifier cs = true) :
    ∀ c ∈ cs, isNameChar c = true := by
  obtain ⟨first, rest, rfl, hfirst, hrest⟩ := isIdentifier_iff.1 h
  intro c hc
  rcases List.mem_cons.1 hc with rfl | hc
  · simp only [isNameStart, isNameChar, Char.isAlphanum, Bool.or_eq_true] at hfirst ⊢
    exact hfirst.imp_left .inl
  · exact hrest c hc

/-- A text that is accepted as a name is an identifier unless it ends in a line break. -/
theorem isIdentifier_iff_of_isFieldName {name : String} (h : isFieldName name = true) :
    isIdentifier name.toList = true ↔ name.toList.getLast? ≠ some '\n' := by
  constructor
  · intro hid hlast
    have hbreak := isNameChar_of_isIdentifier hid '\n' (List.mem_of_getLast? hlast)
    exact absurd hbreak (by decide)
  · intro hlast
    obtain ⟨stem, hstem, hname | hname⟩ := isFieldName_iff.1 h
    · rwa [hname]
    · exact absurd (by rw [hname]; simp) hlast

theorem isIdentifier_append {cs more : List Char} (h : isIdentifier cs = true)
    (hmore : more.all isNameChar = true) : isIdentifier (cs ++ more) = true := by
  obtain ⟨first, rest, rfl, hfirst, hrest⟩ := isIdentifier_iff.1 h
  exact isIdentifier_iff.2 ⟨first, rest ++ more, rfl, hfirst,
    fun c hc => (List.mem_append.1 hc).elim (hrest c) (List.all_eq_true.1 hmore c)⟩

/-! ## Names in generated code -/

/-- A word that is one identifier in a line of code: nothing in front of it or behind it can be
part of it. -/
structure IsTokenIn (line : String) (before word after : List Char) : Prop where
  line_eq : line.toList = before ++ word ++ after
  identifier : isIdentifier word = true
  before : before.getLast?.any isNameChar = false
  after : after.head?.any isNameChar = false

/-- **The bare uses of a name** in generated code are one identifier each: the key of the schema,
the value in the plain state, the options, the canvas, and the attribute that names the field. -/
structure Field.NamesAreTokens (f : Field) : Prop where
  schemaKey : ∀ (rule : Rule) (line : String), rule.name = f.name → rule.declarationLine = .ok line →
    ∃ after, IsTokenIn line [' ', ' '] f.name.toList after
  value : IsTokenIn (PlainState.binding f).value "values.".toList f.name.toList []
  options : ∀ fallback, ∃ after,
    IsTokenIn (Snippet.optionsLine f fallback) "const ".toList
      (f.name.toList ++ "Options".toList) after
  canvas : IsTokenIn (Snippet.canvasName f) [] (f.name.toList ++ "CanvasRef".toList) []
  nameAttribute : IsTokenIn (Wiring.nameAttribute f) "name=\"".toList f.name.toList ['"']

theorem Field.namesAreTokens_of_isIdentifier {f : Field}
    (h : isIdentifier f.name.toList = true) : f.NamesAreTokens where
  schemaKey rule line hname hline := by
    unfold Rule.declarationLine at hline
    obtain ⟨text, -, hline⟩ := bind_eq_ok_iff.1 hline
    cases hline
    refine ⟨(": " ++ text ++ ",").toList, ?_, h, by decide, ?_⟩
    · simp [hname]
    · simp
      decide
  value := ⟨by simp [PlainState.binding], h, by decide, by simp⟩
  options fallback := by
    refine ⟨(" = " ++ Json.literal (.arr ((f.options fallback).map .str)) ++ ";").toList, ?_,
      isIdentifier_append h (by decide), by decide, ?_⟩
    · simp [Snippet.optionsLine, Snippet.optionsName]
    · simp
      decide
  canvas := ⟨by simp [Snippet.canvasName], isIdentifier_append h (by decide), by simp, by simp⟩
  nameAttribute := ⟨by simp [Wiring.nameAttribute, Markup.plainText], h, by decide, by decide⟩

namespace Form

/-- The names of an imported form are accepted. -/
theorem isFieldName_of_ofText {text : String} {form : Form} (h : ofText text = .ok form) :
    ∀ f ∈ form.fields, isFieldName f.name = true := by
  intro f hf
  obtain ⟨members, hmembers, -⟩ := exists_members_of_ofText h hf
  exact (Field.readMembers_eq_good_iff.1 hmembers).isFieldName

theorem isFieldName_of_reachable {form : Form} (h : form.Reachable fun _ => True) :
    ∀ f ∈ form.fields, isFieldName f.name = true := by
  have hread : ∀ {spelling members} {f : Field}, Field.readMembers spelling members = .good f →
      isFieldName f.name = true :=
    fun h => (Field.readMembers_eq_good_iff.1 h).isFieldName
  refine h.induction (P := fun form => ∀ f ∈ form.fields, isFieldName f.name = true) (by simp)
    isFieldName_of_ofText fun _ hnames hchange => ?_
  exact hchange.forall_fields hnames (fun _ => hread)
    (fun _ hmerge _ => hread (Field.merge_eq_ok_iff.1 hmerge)) isFieldName_of_ofText

/-- **Names are identifiers up to a line break.** The name of a field that is reached is an
identifier, or an identifier and a line break behind it; its bare uses in generated code are one
identifier each exactly when there is no line break. -/
theorem namesAreTokens_iff_of_reachable {form : Form} (h : form.Reachable fun _ => True) {f : Field}
    (hf : f ∈ form.fields) :
    (∃ stem, isIdentifier stem = true ∧
      (f.name.toList = stem ∨ f.name.toList = stem ++ ['\n'])) ∧
      (f.NamesAreTokens ↔ f.name.toList.getLast? ≠ some '\n') := by
  have hname := isFieldName_of_reachable h f hf
  refine ⟨isFieldName_iff.1 hname, ?_⟩
  rw [← isIdentifier_iff_of_isFieldName hname]
  exact ⟨fun h => h.value.identifier, Field.namesAreTokens_of_isIdentifier⟩

theorem not_namesAreTokens_of_line_break :
    isFieldName "a\n" = true ∧ ¬ (Field.named "a\n").NamesAreTokens := by
  have himport : ofText "[\x7b\"variant\":\"Input\",\"name\":\"a\\n\"\x7d]" =
      .ok [.field (.named "a\n")] := toOption_eq_some_iff.1 (by decide +kernel)
  have hiff := (namesAreTokens_iff_of_reachable (.imported himport)
    (f := .named "a\n") (by simp)).2
  exact ⟨by decide, fun h => hiff.1 h (by decide)⟩

end Form

end FormStudio
