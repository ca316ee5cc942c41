import FormStudio.Field.Basic
import FormStudio.Json.Display
import FormStudio.Preview.Html
import FormStudio.Variant.Handler

/-!
# Widgets of the preview

A widget shows a field with its live value: a kind, properties, and markup. The value may be
anything; what a widget cannot use it leaves out. Only the widgets that show each text of a list by
itself fail on a part that is no text, and those that show the value as a text fail on an integer
that is too long to be written.

Main statement: `Widget.render_isOk`, every other widget shows any value whose integers can be
written.
-/
namespace FormStudio

/-! ## Widgets of variants -/

/-- What shows a field. -/
inductive Widget where
  | input (type : String)
  | textarea
  | checkbox
  | switch
  | slider
  | rating
  | select (fallback : List String) (multiple : Bool)
  | radio (fallback : List String)
  | tags
  | date (withTime : Bool)
  | file
  | otp
  | location
  | signature
  deriving DecidableEq, Repr

def Handler.widget : Handler → Widget
  | .text inputType _ _ => .input inputType
  | .textarea => .textarea
  | .otp _ => .otp
  | .signature .. => .signature
  | .choice .radio fallback => .radio fallback
  | .choice _ fallback => .select fallback false
  | .toggle _ agreement => if agreement then .checkbox else .switch
  | .number .slider => .slider
  | .number .rating => .rating
  | .list .multiSelect _ fallback => .select fallback true
  | .list .tags .. => .tags
  | .list .file .. => .file
  | .list .location .. => .location
  | .date .date => .date false
  | .date _ => .date true
  | .bare .. => .textarea

/-- A field as it is shown. -/
structure Rendering where
  /-- The kind of widget. -/
  kind : String
  properties : Members
  html : Html
  deriving Repr

/-- Why a widget does not show a value. -/
inductive RenderFault where
  /-- A part of the value should be a text. -/
  | notText (part : Json)
  /-- An integer in the value has more digits than are written. -/
  | longInteger
  deriving DecidableEq, Repr

def RenderFault.message : RenderFault → String
  | .notText part => s!"'{part.typeName}' object has no attribute 'replace'"
  | .longInteger =>
    s!"Exceeds the limit ({Json.integerDigitLimit} digits) for integer string conversion; " ++
      "use sys.set_int_max_str_digits() to increase the limit"

/-! ## Values and attributes -/

/-- A live value as one text; the parts of a list are put side by side. -/
def Json.plainText : Json → String
  | .null => ""
  | .arr items => ", ".intercalate (items.map Json.display)
  | value => value.display

/-- A live value as one text, where its integers can be written. -/
def Json.shownText (value : Json) : Except RenderFault String :=
  if value.isShowable then .ok value.plainText else .error .longInteger

namespace HtmlAttribute

/-- A property as an attribute. One that is absent or not set leaves none, and one that is set is
the name alone. -/
def ofProperty? : String × Json → Option HtmlAttribute
  | (_, .null) => none
  | (_, .bool false) => none
  | (name, .bool true) => some (.flag name)
  | (name, value) => some (.pair name value.display)

def ofProperties (properties : Members) : List HtmlAttribute := properties.filterMap ofProperty?

end HtmlAttribute

namespace Widget

/-! ## Markup around a control -/

def requiredMark (f : Field) : List Html :=
  if f.isRequired then
    [.text " ", .element "span" [.pair "class" "required"] [.text "*"]]
  else []

def description (f : Field) : List Html :=
  match Field.given? f.description with
  | some text => [.element "p" [.pair "class" "description"] [.text text]]
  | none => []

/-- A field with its label and description. -/
def formItem (f : Field) (body : List Html) : Html :=
  .element "div" [.pair "class" "form-item", .pair "data-name" f.name] (body ++ description f)

/-- A control behind its label. -/
def labelled (f : Field) (control : Html) : Html :=
  formItem f
    [.element "label" [.pair "for" f.name] (.text f.displayName :: requiredMark f), control]

/-- A control inside its label. -/
def labelledInline (f : Field) (control : Html) : Html :=
  formItem f [.element "label" [.pair "class" "inline"]
    (control :: .text " " :: .text f.displayName :: requiredMark f)]

/-! ## Properties -/

/-- The properties that name a control. -/
def named (f : Field) : Members := [("id", .str f.name), ("name", .str f.name)]

/-- Whether a field is switched off. -/
def disabled (f : Field) : String × Json := ("disabled", .bool f.disabled)

def styled (f : Field) : String × Json := ("class", Json.ofOption .str f.className)

def placeholder (f : Field) : String × Json := ("placeholder", Json.ofOption .str f.placeholder)

def bound (name : String) (value : Option Number) (standard : Int) : String × Json :=
  (name, .num (value.getD (.int standard)))

/-- A field shown by an element without content, from its properties. -/
def shownByInput (kind : String) (f : Field) (properties : Members) : Rendering :=
  ⟨kind, properties, labelled f (.void "input" (HtmlAttribute.ofProperties properties))⟩

/-! ## Widgets -/

def renderInput (type : String) (f : Field) (text : String) : Rendering :=
  shownByInput ("input:" ++ type) f (named f ++
    [("type", .str type), placeholder f, ("value", .str text), disabled f,
      ("required", .bool f.isRequired), styled f])

/-- Several lines of text. -/
def renderTextarea (f : Field) (text : String) : Rendering :=
  let properties := named f ++ [placeholder f, disabled f, styled f]
  ⟨"textarea", properties, labelled f
    (.element "textarea" (HtmlAttribute.ofProperties properties) [.text text])⟩

/-- A flag, shown with a role if it has one. -/
def renderToggle (kind : String) (role : Json) (f : Field) (value : Json) : Rendering :=
  let properties := named f ++ [("type", .str "checkbox"), ("role", role),
    ("checked", .bool (decide (value = .bool true))), disabled f, styled f]
  ⟨kind, properties, labelledInline f
    (.void "input" (HtmlAttribute.ofProperties properties))⟩

/-- A number between bounds. -/
def renderSlider (f : Field) (text : String) : Rendering :=
  shownByInput "slider" f (named f ++
    [("type", .str "range"), bound "min" f.min 0, bound "max" f.max 100, bound "step" f.step 1,
      ("value", .str text), disabled f, styled f])

def mostStars : Int := 10

/-- The count of stars of a field without an upper bound. -/
def standardStars : Int := 5

def wholePart : Number → Int
  | .int i => i
  | .float x => x.truncate

/-- The number that a live value stands for; a flag is one or zero. -/
def rated : Json → Number
  | .num n => n
  | .bool true => .int 1
  | _ => .zero

/-- The live value of a rating, where it is one. -/
def currentRating : Json → Json
  | .num n => .num n
  | .bool b => .bool b
  | _ => .int 0

def star (current : Number) (i : Nat) : Html :=
  -- up to an undefined number no star is filled
  let filled := current.place?.isSome && Number.le (.int i) current
  .element "button"
    [.pair "type" "button", .pair "class" (if filled then "star filled" else "star"),
      .pair "data-value" (toString i)]
    [.symbol 9733]

/-- A number as stars, or as a plain number where there would be none or too many. -/
def renderRating (f : Field) (value : Json) : Except RenderFault Rendering :=
  let most := (f.max.map wholePart).getD standardStars
  if 1 ≤ most ∧ most ≤ mostStars then
    let stars := (List.range most.toNat).map fun i => star (rated value) (i + 1)
    .ok ⟨"rating", named f ++ [("max", .int most), ("value", currentRating value)],
      labelled f (.element "div" [.pair "class" "rating", .pair "id" f.name] stars)⟩
  else
    -- only here is the value written as a text, which may be too long
    value.shownText.map fun text =>
      shownByInput "rating" f (named f ++
        [("type", .str "number"), ("min", .int 0), ("max", .int most), ("step", .int 1),
          ("value", .str text), disabled f, styled f])

/-- The values that are selected. -/
def selection : Json → List Json
  | .arr items => items
  | value => [value]

def optionElement (selected : List Json) (option : String) : Html :=
  .element "option"
    (.pair "value" option :: if .str option ∈ selected then [.flag "selected"] else [])
    [.text option]

/-- The placeholder of a list, which cannot be chosen. -/
def placeholderOption (f : Field) : List Html :=
  match Field.given? f.placeholder with
  | some text => [.element "option" [.pair "value" "", .flag "disabled"] [.text text]]
  | none => []

def optionsProperty (options : List String) : String × Json :=
  ("options", .arr (options.map .str))

/-- One or several options from a list. -/
def renderSelect (fallback : List String) (multiple : Bool) (f : Field) (value : Json) :
    Rendering :=
  let options := f.options fallback
  let properties := named f ++ [("multiple", .bool multiple), disabled f, styled f]
  let items := (if multiple then [] else placeholderOption f) ++
    options.map (optionElement (selection value))
  ⟨if multiple then "multi_select" else "select", properties ++ [optionsProperty options],
    labelled f (.element "select" (HtmlAttribute.ofProperties properties) items)⟩

def radioItem (f : Field) (value : Json) (option : String) : Html :=
  let itemId := f.name ++ "-" ++ option
  .element "label" [.pair "for" itemId]
    [.void "input" (HtmlAttribute.ofProperties
      [("type", .str "radio"), ("id", .str itemId), ("name", .str f.name), ("value", .str option),
        ("checked", .bool (decide (value = .str option))), disabled f]),
      .text " ", .text option]

/-- One option from a list of buttons. -/
def renderRadio (fallback : List String) (f : Field) (value : Json) : Rendering :=
  let options := f.options fallback
  ⟨"radio", [("name", .str f.name), optionsProperty options],
    labelled f (.element "div" [.pair "class" "radio-group", .pair "role" "radiogroup"]
      (options.map (radioItem f value)))⟩

/-- The items of a list; any other value has none. -/
def listed : Json → List Json
  | .arr items => items
  | _ => []

def textItem : Json → Except RenderFault String
  | .str s => .ok s
  | item => .error (.notText item)

def tag (text : String) : Html := .element "span" [.pair "class" "tag"] [.text text]

/-- A list of texts that are entered one by one. -/
def renderTags (f : Field) (value : Json) : Except RenderFault Rendering := do
  let texts ← (listed value).mapM textItem
  let properties := named f ++ [("type", .str "text"),
    ("placeholder", .str ((Field.given? f.placeholder).getD "Enter your tags")), disabled f]
  .ok ⟨"tags", properties ++ [("tags", .arr (texts.map .str))],
    labelled f (.element "div" [.pair "class" "tags-input"]
      (texts.map tag ++ [.void "input" (HtmlAttribute.ofProperties properties)]))⟩

def renderDate (withTime : Bool) (f : Field) (text : String) : Rendering :=
  let half := Json.ofOption (fun h => .str (if h then "true" else "false")) f.hour12
  shownByInput (if withTime then "datetime" else "date") f (named f ++
    [("type", .str (if withTime then "datetime-local" else "date")),
      ("value", .str text), ("lang", Json.ofOption .str f.locale),
      ("data-hour12", half), disabled f, styled f])

/-- A choice of files. -/
def renderFile (f : Field) : Rendering :=
  shownByInput "file" f (named f ++ [("type", .str "file"), ("multiple", .bool true), disabled f])

/-- The slot for one character of a code. -/
def otpSlot (text : List Char) (i : Nat) : Html :=
  .void "input" [.pair "class" "otp-slot", .pair "maxlength" "1",
    .pair "value" (String.ofList (text[i]?.toList))]

/-- A code with a slot for each character. -/
def renderOtp (f : Field) (text : String) : Rendering :=
  ⟨"otp", named f ++ [("maxLength", .int Handler.otpLength), ("value", .str text)],
    labelled f (.element "div" [.pair "class" "otp", .pair "id" f.name]
      ((List.range Handler.otpLength).map (otpSlot text.toList)))⟩

def placeInput (f : Field) (part hint text : String) : Html :=
  .void "input" [.pair "name" (f.name ++ "-" ++ part), .pair "placeholder" hint,
    .pair "value" text]

/-- A country and a state of it. -/
def renderLocation (f : Field) (value : Json) : Except RenderFault Rendering := do
  let country ← textItem ((listed value)[0]?.getD (.str ""))
  let state ← textItem ((listed value)[1]?.getD (.str ""))
  .ok ⟨"location", named f ++ [("country", .str country), ("state", .str state)],
    labelled f (.element "div" [.pair "class" "location", .pair "id" f.name]
      [placeInput f "country" "Country" country, placeInput f "state" "State" state])⟩

def renderSignature (f : Field) (value : Json) : Rendering :=
  let properties := named f ++ [("width", .int 400), ("height", .int 150)]
  let signed := if value.isTruthy then "true" else "false"
  ⟨"signature", properties, labelled f
    (.element "canvas"
      (HtmlAttribute.ofProperties properties ++ [.pair "data-signature" signed]) [])⟩

/-- Shows a field with its live value, where that can be shown. -/
def render (widget : Widget) (f : Field) (value : Json) : Except RenderFault Rendering :=
  match widget with
  | .input type => value.shownText.map (renderInput type f)
  | .textarea => value.shownText.map (renderTextarea f)
  | .checkbox => .ok (renderToggle "checkbox" .null f value)
  | .switch => .ok (renderToggle "switch" (.str "switch") f value)
  | .slider => value.shownText.map (renderSlider f)
  | .rating => renderRating f value
  | .select fallback multiple => .ok (renderSelect fallback multiple f value)
  | .radio fallback => .ok (renderRadio fallback f value)
  | .tags => renderTags f value
  | .date withTime => value.shownText.map (renderDate withTime f)
  | .file => .ok (renderFile f)
  | .otp => value.shownText.map (renderOtp f)
  | .location => renderLocation f value
  | .signature => .ok (renderSignature f value)

theorem render_isOk {widget : Widget} (tags : widget ≠ .tags) (location : widget ≠ .location)
    (f : Field) {value : Json} (h : value.isShowable = true) :
    ∃ rendering, widget.render f value = .ok rendering := by
  have htext : value.shownText = .ok value.plainText := if_pos h
  cases widget with
  | tags => exact absurd rfl tags
  | location => exact absurd rfl location
  | rating =>
    simp only [render, renderRating, htext, Except.map]
    split <;> exact ⟨_, rfl⟩
  | _ =>
    simp only [render, htext, Except.map]
    exact ⟨_, rfl⟩

end Widget

end FormStudio
