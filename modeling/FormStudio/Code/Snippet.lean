import FormStudio.Code.Binding
import FormStudio.Code.Markup
import FormStudio.Variant.Handler

/-!
# Generated controls

The code of one control: its markup, what it imports, and lines that it needs in front of the
component or at the start of it. Each variant has a form of its own, which depends on the attributes
of the field and on the binding alone.

Main statement: `Handler.isSome_snippet?`, code is generated for every variant that is not bare.
-/
namespace FormStudio

/-- The code of a control. -/
structure Snippet where
  markup : List String
  imports : List Import
  /-- Names that are imported from the framework. -/
  frameworkNames : List String
  /-- Lines in front of the component. -/
  moduleSetup : List String
  /-- Lines at the start of the component. -/
  componentSetup : List String
  deriving DecidableEq, Repr

namespace Snippet

open Markup

/-- A snippet without further needs. -/
def plain (markup : List String) (imports : List Import) : Snippet := ⟨markup, imports, [], [], []⟩

def importsFrom (source : String) (names : List String) : List Import := names.map (⟨source, ·⟩)

/-- A snippet of one element without children. -/
def ofComponent (component : Import) (attributes : List String) : Snippet :=
  plain (void component.name attributes) [component]

/-! ## Attributes -/

/-- The identifier of the control, where the binding has one. -/
def idAttribute (binding : Binding) : List String :=
  (binding.elementId.map (expression "id")).toList

/-- The function for the moment the control is left, where the binding has one. -/
def blurAttribute (binding : Binding) : List String :=
  (binding.blur.map (expression "onBlur")).toList

def placeholderAttribute (f : Field) : List String :=
  ((Field.given? f.placeholder).map (textAttribute "placeholder")).toList

/-- The flag of a field that is switched off. -/
def disabledAttribute (f : Field) : List String := if f.disabled then ["disabled"] else []

def classAttribute (f : Field) : List String :=
  ((Field.given? f.className).map (textAttribute "className")).toList

/-- The attributes that close most controls. -/
def closingAttributes (f : Field) : List String := disabledAttribute f ++ classAttribute f

def classOr (f : Field) (standard : String) : String :=
  textAttribute "className" ((Field.given? f.className).getD standard)

def placeholderOr (f : Field) (standard : String) : String :=
  textAttribute "placeholder" ((Field.given? f.placeholder).getD standard)

/-- The current value under a name. -/
def valueAs (name : String) (binding : Binding) : String := expression name binding.value

/-- The function for new values under a name. -/
def callbackAs (name : String) (binding : Binding) : String := expression name binding.callback

/-- A function with a parameter that reports a new value. -/
def changeFrom (parameter argument : String) (binding : Binding) : String :=
  "(" ++ parameter ++ ") => " ++ binding.call argument

/-- The function for changes of a plain input. -/
def inputChange (binding : Binding) : String :=
  expression "onChange" (changeFrom "e" "e.target.value" binding)

/-! ## Texts -/

/-- One line of text. The plain input reports events, any other component values. -/
def text (inputType : String) (component : Import) (f : Field) (binding : Binding) : Snippet :=
  let reported :=
    if component.name = "Input" then
      [textAttribute "type" inputType, valueAs "value" binding, inputChange binding]
    else [valueAs "value" binding, callbackAs "onChange" binding]
  ofComponent component (idAttribute binding ++ placeholderAttribute f ++ reported ++
    blurAttribute binding ++ closingAttributes f)

/-- Several lines of text. -/
def textarea (f : Field) (binding : Binding) : Snippet :=
  ofComponent ⟨"@/components/ui/textarea", "Textarea"⟩ (idAttribute binding ++
    placeholderAttribute f ++
    [classOr f "resize-none", valueAs "value" binding, inputChange binding] ++
    blurAttribute binding ++ disabledAttribute f)

/-- A code with one slot for each digit. -/
def otp (length : Nat) (f : Field) (binding : Binding) : Snippet :=
  let slots := (List.range length).map fun i =>
    "<InputOTPSlot " ++ expression "index" (toString i) ++ " />"
  plain
    (element "InputOTP" ([expression "maxLength" (toString length), valueAs "value" binding,
      callbackAs "onChange" binding] ++ closingAttributes f) (element "InputOTPGroup" [] slots))
    (importsFrom "@/components/ui/input-otp" ["InputOTP", "InputOTPGroup", "InputOTPSlot"])

def canvasName (f : Field) : String := f.name ++ "CanvasRef"

def signature (component : Import) (canvasRef : Bool) (f : Field) (binding : Binding) : Snippet :=
  if canvasRef then
    { ofComponent component ([expression "canvasRef" (canvasName f),
        callbackAs "onSignatureChange" binding] ++ closingAttributes f) with
      frameworkNames := ["useRef"]
      componentSetup := ["const " ++ canvasName f ++ " = useRef<HTMLCanvasElement>(null);"] }
  else
    ofComponent component
      ([valueAs "value" binding, callbackAs "onChange" binding] ++ closingAttributes f)

/-! ## Choices -/

def optionsName (f : Field) : String := f.name ++ "Options"

def optionsLine (f : Field) (fallback : List String) : String :=
  "const " ++ optionsName f ++ " = " ++
    Json.literal (.arr ((f.options fallback).map .str)) ++ ";"

def anOption : String := braced "option"

/-- A part of markup for each option of a field. -/
def forOptions (f : Field) (item : List String) : List String :=
  ["\x7b" ++ optionsName f ++ ".map((option) => ("] ++ item.map ("  " ++ ·) ++ ["))\x7d"]

def optionAttributes : List String := ["key=" ++ anOption, "value=" ++ anOption]

/-- One option from a list that drops down. -/
def select (f : Field) (binding : Binding) : List String :=
  let trigger := element "SelectTrigger" []
    ["<SelectValue " ++ placeholderOr f "Select an option" ++ " />"]
  let content := element "SelectContent" []
    (forOptions f (element "SelectItem" optionAttributes [anOption]))
  element "Select" ([callbackAs "onValueChange" binding, valueAs "value" binding] ++
    closingAttributes f) (trigger ++ content)

/-- One option from a list of buttons. -/
def radio (f : Field) (binding : Binding) : List String :=
  let item := "\"" ++ f.name ++ "-\" + option"
  let row := element "div" ["key=" ++ anOption, "className=\"flex items-center space-x-3\""]
    ["<RadioGroupItem value=" ++ anOption ++ " " ++ expression "id" item ++ " />",
      "<Label " ++ expression "htmlFor" item ++ ">" ++ anOption ++ "</Label>"]
  element "RadioGroup" ([callbackAs "onValueChange" binding, valueAs "value" binding,
    classOr f "flex flex-col space-y-1"] ++ disabledAttribute f) (forOptions f row)

/-- The button that opens a list of options. -/
def comboboxButton (f : Field) (binding : Binding) : List String :=
  let placeholder := textLiteral ((Field.given? f.placeholder).getD "Select an option")
  element "Button"
    ["variant=\"outline\"", "role=\"combobox\"",
      expression "className" ("cn(\"w-[200px] justify-between\", !" ++ binding.value ++
        " && \"text-muted-foreground\")")]
    [braced (binding.value ++ " || " ++ placeholder),
      "<ChevronsUpDown className=\"ml-2 h-4 w-4 shrink-0 opacity-50\" />"]

/-- One option from a list that can be searched. -/
def combobox (f : Field) (binding : Binding) : List String :=
  let check := void "Check"
    [expression "className" ("cn(\"mr-2 h-4 w-4\", option === " ++ binding.value ++
      " ? \"opacity-100\" : \"opacity-0\")")]
  let item := element "CommandItem"
    ["value=" ++ anOption, "key=" ++ anOption,
      expression "onSelect" (changeFrom "" "option" binding)]
    (check ++ [anOption])
  let command := element "Command" []
    ("<CommandInput placeholder=\"Search...\" />" ::
      element "CommandList" [] ("<CommandEmpty>No option found.</CommandEmpty>" ::
        element "CommandGroup" [] (forOptions f item)))
  element "Popover" []
    (element "PopoverTrigger" ["asChild"] (comboboxButton f binding) ++
      element "PopoverContent" ["className=\"w-[200px] p-0\""] command)

/-- What a list that drops down imports. -/
def selectImports : List Import :=
  importsFrom "@/components/ui/select"
    ["Select", "SelectContent", "SelectItem", "SelectTrigger", "SelectValue"]

/-- What a list of buttons imports. -/
def radioImports : List Import :=
  importsFrom "@/components/ui/radio-group" ["RadioGroup", "RadioGroupItem"] ++
    [⟨"@/components/ui/label", "Label"⟩]

/-- What a panel behind a button imports. -/
def popoverImports : List Import :=
  ⟨"@/components/ui/button", "Button"⟩ ::
    importsFrom "@/components/ui/popover" ["Popover", "PopoverContent", "PopoverTrigger"]

/-- What a list that can be searched imports. -/
def comboboxImports : List Import :=
  popoverImports ++
    importsFrom "@/components/ui/command"
      ["Command", "CommandEmpty", "CommandGroup", "CommandInput", "CommandItem", "CommandList"] ++
    [⟨"@/lib/utils", "cn"⟩] ++ importsFrom "lucide-react" ["Check", "ChevronsUpDown"]

/-- One of several options. -/
def choice (style : ChoiceStyle) (fallback : List String) (f : Field) (binding : Binding) :
    Snippet :=
  let code := match style with
    | .select => plain (select f binding) selectImports
    | .radio => plain (radio f binding) radioImports
    | .combobox => plain (combobox f binding) comboboxImports
  { code with moduleSetup := [optionsLine f fallback] }

/-! ## Flags and numbers -/

def toggle (component : Import) (f : Field) (binding : Binding) : Snippet :=
  ofComponent component (idAttribute binding ++
    [valueAs "checked" binding, callbackAs "onCheckedChange" binding] ++ closingAttributes f)

def boundOr (name : String) (bound : Option Number) (standard : Int) : String :=
  expression name (bound.getD (.int standard)).literal

def number (style : NumberStyle) (f : Field) (binding : Binding) : Snippet :=
  match style with
  | .rating =>
    ofComponent ⟨"@/components/ui/rating", "Rating"⟩
      ([valueAs "value" binding, callbackAs "onChange" binding] ++
        (f.max.map fun most => expression "max" most.literal).toList ++ closingAttributes f)
  | .slider =>
    ofComponent ⟨"@/components/ui/slider", "Slider"⟩
      ([boundOr "min" f.min 0, boundOr "max" f.max 100, boundOr "step" f.step 1,
        expression "value" ("[" ++ binding.value ++ "]"),
        expression "onValueChange" (changeFrom "values" "values[0]" binding)] ++
        closingAttributes f)

/-! ## Lists -/

/-- Several options from a list. -/
def multiSelect (f : Field) (binding : Binding) : List String :=
  let trigger := element "MultiSelectorTrigger" []
    ["<MultiSelectorInput " ++ placeholderOr f "Select options" ++ " />"]
  let content := element "MultiSelectorContent" []
    (element "MultiSelectorList" []
      (forOptions f (element "MultiSelectorItem" optionAttributes [anOption])))
  element "MultiSelector"
    [valueAs "values" binding, callbackAs "onValuesChange" binding, "loop", classOr f "max-w-xs"]
    (trigger ++ content)

/-- The limits of a list of files. -/
def fileLimits : String :=
  braced " maxFiles: 5, maxSize: 1024 * 1024 * 4, multiple: true "

/-- A country and a state of it. -/
def location (binding : Binding) : List String :=
  let country := "[country?.name || \"\", \"\"]"
  let state := "[" ++ binding.value ++ "?.[0] || \"\", state?.name || \"\"]"
  void "LocationSelector"
    [expression "onCountryChange" (changeFrom "country" country binding),
      expression "onStateChange" (changeFrom "state" state binding)]

def list (style : ListStyle) (fallback : List String) (f : Field) (binding : Binding) : Snippet :=
  match style with
  | .multiSelect =>
    { plain (multiSelect f binding) (importsFrom "@/components/ui/multi-select"
        ["MultiSelector", "MultiSelectorContent", "MultiSelectorInput", "MultiSelectorItem",
          "MultiSelectorList", "MultiSelectorTrigger"]) with
      moduleSetup := [optionsLine f fallback] }
  | .tags =>
    ofComponent ⟨"@/components/ui/tags-input", "TagsInput"⟩
      ([valueAs "value" binding, callbackAs "onValueChange" binding,
        placeholderOr f "Enter your tags"] ++ closingAttributes f)
  | .file =>
    ofComponent ⟨"@/components/ui/file-upload", "FileUploader"⟩
      ([valueAs "value" binding, callbackAs "onValueChange" binding,
        expression "dropzoneOptions" fileLimits] ++ closingAttributes f)
  | .location =>
    plain (location binding) [⟨"@/components/ui/location-input", "LocationSelector"⟩]

/-! ## Dates -/

def asDate (binding : Binding) : String :=
  binding.value ++ " ? new Date(" ++ binding.value ++ ") : undefined"

/-- A function that reports a date as text. -/
def dateChange (binding : Binding) : String :=
  changeFrom "date" "date ? date.toISOString() : \"\"" binding

/-- The button that opens a calendar. -/
def dateButton (binding : Binding) : List String :=
  element "Button"
    ["variant=\"outline\"",
      expression "className" ("cn(\"w-[240px] pl-3 text-left font-normal\", !" ++ binding.value ++
        " && \"text-muted-foreground\")")]
    [braced (binding.value ++ " ? format(new Date(" ++ binding.value ++
        "), \"PPP\") : <span>Pick a date</span>"),
      "<CalendarIcon className=\"ml-auto h-4 w-4 opacity-50\" />"]

/-- A calendar behind a button. -/
def calendar (binding : Binding) : Snippet :=
  let panel := void "Calendar"
    ["mode=\"single\"", expression "selected" (asDate binding),
      expression "onSelect" (dateChange binding), "initialFocus"]
  plain
    (element "Popover" []
      (element "PopoverTrigger" ["asChild"] (dateButton binding) ++
        element "PopoverContent" ["className=\"w-auto p-0\"", "align=\"start\""] panel))
    (popoverImports ++ [⟨"@/components/ui/calendar", "Calendar"⟩, ⟨"@/lib/utils", "cn"⟩,
      ⟨"date-fns", "format"⟩, ⟨"lucide-react", "CalendarIcon"⟩])

def timeUnits (f : Field) : String :=
  if f.hour12 = some false then "[\"hours\", \"minutes\", \"seconds\"]"
  else "[\"hours\", \"minutes\", \"am/pm\"]"

def date (style : DateStyle) (f : Field) (binding : Binding) : Snippet :=
  match style with
  | .date => calendar binding
  | .datetime =>
    ofComponent ⟨"@/components/ui/datetime-picker", "DatetimePicker"⟩
      ([expression "value" (asDate binding), expression "onChange" (dateChange binding),
        expression "format" ("[[\"months\", \"days\", \"years\"], " ++ timeUnits f ++ "]")] ++
        closingAttributes f)
  | .smart =>
    ofComponent ⟨"@/components/ui/smart-datetime-input", "SmartDatetimeInput"⟩
      ([expression "value" (asDate binding), expression "onValueChange" (dateChange binding),
        placeholderOr f "e.g. Tomorrow morning 9am"] ++
        ((Field.given? f.locale).map (textAttribute "locale")).toList ++
        (f.hour12.map fun half => expression "hour12" (if half then "true" else "false")).toList ++
        closingAttributes f)

end Snippet

/-- The code of a control of a variant. -/
def Handler.snippet? (handler : Handler) (f : Field) (binding : Binding) : Option Snippet :=
  match handler with
  | .text inputType component _ => some (.text inputType component f binding)
  | .textarea => some (.textarea f binding)
  | .otp length => some (.otp length f binding)
  | .signature component canvasRef => some (.signature component canvasRef f binding)
  | .choice style fallback => some (.choice style fallback f binding)
  | .toggle component _ => some (.toggle component f binding)
  | .number style => some (.number style f binding)
  | .list style _ fallback => some (.list style fallback f binding)
  | .date style => some (.date style f binding)
  | .bare .. => none

theorem Handler.isSome_snippet? (handler : Handler) (f : Field) (binding : Binding) :
    (handler.snippet? f binding).isSome = true ↔
      ∀ pattern least most, handler ≠ .bare pattern least most := by
  cases handler <;> simp [Handler.snippet?]

end FormStudio
