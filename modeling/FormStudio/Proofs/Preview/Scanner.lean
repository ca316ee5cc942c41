import FormStudio.Preview.Html
import FormStudio.Proofs.Json.Numeral

/-!
# Reading markup

A scanner of markup, one character after the other (`Html.step`). It knows tags with double-quoted
values of attributes, text, and character references in both; anything else stops it, a `<`, a `>` or
a `"` in a text or a value as much as an `&` that begins no reference. Tags are nested when each is
closed by its own closing tag, the last one first (`Html.nest`).

A tree whose tags and attributes have names of the vocabulary is read back from its text
(`Html.scan_write`): its own tags, and its texts and values character for character. And its tags
are nested (`Html.nest_events`).
-/
namespace FormStudio

namespace Html

/-! ## What is read -/

/-- What a scanner of markup meets. -/
inductive Event where
  | opening (tag : String) (attributes : List HtmlAttribute)
  | closing (tag : String)
  | char (c : Char)
  deriving DecidableEq, Repr

/-- The characters of names. -/
def isNameChar (c : Char) : Bool := c.isAlphanum || c == '-'

/-- The characters between the marks of a reference. -/
def isReferenceChar (c : Char) : Bool := c.isAlphanum || c == '#'

/-- The character with a number, in hexadecimal digits behind an `x` or in decimal ones. -/
def numbered? : List Char → Option Char
  | 'x' :: d :: ds => ((d :: ds).mapM Json.hexValue?).map fun values =>
    Char.ofNat (values.foldl (fun n value => n * 16 + value) 0)
  | d :: ds =>
    if (d :: ds).all Char.isDigit then some (Char.ofNat (Json.ofDigits (d :: ds))) else none
  | [] => none

/-- The character that a reference stands for, without the marks around it. -/
def referenced? : List Char → Option Char
  | ['a', 'm', 'p'] => some '&'
  | ['l', 't'] => some '<'
  | ['g', 't'] => some '>'
  | ['q', 'u', 'o', 't'] => some '"'
  | '#' :: number => numbered? number
  | _ => none

/-- Where characters are read that stand for themselves: between tags, or in the value of an
attribute of a tag, behind other attributes. -/
inductive Place where
  | text
  | value (tag : String) (before : List HtmlAttribute) (name : String) (read : List Char)

/-- Where a scanner stands. -/
inductive Mode where
  | inside (place : Place)
  | reference (place : Place) (read : List Char)
  /-- Behind a `<`. -/
  | tag
  | opening (read : List Char)
  | closing (read : List Char)
  | attribute (tag : String) (before : List HtmlAttribute) (read : List Char)
  /-- Behind a `=`. -/
  | quote (tag : String) (before : List HtmlAttribute) (name : String)
  /-- Behind a value. -/
  | behind (tag : String) (attributes : List HtmlAttribute)

/-- Takes a character in. -/
def Place.put : Place → Char → List Event × Mode
  | .text, c => ([.char c], .inside .text)
  | .value tag before name read, c => ([], .inside (.value tag before name (read ++ [c])))

/-- Where a name may end. -/
def endName (read : List Char) (next : String → List Event × Mode) : Option (List Event × Mode) :=
  if read = [] then none else some (next (String.ofList read))

/-- Takes one character. -/
def step : Mode → Char → Option (List Event × Mode)
  | .inside place, '&' => some ([], .reference place [])
  | .inside .text, '<' => some ([], .tag)
  | .inside (.value tag before name read), '"' =>
    some ([], .behind tag (before ++ [.pair name (String.ofList read)]))
  | .inside place, c => if c = '<' ∨ c = '>' ∨ c = '"' then none else some (place.put c)
  | .reference place read, ';' => (referenced? read).map place.put
  | .reference place read, c =>
    if isReferenceChar c then some ([], .reference place (read ++ [c])) else none
  | .tag, '/' => some ([], .closing [])
  | .tag, c => if c.isAlpha then some ([], .opening [c]) else none
  | .opening read, '>' => endName read fun tag => ([.opening tag []], .inside .text)
  | .opening read, ' ' => endName read fun tag => ([], .attribute tag [] [])
  | .opening read, c => if isNameChar c then some ([], .opening (read ++ [c])) else none
  | .closing read, '>' => endName read fun tag => ([.closing tag], .inside .text)
  | .closing read, c => if isNameChar c then some ([], .closing (read ++ [c])) else none
  | .attribute tag before read, '=' => endName read fun name => ([], .quote tag before name)
  | .attribute tag before read, ' ' =>
    endName read fun name => ([], .attribute tag (before ++ [.flag name]) [])
  | .attribute tag before read, '>' =>
    endName read fun name => ([.opening tag (before ++ [.flag name])], .inside .text)
  | .attribute tag before read, c =>
    if isNameChar c then some ([], .attribute tag before (read ++ [c])) else none
  | .quote tag before name, '"' => some ([], .inside (.value tag before name []))
  | .quote .., _ => none
  | .behind tag attributes, ' ' => some ([], .attribute tag attributes [])
  | .behind tag attributes, '>' => some ([.opening tag attributes], .inside .text)
  | .behind .., _ => none

/-- Takes characters one after the other. -/
def scan : Mode → List Char → Option (List Event × Mode)
  | mode, [] => some ([], mode)
  | mode, c :: cs =>
    (step mode c).bind fun first => (scan first.2 cs).map fun rest => (first.1 ++ rest.1, rest.2)

/-- The tags that are left open behind some events, the last one first; none where a tag is closed
that is not the last one open. An `input` is never open. -/
def nest : List String → List Event → Option (List String)
  | stack, [] => some stack
  | stack, .char _ :: rest => nest stack rest
  | stack, .opening tag _ :: rest =>
    if tag = "input" then nest stack rest else nest (tag :: stack) rest
  | [], .closing _ :: _ => none
  | tag :: stack, .closing closed :: rest => if tag = closed then nest stack rest else none

/-! ## The events of a tree -/

/-- The name of an attribute. -/
def attributeName : HtmlAttribute → String
  | .flag name => name
  | .pair name _ => name

mutual

/-- The tags of a tree, and its texts character for character. -/
def events : Html → List Event
  | .text content => content.toList.map .char
  | .symbol code => [.char (Char.ofNat code)]
  | .void tag attributes => [.opening tag attributes]
  | .element tag attributes children =>
    .opening tag attributes :: (eventsOfAll children ++ [.closing tag])

def eventsOfAll : List Html → List Event
  | [] => []
  | tree :: trees => events tree ++ eventsOfAll trees

end

/-- The tags that are closed again. -/
def elementTags : List String :=
  ["button", "canvas", "div", "form", "label", "option", "p", "select", "span", "textarea"]

/-- The names of attributes. -/
def attributeNames : List String :=
  ["aria-label", "checked", "class", "data-hour12", "data-name", "data-signature", "data-value",
    "disabled", "for", "height", "id", "lang", "max", "maxlength", "min", "multiple", "name",
    "placeholder", "required", "role", "selected", "step", "type", "value", "width"]

/-- Whether an attribute has a name of the vocabulary. -/
def KnowsAttributes (attributes : List HtmlAttribute) : Prop :=
  ∀ a ∈ attributes, attributeName a ∈ attributeNames

mutual

/-- Whether tags and attributes have names of the vocabulary. -/
def IsKnown : Html → Prop
  | .text _ => True
  | .symbol _ => True
  | .void tag attributes => tag = "input" ∧ KnowsAttributes attributes
  | .element tag attributes children =>
    tag ∈ elementTags ∧ KnowsAttributes attributes ∧ AreKnown children

def AreKnown : List Html → Prop
  | [] => True
  | tree :: trees => IsKnown tree ∧ AreKnown trees

end

theorem areKnown_iff {trees : List Html} : AreKnown trees ↔ ∀ tree ∈ trees, IsKnown tree := by
  induction trees with
  | nil => simp [AreKnown]
  | cons tree trees ih => rw [AreKnown, ih, List.forall_mem_cons]

/-! ## Scanning in parts -/

theorem scan_append {mode middle last : Mode} {cs ds : List Char} {es fs : List Event}
    (hfirst : scan mode cs = some (es, middle)) (hsecond : scan middle ds = some (fs, last)) :
    scan mode (cs ++ ds) = some (es ++ fs, last) := by
  induction cs generalizing mode es with
  | nil =>
    cases hfirst
    exact hsecond
  | cons c cs ih =>
    obtain ⟨⟨now, next⟩, hstep, hrest⟩ := Option.bind_eq_some_iff.1 hfirst
    obtain ⟨⟨later, end'⟩, hscan, heq⟩ := Option.map_eq_some_iff.1 hrest
    cases heq
    rw [List.cons_append, scan, hstep, Option.bind_some, ih hscan]
    rw [Option.map_some, List.append_assoc]

theorem scan_singleton {mode next : Mode} {c : Char} {es : List Event}
    (h : step mode c = some (es, next)) : scan mode [c] = some (es, next) := by
  rw [scan, h]
  simp [scan]

/-- A character is taken in front of others. -/
theorem scan_cons {mode next last : Mode} {c : Char} {cs : List Char} {es fs : List Event}
    (hstep : step mode c = some (es, next)) (hrest : scan next cs = some (fs, last)) :
    scan mode (c :: cs) = some (es ++ fs, last) :=
  scan_append (scan_singleton hstep) hrest

/-- Characters that a mode only collects. -/
theorem scan_collect {mode : List Char → Mode} {P : Char → Prop}
    (hstep : ∀ read c, P c → step (mode read) c = some ([], mode (read ++ [c])))
    {cs : List Char} (h : ∀ c ∈ cs, P c) (read : List Char) :
    scan (mode read) cs = some ([], mode (read ++ cs)) := by
  induction cs generalizing read with
  | nil => rw [List.append_nil, scan]
  | cons c cs ih =>
    obtain ⟨hc, hcs⟩ := List.forall_mem_cons.1 h
    have hrest := scan_cons (hstep read c hc) (ih hcs (read ++ [c]))
    rwa [List.append_assoc] at hrest

/-- A character that a predicate accepts is none that it refuses. -/
theorem ne_of_accepts {accepts : Char → Bool} {c d : Char} (h : accepts c = true)
    (hd : accepts d = false) : c ≠ d := by
  rintro rfl
  rw [h] at hd
  cases hd

/-! ## Texts and values -/

/-- A reference is taken as the character it stands for. -/
theorem scan_reference (place : Place) {c : Char} (name : List Char)
    (hname : name.all isReferenceChar = true) (h : referenced? name = some c) :
    scan (.inside place) ('&' :: (name ++ [';'])) = some (place.put c) := by
  have hbegin : step (.inside place) '&' = some ([], .reference place []) := by
    cases place <;> rfl
  have hcollect : ∀ read d, isReferenceChar d = true →
      step (.reference place read) d = some ([], .reference place (read ++ [d])) := by
    intro read d hd
    have hne : d ≠ ';' := ne_of_accepts hd rfl
    simp only [step, if_pos hd]
  have hend : step (.reference place ([] ++ name)) ';' = some (place.put c) := by
    rw [List.nil_append, step, h, Option.map_some]
  exact scan_cons hbegin (scan_append (scan_collect hcollect (List.all_eq_true.1 hname) [])
    (scan_singleton hend))

theorem scan_escapeChar (place : Place) (c : Char) :
    scan (.inside place) (escapeChar c) = some (place.put c) := by
  by_cases hamp : c = '&'
  · subst hamp
    exact scan_reference place ['a', 'm', 'p'] rfl rfl
  by_cases hlt : c = '<'
  · subst hlt
    exact scan_reference place ['l', 't'] rfl rfl
  by_cases hgt : c = '>'
  · subst hgt
    exact scan_reference place ['g', 't'] rfl rfl
  by_cases hquot : c = '"'
  · subst hquot
    exact scan_reference place ['q', 'u', 'o', 't'] rfl rfl
  by_cases happ : c = '\''
  · subst happ
    exact scan_reference place ['#', 'x', '2', '7'] rfl rfl
  have hplain : escapeChar c = [c] := by simp [escapeChar, hamp, hlt, hgt, hquot, happ]
  have hstep : step (.inside place) c = some (place.put c) := by
    cases place <;> simp [step, hlt, hgt, hquot]
  rw [hplain]
  exact scan_singleton hstep

theorem scan_text (cs : List Char) :
    scan (.inside .text) (escape cs) = some (cs.map .char, .inside .text) := by
  induction cs with
  | nil => rfl
  | cons c cs ih => exact scan_append (scan_escapeChar .text c) ih

theorem scan_value {tag : String} {before : List HtmlAttribute} {name : String} (cs : List Char)
    (read : List Char) :
    scan (.inside (.value tag before name read)) (escape cs) =
      some ([], .inside (.value tag before name (read ++ cs))) := by
  induction cs generalizing read with
  | nil => rw [List.append_nil, escape, List.flatMap_nil, scan]
  | cons c cs ih =>
    have hrest := scan_append (scan_escapeChar (.value tag before name read) c) (ih (read ++ [c]))
    rwa [List.append_assoc] at hrest

theorem scan_symbol (code : Nat) :
    scan (.inside .text) (write (.symbol code)) =
      some (events (.symbol code), .inside .text) := by
  have hdigits := Json.allDigits_toDigits code
  have hvalue := Json.ofDigits_toDigits code
  obtain ⟨d, ds, hds⟩ := List.exists_cons_of_ne_nil (Nat.toDigits_ne_nil (b := 10) (n := code))
  have hreferenced : referenced? ('#' :: Nat.toDigits 10 code) = some (Char.ofNat code) := by
    have hall := List.all_eq_true.2 hdigits
    rw [hds] at hvalue hall ⊢
    rw [referenced?]
    unfold numbered?
    split
    · next h =>
      cases h
      exact absurd hall (by simp)
    · next h =>
      cases h
      rw [if_pos hall, hvalue]
    · next h => cases h
  refine scan_reference .text ('#' :: Nat.toDigits 10 code) (List.all_eq_true.2 ?_) hreferenced
  refine List.forall_mem_cons.2 ⟨rfl, fun c hc => ?_⟩
  simp [isReferenceChar, Char.isAlphanum, hdigits c hc]

/-! ## Tags -/

/-- Whether characters are a name, which begins with a letter. -/
def isName : List Char → Bool
  | [] => false
  | c :: cs => c.isAlpha && (c :: cs).all isNameChar

theorem isName_tag : ∀ tag ∈ "input" :: elementTags, isName tag.toList = true := by
  decide

theorem isName_attribute : ∀ name ∈ attributeNames, isName name.toList = true := by
  decide

theorem scan_opening {read cs : List Char} (h : ∀ c ∈ cs, isNameChar c = true) :
    scan (.opening read) cs = some ([], .opening (read ++ cs)) := by
  refine scan_collect (fun read c hc => ?_) h read
  have hblank : c ≠ ' ' := ne_of_accepts hc rfl
  have hend : c ≠ '>' := ne_of_accepts hc rfl
  simp only [step, if_pos hc]

theorem scan_closing {read cs : List Char} (h : ∀ c ∈ cs, isNameChar c = true) :
    scan (.closing read) cs = some ([], .closing (read ++ cs)) := by
  refine scan_collect (fun read c hc => ?_) h read
  have hend : c ≠ '>' := ne_of_accepts hc rfl
  simp only [step, if_pos hc]

theorem scan_attribute {tag : String} {before : List HtmlAttribute} {read cs : List Char}
    (h : ∀ c ∈ cs, isNameChar c = true) :
    scan (.attribute tag before read) cs = some ([], .attribute tag before (read ++ cs)) := by
  refine scan_collect (fun read c hc => ?_) h read
  have hblank : c ≠ ' ' := ne_of_accepts hc rfl
  have hvalue : c ≠ '=' := ne_of_accepts hc rfl
  have hend : c ≠ '>' := ne_of_accepts hc rfl
  simp only [step, if_pos hc]

/-- Whether a tag with some attributes is read so far, and may end or go on. -/
structure IsAfter (tag : String) (attributes : List HtmlAttribute) (mode : Mode) : Prop where
  ends : step mode '>' = some ([.opening tag attributes], .inside .text)
  goesOn : step mode ' ' = some ([], .attribute tag attributes [])

theorem endName_toList {name : String} (h : isName name.toList = true)
    (next : String → List Event × Mode) : endName name.toList next = some (next name) := by
  have hne : name.toList ≠ [] := by
    intro hempty
    rw [hempty] at h
    exact absurd h (by decide)
  rw [endName, if_neg hne, String.ofList_toList]

theorem isAfter_opening {tag : String} (h : isName tag.toList = true) :
    IsAfter tag [] (.opening tag.toList) where
  ends := by rw [step, endName_toList h]
  goesOn := by rw [step, endName_toList h]

theorem isAfter_flag {tag name : String} {before : List HtmlAttribute}
    (h : isName name.toList = true) :
    IsAfter tag (before ++ [.flag name]) (.attribute tag before name.toList) where
  ends := by rw [step, endName_toList h]
  goesOn := by rw [step, endName_toList h]

theorem forall_isNameChar {cs : List Char} (h : isName cs = true) : ∀ c ∈ cs, isNameChar c = true := by
  cases cs with
  | nil => exact nofun
  | cons c cs =>
    rw [isName, Bool.and_eq_true] at h
    exact List.all_eq_true.1 h.2

/-- An attribute is read behind the others. -/
theorem scan_writeAttribute {tag : String} {before : List HtmlAttribute} {mode : Mode}
    {a : HtmlAttribute} (hmode : IsAfter tag before mode) (h : isName (attributeName a).toList = true) :
    ∃ next, scan mode (writeAttribute a) = some ([], next) ∧ IsAfter tag (before ++ [a]) next := by
  have hname : scan mode (' ' :: (attributeName a).toList) =
      some ([], .attribute tag before (attributeName a).toList) :=
    scan_cons hmode.goesOn (scan_attribute (forall_isNameChar h))
  cases a with
  | flag name => exact ⟨_, hname, isAfter_flag h⟩
  | pair name value =>
    have hequals : step (.attribute tag before name.toList) '=' = some ([], .quote tag before name) := by
      have hread := endName_toList h fun name => ([], .quote tag before name)
      exact hread
    have hquote : step (.quote tag before name) '"' =
        some ([], .inside (.value tag before name [])) := rfl
    have hvalue : scan (.inside (.value tag before name [])) (escape value.toList) =
        some ([], .inside (.value tag before name value.toList)) := scan_value value.toList []
    have hend : step (.inside (.value tag before name value.toList)) '"' =
        some ([], .behind tag (before ++ [.pair name value])) := by
      rw [step, String.ofList_toList]
    have hread := scan_append hname (scan_cons hequals (scan_cons hquote hvalue))
    exact ⟨_, scan_append hread (scan_singleton hend), rfl, rfl⟩

theorem scan_attributes {tag : String} {attributes before : List HtmlAttribute} {mode : Mode}
    (hmode : IsAfter tag before mode) (h : KnowsAttributes attributes) :
    ∃ next, scan mode (attributes.flatMap writeAttribute) = some ([], next) ∧
      IsAfter tag (before ++ attributes) next := by
  induction attributes generalizing before mode with
  | nil => exact ⟨mode, rfl, by rwa [List.append_nil]⟩
  | cons a attributes ih =>
    obtain ⟨ha, hrest⟩ := List.forall_mem_cons.1 h
    obtain ⟨next, hscan, hnext⟩ := scan_writeAttribute hmode (isName_attribute _ ha)
    obtain ⟨last, hscan', hlast⟩ := ih hnext hrest
    rw [List.append_assoc] at hlast
    exact ⟨last, scan_append hscan hscan', hlast⟩

theorem step_mark : step (.inside .text) '<' = some ([], .tag) := rfl

theorem scan_openTag {tag : String} {attributes : List HtmlAttribute}
    (htag : tag ∈ "input" :: elementTags) (h : KnowsAttributes attributes) :
    scan (.inside .text) (openTag tag attributes) =
      some ([.opening tag attributes], .inside .text) := by
  have hname := isName_tag tag htag
  have hbegin : scan (.inside .text) ('<' :: tag.toList) = some ([], .opening tag.toList) := by
    cases hcs : tag.toList with
    | nil =>
      rw [hcs] at hname
      exact absurd hname (by decide)
    | cons c cs =>
      rw [hcs, isName, Bool.and_eq_true] at hname
      obtain ⟨hc, hall⟩ := hname
      have hslash : c ≠ '/' := ne_of_accepts hc rfl
      have hfirst : step .tag c = some ([], .opening [c]) := by simp only [step, if_pos hc]
      obtain ⟨-, hcs⟩ := List.forall_mem_cons.1 (List.all_eq_true.1 hall)
      have hrest : scan (.opening [c]) cs = some ([], .opening (c :: cs)) := scan_opening hcs
      exact scan_cons step_mark (scan_cons hfirst hrest)
  obtain ⟨last, hscan, hlast⟩ := scan_attributes (isAfter_opening hname) h
  exact scan_append (scan_append hbegin hscan) (scan_singleton hlast.ends)

theorem scan_closeTag {tag : String} (htag : tag ∈ elementTags) :
    scan (.inside .text) (closeTag tag) = some ([.closing tag], .inside .text) := by
  have hname := isName_tag tag (List.mem_cons_of_mem _ htag)
  have hslash : step .tag '/' = some ([], .closing []) := rfl
  have hcollect : scan (.closing []) tag.toList = some ([], .closing tag.toList) :=
    scan_closing (forall_isNameChar hname)
  have hread := scan_cons step_mark (scan_cons hslash hcollect)
  have hend : step (.closing tag.toList) '>' = some ([.closing tag], .inside .text) := by
    rw [step, endName_toList hname]
  exact scan_append hread (scan_singleton hend)

/-! ## Trees -/

mutual

/-- **A tree is read back** from what is written for it. -/
theorem scan_write {tree : Html} (h : IsKnown tree) :
    scan (.inside .text) (write tree) = some (events tree, .inside .text) := by
  cases tree with
  | text content => exact scan_text content.toList
  | symbol code => exact scan_symbol code
  | void tag attributes =>
    obtain ⟨rfl, hattributes⟩ := h
    exact scan_openTag List.mem_cons_self hattributes
  | element tag attributes children =>
    obtain ⟨htag, hattributes, hchildren⟩ := h
    have hopen := scan_openTag (List.mem_cons_of_mem _ htag) hattributes
    have hread := scan_append hopen (scan_append (scan_writeAll hchildren) (scan_closeTag htag))
    rw [write, events, List.append_assoc]
    exact hread

theorem scan_writeAll {trees : List Html} (h : AreKnown trees) :
    scan (.inside .text) (writeAll trees) = some (eventsOfAll trees, .inside .text) := by
  cases trees with
  | nil => rfl
  | cons tree trees =>
    obtain ⟨htree, htrees⟩ := h
    exact scan_append (scan_write htree) (scan_writeAll htrees)

end

-- A tag that is typed stays a text.
example : scan (.inside .text) (write (.text "<b>")) =
    some ([.char '<', .char 'b', .char '>'], .inside .text) := rfl

-- No tree is written with a bare mark in a text, or with an `&` that begins no reference.
example : (scan (.inside .text) "a>b".toList).isNone ∧
    (scan (.inside .text) "a & b".toList).isNone := by decide

/-! ## Nesting -/

theorem ne_input_of_mem {tag : String} (h : tag ∈ elementTags) : tag ≠ "input" := by
  rintro rfl
  exact absurd h (by decide)

theorem nest_chars (stack : List String) (cs : List Char) (rest : List Event) :
    nest stack (cs.map .char ++ rest) = nest stack rest := by
  induction cs with
  | nil => rfl
  | cons c cs ih => rw [List.map_cons, List.cons_append, nest, ih]

mutual

/-- **A tree leaves open** what was open before it. -/
theorem nest_events {tree : Html} (h : IsKnown tree) (stack : List String) (rest : List Event) :
    nest stack (events tree ++ rest) = nest stack rest := by
  cases tree with
  | text content => exact nest_chars stack content.toList rest
  | symbol code => rfl
  | void tag attributes =>
    obtain ⟨rfl, -⟩ := h
    rw [events, List.singleton_append, nest, if_pos rfl]
  | element tag attributes children =>
    obtain ⟨htag, -, hchildren⟩ := h
    rw [events, List.cons_append, nest, if_neg (ne_input_of_mem htag), List.append_assoc,
      nest_eventsOfAll hchildren, List.singleton_append, nest, if_pos rfl]

theorem nest_eventsOfAll {trees : List Html} (h : AreKnown trees) (stack : List String)
    (rest : List Event) : nest stack (eventsOfAll trees ++ rest) = nest stack rest := by
  cases trees with
  | nil => rfl
  | cons tree trees =>
    obtain ⟨htree, htrees⟩ := h
    rw [eventsOfAll, List.append_assoc, nest_events htree, nest_eventsOfAll htrees]

end

/-! ## The vocabulary -/

/-- Whether what is met has names of the vocabulary only. -/
def Event.IsKnown : Event → Prop
  | .opening tag attributes => tag ∈ "input" :: elementTags ∧ KnowsAttributes attributes
  | .closing tag => tag ∈ elementTags
  | .char _ => True

mutual

theorem isKnown_events {tree : Html} (h : IsKnown tree) : ∀ e ∈ events tree, e.IsKnown := by
  cases tree with
  | text content =>
    intro e he
    obtain ⟨c, -, rfl⟩ := List.mem_map.1 he
    trivial
  | symbol code =>
    intro e he
    cases List.mem_singleton.1 he
    trivial
  | void tag attributes =>
    obtain ⟨rfl, hattributes⟩ := h
    intro e he
    cases List.mem_singleton.1 he
    exact ⟨List.mem_cons_self, hattributes⟩
  | element tag attributes children =>
    obtain ⟨htag, hattributes, hchildren⟩ := h
    rw [events]
    refine List.forall_mem_cons.2 ⟨⟨List.mem_cons_of_mem _ htag, hattributes⟩, ?_⟩
    refine List.forall_mem_append.2 ⟨isKnown_eventsOfAll hchildren, ?_⟩
    intro e he
    cases List.mem_singleton.1 he
    exact htag

theorem isKnown_eventsOfAll {trees : List Html} (h : AreKnown trees) :
    ∀ e ∈ eventsOfAll trees, e.IsKnown := by
  cases trees with
  | nil => exact nofun
  | cons tree trees =>
    obtain ⟨htree, htrees⟩ := h
    rw [eventsOfAll]
    exact List.forall_mem_append.2 ⟨isKnown_events htree, isKnown_eventsOfAll htrees⟩

end

end Html

end FormStudio
