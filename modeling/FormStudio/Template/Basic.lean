import FormStudio.Json.Display
import FormStudio.Text.Format

/-!
# Templates

A template is a text with places. A place names an argument between braces, with steps to a part of
it; a mark behind an exclamation mark says how the part is written, and a format behind a colon how
it is laid out. Braces that are doubled stand for themselves.

Main statement: `Template.length_takePlace`, reading a place uses up the template, which is why
taking a template apart ends.
-/
namespace FormStudio

/-- Why a template is not filled in. -/
inductive TemplateFault where
  /-- A brace without its partner. -/
  | loneBrace (brace : Char)
  | unclosedPlace
  | braceInName
  /-- Nothing stands behind an exclamation mark. -/
  | noMark
  /-- Neither a format nor the end of the place follows a mark. -/
  | behindMark
  | unclosedFormat
  /-- A place in the format of a place in a format. -/
  | tooDeep
  | longNumber
  /-- An argument that is asked for by its number. -/
  | noArgument (index : Nat)
  | unknownName (name : String)
  | noAttribute (name : String)
  | emptyStep
  | unclosedStep
  /-- No step follows a step that ends in a bracket. -/
  | behindStep
  /-- A character that is asked for by a name. -/
  | indexByName
  | indexOutOfRange
  | unknownMark (mark : Char)
  | format (fault : FormatFault)
  deriving DecidableEq, Repr

namespace TemplateFault

def message : TemplateFault → String
  | .loneBrace brace => "Single '" ++ String.ofList [brace] ++ "' encountered in format string"
  | .unclosedPlace => "expected '\x7d' before end of string"
  | .braceInName => "unexpected '\x7b' in field name"
  | .noMark => "end of string while looking for conversion specifier"
  | .behindMark => "expected ':' after conversion specifier"
  | .unclosedFormat => "unmatched '\x7b' in format spec"
  | .tooDeep => "Max string recursion exceeded"
  | .longNumber => FormatFault.longNumber.message
  | .noArgument index => s!"Replacement index {index} out of range for positional args tuple"
  | .unknownName name => String.ofList (Json.quoted name)
  | .noAttribute name => "'str' object has no attribute '" ++ name ++ "'"
  | .emptyStep => "Empty attribute in format string"
  | .unclosedStep => "Missing ']' in format string"
  | .behindStep => "Only '.' or '[' may follow ']' in format field specifier"
  | .indexByName => "string indices must be integers, not 'str'"
  | .indexOutOfRange => "string index out of range"
  | .unknownMark mark => "Unknown conversion specifier " ++ FormatFault.shownMark mark 127
  | .format fault => fault.message

end TemplateFault

/-- A place of a template. -/
structure TemplatePlace where
  /-- The name of the argument, with the steps to a part of it. -/
  path : List Char
  mark : Option Char := none
  /-- The format, which may have places itself. -/
  format : List Char := []
  deriving DecidableEq, Repr

/-- A piece of a template. What cannot be understood is a piece as well: it counts when everything
in front of it is filled in. -/
inductive TemplatePiece where
  | char (c : Char)
  | place (place : TemplatePlace)
  | fault (fault : TemplateFault)
  deriving DecidableEq, Repr

namespace Template

/-! ## Places -/

/-- The path at the start of a place, and the rest. What stands in brackets ends no path. -/
def takePath : Bool → List Char → List Char × List Char
  | _, [] => ([], [])
  | inBrackets, c :: rest =>
    if !inBrackets && ['\x7b', '\x7d', ':', '!'].contains c then ([], c :: rest)
    else
      let (path, rest) := takePath (if inBrackets then c != ']' else c == '[') rest
      (c :: path, rest)

/-- The text up to the brace that closes a place, and the text behind the brace. -/
def takeFormat? : Nat → List Char → Option (List Char × List Char)
  | _, [] => none
  | depth, c :: rest =>
    let continued (depth : Nat) :=
      (takeFormat? depth rest).map fun (format, rest) => (c :: format, rest)
    if c = '\x7b' then continued (depth + 1)
    else if c = '\x7d' then
      match depth with
      | 0 => some ([], rest)
      | depth + 1 => continued depth
    else continued depth

/-- Ends a place with its format. -/
def withFormat (path : List Char) (mark : Option Char) (cs : List Char) :
    Except TemplateFault (TemplatePlace × List Char) :=
  match takeFormat? 0 cs with
  | some (format, rest) => .ok (⟨path, mark, format⟩, rest)
  | none => .error .unclosedFormat

/-- Ends a place behind an exclamation mark. The null character is no mark. -/
def withMark (path : List Char) : List Char → Except TemplateFault (TemplatePlace × List Char)
  | [] => .error .noMark
  | mark :: rest =>
    let mark := if mark = '\x00' then none else some mark
    match rest with
    | '\x7d' :: rest => .ok (⟨path, mark, []⟩, rest)
    | ':' :: rest => withFormat path mark rest
    | [] => .error .unclosedFormat
    | _ => .error .behindMark

/-- The place at the start of a text, and the text behind its brace. -/
def takePlace (cs : List Char) : Except TemplateFault (TemplatePlace × List Char) :=
  match takePath false cs with
  | (path, '\x7d' :: rest) => .ok (⟨path, none, []⟩, rest)
  | (path, ':' :: rest) => withFormat path none rest
  | (path, '!' :: rest) => withMark path rest
  | (_, []) => .error .unclosedPlace
  | (_, _) => .error .braceInName

theorem length_takePath (inBrackets : Bool) (cs : List Char) :
    (takePath inBrackets cs).2.length ≤ cs.length := by
  induction cs generalizing inBrackets with
  | nil => simp [takePath]
  | cons c rest ih =>
    unfold takePath
    split
    · simp
    · have := ih (if inBrackets then c != ']' else c == '[')
      simp only [List.length_cons]
      omega

theorem length_takeFormat? {depth : Nat} {cs format rest : List Char}
    (h : takeFormat? depth cs = some (format, rest)) : rest.length < cs.length := by
  induction cs generalizing depth format with
  | nil => simp [takeFormat?] at h
  | cons c others ih =>
    have hcontinued {depth : Nat} (h : (takeFormat? depth others).map
        (fun p => (c :: p.1, p.2)) = some (format, rest)) : rest.length < (c :: others).length := by
      obtain ⟨⟨_, _⟩, hp, heq⟩ := Option.map_eq_some_iff.1 h
      cases heq
      exact Nat.lt_succ_of_lt (ih hp)
    unfold takeFormat? at h
    simp only at h
    split at h
    · exact hcontinued h
    · split at h
      · split at h
        · cases h
          simp
        · exact hcontinued h
      · exact hcontinued h

theorem length_withFormat {path cs rest : List Char} {mark : Option Char} {place : TemplatePlace}
    (h : withFormat path mark cs = .ok (place, rest)) : rest.length < cs.length := by
  unfold withFormat at h
  split at h
  · rename_i hf
    cases h
    exact length_takeFormat? hf
  · cases h

theorem length_withMark {path cs rest : List Char} {place : TemplatePlace}
    (h : withMark path cs = .ok (place, rest)) : rest.length < cs.length := by
  unfold withMark at h
  split at h
  · cases h
  · simp only at h
    split at h
    · cases h
      simp only [List.length_cons]
      omega
    · have := length_withFormat h
      simp only [List.length_cons]
      omega
    · cases h
    · cases h

theorem length_takePlace {cs rest : List Char} {place : TemplatePlace}
    (h : takePlace cs = .ok (place, rest)) : rest.length < cs.length := by
  have hle := length_takePath false cs
  unfold takePlace at h
  split at h <;> rename_i hp <;> rw [hp] at hle <;> simp only [List.length_cons] at hle
  · cases h
    omega
  · have := length_withFormat h
    omega
  · have := length_withMark h
    omega
  · cases h
  · cases h

/-! ## Pieces -/

def pieces : List Char → List TemplatePiece
  | [] => []
  | c :: rest =>
    if c = '\x7b' ∨ c = '\x7d' then
      match rest with
      | [] => [.fault (.loneBrace c)]
      | d :: others =>
        if d = c then .char c :: pieces others
        else if c = '\x7d' then [.fault (.loneBrace c)]
        else
          match _h : takePlace (d :: others) with
          | .ok (place, rest) => .place place :: pieces rest
          | .error fault => [.fault fault]
    else .char c :: pieces rest
termination_by cs => cs.length
decreasing_by
  · simp only [List.length_cons]
    omega
  · have := length_takePlace _h
    simp only [List.length_cons] at this ⊢
    omega
  · simp

end Template

end FormStudio
