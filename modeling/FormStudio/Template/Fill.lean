import FormStudio.Code.Binding
import FormStudio.Template.Basic

/-!
# Filling in templates

A template is filled in piece by piece with one argument, which is called `arg`. The format of a
place is filled in first, with the same argument.

Main statement: `Template.fill_text`, a call that is written as a template is filled in to the call
with its argument.
-/
namespace FormStudio

namespace Template

/-! ## Arguments -/

/-- The number that a text is; none for any other text. The digits at its start are read first. -/
def index? (cs : List Char) : Except TemplateFault (Option Nat) :=
  match takeNumber cs with
  | (some n, rest) =>
    if TextFormat.maxNumber < n then .error .longNumber
    else .ok (if rest.isEmpty then some n else none)
  | (none, _) => .ok none

def character (text key : List Char) : Except TemplateFault Char := do
  let index ← index? key
  if key.isEmpty then .error .emptyStep
  match index with
  | none => .error .indexByName
  | some i =>
    match text[i]? with
    | some c => pure c
    | none => .error .indexOutOfRange

/-- Whether a character goes on with a name, and begins no step. -/
def isInName (c : Char) : Bool := c != '.' && c != '['

/-- Follows the steps of a path from a text. A text has characters and no attributes. -/
def follow (text : List Char) : List Char → Except TemplateFault (List Char)
  | [] => .ok text
  | '.' :: rest =>
    match rest.takeWhile isInName with
    | [] => .error .emptyStep
    | name => .error (.noAttribute (String.ofList name))
  | '[' :: rest =>
    match _h : rest.dropWhile (· != ']') with
    | [] => .error .unclosedStep
    | _ :: behind => do
      let c ← character text (rest.takeWhile (· != ']'))
      follow [c] behind
  | _ => .error .behindStep
termination_by path => path.length
decreasing_by
  have := (List.dropWhile_suffix (l := rest) (· != ']')).length_le
  rw [_h] at this
  simp only [List.length_cons] at this ⊢
  omega

/-- The part of the argument at a path. There are no arguments without a name. -/
def valueAt (argument path : List Char) : Except TemplateFault (List Char) := do
  let name := path.takeWhile isInName
  match ← index? name with
  | some i => .error (.noArgument i)
  | none =>
    if name.isEmpty then .error (.noArgument 0)
    else if name = ['a', 'r', 'g'] then follow argument (path.dropWhile isInName)
    else .error (.unknownName (String.ofList name))

/-- A text as its mark says: in quotes, in quotes and ASCII, or as it is. -/
def marked (text : List Char) : Option Char → Except TemplateFault (List Char)
  | none => .ok text
  | some 's' => .ok text
  | some 'r' => .ok (Json.quoted (String.ofList text))
  | some 'a' => .ok (Json.quotedAscii (String.ofList text))
  | some mark => .error (.unknownMark mark)

def formatted (text format : List Char) : Except TemplateFault (List Char) :=
  match TextFormat.read format with
  | .ok format => .ok (format.apply text)
  | .error fault => .error (.format fault)

/-! ## Pieces -/

/-- The text for a piece of a template, where formats are filled in as said. -/
def pieceText (argument : List Char) (fillFormat : List Char → Except TemplateFault (List Char)) :
    TemplatePiece → Except TemplateFault (List Char)
  | .char c => .ok [c]
  | .fault fault => .error fault
  | .place place => do
    let text ← valueAt argument place.path
    let text ← marked text place.mark
    let format ←
      if place.format.contains '\x7b' then fillFormat place.format else pure place.format
    formatted text format

/-- A template with an argument, where so many templates may lie within one another. -/
def fillWithin (argument : List Char) : Nat → List Char → Except TemplateFault (List Char)
  | 0, _ => .error .tooDeep
  | depth + 1, template =>
    ((pieces template).mapM (pieceText argument (fillWithin argument depth))).map List.flatten

/-- A template with an argument. A format is a template too, and the formats in it are not. -/
def fill (template argument : String) : Except TemplateFault String :=
  (fillWithin argument.toList 2 template.toList).map String.ofList

/-! ## Calls -/

/-- A piece of script in a template, with doubled braces. -/
def escape (cs : List Char) : List Char :=
  cs.flatMap fun c => if c = '\x7b' ∨ c = '\x7d' then [c, c] else [c]

def argumentPlace : TemplatePlace := { path := ['a', 'r', 'g'] }

def piecesOfPart : CallPart → List TemplatePiece
  | .script text => text.toList.map .char
  | .argument => [.place argumentPlace]

def partText : CallPart → List Char
  | .script text => escape text.toList
  | .argument => ['\x7b', 'a', 'r', 'g', '\x7d']

def text (call : CallTemplate) : String := String.ofList (call.flatMap partText)

theorem pieces_escape (cs rest : List Char) :
    pieces (escape cs ++ rest) = cs.map .char ++ pieces rest := by
  induction cs with
  | nil => rfl
  | cons c others ih =>
    by_cases hc : c = '\x7b' ∨ c = '\x7d'
    · have : escape (c :: others) ++ rest = c :: c :: (escape others ++ rest) := by
        simp [escape, hc]
      rw [this, pieces]
      simp [hc, ih]
    · have : escape (c :: others) ++ rest = c :: (escape others ++ rest) := by
        simp [escape, hc]
      rw [this, pieces.eq_def]
      simp [hc, ih]

theorem takePlace_argument (rest : List Char) :
    takePlace ('a' :: 'r' :: 'g' :: '\x7d' :: rest) = .ok (argumentPlace, rest) := rfl

theorem pieces_argument (rest : List Char) :
    pieces ('\x7b' :: 'a' :: 'r' :: 'g' :: '\x7d' :: rest) =
      .place argumentPlace :: pieces rest := by
  rw [pieces]
  simp only [true_or, if_true]
  rw [if_neg (by decide), if_neg (by decide)]
  split
  · rename_i h
    rw [takePlace_argument] at h
    cases h
    rfl
  · rename_i h
    rw [takePlace_argument] at h
    cases h

theorem pieces_text (call : CallTemplate) :
    pieces (call.flatMap partText) = call.flatMap piecesOfPart := by
  induction call with
  | nil => simp [pieces]
  | cons part others ih =>
    rw [List.flatMap_cons, List.flatMap_cons, ← ih]
    cases part with
    | script text => exact pieces_escape ..
    | argument => exact pieces_argument ..

def textsOfPart (argument : List Char) : CallPart → List (List Char)
  | .script text => text.toList.map fun c => [c]
  | .argument => [argument]

theorem valueAt_argument (argument : List Char) :
    valueAt argument ['a', 'r', 'g'] = .ok argument := by
  have hindex : index? ['a', 'r', 'g'] = .ok none := rfl
  have hname : ['a', 'r', 'g'].takeWhile isInName = ['a', 'r', 'g'] := rfl
  have hsteps : ['a', 'r', 'g'].dropWhile isInName = [] := rfl
  simp only [valueAt, hname, hindex, hsteps, follow]
  rfl

theorem pieceText_argument (argument : List Char)
    (fillFormat : List Char → Except TemplateFault (List Char)) :
    pieceText argument fillFormat (.place argumentPlace) = .ok argument := by
  have hformatted : formatted argument [] = .ok argument := by
    simp [formatted, TextFormat.read_nil, TextFormat.apply_plain]
  have : pieceText argument fillFormat (.place argumentPlace) =
      (valueAt argument ['a', 'r', 'g']).bind fun text => formatted text [] := rfl
  rw [this, valueAt_argument]
  exact hformatted

theorem mapM_piecesOfPart (argument : List Char)
    (fillFormat : List Char → Except TemplateFault (List Char)) (part : CallPart) :
    (piecesOfPart part).mapM (pieceText argument fillFormat) =
      .ok (textsOfPart argument part) := by
  cases part with
  | argument =>
    simp only [piecesOfPart, List.mapM_cons, List.mapM_nil, pieceText_argument]
    rfl
  | script text =>
    simp only [piecesOfPart, textsOfPart]
    induction text.toList with
    | nil => rfl
    | cons c others ih =>
      rw [List.map_cons, List.mapM_cons, ih]
      rfl

theorem mapM_pieces (argument : List Char)
    (fillFormat : List Char → Except TemplateFault (List Char)) (call : CallTemplate) :
    (call.flatMap piecesOfPart).mapM (pieceText argument fillFormat) =
      .ok (call.flatMap (textsOfPart argument)) := by
  induction call with
  | nil => rfl
  | cons part others ih =>
    rw [List.flatMap_cons, List.mapM_append, mapM_piecesOfPart, ih]
    rfl

theorem flatten_textsOfPart (argument : String) (part : CallPart) :
    (textsOfPart argument.toList part).flatten = (part.apply argument).toList := by
  cases part with
  | argument => simp [textsOfPart, CallPart.apply]
  | script text => simp [textsOfPart, CallPart.apply, ← List.flatMap_def]

theorem flatten_texts (argument : String) (call : CallTemplate) :
    (call.flatMap (textsOfPart argument.toList)).flatten = (call.apply argument).toList := by
  induction call with
  | nil => simp [CallTemplate.apply]
  | cons part others ih =>
    simp only [CallTemplate.apply] at ih ⊢
    simp [flatten_textsOfPart, ih]

theorem fill_text (call : CallTemplate) (argument : String) :
    fill (text call) argument = .ok (call.apply argument) := by
  unfold fill text
  rw [String.toList_ofList, fillWithin, pieces_text, mapM_pieces]
  simp [Except.map, flatten_texts]

end Template

end FormStudio
