import FormStudio.Json.Printer
import FormStudio.Json.Reader
import FormStudio.Text.Integer

/-!
# Preferences

A preference is a text under a key. Preferences are kept in memory or in a file, which holds one
JSON object and is written anew whenever a preference is set. What a file cannot give is an error;
setting a preference starts over where the file is unreadable.

Main statements: `PreferenceStore.get_of_set`, a preference that was set is found again, and
`PreferenceFile.place_of_get_error`, only what is there can be unreadable.
-/
namespace FormStudio

/-- Why a store does not answer. -/
inductive StoreError where
  /-- The store keeps nothing. -/
  | disabled
  /-- There is no text at the path, or the text is not JSON. -/
  | unreadable (path : String)
  | notAnObject (path : String)
  | unwritable (path : String)
  /-- An integer in the file has more digits than are read. -/
  | longInteger (digits : Nat)
  deriving DecidableEq, Repr

namespace StoreError

def message : StoreError → String
  | .disabled => "storage disabled"
  | .unreadable path => "Could not read preferences from " ++ path
  | .notAnObject path => s!"Preferences file {path} does not hold a JSON object"
  | .unwritable path => "Could not write preferences to " ++ path
  | .longInteger digits => (IntegerFault.tooLong digits).message

/-- Whether an error is one of storage, which a session reports and lives with. -/
def isStorage : StoreError → Bool
  | .longInteger _ => false
  | _ => true

end StoreError

/-! ## Files -/

/-- What is at the path of a file. -/
inductive FilePlace where
  | absent
  | text (content : String)
  | directory
  /-- The folder of the path is a plain file. -/
  | blocked
  deriving DecidableEq, Repr

/-- A file that keeps preferences. -/
structure PreferenceFile where
  path : String
  place : FilePlace
  deriving DecidableEq, Repr

namespace PreferenceFile

/-- A text in which every line ends in the same way: a carriage return, alone or with a line feed
behind it, counts as a line feed. -/
def plainLines : List Char → List Char
  | '\r' :: '\n' :: rest => '\n' :: plainLines rest
  | '\r' :: rest => '\n' :: plainLines rest
  | c :: rest => c :: plainLines rest
  | [] => []

def text? (file : PreferenceFile) : Option String :=
  match file.place with
  | .text content => some (String.ofList (plainLines content.toList))
  | _ => none

/-- Reads the entries of a file. -/
def load (file : PreferenceFile) : Except StoreError Members :=
  match file.place with
  | .absent => .ok []
  | .blocked => .ok []
  | .directory => .error (.unreadable file.path)
  | .text content =>
    match Json.read .extended (String.ofList (plainLines content.toList)) with
    | .ok (.obj members) => .ok members
    | .ok _ => .error (.notAnObject file.path)
    | .error .malformed => .error (.unreadable file.path)
    | .error (.longInteger digits) => .error (.longInteger digits)

def startEntries (file : PreferenceFile) : Except StoreError Members :=
  match file.load with
  | .ok members => .ok members
  | .error e => if e.isStorage then .ok [] else .error e

def entriesText (entries : Members) : String := Json.print (.ofIndent (some 2) true) (.obj entries)

/-- The text under a key; any other value is none. -/
def get (file : PreferenceFile) (key : String) : Except StoreError Json := do
  match Table.get? key (← file.load) with
  | some (.str s) => .ok (.str s)
  | _ => .ok .null

/-- Sets the text under a key and writes all entries. -/
def set (file : PreferenceFile) (key value : String) : Except StoreError PreferenceFile := do
  let entries := Table.put key (.str value) (← file.startEntries)
  match file.place with
  | .directory => .error (.unwritable file.path)
  | .blocked => .error (.unwritable file.path)
  | _ => .ok { file with place := .text (entriesText entries) }

theorem plainLines_of_not_mem {cs : List Char} (h : '\r' ∉ cs) : plainLines cs = cs := by
  fun_induction plainLines cs <;> simp_all

theorem place_of_get_error {file : PreferenceFile} {key : String} {e : StoreError}
    (h : file.get key = .error e) :
    file.place = .directory ∨ ∃ content, file.place = .text content := by
  unfold get load at h
  cases hp : file.place with
  | absent => rw [hp] at h; cases h
  | text content => exact .inr ⟨content, rfl⟩
  | directory => exact .inl rfl
  | blocked => rw [hp] at h; cases h

end PreferenceFile

/-! ## Stores -/

/-- Where preferences are kept. -/
inductive PreferenceStore where
  | memory (entries : Members)
  /-- Every request fails. -/
  | disabled
  | onDisk (file : PreferenceFile)
  deriving DecidableEq, Repr

namespace PreferenceStore

/-- The value under a key; `null` where there is none. -/
def get (store : PreferenceStore) (key : String) : Except StoreError Json :=
  match store with
  | .memory entries => .ok ((Table.get? key entries).getD .null)
  | .disabled => .error .disabled
  | .onDisk file => file.get key

/-- Sets the text under a key. -/
def set (store : PreferenceStore) (key value : String) : Except StoreError PreferenceStore :=
  match store with
  | .memory entries => .ok (.memory (Table.put key (.str value) entries))
  | .disabled => .error .disabled
  | .onDisk file => (file.set key value).map .onDisk

def libraryKey : String := "formLibrary"

theorem get_of_set {entries : Members} {store : PreferenceStore} {key value : String}
    (h : (memory entries).set key value = .ok store) : store.get key = .ok (.str value) := by
  cases h
  simp [get]

end PreferenceStore

end FormStudio
