import FormStudio.Proofs.Preferences
import FormStudio.Proofs.Table

/-!
# A file of preferences over time

A store on a file keeps nothing of its own, so all stores on one path share what the file holds, and
what they are asked in any order is a list of requests to the file. Where a file can be read, a
request enters what it sets and nothing else (`PreferenceFile.load_answer`). So after any requests
the file holds its first entries with those that were set entered in turn, and gives the last text
set under a key (`PreferenceFile.run_keepsLastWrites`). A file that cannot be read stays so until
something is set, and then begins with no entries (`PreferenceFile.load_answer_of_error`).
-/
namespace FormStudio

/-- What a store on a file is asked. -/
inductive PreferenceRequest where
  | get (key : String)
  | set (key value : String)
  deriving DecidableEq, Repr

namespace PreferenceFile

/-! ## Requests -/

/-- Answers a request, and gives the file after it. A request that fails leaves the file alone. -/
def answer (file : PreferenceFile) : PreferenceRequest → Except StoreError Json × PreferenceFile
  | .get key => (file.get key, file)
  | .set key value =>
    match file.set key value with
    | .ok new => (.ok .null, new)
    | .error e => (.error e, file)

/-- The file after some requests, whether they fail or not. -/
def run (file : PreferenceFile) (requests : List PreferenceRequest) : PreferenceFile :=
  requests.foldl (fun file request => (file.answer request).2) file

/-- What a request sets, unless it fails. -/
def entered (file : PreferenceFile) : PreferenceRequest → Table Json
  | .get _ => []
  | .set key value =>
    match file.set key value with
    | .ok _ => [(key, .str value)]
    | .error _ => []

/-- What some requests set, in order. -/
def written (file : PreferenceFile) : List PreferenceRequest → Table Json
  | [] => []
  | request :: rest => file.entered request ++ (file.answer request).2.written rest

/-- The entries that a file begins with: those that it holds, or none where it cannot be read. -/
def firstEntries (file : PreferenceFile) : Members := file.load.toOption.getD []

/-- Whether a file can be written: if anything is at the path, it is a text. -/
def IsWritable (file : PreferenceFile) : Prop := file.place ≠ .directory ∧ file.place ≠ .blocked

/-- Whether nothing is wrong with a file but what is a matter of storage. -/
def IsLoadable (file : PreferenceFile) : Prop := ∀ e, file.load = .error e → e.isStorage = true

/-- The text under a key among some entries; any other value is none. -/
def textUnder (key : String) (entries : Members) : Json :=
  match Table.get? key entries with
  | some (.str s) => .str s
  | _ => .null

variable {file new : PreferenceFile} {key value : String} {entries : Members} {e : StoreError}

theorem get_of_load (h : file.load = .ok entries) (key : String) :
    file.get key = .ok (textUnder key entries) := by
  rw [get, h, ok_bind, textUnder]
  cases Table.get? key entries with
  | none => rfl
  | some v => cases v <;> rfl

theorem startEntries_eq (h : file.IsLoadable) : file.startEntries = .ok file.firstEntries := by
  unfold startEntries firstEntries
  cases hload : file.load with
  | ok entries => rfl
  | error e =>
    dsimp only
    rw [if_pos (h e hload)]
    rfl

theorem succeeds_set_iff (h : file.IsLoadable) (key value : String) :
    Succeeds (file.set key value) ↔ file.IsWritable := by
  rw [set, startEntries_eq h, ok_bind, IsWritable]
  cases file.place <;> simp

/-- A file that was set can be read and written again. -/
theorem isWritable_of_set (h : file.set key value = .ok new) : new.IsLoadable ∧ new.IsWritable := by
  obtain ⟨entries, -, hload⟩ := load_of_set h
  obtain ⟨content, hplace⟩ := place_of_set h
  refine ⟨fun e he => ?_, ?_⟩
  · rw [hload] at he
    cases he
  · simp [IsWritable, hplace]

theorem isStorage_of_set (h : file.IsLoadable) (hset : file.set key value = .error e) :
    e.isStorage = true := by
  rw [set, startEntries_eq h, ok_bind] at hset
  split at hset <;> cases hset <;> rfl

/-! ## One request -/

variable {request : PreferenceRequest}

/-- A request leaves the file alone, or sets something that was not refused. -/
theorem answer_cases (file : PreferenceFile) (request : PreferenceRequest) :
    ((file.answer request).2 = file ∧ file.entered request = []) ∨
      ∃ key value new, request = .set key value ∧ file.set key value = .ok new ∧
        file.answer request = (.ok .null, new) ∧ file.entered request = [(key, .str value)] := by
  cases request with
  | get key => exact .inl ⟨rfl, rfl⟩
  | set key value =>
    simp only [answer, entered]
    cases hset : file.set key value with
    | error e => exact .inl ⟨rfl, rfl⟩
    | ok new => exact .inr ⟨key, value, new, rfl, hset, rfl, rfl⟩

/-- **A request that fails** leaves the file alone. -/
theorem answer_of_error (h : (file.answer request).1 = .error e) :
    (file.answer request).2 = file := by
  rcases file.answer_cases request with ⟨hsame, -⟩ | ⟨key, value, new, -, -, hanswer, -⟩
  · exact hsame
  · rw [hanswer] at h
    cases h

theorem isStorage_of_answer (hfile : file.IsLoadable) (h : (file.answer request).1 = .error e) :
    e.isStorage = true := by
  cases request with
  | get key => exact hfile e (get_eq_error_iff.1 h)
  | set key value =>
    simp only [answer] at h
    cases hset : file.set key value with
    | ok new =>
      rw [hset] at h
      cases h
    | error e' =>
      rw [hset] at h
      cases h
      exact isStorage_of_set hfile hset

theorem isLoadable_answer (h : file.IsLoadable) : (file.answer request).2.IsLoadable := by
  rcases file.answer_cases request with ⟨hsame, -⟩ | ⟨key, value, new, -, hset, hanswer, -⟩
  · rwa [hsame]
  · rw [hanswer]
    exact (isWritable_of_set hset).1

theorem isWritable_answer (h : file.IsLoadable) :
    (file.answer request).2.IsWritable ↔ file.IsWritable := by
  rcases file.answer_cases request with ⟨hsame, -⟩ | ⟨key, value, new, -, hset, hanswer, -⟩
  · rw [hsame]
  · rw [hanswer]
    exact iff_of_true (isWritable_of_set hset).2 ((succeeds_set_iff h key value).1 ⟨new, hset⟩)

/-- **A request enters what it sets** into the entries of a file, and nothing else. -/
theorem load_answer (h : file.load = .ok entries) :
    (file.answer request).2.load = .ok (Table.overlay entries (file.entered request)) := by
  rcases file.answer_cases request with ⟨hsame, hnone⟩ | ⟨key, value, new, -, hset, hanswer, hsome⟩
  · rw [hsame, hnone, h]
    rfl
  · obtain ⟨started, hstart, hload⟩ := load_of_set hset
    rw [startEntries, h] at hstart
    cases hstart
    rw [hanswer, hsome, hload]
    rfl

/-- A file that cannot be read holds what is set first and no more. -/
theorem load_answer_of_error (hfile : file.IsLoadable) (h : file.load = .error e)
    (hentered : file.entered request ≠ []) :
    (file.answer request).2.load = .ok (Table.overlay [] (file.entered request)) := by
  rcases file.answer_cases request with ⟨-, hnone⟩ | ⟨key, value, new, -, hset, hanswer, hsome⟩
  · exact absurd hnone hentered
  · obtain ⟨started, hstart, hload⟩ := load_of_set hset
    rw [startEntries_eq hfile, firstEntries, h] at hstart
    cases hstart
    rw [hanswer, hsome, hload]
    rfl

/-! ## Runs -/

variable {requests : List PreferenceRequest}

theorem load_run (h : file.load = .ok entries) :
    (file.run requests).load = .ok (Table.overlay entries (file.written requests)) := by
  induction requests generalizing file entries with
  | nil => exact h
  | cons request rest ih =>
    rw [written, Table.overlay_append]
    exact ih (load_answer h)

/-- A file that cannot be read stays as it is until something is set, and then begins with no
entries. -/
theorem load_run_of_error (hfile : file.IsLoadable) (h : file.load = .error e) :
    (file.written requests = [] → file.run requests = file) ∧
      (file.written requests ≠ [] →
        (file.run requests).load = .ok (Table.overlay [] (file.written requests))) := by
  induction requests with
  | nil => exact ⟨fun _ => rfl, fun hne => absurd rfl hne⟩
  | cons request rest ih =>
    have hrun : file.run (request :: rest) = (file.answer request).2.run rest := rfl
    rw [hrun, written]
    by_cases hentered : file.entered request = []
    · rcases file.answer_cases request with ⟨hsame, -⟩ | ⟨_, _, _, -, -, -, hsome⟩
      · rw [hentered, hsame]
        exact ih
      · rw [hsome] at hentered
        cases hentered
    · refine ⟨fun hnil => absurd (List.append_eq_nil_iff.1 hnil).1 hentered, fun _ => ?_⟩
      rw [Table.overlay_append]
      exact load_run (load_answer_of_error hfile h hentered)

theorem isLoadable_run (h : file.IsLoadable) : (file.run requests).IsLoadable := by
  induction requests generalizing file with
  | nil => exact h
  | cons request rest ih => exact ih (isLoadable_answer h)

theorem isWritable_run (h : file.IsLoadable) :
    (file.run requests).IsWritable ↔ file.IsWritable := by
  induction requests generalizing file with
  | nil => exact Iff.rfl
  | cons request rest ih => exact (ih (isLoadable_answer h)).trans (isWritable_answer h)

/-- Whether a file has become what it has to be, where some entries were set in it. -/
structure KeepsLastWrites (file : PreferenceFile) (written : Table Json) (now : PreferenceFile) :
    Prop where
  /-- The first entries, with those that were set entered in turn. -/
  load : Succeeds file.load ∨ written ≠ [] →
    now.load = .ok (Table.overlay file.firstEntries written)
  /-- The last text set under a key, or else the text that was there from the first. -/
  get : Succeeds file.load ∨ written ≠ [] → ∀ key,
    now.get key = .ok ((written.last? key).getD (textUnder key file.firstEntries))
  /-- Where nothing was set under a key, its first entry. -/
  stays : Succeeds file.load ∨ written ≠ [] → ∀ key, key ∉ written.keys →
    ∃ entries, now.load = .ok entries ∧ entries.get? key = file.firstEntries.get? key
  /-- A file that cannot be read is not changed in any other way than by setting something. -/
  unread : ¬ Succeeds file.load → written = [] →
    now = file ∧ ∀ key, ∃ e, now.get key = .error e ∧ e.isStorage = true
  sets : ∀ key value, Succeeds (now.set key value) ↔ file.IsWritable
  fails : ∀ request e, (now.answer request).1 = .error e →
    e.isStorage = true ∧ (now.answer request).2 = now

/-- What is written is text. -/
theorem exists_text_of_last? {v : Json} (h : (file.written requests).last? key = some v) :
    ∃ s, v = .str s := by
  have hmem : ∀ entry ∈ file.written requests, ∃ s, entry.2 = .str s := by
    clear h
    induction requests generalizing file with
    | nil => exact List.forall_mem_nil _
    | cons request rest ih =>
      intro entry hentry
      rcases List.mem_append.1 hentry with hentry | hentry
      · rcases file.answer_cases request with ⟨-, hnone⟩ | ⟨_, value, _, -, -, -, hsome⟩
        · rw [hnone] at hentry
          cases hentry
        · rw [hsome] at hentry
          exact ⟨value, congrArg Prod.snd (List.mem_singleton.1 hentry)⟩
      · exact ih entry hentry
  exact hmem (key, v) (List.mem_reverse.1 (Table.mem_of_get? h))

/-- **A file of preferences keeps what was set last**, whatever it holds at first and whatever it is
asked, as long as it holds no integer that is too long to be read. -/
theorem run_keepsLastWrites (hfile : file.IsLoadable) (requests : List PreferenceRequest) :
    file.KeepsLastWrites (file.written requests) (file.run requests) := by
  have hload : Succeeds file.load ∨ file.written requests ≠ [] →
      (file.run requests).load =
        .ok (Table.overlay file.firstEntries (file.written requests)) := by
    intro hread
    unfold firstEntries
    cases h : file.load with
    | ok entries => exact load_run h
    | error e =>
      rw [h] at hread
      exact (load_run_of_error hfile h).2 (hread.resolve_left (not_succeeds_error e))
  refine {
    load := hload
    get := fun hread key => ?_
    stays := fun hread key hkey => ⟨_, hload hread, ?_⟩
    unread := fun hread hnone => ?_
    sets := fun key value =>
      (succeeds_set_iff (isLoadable_run hfile) key value).trans (isWritable_run hfile)
    fails := fun request e h => ⟨isStorage_of_answer (isLoadable_run hfile) h, answer_of_error h⟩ }
  · rw [get_of_load (hload hread), textUnder, Table.get?_overlay]
    cases hlast : (file.written requests).last? key with
    | none => rfl
    | some v =>
      obtain ⟨s, rfl⟩ := exists_text_of_last? hlast
      rfl
  · have hlast : (file.written requests).last? key = none :=
      Option.not_isSome_iff_eq_none.1 fun h => hkey (Table.last?_isSome_iff.1 h)
    rw [Table.get?_overlay, hlast, Option.none_or]
  · cases h : file.load with
    | ok entries => exact absurd ⟨entries, h⟩ hread
    | error e =>
      have hsame := (load_run_of_error hfile h).1 hnone
      rw [hsame]
      exact ⟨rfl, fun key => ⟨e, get_eq_error_iff.2 h, hfile e h⟩⟩

/-- An entry of another type, one that is set anew and one that comes on. -/
theorem run_keepsLastWrites_of_nested_entry :
    let file : PreferenceFile :=
      ⟨"preferences.json", .text "\x7b\"a\": [null, 1.5], \"b\": \"x\"\x7d"⟩
    let requests : List PreferenceRequest := [.set "b" "y", .get "a", .set "c" "z"]
    file.IsLoadable ∧ file.written requests = [("b", .str "y"), ("c", .str "z")] ∧
      (file.run requests).get "b" = .ok (.str "y") ∧ (file.run requests).get "a" = .ok .null ∧
        file.KeepsLastWrites (file.written requests) (file.run requests) := by
  intro file requests
  have hload : file.load.toOption.map (textUnder "a") = some .null := by decide +kernel
  obtain ⟨entries, hload, hfirst⟩ := Option.map_eq_some_iff.1 hload
  replace hload := toOption_eq_some_iff.1 hload
  have hloadable : file.IsLoadable := by
    intro e he
    rw [hload] at he
    cases he
  have hwritten : file.written requests = [("b", .str "y"), ("c", .str "z")] := by decide +kernel
  have hkeeps := run_keepsLastWrites hloadable requests
  refine ⟨hloadable, hwritten, ?_, ?_, hkeeps⟩
  · rw [hkeeps.get (.inl ⟨entries, hload⟩), hwritten]
    rfl
  · rw [hkeeps.get (.inl ⟨entries, hload⟩), hwritten, firstEntries, hload]
    exact congrArg Except.ok hfirst

end PreferenceFile

end FormStudio
