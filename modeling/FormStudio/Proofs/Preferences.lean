import FormStudio.Preferences
import FormStudio.Proofs.Json.Control
import FormStudio.Proofs.Json.RoundTrip

/-!
# Preferences last

What a file of preferences holds is read with infinite and undefined numbers among its values, and
written again with a new entry. A written text is read back in that dialect, and no line of it ends
in a carriage return that the file would take for a line feed (`Json.allPlain_print`). So a
preference that was set is found again (`PreferenceStore.get_set`), and the others stay
(`PreferenceStore.get_set_of_ne`).

A store is openable when a session can be started on it: what it cannot give is a matter of storage
(`PreferenceStore.IsOpenable`). Setting a preference fails for no other reason then. Stores that
always work (`PreferenceStore.IsWorking`) go on working when a preference is set, and stores that
always fail (`PreferenceStore.IsFailing`) never change.
-/
namespace FormStudio

/-! ## Files -/

namespace PreferenceFile

variable {file new : PreferenceFile} {key other value : String} {entries : Members} {e : StoreError}

theorem isReadableIn_of_load (h : file.load = .ok entries) :
    (Json.obj entries).IsReadableIn .extended := by
  have hempty : (Json.obj []).IsReadableIn .extended := .obj (by simp) (List.forall_mem_nil _)
  unfold load at h
  split at h
  · cases h
    exact hempty
  · cases h
    exact hempty
  · cases h
  · split at h
    · next hread =>
      cases h
      exact Json.isReadableIn_of_read hread
    · cases h
    · cases h
    · cases h

theorem isReadableIn_of_startEntries (h : file.startEntries = .ok entries) :
    (Json.obj entries).IsReadableIn .extended := by
  unfold startEntries at h
  split at h
  · next hload =>
    cases h
    exact isReadableIn_of_load hload
  · split at h
    · cases h
      exact .obj (by simp) (List.forall_mem_nil _)
    · cases h

/-- **Written entries are loaded again.** -/
theorem load_entriesText (path : String) (h : (Json.obj entries).IsReadableIn .extended) :
    load ⟨path, .text (entriesText entries)⟩ = .ok entries := by
  have hlines : plainLines (entriesText entries).toList = (entriesText entries).toList := by
    exact plainLines_of_not_mem ((Json.allPlain_print _ _).not_mem (by decide))
  simp only [load, hlines, String.ofList_toList]
  rw [entriesText, Json.read_print_in _ h]

/-- What is loaded after setting a preference: the entries from before with the new one. -/
theorem load_of_set (h : file.set key value = .ok new) :
    ∃ entries, file.startEntries = .ok entries ∧
      new.load = .ok (Table.put key (.str value) entries) := by
  obtain ⟨entries, hstart, h⟩ := bind_eq_ok_iff.1 h
  refine ⟨entries, hstart, ?_⟩
  have hreadable : (Json.obj (Table.put key (.str value) entries)).IsReadableIn .extended := by
    cases isReadableIn_of_startEntries hstart with
    | obj hkeys hentries =>
      refine .obj (Table.nodup_keys_put hkeys key _) fun entry hentry => ?_
      rcases Table.mem_of_mem_put hentry with rfl | hentry
      · exact .str value
      · exact hentries entry hentry
  split at h
  · cases h
  · cases h
  · cases h
    exact load_entriesText file.path hreadable

/-- What is set is written as a text. -/
theorem place_of_set (h : file.set key value = .ok new) : ∃ content, new.place = .text content := by
  obtain ⟨entries, -, h⟩ := bind_eq_ok_iff.1 h
  split at h <;> cases h
  exact ⟨_, rfl⟩

theorem exists_set_of_load {content : String} (hplace : file.place = .text content)
    (hload : file.load = .ok entries) (key value : String) :
    ∃ new, file.set key value = .ok new := by
  have hstart : file.startEntries = .ok entries := by rw [startEntries, hload]
  rw [set, hstart, ok_bind, hplace]
  exact ⟨_, rfl⟩

theorem get_eq_error_iff : file.get key = .error e ↔ file.load = .error e := by
  unfold get
  cases file.load with
  | error e' => simp [error_bind]
  | ok entries =>
    rw [ok_bind]
    split <;> simp

theorem exists_get_of_load (h : file.load = .ok entries) (key : String) :
    ∃ v, file.get key = .ok v := by
  cases hget : file.get key with
  | error e =>
    rw [get_eq_error_iff, h] at hget
    cases hget
  | ok v => exact ⟨v, rfl⟩

theorem get_set (h : file.set key value = .ok new) : new.get key = .ok (.str value) := by
  obtain ⟨entries, -, hload⟩ := load_of_set h
  rw [get, hload, ok_bind, Table.get?_put_self]

theorem get_set_of_ne (hne : other ≠ key) (h : file.set key value = .ok new) {v : Json}
    (hget : file.get other = .ok v) : new.get other = .ok v := by
  obtain ⟨entries, hstart, hload⟩ := load_of_set h
  have hentries : file.load = .ok entries := by
    obtain ⟨members, hmembers, -⟩ := bind_eq_ok_iff.1 hget
    rw [startEntries, hmembers] at hstart
    cases hstart
    exact hmembers
  rw [get, hentries, ok_bind] at hget
  rw [get, hload, ok_bind, Table.get?_put_of_ne hne]
  exact hget

/-- Setting a preference fails as getting one does, where it is no matter of storage. -/
theorem load_of_set_error (h : file.set key value = .error e) (he : e.isStorage = false) :
    file.load = .error e := by
  unfold set startEntries at h
  cases hload : file.load with
  | ok members =>
    rw [hload, ok_bind] at h
    split at h <;> cases h <;> cases he
  | error e' =>
    rw [hload] at h
    dsimp only at h
    split at h
    · rw [ok_bind] at h
      split at h <;> cases h <;> cases he
    · rw [error_bind, Except.error.injEq] at h
      rw [h]

/-- What is no matter of storage stops setting a preference, too. -/
theorem set_of_load_error (h : file.load = .error e) (he : e.isStorage = false) :
    file.set key value = .error e := by
  have hstart : file.startEntries = .error e := by simp [startEntries, h, he]
  rw [set, hstart, error_bind]

end PreferenceFile

/-! ## Stores -/

namespace PreferenceStore

variable {store new : PreferenceStore} {key other value : String} {e : StoreError}

/-- **A preference that was set is found again.** -/
theorem get_set (h : store.set key value = .ok new) : new.get key = .ok (.str value) := by
  cases store with
  | memory entries => exact get_of_set h
  | disabled => cases h
  | onDisk file =>
    obtain ⟨written, hset, rfl⟩ := map_eq_ok_iff.1 h
    exact PreferenceFile.get_set hset

/-- **Setting a preference leaves the others alone.** -/
theorem get_set_of_ne (hne : other ≠ key) (h : store.set key value = .ok new) {v : Json}
    (hget : store.get other = .ok v) : new.get other = .ok v := by
  cases store with
  | memory entries =>
    cases h
    rw [get, Except.ok.injEq] at hget ⊢
    rw [Table.get?_put_of_ne hne, hget]
  | disabled => cases h
  | onDisk file =>
    obtain ⟨written, hset, rfl⟩ := map_eq_ok_iff.1 h
    exact PreferenceFile.get_set_of_ne hne hset hget

/-- Whether a session can be started on a store: what the store cannot give is a matter of storage.
The file of any other store holds an integer that is too long to be read. -/
def IsOpenable (store : PreferenceStore) : Prop :=
  ∀ e, store.get libraryKey = .error e → e.isStorage = true

theorem isOpenable_of_set (h : store.set key value = .ok new) : new.IsOpenable := by
  intro e he
  cases store with
  | memory entries =>
    cases h
    cases he
  | disabled => cases h
  | onDisk file =>
    obtain ⟨written, hset, rfl⟩ := map_eq_ok_iff.1 h
    obtain ⟨entries, -, hload⟩ := PreferenceFile.load_of_set hset
    obtain ⟨v, hv⟩ := PreferenceFile.exists_get_of_load hload libraryKey
    rw [get, hv] at he
    cases he

theorem IsOpenable.isStorage_of_set (hstore : store.IsOpenable)
    (h : store.set key value = .error e) : e.isStorage = true := by
  cases store with
  | memory entries => cases h
  | disabled =>
    cases h
    rfl
  | onDisk file =>
    have hset : file.set key value = .error e := map_eq_error_iff.1 h
    cases hstorage : e.isStorage with
    | true => rfl
    | false =>
      have hload := PreferenceFile.load_of_set_error hset hstorage
      rw [← hstorage]
      exact hstore e (PreferenceFile.get_eq_error_iff.2 hload)

/-- Nothing can be set on a store that cannot be opened, and for no reason of storage. -/
theorem exists_set_of_not_isOpenable (h : ¬ store.IsOpenable) :
    ∃ e, e.isStorage = false ∧ ∀ key value, store.set key value = .error e := by
  simp only [IsOpenable, Classical.not_forall, Bool.not_eq_true] at h
  obtain ⟨e, hget, he⟩ := h
  refine ⟨e, he, fun key value => ?_⟩
  cases store with
  | memory entries => cases hget
  | disabled =>
    cases hget
    cases he
  | onDisk file =>
    have hload := PreferenceFile.get_eq_error_iff.1 hget
    exact map_eq_error_iff.2 (PreferenceFile.set_of_load_error hload he)

/-- Whether a store works: the saved library can be asked for, and any other be saved. -/
structure IsWorking (store : PreferenceStore) : Prop where
  gets : ∃ saved, store.get libraryKey = .ok saved
  sets : ∀ value, ∃ new, store.set libraryKey value = .ok new

/-- Whether a store always fails, for reasons of storage. -/
structure IsFailing (store : PreferenceStore) : Prop where
  gets : ∃ e, store.get libraryKey = .error e ∧ e.isStorage = true
  sets : ∀ value, ∃ e, store.set libraryKey value = .error e ∧ e.isStorage = true

theorem isWorking_memory (entries : Members) : (memory entries).IsWorking :=
  ⟨⟨_, rfl⟩, fun _ => ⟨_, rfl⟩⟩

theorem isFailing_disabled : disabled.IsFailing := ⟨⟨_, rfl, rfl⟩, fun _ => ⟨_, rfl, rfl⟩⟩

/-- **A store that works** still works when a preference was set. -/
theorem IsWorking.of_set (h : store.set libraryKey value = .ok new) : new.IsWorking := by
  refine ⟨⟨_, get_set h⟩, fun other => ?_⟩
  cases store with
  | memory entries =>
    cases h
    exact ⟨_, rfl⟩
  | disabled => cases h
  | onDisk file =>
    obtain ⟨written, hset, rfl⟩ := map_eq_ok_iff.1 h
    obtain ⟨entries, -, hload⟩ := PreferenceFile.load_of_set hset
    obtain ⟨content, hplace⟩ := PreferenceFile.place_of_set hset
    obtain ⟨last, hlast⟩ := PreferenceFile.exists_set_of_load hplace hload libraryKey other
    exact ⟨.onDisk last, map_eq_ok_iff.2 ⟨last, hlast, rfl⟩⟩

theorem IsWorking.isOpenable (h : store.IsWorking) : store.IsOpenable := by
  intro e he
  obtain ⟨saved, hget⟩ := h.gets
  rw [hget] at he
  cases he

theorem IsFailing.isOpenable (h : store.IsFailing) : store.IsOpenable := by
  intro e he
  obtain ⟨e', hget, hstorage⟩ := h.gets
  rw [hget] at he
  cases he
  exact hstorage

end PreferenceStore

end FormStudio
