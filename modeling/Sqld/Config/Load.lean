import Sqld.Config.Store
import Sqld.Config.RoundTrip

/-!
# Loading the configuration

`DatabaseConfigStore::load` reads `config.json` and decodes it with `serde_json::from_slice`;
when the file is missing the store starts from `DatabaseConfig::default()`:

```
let config = match fs::read(&config_path) {
    Ok(data) => serde_json::from_slice(&data)?,
    Err(err) if err.kind() == io::ErrorKind::NotFound => DatabaseConfig::default(),
    Err(err) => return Err(Error::IOError(err)),
};
```

Since `from_slice` reads back the bytes `store` writes (`fromSlice_toVecPretty`), a store loaded
from a directory loads again after a crash at any step of calls that do not overlap
(`serial_config_file_complete`), loading the directory right after `store(c)` returned `Ok` gives `c` when calls do not overlap
(`load_after_store`), and more generally loading it whenever no call is between its rename and
its swap gives what `get()` returns, provided the first load did (`Reachable.load_eq_snapshot`).
-/

namespace Sqld
namespace Config

/-- `DatabaseConfigStore::load`: the configuration the new store's `get()` returns, or the error
of `serde_json::from_slice`.  A missing `config.json` gives the default. -/
def load (disk : Disk) : Except JsonError DatabaseConfig :=
  match disk.configContent with
  | some data => fromSlice data
  | none => .ok .default

theorem load_of_configContent {disk : Disk} {c : DatabaseConfig}
    (h : disk.configContent = some (toVecPretty c)) : load disk = .ok c := by
  rw [load, h]
  exact fromSlice_toVecPretty c

/-- `load` reads nothing of the directory but `config.json`. -/
theorem load_congr {disk disk' : Disk} (h : disk.configContent = disk'.configContent) :
    load disk = load disk' := by
  rw [load, h, load]

/-- When calls do not overlap, a crash after any step leaves a `config.json` that is missing
only if it was missing at load, and otherwise holds the document it held at load or the whole
document of a configuration passed to `store`.  So a store that was loaded from the directory
can be loaded again after the crash: `from_slice` never meets a malformed document there, and
the store gives the configuration it had at load or one passed to `store`. -/
theorem serial_config_file_complete {disk0 : Disk} {snapshot0 : DatabaseConfig}
    {st : StoreSystem} (hreach : Reachable true disk0 snapshot0 st) :
    (st.disk.configContent = none → disk0.configContent = none) ∧
      (∀ content, st.disk.configContent = some content →
        disk0.configContent = some content ∨ ∃ c ∈ st.calls, content = toVecPretty c.config) ∧
      (load disk0 = .ok snapshot0 →
        ∃ c, load st.disk = .ok c ∧ (c = snapshot0 ∨ ∃ call ∈ st.calls, c = call.config)) := by
  rcases hreach.serialInv.configContent with h | ⟨c, hc, h⟩
  · exact ⟨fun hn => h ▸ hn, fun content hs => .inl (h ▸ hs),
      fun hload => ⟨snapshot0, (load_congr h).trans hload, .inl rfl⟩⟩
  · refine ⟨fun hn => by simp [hn] at h, fun content hs => .inr ⟨c, hc, ?_⟩,
      fun _ => ⟨c.config, load_of_configContent h, .inr ⟨c, hc, rfl⟩⟩⟩
    exact Option.some.inj (hs.symm.trans h)

/-- In a run without overlapping calls, whenever no call is between its rename and its swap,
loading the directory gives what `get()` returns, provided loading it gave the first snapshot. -/
theorem Reachable.load_eq_snapshot {disk0 : Disk} {snapshot0 : DatabaseConfig} {st : StoreSystem}
    (hreach : Reachable true disk0 snapshot0 st) (hload : load disk0 = .ok snapshot0)
    (hidle : ∀ c ∈ st.calls, c.state ≠ .renamed) : load st.disk = .ok st.snapshot := by
  rcases hreach.serialInv.agrees hidle with h | ⟨c, -, -, h⟩
  · simp only [StoreSystem.observed, Prod.mk.injEq] at h
    rw [load, h.1, h.2, ← hload, load]
  · simp only [StoreSystem.observed, Prod.mk.injEq] at h
    rw [h.2]
    exact load_of_configContent h.1

/-- The crash state of `storedState`: one call stored `blockedConfig`, a second wrote three
bytes of its document into `config.json~` and failed. -/
theorem serial_config_file_complete_stored :
    Reachable true emptyDisk .default storedState ∧
      (storedState.disk.configContent = none → emptyDisk.configContent = none) ∧
      (∀ content, storedState.disk.configContent = some content →
        emptyDisk.configContent = some content ∨
          ∃ c ∈ storedState.calls, content = toVecPretty c.config) ∧
      load emptyDisk = .ok .default ∧
      ∃ c, load storedState.disk = .ok c ∧
        (c = .default ∨ ∃ call ∈ storedState.calls, c = call.config) :=
  have h := serial_config_file_complete emptyDisk_stored
  ⟨emptyDisk_stored, h.1, h.2.1, rfl, h.2.2 rfl⟩

/-- A step that sets the `j`-th call from a state other than `.renamed` leaves a renamed
`i`-th call unfinished. -/
theorem not_finished_of_set {calls : List StoreCall} {i j : Nat} {call old : StoreCall}
    (h : calls[i]? = some call) (hcall : call.state = .renamed) (hold : calls[j]? = some old)
    (hold' : old.state ≠ .renamed) (new : StoreCall) :
    ((calls.set j new)[i]?).map StoreCall.state ≠ some (.finished true) := by
  rcases eq_or_ne j i with rfl | hij
  · rw [h] at hold
    cases hold
    exact absurd hcall hold'
  · rw [List.getElem?_set_ne hij, h]
    simp [hcall]

/-- The only step after which a renamed call has returned `Ok` is its swap: the directory is
unchanged and the snapshot is the call's configuration. -/
theorem Step.swap_of_finished {st st' : StoreSystem} {i : Nat} {c : DatabaseConfig}
    {began : Option (Option (List UInt8) × DatabaseConfig)} (hstep : Step true st st')
    (h : st.calls[i]? = some ⟨c, .renamed, began, none⟩)
    (hfin : (st'.calls[i]?).map StoreCall.state = some (.finished true)) :
    st'.disk = st.disk ∧ st'.snapshot = c := by
  cases hstep with
  | call config =>
    rw [List.getElem?_append_left (List.getElem?_eq_some_iff.1 h).1, h] at hfin
    cases hfin
  | create j h' => exact absurd hfin (not_finished_of_set h rfl h' nofun _)
  | createFail j h' => exact absurd hfin (not_finished_of_set h rfl h' nofun _)
  | write j inode offset chunk h' => exact absurd hfin (not_finished_of_set h rfl h' nofun _)
  | close j inode h' => exact absurd hfin (not_finished_of_set h rfl h' nofun _)
  | writeFail j inode offset h' => exact absurd hfin (not_finished_of_set h rfl h' nofun _)
  | rename j h' => exact absurd hfin (not_finished_of_set h rfl h' nofun _)
  | renameFail j h' => exact absurd hfin (not_finished_of_set h rfl h' nofun _)
  | swap j h' =>
    rcases eq_or_ne j i with rfl | hij
    · rw [h] at h'
      cases h'
      exact ⟨rfl, rfl⟩
    · rw [List.getElem?_set_ne hij, h] at hfin
      cases hfin

/-- For every configuration (any flags, no reason or any reason text), `serde_json::from_slice`
reads back the bytes `serde_json::to_vec_pretty` writes; and in a run whose calls do not overlap,
after any step at which `store(c)` returns `Ok`, `get()` returns `c` and loading the directory
gives `c`. -/
theorem load_after_store (c : DatabaseConfig) :
    fromSlice (toVecPretty c) = .ok c ∧
      ∀ {disk0 : Disk} {snapshot0 : DatabaseConfig} {st st' : StoreSystem} {i : Nat}
        {began : Option (Option (List UInt8) × DatabaseConfig)},
        Reachable true disk0 snapshot0 st → st.calls[i]? = some ⟨c, .renamed, began, none⟩ →
          Step true st st' → (st'.calls[i]?).map StoreCall.state = some (.finished true) →
            st'.snapshot = c ∧ load st'.disk = .ok c := by
  refine ⟨fromSlice_toVecPretty c, fun hreach h hstep hfin => ?_⟩
  obtain ⟨hdisk, hsnapshot⟩ := hstep.swap_of_finished h hfin
  obtain ⟨hcontent, -⟩ := hreach.serialInv.consistent_of_getElem? h
  exact ⟨hsnapshot, hdisk ▸ load_of_configContent hcontent⟩

/-- With overlapping calls, `store(c)` can return `Ok` while `config.json` is empty: the first
call of `emptiedState` renamed onto `config.json` the file the second call had truncated, and
its swap then returns `Ok` with a directory that `load` rejects. -/
theorem overlapping_store_ok_unloadable :
    ¬ ∀ (c : DatabaseConfig) {disk0 : Disk} {snapshot0 : DatabaseConfig} {st st' : StoreSystem}
        {i : Nat} {began : Option (Option (List UInt8) × DatabaseConfig)},
        Reachable false disk0 snapshot0 st → st.calls[i]? = some ⟨c, .renamed, began, none⟩ →
          Step false st st' → (st'.calls[i]?).map StoreCall.state = some (.finished true) →
            st'.snapshot = c ∧ load st'.disk = .ok c := by
  intro h
  have hload := (h blockedConfig emptyDisk_emptied (i := 0) rfl (.swap _ 0 rfl) rfl).2
  have hempty : load emptiedState.disk = .error .eofWhileParsingValue := rfl
  cases hempty.symm.trans hload

/-- One call storing `blockedConfig` on `emptyDisk`, between its rename and its swap. -/
def renamedState : StoreSystem :=
  ⟨⟨[toVecPretty blockedConfig], some 0, none⟩, .default,
    [⟨blockedConfig, .renamed, some (none, .default), none⟩]⟩

theorem emptyDisk_renamed : Reachable true emptyDisk .default renamedState := by
  have h0 : Reachable true emptyDisk .default _ := .init emptyDisk_wellFormed
  have h1 := h0.step (.call _ blockedConfig)
  have h2 := h1.step (.create _ 0 rfl fun _ => by decide)
  have h3 := h2.step
    (.write _ 0 0 0 (toVecPretty blockedConfig) rfl ⟨toVecPretty_ne_nil _, by simp⟩)
  have h4 := h3.step (.close _ 0 0 rfl)
  simpa [emptyDisk, Disk.create, Disk.write, writeAt, StoreSystem.observed] using
    h4.step (.rename _ 0 rfl rfl)

/-- The swap of `renamedState`'s call, after which `store(blockedConfig)` has returned `Ok`. -/
theorem load_after_store_blocked :
    Reachable true emptyDisk .default renamedState ∧
      ({ renamedState with
          snapshot := blockedConfig
          calls := [⟨blockedConfig, .finished true, some (none, .default),
            some (some (toVecPretty blockedConfig), blockedConfig)⟩] } : StoreSystem).snapshot =
          blockedConfig ∧
        load renamedState.disk = .ok blockedConfig :=
  ⟨emptyDisk_renamed, (load_after_store blockedConfig).2 emptyDisk_renamed
    (show renamedState.calls[0]? = some ⟨blockedConfig, .renamed, some (none, .default), none⟩ from rfl)
    (.swap _ 0 rfl) rfl⟩

end Config
end Sqld
