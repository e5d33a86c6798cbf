import Sqld.Config.Json
import Sqld.ListFacts

/-!
# The configuration store on disk

`DatabaseConfigStore::store` writes the new configuration to `config.json~` with `fs::write`,
renames that file onto `config.json` with `fs::rename`, and then swaps the in-memory snapshot
that `get()` returns:

```
let data = serde_json::to_vec_pretty(&config)?;
fs::write(&self.tmp_config_path, data)?;
fs::rename(&self.tmp_config_path, &self.config_path)?;
*self.config.lock() = Arc::new(config);
```

Only the swap holds the mutex.  The directory is modelled down to inodes: `fs::write` opens
`config.json~` truncated (creating it when it is missing) and writes the data in chunks at the
file's offset, any of which can fail; `fs::rename` atomically points `config.json` at the inode
of `config.json~`, and fails when there is none.  A crash leaves the directory as it is after
the last step.

Calls that overlap break both promises of the store: a call that truncates `config.json~`
after another has written it makes the other's rename install an empty file, and a call that
fails can leave its data in `config.json` after another call's swap.  When calls do not
overlap (`serial`), `config.json` only ever holds the document it held at load or a complete
document written by `store`, a call that fails changes neither `config.json` nor the snapshot,
and between calls `get()` returns the configuration that `config.json` holds.
-/

namespace Sqld
namespace Config

/-- The database directory: the file contents by inode, and the inodes that the names
`config.json` and `config.json~` point to. -/
structure Disk where
  inodes : List (List UInt8)
  config : Option Nat
  tmp : Option Nat
  deriving DecidableEq, Repr

namespace Disk

/-- What `config.json` holds, or `none` when there is no such file. -/
def configContent (disk : Disk) : Option (List UInt8) := disk.config.bind (disk.inodes[·]?)

/-- `File::create(config.json~)`: open `config.json~` truncated, or create it; the inode it
opened. -/
def create (disk : Disk) : Nat × Disk :=
  match disk.tmp with
  | some inode => (inode, { disk with inodes := disk.inodes.set inode [] })
  | none =>
    (disk.inodes.length, { disk with inodes := disk.inodes ++ [[]], tmp := some disk.inodes.length })

/-- `fs::rename(config.json~, config.json)`; it fails when there is no `config.json~`. -/
def rename (disk : Disk) : Option Disk :=
  disk.tmp.map fun inode => { disk with config := some inode, tmp := none }

/-- Names point to files that exist, and to different ones. -/
structure WellFormed (disk : Disk) : Prop where
  config_lt : ∀ n, disk.config = some n → n < disk.inodes.length
  tmp_lt : ∀ n, disk.tmp = some n → n < disk.inodes.length
  tmp_ne : ∀ n, disk.tmp = some n → disk.config ≠ some n

end Disk

/-- A `write(2)` of `chunk` at `offset` into a file's content: a gap past the end reads as
zeros. -/
def writeAt (content : List UInt8) (offset : Nat) (chunk : List UInt8) : List UInt8 :=
  content.take offset ++ List.replicate (offset - content.length) 0 ++ chunk ++
    content.drop (offset + chunk.length)

/-- Write `chunk` at `offset` into the file of inode `inode`. -/
def Disk.write (disk : Disk) (inode offset : Nat) (chunk : List UInt8) : Disk :=
  { disk with inodes := disk.inodes.modify (writeAt · offset chunk) inode }

/-- Where a `store` call is. -/
inductive StoreState
  | start
  /-- Inside `fs::write`: the file of `inode` is open and `offset` bytes are written. -/
  | writing (inode offset : Nat)
  | written
  | renamed
  | finished (ok : Bool)
  deriving DecidableEq, Repr

/-- The call is between the start of its `fs::write` and its return. -/
def StoreState.busy : StoreState → Bool
  | writing .. | written | renamed => true
  | _ => false

/-- A `store` call: its argument, where it is, and (ghost) what `config.json` held and `get()`
returned when the call began its `fs::write` and when it returned. -/
structure StoreCall where
  config : DatabaseConfig
  state : StoreState
  began : Option (Option (List UInt8) × DatabaseConfig)
  ended : Option (Option (List UInt8) × DatabaseConfig)
  deriving DecidableEq, Repr

/-- The directory, the snapshot behind the mutex, and every `store` call so far. -/
structure StoreSystem where
  disk : Disk
  snapshot : DatabaseConfig
  calls : List StoreCall
  deriving DecidableEq, Repr

/-- What `config.json` holds and what `get()` returns. -/
def StoreSystem.observed (st : StoreSystem) : Option (List UInt8) × DatabaseConfig :=
  (st.disk.configContent, st.snapshot)

/-- The steps of a run: a new call, or one step of a call.  When `serial`, a call begins only
while no other call is busy. -/
inductive Step (serial : Bool) : StoreSystem → StoreSystem → Prop
  | call (st : StoreSystem) (config : DatabaseConfig) :
      Step serial st { st with calls := st.calls ++ [⟨config, .start, none, none⟩] }
  | create (st : StoreSystem) (i : Nat) {config : DatabaseConfig}
      (h : st.calls[i]? = some ⟨config, .start, none, none⟩)
      (hserial : serial → ∀ c ∈ st.calls, c.state.busy = false) :
      Step serial st { st with
        disk := st.disk.create.2
        calls := st.calls.set i ⟨config, .writing st.disk.create.1 0, some st.observed, none⟩ }
  | createFail (st : StoreSystem) (i : Nat) {config : DatabaseConfig}
      (h : st.calls[i]? = some ⟨config, .start, none, none⟩)
      (hserial : serial → ∀ c ∈ st.calls, c.state.busy = false) :
      Step serial st { st with
        calls := st.calls.set i ⟨config, .finished false, some st.observed, some st.observed⟩ }
  | write (st : StoreSystem) (i inode offset : Nat) (chunk : List UInt8) {config : DatabaseConfig}
      {began : Option (Option (List UInt8) × DatabaseConfig)}
      (h : st.calls[i]? = some ⟨config, .writing inode offset, began, none⟩)
      (hchunk : chunk ≠ [] ∧ chunk <+: (toVecPretty config).drop offset) :
      Step serial st { st with
        disk := st.disk.write inode offset chunk
        calls := st.calls.set i ⟨config, .writing inode (offset + chunk.length), began, none⟩ }
  | close (st : StoreSystem) (i inode : Nat) {config : DatabaseConfig}
      {began : Option (Option (List UInt8) × DatabaseConfig)}
      (h : st.calls[i]? = some ⟨config, .writing inode (toVecPretty config).length, began, none⟩) :
      Step serial st { st with calls := st.calls.set i ⟨config, .written, began, none⟩ }
  | writeFail (st : StoreSystem) (i inode offset : Nat) {config : DatabaseConfig}
      {began : Option (Option (List UInt8) × DatabaseConfig)}
      (h : st.calls[i]? = some ⟨config, .writing inode offset, began, none⟩) :
      Step serial st { st with
        calls := st.calls.set i ⟨config, .finished false, began, some st.observed⟩ }
  | rename (st : StoreSystem) (i : Nat) {config : DatabaseConfig}
      {began : Option (Option (List UInt8) × DatabaseConfig)} {disk : Disk}
      (h : st.calls[i]? = some ⟨config, .written, began, none⟩) (hdisk : st.disk.rename = some disk) :
      Step serial st { st with disk, calls := st.calls.set i ⟨config, .renamed, began, none⟩ }
  | renameFail (st : StoreSystem) (i : Nat) {config : DatabaseConfig}
      {began : Option (Option (List UInt8) × DatabaseConfig)}
      (h : st.calls[i]? = some ⟨config, .written, began, none⟩) :
      Step serial st { st with
        calls := st.calls.set i ⟨config, .finished false, began, some st.observed⟩ }
  | swap (st : StoreSystem) (i : Nat) {config : DatabaseConfig}
      {began : Option (Option (List UInt8) × DatabaseConfig)}
      (h : st.calls[i]? = some ⟨config, .renamed, began, none⟩) :
      Step serial st { st with
        snapshot := config
        calls := st.calls.set i ⟨config, .finished true, began, some (st.disk.configContent, config)⟩ }

/-- The states of the runs of a store loaded from `disk` with snapshot `snapshot`; a crash
leaves the directory of any of them. -/
inductive Reachable (serial : Bool) (disk : Disk) (snapshot : DatabaseConfig) :
    StoreSystem → Prop
  | init (hwf : disk.WellFormed) : Reachable serial disk snapshot ⟨disk, snapshot, []⟩
  | step {st st' : StoreSystem} (hst : Reachable serial disk snapshot st)
      (hstep : Step serial st st') : Reachable serial disk snapshot st'

namespace Disk

variable {disk disk' : Disk}

@[simp] theorem create_tmp (disk : Disk) : disk.create.2.tmp = some disk.create.1 := by
  unfold create; split <;> simp_all

theorem WellFormed.create_inode (hwf : disk.WellFormed) :
    disk.create.2.inodes[disk.create.1]? = some [] := by
  unfold create
  split
  · next inode htmp => simp [hwf.tmp_lt inode htmp]
  · simp

/-- Truncating or creating `config.json~` leaves `config.json` alone. -/
theorem WellFormed.configContent_create (hwf : disk.WellFormed) :
    disk.create.2.configContent = disk.configContent := by
  unfold create configContent
  cases hc : disk.config with
  | none => split <;> simp [hc]
  | some n =>
    split
    · next inode htmp =>
      have hne : inode ≠ n := fun h => hwf.tmp_ne inode htmp (h ▸ hc)
      simp [hc, List.getElem?_set_ne hne]
    · simp [hc, List.getElem?_append_left (hwf.config_lt n hc)]

theorem WellFormed.create (hwf : disk.WellFormed) : disk.create.2.WellFormed := by
  unfold Disk.create
  split
  · exact ⟨by simpa using hwf.config_lt, by simpa using hwf.tmp_lt, by simpa using hwf.tmp_ne⟩
  · refine ⟨fun n hn => ?_, fun n hn => ?_, fun n hn hc => ?_⟩
    · simpa using Nat.lt_succ_of_lt (hwf.config_lt n hn)
    · simp_all
    · simp only [Option.some.injEq] at hn
      exact absurd (hwf.config_lt _ (hn ▸ hc)) (by omega)

theorem WellFormed.write (hwf : disk.WellFormed) (inode offset : Nat) (chunk : List UInt8) :
    (disk.write inode offset chunk).WellFormed :=
  ⟨by simpa [Disk.write] using hwf.config_lt, by simpa [Disk.write] using hwf.tmp_lt, hwf.tmp_ne⟩

/-- A write into the file of `config.json~` leaves `config.json` alone. -/
theorem WellFormed.configContent_write (hwf : disk.WellFormed) {inode : Nat}
    (htmp : disk.tmp = some inode) (offset : Nat) (chunk : List UInt8) :
    (disk.write inode offset chunk).configContent = disk.configContent := by
  unfold Disk.write configContent
  cases hc : disk.config with
  | none => simp [hc]
  | some n =>
    have hne : inode ≠ n := fun h => hwf.tmp_ne inode htmp (h ▸ hc)
    simp [hc, List.getElem?_modify, hne]

theorem rename_eq (h : disk.rename = some disk') :
    ∃ inode, disk.tmp = some inode ∧ disk' = { disk with config := some inode, tmp := none } :=
  let ⟨inode, htmp, heq⟩ := Option.map_eq_some'.1 h
  ⟨inode, htmp, heq.symm⟩

theorem WellFormed.rename (hwf : disk.WellFormed) (h : disk.rename = some disk') :
    disk'.WellFormed := by
  obtain ⟨inode, htmp, rfl⟩ := rename_eq h
  exact ⟨fun n hn => by cases hn; exact hwf.tmp_lt inode htmp, by simp, by simp⟩

end Disk

/-- Writing the next chunk of a document right after its written prefix extends the prefix. -/
theorem writeAt_take {data chunk : List UInt8} {offset : Nat}
    (hchunk : chunk ≠ [] ∧ chunk <+: data.drop offset) :
    writeAt (data.take offset) offset chunk = data.take (offset + chunk.length) := by
  have hlen : offset < data.length := by
    have := hchunk.2.length_le
    have := List.length_pos.2 hchunk.1
    simp only [List.length_drop] at *
    omega
  have htake : (data.take offset).length = offset := by simp; omega
  have hdrop : (data.take offset).drop (offset + chunk.length) = [] :=
    List.drop_eq_nil_of_le (by omega)
  rw [List.take_add, ← List.prefix_iff_eq_take.1 hchunk.2]
  simp [writeAt, htake, hdrop]

/-! ## Overlapping calls -/

/-- The directory of a database that has no `config.json` yet. -/
def emptyDisk : Disk := ⟨[], none, none⟩

theorem emptyDisk_wellFormed : emptyDisk.WellFormed := ⟨nofun, nofun, nofun⟩

/-- A configuration that blocks reads. -/
def blockedConfig : DatabaseConfig := ⟨true, false, none⟩

/-- Two overlapping calls on `emptyDisk`: the second truncates `config.json~` after the first
wrote it, and the first renames the empty file into place. -/
def emptiedState : StoreSystem :=
  ⟨⟨[[]], some 0, none⟩, .default,
    [⟨blockedConfig, .renamed, some (none, .default), none⟩,
      ⟨.default, .writing 0 0, some (none, .default), none⟩]⟩

theorem emptyDisk_emptied : Reachable false emptyDisk .default emptiedState := by
  have h0 : Reachable false emptyDisk .default _ := .init emptyDisk_wellFormed
  have h1 := h0.step (.call _ blockedConfig)
  have h2 := h1.step (.call _ .default)
  have h3 := h2.step (.create _ 0 rfl nofun)
  have h4 := h3.step
    (.write _ 0 0 0 (toVecPretty blockedConfig) rfl ⟨toVecPretty_ne_nil _, by simp⟩)
  have h5 := h4.step (.close _ 0 0 rfl)
  have h6 := h5.step (.create _ 1 rfl nofun)
  exact h6.step (.rename _ 0 rfl rfl)

/-- The first call of `emptiedState` then swaps, the second writes its whole document into
what is now `config.json` and its rename fails. -/
def overwrittenState : StoreSystem :=
  ⟨⟨[toVecPretty .default], some 0, none⟩, blockedConfig,
    [⟨blockedConfig, .finished true, some (none, .default), some (some [], blockedConfig)⟩,
      ⟨.default, .finished false, some (none, .default),
        some (some (toVecPretty .default), blockedConfig)⟩]⟩

theorem emptyDisk_overwritten : Reachable false emptyDisk .default overwrittenState := by
  have h8 := emptyDisk_emptied.step (.swap _ 0 rfl)
  have h9 := h8.step
    (.write _ 1 0 0 (toVecPretty .default) rfl ⟨toVecPretty_ne_nil _, by simp⟩)
  have h10 := h9.step (.close _ 1 0 rfl)
  simpa [emptiedState, Disk.write, writeAt, Disk.configContent, StoreSystem.observed] using
    h10.step (.renameFail _ 1 rfl)

/-- What `config.json` and `get()` show is what they showed at load, or the document and the
configuration of a call that returned `Ok`. -/
def Agrees (disk0 : Disk) (snapshot0 : DatabaseConfig) (calls : List StoreCall)
    (observed : Option (List UInt8) × DatabaseConfig) : Prop :=
  observed = (disk0.configContent, snapshot0) ∨
    ∃ c ∈ calls, c.state = .finished true ∧ observed = (some (toVecPretty c.config), c.config)

/-- Overlapping calls break both promises: the second call of `overwrittenState` returned an
error after its document had replaced the first call's in `config.json`, and now `config.json`
and `get()` disagree with no call in progress. -/
theorem overlapping_store_failure_leaks :
    ¬ ∀ (disk : Disk) (snapshot : DatabaseConfig) (st : StoreSystem),
      Reachable false disk snapshot st →
        (∀ c ∈ st.calls, c.state = .finished false → c.ended = c.began) ∧
          ((∀ c ∈ st.calls, c.state.busy = false) → Agrees disk snapshot st.calls st.observed) := by
  intro h
  have hfail := (h _ _ _ emptyDisk_overwritten).1 _
    (List.getElem?_mem (show overwrittenState.calls[1]? = some _ from rfl)) rfl
  simp [overwrittenState] at hfail

/-- Overlapping calls can leave an empty `config.json`: in `emptiedState` it is the file the
second call truncated. -/
theorem overlapping_stores_empty_config :
    ¬ ∀ (disk : Disk) (snapshot : DatabaseConfig) (st : StoreSystem),
      Reachable false disk snapshot st →
        (st.disk.configContent = none → disk.configContent = none) ∧
          ∀ content, st.disk.configContent = some content →
            disk.configContent = some content ∨ ∃ c ∈ st.calls, content = toVecPretty c.config := by
  intro h
  rcases (h _ _ _ emptyDisk_emptied).2 [] rfl with h | ⟨c, hc, h⟩
  · simp [emptyDisk, Disk.configContent] at h
  · exact toVecPretty_ne_nil _ h.symm

/-! ## Calls that do not overlap -/

/-- What a call's progress says about the directory and the snapshot: a call inside
`fs::write` owns `config.json~` and has written a prefix of its document into it, a call past
its rename has its whole document in `config.json`, and a call that failed saw nothing
change. -/
def StoreCall.Consistent (st : StoreSystem) (c : StoreCall) : Prop :=
  match c.state with
  | .start => True
  | .writing inode offset => st.disk.tmp = some inode ∧
      st.disk.inodes[inode]? = some ((toVecPretty c.config).take offset) ∧ c.began = some st.observed
  | .written => ∃ inode, st.disk.tmp = some inode ∧
      st.disk.inodes[inode]? = some (toVecPretty c.config) ∧ c.began = some st.observed
  | .renamed => st.disk.configContent = some (toVecPretty c.config) ∧
      ∃ content, c.began = some (content, st.snapshot)
  | .finished ok => ok = false → c.ended = c.began

/-- An idle call's consistency does not depend on the directory or the snapshot. -/
theorem StoreCall.Consistent.of_idle {st st' : StoreSystem} {c : StoreCall}
    (hc : c.state.busy = false) (h : c.Consistent st) : c.Consistent st' := by
  unfold StoreCall.Consistent at h ⊢
  cases hs : c.state <;> simp_all [StoreState.busy]

/-- Every call but the `i`-th is idle. -/
def OthersIdle (calls : List StoreCall) (i : Nat) : Prop :=
  ∀ j c, j ≠ i → calls[j]? = some c → c.state.busy = false

/-- At most one call is busy. -/
def BusyAlone (calls : List StoreCall) : Prop :=
  ∀ i c, calls[i]? = some c → c.state.busy → OthersIdle calls i

theorem OthersIdle.set {calls : List StoreCall} {i : Nat} (h : OthersIdle calls i)
    (new : StoreCall) : OthersIdle (calls.set i new) i :=
  fun j c hji hj => h j c hji (by rwa [List.getElem?_set_ne (Ne.symm hji)] at hj)

theorem OthersIdle.busyAlone {calls : List StoreCall} {i : Nat} (h : OthersIdle calls i) :
    BusyAlone calls := by
  intro k c hk hc j c' hjk hj
  by_cases hki : k = i
  · subst hki
    exact h j c' hjk hj
  · simp [h k c hki hk] at hc

theorem BusyAlone.append {calls : List StoreCall} (h : BusyAlone calls) {new : StoreCall}
    (hnew : new.state.busy = false) : BusyAlone (calls ++ [new]) := by
  intro k c hk hc j c' hjk hj
  rcases getElem?_append_singleton hk with hk | rfl
  · rcases getElem?_append_singleton hj with hj | rfl
    · exact h k c hk hc j c' hjk hj
    · exact hnew
  · simp [hnew] at hc

theorem Agrees.mono {disk0 : Disk} {snapshot0 : DatabaseConfig} {calls calls' : List StoreCall}
    {observed : Option (List UInt8) × DatabaseConfig} (h : Agrees disk0 snapshot0 calls observed)
    (hsub : ∀ c ∈ calls, c.state = .finished true → c ∈ calls') :
    Agrees disk0 snapshot0 calls' observed :=
  h.imp_right fun ⟨c, hc, hfin, hobs⟩ => ⟨c, hsub c hc hfin, hfin, hobs⟩

/-- The invariant of the runs in which calls do not overlap, for a store loaded from `disk0`
with snapshot `snapshot0`: outside a rename-then-swap, `config.json` and `get()` agree. -/
structure SerialInv (disk0 : Disk) (snapshot0 : DatabaseConfig) (st : StoreSystem) : Prop where
  wf : st.disk.WellFormed
  busyAlone : BusyAlone st.calls
  consistent : ∀ c ∈ st.calls, c.Consistent st
  agrees : (∀ c ∈ st.calls, c.state ≠ .renamed) → Agrees disk0 snapshot0 st.calls st.observed

namespace SerialInv

variable {disk0 : Disk} {snapshot0 : DatabaseConfig} {st st' : StoreSystem} {i : Nat}
  {old new : StoreCall}

theorem init (hwf : disk0.WellFormed) : SerialInv disk0 snapshot0 ⟨disk0, snapshot0, []⟩ :=
  ⟨hwf, by simp [BusyAlone], by simp, fun _ => .inl rfl⟩

/-- A step of the `i`-th call while the others are idle keeps the invariant when it keeps the
directory well formed and the call consistent, and keeps the observations agreeing. -/
theorem set (hinv : SerialInv disk0 snapshot0 st) (hidle : OthersIdle st.calls i)
    (hcalls : st'.calls = st.calls.set i new) (hwf : st'.disk.WellFormed)
    (hnew : new.Consistent st')
    (hagrees : (∀ c ∈ st'.calls, c.state ≠ .renamed) →
      Agrees disk0 snapshot0 st'.calls st'.observed) :
    SerialInv disk0 snapshot0 st' where
  wf := hwf
  busyAlone := hcalls ▸ (hidle.set new).busyAlone
  consistent c hc := by
    obtain ⟨j, hj⟩ := List.mem_iff_getElem?.1 hc
    rw [hcalls, List.getElem?_set] at hj
    split_ifs at hj with hij hlt
    · cases hj
      exact hnew
    · exact (hinv.consistent c (List.getElem?_mem hj)).of_idle (hidle j c (Ne.symm hij) hj)
  agrees := hagrees

/-- A step that moves the `i`-th call on from before its rename keeps the observations
agreeing when it does not change them. -/
theorem agrees_set (hinv : SerialInv disk0 snapshot0 st) (hold : st.calls[i]? = some old)
    (hrenamed : old.state ≠ .renamed) (hfinished : old.state ≠ .finished true)
    (hcalls : st'.calls = st.calls.set i new) (hobs : st'.observed = st.observed) :
    (∀ c ∈ st'.calls, c.state ≠ .renamed) → Agrees disk0 snapshot0 st'.calls st'.observed := by
  rw [hcalls, hobs]
  intro h
  exact (hinv.agrees (forall_mem_of_forall_mem_set h hold hrenamed)).mono fun c hc hfin =>
    mem_set_of_mem_of_ne hc hold (by rintro rfl; exact hfinished hfin) new

theorem othersIdle (hinv : SerialInv disk0 snapshot0 st) (hold : st.calls[i]? = some old)
    (hbusy : old.state.busy) : OthersIdle st.calls i :=
  hinv.busyAlone i old hold hbusy

theorem consistent_of_getElem? (hinv : SerialInv disk0 snapshot0 st)
    (hold : st.calls[i]? = some old) : old.Consistent st :=
  hinv.consistent old (List.getElem?_mem hold)

/-- Every step of a run without overlapping calls keeps the invariant. -/
theorem step (hinv : SerialInv disk0 snapshot0 st) (hstep : Step true st st') :
    SerialInv disk0 snapshot0 st' := by
  cases hstep with
  | call config =>
    refine ⟨hinv.wf, hinv.busyAlone.append rfl, fun c hc => ?_, fun h => ?_⟩
    · rcases List.mem_append.1 hc with hc | hc
      · exact hinv.consistent c hc
      · simp only [List.mem_singleton] at hc
        subst hc
        trivial
    · exact (hinv.agrees fun c hc => h c (List.mem_append_left _ hc)).mono
        fun c hc _ => List.mem_append_left _ hc
  | create i h hserial =>
    refine hinv.set (fun j c _ hj => hserial rfl c (List.getElem?_mem hj)) rfl hinv.wf.create
      ?_ (hinv.agrees_set h nofun nofun rfl ?_)
    · simp [StoreCall.Consistent, hinv.wf.create_inode, StoreSystem.observed,
        hinv.wf.configContent_create]
    · simp [StoreSystem.observed, hinv.wf.configContent_create]
  | createFail i h hserial =>
    exact hinv.set (fun j c _ hj => hserial rfl c (List.getElem?_mem hj)) rfl hinv.wf
      (fun _ => rfl) (hinv.agrees_set h nofun nofun rfl rfl)
  | write i inode offset chunk h hchunk =>
    obtain ⟨htmp, hinode, hbegan⟩ := hinv.consistent_of_getElem? h
    have hobs : ({ st with disk := st.disk.write inode offset chunk } : StoreSystem).observed =
        st.observed := by
      simp [StoreSystem.observed, hinv.wf.configContent_write htmp]
    refine hinv.set (hinv.othersIdle h rfl) rfl (hinv.wf.write inode offset chunk)
      ⟨htmp, ?_, hbegan.trans (congrArg some hobs.symm)⟩ (hinv.agrees_set h nofun nofun rfl hobs)
    simp [Disk.write, List.getElem?_modify, hinode, writeAt_take hchunk]
  | close i inode h =>
    obtain ⟨htmp, hinode, hbegan⟩ := hinv.consistent_of_getElem? h
    exact hinv.set (hinv.othersIdle h rfl) rfl hinv.wf
      ⟨inode, htmp, by simpa using hinode, hbegan⟩ (hinv.agrees_set h nofun nofun rfl rfl)
  | writeFail i inode offset h =>
    obtain ⟨-, -, hbegan⟩ := hinv.consistent_of_getElem? h
    exact hinv.set (hinv.othersIdle h rfl) rfl hinv.wf (fun _ => hbegan.symm)
      (hinv.agrees_set h nofun nofun rfl rfl)
  | rename i h hdisk =>
    obtain ⟨inode, htmp, hinode, hbegan⟩ := hinv.consistent_of_getElem? h
    obtain ⟨inode', htmp', rfl⟩ := Disk.rename_eq hdisk
    cases htmp.symm.trans htmp'
    have hlt := (List.getElem?_eq_some_iff.1 h).1
    refine hinv.set (hinv.othersIdle h rfl) rfl (hinv.wf.rename hdisk)
      ⟨by simpa [Disk.configContent] using hinode, _, hbegan⟩ fun hren => ?_
    exact absurd rfl (hren _ (List.mem_set _ _ hlt _))
  | renameFail i h =>
    obtain ⟨-, -, -, hbegan⟩ := hinv.consistent_of_getElem? h
    exact hinv.set (hinv.othersIdle h rfl) rfl hinv.wf (fun _ => hbegan.symm)
      (hinv.agrees_set h nofun nofun rfl rfl)
  | swap i h =>
    obtain ⟨hcontent, -⟩ := hinv.consistent_of_getElem? h
    have hlt := (List.getElem?_eq_some_iff.1 h).1
    exact hinv.set (hinv.othersIdle h rfl) rfl hinv.wf nofun fun _ =>
      .inr ⟨_, List.mem_set _ _ hlt _, rfl, by simp [StoreSystem.observed, hcontent]⟩

end SerialInv

/-- Every state of a run without overlapping calls satisfies the invariant. -/
theorem Reachable.serialInv {disk0 : Disk} {snapshot0 : DatabaseConfig} {st : StoreSystem}
    (hreach : Reachable true disk0 snapshot0 st) : SerialInv disk0 snapshot0 st := by
  induction hreach with
  | init hwf => exact .init hwf
  | step _ hstep ih => exact ih.step hstep

/-- In a run without overlapping calls, `config.json` holds what it held at load or the whole
document of a call that renamed it into place. -/
theorem SerialInv.configContent {disk0 : Disk} {snapshot0 : DatabaseConfig} {st : StoreSystem}
    (hinv : SerialInv disk0 snapshot0 st) :
    st.disk.configContent = disk0.configContent ∨
      ∃ c ∈ st.calls, st.disk.configContent = some (toVecPretty c.config) := by
  by_cases hren : ∃ c ∈ st.calls, c.state = .renamed
  · obtain ⟨c, hc, hs⟩ := hren
    have hcons := hinv.consistent c hc
    simp only [StoreCall.Consistent, hs] at hcons
    exact .inr ⟨c, hc, hcons.1⟩
  · push_neg at hren
    rcases hinv.agrees hren with h | ⟨c, hc, -, h⟩
    · exact .inl (congrArg Prod.fst h)
    · exact .inr ⟨c, hc, congrArg Prod.fst h⟩

/-- When calls do not overlap, a call that returned an error saw `config.json` and `get()`
unchanged, and whenever no call is busy they agree: both are what they were at load, or
`config.json` holds the document of the configuration that `get()` returns, which a call that
returned `Ok` stored. -/
theorem serial_store_failure_atomic {disk0 : Disk} {snapshot0 : DatabaseConfig}
    {st : StoreSystem} (hreach : Reachable true disk0 snapshot0 st) :
    (∀ c ∈ st.calls, c.state = .finished false → c.ended = c.began) ∧
      ((∀ c ∈ st.calls, c.state.busy = false) → Agrees disk0 snapshot0 st.calls st.observed) := by
  have hinv := hreach.serialInv
  refine ⟨fun c hc hs => ?_, fun hidle => hinv.agrees fun c hc hs => ?_⟩
  · simpa [StoreCall.Consistent, hs] using hinv.consistent c hc
  · simpa [hs, StoreState.busy] using hidle c hc

/-- One call stores `blockedConfig` on `emptyDisk`; a second call writes three bytes of its
document and fails. -/
def storedState : StoreSystem :=
  ⟨⟨[toVecPretty blockedConfig, (toVecPretty .default).take 3], some 0, some 1⟩, blockedConfig,
    [⟨blockedConfig, .finished true, some (none, .default),
        some (some (toVecPretty blockedConfig), blockedConfig)⟩,
      ⟨.default, .finished false, some (some (toVecPretty blockedConfig), blockedConfig),
        some (some (toVecPretty blockedConfig), blockedConfig)⟩]⟩

theorem emptyDisk_stored : Reachable true emptyDisk .default storedState := by
  have h0 : Reachable true emptyDisk .default _ := .init emptyDisk_wellFormed
  have h1 := h0.step (.call _ blockedConfig)
  have h2 := h1.step (.create _ 0 rfl fun _ => by decide)
  have h3 := h2.step
    (.write _ 0 0 0 (toVecPretty blockedConfig) rfl ⟨toVecPretty_ne_nil _, by simp⟩)
  have h4 := h3.step (.close _ 0 0 rfl)
  have h5 := h4.step (.rename _ 0 rfl rfl)
  have h6 := h5.step (.swap _ 0 rfl)
  have h7 := h6.step (.call _ .default)
  have h8 := h7.step (.create _ 1 rfl fun _ => by decide)
  have h9 := h8.step
    (.write _ 1 1 0 ((toVecPretty .default).take 3) rfl ⟨by decide, List.take_prefix 3 _⟩)
  simpa [emptyDisk, Disk.create, Disk.write, writeAt, Disk.configContent, StoreSystem.observed]
    using h9.step (.writeFail _ 1 1 3 rfl)

theorem serial_store_failure_atomic_stored :
    Reachable true emptyDisk .default storedState ∧
      (∀ c ∈ storedState.calls, c.state = .finished false → c.ended = c.began) ∧
        ((∀ c ∈ storedState.calls, c.state.busy = false) →
          Agrees emptyDisk .default storedState.calls storedState.observed) :=
  ⟨emptyDisk_stored, serial_store_failure_atomic emptyDisk_stored⟩

end Config
end Sqld
