import Sqld.Hrana.Session
import Sqld.Hrana.Cursor

/-!
# Progress of `FetchCursor`

`handle_request` turns a `FetchCursor` request into a job whose size bound is
`max_total_size = max_response_size / 8`, and the job's loop fetches only while the sizes
fetched so far are below that bound.  So the first fetch of a request happens exactly when the
bound is positive:

* from `max_response_size = 8` on, a request with `max_count ≥ 1` on a cursor that has an
  entry returns at least one, and a client that repeats the request until `done` gets the `k`
  entries of a finite cursor in at most `k + 1` requests (`fetchCursor_progress`);
* below 8 the bound is `0`: on every cursor every response is empty and not `done`, and the
  client never finishes (`fetchUntilDone_below_eight`).
-/

namespace Sqld
namespace Hrana

variable {A D P : Type}

/-- A `FetchCursor` request that `handle_request` accepts queues the job with the size bound
`max_response_size / 8`. -/
theorem handleRequest_fetchCursor_ok {server : Server A} {compilers : Compilers P}
    {sys sys' : System A D} {cursorId : I32} {maxCount : UInt32}
    (h : handleRequest server compilers sys (.fetchCursor cursorId maxCount) = (.ok, sys')) :
    ∃ streamHnd, sys' = sys.streamRespond streamHnd
      (.fetchCursor cursorId maxCount.toNat (server.maxResponseSize / 8)) := by
  simp only [handleRequest] at h
  split at h
  · simp at h
  split at h
  · simp at h
  split at h
  · simp at h
  split at h
  · simp at h
  · exact ⟨_, (Prod.mk.inj h).2.symm⟩

namespace Cursor

variable {ε E : Type}

/-- A client that sends `FetchCursor` with the given `max_count`s, one after another, and stops
at the first response that says `done` or at the first error: the responses it gets. -/
def fetchUntilDone (maxTotalSize : Nat) :
    List Nat → CursorHandle ε E → List (Except ε (FetchCursorResp E))
  | [], _ => []
  | maxCount :: maxCounts, hnd =>
    match fetchCursor maxCount maxTotalSize hnd with
    | (.ok resp, hnd) => .ok resp :: if resp.done then [] else fetchUntilDone maxTotalSize maxCounts hnd
    | (.error e, _) => [.error e]

section Produced

variable (produced : Nat → Option (SizedEntry E)) {maxTotalSize : Nat}

/-- With a positive bound and `max_count ≥ 1`, a request on a cursor that has an entry fetches
at least one. -/
theorem fetchCursor_ofProduced_ne_nil (hsize : 0 < maxTotalSize) {maxCount position : Nat}
    (hcount : 0 < maxCount) (hp : (produced position).isSome) :
    ∃ fetched : List (SizedEntry E), ∃ done : Bool,
      fetchCursor maxCount maxTotalSize (CursorHandle.ofProduced produced position : CursorHandle ε E) =
        (.ok ⟨fetched.map (·.entry), done⟩, .ofProduced produced (position + fetched.length)) ∧
      fetched ≠ [] ∧
      (∀ k (h : k < fetched.length), produced (position + k) = some fetched[k]) ∧
      (done = true → produced (position + fetched.length) = none) := by
  obtain ⟨fetched, done, heq, hat, -, -, hdone, hmore⟩ :=
    fetchLoop_ofProduced produced maxTotalSize maxCount position [] 0
  refine ⟨fetched, done, by simpa [fetchCursor] using heq, ?_, hat, hdone⟩
  rintro rfl
  cases done with
  | true =>
    have := hdone rfl
    simp only [List.length_nil, Nat.add_zero] at this
    simp [this] at hp
  | false => rcases hmore rfl with h | h <;> (try simp at h) <;> omega

/-- A request on a cursor that has run out says `done` with no entry. -/
theorem fetchCursor_ofProduced_done (hsize : 0 < maxTotalSize) {maxCount position : Nat}
    (hcount : 0 < maxCount) (hp : produced position = none) :
    fetchCursor maxCount maxTotalSize (CursorHandle.ofProduced produced position : CursorHandle ε E) =
      (.ok ⟨[], true⟩, .ofProduced produced position) := by
  obtain ⟨room, rfl⟩ := Nat.exists_eq_add_of_lt hcount
  simp [fetchCursor, fetchLoop, hsize, CursorHandle.fetch_ofProduced_none produced hp]

/-- The client's loop from `position` on a cursor of `k` entries: it stops within
`k - position + 1` requests, on a `done` response, with the entries from `position` on. -/
theorem fetchUntilDone_ofProduced (hsize : 0 < maxTotalSize) {k : Nat}
    (hsome : ∀ j < k, (produced j).isSome) (hnone : produced k = none) :
    ∀ (maxCounts : List Nat) (position : Nat), (∀ m ∈ maxCounts, 0 < m) → position ≤ k →
      k - position < maxCounts.length →
      ∃ resps : List (FetchCursorResp E),
        fetchUntilDone maxTotalSize maxCounts
            (CursorHandle.ofProduced produced position : CursorHandle ε E) = resps.map .ok ∧
        resps.length ≤ k - position + 1 ∧ resps.getLast?.map (·.done) = some true ∧
        (resps.map (·.entries)).flatten =
          (List.range' position (k - position)).filterMap fun j => (produced j).map (·.entry)
  | [], _, _, _, hlen => absurd hlen (Nat.not_lt_zero _)
  | maxCount :: maxCounts, position, hpos, hle, hlen => by
    have hcount := hpos maxCount (List.mem_cons_self _ _)
    rcases Nat.eq_or_lt_of_le hle with rfl | hlt
    · refine ⟨[⟨[], true⟩], ?_, by simp, rfl, by simp⟩
      rw [fetchUntilDone, fetchCursor_ofProduced_done produced hsize hcount hnone]; rfl
    obtain ⟨fetched, done, heq, hne, hat, hdone⟩ :=
      fetchCursor_ofProduced_ne_nil produced hsize hcount (hsome position hlt)
    -- the entries fetched are all before the end of the cursor
    have hend : position + fetched.length ≤ k := by
      by_contra hgt
      have := hat (k - position) (by omega)
      rw [Nat.add_sub_cancel' hle, hnone] at this
      exact Option.noConfusion this
    have hfetched := filterMap_range'_of_fetched produced fetched position hat
    have hsplit : List.range' position (k - position) =
        List.range' position fetched.length ++
          List.range' (position + fetched.length) (k - (position + fetched.length)) := by
      rw [List.range'_append_1]; congr 1; omega
    have hlen' : 0 < fetched.length := List.length_pos.2 hne
    cases done with
    | true =>
      have hk : position + fetched.length = k := by
        by_contra hne'
        have := hsome (position + fetched.length) (by omega)
        rw [hdone rfl] at this
        simp at this
      refine ⟨[⟨fetched.map (·.entry), true⟩], by rw [fetchUntilDone, heq]; rfl, by simp, rfl, ?_⟩
      rw [hsplit, ← hk, Nat.sub_self, List.range'_zero, List.append_nil, hfetched]
      simp
    | false =>
      obtain ⟨resps, hrun, hrlen, hlast, hflat⟩ := fetchUntilDone_ofProduced hsize hsome hnone
        maxCounts (position + fetched.length) (fun m hm => hpos m (List.mem_cons_of_mem _ hm))
        hend (by simp only [List.length_cons] at hlen; omega)
      have hresps : resps ≠ [] := by rintro rfl; simp at hlast
      refine ⟨⟨fetched.map (·.entry), false⟩ :: resps, by rw [fetchUntilDone, heq]; simp [hrun],
        by simp only [List.length_cons]; omega, ?_, ?_⟩
      · obtain ⟨b, l, rfl⟩ := List.exists_cons_of_ne_nil hresps
        simpa [List.getLast?_cons_cons] using hlast
      · rw [List.map_cons, List.flatten_cons, hflat, hsplit, List.filterMap_append, hfetched]

end Produced

/-- From `max_response_size = 8` on: `handle_request` queues every `FetchCursor` job it accepts
with the size bound `max_response_size / 8`; a request with `max_count ≥ 1` on a cursor that
has an entry returns at least one; and on a cursor of `k` entries, a client that repeats the
request (each with `max_count ≥ 1`) until `done` stops within `k + 1` requests, on a `done`
response, having received the `k` entries in order. -/
theorem fetchCursor_progress (produced : Nat → Option (SizedEntry E)) {maxResponseSize : Nat}
    (h8 : 8 ≤ maxResponseSize) :
    (∀ {A D P : Type} (server : Server A) (compilers : Compilers P) (sys sys' : System A D)
        (cursorId : I32) (maxCount : UInt32), server.maxResponseSize = maxResponseSize →
        handleRequest server compilers sys (.fetchCursor cursorId maxCount) = (.ok, sys') →
        ∃ streamHnd, sys' = sys.streamRespond streamHnd
          (.fetchCursor cursorId maxCount.toNat (maxResponseSize / 8))) ∧
    (∀ maxCount position, 0 < maxCount → (produced position).isSome →
      ∃ resp, (fetchCursor maxCount (maxResponseSize / 8)
          (CursorHandle.ofProduced produced position : CursorHandle ε E)).1 = .ok resp ∧
        resp.entries ≠ []) ∧
    ∀ k, (∀ j < k, (produced j).isSome) → produced k = none →
      ∀ maxCounts : List Nat, (∀ m ∈ maxCounts, 0 < m) → k < maxCounts.length →
        ∃ resps : List (FetchCursorResp E),
          fetchUntilDone (maxResponseSize / 8) maxCounts
              (CursorHandle.ofProduced produced 0 : CursorHandle ε E) = resps.map .ok ∧
          resps.length ≤ k + 1 ∧ resps.getLast?.map (·.done) = some true ∧
          (resps.map (·.entries)).flatten =
            (List.range k).filterMap fun j => (produced j).map (·.entry) := by
  have hsize : 0 < maxResponseSize / 8 := Nat.div_pos h8 (by decide)
  refine ⟨fun _ _ _ _ _ _ hm h => hm ▸ handleRequest_fetchCursor_ok h,
    fun maxCount position hcount hp => ?_, fun k hsome hnone maxCounts hpos hlen => ?_⟩
  · obtain ⟨fetched, done, heq, hne, -⟩ :=
      fetchCursor_ofProduced_ne_nil produced hsize hcount hp
    exact ⟨_, by rw [heq], by simpa using hne⟩
  · simpa [List.range_eq_range'] using
      fetchUntilDone_ofProduced produced hsize hsome hnone maxCounts 0 hpos (Nat.zero_le k)
        (by omega)

/-- A cursor of two entries; the server has the default limit of 10 MB. -/
def twoEntries : Nat → Option (SizedEntry Nat) := fun k => [⟨1, 3⟩, ⟨2, 5⟩][k]?

theorem fetchCursor_progress_twoEntries :
    8 ≤ 10000000 ∧
    ((∀ {A D P : Type} (server : Server A) (compilers : Compilers P) (sys sys' : System A D)
        (cursorId : I32) (maxCount : UInt32), server.maxResponseSize = 10000000 →
        handleRequest server compilers sys (.fetchCursor cursorId maxCount) = (.ok, sys') →
        ∃ streamHnd, sys' = sys.streamRespond streamHnd
          (.fetchCursor cursorId maxCount.toNat (10000000 / 8))) ∧
    (∀ maxCount position, 0 < maxCount → (twoEntries position).isSome →
      ∃ resp, (fetchCursor maxCount (10000000 / 8)
          (CursorHandle.ofProduced twoEntries position : CursorHandle Unit Nat)).1 = .ok resp ∧
        resp.entries ≠ []) ∧
    ∀ k, (∀ j < k, (twoEntries j).isSome) → twoEntries k = none →
      ∀ maxCounts : List Nat, (∀ m ∈ maxCounts, 0 < m) → k < maxCounts.length →
        ∃ resps : List (FetchCursorResp Nat),
          fetchUntilDone (10000000 / 8) maxCounts
              (CursorHandle.ofProduced twoEntries 0 : CursorHandle Unit Nat) = resps.map .ok ∧
          resps.length ≤ k + 1 ∧ resps.getLast?.map (·.done) = some true ∧
          (resps.map (·.entries)).flatten =
            (List.range k).filterMap fun j => (twoEntries j).map (·.entry)) :=
  ⟨by decide, fetchCursor_progress twoEntries (by decide)⟩

/-- A request with the bound `0` fetches nothing and leaves the cursor where it was. -/
theorem fetchCursor_zero (maxCount : Nat) (hnd : CursorHandle ε E) :
    fetchCursor maxCount 0 hnd = (.ok ⟨[], false⟩, hnd) := by
  cases maxCount <;> rfl

/-- Below `max_response_size = 8` the bound `max_response_size / 8` is `0`: on every cursor,
whatever it would produce, every request answers no entry and not `done`, so a client that
repeats the request until `done` never finishes. -/
theorem fetchUntilDone_below_eight (maxResponseSize : Fin 8) (maxCounts : List Nat)
    (hnd : CursorHandle ε E) :
    fetchUntilDone (maxResponseSize.val / 8) maxCounts hnd =
      List.replicate maxCounts.length (.ok ⟨[], false⟩) := by
  have hzero : maxResponseSize.val / 8 = 0 := Nat.div_eq_of_lt maxResponseSize.isLt
  rw [hzero]
  induction maxCounts with
  | nil => rfl
  | cons maxCount maxCounts ih =>
    rw [fetchUntilDone, fetchCursor_zero, List.length_cons, List.replicate_succ, ← ih]
    rfl

/-- Progress fails below 8: with `max_response_size = 7`, even on a cursor with no entry the
first request answers not `done`, and so does every later one. -/
theorem fetchUntilDone_stalls_below_eight :
    ¬ ∀ (maxResponseSize : Nat) (produced : Nat → Option (SizedEntry Unit)) (maxCounts : List Nat),
        (∀ m ∈ maxCounts, 0 < m) → produced 0 = none → maxCounts ≠ [] →
        ∃ resps : List (FetchCursorResp Unit),
          fetchUntilDone (maxResponseSize / 8) maxCounts
              (CursorHandle.ofProduced produced 0 : CursorHandle Unit Unit) = resps.map .ok ∧
          resps.getLast?.map (·.done) = some true := by
  intro h
  obtain ⟨resps, hrun, hlast⟩ := h 7 (fun _ => none) [1] (by simp) rfl (List.cons_ne_nil _ _)
  rw [show (7 : Nat) = (7 : Fin 8).val from rfl, fetchUntilDone_below_eight] at hrun
  obtain ⟨resp, rest, rfl, hresp, hrest⟩ := List.map_eq_cons_iff.1 hrun.symm
  cases hresp
  rw [List.replicate_zero, List.map_eq_nil_iff] at hrest
  subst hrest
  cases hlast

end Cursor
end Hrana
end Sqld
