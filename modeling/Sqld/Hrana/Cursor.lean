import Mathlib

/-!
# Draining a cursor

The `FetchCursor` job fetches entries from the stream's cursor while it has fetched fewer than
`max_count` and their sizes sum to less than `max_response_size / 8`, and answers `done` when the
cursor reports that it is exhausted:

```
while entries.len() < max_count && total_size < max_total_size {
    let Some(sized_entry) = cursor_hnd.fetch().await? else { done = true; break };
    entries.push(sized_entry.entry);
    total_size += sized_entry.size;
}
```

`cursor.rs` is not part of the source, so the cursor handle is a parameter: the result each of its
fetches gives, in order.  Over a cursor that gives no error, each response is bounded as the loop
says, and the responses of successive requests are, in order, the cursor's output up to where
the last one stopped, all of it once one of them said `done`.
-/

namespace Sqld
namespace Hrana
namespace Cursor

variable {ε E : Type}

/-- `cursor::SizedEntry`: an entry of a cursor's output, with its size. -/
structure SizedEntry (E : Type) where
  entry : E
  size : Nat
  deriving DecidableEq, Repr

/-- `proto::FetchCursorResp`. -/
structure FetchCursorResp (E : Type) where
  entries : List E
  done : Bool
  deriving DecidableEq, Repr

/-- A cursor handle: what each of its fetches returns, in order, and how many entries it has
returned so far. -/
structure CursorHandle (ε E : Type) where
  fetchResult : Nat → Except ε (Option (SizedEntry E))
  position : Nat

/-- `CursorHandle::fetch`: the next result; the handle moves past each entry it returns. -/
def CursorHandle.fetch (hnd : CursorHandle ε E) : Except ε (Option (SizedEntry E)) × CursorHandle ε E :=
  match hnd.fetchResult hnd.position with
  | .ok (some sizedEntry) => (.ok (some sizedEntry), { hnd with position := hnd.position + 1 })
  | result => (result, hnd)

/-- The loop of the `FetchCursor` job, with `room = max_count - entries.len()`. -/
def fetchLoop (maxTotalSize : Nat) :
    Nat → CursorHandle ε E → List E → Nat → Except ε (FetchCursorResp E) × CursorHandle ε E
  | 0, hnd, entries, _ => (.ok ⟨entries, false⟩, hnd)
  | room + 1, hnd, entries, totalSize =>
    if totalSize < maxTotalSize then
      match hnd.fetch with
      | (.error e, hnd) => (.error e, hnd)
      | (.ok none, hnd) => (.ok ⟨entries, true⟩, hnd)
      | (.ok (some sizedEntry), hnd) =>
        fetchLoop maxTotalSize room hnd (entries ++ [sizedEntry.entry]) (totalSize + sizedEntry.size)
    else (.ok ⟨entries, false⟩, hnd)

/-- The `FetchCursor` job on the stream's cursor handle. -/
def fetchCursor (maxCount maxTotalSize : Nat) (hnd : CursorHandle ε E) :
    Except ε (FetchCursorResp E) × CursorHandle ε E :=
  fetchLoop maxTotalSize maxCount hnd [] 0

/-- Successive `FetchCursor` jobs on one cursor, with the given `max_count`s. -/
def fetchCursors (maxTotalSize : Nat) :
    List Nat → CursorHandle ε E → List (Except ε (FetchCursorResp E)) × CursorHandle ε E
  | [], hnd => ([], hnd)
  | maxCount :: maxCounts, hnd =>
    let first := fetchCursor maxCount maxTotalSize hnd
    let rest := fetchCursors maxTotalSize maxCounts first.2
    (first.1 :: rest.1, rest.2)

/-- The handle of a cursor whose `k`-th fetch gives `produced k`, and never an error. -/
def CursorHandle.ofProduced (produced : Nat → Option (SizedEntry E)) (position : Nat) :
    CursorHandle ε E :=
  ⟨fun k => .ok (produced k), position⟩

section Produced

variable (produced : Nat → Option (SizedEntry E)) (maxTotalSize : Nat)

theorem CursorHandle.fetch_ofProduced_some {position : Nat} {sizedEntry : SizedEntry E}
    (h : produced position = some sizedEntry) :
    (CursorHandle.ofProduced produced position : CursorHandle ε E).fetch =
      (.ok (some sizedEntry), .ofProduced produced (position + 1)) := by
  simp [fetch, ofProduced, h]

theorem CursorHandle.fetch_ofProduced_none {position : Nat} (h : produced position = none) :
    (CursorHandle.ofProduced produced position : CursorHandle ε E).fetch =
      (.ok none, .ofProduced produced position) := by
  simp [fetch, ofProduced, h]

/-- One run of the loop: it fetches the next entries of the cursor, fewer than `room` and while
their sizes stay under the bound, and says `done` exactly when the cursor ran out. -/
theorem fetchLoop_ofProduced :
    ∀ (room position : Nat) (entries : List E) (totalSize : Nat),
      ∃ fetched : List (SizedEntry E), ∃ done : Bool,
        fetchLoop maxTotalSize room (CursorHandle.ofProduced produced position : CursorHandle ε E)
            entries totalSize =
          (.ok ⟨entries ++ fetched.map (·.entry), done⟩,
            .ofProduced produced (position + fetched.length)) ∧
        (∀ k (h : k < fetched.length), produced (position + k) = some fetched[k]) ∧
        fetched.length ≤ room ∧
        (fetched ≠ [] → totalSize + (fetched.dropLast.map (·.size)).sum < maxTotalSize) ∧
        (done = true → produced (position + fetched.length) = none) ∧
        (done = false →
          fetched.length = room ∨ maxTotalSize ≤ totalSize + (fetched.map (·.size)).sum)
  | 0, position, entries, totalSize =>
    ⟨[], false, by simp [fetchLoop], by simp, le_rfl, by simp, by simp, by simp⟩
  | room + 1, position, entries, totalSize => by
    by_cases ht : totalSize < maxTotalSize
    · cases hp : produced position with
      | none =>
        refine ⟨[], true, ?_, by simp, by simp, by simp, by simpa using hp, by simp⟩
        simp [fetchLoop, ht, CursorHandle.fetch_ofProduced_none produced hp]
      | some sizedEntry =>
        obtain ⟨fetched, done, heq, hat, hlen, hsize, hdone, hmore⟩ :=
          fetchLoop_ofProduced room (position + 1) (entries ++ [sizedEntry.entry])
            (totalSize + sizedEntry.size)
        refine ⟨sizedEntry :: fetched, done, ?_, fun k hk => ?_, by simpa using hlen,
          fun _ => ?_, fun h => ?_, fun h => ?_⟩
        · simp only [fetchLoop, ht, if_true, CursorHandle.fetch_ofProduced_some produced hp, heq,
            List.map_cons, List.append_assoc, List.singleton_append, List.length_cons]
          rw [Nat.add_right_comm, Nat.add_assoc]
        · cases k with
          | zero => simpa using hp
          | succ k => simpa [Nat.add_right_comm, Nat.add_assoc] using hat k (by simpa using hk)
        · cases fetched with
          | nil => simpa using ht
          | cons next rest =>
            have := hsize (List.cons_ne_nil _ _)
            simp only [List.dropLast_cons₂, List.map_cons, List.sum_cons] at this ⊢
            omega
        · simpa [Nat.add_right_comm, Nat.add_assoc, Nat.add_comm 1] using hdone h
        · rcases hmore h with hl | hs
          · exact .inl (by simp [hl])
          · exact .inr (by simp only [List.map_cons, List.sum_cons]; omega)
    · exact ⟨[], false, by simp [fetchLoop, ht], by simp, by simp, by simp, by simp,
        fun _ => .inr (by simp; omega)⟩

/-- The entries a cursor gives at the positions from `position` on are those it fetched there. -/
theorem filterMap_range'_of_fetched :
    ∀ (fetched : List (SizedEntry E)) (position : Nat),
      (∀ k (h : k < fetched.length), produced (position + k) = some fetched[k]) →
      (List.range' position fetched.length).filterMap (fun k => (produced k).map (·.entry)) =
        fetched.map (·.entry)
  | [], _, _ => rfl
  | sizedEntry :: fetched, position, h => by
    have h0 : produced position = some sizedEntry := by simpa using h 0 (by simp)
    have ih := filterMap_range'_of_fetched fetched (position + 1) fun k hk => by
      simpa [Nat.add_right_comm, Nat.add_assoc] using h (k + 1) (by simpa using hk)
    simp [List.range'_succ, h0, ih]

/-- A cursor that has run out gives nothing more. -/
theorem fetchLoop_ofProduced_exhausted {room position : Nat} {entries : List E} {totalSize : Nat}
    (h : produced position = none) :
    ∃ done : Bool,
      fetchLoop maxTotalSize room (CursorHandle.ofProduced produced position : CursorHandle ε E)
          entries totalSize =
        (.ok ⟨entries, done⟩, .ofProduced produced position) := by
  obtain ⟨fetched, done, heq, hat, -⟩ :=
    fetchLoop_ofProduced produced maxTotalSize room position entries totalSize
  cases fetched with
  | nil => exact ⟨done, by simpa using heq⟩
  | cons sizedEntry _ => simpa [h] using hat 0 (by simp)

/-- Successive requests from `position` return, in order, the cursor's entries from `position`
up to where the last one stopped, and stop where the cursor ran out once one says `done`. -/
theorem fetchCursors_ofProduced :
    ∀ (maxCounts : List Nat) (position : Nat),
      ∃ resps : List (FetchCursorResp E), ∃ final : Nat,
        fetchCursors maxTotalSize maxCounts
            (CursorHandle.ofProduced produced position : CursorHandle ε E) =
          (resps.map .ok, .ofProduced produced final) ∧
        position ≤ final ∧
        (resps.map (·.entries)).flatten =
          (List.range' position (final - position)).filterMap (fun k => (produced k).map (·.entry)) ∧
        (∀ k, position ≤ k → k < final → (produced k).isSome) ∧
        (produced position = none → final = position) ∧
        ((∃ resp ∈ resps, resp.done = true) → produced final = none)
  | [], position => ⟨[], position, rfl, le_rfl, by simp, fun k h1 h2 => by omega,
      fun _ => rfl, by simp⟩
  | maxCount :: maxCounts, position => by
    obtain ⟨fetched, done, heq, hat, -, -, hdone, -⟩ :=
      fetchLoop_ofProduced produced maxTotalSize maxCount position [] 0
    obtain ⟨resps, final, hrest, hle, hflat, hsome, hstay, hfinal⟩ :=
      fetchCursors_ofProduced maxCounts (position + fetched.length)
    refine ⟨⟨fetched.map (·.entry), done⟩ :: resps, final, ?_, by omega, ?_, fun k h1 h2 => ?_,
      fun h => ?_, fun ⟨resp, hmem, hresp⟩ => ?_⟩
    · simp only [fetchCursors, fetchCursor]
      rw [heq]
      simp [hrest]
    · have hsplit : final - position = final - (position + fetched.length) + fetched.length := by
        omega
      rw [List.map_cons, List.flatten_cons, hflat, hsplit,
        ← List.range'_append_1 position fetched.length (final - (position + fetched.length)),
        List.filterMap_append, filterMap_range'_of_fetched produced fetched position hat]
    · by_cases hk : k < position + fetched.length
      · obtain ⟨j, rfl⟩ := Nat.exists_eq_add_of_le h1
        simp [hat j (by omega)]
      · exact hsome k (by omega) h2
    · cases fetched with
      | nil => simpa using hstay (by simpa using h)
      | cons sizedEntry _ => simpa [h] using hat 0 (by simp)
    · rcases List.mem_cons.mp hmem with rfl | hmem
      · rw [hstay (hdone hresp)]
        exact hdone hresp
      · exact hfinal ⟨resp, hmem, hresp⟩

end Produced

/-- Over a cursor that gives no error: each `FetchCursor` response holds at most `max_count`
entries, the sizes of all its entries but the last sum to less than `max_total_size`, it says
`done` only when the cursor ran out during the request and stops otherwise only at `max_count`
entries or `max_total_size`; and the responses of successive requests are, in order, the
cursor's output with no entry lost or repeated, all of it once one of them said `done`. -/
theorem fetchCursor_drains (produced : Nat → Option (SizedEntry E)) (maxTotalSize : Nat) :
    (∀ maxCount position, ∃ fetched : List (SizedEntry E), ∃ done : Bool,
      fetchCursor maxCount maxTotalSize (CursorHandle.ofProduced produced position : CursorHandle ε E) =
        (.ok ⟨fetched.map (·.entry), done⟩, .ofProduced produced (position + fetched.length)) ∧
      (∀ k (h : k < fetched.length), produced (position + k) = some fetched[k]) ∧
      fetched.length ≤ maxCount ∧
      (fetched ≠ [] → (fetched.dropLast.map (·.size)).sum < maxTotalSize) ∧
      (done = true → produced (position + fetched.length) = none) ∧
      (done = false → fetched.length = maxCount ∨ maxTotalSize ≤ (fetched.map (·.size)).sum)) ∧
    ∀ maxCounts : List Nat, ∃ resps : List (FetchCursorResp E), ∃ final : Nat,
      fetchCursors maxTotalSize maxCounts (CursorHandle.ofProduced produced 0 : CursorHandle ε E) =
        (resps.map .ok, .ofProduced produced final) ∧
      (resps.map (·.entries)).flatten = (List.range final).filterMap (fun k => (produced k).map (·.entry)) ∧
      (∀ k < final, (produced k).isSome) ∧
      ((∃ resp ∈ resps, resp.done = true) → produced final = none) := by
  refine ⟨fun maxCount position => ?_, fun maxCounts => ?_⟩
  · obtain ⟨fetched, done, heq, hat, hlen, hsize, hdone, hmore⟩ :=
      fetchLoop_ofProduced produced maxTotalSize maxCount position [] 0
    exact ⟨fetched, done, by simpa [fetchCursor] using heq, hat, hlen,
      fun h => by simpa using hsize h, hdone, fun h => by simpa using hmore h⟩
  · obtain ⟨resps, final, heq, -, hflat, hsome, -, hfinal⟩ :=
      fetchCursors_ofProduced produced maxTotalSize maxCounts 0
    exact ⟨resps, final, heq, by simpa [List.range_eq_range'] using hflat,
      fun k hk => hsome k (Nat.zero_le k) hk, hfinal⟩

/- The first response stops when its sizes reach the bound, the second when the cursor runs
out. -/
example : (fetchCursors 6 [10, 10] (CursorHandle.ofProduced
    (fun k => [⟨1, 3⟩, ⟨2, 5⟩, ⟨3, 1⟩][k]?) 0 : CursorHandle Unit Nat)).1 =
      [.ok ⟨[1, 2], false⟩, .ok ⟨[3], true⟩] := rfl

end Cursor
end Hrana
end Sqld
