import Mathlib

/-!
# Facts about lists used by the models

The models keep their tasks, calls and workers in lists, index them with `l[i]?`, replace one
with `List.set` and add one with `++ [x]`.  These are the facts about those operations that
the invariants of several models need: what a replacement does to a count or a sum, and which
elements survive it.
-/

namespace Sqld

variable {α : Type} {l : List α} {i j : Nat} {x y : α}

theorem getElem?_append_singleton (h : (l ++ [y])[j]? = some x) : l[j]? = some x ∨ x = y := by
  by_cases hj : j < l.length
  · exact .inl (by rwa [List.getElem?_append_left hj] at h)
  · rw [List.getElem?_append_right (by omega)] at h
    exact .inr (List.mem_singleton.1 (List.getElem?_mem h))

theorem getElem?_append_of_getElem? (h : l[j]? = some x) (l' : List α) :
    (l ++ l')[j]? = some x := by
  rwa [List.getElem?_append_left (List.getElem?_eq_some_iff.mp h).1]

theorem getElem?_modify_eq_some {f : α → α} (h : (l.modify f i)[j]? = some x) :
    ∃ x₀, l[j]? = some x₀ ∧ x = if i = j then f x₀ else x₀ := by
  rw [List.getElem?_modify] at h
  cases hl : l[j]? <;> simp_all

/-- An element that is not the `i`-th stays when the `i`-th is replaced. -/
theorem mem_set_of_mem_of_ne (hx : x ∈ l) (hi : l[i]? = some y) (hxy : x ≠ y) (z : α) :
    x ∈ l.set i z := by
  obtain ⟨j, hj⟩ := List.mem_iff_getElem?.1 hx
  have hij : i ≠ j := by
    rintro rfl
    exact hxy (Option.some.inj (hj.symm.trans hi))
  exact List.getElem?_mem (by rw [List.getElem?_set_ne hij]; exact hj)

theorem forall_mem_set {P : α → Prop} (h : ∀ x ∈ l, P x) (i : Nat) (hy : P y) :
    ∀ x ∈ l.set i y, P x :=
  fun x hx => (List.mem_or_eq_of_mem_set hx).elim (h x) (· ▸ hy)

theorem forall_mem_of_forall_mem_set {P : α → Prop} {z : α} (h : ∀ x ∈ l.set i z, P x)
    (hi : l[i]? = some y) (hy : P y) : ∀ x ∈ l, P x := by
  intro x hx
  by_cases hxy : x = y
  · exact hxy ▸ hy
  · exact h x (mem_set_of_mem_of_ne hx hi hxy z)

/-! ## Counts and sums under a replacement -/

theorem countP_set_add (p : α → Bool) (y : α) (h : l[i]? = some x) :
    (l.set i y).countP p + (if p x then 1 else 0) = l.countP p + (if p y then 1 else 0) := by
  obtain ⟨hlt, rfl⟩ := List.getElem?_eq_some_iff.1 h
  have := List.boole_getElem_le_countP p l i hlt
  rw [List.countP_set p l i y hlt]
  omega

theorem countP_set_eq_add (p : α → Bool) (h : l[i]? = some x) (y : α) (a b : Bool)
    (hx : p x = a) (hy : p y = b) : (l.set i y).countP p + a.toNat = l.countP p + b.toNat := by
  have := countP_set_add p y h
  rw [hx, hy] at this
  cases a <;> cases b <;> simpa using this

theorem sum_map_set (f : α → Nat) :
    ∀ {l : List α} {i : Nat} {x : α} (y : α), l[i]? = some x →
      ((l.set i y).map f).sum + f x = (l.map f).sum + f y
  | [], _, _, _, h => by simp at h
  | a :: l, 0, x, y, h => by
    simp only [List.getElem?_cons_zero, Option.some.injEq] at h
    subst h; simp only [List.set_cons_zero, List.map_cons, List.sum_cons]; omega
  | a :: l, i + 1, x, y, h => by
    have := sum_map_set f y (by simpa using h)
    simp only [List.set_cons_succ, List.map_cons, List.sum_cons]; omega

theorem sum_map_eraseIdx (f : α → Nat) :
    ∀ {l : List α} {j : Nat} {x : α}, l[j]? = some x →
      ((l.eraseIdx j).map f).sum + f x = (l.map f).sum
  | [], _, _, h => by simp at h
  | a :: l, 0, x, h => by
    simp only [List.getElem?_cons_zero, Option.some.injEq] at h
    subst h; simp only [List.eraseIdx_cons_zero, List.map_cons, List.sum_cons]; omega
  | a :: l, j + 1, x, h => by
    have := sum_map_eraseIdx f (by simpa using h)
    simp only [List.eraseIdx_cons_succ, List.map_cons, List.sum_cons]; omega

/-- A sum in which at most one term is positive is at most the bound of the terms. -/
theorem sum_le_of_unique_pos (f : α → Nat) (B : Nat) :
    ∀ (l : List α), (∀ x ∈ l, f x ≤ B) →
      (∀ (i j : Nat) (x y : α), l[i]? = some x → l[j]? = some y → 0 < f x → 0 < f y → i = j) →
      (l.map f).sum ≤ B
  | [], _, _ => Nat.zero_le B
  | a :: l, hB, huniq => by
    simp only [List.map_cons, List.sum_cons]
    by_cases ha : f a = 0
    · have := sum_le_of_unique_pos f B l (fun x hx => hB x (List.mem_cons_of_mem a hx))
        (fun i j x y hx hy px py => by
          simpa using huniq (i + 1) (j + 1) x y (by simpa using hx) (by simpa using hy) px py)
      omega
    · have hzero : (l.map f).sum = 0 := by
        refine List.sum_eq_zero fun n hn => ?_
        obtain ⟨y, hy, rfl⟩ := List.mem_map.mp hn
        obtain ⟨j, hj⟩ := List.mem_iff_getElem?.mp hy
        by_contra hpos
        exact absurd (huniq 0 (j + 1) a y (by simp) (by simpa using hj) (by omega) (by omega))
          (by omega)
      have := hB a (List.mem_cons_self a l)
      omega

theorem sum_map_le_countP (f g : α → Nat) (p : α → Bool) (B : Nat) :
    ∀ (l : List α), (∀ x ∈ l, f x ≤ B * (p x).toNat + g x) →
      (l.map f).sum ≤ B * l.countP p + (l.map g).sum
  | [], _ => by simp
  | a :: l, h => by
    have ih := sum_map_le_countP f g p B l (fun x hx => h x (List.mem_cons_of_mem a hx))
    have ha := h a (List.mem_cons_self a l)
    simp only [List.map_cons, List.sum_cons, List.countP_cons]
    cases hpa : p a
    · simp only [hpa, Bool.toNat_false, Nat.mul_zero, Nat.zero_add] at ha
      simp only [Bool.false_eq_true, if_false, Nat.add_zero]
      omega
    · simp only [hpa, Bool.toNat_true, Nat.mul_one] at ha
      simp only [if_true, Nat.mul_add, Nat.mul_one]
      omega

end Sqld
