import Mathlib.Data.List.Forall2
import Mathlib.Tactic

/-!
# One element after the other

* `mapM_eq_ok_iff`, `mapM_eq_error_iff` - steps that may fail: the results of all of them, or the
  failure of the first one that fails;
* `foldl_firstsOn` - keeping each element whose key is not there yet keeps the first of each key;
* `firstsOn_insert` - an element whose key was there before changes nothing;
* `eraseDups_eq_self_iff` - these are all elements when no element comes twice;
* `pairwise_mergeSort_on`, `pairwise_lt_mergeSort_on` - elements sorted by a text.
-/

namespace Scaffold

/-! ### Steps that may fail -/

section

variable {ε α β : Type} {g : α → Except ε β} {x : α} {xs : List α}

/-- A result of two steps: the first one gives something, and the second one goes on with it. -/
theorem bind_eq_ok {r : Except ε α} {b : β} (h : r >>= g = .ok b) :
    ∃ a, r = .ok a ∧ g a = .ok b := by
  cases r with
  | error f => cases h
  | ok a => exact ⟨a, rfl, h⟩

theorem mapM_cons_of_error {f : ε} (h : g x = .error f) : (x :: xs).mapM g = .error f := by
  rw [List.mapM_cons, h]
  rfl

theorem mapM_cons_of_ok {y : β} (h : g x = .ok y) :
    (x :: xs).mapM g = (xs.mapM g).map (y :: ·) := by
  rw [List.mapM_cons, h]
  cases xs.mapM g <;> rfl

/-- All steps succeed. -/
theorem mapM_eq_ok_iff {ys : List β} :
    xs.mapM g = .ok ys ↔ List.Forall₂ (fun x y => g x = .ok y) xs ys := by
  induction xs generalizing ys with
  | nil =>
    rw [List.mapM_nil, List.forall₂_nil_left_iff]
    constructor
    · intro h
      cases h
      rfl
    · rintro rfl
      rfl
  | cons x xs ih =>
    rw [List.forall₂_cons_left_iff]
    cases hx : g x with
    | error f =>
      rw [mapM_cons_of_error hx]
      constructor
      · intro h
        cases h
      · rintro ⟨y, ys, hy, -, -⟩
        cases hy
    | ok y =>
      rw [mapM_cons_of_ok hx]
      constructor
      · intro h
        cases hxs : xs.mapM g with
        | error f =>
          rw [hxs] at h
          cases h
        | ok others =>
          rw [hxs] at h
          cases h
          exact ⟨y, others, rfl, ih.1 hxs, rfl⟩
      · rintro ⟨y', others, hy, hothers, rfl⟩
        cases hy
        rw [ih.2 hothers]
        rfl

/-- What the steps give is what some step gives, when all succeed. -/
theorem mem_of_mapM {ys : List β} {y : β} (h : xs.mapM g = .ok ys) :
    y ∈ ys ↔ ∃ x ∈ xs, g x = .ok y := by
  induction mapM_eq_ok_iff.1 h with
  | nil => simp
  | cons hxy hrest ih =>
    rw [List.mem_cons, ih (mapM_eq_ok_iff.2 hrest), List.exists_mem_cons_iff, hxy,
      Except.ok.injEq, eq_comm]

theorem ok_of_mapM {ys : List β} (h : xs.mapM g = .ok ys) : ∀ x ∈ xs, ∃ y, g x = .ok y := by
  induction mapM_eq_ok_iff.1 h with
  | nil => simp
  | cons hxy hrest ih =>
    exact List.forall_mem_cons.2 ⟨⟨_, hxy⟩, ih (mapM_eq_ok_iff.2 hrest)⟩

/-- The first step that fails gives the failure. -/
theorem mapM_eq_error_iff {f : ε} :
    xs.mapM g = .error f ↔ ∃ front x back, xs = front ++ x :: back ∧
      (∀ a ∈ front, ∃ b, g a = .ok b) ∧ g x = .error f := by
  induction xs with
  | nil =>
    constructor
    · intro h
      cases h
    · rintro ⟨front, x, back, he, -⟩
      cases front <;> cases he
  | cons x xs ih =>
    cases hx : g x with
    | error f' =>
      rw [mapM_cons_of_error hx]
      constructor
      · intro h
        cases h
        exact ⟨[], x, xs, rfl, by simp, hx⟩
      · rintro ⟨front, x', back, he, hfront, hx'⟩
        cases front with
        | nil =>
          cases he
          rw [hx] at hx'
          cases hx'
          rfl
        | cons a front =>
          cases he
          obtain ⟨b, hb⟩ := hfront x List.mem_cons_self
          rw [hx] at hb
          cases hb
    | ok y =>
      have hmap : (xs.mapM g).map (y :: ·) = .error f ↔ xs.mapM g = .error f := by
        cases xs.mapM g <;> simp [Except.map]
      rw [mapM_cons_of_ok hx, hmap, ih]
      constructor
      · rintro ⟨front, x', back, rfl, hfront, hx'⟩
        refine ⟨x :: front, x', back, rfl, fun a ha => ?_, hx'⟩
        rcases List.mem_cons.1 ha with rfl | ha
        · exact ⟨y, hx⟩
        · exact hfront a ha
      · rintro ⟨front, x', back, he, hfront, hx'⟩
        cases front with
        | nil =>
          cases he
          rw [hx] at hx'
          cases hx'
        | cons a front =>
          cases he
          exact ⟨front, x', back, rfl, fun c hc => hfront c (List.mem_cons_of_mem _ hc), hx'⟩

end

/-! ### First occurrences -/

section

variable {α β : Type} [BEq β]

/-- The elements whose key no element before them has. -/
def firstsOn (key : α → β) (xs : List α) : List α :=
  xs.eraseDupsBy fun later first => key later == key first

theorem firstsOn_id (xs : List β) : firstsOn id xs = xs.eraseDups := rfl

@[simp] theorem firstsOn_nil (key : α → β) : firstsOn key [] = [] := rfl

theorem firstsOn_cons (key : α → β) (x : α) (xs : List α) :
    firstsOn key (x :: xs) = x :: firstsOn key (xs.filter fun y => !key y == key x) := by
  simp [firstsOn, List.eraseDupsBy_cons]

/-- The induction that first occurrences go by: what follows an element is filtered. -/
theorem firstsOn_induction (key : α → β) {p : List α → Prop} (nil : p [])
    (cons : ∀ x xs, p (xs.filter fun y => !key y == key x) → p (x :: xs)) (xs : List α) : p xs := by
  have hlength : ∀ n xs, xs.length ≤ n → p xs := by
    intro n
    induction n with
    | zero =>
      intro xs h
      rw [List.length_eq_zero_iff.1 (Nat.le_zero.1 h)]
      exact nil
    | succ n ih =>
      intro xs h
      cases xs with
      | nil => exact nil
      | cons x xs =>
        have hshort : (xs.filter fun y => !key y == key x).length ≤ n :=
          le_trans (List.length_filter_le _ _) (Nat.le_of_succ_le_succ h)
        exact cons x xs (ih _ hshort)
  exact hlength xs.length xs le_rfl

theorem firstsOn_sublist (key : α → β) (xs : List α) : (firstsOn key xs).Sublist xs := by
  induction xs using firstsOn_induction key with
  | nil => rw [firstsOn_nil]
  | cons x xs ih =>
    rw [firstsOn_cons]
    exact (ih.trans List.filter_sublist).cons_cons x

theorem map_firstsOn (key : α → β) (xs : List α) :
    (firstsOn key xs).map key = (xs.map key).eraseDups := by
  induction xs using firstsOn_induction key with
  | nil => simp
  | cons x xs ih =>
    rw [firstsOn_cons, List.map_cons, ih, List.map_cons, List.eraseDups_cons, List.filter_map]
    rfl

variable [LawfulBEq β]

/-- Keeping each element whose key is not there yet, one after the other. -/
theorem foldl_firstsOn (key : α → β) (xs seen : List α) :
    xs.foldl (fun seen x => if (seen.map key).contains (key x) then seen else seen ++ [x]) seen =
      seen ++ firstsOn key (xs.filter fun x => !(seen.map key).contains (key x)) := by
  induction xs generalizing seen with
  | nil => simp
  | cons x xs ih =>
    rw [List.foldl_cons]
    by_cases hx : (seen.map key).contains (key x) = true
    · rw [if_pos hx, ih, List.filter_cons_of_neg (by simpa using hx)]
    · have hkeep : (fun y => !((seen ++ [x]).map key).contains (key y)) =
          fun y => !key y == key x && !(seen.map key).contains (key y) := by
        funext y
        by_cases hy : key y ∈ seen.map key <;> by_cases hyx : key y = key x <;> simp [hy, hyx]
      rw [if_neg hx, ih, hkeep, List.filter_cons_of_pos (by simpa using hx), firstsOn_cons,
        List.filter_filter, List.append_assoc, List.singleton_append]

theorem firstsOn_append (key : α → β) (xs ys : List α) :
    firstsOn key (xs ++ ys) =
      firstsOn key xs ++ firstsOn key (ys.filter fun y => !(xs.map key).contains (key y)) := by
  have hfold := fun zs => foldl_firstsOn key zs []
  simp only [List.map_nil, List.contains_nil, Bool.not_false, List.filter_true,
    List.nil_append] at hfold
  rw [← hfold, List.foldl_append, hfold, foldl_firstsOn, map_firstsOn]
  congr 3
  funext y
  simp [List.mem_eraseDups]

/-- An element whose key was there before changes nothing. -/
theorem firstsOn_insert {key : α → β} {front : List α} {x : α} (h : key x ∈ front.map key)
    (back : List α) : firstsOn key (front ++ x :: back) = firstsOn key (front ++ back) := by
  rw [firstsOn_append, firstsOn_append, List.filter_cons_of_neg]
  simpa using h

end

section

variable {α : Type} [BEq α]

theorem eraseDups_eq_self_of_length {xs : List α} (h : xs.eraseDups.length = xs.length) :
    xs.eraseDups = xs :=
  (firstsOn_sublist id xs).eq_of_length h

variable [LawfulBEq α]

/-- Keeping the results that are not there yet, when each step may fail. -/
theorem foldlM_firsts {ε γ : Type} (g : γ → Except ε α) (xs : List γ) (seen : List α) :
    xs.foldlM (fun seen x => do
        let y ← g x
        return if seen.contains y then seen else seen ++ [y]) seen =
      (xs.mapM g).map fun ys => seen ++ (ys.filter fun y => !seen.contains y).eraseDups := by
  have hfirsts := fun ys seen => foldl_firstsOn (id : α → α) ys seen
  simp only [List.map_id, id_eq, firstsOn_id] at hfirsts
  induction xs generalizing seen with
  | nil =>
    rw [List.foldlM_nil, List.mapM_nil]
    simp [pure, Except.pure, Except.map]
  | cons x xs ih =>
    rw [List.foldlM_cons]
    cases hx : g x with
    | error f =>
      rw [mapM_cons_of_error hx]
      rfl
    | ok y =>
      rw [mapM_cons_of_ok hx]
      refine (ih _).trans ?_
      cases xs.mapM g with
      | error f => rfl
      | ok ys =>
        -- on results alone both sides are the fold without failures
        simp only [Except.map, ← hfirsts, List.foldl_cons]

theorem nodup_eraseDups (xs : List α) : xs.eraseDups.Nodup := by
  induction xs using firstsOn_induction (id : α → α) with
  | nil => exact List.nodup_nil
  | cons x xs ih =>
    have hx : x ∉ (xs.filter fun y => !y == x).eraseDups := by simp [List.mem_eraseDups]
    rw [List.eraseDups_cons]
    exact List.nodup_cons.2 ⟨hx, ih⟩

theorem eraseDups_eq_self_iff {xs : List α} : xs.eraseDups = xs ↔ xs.Nodup := by
  constructor
  · intro h
    rw [← h]
    exact nodup_eraseDups xs
  · intro h
    induction xs with
    | nil => rfl
    | cons x xs ih =>
      obtain ⟨hx, hxs⟩ := List.nodup_cons.1 h
      have hfilter : (xs.filter fun y => !y == x) = xs := by
        refine List.filter_eq_self.2 fun y hy => ?_
        have hne : y ≠ x := fun e => hx (e ▸ hy)
        simpa using hne
      rw [List.eraseDups_cons, hfilter, ih hxs]

end

/-! ### Sorted by a text -/

section

variable {α : Type} (key : α → String) (xs : List α)

theorem pairwise_mergeSort_on :
    (xs.mergeSort fun a b => key a ≤ key b).Pairwise fun a b => key a ≤ key b := by
  have hmerge : (xs.mergeSort fun a b => key a ≤ key b).Pairwise
      fun a b => decide (key a ≤ key b) = true := by
    refine List.pairwise_mergeSort (fun a b c hab hbc => ?_) (fun a b => ?_) xs
    · exact decide_eq_true (String.le_trans (of_decide_eq_true hab) (of_decide_eq_true hbc))
    · simpa only [Bool.or_eq_true, decide_eq_true_eq] using String.le_total (key a) (key b)
  exact hmerge.imp of_decide_eq_true

variable {xs}

/-- No text stands beside itself when each comes once. -/
theorem pairwise_lt_mergeSort_on (h : (xs.map key).Nodup) :
    (xs.mergeSort fun a b => key a ≤ key b).Pairwise fun a b => key a < key b := by
  have hperm := List.mergeSort_perm xs fun a b => decide (key a ≤ key b)
  have hne : (xs.mergeSort fun a b => key a ≤ key b).Pairwise fun a b => key a ≠ key b :=
    List.pairwise_map.1 ((hperm.map key).nodup_iff.2 h)
  refine ((pairwise_mergeSort_on key xs).and hne).imp fun hab => ?_
  exact String.not_le.1 fun hba => hab.2 (String.le_antisymm hab.1 hba)

end

end Scaffold
