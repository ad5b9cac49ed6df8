import Scaffold.Failure
import Scaffold.Proofs.Sequence

/-!
# Which failures there are

`FailsOnly p r` says that a result, if it is a failure, is one that satisfies `p`. It is shown step
by step along a sequence of steps: `FailsOnly.bind`, `FailsOnly.map`, `FailsOnly.mapM`. `Fails p r`
says that a result is such a failure.
-/

namespace Scaffold

section

variable {ε α β : Type} {p q : ε → Prop} {r : Except ε α}

/-- Each failure satisfies `p`. -/
def FailsOnly (p : ε → Prop) (r : Except ε α) : Prop := ∀ f, r = .error f → p f

@[simp] theorem failsOnly_ok (a : α) : FailsOnly p (.ok a : Except ε α) := by
  intro f h
  cases h

@[simp] theorem failsOnly_error {f : ε} : FailsOnly p (.error f : Except ε α) ↔ p f := by
  constructor
  · exact fun h => h f rfl
  · intro h f' he
    cases he
    exact h

theorem FailsOnly.mono (h : FailsOnly p r) (hpq : ∀ f, p f → q f) : FailsOnly q r :=
  fun f hf => hpq f (h f hf)

theorem FailsOnly.bind {k : α → Except ε β} (hr : FailsOnly p r) (hk : ∀ a, FailsOnly p (k a)) :
    FailsOnly p (r >>= k) := by
  cases r with
  | error f => exact failsOnly_error.2 (failsOnly_error.1 hr)
  | ok a => exact hk a

theorem FailsOnly.map {g : α → β} (hr : FailsOnly p r) : FailsOnly p (g <$> r) := by
  cases r with
  | error f => exact failsOnly_error.2 (failsOnly_error.1 hr)
  | ok a => exact failsOnly_ok (g a)

theorem failsOnly_mapError {δ : Type} {g : δ → ε} (h : ∀ d, p (g d)) (r : Except δ α) :
    FailsOnly p (r.mapError g) := by
  cases r with
  | error d => exact failsOnly_error.2 (h d)
  | ok a => exact failsOnly_ok a

theorem FailsOnly.mapM {g : α → Except ε β} (h : ∀ a, FailsOnly p (g a)) (xs : List α) :
    FailsOnly p (xs.mapM g) := by
  intro f hf
  obtain ⟨-, x, -, -, -, hx⟩ := mapM_eq_error_iff.1 hf
  exact h x f hx

/-- A failure that satisfies `p`. -/
def Fails (p : ε → Prop) (r : Except ε α) : Prop := ∃ f, r = .error f ∧ p f

@[simp] theorem not_fails_ok (a : α) : ¬ Fails p (.ok a : Except ε α) := by
  rintro ⟨f, h, -⟩
  cases h

@[simp] theorem fails_error {f : ε} : Fails p (.error f : Except ε α) ↔ p f := by
  constructor
  · rintro ⟨f', h, hf⟩
    cases h
    exact hf
  · exact fun h => ⟨f, rfl, h⟩

/-- The first step fails so, or the second one does whatever the first gives. -/
theorem fails_bind_iff {k : α → Except ε β} {s : Prop} (hk : ∀ a, Fails p (k a) ↔ s) :
    Fails p (r >>= k) ↔ Fails p r ∨ (∃ a, r = .ok a) ∧ s := by
  cases r with
  | error f =>
    have hbind : (.error f : Except ε α) >>= k = .error f := rfl
    simp [hbind]
  | ok a =>
    have hbind : (.ok a : Except ε α) >>= k = k a := rfl
    simp [hbind, hk a]

theorem fails_map_iff {g : α → β} : Fails p (g <$> r) ↔ Fails p r := by
  cases r with
  | error f => exact fails_error.trans fails_error.symm
  | ok a => exact iff_of_false (not_fails_ok (g a)) (not_fails_ok a)

/-- One of the steps fails so, when they fail with nothing else. -/
theorem fails_mapM_iff {g : α → Except ε β} (h : ∀ a, FailsOnly p (g a)) {xs : List α} :
    Fails p (xs.mapM g) ↔ ∃ x ∈ xs, Fails p (g x) := by
  constructor
  · rintro ⟨f, hf, hp⟩
    obtain ⟨front, x, back, rfl, -, hx⟩ := mapM_eq_error_iff.1 hf
    exact ⟨x, by simp, f, hx, hp⟩
  · rintro ⟨x, hx, f, hf, -⟩
    cases hxs : xs.mapM g with
    | error f' => exact fails_error.2 (FailsOnly.mapM h xs f' hxs)
    | ok ys =>
      obtain ⟨y, hy⟩ := ok_of_mapM hxs x hx
      rw [hf] at hy
      cases hy

end

end Scaffold
