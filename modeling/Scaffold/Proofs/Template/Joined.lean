import Scaffold.Proofs.Template.Stretch

/-!
# Joined templates

When no brace of a text is open at its end, and the next text does not make a closing brace there
into two, each of the texts is scanned as if it stood alone.

* `tokensFrom_shift` - a text that starts elsewhere has its tokens elsewhere, and the same tokens;
* `stretchToken?_append` - so does a stretch behind a text in which no brace opens;
* `tokensFrom_join`, `scan_append` - the tokens of the first text, and behind them the second one's.
-/

namespace Scaffold.Template
open Scaffold.Text

/-- The token with other text in front, of length `n`. -/
def Token.shift (t : Token) (n : Nat) : Token := { t with start := t.start + n }

section

variable {front a b : List Char}

/-! ### Shift invariance -/

theorem stretchToken?_shift (place n : Nat) (stretch : List Char) :
    stretchToken? (place + n) stretch = (stretchToken? place stretch).map (·.shift n) := by
  unfold stretchToken?
  rw [Option.map_map]
  congr 1
  funext ⟨i, placeholder⟩
  simp only [Function.comp_apply, Token.shift, Token.mk.injEq, true_and]
  omega

theorem stretchTokens_shift (place n : Nat) (stretches : List (List Char)) :
    stretchTokens (place + n) stretches = (stretchTokens place stretches).map (·.shift n) := by
  induction stretches generalizing place with
  | nil => rfl
  | cons stretch stretches ih =>
    cases stretches with
    | nil => rfl
    | cons next rest =>
      have hrest := ih (place + stretch.length + 1)
      rw [show place + stretch.length + 1 + n = place + n + stretch.length + 1 by omega] at hrest
      simp only [stretchTokens, hrest, stretchToken?_shift]
      by_cases hclose : (next.isEmpty && !rest.isEmpty) = true
      · rw [if_pos hclose, if_pos hclose, List.map_append, Option.toList_map]
      · rw [if_neg hclose, if_neg hclose]

theorem tokensFrom_shift (place n : Nat) (cs : List Char) :
    tokensFrom (place + n) cs = (tokensFrom place cs).map (·.shift n) :=
  stretchTokens_shift place n _

/-! ### Text in front of a stretch -/

theorem openings_append_left (h : '\x7b' ∉ front) (stretch : List Char) :
    openings (front ++ stretch) =
      (openings stretch).map fun (i, body) => (i + front.length, body) := by
  induction front with
  | nil => simp
  | cons c front ih =>
    rw [List.mem_cons, not_or] at h
    rw [List.cons_append]
    rcases openings_cons c (front ++ stretch) with ⟨body, hc, -⟩ | ⟨-, he⟩
    · exact absurd hc.symm h.1
    · rw [he, ih h.2, List.map_map]
      rfl

theorem best?_append (h : '\x7b' ∉ front) (stretch : List Char) :
    best? (front ++ stretch) = (best? stretch).map fun (i, p) => (i + front.length, p) := by
  unfold best?
  rw [List.map_findSome?, openings_append_left h]
  congr 1
  funext grammar
  rw [Function.comp_apply, List.map_findSome?, List.findSome?_map]
  congr 1
  funext ⟨i, body⟩
  simp only [Function.comp_apply, Option.map_map]
  rfl

/-- No braces open in text without an opening brace, so that it only gives a stretch its place. -/
theorem stretchToken?_append (h : '\x7b' ∉ front) (place : Nat) (stretch : List Char) :
    stretchToken? place (front ++ stretch) = stretchToken? (place + front.length) stretch := by
  unfold stretchToken?
  rw [best?_append h, Option.map_map]
  congr 1
  funext ⟨i, placeholder⟩
  have hdrop : (front ++ stretch).drop (i + front.length) = stretch.drop i := by
    rw [Nat.add_comm, List.drop_length_add_append]
  simp only [Function.comp_apply, hdrop, Token.mk.injEq, true_and]
  omega

theorem tokensFrom_append_left (hopen : '\x7b' ∉ front) (hclose : '\x7d' ∉ front) (place : Nat)
    (cs : List Char) : tokensFrom place (front ++ cs) = tokensFrom (place + front.length) cs := by
  by_cases hm : '\x7d' ∈ cs
  · obtain ⟨stretch, rest, rfl, hstretch⟩ := List.eq_append_cons_of_mem hm
    have hfirst : '\x7d' ∉ front ++ stretch := by simp [hclose, hstretch]
    rw [← List.append_assoc, tokensFrom_append hfirst, tokensFrom_append hstretch,
      stretchToken?_append hopen, List.length_append, ← Nat.add_assoc]
  · rw [tokensFrom_of_not_mem (by simp [hclose, hm]), tokensFrom_of_not_mem hm]

/-! ### Two texts -/

/-- Where no token runs from one text into the other, each is scanned on its own. -/
theorem tokensFrom_join (hclosed : '\x7b' ∉ (cutLast '\x7d' a).2)
    (hseam : ¬ (a.getLast? = some '\x7d' ∧ b.head? = some '\x7d')) (place : Nat) :
    tokensFrom place (a ++ b) = tokensFrom place a ++ tokensFrom (place + a.length) b := by
  -- the first closing brace of the first text cuts off a stretch
  induction a using piece_induction '\x7d' generalizing place with
  | last a hm =>
    rw [cutLast_of_not_mem hm] at hclosed
    rw [tokensFrom_append_left hclosed hm, tokensFrom_of_not_mem hm, List.nil_append]
  | piece stretch rest hstretch ih =>
    rw [cutLast_append_snd] at hclosed
    -- the seam decides whether a second closing brace follows the first one
    have hseam' : ¬ (rest.getLast? = some '\x7d' ∧ b.head? = some '\x7d') := by
      rintro ⟨hlast, hb⟩
      exact hseam ⟨by simp [List.getLast?_append, List.getLast?_cons, hlast], hb⟩
    have hhead : (rest ++ b).head? = some '\x7d' ↔ rest.head? = some '\x7d' := by
      cases rest with
      | nil =>
        have hb : b.head? ≠ some '\x7d' := fun hb => hseam ⟨by simp, hb⟩
        simp [hb]
      | cons c rest => simp
    have hplace : place + (stretch ++ '\x7d' :: rest).length =
        place + stretch.length + 1 + rest.length := by
      simp only [List.length_append, List.length_cons]
      omega
    rw [List.append_assoc, List.cons_append, tokensFrom_append hstretch,
      tokensFrom_append hstretch, ih hclosed hseam', hplace, List.append_assoc]
    simp only [hhead]

end

/-- Scanning two texts together gives the tokens of the first one, and behind them the tokens of
the second one with their places behind the first text. -/
theorem scan_append {a b : String} (hclosed : '\x7b' ∉ (cutLast '\x7d' a.toList).2)
    (hseam : ¬ (a.toList.getLast? = some '\x7d' ∧ b.toList.head? = some '\x7d')) :
    scan (a ++ b) = scan a ++ (scan b).map (·.shift a.length) := by
  have hplace : tokensFrom a.toList.length b.toList =
      (tokensFrom 0 b.toList).map (·.shift a.length) := by
    rw [← tokensFrom_shift, Nat.zero_add, String.length_toList]
  unfold scan
  rw [String.toList_append, scanChars_eq, scanChars_eq, scanChars_eq, tokensFrom_join hclosed hseam,
    Nat.zero_add, hplace]

/-- The braces of both texts are out of balance. -/
theorem scan_append_unbalanced :
    let front := "\x7b\x7bk:a,b\x7d\x7d \x7d \x7b\x7b \x7d\x7d; "
    let back := "\x7d\x7b\x7bn\x7d\x7d\x7b\x7b \x7b\x7bc,d|e\x7d\x7d"
    scan (front ++ back) = scan front ++ (scan back).map (·.shift 19) :=
  scan_append (by decide) (by decide)

end Scaffold.Template
