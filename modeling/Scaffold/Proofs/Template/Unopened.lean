import Scaffold.Proofs.Template.Written

/-!
# Texts without double opening braces

Such a text has no token (`tokensFrom_of_unopened`), and it stays so when text without an opening
brace comes into it (`Unopened.insert`). A simple placeholder behind such a text is found where it
stands, whatever brace the text ends with (`tokensFrom_simple`): an opening brace in front of it
makes a body that no grammar takes.
-/

namespace Scaffold.Template
open Scaffold.Text

/-- No two opening braces stand side by side. -/
def Unopened (cs : List Char) : Prop :=
  cs.IsChain fun c d => ¬ (c = '\x7b' ∧ d = '\x7b')

/-! ### The openings of a text -/

section

variable {xs ys zs body : List Char}

theorem openings_eq_nil_iff : openings xs = [] ↔ Unopened xs := by
  induction xs with
  | nil => exact ⟨fun _ => .nil, fun _ => rfl⟩
  | cons c cs ih =>
    rw [Unopened, List.isChain_cons]
    rcases openings_cons c cs with ⟨body, rfl, rfl, he⟩ | ⟨hno, he⟩
    · simp [he]
    · rw [he, List.map_eq_nil_iff, ih]
      refine (and_iff_right ?_).symm
      rintro d hd ⟨rfl, rfl⟩
      obtain ⟨body, rfl⟩ := List.head?_eq_some_iff.1 hd
      exact hno body ⟨rfl, rfl⟩

theorem Unopened.of_not_mem (h : '\x7b' ∉ xs) : Unopened xs := by
  rw [← openings_eq_nil_iff, List.eq_nil_iff_forall_not_mem]
  rintro ⟨i, body⟩ hm
  obtain ⟨front, rfl, -⟩ := mem_openings.1 hm
  simp at h

theorem Unopened.left (h : Unopened (xs ++ ys)) : Unopened xs := (List.isChain_append.1 h).1

theorem Unopened.right (h : Unopened (xs ++ ys)) : Unopened ys := (List.isChain_append.1 h).2.1

/-- Text without an opening brace may come in anywhere. -/
theorem Unopened.insert (h : Unopened (xs ++ zs)) (hy : '\x7b' ∉ ys) :
    Unopened (xs ++ ys ++ zs) := by
  cases hys : ys with
  | nil => rwa [List.append_nil]
  | cons d ds =>
    rw [← hys]
    have hleft : Unopened (xs ++ ys) := by
      refine List.isChain_append.2 ⟨h.left, Unopened.of_not_mem hy, ?_⟩
      rintro c - d hd ⟨-, rfl⟩
      exact hy (List.mem_of_mem_head? hd)
    refine List.isChain_append.2 ⟨hleft, h.right, ?_⟩
    -- the character in front of the rest is one that came in
    rintro c hc d - ⟨rfl, -⟩
    rw [List.getLast?_append_of_ne_nil _ (by simp [hys])] at hc
    exact hy (List.mem_of_getLast? hc)

/-- Behind a text without double opening braces they open at a body, or one brace earlier where the
text ends with one. -/
theorem Unopened.append_eq (h : Unopened xs) (hbody : '\x7b' ∉ body)
    (he : xs ++ '\x7b' :: '\x7b' :: body = ys ++ '\x7b' :: '\x7b' :: zs) :
    (ys = xs ∧ zs = body) ∨ (xs = ys ++ ['\x7b'] ∧ zs = '\x7b' :: body) := by
  -- the two openings have the same place, or share a brace, or are further apart
  rcases List.append_eq_append_iff.1 he with ⟨more, rfl, hm⟩ | ⟨more, rfl, hm⟩
  · match more, hm with
    | [], hm => exact Or.inl ⟨by simp, by simpa using hm.symm⟩
    | [c], hm =>
      obtain ⟨-, hm⟩ := List.cons.inj hm
      obtain ⟨-, rfl⟩ := List.cons.inj hm
      simp at hbody
    | c :: d :: more, hm =>
      obtain ⟨-, hm⟩ := List.cons.inj hm
      obtain ⟨-, rfl⟩ := List.cons.inj hm
      simp at hbody
  · match more, hm with
    | [], hm => exact Or.inl ⟨by simp, by simpa using hm⟩
    | [c], hm =>
      obtain ⟨rfl, htail⟩ := List.cons.inj hm
      exact Or.inr ⟨rfl, (List.cons.inj htail).2⟩
    | c :: d :: more, hm =>
      obtain ⟨hc, hm⟩ := List.cons.inj hm
      obtain ⟨hd, -⟩ := List.cons.inj hm
      exact absurd ⟨hc.symm, hd.symm⟩ (List.isChain_cons_cons.1 h.right).1

end

/-! ### Their tokens -/

section

variable {xs body : List Char} {p : Placeholder}

theorem stretchToken?_of_unopened (h : Unopened xs) (place : Nat) :
    stretchToken? place xs = none := by
  rw [← openings_eq_nil_iff] at h
  simp [stretchToken?, best?, grammars, h]

/-- Without double opening braces there is no token. -/
theorem tokensFrom_of_unopened (h : Unopened xs) (place : Nat) : tokensFrom place xs = [] := by
  rw [List.eq_nil_iff_forall_not_mem]
  intro t ht
  obtain ⟨before, stretch, behind, hc, ht⟩ := mem_tokensFrom.1 ht
  have hstretch : Unopened stretch := by
    rw [hc.eq] at h
    exact h.left.right
  rw [stretchToken?_of_unopened hstretch] at ht
  cases ht

/-- A name holds nothing that another grammar looks for. -/
theorem not_mem_of_simple? (h : simple? body = some p) {c : Char} (hc : isStructural c = true) :
    c ∉ body := by
  intro hm
  have hany : body.any isStructural = true := List.any_eq_true.2 ⟨c, hm, hc⟩
  simp [simple?, hany] at h

/-- No other grammar reads a name. -/
theorem simple?_of_ofBody? {g : Grammar} {name : String}
    (h : g.ofBody? body = some (.simple name)) : simple? body = some (.simple name) := by
  cases g with
  | named =>
    simp only [Grammar.ofBody?, named?] at h
    split at h
    · split at h
      · cases h
      · obtain ⟨x, -, hx⟩ := Option.map_eq_some_iff.1 h
        cases hx
    · cases h
  | anonymous =>
    simp only [Grammar.ofBody?, anonymous?] at h
    split at h
    · cases h
    · obtain ⟨x, -, hx⟩ := Option.map_eq_some_iff.1 h
      cases hx
  | radio =>
    simp only [Grammar.ofBody?, radio?, Option.bind_eq_bind, Option.bind_eq_some_iff] at h
    obtain ⟨rest, -, x, -, hx⟩ := h
    cases hx
  | ai =>
    simp only [Grammar.ofBody?, ai?, Option.bind_eq_bind, Option.bind_eq_some_iff] at h
    obtain ⟨rest, -, x, -, hx⟩ := h
    split at hx <;> cases hx
  | simple => exact h

/-- The token of a stretch that ends in a name. -/
theorem stretchToken?_simple (hx : Unopened xs) (h : simple? body = some p) (place : Nat) :
    stretchToken? place (xs ++ '\x7b' :: '\x7b' :: body) =
      some ⟨p, String.ofList (braced body), place + xs.length⟩ := by
  have hopen : '\x7b' ∉ body := not_mem_of_simple? h (by decide)
  have hcolon : ':' ∉ body := not_mem_of_simple? h (by decide)
  have hbar : '|' ∉ body := not_mem_of_simple? h (by decide)
  have hcomma : ',' ∉ body := not_mem_of_simple? h (by decide)
  refine stretchToken?_eq_some_iff.2 ⟨.simple, xs, ⟨body, rfl, h⟩, rfl, ?_, ?_, ?_⟩
  · rw [List.drop_left]
    rfl
  · -- neither the name nor the name with a brace in front is read by another grammar
    rintro g front r hg ⟨body', he, hr⟩
    have hnone : g.ofBody? body' = none := by
      rcases hx.append_eq hopen he with ⟨-, rfl⟩ | ⟨-, rfl⟩
      · exact ofBody?_eq_none hcolon hbar hcomma hg
      · exact ofBody?_eq_none (by simpa) (by simpa) (by simpa) hg
    rw [hnone] at hr
    cases hr
  · rintro front r hlt ⟨body', he, hr⟩
    rcases hx.append_eq hopen he with ⟨rfl, -⟩ | ⟨-, rfl⟩
    · exact absurd hlt (Nat.lt_irrefl _)
    · have hname : simple? ('\x7b' :: body) = some r := hr
      exact not_mem_of_simple? hname (by decide) List.mem_cons_self

/-- Behind a text without double opening braces, a name in its braces is the first token. -/
theorem tokensFrom_simple (hx : Unopened xs) (hbody : '\x7d' ∉ body) (h : simple? body = some p)
    (place : Nat) (rest : List Char) :
    tokensFrom place (xs ++ braced body ++ rest) =
      ⟨p, String.ofList (braced body), place + xs.length⟩ ::
        tokensFrom (place + xs.length + (braced body).length) rest := by
  -- the first closing brace in front of the name cuts off a stretch without a token
  induction xs using piece_induction '\x7d' generalizing place with
  | last xs hm =>
    have hstretch : '\x7d' ∉ xs ++ '\x7b' :: '\x7b' :: body := by simp [hm, hbody]
    have hcs : xs ++ braced body ++ rest =
        (xs ++ '\x7b' :: '\x7b' :: body) ++ '\x7d' :: '\x7d' :: rest := by simp [braced]
    have hplace : place + (xs ++ '\x7b' :: '\x7b' :: body).length + 2 =
        place + xs.length + (braced body).length := by
      simp only [braced, List.length_append, List.length_cons, List.length_nil]
      omega
    rw [hcs, tokensFrom_closing hstretch, stretchToken?_simple hx h, hplace]
    rfl
  | piece s xs hs ih =>
    have hxs : Unopened xs := by
      rw [← List.concat_append, List.concat_eq_append] at hx
      exact hx.right
    have hcs : s ++ '\x7d' :: xs ++ braced body ++ rest =
        s ++ '\x7d' :: (xs ++ braced body ++ rest) := by simp
    have hlen : (s ++ '\x7d' :: xs).length = s.length + 1 + xs.length := by
      simp only [List.length_append, List.length_cons]
      omega
    rw [hcs, tokensFrom_append hs, stretchToken?_of_unopened hx.left, ih hxs, hlen]
    simp [Nat.add_assoc]

end

end Scaffold.Template
