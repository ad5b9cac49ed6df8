import Mathlib.Tactic

/-!
# Patterns

Regular expressions with groups.

* `Pattern.Reads p xs gs` - the pattern takes the whole text `xs`, and its groups hold `gs`;
* `readings p cs` - the ways in which the pattern takes a beginning of `cs`, in the order in which
  a backtracking search tries them, each with its groups and what is left;
* `findAll p` - the matches found from left to right, each with the first reading at the first
  place that has one, and the search going on behind it.

`mem_readings` says that the search finds a reading of each beginning that the pattern takes, and
no other.
-/

namespace Scaffold.Text

/-- A regular expression over characters. -/
inductive Pattern
  /-- one character of a class -/
  | char (p : Char → Bool)
  | seq (a b : Pattern)
  /-- any number of times: as often as possible first, or as seldom as possible -/
  | many (greedy : Bool) (a : Pattern)
  /-- once or not at all, once first -/
  | opt (a : Pattern)
  /-- what `a` takes is kept -/
  | group (a : Pattern)

namespace Pattern

/-- The character `c`. -/
def lit (c : Char) : Pattern := char (· == c)

/-- At least once. -/
def oneOrMore (greedy : Bool) (a : Pattern) : Pattern := seq a (many greedy a)

/-- One after the other, the last one at the end. -/
def inOrder (front : List Pattern) (last : Pattern) : Pattern := front.foldr seq last

/-- What a pattern takes, and what its groups then hold, in the order of their openings. -/
inductive Reads : Pattern → List Char → List (List Char) → Prop
  | char {p : Char → Bool} {c : Char} : p c = true → Reads (char p) [c] []
  | seq {a b : Pattern} {xs ys gs hs} : Reads a xs gs → Reads b ys hs →
      Reads (seq a b) (xs ++ ys) (gs ++ hs)
  | none {greedy : Bool} {a : Pattern} : Reads (many greedy a) [] []
  | more {greedy : Bool} {a : Pattern} {xs ys gs hs} : Reads a xs gs → xs ≠ [] →
      Reads (many greedy a) ys hs → Reads (many greedy a) (xs ++ ys) (gs ++ hs)
  | skip {a : Pattern} : Reads (opt a) [] []
  | take {a : Pattern} {xs gs} : Reads a xs gs → Reads (opt a) xs gs
  | group {a : Pattern} {xs gs} : Reads a xs gs → Reads (group a) xs (xs :: gs)

/-! ### Reading by the parts of a pattern -/

section

variable {p : Char → Bool} {a b : Pattern} {greedy : Bool} {text : List Char}
  {gs : List (List Char)}

@[simp] theorem inOrder_nil (last : Pattern) : inOrder [] last = last := rfl

@[simp] theorem inOrder_cons (front : List Pattern) (last : Pattern) :
    inOrder (a :: front) last = seq a (inOrder front last) := rfl

theorem reads_seq : Reads (seq a b) text gs ↔
    ∃ xs ys hs ks, text = xs ++ ys ∧ gs = hs ++ ks ∧ Reads a xs hs ∧ Reads b ys ks := by
  constructor
  · intro h
    cases h with
    | seq hx hy => exact ⟨_, _, _, _, rfl, rfl, hx, hy⟩
  · rintro ⟨xs, ys, hs, ks, rfl, rfl, hx, hy⟩
    exact .seq hx hy

theorem reads_lit {c : Char} : Reads (lit c) text gs ↔ text = [c] ∧ gs = [] := by
  constructor
  · intro h
    cases h with
    | char hc => exact ⟨by rw [beq_iff_eq.1 hc], rfl⟩
  · rintro ⟨rfl, rfl⟩
    exact .char (beq_self_eq_true c)

theorem reads_group : Reads (group a) text gs ↔ ∃ hs, gs = text :: hs ∧ Reads a text hs := by
  constructor
  · intro h
    cases h with
    | group h => exact ⟨_, rfl, h⟩
  · rintro ⟨hs, rfl, h⟩
    exact .group h

theorem reads_opt : Reads (opt a) text gs ↔ text = [] ∧ gs = [] ∨ Reads a text gs := by
  constructor
  · intro h
    cases h with
    | skip => exact Or.inl ⟨rfl, rfl⟩
    | take h => exact Or.inr h
  · rintro (⟨rfl, rfl⟩ | h)
    · exact .skip
    · exact .take h

/-- What every round keeps to, all rounds keep to. -/
theorem Reads.of_many {q : Char → Prop} (h : Reads (many greedy a) text gs)
    (ha : ∀ xs hs, Reads a xs hs → (∀ c ∈ xs, q c) ∧ hs = []) : (∀ c ∈ text, q c) ∧ gs = [] := by
  generalize hp : many greedy a = p at h
  induction h with
  | none => simp
  | @more _ _ xs ys _ _ hx _ _ _ ih =>
    cases hp
    obtain ⟨hq, rfl⟩ := ha _ _ hx
    obtain ⟨hq', rfl⟩ := ih rfl
    refine ⟨fun c hc => ?_, rfl⟩
    rcases List.mem_append.1 hc with hc | hc
    · exact hq c hc
    · exact hq' c hc
  | _ => cases hp

theorem reads_many_char :
    Reads (many greedy (char p)) text gs ↔ (∀ c ∈ text, p c = true) ∧ gs = [] := by
  constructor
  · intro h
    refine h.of_many fun xs hs hx => ?_
    cases hx with
    | char hc => simpa using hc
  · rintro ⟨h, rfl⟩
    induction text with
    | nil => exact .none
    | cons c cs ih =>
      exact .more (.char (h c (by simp))) (by simp) (ih fun d hd => h d (List.mem_cons_of_mem c hd))

theorem reads_oneOrMore_char :
    Reads (oneOrMore greedy (char p)) text gs ↔
      text ≠ [] ∧ (∀ c ∈ text, p c = true) ∧ gs = [] := by
  unfold oneOrMore
  rw [reads_seq]
  constructor
  · rintro ⟨xs, ys, hs, ks, rfl, rfl, hx, hy⟩
    obtain ⟨hq, rfl⟩ := reads_many_char.1 hy
    cases hx with
    | char hc => exact ⟨by simp, by simpa using ⟨hc, hq⟩, rfl⟩
  · rintro ⟨hne, h, rfl⟩
    obtain ⟨c, cs, rfl⟩ := List.exists_cons_of_ne_nil hne
    exact ⟨[c], cs, [], [], rfl, rfl, .char (h c (by simp)),
      reads_many_char.2 ⟨fun d hd => h d (List.mem_cons_of_mem c hd), rfl⟩⟩

/-- A word is read letter by letter. -/
theorem reads_inOrder_lit {word : List Char} :
    Reads (inOrder (word.map lit) b) text gs ↔ ∃ rest, text = word ++ rest ∧ Reads b rest gs := by
  induction word generalizing text with
  | nil => simp
  | cons c word ih =>
    rw [List.map_cons, inOrder_cons, reads_seq]
    constructor
    · rintro ⟨xs, ys, hs, ks, rfl, rfl, hx, hy⟩
      obtain ⟨rfl, rfl⟩ := reads_lit.1 hx
      obtain ⟨rest, rfl, h⟩ := ih.1 hy
      exact ⟨rest, rfl, h⟩
    · rintro ⟨rest, rfl, h⟩
      exact ⟨[c], word ++ rest, [], gs, rfl, rfl, reads_lit.2 ⟨rfl, rfl⟩, ih.2 ⟨rest, rfl, h⟩⟩

end

/-! ### Searching -/

/-- The ways of taking a beginning of a text, those that are tried earlier in front: the groups
and the rest of the text. -/
def readings : Pattern → List Char → List (List (List Char) × List Char)
  | char _, [] => []
  | char p, c :: cs => if p c then [([], cs)] else []
  | seq a b, cs =>
    (readings a cs).flatMap fun (gs, rest) =>
      (readings b rest).map fun (hs, rest) => (gs ++ hs, rest)
  | many greedy a, cs =>
    -- a round that takes nothing would be repeated for ever
    let longer := (readings a cs).flatMap fun (gs, rest) =>
      if _ : rest.length < cs.length then
        (readings (many greedy a) rest).map fun (hs, rest) => (gs ++ hs, rest)
      else []
    if greedy then longer ++ [([], cs)] else ([], cs) :: longer
  | opt a, cs => readings a cs ++ [([], cs)]
  | group a, cs =>
    (readings a cs).map fun (gs, rest) => (cs.take (cs.length - rest.length) :: gs, rest)
termination_by p cs => (p, cs.length)

variable {p a b : Pattern} {greedy : Bool} {cs rest : List Char} {gs : List (List Char)}

theorem mem_readings_seq : (gs, rest) ∈ readings (seq a b) cs ↔
    ∃ gs₁ rest₁ gs₂, (gs₁, rest₁) ∈ readings a cs ∧ (gs₂, rest) ∈ readings b rest₁ ∧
      gs = gs₁ ++ gs₂ := by
  simp only [readings, List.mem_flatMap, List.mem_map, Prod.exists, Prod.mk.injEq]
  constructor
  · rintro ⟨gs₁, rest₁, h₁, gs₂, rest₂, h₂, rfl, rfl⟩
    exact ⟨gs₁, rest₁, gs₂, h₁, h₂, rfl⟩
  · rintro ⟨gs₁, rest₁, gs₂, h₁, h₂, rfl⟩
    exact ⟨gs₁, rest₁, h₁, gs₂, rest, h₂, rfl, rfl⟩

/-- One round and the rest of them, or none. -/
theorem mem_readings_many : (gs, rest) ∈ readings (many greedy a) cs ↔
    (gs = [] ∧ rest = cs) ∨
      ∃ gs₁ rest₁ gs₂, (gs₁, rest₁) ∈ readings a cs ∧ rest₁.length < cs.length ∧
        (gs₂, rest) ∈ readings (many greedy a) rest₁ ∧ gs = gs₁ ++ gs₂ := by
  have hlonger : ((gs, rest) ∈ (readings a cs).flatMap fun (gs, rest) =>
      if _ : rest.length < cs.length then
        (readings (many greedy a) rest).map fun (hs, rest) => (gs ++ hs, rest)
      else []) ↔
      ∃ gs₁ rest₁ gs₂, (gs₁, rest₁) ∈ readings a cs ∧ rest₁.length < cs.length ∧
        (gs₂, rest) ∈ readings (many greedy a) rest₁ ∧ gs = gs₁ ++ gs₂ := by
    simp only [List.mem_flatMap, Prod.exists]
    constructor
    · rintro ⟨gs₁, rest₁, h₁, h₂⟩
      split at h₂
      · next hlt =>
        simp only [List.mem_map, Prod.exists, Prod.mk.injEq] at h₂
        obtain ⟨gs₂, rest₂, h₂, rfl, rfl⟩ := h₂
        exact ⟨gs₁, rest₁, gs₂, h₁, hlt, h₂, rfl⟩
      · cases h₂
    · rintro ⟨gs₁, rest₁, gs₂, h₁, hlt, h₂, rfl⟩
      refine ⟨gs₁, rest₁, h₁, ?_⟩
      rw [dif_pos hlt]
      exact List.mem_map.2 ⟨(gs₂, rest), h₂, rfl⟩
  rw [readings, ← hlonger]
  cases greedy <;> simp [or_comm]

/-- The search tries just the ways in which the pattern takes a beginning of the text. -/
theorem mem_readings :
    (gs, rest) ∈ readings p cs ↔ ∃ xs, cs = xs ++ rest ∧ Reads p xs gs := by
  induction p generalizing cs gs rest with
  | char p =>
    cases cs with
    | nil =>
      simp only [readings, List.not_mem_nil, false_iff]
      rintro ⟨xs, hxs, h⟩
      cases h
      simp at hxs
    | cons c cs =>
      rw [readings]
      constructor
      · intro h
        split at h
        · next hp =>
          simp only [List.mem_singleton, Prod.mk.injEq] at h
          obtain ⟨rfl, rfl⟩ := h
          exact ⟨[c], rfl, .char hp⟩
        · cases h
      · rintro ⟨xs, hxs, h⟩
        cases h with
        | char hp =>
          simp only [List.cons_append, List.nil_append, List.cons.injEq] at hxs
          obtain ⟨rfl, rfl⟩ := hxs
          simp [hp]
  | seq a b iha ihb =>
    rw [mem_readings_seq]
    constructor
    · rintro ⟨gs₁, rest₁, gs₂, h₁, h₂, rfl⟩
      obtain ⟨xs, rfl, hx⟩ := iha.1 h₁
      obtain ⟨ys, rfl, hy⟩ := ihb.1 h₂
      exact ⟨xs ++ ys, (List.append_assoc ..).symm, .seq hx hy⟩
    · rintro ⟨xs, hxs, h⟩
      cases h with
      | @seq _ _ xs ys gs hs hx hy =>
        rw [List.append_assoc] at hxs
        exact ⟨gs, ys ++ rest, hs, iha.2 ⟨xs, hxs, hx⟩, ihb.2 ⟨ys, rfl, hy⟩, rfl⟩
  | many greedy a iha =>
    -- each round leaves less of the text
    induction hn : cs.length using Nat.strong_induction_on generalizing cs gs rest with
    | _ n ih =>
      subst hn
      rw [mem_readings_many]
      constructor
      · rintro (⟨rfl, rfl⟩ | ⟨gs₁, rest₁, gs₂, h₁, hlt, h₂, rfl⟩)
        · exact ⟨[], rfl, .none⟩
        · obtain ⟨xs, rfl, hx⟩ := iha.1 h₁
          obtain ⟨ys, rfl, hy⟩ := (ih _ hlt rfl).1 h₂
          have hne : xs ≠ [] := by
            rintro rfl
            simp at hlt
          exact ⟨xs ++ ys, (List.append_assoc ..).symm, .more hx hne hy⟩
      · rintro ⟨xs, hxs, h⟩
        cases h with
        | none => exact Or.inl ⟨rfl, hxs.symm⟩
        | @more _ _ xs ys gs hs hx hne hy =>
          rw [List.append_assoc] at hxs
          have hlt : (ys ++ rest).length < cs.length := by
            have := List.length_pos_iff.2 hne
            simp only [hxs, List.length_append]
            omega
          exact Or.inr ⟨gs, ys ++ rest, hs, iha.2 ⟨xs, hxs, hx⟩, hlt,
            (ih _ hlt rfl).2 ⟨ys, rfl, hy⟩, rfl⟩
  | opt a iha =>
    rw [readings, List.mem_append, List.mem_singleton, iha, Prod.mk.injEq]
    constructor
    · rintro (⟨xs, hxs, h⟩ | ⟨rfl, rfl⟩)
      · exact ⟨xs, hxs, .take h⟩
      · exact ⟨[], rfl, .skip⟩
    · rintro ⟨xs, hxs, h⟩
      cases h with
      | skip => exact Or.inr ⟨rfl, hxs.symm⟩
      | take h => exact Or.inl ⟨xs, hxs, h⟩
  | group a iha =>
    simp only [readings, List.mem_map, Prod.exists, Prod.mk.injEq]
    constructor
    · rintro ⟨hs, rest', h, rfl, rfl⟩
      obtain ⟨xs, rfl, hx⟩ := iha.1 h
      exact ⟨xs, rfl, by simpa using Reads.group hx⟩
    · rintro ⟨xs, rfl, h⟩
      cases h with
      | @group _ _ hs hx => exact ⟨hs, rest, iha.2 ⟨xs, rfl, hx⟩, by simp, rfl⟩

/-! ### All matches -/

/-- What a pattern took, from which place on, and what its groups hold. -/
structure Match where
  start : Nat
  text : List Char
  groups : List (List Char)

/-- The place behind the match. -/
def Match.stop (m : Match) : Nat := m.start + m.text.length

/-- The matches of a text that starts at `place`. At each place the first reading that takes
something is the match, and the search goes on behind it. -/
def findAll (p : Pattern) (place : Nat) (cs : List Char) : List Match :=
  match h : (readings p cs).find? fun r => r.2.length < cs.length with
  | some (gs, rest) =>
    let xs := cs.take (cs.length - rest.length)
    ⟨place, xs, gs⟩ :: findAll p (place + xs.length) rest
  | none =>
    match cs with
    | [] => []
    | _ :: cs => findAll p (place + 1) cs
termination_by cs.length
decreasing_by
  · simpa using List.find?_some h
  · simp

/-- The text begins with a match, or no match starts at its first character. -/
theorem findAll_cases (p : Pattern) (place : Nat) (cs : List Char) :
    (∃ xs gs rest, cs = xs ++ rest ∧ xs ≠ [] ∧ Reads p xs gs ∧
      findAll p place cs = ⟨place, xs, gs⟩ :: findAll p (place + xs.length) rest) ∨
    (∀ xs gs rest, cs = xs ++ rest → xs ≠ [] → ¬ Reads p xs gs) ∧
      (cs = [] ∧ findAll p place cs = [] ∨
        ∃ c tail, cs = c :: tail ∧ findAll p place cs = findAll p (place + 1) tail) := by
  rw [findAll]
  split
  · next gs rest h =>
    obtain ⟨xs, rfl, hx⟩ := mem_readings.1 (List.mem_of_find?_eq_some h)
    have hlt : rest.length < (xs ++ rest).length := by simpa using List.find?_some h
    have hne : xs ≠ [] := by
      rintro rfl
      simp at hlt
    have htake : (xs ++ rest).take ((xs ++ rest).length - rest.length) = xs := by simp
    exact Or.inl ⟨xs, gs, rest, rfl, hne, hx, by rw [htake]⟩
  · next h =>
    refine Or.inr ⟨?_, ?_⟩
    · rintro xs gs rest rfl hne hx
      have hshort := List.find?_eq_none.1 h _ (mem_readings.2 ⟨xs, rfl, hx⟩)
      exact hshort (by simpa using List.length_pos_iff.2 hne)
    · cases cs with
      | nil => exact Or.inl ⟨rfl, rfl⟩
      | cons c tail => exact Or.inr ⟨c, tail, rfl, rfl⟩

/-- A match is a stretch of the text that the pattern takes. -/
theorem reads_of_mem_findAll {m : Match} {place : Nat} (h : m ∈ findAll p place cs) :
    ∃ xs zs, cs = xs ++ m.text ++ zs ∧ m.start = place + xs.length ∧ m.text ≠ [] ∧
      Reads p m.text m.groups := by
  -- behind a match and behind a character without one there is less to search
  induction hn : cs.length using Nat.strong_induction_on generalizing cs place with
  | _ n ih =>
    subst hn
    rcases findAll_cases p place cs with
      ⟨xs, gs, rest, rfl, hne, hx, he⟩ | ⟨-, ⟨-, he⟩ | ⟨c, tail, rfl, he⟩⟩
    · rw [he] at h
      rcases List.mem_cons.1 h with rfl | h
      · exact ⟨[], rest, rfl, rfl, hne, hx⟩
      · have := List.length_pos_iff.2 hne
        obtain ⟨us, zs, rfl, hstart, hm⟩ := ih rest.length (by simp; omega) h rfl
        exact ⟨xs ++ us, zs, by simp, by simp [hstart]; omega, hm⟩
    · rw [he] at h
      cases h
    · rw [he] at h
      obtain ⟨us, zs, rfl, hstart, hm⟩ := ih tail.length (by simp) h rfl
      exact ⟨c :: us, zs, rfl, by simp [hstart]; omega, hm⟩

/-- The matches follow one another. -/
theorem pairwise_findAll (p : Pattern) (place : Nat) (cs : List Char) :
    (findAll p place cs).Pairwise fun m n => m.stop ≤ n.start := by
  induction hn : cs.length using Nat.strong_induction_on generalizing cs place with
  | _ n ih =>
    subst hn
    rcases findAll_cases p place cs with
      ⟨xs, gs, rest, rfl, hne, hx, he⟩ | ⟨-, ⟨-, he⟩ | ⟨c, tail, rfl, he⟩⟩
    · have := List.length_pos_iff.2 hne
      rw [he, List.pairwise_cons]
      refine ⟨fun m hm => ?_, ih rest.length (by simp; omega) _ _ rfl⟩
      obtain ⟨us, zs, -, hstart, -⟩ := reads_of_mem_findAll hm
      rw [hstart, Match.stop]
      simp
    · rw [he]
      exact .nil
    · rw [he]
      exact ih tail.length (by simp) _ _ rfl

end Pattern

end Scaffold.Text
