import Scaffold.Proofs.Template.Grammar
import Scaffold.Template.Scan

/-!
# Stretches

Two closing braces end a stretch, which is the text behind the last closing brace before them
(`Closing`). A body in its braces that ends there is a part of that stretch (`Closing.of_braced`).

* `stretchToken?_eq_some_iff` - the token of a stretch: the first grammar that reads a body, and
  the longest body that it reads;
* `mem_tokensFrom` - the tokens of a text are those of its stretches;
* `pairwise_tokensFrom` - and they follow one another.
-/

namespace Scaffold.Template
open Scaffold.Text Scaffold.Text.Pattern

/-! ### The first in order -/

/-- In a list in rising order, the first result is that of the least element with a result. -/
theorem findSome?_eq_some_of_pairwise {α β : Type} {key : α → Nat} {f : α → Option β} {l : List α}
    {b : β} (hl : l.Pairwise fun x y => key x < key y) :
    l.findSome? f = some b ↔ ∃ a ∈ l, f a = some b ∧ ∀ x ∈ l, key x < key a → f x = none := by
  rw [List.findSome?_eq_some_iff]
  constructor
  · rintro ⟨l₁, a, l₂, rfl, ha, hnone⟩
    refine ⟨a, by simp, ha, fun x hx hlt => ?_⟩
    rw [List.pairwise_append, List.pairwise_cons] at hl
    rcases List.mem_append.1 hx with hx | hx
    · exact hnone x hx
    · rcases List.mem_cons.1 hx with rfl | hx
      · omega
      · have := hl.2.1.1 x hx
        omega
  · rintro ⟨a, ha, hf, hnone⟩
    obtain ⟨l₁, l₂, rfl⟩ := List.append_of_mem ha
    refine ⟨l₁, a, l₂, rfl, hf, fun x hx => hnone x (by simp [hx]) ?_⟩
    rw [List.pairwise_append] at hl
    exact hl.2.2 x hx a (by simp)

/-! ### The token of a stretch -/

/-- Braces open at the first character, or all openings lie behind it. -/
theorem openings_cons (c : Char) (cs : List Char) :
    (∃ body, c = '\x7b' ∧ cs = '\x7b' :: body ∧
      openings (c :: cs) = (0, body) :: (openings cs).map fun (i, body) => (i + 1, body)) ∨
    (∀ body, ¬ (c = '\x7b' ∧ cs = '\x7b' :: body)) ∧
      openings (c :: cs) = (openings cs).map fun (i, body) => (i + 1, body) := by
  by_cases h : ∃ body, c = '\x7b' ∧ cs = '\x7b' :: body
  · obtain ⟨body, rfl, rfl⟩ := h
    exact Or.inl ⟨body, rfl, rfl, by rw [openings]⟩
  · refine Or.inr ⟨fun body hb => h ⟨body, hb⟩, ?_⟩
    rw [openings]
    intro rest hc hcs
    exact h ⟨rest, hc, hcs⟩

theorem mem_openings {cs : List Char} {i : Nat} {body : List Char} :
    (i, body) ∈ openings cs ↔ ∃ xs, cs = xs ++ '\x7b' :: '\x7b' :: body ∧ i = xs.length := by
  induction cs generalizing i with
  | nil => simp [openings]
  | cons c cs ih =>
    have hshift : (i, body) ∈ ((openings cs).map fun (i, body) => (i + 1, body)) ↔
        ∃ xs, cs = xs ++ '\x7b' :: '\x7b' :: body ∧ i = xs.length + 1 := by
      simp only [List.mem_map, Prod.exists, Prod.mk.injEq]
      constructor
      · rintro ⟨j, _, h, rfl, rfl⟩
        obtain ⟨xs, hxs, rfl⟩ := ih.1 h
        exact ⟨xs, hxs, rfl⟩
      · rintro ⟨xs, hxs, rfl⟩
        exact ⟨xs.length, body, ih.2 ⟨xs, hxs, rfl⟩, rfl, rfl⟩
    rcases openings_cons c cs with ⟨body', rfl, rfl, he⟩ | ⟨hno, he⟩ <;> rw [he]
    · rw [List.mem_cons, hshift, Prod.mk.injEq]
      constructor
      · rintro (⟨rfl, rfl⟩ | ⟨xs, hxs, rfl⟩)
        · exact ⟨[], rfl, rfl⟩
        · exact ⟨'\x7b' :: xs, by rw [hxs]; rfl, rfl⟩
      · rintro ⟨xs, hxs, rfl⟩
        cases xs with
        | nil => exact Or.inl ⟨rfl, by simpa using hxs.symm⟩
        | cons d xs => exact Or.inr ⟨xs, (List.cons.inj hxs).2, rfl⟩
    · rw [hshift]
      constructor
      · rintro ⟨xs, hxs, rfl⟩
        exact ⟨c :: xs, by rw [hxs]; rfl, rfl⟩
      · rintro ⟨xs, hxs, rfl⟩
        cases xs with
        | nil => exact absurd (List.cons.inj hxs) (hno body)
        | cons d xs => exact ⟨xs, (List.cons.inj hxs).2, rfl⟩

/-- Braces that open once. -/
theorem openings_append {xs body : List Char} (hx : '\x7b' ∉ xs) (hb : '\x7b' ∉ body) :
    openings (xs ++ '\x7b' :: '\x7b' :: body) = [(xs.length, body)] := by
  induction xs with
  | nil =>
    have hnone : openings ('\x7b' :: body) = [] := by
      rw [List.eq_nil_iff_forall_not_mem]
      rintro ⟨i, body'⟩ hm
      obtain ⟨us, he, -⟩ := mem_openings.1 hm
      have htail := congrArg List.tail he
      cases us <;> simp [List.tail_cons] at htail <;> simp [htail] at hb
    rw [List.nil_append, openings, hnone]
    rfl
  | cons c xs ih =>
    have hc : c ≠ '\x7b' := fun e => hx (e ▸ List.mem_cons_self)
    rw [List.cons_append]
    rcases openings_cons c (xs ++ '\x7b' :: '\x7b' :: body) with ⟨_, h, -⟩ | ⟨-, he⟩
    · exact absurd h hc
    · rw [he, ih fun hm => hx (List.mem_cons_of_mem c hm)]
      rfl

theorem pairwise_openings (cs : List Char) :
    (openings cs).Pairwise fun x y => x.1 < y.1 := by
  induction cs with
  | nil => exact .nil
  | cons c cs ih =>
    have hshift : ((openings cs).map fun (i, body) => (i + 1, body)).Pairwise
        fun x y => x.1 < y.1 :=
      List.pairwise_map.2 (ih.imp fun h => Nat.succ_lt_succ h)
    rcases openings_cons c cs with ⟨body, -, -, he⟩ | ⟨-, he⟩ <;> rw [he]
    · refine List.pairwise_cons.2 ⟨fun x hx => ?_, hshift⟩
      obtain ⟨y, -, rfl⟩ := List.mem_map.1 hx
      exact Nat.succ_pos _
    · exact hshift

theorem pairwise_grammars : Grammar.all.Pairwise fun g h => g.rank < h.rank := by
  decide

theorem mem_grammars (g : Grammar) : g ∈ Grammar.all := by
  cases g <;> decide

/-- The stretch has a body in front of which braces open and which a grammar reads. -/
def Opens (g : Grammar) (stretch front : List Char) (r : Placeholder) : Prop :=
  ∃ body, stretch = front ++ '\x7b' :: '\x7b' :: body ∧ g.ofBody? body = some r

theorem Opens.isPrefix {g : Grammar} {stretch front : List Char} {r : Placeholder}
    (h : Opens g stretch front r) : front <+: stretch := by
  obtain ⟨body, rfl, -⟩ := h
  exact List.prefix_append _ _

theorem not_opens_iff {g : Grammar} {stretch front : List Char} :
    (∀ r, ¬ Opens g stretch front r) ↔
      ∀ body, stretch = front ++ '\x7b' :: '\x7b' :: body → g.ofBody? body = none := by
  constructor
  · intro h body he
    rw [Option.eq_none_iff_forall_ne_some]
    exact fun r hr => h r ⟨body, he, hr⟩
  · rintro h r ⟨body, he, hr⟩
    rw [h body he] at hr
    cases hr

/-- What one grammar reads in a stretch: the longest body that it takes. -/
theorem findSome?_openings {g : Grammar} {stretch : List Char} {i : Nat} {r : Placeholder} :
    ((openings stretch).findSome? fun (i, body) => (g.ofBody? body).map fun p => (i, p)) =
        some (i, r) ↔
      ∃ front, Opens g stretch front r ∧ i = front.length ∧
        ∀ front' r', front'.length < front.length → ¬ Opens g stretch front' r' := by
  rw [findSome?_eq_some_of_pairwise (pairwise_openings stretch)]
  simp only [Prod.exists, Option.map_eq_some_iff, Prod.mk.injEq, Option.map_eq_none_iff,
    Prod.forall]
  constructor
  · rintro ⟨j, body, hmem, ⟨_, hr, rfl, rfl⟩, hnone⟩
    obtain ⟨front, he, rfl⟩ := mem_openings.1 hmem
    refine ⟨front, ⟨body, he, hr⟩, rfl, fun front' r' hlt => not_opens_iff.2 ?_ r'⟩
    exact fun body' he' => hnone _ body' (mem_openings.2 ⟨front', he', rfl⟩) hlt
  · rintro ⟨front, ⟨body, he, hr⟩, rfl, hleast⟩
    refine ⟨front.length, body, mem_openings.2 ⟨front, he, rfl⟩, ⟨r, hr, rfl, rfl⟩, ?_⟩
    intro j body' hmem hlt
    obtain ⟨front', he', rfl⟩ := mem_openings.1 hmem
    exact not_opens_iff.1 (fun r' => hleast front' r' hlt) body' he'

theorem findSome?_openings_eq_none {g : Grammar} {stretch : List Char} :
    ((openings stretch).findSome? fun (i, body) => (g.ofBody? body).map fun p => (i, p)) = none ↔
      ∀ front r, ¬ Opens g stretch front r := by
  simp only [List.findSome?_eq_none_iff, Prod.forall, Option.map_eq_none_iff]
  constructor
  · intro h front
    exact not_opens_iff.2 fun body he => h _ body (mem_openings.2 ⟨front, he, rfl⟩)
  · intro h i body hmem
    obtain ⟨front, he, rfl⟩ := mem_openings.1 hmem
    exact not_opens_iff.1 (h front) body he

/-- The best placeholder of a stretch is of the first grammar that reads a body in it. -/
theorem best?_eq_some_iff {stretch : List Char} {i : Nat} {r : Placeholder} :
    best? stretch = some (i, r) ↔ ∃ g front, Opens g stretch front r ∧ i = front.length ∧
      (∀ h front' r', h.rank < g.rank → ¬ Opens h stretch front' r') ∧
      ∀ front' r', front'.length < front.length → ¬ Opens g stretch front' r' := by
  unfold best?
  rw [grammars_eq, List.findSome?_map, findSome?_eq_some_of_pairwise pairwise_grammars]
  simp only [Function.comp_apply, findSome?_openings, findSome?_openings_eq_none]
  constructor
  · rintro ⟨g, -, ⟨front, ho, rfl, hleast⟩, hfirst⟩
    exact ⟨g, front, ho, rfl,
      fun h front' r' hlt => hfirst h (mem_grammars h) hlt front' r', hleast⟩
  · rintro ⟨g, front, ho, rfl, hfirst, hleast⟩
    exact ⟨g, mem_grammars g, ⟨front, ho, rfl, hleast⟩,
      fun h _ hlt front' r' => hfirst h front' r' hlt⟩

/-- Where braces open once, the first grammar that reads the body decides. -/
theorem best?_of_openings {stretch body : List Char} {i : Nat}
    (h : openings stretch = [(i, body)]) :
    best? stretch = (grammars.findSome? fun grammar => grammar body).map fun p => (i, p) := by
  unfold best?
  rw [h, List.map_findSome?]
  congr 1
  funext grammar
  rw [List.findSome?_cons, List.findSome?_nil]
  cases hg : grammar body <;> simp [hg]

/-- The token of a stretch: its text runs to the closing braces, and of the bodies that the first
grammar reads it is the longest. -/
theorem stretchToken?_eq_some_iff {place : Nat} {stretch : List Char} {t : Token} :
    stretchToken? place stretch = some t ↔ ∃ g front, Opens g stretch front t.placeholder ∧
      t.start = place + front.length ∧
      t.raw = String.ofList (stretch.drop front.length ++ ['\x7d', '\x7d']) ∧
      (∀ h front' r', h.rank < g.rank → ¬ Opens h stretch front' r') ∧
      ∀ front' r', front'.length < front.length → ¬ Opens g stretch front' r' := by
  unfold stretchToken?
  simp only [Option.map_eq_some_iff, Prod.exists, best?_eq_some_iff]
  constructor
  · rintro ⟨_, _, ⟨g, front, ho, rfl, hfirst, hleast⟩, rfl⟩
    exact ⟨g, front, ho, rfl, rfl, hfirst, hleast⟩
  · rintro ⟨g, front, ho, hstart, hraw, hfirst, hleast⟩
    refine ⟨_, _, ⟨g, front, ho, rfl, hfirst, hleast⟩, ?_⟩
    rw [← hstart, ← hraw]

theorem span_of_stretchToken? {place : Nat} {stretch : List Char} {t : Token}
    (h : stretchToken? place stretch = some t) :
    place ≤ t.start ∧ t.start < t.stop ∧ t.stop = place + stretch.length + 2 := by
  obtain ⟨g, front, ⟨body, rfl, -⟩, hstart, hraw, -⟩ := stretchToken?_eq_some_iff.1 h
  have hlen : t.raw.length = body.length + 4 := by
    rw [hraw, String.length_ofList, List.drop_left]
    simp
  simp only [Token.stop, hlen, hstart, List.length_append, List.length_cons]
  omega

/-! ### Stretch by stretch -/

/-- The tokens of a text that starts at `place`. -/
def tokensFrom (place : Nat) (cs : List Char) : List Token :=
  stretchTokens place (splitOn '\x7d' cs)

theorem scanChars_eq (cs : List Char) : scanChars cs = tokensFrom 0 cs := rfl

theorem tokensFrom_of_not_mem {cs : List Char} (h : '\x7d' ∉ cs) (place : Nat) :
    tokensFrom place cs = [] := by
  unfold tokensFrom
  rw [splitOn_of_not_mem h]
  rfl

/-- A stretch and the closing brace behind it. A token ends there when a second one follows. -/
theorem tokensFrom_append {stretch : List Char} (h : '\x7d' ∉ stretch) (place : Nat)
    (rest : List Char) :
    tokensFrom place (stretch ++ '\x7d' :: rest) =
      (if rest.head? = some '\x7d' then (stretchToken? place stretch).toList else []) ++
        tokensFrom (place + stretch.length + 1) rest := by
  unfold tokensFrom
  rw [splitOn_append h]
  cases rest with
  | nil => rfl
  | cons c rest =>
    obtain ⟨piece, pieces, hs⟩ := exists_splitOn_eq_cons '\x7d' rest
    by_cases hc : c = '\x7d'
    · rw [hc, splitOn_cons_sep, hs, stretchTokens]
      rfl
    · rw [splitOn_cons_of_ne hc hs, stretchTokens]
      simp [hc]

theorem tokensFrom_closing {stretch : List Char} (h : '\x7d' ∉ stretch) (place : Nat)
    (rest : List Char) :
    tokensFrom place (stretch ++ '\x7d' :: '\x7d' :: rest) =
      (stretchToken? place stretch).toList ++ tokensFrom (place + stretch.length + 2) rest := by
  have hsecond := tokensFrom_append List.not_mem_nil (place + stretch.length + 1) rest
  have hnone : ∀ place, stretchToken? place [] = none := fun _ => rfl
  rw [tokensFrom_append h, List.head?_cons, if_pos rfl]
  simpa [hnone] using hsecond

/-! ### The stretches of a text -/

/-- Two closing braces with a stretch in front of them: it holds no closing brace and starts the
text or stands behind one. -/
structure Closing (cs before stretch behind : List Char) : Prop where
  eq : cs = before ++ stretch ++ '\x7d' :: '\x7d' :: behind
  not_mem : '\x7d' ∉ stretch
  front : ∀ c, before.getLast? = some c → c = '\x7d'

/-- Every two closing braces have a stretch in front of them. -/
theorem exists_closing (xs behind : List Char) :
    ∃ before stretch, xs = before ++ stretch ∧
      Closing (xs ++ '\x7d' :: '\x7d' :: behind) before stretch behind := by
  have he : xs.rdropWhile (· != '\x7d') ++ xs.rtakeWhile (· != '\x7d') = xs :=
    List.rdropWhile_append_rtakeWhile
  refine ⟨_, _, he.symm, by rw [he], fun hm => ?_, fun c hc => ?_⟩
  · simpa using List.mem_rtakeWhile_imp hm
  · have hne : xs.rdropWhile (· != '\x7d') ≠ [] := by
      intro h0
      rw [h0] at hc
      cases hc
    rw [List.getLast?_eq_some_getLast hne, Option.some.injEq] at hc
    simpa [hc] using List.rdropWhile_last_not _ _ hne

/-- A body in its braces that ends at the two closing braces is a part of the stretch. -/
theorem Closing.of_braced {cs before stretch behind xs body : List Char}
    (h : Closing cs before stretch behind) (hbody : '\x7d' ∉ body)
    (he : cs = xs ++ braced body ++ behind) :
    ∃ front, xs = before ++ front ∧ stretch = front ++ '\x7b' :: '\x7b' :: body := by
  have hsplit : before ++ stretch = xs ++ '\x7b' :: '\x7b' :: body := by
    refine (List.append_left_inj ('\x7d' :: '\x7d' :: behind)).1 ?_
    rw [← h.eq, he]
    simp [braced]
  rcases List.append_eq_append_iff.1 hsplit with ⟨front, rfl, hs⟩ | ⟨front, rfl, hs⟩
  · exact ⟨front, rfl, hs⟩
  · -- what the two have in common would end in a closing brace
    rcases List.eq_nil_or_concat front with rfl | ⟨init, c, rfl⟩
    · exact ⟨[], by simp, by simpa using hs.symm⟩
    · obtain rfl := h.front c (by simp)
      have hm : '\x7d' ∈ '\x7b' :: '\x7b' :: body := by
        rw [hs]
        simp
      simp [hbody] at hm

/-- Two closing braces end the first stretch, or they stand behind the first closing brace. -/
theorem closing_append_iff {s rest before stretch behind : List Char} (hs : '\x7d' ∉ s) :
    Closing (s ++ '\x7d' :: rest) before stretch behind ↔
      (before = [] ∧ stretch = s ∧ rest = '\x7d' :: behind) ∨
        ∃ before', before = s ++ '\x7d' :: before' ∧ Closing rest before' stretch behind := by
  constructor
  · intro h
    by_cases hb : '\x7d' ∈ before
    · obtain ⟨s', before', rfl, hs'⟩ := List.eq_append_cons_of_mem hb
      obtain ⟨rfl, hrest⟩ := append_cons_inj (by simpa using h.eq) hs hs'
      refine Or.inr ⟨before', rfl, by simpa using hrest, h.not_mem, fun c hc => ?_⟩
      refine h.front c ?_
      rw [List.getLast?_append, List.getLast?_cons, hc]
      rfl
    · have hnil : before = [] := by
        by_contra hne
        have hl := List.getLast?_eq_some_getLast hne
        exact hb (h.front _ hl ▸ List.getLast_mem hne)
      subst hnil
      obtain ⟨rfl, hrest⟩ := append_cons_inj (by simpa using h.eq) hs h.not_mem
      exact Or.inl ⟨rfl, rfl, hrest⟩
  · rintro (⟨rfl, rfl, rfl⟩ | ⟨before', rfl, h⟩)
    · exact ⟨rfl, hs, fun c hc => by cases hc⟩
    · refine ⟨by simp [h.eq], h.not_mem, fun c hc => ?_⟩
      rw [List.getLast?_append, List.getLast?_cons] at hc
      cases hl : before'.getLast? with
      | none => simpa [hl] using hc.symm
      | some d =>
        obtain rfl : d = c := by simpa [hl] using hc
        exact h.front d hl

/-- The tokens of a text are those of its stretches. -/
theorem mem_tokensFrom {t : Token} {place : Nat} {cs : List Char} :
    t ∈ tokensFrom place cs ↔ ∃ before stretch behind, Closing cs before stretch behind ∧
      stretchToken? (place + before.length) stretch = some t := by
  -- the first closing brace cuts off a stretch
  induction cs using piece_induction '\x7d' generalizing place with
  | last cs hm =>
    rw [tokensFrom_of_not_mem hm]
    constructor
    · intro h
      cases h
    · rintro ⟨before, stretch, behind, h, -⟩
      exact absurd (h.eq ▸ by simp) hm
  | piece s rest hs ih =>
    rw [tokensFrom_append hs, List.mem_append, ih]
    constructor
    · rintro (h | ⟨before, stretch, behind, h, ht⟩)
      · split at h
        · next hrest =>
          obtain ⟨behind, rfl⟩ := List.head?_eq_some_iff.1 hrest
          exact ⟨[], s, behind, (closing_append_iff hs).2 (Or.inl ⟨rfl, rfl, rfl⟩),
            by simpa using h⟩
        · cases h
      · refine ⟨s ++ '\x7d' :: before, stretch, behind,
          (closing_append_iff hs).2 (Or.inr ⟨before, rfl, h⟩), ?_⟩
        rw [← ht]
        congr 1
        simp only [List.length_append, List.length_cons]
        omega
    · rintro ⟨before, stretch, behind, h, ht⟩
      rcases (closing_append_iff hs).1 h with ⟨rfl, rfl, rfl⟩ | ⟨before', rfl, h'⟩
      · exact Or.inl (by simpa using ht)
      · refine Or.inr ⟨before', stretch, behind, h', ?_⟩
        rw [← ht]
        congr 1
        simp only [List.length_append, List.length_cons]
        omega

/-- The tokens follow one another. -/
theorem pairwise_tokensFrom (place : Nat) (cs : List Char) :
    (tokensFrom place cs).Pairwise fun s t => s.stop ≤ t.start := by
  induction cs using piece_induction '\x7d' generalizing place with
  | last cs hm =>
    rw [tokensFrom_of_not_mem hm]
    exact .nil
  | piece s rest hs ih =>
    have htail := ih (place + s.length + 1)
    rw [tokensFrom_append hs]
    split
    · next hrest =>
      refine List.pairwise_append.2 ⟨by cases stretchToken? place s <;> simp, htail, ?_⟩
      intro t ht u hu
      obtain ⟨-, -, hstop⟩ := span_of_stretchToken? (Option.mem_toList.1 ht)
      obtain ⟨before, stretch, behind, h, hu⟩ := mem_tokensFrom.1 hu
      obtain ⟨hstart, -, -⟩ := span_of_stretchToken? hu
      -- the stretch of the second token lies behind the second closing brace
      have hpos : before ≠ [] := by
        rintro rfl
        obtain ⟨tail, rfl⟩ := List.head?_eq_some_iff.1 hrest
        cases stretch with
        | nil => cases hu
        | cons c stretch =>
          obtain rfl : '\x7d' = c := (List.cons.inj h.eq).1
          exact h.not_mem (by simp)
      have := List.length_pos_iff.2 hpos
      omega
    · exact htail

end Scaffold.Template
