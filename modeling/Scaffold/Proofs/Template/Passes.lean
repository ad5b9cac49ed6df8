import Mathlib.Data.List.Sort
import Scaffold.Proofs.Template.Scan

/-!
# Scanning in passes

The five patterns are searched for one after the other, each from left to right and behind its own
last match (`findAll`). A match is dropped when it overlaps a token that is there already, and in
the end the tokens are sorted (`passes`). All this finds the tokens of `scan`:

* `stop_eq_of_overlap` - texts in double braces that overlap end at the same two braces;
* `exists_mem_findAll` - a text that a pattern takes and that is not found ends with a match that
  starts earlier, so the search behind a match misses no end;
* `mem_pass` - the tokens that one pass adds are those of its grammar that stand in the text;
* `scan_spec` - what is found, and that nothing is lost.
-/

namespace Scaffold.Template
open Scaffold.Text Scaffold.Text.Pattern

/-! ### The passes -/

/-- Two spans share a place. -/
def overlaps (m : Match) (t : Token) : Bool :=
  decide (m.start < t.stop) && decide (t.start < m.stop)

/-- The token of a match. -/
def Grammar.token? (g : Grammar) (m : Match) : Option Token :=
  (g.build m.groups).map fun placeholder => ⟨placeholder, String.ofList m.text, m.start⟩

/-- A match that overlaps no token so far adds one. -/
def accept (g : Grammar) (accepted : List Token) (m : Match) : List Token :=
  if accepted.any (overlaps m) then accepted else accepted ++ (g.token? m).toList

/-- All matches of one grammar, from left to right. -/
def pass (cs : List Char) (accepted : List Token) (g : Grammar) : List Token :=
  (findAll g.pattern 0 cs).foldl (accept g) accepted

/-- One pass for each grammar, highest precedence first, and then the tokens by start. -/
def passes (template : String) : List Token :=
  (Grammar.all.foldl (pass template.toList) []).mergeSort fun s t => s.start ≤ t.start

/-! ### Texts that overlap -/

section

variable {cs xs ys zs xs' zs' body body' : List Char}

/-- Of two texts in double braces, one that starts inside the other ends with it. -/
theorem stop_eq_of_overlap (h : cs = xs ++ braced body ++ zs) (h' : cs = xs' ++ braced body' ++ zs')
    (hb : '\x7d' ∉ body) (hb' : '\x7d' ∉ body') (hle : xs'.length ≤ xs.length)
    (hlt : xs.length < xs'.length + (braced body').length) :
    xs.length + (braced body).length = xs'.length + (braced body').length := by
  obtain ⟨front, rfl, he⟩ : ∃ front, xs = xs' ++ front ∧
      braced body' ++ zs' = front ++ braced body ++ zs := by
    have hsame : xs' ++ (braced body' ++ zs') = xs ++ (braced body ++ zs) := by
      rw [← List.append_assoc, ← h', h, List.append_assoc]
    rcases List.append_eq_append_iff.1 hsame with ⟨front, rfl, he⟩ | ⟨front, rfl, he⟩
    · exact ⟨front, rfl, by rw [he, List.append_assoc]⟩
    · obtain rfl : front = [] := by
        rw [List.length_append] at hle
        exact List.eq_nil_of_length_eq_zero (by omega)
      exact ⟨[], by simp, by simpa using he.symm⟩
  have hopen : '\x7d' ∉ '\x7b' :: '\x7b' :: body' := by simpa using hb'
  have he' : ('\x7b' :: '\x7b' :: body') ++ '\x7d' :: '\x7d' :: zs' =
      front ++ '\x7b' :: '\x7b' :: (body ++ '\x7d' :: '\x7d' :: zs) := by
    simpa [braced] using he
  by_cases hf : '\x7d' ∈ front
  · -- the second closing brace would be an opening one
    obtain ⟨us, vs, rfl, hus⟩ := List.eq_append_cons_of_mem hf
    obtain ⟨rfl, hrest⟩ := append_cons_inj (by simpa using he') hopen hus
    cases vs with
    | nil => simp at hrest
    | cons c vs =>
      simp only [braced, List.length_append, List.length_cons, List.length_nil] at hlt
      omega
  · have hsecond : ('\x7b' :: '\x7b' :: body') ++ '\x7d' :: ('\x7d' :: zs') =
        (front ++ '\x7b' :: '\x7b' :: body) ++ '\x7d' :: ('\x7d' :: zs) := by
      rw [he']
      simp
    obtain ⟨hbodies, -⟩ := append_cons_inj hsecond hopen (by simp [hf, hb])
    have hlen := congrArg List.length hbodies
    simp only [braced, List.length_append, List.length_cons, List.length_nil] at hlen ⊢
    omega

end

/-- A text that a grammar's pattern takes ends with a match. When it is not the match itself, the
match starts earlier. -/
theorem exists_mem_findAll {g : Grammar} {cs xs text zs : List Char} {gs : List (List Char)}
    (place : Nat) (h : Reads g.pattern text gs) (he : cs = xs ++ text ++ zs) :
    ∃ m ∈ findAll g.pattern place cs,
      m.start ≤ place + xs.length ∧ m.stop = place + xs.length + text.length := by
  obtain ⟨body, rfl, hb, -⟩ := reads_body h
  induction hn : cs.length using Nat.strong_induction_on generalizing cs xs place with
  | _ n ih =>
    subst hn
    rcases findAll_cases g.pattern place cs with
      ⟨ys, hs, rest, hcs, hne, hy, hall⟩ | ⟨hno, ⟨rfl, -⟩ | ⟨c, tail, hcs, hall⟩⟩
    · obtain ⟨body', rfl, hb', -⟩ := reads_body hy
      rw [hall]
      by_cases hlt : xs.length < (braced body').length
      · -- the first match holds the start of the text
        have hstop := stop_eq_of_overlap he (show cs = [] ++ braced body' ++ rest from hcs) hb hb'
          (by simp) (by simpa using hlt)
        refine ⟨_, List.mem_cons_self, Nat.le_add_right .., ?_⟩
        simp only [Match.stop, List.length_nil] at hstop ⊢
        omega
      · obtain ⟨ys, rfl, hrest⟩ :
            ∃ ys, xs = braced body' ++ ys ∧ rest = ys ++ braced body ++ zs := by
          have hsame : braced body' ++ rest = xs ++ (braced body ++ zs) := by
            rw [← hcs, he, List.append_assoc]
          rcases List.append_eq_append_iff.1 hsame with ⟨ys, rfl, hr⟩ | ⟨ys, hx, hr⟩
          · exact ⟨ys, rfl, by rw [hr, List.append_assoc]⟩
          · obtain rfl : ys = [] := by
              rw [hx, List.length_append] at hlt
              exact List.eq_nil_of_length_eq_zero (by omega)
            exact ⟨[], by simpa using hx.symm, by simpa using hr.symm⟩
        have hbelow : rest.length < cs.length := by
          rw [hcs, List.length_append]
          have := List.length_pos_iff.2 hne
          omega
        obtain ⟨m, hm, hstart, hstop⟩ := ih _ hbelow (place + (braced body').length) hrest rfl
        refine ⟨m, List.mem_cons_of_mem _ hm, ?_, ?_⟩
        all_goals
          rw [List.length_append]
          omega
    · simp [braced] at he
    · have hx : xs ≠ [] := by
        rintro rfl
        exact hno (braced body) gs zs (by simpa using he) (by simp [braced]) h
      obtain ⟨d, ys, rfl⟩ := List.exists_cons_of_ne_nil hx
      obtain ⟨rfl, htail⟩ := List.cons.inj (hcs.symm.trans he)
      obtain ⟨m, hm, hstart, hstop⟩ := ih tail.length (by simp [hcs]) (place + 1) htail rfl
      rw [hall]
      refine ⟨m, hm, ?_, ?_⟩
      all_goals
        rw [List.length_cons]
        omega

/-! ### One pass -/

section

variable {g : Grammar} {cs : List Char} {m : Match} {t u : Token}

theorem stop_of_token? (h : g.token? m = some t) : t.start = m.start ∧ t.stop = m.stop := by
  obtain ⟨p, -, rfl⟩ := Option.map_eq_some_iff.1 h
  exact ⟨rfl, by rw [Token.stop, String.length_ofList, Match.stop]⟩

theorem overlaps_iff : overlaps m t = true ↔ m.start < t.stop ∧ t.start < m.stop := by
  simp [overlaps]

/-- Matches that follow one another do not keep each other out. -/
theorem mem_foldl_accept {ms : List Match} {accepted : List Token}
    (hms : ms.Pairwise fun m n => m.stop ≤ n.start) :
    t ∈ ms.foldl (accept g) accepted ↔ t ∈ accepted ∨
      ∃ m ∈ ms, g.token? m = some t ∧ ∀ u ∈ accepted, ¬ overlaps m u = true := by
  induction ms generalizing accepted with
  | nil => simp
  | cons m ms ih =>
    obtain ⟨hm, hrest⟩ := List.pairwise_cons.1 hms
    have hmem : ∀ u, u ∈ accept g accepted m ↔ u ∈ accepted ∨
        g.token? m = some u ∧ ∀ v ∈ accepted, ¬ overlaps m v = true := by
      intro u
      unfold accept
      by_cases h : accepted.any (overlaps m) = true
      · rw [if_pos h]
        obtain ⟨v, hv, hov⟩ := List.any_eq_true.1 h
        exact ⟨Or.inl, fun hu => hu.resolve_right fun hu => hu.2 v hv hov⟩
      · rw [if_neg h, List.mem_append, Option.mem_toList]
        have hno : ∀ v ∈ accepted, ¬ overlaps m v = true :=
          fun v hv hov => h (List.any_eq_true.2 ⟨v, hv, hov⟩)
        exact or_congr_right (and_iff_left hno).symm
    rw [List.foldl_cons, ih hrest]
    constructor
    · rintro (ht | ⟨n, hn, ht, hno⟩)
      · rcases (hmem t).1 ht with ht | ⟨ht, hno⟩
        · exact Or.inl ht
        · exact Or.inr ⟨m, List.mem_cons_self, ht, hno⟩
      · exact Or.inr ⟨n, List.mem_cons_of_mem _ hn, ht, fun u hu => hno u ((hmem u).2 (Or.inl hu))⟩
    · rintro (ht | ⟨n, hn, ht, hno⟩)
      · exact Or.inl ((hmem t).2 (Or.inl ht))
      · rcases List.mem_cons.1 hn with rfl | hn
        · exact Or.inl ((hmem t).2 (Or.inr ⟨ht, hno⟩))
        · refine Or.inr ⟨n, hn, ht, fun u hu => ?_⟩
          rcases (hmem u).1 hu with hu | ⟨hu, -⟩
          · exact hno u hu
          · -- the token of the match in front ends before this one starts
            obtain ⟨-, hstop⟩ := stop_of_token? hu
            have := hm n hn
            rw [overlaps_iff]
            omega

/-- What a match says in terms of places: its text stands between them, and the pattern takes it. -/
theorem slice_of_mem_findAll {p : Pattern} (h : m ∈ findAll p 0 cs) :
    m.stop ≤ cs.length ∧ slice cs m.start m.stop = m.text ∧ m.start < m.stop ∧
      Reads p m.text m.groups := by
  obtain ⟨xs, zs, rfl, hstart, hne, hreads⟩ := reads_of_mem_findAll h
  rw [Nat.zero_add] at hstart
  have := List.length_pos_iff.2 hne
  refine ⟨?_, ?_, ?_, hreads⟩
  · simp only [Match.stop, hstart, List.length_append]
    omega
  · rw [Match.stop, hstart, slice_append]
  · rw [Match.stop]
    omega

/-- A match and a token of a grammar in the same text overlap only when they end together. -/
theorem stop_eq_of_overlaps {h : Grammar} (hm : m ∈ findAll g.pattern 0 cs) (ht : Stands h cs t)
    (hov : overlaps m t = true) : m.stop = t.stop := by
  obtain ⟨xs, zs, he, hstart, -, hreads⟩ := reads_of_mem_findAll hm
  obtain ⟨body, htext, hb, -⟩ := reads_body hreads
  rw [htext] at he
  obtain ⟨xs', body', zs', he', hstart', hstop', hb', -⟩ :=
    (Grammar.takes_slice_iff ht.within).1 ht.takes
  obtain ⟨h1, h2⟩ := overlaps_iff.1 hov
  have hlen' : (braced body').length = body'.length + 4 := by simp [braced]
  rw [Nat.zero_add] at hstart
  simp only [Match.stop, htext] at h2 ⊢
  rcases Nat.le_total xs.length xs'.length with hle | hle
  · have := stop_eq_of_overlap he' he hb' hb hle (by omega)
    omega
  · have := stop_eq_of_overlap he he' hb hb' hle (by omega)
    omega

/-- Two matches of one search do not end together. -/
theorem eq_of_mem_findAll {p : Pattern} {n : Match} (hm : m ∈ findAll p 0 cs)
    (hn : n ∈ findAll p 0 cs) (he : m.stop = n.stop) : m = n := by
  by_contra hne
  have hpair : (findAll p 0 cs).Pairwise fun m n => m.stop ≤ n.start ∨ n.stop ≤ m.start :=
    (pairwise_findAll p 0 cs).imp Or.inl
  obtain ⟨-, -, hm', -⟩ := slice_of_mem_findAll hm
  obtain ⟨-, -, hn', -⟩ := slice_of_mem_findAll hn
  have hsymm : Std.Symm fun m n : Match => m.stop ≤ n.start ∨ n.stop ≤ m.start :=
    ⟨fun _ _ h => h.symm⟩
  rcases hpair.forall hm hn hne with h | h
  all_goals omega

theorem Stands.start_lt_stop (h : Stands g cs t) : t.start < t.stop := by
  obtain ⟨xs, body, zs, -, hstart, hstop, -⟩ := (Grammar.takes_slice_iff h.within).1 h.takes
  omega

/-- Where a grammar counts, its search finds a match with the same end. -/
theorem Grammar.Counts.exists_match {s e : Nat} (h : g.Counts cs s e) :
    ∃ m ∈ findAll g.pattern 0 cs, m.start ≤ s ∧ m.stop = e := by
  obtain ⟨he, p, hp⟩ := h
  obtain ⟨xs, body, zs, hcs, rfl, rfl, hb, hp⟩ := (Grammar.takes_slice_iff he).1 hp
  obtain ⟨gs, hgs, -⟩ := body_reads hb hp
  obtain ⟨m, hm, hstart, hstop⟩ := exists_mem_findAll 0 hgs hcs
  refine ⟨m, hm, by omega, ?_⟩
  rw [hstop]
  simp only [braced, List.length_cons, List.length_append, List.length_nil]
  omega

/-- A text in double braces that stands inside another one, and not in front, opens in its body. -/
theorem open_mem_of_braced_eq_drop {body inner : List Char} {k : Nat}
    (h : braced inner = (braced body).drop (k + 1)) : '\x7b' ∈ body := by
  have htail := congrArg List.tail h
  simp only [braced, List.tail_cons, List.drop_succ_cons, List.tail_drop] at htail
  have hm : '\x7b' ∈ (body ++ ['\x7d', '\x7d']).drop k := by
    rw [← htail]
    exact List.mem_cons_self
  simpa using List.mem_of_mem_drop hm

/-- The match that ends where a token of its grammar stands is the token: it would not start
earlier, as a text with opening braces inside is not refused once the pattern takes it. -/
theorem Stands.exists_match (h : Stands g cs t) :
    ∃ m ∈ findAll g.pattern 0 cs, m.stop = t.stop ∧ g.token? m = some t := by
  obtain ⟨m, hm, hle, hstop⟩ := h.counts.exists_match
  obtain ⟨hwithin, htext, -, hreads⟩ := slice_of_mem_findAll hm
  obtain ⟨body, hbody, hb, hbuild, hsome⟩ := reads_body hreads
  obtain ⟨inner, hslice, hinner, hp⟩ := Grammar.takes_iff.1 h.takes
  have hstart : m.start = t.start := by
    by_contra hne
    refine h.least m.start (by omega) ⟨h.within, ?_⟩
    rw [← hstop, htext]
    rcases hsome with hsome | hopen
    · -- the longer text would count, but the token is the longest that does
      obtain ⟨r, hr⟩ := Option.isSome_iff_exists.1 hsome
      exact ⟨r, m.groups, hreads, hbuild.trans hr⟩
    · obtain ⟨k, hk⟩ : ∃ k, t.start = m.start + (k + 1) := ⟨t.start - m.start - 1, by omega⟩
      have hdrop : braced inner = (braced body).drop (k + 1) := by
        rw [← hslice, ← hbody, ← htext, hstop, hk, slice, slice, List.drop_drop]
      exact absurd (open_mem_of_braced_eq_drop hdrop) hopen
  have hsame : braced body = braced inner := by
    rw [← hbody, ← htext, hstart, hstop, hslice]
  obtain rfl := braced_injective hsame
  refine ⟨m, hm, hstop, ?_⟩
  rw [Grammar.token?, hbuild, hp, Option.map_some, Option.some.injEq]
  have hraw : String.ofList m.text = t.raw := by
    rw [← htext, hstart, hstop, ← h.raw, String.ofList_toList]
  rw [hraw, hstart]

/-- A pass adds the tokens of its grammar when all tokens of higher precedence are there. -/
theorem mem_pass {accepted : List Token}
    (haccepted : ∀ u, u ∈ accepted ↔ ∃ h : Grammar, h.rank < g.rank ∧ Stands h cs u) :
    t ∈ pass cs accepted g ↔ t ∈ accepted ∨ Stands g cs t := by
  unfold pass
  rw [mem_foldl_accept (pairwise_findAll _ _ _)]
  refine or_congr_right ⟨?_, fun h => ?_⟩
  · rintro ⟨m, hm, ht, hno⟩
    obtain ⟨hwithin, htext, hlt, hreads⟩ := slice_of_mem_findAll hm
    obtain ⟨hstart, hstop⟩ := stop_of_token? ht
    obtain ⟨p, hp, rfl⟩ := Option.map_eq_some_iff.1 ht
    refine ⟨by rw [hstop]; exact hwithin, ?_, ?_, ?_, ?_⟩
    · rw [hstop, String.toList_ofList, htext]
    · rw [hstop, htext]
      exact ⟨m.groups, hreads, hp⟩
    · intro h s hrank hc
      obtain ⟨g', u, hu, hstop', hrank'⟩ := exists_stands hc
      refine hno u ((haccepted u).2 ⟨g', by omega, hu⟩) (overlaps_iff.2 ?_)
      have := hu.start_lt_stop
      omega
    · intro s hs hc
      obtain ⟨n, hn, hle, hstop'⟩ := hc.exists_match
      have := eq_of_mem_findAll hm hn (by omega)
      subst this
      omega
  · obtain ⟨m, hm, hstop, ht⟩ := h.exists_match
    refine ⟨m, hm, ht, fun u hu hov => ?_⟩
    obtain ⟨g', hlt, hs⟩ := (haccepted u).1 hu
    have he := stop_eq_of_overlaps hm hs hov
    exact h.first g' u.start hlt (by rw [← hstop, he]; exact hs.counts)

/-- After the passes of the grammars in front, the tokens of these grammars are there. -/
theorem mem_foldl_pass {front : List Grammar} (hf : front <+: Grammar.all) :
    t ∈ front.foldl (pass cs) [] ↔ ∃ g ∈ front, Stands g cs t := by
  -- from the back: all grammars of higher precedence then stand in front of the last one
  induction front using List.reverseRecOn generalizing t with
  | nil => simp
  | append_singleton front g ih =>
    obtain ⟨back, hall⟩ := hf
    have hrank : ∀ h : Grammar, h ∈ front ↔ h.rank < g.rank := by
      have hpair := pairwise_grammars
      rw [← hall, List.append_assoc, List.pairwise_append] at hpair
      intro h
      constructor
      · intro hm
        exact hpair.2.2 h hm g (by simp)
      · intro hlt
        have hm := mem_grammars h
        rw [← hall, List.append_assoc, List.mem_append] at hm
        refine hm.resolve_right fun hm => ?_
        rcases List.mem_cons.1 hm with rfl | hm
        · omega
        · have := (List.pairwise_cons.1 hpair.2.1).1 h hm
          omega
    have hfront : ∀ u, u ∈ front.foldl (pass cs) [] ↔
        ∃ h : Grammar, h.rank < g.rank ∧ Stands h cs u := by
      intro u
      rw [ih ⟨[g] ++ back, by rw [← List.append_assoc, hall]⟩]
      simp only [hrank]
    rw [List.foldl_append, List.foldl_cons, List.foldl_nil, mem_pass hfront, hfront]
    constructor
    · rintro (⟨h, hlt, hs⟩ | hs)
      · exact ⟨h, by simp [(hrank h).2 hlt], hs⟩
      · exact ⟨g, by simp, hs⟩
    · rintro ⟨h, hm, hs⟩
      rcases List.mem_append.1 hm with hm | hm
      · exact Or.inl ⟨h, (hrank h).1 hm, hs⟩
      · rw [List.mem_singleton.1 hm] at hs
        exact Or.inr hs

/-- Tokens without a place in common. -/
def Apart (t u : Token) : Prop := t.stop ≤ u.start ∨ u.stop ≤ t.start

theorem pairwise_foldl_accept {ms : List Match} {accepted : List Token}
    (h : accepted.Pairwise Apart) : (ms.foldl (accept g) accepted).Pairwise Apart := by
  induction ms generalizing accepted with
  | nil => exact h
  | cons m ms ih =>
    refine ih ?_
    unfold accept
    split
    · exact h
    · next hno =>
      refine List.pairwise_append.2 ⟨h, by cases g.token? m <;> simp, fun u hu t ht => ?_⟩
      obtain ⟨hstart, hstop⟩ := stop_of_token? (Option.mem_toList.1 ht)
      have hov : ¬ overlaps m u = true := fun hov => hno (List.any_eq_true.2 ⟨u, hu, hov⟩)
      rw [overlaps_iff] at hov
      unfold Apart
      omega

theorem pairwise_foldl_pass (gs : List Grammar) : (gs.foldl (pass cs) []).Pairwise Apart := by
  induction gs using List.reverseRecOn with
  | nil => exact .nil
  | append_singleton gs g ih =>
    rw [List.foldl_append, List.foldl_cons, List.foldl_nil]
    exact pairwise_foldl_accept ih

/-! ### The tokens of a template -/

theorem pairwise_scan (template : String) :
    (scan template).Pairwise fun t u => t.start < u.start ∧ t.stop ≤ u.start := by
  have hpair := pairwise_tokensFrom 0 template.toList
  refine hpair.imp_of_mem fun ht _ hle => ⟨?_, hle⟩
  obtain ⟨g, hs⟩ := mem_scanChars.1 ht
  have := hs.start_lt_stop
  omega

theorem mem_passes {template : String} :
    t ∈ passes template ↔ ∃ g, Stands g template.toList t := by
  unfold passes
  rw [List.mem_mergeSort, mem_foldl_pass List.prefix_rfl]
  simp only [mem_grammars, true_and]

/-- The passes find the tokens of the scan, in the same order. -/
theorem passes_eq_scan (template : String) : passes template = scan template := by
  -- both lists rise, so they are the same list when they have the same tokens
  have hsorted : (passes template).Pairwise fun t u => t.start < u.start := by
    have hle : (passes template).Pairwise fun t u => t.start ≤ u.start := by
      have hmerge : (passes template).Pairwise fun t u => decide (t.start ≤ u.start) = true :=
        List.pairwise_mergeSort
          (by simp only [decide_eq_true_eq]; intros; omega)
          (by simp only [Bool.or_eq_true, decide_eq_true_eq]; intros; omega) _
      exact hmerge.imp of_decide_eq_true
    have hapart : (passes template).Pairwise Apart :=
      (List.mergeSort_perm _ _).symm.pairwise (pairwise_foldl_pass _) Or.symm
    refine (hle.and hapart).imp_of_mem fun ht hu h => ?_
    obtain ⟨g, ht⟩ := mem_passes.1 ht
    obtain ⟨g', hu⟩ := mem_passes.1 hu
    have h1 := ht.start_lt_stop
    have h2 := hu.start_lt_stop
    unfold Apart at h
    omega
  have hirrefl : Std.Irrefl fun t u : Token => t.start < u.start := ⟨fun _ => Nat.lt_irrefl _⟩
  have hanti : Std.Antisymm fun t u : Token => t.start < u.start :=
    ⟨fun _ _ h h' => absurd h' (Nat.lt_asymm h)⟩
  refine hsorted.eq_of_mem_iff ((pairwise_scan template).imp And.left) fun t => ?_
  exact mem_passes.trans mem_scanChars.symm

/-- What a scan finds: the tokens that stand in the template, one wherever a grammar takes a text
that ends there, in order and apart. The passes find no others and lose none of them, and what a
grammar takes is a token or shares a place with one. -/
theorem scan_spec (template : String) :
    (∀ t, t ∈ scan template ↔ ∃ g, Stands g template.toList t) ∧
      (∀ e, (∃ (g : Grammar) (s : Nat), g.Counts template.toList s e) ↔
        ∃! t, t ∈ scan template ∧ t.stop = e) ∧
      (∀ t ∈ scan template, t.stop ≤ template.toList.length ∧
        t.raw.toList = slice template.toList t.start t.stop) ∧
      ((scan template).Pairwise fun t u => t.start < u.start ∧ t.stop ≤ u.start) ∧
      passes template = scan template ∧
      ∀ (g : Grammar) s e, g.Counts template.toList s e →
        ∃ t ∈ scan template, t.stop = e ∧ t.start < e ∧ s < t.stop := by
  have hmem : ∀ t, t ∈ scan template ↔ ∃ g, Stands g template.toList t := fun t => mem_scanChars
  refine ⟨hmem, fun e => ⟨?_, ?_⟩, ?_, pairwise_scan template, passes_eq_scan template, ?_⟩
  · rintro ⟨h, s, hc⟩
    obtain ⟨g, t, ht, hstop, -⟩ := exists_stands hc
    refine ⟨t, ⟨(hmem t).2 ⟨g, ht⟩, hstop⟩, ?_⟩
    rintro u ⟨hu, hstop'⟩
    obtain ⟨g', hu⟩ := (hmem u).1 hu
    exact hu.eq_of_stop_eq ht (hstop'.trans hstop.symm)
  · rintro ⟨t, ⟨ht, rfl⟩, -⟩
    obtain ⟨g, ht⟩ := (hmem t).1 ht
    exact ⟨g, t.start, ht.counts⟩
  · intro t ht
    obtain ⟨g, ht⟩ := (hmem t).1 ht
    exact ⟨ht.within, ht.raw⟩
  · rintro h s e hc
    obtain ⟨g, t, ht, rfl, -⟩ := exists_stands hc
    have hlt : s < t.stop := by
      obtain ⟨he, p, hp⟩ := hc
      obtain ⟨xs, body, zs, -, hs, hstop, -⟩ := (Grammar.takes_slice_iff he).1 hp
      omega
    exact ⟨t, (hmem t).2 ⟨g, ht⟩, rfl, ht.start_lt_stop, hlt⟩

end

end Scaffold.Template
