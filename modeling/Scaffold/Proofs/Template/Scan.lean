import Scaffold.Proofs.Template.Stretch

/-!
# The tokens of a template

`Grammar.Counts g cs s e` says that the grammar takes the text from `s` to `e`, and `Stands g cs t`
that `t` is the token at its end: no grammar of higher precedence takes a text that ends there, and
its own takes none that starts earlier.

* `mem_scanChars` - the tokens of a text are those that stand in it;
* `exists_stands` - wherever a text that counts ends, a token stands;
* `Stands.eq_of_stop_eq` - and only one.
-/

namespace Scaffold.Template
open Scaffold.Text Scaffold.Text.Pattern

/-- The text between two places. -/
def slice (cs : List Char) (s e : Nat) : List Char := (cs.take e).drop s

theorem slice_append (xs ys zs : List Char) :
    slice (xs ++ ys ++ zs) xs.length (xs.length + ys.length) = ys := by
  unfold slice
  rw [← List.length_append, List.take_left, List.drop_left]

theorem append_slice {cs : List Char} {s e : Nat} (h : s ≤ e) :
    cs.take s ++ slice cs s e ++ cs.drop e = cs := by
  unfold slice
  have hs : cs.take s = (cs.take e).take s := by rw [List.take_take, Nat.min_eq_left h]
  rw [hs, List.take_append_drop, List.take_append_drop]

namespace Grammar

variable {g : Grammar} {cs text : List Char} {s e : Nat} {p : Placeholder}

/-- The grammar takes the whole of a text, as a placeholder. -/
def Takes (g : Grammar) (text : List Char) (p : Placeholder) : Prop :=
  ∃ gs, Reads g.pattern text gs ∧ g.build gs = some p

/-- The grammar takes the text between two places. -/
def Counts (g : Grammar) (cs : List Char) (s e : Nat) : Prop :=
  e ≤ cs.length ∧ ∃ p, g.Takes (slice cs s e) p

theorem takes_iff :
    g.Takes text p ↔ ∃ body, text = braced body ∧ '\x7d' ∉ body ∧ g.ofBody? body = some p := by
  constructor
  · rintro ⟨gs, hgs, hp⟩
    obtain ⟨body, rfl, hb, hbuild, -⟩ := reads_body hgs
    exact ⟨body, rfl, hb, hbuild.symm.trans hp⟩
  · rintro ⟨body, rfl, hb, hp⟩
    exact body_reads hb hp

theorem Takes.unique {q : Placeholder} (hp : g.Takes text p) (hq : g.Takes text q) : p = q := by
  obtain ⟨body, rfl, -, hp⟩ := takes_iff.1 hp
  obtain ⟨body', he, -, hq⟩ := takes_iff.1 hq
  obtain rfl := braced_injective he
  exact Option.some.inj (hp.symm.trans hq)

/-- A text between two places that a grammar takes: the text in front of it and behind it. -/
theorem takes_slice_iff (he : e ≤ cs.length) :
    g.Takes (slice cs s e) p ↔ ∃ xs body zs, cs = xs ++ braced body ++ zs ∧ s = xs.length ∧
      e = xs.length + body.length + 4 ∧ '\x7d' ∉ body ∧ g.ofBody? body = some p := by
  rw [takes_iff]
  constructor
  · rintro ⟨body, hslice, hb, hp⟩
    have hlen := congrArg List.length hslice
    simp only [slice, braced, List.length_drop, List.length_take, List.length_cons,
      List.length_append, List.length_nil] at hlen
    have hcs : cs.take s ++ slice cs s e ++ cs.drop e = cs := append_slice (by omega)
    rw [hslice] at hcs
    have hs : (cs.take s).length = s := List.length_take_of_le (by omega)
    exact ⟨cs.take s, body, cs.drop e, hcs.symm, hs.symm, by omega, hb, hp⟩
  · rintro ⟨xs, body, zs, rfl, rfl, rfl, hb, hp⟩
    refine ⟨body, ?_, hb, hp⟩
    have hlen : xs.length + body.length + 4 = xs.length + (braced body).length := by
      simp only [braced, List.length_cons, List.length_append, List.length_nil]
      omega
    rw [hlen, slice_append]

end Grammar

/-! ### What counts, in its stretch -/

section

variable {g : Grammar} {cs before stretch behind : List Char} {s e : Nat} {p : Placeholder}

theorem Closing.length (h : Closing cs before stretch behind) :
    cs.length = before.length + stretch.length + 2 + behind.length := by
  rw [h.eq]
  simp only [List.length_append, List.length_cons]
  omega

theorem Closing.slice_eq {front : List Char} (h : Closing cs before stretch behind)
    (hfront : front <+: stretch) (he : e = before.length + stretch.length + 2) :
    slice cs (before.length + front.length) e = stretch.drop front.length ++ ['\x7d', '\x7d'] := by
  obtain ⟨rest, rfl⟩ := hfront
  have hcs : cs = before ++ front ++ (rest ++ ['\x7d', '\x7d']) ++ behind := by
    rw [h.eq]
    simp
  have hstop : e = (before ++ front).length + (rest ++ ['\x7d', '\x7d']).length := by
    simp only [he, List.length_append, List.length_cons, List.length_nil]
    omega
  rw [hcs, hstop, ← List.length_append, slice_append, List.drop_left]

/-- The texts that count and end behind two closing braces lie in the stretch in front of them. -/
theorem Closing.takes_iff (h : Closing cs before stretch behind)
    (he : e = before.length + stretch.length + 2) :
    g.Takes (slice cs s e) p ↔
      ∃ front, s = before.length + front.length ∧ Opens g stretch front p := by
  have hlen := h.length
  rw [Grammar.takes_slice_iff (by omega)]
  constructor
  · rintro ⟨xs, body, zs, hcs, rfl, hstop, hb, hp⟩
    obtain rfl : behind = zs := by
      have hsame : before ++ stretch ++ ['\x7d', '\x7d'] ++ behind = xs ++ braced body ++ zs := by
        rw [← hcs, h.eq]
        simp
      refine (List.append_inj hsame ?_).2
      simp only [braced, List.length_append, List.length_cons, List.length_nil]
      omega
    obtain ⟨front, rfl, rfl⟩ := h.of_braced hb hcs
    exact ⟨front, List.length_append, body, rfl, hp⟩
  · rintro ⟨front, rfl, body, rfl, hp⟩
    have hb : '\x7d' ∉ body := fun hm => h.not_mem (by simp [hm])
    refine ⟨before ++ front, body, behind, ?_, List.length_append.symm, ?_, hb, hp⟩
    · rw [h.eq]
      simp [braced]
    · simp only [List.length_append, List.length_cons] at he ⊢
      omega

/-- What counts ends behind two closing braces. -/
theorem Grammar.Counts.exists_closing (h : g.Counts cs s e) :
    ∃ before stretch behind, Closing cs before stretch behind ∧
      e = before.length + stretch.length + 2 := by
  obtain ⟨he, p, hp⟩ := h
  obtain ⟨xs, body, zs, rfl, -, hstop, -⟩ := (Grammar.takes_slice_iff he).1 hp
  obtain ⟨before, stretch, hsplit, hc⟩ :=
    Template.exists_closing (xs ++ '\x7b' :: '\x7b' :: body) zs
  refine ⟨before, stretch, zs, by simpa [braced] using hc, ?_⟩
  have := congrArg List.length hsplit
  simp only [List.length_append, List.length_cons] at this
  omega

end

/-! ### The token at an end -/

/-- A token whose grammar takes its text, while no grammar of higher precedence takes a text with
the same end, and its own none that starts earlier. -/
structure Stands (g : Grammar) (cs : List Char) (t : Token) : Prop where
  within : t.stop ≤ cs.length
  raw : t.raw.toList = slice cs t.start t.stop
  takes : g.Takes (slice cs t.start t.stop) t.placeholder
  first : ∀ h s, h.rank < g.rank → ¬ Grammar.Counts h cs s t.stop
  least : ∀ s < t.start, ¬ g.Counts cs s t.stop

section

variable {g h : Grammar} {cs : List Char} {s e : Nat} {t u : Token}

theorem Stands.counts (hs : Stands g cs t) : g.Counts cs t.start t.stop :=
  ⟨hs.within, _, hs.takes⟩

theorem not_counts_iff (he : e ≤ cs.length) :
    ¬ g.Counts cs s e ↔ ∀ p, ¬ g.Takes (slice cs s e) p := by
  unfold Grammar.Counts
  rw [not_and, not_exists]
  exact ⟨fun h => h he, fun h _ => h⟩

/-- The tokens of a text are those that stand in it. -/
theorem mem_scanChars : t ∈ scanChars cs ↔ ∃ g, Stands g cs t := by
  rw [scanChars_eq, mem_tokensFrom]
  constructor
  · rintro ⟨before, stretch, behind, hc, ht⟩
    rw [Nat.zero_add] at ht
    obtain ⟨-, -, hstop⟩ := span_of_stretchToken? ht
    obtain ⟨g, front, ho, hstart, hraw, hfirst, hleast⟩ := stretchToken?_eq_some_iff.1 ht
    have hwithin : t.stop ≤ cs.length := by
      have := hc.length
      omega
    refine ⟨g, hwithin, ?_, (hc.takes_iff hstop).2 ⟨front, hstart, ho⟩, ?_, ?_⟩
    · rw [hraw, String.toList_ofList, hstart, hc.slice_eq ho.isPrefix hstop]
    · intro h s hlt
      rw [not_counts_iff hwithin]
      intro p hp
      obtain ⟨front', -, ho'⟩ := (hc.takes_iff hstop).1 hp
      exact hfirst h front' p hlt ho'
    · intro s hlt
      rw [not_counts_iff hwithin]
      intro p hp
      obtain ⟨front', rfl, ho'⟩ := (hc.takes_iff hstop).1 hp
      exact hleast front' p (by omega) ho'
  · rintro ⟨g, hs⟩
    obtain ⟨before, stretch, behind, hc, hstop⟩ := hs.counts.exists_closing
    obtain ⟨front, hstart, ho⟩ := (hc.takes_iff hstop).1 hs.takes
    refine ⟨before, stretch, behind, hc, ?_⟩
    rw [Nat.zero_add, stretchToken?_eq_some_iff]
    refine ⟨g, front, ho, hstart, ?_, ?_, ?_⟩
    · rw [← hc.slice_eq ho.isPrefix hstop, ← hstart, ← hs.raw, String.ofList_toList]
    · intro h front' r' hlt ho'
      exact hs.first h _ hlt ⟨hs.within, r', (hc.takes_iff hstop).2 ⟨front', rfl, ho'⟩⟩
    · intro front' r' hlt ho'
      exact hs.least (before.length + front'.length) (by omega)
        ⟨hs.within, r', (hc.takes_iff hstop).2 ⟨front', rfl, ho'⟩⟩

theorem rank_injective : Function.Injective Grammar.rank := by
  intro g h
  cases g <;> cases h <;> decide

/-- At most one token stands at an end. -/
theorem Stands.eq_of_stop_eq (ht : Stands g cs t) (hu : Stands h cs u) (he : t.stop = u.stop) :
    t = u := by
  have hg : g = h := by
    refine rank_injective (Nat.le_antisymm ?_ ?_)
    · exact Nat.le_of_not_lt fun hlt => ht.first h _ hlt (he ▸ hu.counts)
    · exact Nat.le_of_not_lt fun hlt => hu.first g _ hlt (he ▸ ht.counts)
  subst hg
  have hstart : t.start = u.start := by
    refine Nat.le_antisymm ?_ ?_
    · exact Nat.le_of_not_lt fun hlt => ht.least _ hlt (he ▸ hu.counts)
    · exact Nat.le_of_not_lt fun hlt => hu.least _ hlt (he ▸ ht.counts)
  have hslice : slice cs t.start t.stop = slice cs u.start u.stop := by rw [hstart, he]
  have hplaceholder : t.placeholder = u.placeholder := ht.takes.unique (hslice ▸ hu.takes)
  have hraw : t.raw = u.raw := by
    rw [← String.toList_inj, ht.raw, hu.raw, hslice]
  cases t
  cases u
  simp_all

/-- Wherever a text that counts ends, a token stands. -/
theorem exists_stands (hc : h.Counts cs s e) :
    ∃ g t, Stands g cs t ∧ t.stop = e ∧ g.rank ≤ h.rank := by
  classical
  -- the first grammar that takes a text with this end, and its earliest start
  obtain ⟨g, ⟨s₁, hg⟩, hfirst⟩ := WellFounded.has_min (measure Grammar.rank).wf
    {g | ∃ s, g.Counts cs s e} ⟨h, s, hc⟩
  have hex : ∃ s, g.Counts cs s e := ⟨s₁, hg⟩
  obtain ⟨he, p, hp⟩ := Nat.find_spec hex
  have hstop : Token.stop ⟨p, String.ofList (slice cs (Nat.find hex) e), Nat.find hex⟩ = e := by
    obtain ⟨xs, body, zs, -, hs, hstop, -⟩ := (Grammar.takes_slice_iff he).1 hp
    simp only [Token.stop, String.length_ofList, slice, List.length_drop, List.length_take]
    omega
  refine ⟨g, _, ⟨?_, ?_, ?_, ?_, ?_⟩, hstop, Nat.le_of_not_lt (hfirst h ⟨s, hc⟩)⟩
  · rw [hstop]
    exact he
  · rw [hstop, String.toList_ofList]
  · rw [hstop]
    exact hp
  · intro h' s' hlt hc'
    rw [hstop] at hc'
    exact hfirst h' ⟨s', hc'⟩ hlt
  · intro s' hlt hc'
    rw [hstop] at hc'
    exact Nat.find_min hex hlt hc'

end

end Scaffold.Template
