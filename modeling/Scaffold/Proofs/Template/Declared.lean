import Scaffold.Proofs.Template.Scan

/-!
# The declared language of the grammars

`Declared g body p` gives the shape of a body of the grammar `g` and, with it, the placeholder that
the body stands for, by one rule for each grammar. The grammar as a pattern and the function that
reads a body both keep to it:

* `ofBody?_eq_some_iff` - the function reads what is declared, less the names that no placeholder
  has;
* `declared_of_reads`, `reads_of_declared` - the pattern takes what is declared, and nothing else;
* `pattern_takes_declared` - both, with the one match that a search finds in such a text.
-/

namespace Scaffold.Template
open Scaffold.Text Scaffold.Text.Pattern

/-! ### The parts of a body -/

/-- Options as they are written: no bar, and a comma that has text on both sides. They are the
pieces between the commas, trimmed. -/
structure Listed (cs : List Char) (options : List String) : Prop where
  bar : '|' ∉ cs
  comma : ∃ xs ys, xs ≠ [] ∧ ys ≠ [] ∧ cs = xs ++ ',' :: ys
  pieces : ∃ pieces, cs = joinWith [','] pieces ∧ (∀ piece ∈ pieces, ',' ∉ piece) ∧
    options = pieces.map fun piece => String.ofList (trim piece)

/-- What may stand at the end of a body: nothing, or a bar and a default, any text but none. -/
inductive Ended : List Char → Option String → Prop
  | bare : Ended [] none
  | default {cs : List Char} : cs ≠ [] → Ended ('|' :: cs) (some (String.ofList (trim cs)))

/-- The bodies of each grammar, and what they stand for. -/
inductive Declared : Grammar → List Char → Placeholder → Prop
  | named {a name b cs rest options default} : Blanks a → Blanks b → name ≠ [] →
      (∀ c ∈ name, isNameChar c = true) → Listed cs options → Ended rest default →
      Declared .named (a ++ name ++ b ++ ':' :: (cs ++ rest))
        (.named (String.ofList name) options default)
  | anonymous {cs rest options default} : Listed cs options → '\x7b' ∉ cs → ':' ∉ cs →
      Ended rest default → Declared .anonymous (cs ++ rest) (.anonymous options default)
  | radio {a b cs rest options default} : Blanks a → Blanks b → Listed cs options →
      Ended rest default →
      Declared .radio (a ++ "radio".toList ++ b ++ '|' :: (cs ++ rest)) (.radio options default)
  | ai {a b prompt rest default} : Blanks a → Blanks b → prompt ≠ [] → '|' ∉ prompt →
      Ended rest default →
      Declared .ai (a ++ "ai".toList ++ b ++ '|' :: (prompt ++ rest))
        (.ai (String.ofList (trim prompt)) default)
  | simple {body} : body ≠ [] → (∀ c ∈ ['\x7b', ':', '|', ','], c ∉ body) →
      Declared .simple body (.simple (String.ofList (trim body)))

/-- A placeholder by name whose name is empty or reserved. No token is made of it. -/
def Placeholder.isNameless : Placeholder → Bool
  | .simple name => name.isEmpty || reservedNames.contains name
  | _ => false

/-- A placeholder that a token is made of. -/
def Placeholder.unlessNameless (p : Placeholder) : Option Placeholder :=
  if p.isNameless then none else some p

section

variable {cs rest body text : List Char} {options : List String} {default : Option String}
  {g : Grammar} {p : Placeholder} {gs : List (List Char)}

theorem listed_iff : Listed cs options ↔
    '|' ∉ cs ∧ hasInnerComma cs = true ∧ options = optionsOf cs := by
  constructor
  · rintro ⟨hbar, hcomma, pieces, rfl, hpieces, rfl⟩
    refine ⟨hbar, (hasInnerComma_iff _).2 hcomma, ?_⟩
    have hne : pieces ≠ [] := by
      rintro rfl
      obtain ⟨xs, ys, -, -, h⟩ := hcomma
      simp [joinWith] at h
    rw [optionsOf, splitOn_joinWith hne hpieces]
  · rintro ⟨hbar, hcomma, rfl⟩
    refine ⟨hbar, (hasInnerComma_iff _).1 hcomma, splitOn ',' cs, (joinWith_splitOn _ _).symm, ?_,
      rfl⟩
    intro piece hp hm
    simpa using eq_false_of_mem_splitBy hp hm

/-- The end of a body is what `cut` finds at the first bar. -/
theorem cut_of_ended (hcs : '|' ∉ cs) (h : Ended rest default) :
    (cut '|' (cs ++ rest)).1 = cs ∧ defaultOf? (cut '|' (cs ++ rest)).2 = some default := by
  cases h with
  | bare =>
    rw [List.append_nil, cut_of_not_mem hcs]
    exact ⟨rfl, rfl⟩
  | @default ds hne =>
    obtain ⟨d, ds, rfl⟩ := List.exists_cons_of_ne_nil hne
    rw [cut_append hcs]
    exact ⟨rfl, rfl⟩

theorem ended_of_cut (h : defaultOf? (cut '|' cs).2 = some default) :
    '|' ∉ (cut '|' cs).1 ∧ ∃ rest, cs = (cut '|' cs).1 ++ rest ∧ Ended rest default := by
  rcases cut_cases '|' cs with ⟨hn, hcut⟩ | ⟨front, ds, rfl, hn, hcut⟩ <;> rw [hcut] at h ⊢
  · cases h
    exact ⟨hn, [], (List.append_nil cs).symm, .bare⟩
  · cases ds with
    | nil => cases h
    | cons d ds =>
      cases h
      exact ⟨hn, _, rfl, .default (List.cons_ne_nil d ds)⟩

theorem choiceOf?_of_listed (hl : Listed cs options) (he : Ended rest default) :
    choiceOf? (cs ++ rest) = some (options, default) := by
  obtain ⟨hbar, hcomma, rfl⟩ := listed_iff.1 hl
  obtain ⟨hfront, hdefault⟩ := cut_of_ended hbar he
  simp only [choiceOf?, hfront, hdefault, hcomma, Option.bind_eq_bind, Option.bind_some, if_true]
  rfl

theorem listed_of_choiceOf? (h : choiceOf? cs = some (options, default)) :
    ∃ rest, cs = (cut '|' cs).1 ++ rest ∧ Listed (cut '|' cs).1 options ∧ Ended rest default := by
  obtain ⟨d, hd, h⟩ := Option.bind_eq_some_iff.1 h
  obtain ⟨hcomma, h⟩ := Option.ite_none_right_eq_some.1 h
  cases h
  obtain ⟨hbar, rest, hcs, he⟩ := ended_of_cut hd
  exact ⟨rest, hcs, listed_iff.2 ⟨hbar, hcomma, rfl⟩, he⟩

/-! ### The functions that read a body -/

/-- What is declared is read. -/
theorem ofBody?_of_declared (h : Declared g body p) : g.ofBody? body = p.unlessNameless := by
  cases h with
  | @named a name b cs rest options default ha hb hne hname hl he =>
    have hcolon : ':' ∉ a ++ name ++ b := by
      simp only [List.mem_append, not_or]
      refine ⟨⟨ha.not_mem (by decide), fun hm => ?_⟩, hb.not_mem (by decide)⟩
      exact absurd (hname _ hm) (by decide +kernel)
    have htrim : trim (a ++ name ++ b) = name := by
      rw [trim_padded ha hb]
      exact trim_eq_self_of_forall fun c hc => isBlank_of_isNameChar (hname c hc)
    have hn : name.isEmpty = false := by simpa using hne
    simp only [Grammar.ofBody?, named?, cut_append hcolon, htrim, hn, List.all_eq_true.2 hname,
      choiceOf?_of_listed hl he]
    rfl
  | @anonymous cs rest options default hl hopen hcolon he =>
    have hnot : ∀ c, c ∉ cs → cs.contains c = false := fun c hc => by
      rwa [List.contains_eq_mem, decide_eq_false_iff_not]
    simp only [Grammar.ofBody?, anonymous?, (cut_of_ended hl.bar he).1, hnot _ hopen,
      hnot _ hcolon, choiceOf?_of_listed hl he]
    rfl
  | @radio a b cs rest options default ha hb hl he =>
    simp only [Grammar.ofBody?, radio?, afterWord?_eq "radio" ha hb (by decide) (by decide),
      Option.bind_eq_bind, Option.bind_some, choiceOf?_of_listed hl he]
    rfl
  | @ai a b prompt rest default ha hb hne hbar he =>
    obtain ⟨hfront, hdefault⟩ := cut_of_ended hbar he
    have hn : prompt.isEmpty = false := by simpa using hne
    simp only [Grammar.ofBody?, ai?, afterWord?_eq "ai" ha hb (by decide) (by decide), hfront,
      hdefault, Option.bind_eq_bind, Option.bind_some, hn]
    rfl
  | simple hne hfree =>
    have hany : body.any isStructural = false := by
      rw [List.any_eq_false]
      intro c hc hs
      simp only [isStructural, Bool.or_eq_true, beq_iff_eq] at hs
      exact hfree c (by simpa [or_assoc] using hs) hc
    simp only [Grammar.ofBody?, simple?, hany, Bool.false_or]
    rfl

/-- What is read is declared. -/
theorem declared_of_ofBody? (h : g.ofBody? body = some p) : Declared g body p := by
  cases g with
  | named =>
    simp only [Grammar.ofBody?, named?] at h
    rcases cut_cases ':' body with ⟨-, hcut⟩ | ⟨front, tail, rfl, -, hcut⟩ <;> rw [hcut] at h
    · cases h
    · simp only [Option.ite_none_left_eq_some, Bool.or_eq_true, not_or, Bool.not_eq_true',
        Bool.not_eq_false, List.isEmpty_iff, Option.map_eq_some_iff] at h
      obtain ⟨⟨hne, hname⟩, ⟨options, default⟩, hc, rfl⟩ := h
      obtain ⟨rest, htail, hl, he⟩ := listed_of_choiceOf? hc
      obtain ⟨a, b, ha, hb, hfront⟩ := exists_padding front
      have hd := Declared.named ha hb hne (List.all_eq_true.1 hname) hl he
      rwa [← hfront, ← htail] at hd
  | anonymous =>
    simp only [Grammar.ofBody?, anonymous?, Option.ite_none_left_eq_some, Bool.or_eq_true, not_or,
      List.contains_iff_mem, Option.map_eq_some_iff] at h
    obtain ⟨⟨hopen, hcolon⟩, ⟨options, default⟩, hc, rfl⟩ := h
    obtain ⟨rest, hbody, hl, he⟩ := listed_of_choiceOf? hc
    have hd := Declared.anonymous hl hopen hcolon he
    rwa [← hbody] at hd
  | radio =>
    obtain ⟨tail, hword, h⟩ := Option.bind_eq_some_iff.1 h
    obtain ⟨⟨options, default⟩, hc, h⟩ := Option.bind_eq_some_iff.1 h
    cases h
    obtain ⟨a, b, ha, hb, rfl⟩ := exists_of_afterWord? hword
    obtain ⟨rest, htail, hl, he⟩ := listed_of_choiceOf? hc
    have hd := Declared.radio ha hb hl he
    rwa [← htail] at hd
  | ai =>
    obtain ⟨tail, hword, h⟩ := Option.bind_eq_some_iff.1 h
    obtain ⟨default, hdefault, h⟩ := Option.bind_eq_some_iff.1 h
    obtain ⟨hne, h⟩ := Option.ite_none_left_eq_some.1 h
    cases h
    obtain ⟨a, b, ha, hb, rfl⟩ := exists_of_afterWord? hword
    obtain ⟨hbar, rest, htail, he⟩ := ended_of_cut hdefault
    have hd := Declared.ai ha hb (by simpa using hne) hbar he
    rwa [← htail] at hd
  | simple =>
    simp only [Grammar.ofBody?, simple?, Option.ite_none_left_eq_some, Bool.or_eq_true, not_or,
      Bool.not_eq_true, List.any_eq_false] at h
    obtain ⟨⟨⟨hstruct, hempty⟩, -⟩, h⟩ := h
    cases h
    refine .simple ?_ fun c hc hm => ?_
    · rintro rfl
      simp at hempty
    · have hs := hstruct c hm
      simp only [List.mem_cons, List.not_mem_nil, or_false] at hc
      rcases hc with rfl | rfl | rfl | rfl <;> cases hs

/-- The function of a grammar reads what is declared, less the names that no placeholder has. -/
theorem ofBody?_eq_some_iff :
    g.ofBody? body = some p ↔ Declared g body p ∧ p.isNameless = false := by
  constructor
  · intro h
    have hd := declared_of_ofBody? h
    rw [ofBody?_of_declared hd] at h
    obtain ⟨hn, -⟩ := Option.ite_none_left_eq_some.1 h
    exact ⟨hd, by simpa using hn⟩
  · rintro ⟨hd, hn⟩
    rw [ofBody?_of_declared hd, Placeholder.unlessNameless, hn]
    rfl

/-! ### The patterns -/

/-- The simple grammar's pattern takes reserved words too. -/
theorem reads_simple_iff : (∃ gs, Reads Grammar.simple.pattern (braced body) gs) ↔
    body ≠ [] ∧ ∀ c ∈ body, isSimpleChar c = true := by
  constructor
  · rintro ⟨gs, h⟩
    obtain ⟨rest, hrest, h⟩ := reads_opened.1 h
    simp only [inOrder_cons, inOrder_nil, reads_seq, reads_group, reads_oneOrMore_char,
      reads_blanks, reads_closing] at h
    obtain ⟨a, _, _, _, rfl, rfl, ⟨ha, rfl⟩, name, _, _, _, rfl, rfl, ⟨_, rfl, hne, hname, rfl⟩, b,
      _, _, _, rfl, rfl, ⟨hb, rfl⟩, rfl, rfl⟩ := h
    obtain rfl : body = a ++ name ++ b :=
      braced_injective (hrest.trans (by simp only [braced, List.append_assoc]))
    refine ⟨by simp [hne], fun c hc => ?_⟩
    simp only [List.mem_append] at hc
    rcases hc with (hc | hc) | hc
    · exact isSimpleChar_of_isBlank c (ha c hc)
    · exact hname c hc
    · exact isSimpleChar_of_isBlank c (hb c hc)
  · rintro ⟨hne, hall⟩
    exact ⟨[body], reads_opened.2 ⟨_, rfl, .seq (reads_blanks.2 ⟨.nil, rfl⟩) <|
      .seq (.group (reads_oneOrMore_char.2 ⟨hne, hall, rfl⟩)) <|
        .seq (reads_blanks.2 ⟨.nil, rfl⟩) (reads_closing.2 ⟨rfl, rfl⟩)⟩⟩

/-- A simple body is declared if its characters, and one at least, are those of a simple name. -/
theorem declared_simple_iff (hb : '\x7d' ∉ body) : (∃ p, Declared .simple body p) ↔
    body ≠ [] ∧ ∀ c ∈ body, isSimpleChar c = true := by
  constructor
  · rintro ⟨p, hd⟩
    cases hd with
    | simple hne hfree =>
      refine ⟨hne, fun c hc => ?_⟩
      rw [isSimpleChar_eq, Bool.and_eq_true, bne_iff_ne]
      refine ⟨fun e => hb (e ▸ hc), ?_⟩
      rw [Bool.not_eq_true', Bool.eq_false_iff]
      intro hs
      simp only [isStructural, Bool.or_eq_true, beq_iff_eq] at hs
      exact hfree c (by simpa [or_assoc] using hs) hc
  · rintro ⟨hne, hall⟩
    refine ⟨_, .simple hne fun c hc hm => ?_⟩
    have hs := hall c hm
    simp only [List.mem_cons, List.not_mem_nil, or_false] at hc
    rcases hc with rfl | rfl | rfl | rfl <;> exact absurd hs (by decide)

/-- What a pattern takes is declared, and its groups hold what is declared. -/
theorem declared_of_reads (h : Reads g.pattern text gs) :
    ∃ body p, text = braced body ∧ '\x7d' ∉ body ∧ Declared g body p ∧
      g.build gs = p.unlessNameless := by
  obtain ⟨body, rfl, hb, hbuild, -⟩ := reads_body h
  obtain ⟨p, hd⟩ : ∃ p, Declared g body p := by
    cases g with
    | simple => exact (declared_simple_iff hb).2 (reads_simple_iff.1 ⟨gs, h⟩)
    | named =>
      obtain ⟨body', he, -, p, hp, -⟩ := reads_named h
      exact ⟨p, declared_of_ofBody? (braced_injective he ▸ hp)⟩
    | anonymous =>
      obtain ⟨body', he, -, p, hp, -⟩ := reads_anonymous h
      exact ⟨p, declared_of_ofBody? (braced_injective he ▸ hp)⟩
    | radio =>
      obtain ⟨body', he, -, p, hp, -⟩ := reads_radio h
      exact ⟨p, declared_of_ofBody? (braced_injective he ▸ hp)⟩
    | ai =>
      obtain ⟨body', he, -, p, hp, -⟩ := reads_ai h
      exact ⟨p, declared_of_ofBody? (braced_injective he ▸ hp)⟩
  exact ⟨body, p, rfl, hb, hd, hbuild.trans (ofBody?_of_declared hd)⟩

/-- What is declared and holds no closing brace, the pattern takes. -/
theorem reads_of_declared (hb : '\x7d' ∉ body) (hd : Declared g body p) :
    ∃ gs, Reads g.pattern (braced body) gs := by
  by_cases hn : p.isNameless
  · -- only a simple name builds nothing, so the function does not tell
    cases hd with
    | simple hne hfree =>
      exact reads_simple_iff.2 ((declared_simple_iff hb).1 ⟨_, .simple hne hfree⟩)
    | _ => cases hn
  · obtain ⟨gs, hgs, -⟩ := body_reads hb (ofBody?_eq_some_iff.2 ⟨hd, by simpa using hn⟩)
    exact ⟨gs, hgs⟩

/-- A search in a text that the pattern takes finds the whole text, and nothing else. -/
theorem findAll_braced (hb : '\x7d' ∉ body) (h : Reads g.pattern (braced body) gs) :
    ∃ ks, Reads g.pattern (braced body) ks ∧
      findAll g.pattern 0 (braced body) = [⟨0, braced body, ks⟩] := by
  have hne : braced body ≠ [] := List.cons_ne_nil _ _
  rcases findAll_cases g.pattern 0 (braced body) with
    ⟨xs, ks, rest, hsplit, -, hx, he⟩ | ⟨hnone, -⟩
  · -- the match ends at the first closing braces, which are the last characters
    obtain ⟨front, rfl, hfront, -⟩ := reads_body hx
    have hcut : body ++ '\x7d' :: ['\x7d'] = front ++ '\x7d' :: '\x7d' :: rest := by
      simpa [braced] using hsplit
    obtain ⟨rfl, hrest⟩ := append_cons_inj hcut hb hfront
    obtain rfl : rest = [] := by simpa using hrest.symm
    refine ⟨ks, hx, ?_⟩
    rw [he]
    rcases findAll_cases g.pattern (0 + (braced body).length) [] with
      ⟨us, _, _, hus, hne, -⟩ | ⟨-, ⟨-, hnil⟩ | ⟨c, tail, hc, -⟩⟩
    · exact absurd (List.append_eq_nil_iff.1 hus.symm).1 hne
    · rw [hnil]
    · cases hc
  · exact absurd h (hnone _ _ [] (List.append_nil _).symm hne)

/-- **Each grammar takes its declared language, and captures the declared fields.** A pattern takes
a text just if it is a declared body in its braces, without another closing brace. Whatever the
groups, they build the declared placeholder, the search finds the one match, and the function that
reads the body gives the same. -/
theorem pattern_takes_declared (g : Grammar) (text : List Char) :
    ((∃ gs, Reads g.pattern text gs) ↔
      ∃ body p, text = braced body ∧ '\x7d' ∉ body ∧ Declared g body p) ∧
    (∀ gs, Reads g.pattern text gs →
      ∃ body p, text = braced body ∧ Declared g body p ∧ g.build gs = p.unlessNameless) ∧
    ∀ body p, text = braced body → '\x7d' ∉ body → Declared g body p →
      (∃ gs, findAll g.pattern 0 text = [⟨0, text, gs⟩] ∧ g.build gs = p.unlessNameless) ∧
        g.ofBody? body = p.unlessNameless := by
  refine ⟨⟨?_, ?_⟩, ?_, ?_⟩
  · rintro ⟨gs, h⟩
    obtain ⟨body, p, rfl, hb, hd, -⟩ := declared_of_reads h
    exact ⟨body, p, rfl, hb, hd⟩
  · rintro ⟨body, p, rfl, hb, hd⟩
    exact reads_of_declared hb hd
  · intro gs h
    obtain ⟨body, p, rfl, -, hd, hbuild⟩ := declared_of_reads h
    exact ⟨body, p, rfl, hd, hbuild⟩
  · rintro body p rfl hb hd
    obtain ⟨gs, hgs⟩ := reads_of_declared hb hd
    obtain ⟨ks, hks, hfind⟩ := findAll_braced hb hgs
    obtain ⟨body', he, -, hbuild, -⟩ := reads_body hks
    have hbody := ofBody?_of_declared hd
    exact ⟨⟨ks, hfind, hbuild.trans (braced_injective he ▸ hbody)⟩, hbody⟩

/-- Options and a default may be blank, but a comma has text on both sides, and a bar has some
behind it. -/
example :
    Grammar.anonymous.ofBody? ",,a| ".toList = some (.anonymous ["", "", "a"] (some "")) ∧
      Grammar.anonymous.ofBody? ",,a|".toList = none ∧
      Grammar.anonymous.ofBody? "a,".toList = none := by decide +kernel

end

end Scaffold.Template
