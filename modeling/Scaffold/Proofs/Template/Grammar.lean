import Scaffold.Proofs.Text.Pattern
import Scaffold.Proofs.Text.Split
import Scaffold.Template.Grammar

/-!
# The grammars as patterns

Each grammar is a regular expression whose groups are the fields of a placeholder
(`Grammar.pattern`, `Grammar.build`). The functions that read a body agree with it:

* `reads_body` - what a pattern takes stands in double braces and holds no other closing brace,
  and however the groups were found, they build what the grammar's function reads in the body;
* `body_reads` - a body that the function reads is taken by the pattern.
-/

namespace Scaffold.Template
open Scaffold.Text Scaffold.Text.Pattern

/-- A body in its braces. -/
def braced (body : List Char) : List Char := '\x7b' :: '\x7b' :: (body ++ ['\x7d', '\x7d'])

/-- Any white space. -/
def blanks : Pattern := many true (char isBlank)

/-- The two closing braces. -/
def closing : Pattern := inOrder [lit '\x7d'] (lit '\x7d')

/-- Options: a list of two or more with a comma between each two. -/
def optionList (p : Char → Bool) : Pattern :=
  group (seq (oneOrMore true (char p))
    (oneOrMore true (inOrder [blanks, lit ',', blanks] (oneOrMore true (char p)))))

/-- A bar and a default, if they are there, and the closing braces. -/
def ending : Pattern :=
  inOrder [opt (inOrder [lit '|', blanks] (group (oneOrMore false (char (· != '\x7d'))))), blanks]
    closing

/-- Options over a class of characters, and what ends a placeholder. -/
def choice (p : Char → Bool) : Pattern := inOrder [blanks, optionList p, blanks] ending

/-- A character of an option or a prompt. -/
def isFree (c : Char) : Bool := c != '\x7d' && c != '|'

/-- A character of an option without a name in front. -/
def isPlain (c : Char) : Bool := c != '\x7b' && c != '\x7d' && c != ':' && c != '|'

/-- A character of a simple name. -/
def isSimpleChar (c : Char) : Bool :=
  c != '\x7b' && c != '\x7d' && c != ':' && c != '|' && c != ','

/-- Double braces and a pattern for what follows them. -/
def opened (p : Pattern) : Pattern := inOrder [lit '\x7b', lit '\x7b'] p

/-- The word that tells a radio or an AI input, and the bar behind it. -/
def tagged (word : String) (p : Pattern) : Pattern :=
  opened (inOrder [blanks] (inOrder (word.toList.map lit) (inOrder [blanks, lit '|'] p)))

/-- The five grammars. -/
inductive Grammar
  | named
  | anonymous
  | radio
  | ai
  | simple
deriving Repr, DecidableEq

namespace Grammar

/-- The grammars, highest precedence first. -/
def all : List Grammar := [named, anonymous, radio, ai, simple]

/-- The place of a grammar in the order of precedence. -/
def rank : Grammar → Nat
  | named => 0
  | anonymous => 1
  | radio => 2
  | ai => 3
  | simple => 4

/-- The regular expression of a grammar. -/
def pattern : Grammar → Pattern
  | named =>
    opened (inOrder [blanks, group (oneOrMore true (char isNameChar)), blanks, lit ':']
      (choice isFree))
  | anonymous => opened (choice isPlain)
  | radio => tagged "radio" (choice isFree)
  | ai =>
    tagged "ai" (inOrder [blanks, group (oneOrMore true (char isFree)), blanks] ending)
  | simple =>
    opened (inOrder [blanks, group (oneOrMore false (char isSimpleChar)), blanks] closing)

end Grammar

/-- The default that the groups of an end hold. -/
def defaultOfGroups? : List (List Char) → Option (Option String)
  | [] => some none
  | [default] => some (some (String.ofList (trim default)))
  | _ => none

/-- The options and the default of the groups of a choice. -/
def choiceOfGroups? : List (List Char) → Option (List String × Option String)
  | [] => none
  | options :: ks => (defaultOfGroups? ks).map fun default => (optionsOf options, default)

/-- The placeholder of a match's groups. A reserved word is no name. -/
def Grammar.build : Grammar → List (List Char) → Option Placeholder
  | .named, name :: groups =>
    (choiceOfGroups? groups).map fun (options, default) =>
      .named (String.ofList name) options default
  | .named, [] => none
  | .anonymous, groups =>
    (choiceOfGroups? groups).map fun (options, default) => .anonymous options default
  | .radio, groups =>
    (choiceOfGroups? groups).map fun (options, default) => .radio options default
  | .ai, prompt :: groups =>
    (defaultOfGroups? groups).map fun default => .ai (String.ofList (trim prompt)) default
  | .ai, [] => none
  | .simple, [name] =>
    let name := String.ofList (trim name)
    if name.isEmpty || reservedNames.contains name then none else some (.simple name)
  | .simple, _ => none

/-- The function that reads a body by a grammar. -/
def Grammar.ofBody? : Grammar → List Char → Option Placeholder
  | .named => named?
  | .anonymous => anonymous?
  | .radio => radio?
  | .ai => ai?
  | .simple => simple?

theorem grammars_eq : grammars = Grammar.all.map Grammar.ofBody? := rfl

/-! ### Parts of a body -/

theorem hasInnerComma_iff (cs : List Char) :
    hasInnerComma cs = true ↔ ∃ xs ys, xs ≠ [] ∧ ys ≠ [] ∧ cs = xs ++ ',' :: ys := by
  unfold hasInnerComma
  rw [List.contains_iff_mem]
  constructor
  · intro h
    cases cs with
    | nil => simp at h
    | cons c cs =>
      rw [List.drop_one, List.tail_cons] at h
      obtain ⟨us, vs, he⟩ := List.append_of_mem h
      have hne : cs ≠ [] := by
        rintro rfl
        simp at h
      have hcs := List.dropLast_append_getLast hne
      rw [he] at hcs
      exact ⟨c :: us, vs ++ [cs.getLast hne], by simp, by simp, by simpa using hcs.symm⟩
  · rintro ⟨xs, ys, hx, hy, rfl⟩
    obtain ⟨c, us, rfl⟩ := List.exists_cons_of_ne_nil hx
    simp [List.dropLast_append_of_ne_nil, List.dropLast_cons_of_ne_nil hy]

theorem hasInnerComma_padded {cs : List Char} (h : hasInnerComma cs = true) (a b : List Char) :
    hasInnerComma (a ++ cs ++ b) = true := by
  obtain ⟨xs, ys, hx, hy, rfl⟩ := (hasInnerComma_iff cs).1 h
  exact (hasInnerComma_iff _).2 ⟨a ++ xs, ys ++ b, by simp [hx], by simp [hy], by simp⟩

theorem optionsOf_padded {a b : List Char} (ha : Blanks a) (hb : Blanks b) (cs : List Char) :
    optionsOf (a ++ cs ++ b) = optionsOf cs := by
  have h := congrArg (List.map String.ofList)
    (map_trim_splitOn_padded ha hb (show isBlank ',' = false by decide) cs)
  rw [List.map_map, List.map_map] at h
  exact h

theorem reads_blanks {text : List Char} {gs : List (List Char)} :
    Reads blanks text gs ↔ Blanks text ∧ gs = [] := reads_many_char

theorem reads_closing {text : List Char} {gs : List (List Char)} :
    Reads closing text gs ↔ text = ['\x7d', '\x7d'] ∧ gs = [] := by
  unfold closing
  rw [inOrder_cons, inOrder_nil, reads_seq]
  constructor
  · rintro ⟨xs, ys, hs, ks, rfl, rfl, hx, hy⟩
    obtain ⟨rfl, rfl⟩ := reads_lit.1 hx
    obtain ⟨rfl, rfl⟩ := reads_lit.1 hy
    exact ⟨rfl, rfl⟩
  · rintro ⟨rfl, rfl⟩
    exact ⟨[_], [_], [], [], rfl, rfl, reads_lit.2 ⟨rfl, rfl⟩, reads_lit.2 ⟨rfl, rfl⟩⟩

/-- A list of options is a text over the class with a comma that has text on both sides. -/
theorem reads_optionList {p : Char → Bool} (hcomma : p ',' = true)
    (hblank : ∀ c, isBlank c = true → p c = true) {text : List Char} {gs : List (List Char)} :
    Reads (optionList p) text gs ↔
      gs = [text] ∧ (∀ c ∈ text, p c = true) ∧ hasInnerComma text = true := by
  -- one round: white space, a comma, white space and an option
  have hround : ∀ xs hs, Reads (inOrder [blanks, lit ',', blanks] (oneOrMore true (char p))) xs hs →
      ∃ a ys, xs = a ++ ',' :: ys ∧ ys ≠ [] ∧ (∀ c ∈ xs, p c = true) ∧ hs = [] := by
    intro xs hs h
    simp only [inOrder_cons, inOrder_nil, reads_seq, reads_blanks, reads_lit,
      reads_oneOrMore_char] at h
    obtain ⟨a, _, _, _, rfl, rfl, ⟨ha, rfl⟩, _, _, _, _, rfl, rfl, ⟨rfl, rfl⟩, b, ys, _, _, rfl,
      rfl, ⟨hb, rfl⟩, hne, hys, rfl⟩ := h
    refine ⟨a, b ++ ys, rfl, by simp [hne], ?_, rfl⟩
    intro c hc
    simp only [List.mem_append, List.mem_cons, List.not_mem_nil, or_false] at hc
    rcases hc with hc | rfl | hc | hc
    · exact hblank c (ha c hc)
    · exact hcomma
    · exact hblank c (hb c hc)
    · exact hys c hc
  unfold optionList
  rw [reads_group]
  constructor
  · rintro ⟨hs, rfl, h⟩
    obtain ⟨xs, _, _, _, rfl, rfl, hx, hrest⟩ := reads_seq.1 h
    obtain ⟨hne, hxs, rfl⟩ := reads_oneOrMore_char.1 hx
    obtain ⟨ys, zs, _, _, rfl, rfl, hy, hz⟩ := reads_seq.1 hrest
    obtain ⟨a, ys, rfl, hys, hyp, rfl⟩ := hround _ _ hy
    obtain ⟨hzp, rfl⟩ := hz.of_many fun us ks hu => by
      obtain ⟨-, -, -, -, hup, rfl⟩ := hround us ks hu
      exact ⟨hup, rfl⟩
    refine ⟨rfl, ?_, (hasInnerComma_iff _).2 ⟨xs ++ a, ys ++ zs, by simp [hne], by simp [hys],
      by simp⟩⟩
    intro c hc
    rcases List.mem_append.1 hc with hc | hc
    · exact hxs c hc
    · rcases List.mem_append.1 hc with hc | hc
      · exact hyp c hc
      · exact hzp c hc
  · rintro ⟨rfl, htext, hcom⟩
    obtain ⟨xs, ys, hx, hy, rfl⟩ := (hasInnerComma_iff _).1 hcom
    have hxp : ∀ c ∈ xs, p c = true := fun c hc => htext c (by simp [hc])
    have hyp : ∀ c ∈ ys, p c = true := fun c hc => htext c (by simp [hc])
    have hone : Reads (inOrder [blanks, lit ',', blanks] (oneOrMore true (char p)))
        ([] ++ ([','] ++ ([] ++ ys))) ([] ++ ([] ++ ([] ++ []))) :=
      .seq (reads_blanks.2 ⟨.nil, rfl⟩) <| .seq (reads_lit.2 ⟨rfl, rfl⟩) <|
        .seq (reads_blanks.2 ⟨.nil, rfl⟩) (reads_oneOrMore_char.2 ⟨hy, hyp, rfl⟩)
    refine ⟨[], rfl, reads_seq.2 ⟨xs, ',' :: ys, [], [], rfl, rfl,
      reads_oneOrMore_char.2 ⟨hx, hxp, rfl⟩, ?_⟩⟩
    exact reads_seq.2 ⟨',' :: ys, [], [], [], by simp, rfl, hone, .none⟩

/-- The end of a placeholder: with or without a default, which is any text but the empty one. -/
theorem reads_ending {text : List Char} {gs : List (List Char)} :
    Reads ending text gs ↔
      (∃ ws, Blanks ws ∧ text = ws ++ ['\x7d', '\x7d'] ∧ gs = []) ∨
        ∃ a default b, Blanks a ∧ Blanks b ∧ default ≠ [] ∧ '\x7d' ∉ default ∧
          text = '|' :: (a ++ default ++ b) ++ ['\x7d', '\x7d'] ∧ gs = [default] := by
  unfold ending
  simp only [inOrder_cons, inOrder_nil, reads_seq, reads_blanks, reads_closing, reads_opt,
    reads_lit, reads_group, reads_oneOrMore_char]
  constructor
  · rintro ⟨_, _, _, _, rfl, rfl, h, ws, _, _, _, rfl, rfl, ⟨hws, rfl⟩, rfl, rfl⟩
    rcases h with ⟨rfl, rfl⟩ | ⟨_, _, _, _, rfl, rfl, ⟨rfl, rfl⟩, a, default, _, _, rfl, rfl,
      ⟨ha, rfl⟩, _, rfl, hne, hd, rfl⟩
    · exact Or.inl ⟨ws, hws, rfl, rfl⟩
    · refine Or.inr ⟨a, default, ws, ha, hws, hne, ?_, by simp, rfl⟩
      exact fun hm => by simpa using hd _ hm
  · rintro (⟨ws, hws, rfl, rfl⟩ | ⟨a, default, b, ha, hb, hne, hd, rfl, rfl⟩)
    · exact ⟨[], _, [], [], rfl, rfl, Or.inl ⟨rfl, rfl⟩, ws, _, [], [], rfl, rfl, ⟨hws, rfl⟩,
        rfl, rfl⟩
    · refine ⟨'|' :: (a ++ default), b ++ ['\x7d', '\x7d'], [default], [], by simp, rfl,
        Or.inr ⟨['|'], a ++ default, [], [default], rfl, rfl, ⟨rfl, rfl⟩, a, default, [],
          [default], rfl, rfl, ⟨ha, rfl⟩, [], rfl, hne, ?_, rfl⟩,
        b, _, [], [], rfl, rfl, ⟨hb, rfl⟩, rfl, rfl⟩
      exact fun c hc => bne_iff_ne.2 fun e => hd (e ▸ hc)

/-! ### What stands before the end -/

theorem isFree_of_isBlank (c : Char) (h : isBlank c = true) : isFree c = true := by
  simp only [isFree, Bool.and_eq_true, bne_iff_ne]
  constructor <;> rintro rfl <;> revert h <;> decide

theorem isPlain_of_isBlank (c : Char) (h : isBlank c = true) : isPlain c = true := by
  simp only [isPlain, Bool.and_eq_true, bne_iff_ne]
  refine ⟨⟨⟨?_, ?_⟩, ?_⟩, ?_⟩ <;> rintro rfl <;> revert h <;> decide

theorem isSimpleChar_of_isBlank (c : Char) (h : isBlank c = true) : isSimpleChar c = true := by
  simp only [isSimpleChar, Bool.and_eq_true, bne_iff_ne]
  refine ⟨⟨⟨⟨?_, ?_⟩, ?_⟩, ?_⟩, ?_⟩ <;> rintro rfl <;> revert h <;> decide

theorem isFree_of_isPlain (c : Char) (h : isPlain c = true) : isFree c = true := by
  simp only [isPlain, isFree, Bool.and_eq_true, bne_iff_ne] at h ⊢
  exact ⟨h.1.1.2, h.2⟩

/-- However an end was taken, the body is cut at the bar that the default stands behind. -/
theorem ending_sound {front tail : List Char} {ks : List (List Char)}
    (hfront : ∀ c ∈ front, isFree c = true) (h : Reads ending tail ks) :
    ∃ ws rest body default, Blanks ws ∧ front ++ tail = body ++ ['\x7d', '\x7d'] ∧ '\x7d' ∉ body ∧
      cut '|' body = (front ++ ws, rest) ∧ defaultOf? rest = some default ∧
      defaultOfGroups? ks = some default := by
  have hnot : ∀ {c : Char} {cs : List Char}, isFree c = false → (∀ d ∈ cs, isFree d = true) →
      c ∉ cs := fun hc hcs hm => by simp [hcs _ hm] at hc
  -- with a default, the first bar is the one in front of it; without, there is no bar at all
  rcases reads_ending.1 h with ⟨ws, hws, rfl, rfl⟩ | ⟨a, d, b, ha, hb, hne, hd, rfl, rfl⟩
  · have hall : ∀ c ∈ front ++ ws, isFree c = true := by
      intro c hc
      rcases List.mem_append.1 hc with hc | hc
      · exact hfront c hc
      · exact isFree_of_isBlank c (hws c hc)
    exact ⟨ws, none, front ++ ws, none, hws, by simp, hnot (by decide) hall,
      cut_of_not_mem (hnot (by decide) hall), rfl, rfl⟩
  · refine ⟨[], some (a ++ d ++ b), front ++ '|' :: (a ++ d ++ b), some (String.ofList (trim d)),
      .nil, by simp, ?_, ?_, ?_, rfl⟩
    · simp only [List.mem_append, List.mem_cons, not_or]
      exact ⟨hnot (by decide) hfront, by decide, ⟨ha.not_mem (by decide), hd⟩,
        hb.not_mem (by decide)⟩
    · rw [cut_append (hnot (by decide) hfront), List.append_nil]
    · obtain ⟨c, cs, he⟩ := List.exists_cons_of_ne_nil (show a ++ d ++ b ≠ [] by simp [hne])
      rw [← trim_padded ha hb d, he]
      rfl

/-- A default that can be read is taken by the pattern. -/
theorem ending_complete {body : List Char} (hb : '\x7d' ∉ body)
    (h : (defaultOf? (cut '|' body).2).isSome) :
    ∃ tail ks, body ++ ['\x7d', '\x7d'] = (cut '|' body).1 ++ tail ∧ Reads ending tail ks := by
  rcases cut_cases '|' body with ⟨-, hcut⟩ | ⟨front, rest, rfl, -, hcut⟩
  · rw [hcut]
    exact ⟨['\x7d', '\x7d'], [], rfl, reads_ending.2 (Or.inl ⟨[], .nil, rfl, rfl⟩)⟩
  · rw [hcut] at h ⊢
    have hne : rest ≠ [] := by
      rintro rfl
      cases h
    exact ⟨'|' :: rest ++ ['\x7d', '\x7d'], [rest], by simp, reads_ending.2
      (Or.inr ⟨[], rest, [], .nil, .nil, hne, fun hm => hb (by simp [hm]), by simp, rfl⟩)⟩

/-! ### Options with a default -/

/-- A body of options as the pattern takes it: white space, the options, white space, and then
white space only or a bar and a default. -/
theorem reads_choice {p : Char → Bool} (hcomma : p ',' = true)
    (hblank : ∀ c, isBlank c = true → p c = true) {text : List Char} {gs : List (List Char)} :
    Reads (choice p) text gs ↔ ∃ a options b tail ks, Blanks a ∧ Blanks b ∧
      (∀ c ∈ options, p c = true) ∧ hasInnerComma options = true ∧ Reads ending tail ks ∧
      text = a ++ options ++ b ++ tail ∧ gs = options :: ks := by
  unfold choice
  simp only [inOrder_cons, inOrder_nil, reads_seq, reads_blanks, reads_optionList hcomma hblank]
  constructor
  · rintro ⟨a, _, _, _, rfl, rfl, ⟨ha, rfl⟩, options, _, _, _, rfl, rfl, ⟨rfl, hp, hcom⟩, b, tail,
      _, ks, rfl, rfl, ⟨hb, rfl⟩, ht⟩
    exact ⟨a, options, b, tail, ks, ha, hb, hp, hcom, ht, by simp, rfl⟩
  · rintro ⟨a, options, b, tail, ks, ha, hb, hp, hcom, ht, rfl, rfl⟩
    exact ⟨a, options ++ (b ++ tail), [], options :: ks, by simp, rfl, ⟨ha, rfl⟩, options,
      b ++ tail, [options], ks, rfl, rfl, ⟨rfl, hp, hcom⟩, b, tail, [], ks, rfl, rfl, ⟨hb, rfl⟩, ht⟩

/-- However a choice was taken, its groups hold the options and the default of the body. -/
theorem choice_sound {p : Char → Bool} (hcomma : p ',' = true)
    (hblank : ∀ c, isBlank c = true → p c = true) (hfree : ∀ c, p c = true → isFree c = true)
    {text : List Char} {gs : List (List Char)} (h : Reads (choice p) text gs) :
    ∃ body, text = body ++ ['\x7d', '\x7d'] ∧ '\x7d' ∉ body ∧
      (∀ c ∈ (cut '|' body).1, p c = true) ∧
      ∃ r, choiceOf? body = some r ∧ choiceOfGroups? gs = some r := by
  obtain ⟨a, options, b, tail, ks, ha, hb, hp, hcom, ht, rfl, rfl⟩ :=
    (reads_choice hcomma hblank).1 h
  have hfront : ∀ c ∈ a ++ options ++ b, p c = true := by
    intro c hc
    simp only [List.mem_append] at hc
    rcases hc with (hc | hc) | hc
    · exact hblank c (ha c hc)
    · exact hp c hc
    · exact hblank c (hb c hc)
  obtain ⟨ws, rest, body, default, hws, hbody, hbrace, hcut, hd, hks⟩ :=
    ending_sound (fun c hc => hfree c (hfront c hc)) ht
  refine ⟨body, hbody, hbrace, ?_, (optionsOf options, default), ?_, by
    simp only [choiceOfGroups?, hks, Option.map_some]⟩
  · rw [hcut]
    intro c hc
    rcases List.mem_append.1 hc with hc | hc
    · exact hfront c hc
    · exact hblank c (hws c hc)
  · rw [List.append_assoc] at hcut
    simp only [choiceOf?, hcut, hd, Option.bind_eq_bind, Option.bind_some,
      hasInnerComma_padded hcom, if_true, optionsOf_padded ha (hb.append hws)]
    rfl

/-- Options over a class and a default that can be read are taken by the pattern. -/
theorem choice_complete {p : Char → Bool} (hcomma : p ',' = true)
    (hblank : ∀ c, isBlank c = true → p c = true) {body : List Char} (hb : '\x7d' ∉ body)
    (hp : ∀ c ∈ (cut '|' body).1, p c = true) (h : (choiceOf? body).isSome) :
    ∃ gs, Reads (choice p) (body ++ ['\x7d', '\x7d']) gs := by
  obtain ⟨r, hr⟩ := Option.isSome_iff_exists.1 h
  obtain ⟨default, hd, hr⟩ := Option.bind_eq_some_iff.1 hr
  have hcom : hasInnerComma (cut '|' body).1 = true := by
    by_contra hn
    simp [hn] at hr
  obtain ⟨tail, ks, he, ht⟩ := ending_complete hb (Option.isSome_iff_exists.2 ⟨_, hd⟩)
  exact ⟨_, (reads_choice hcomma hblank).2
    ⟨[], _, [], tail, ks, .nil, .nil, hp, hcom, ht, by simpa using he, rfl⟩⟩

/-! ### The five grammars -/

theorem isBlank_of_isNameChar {c : Char} (h : isNameChar c = true) : isBlank c = false := by
  simp only [isNameChar, Bool.or_eq_true, beq_iff_eq] at h
  rcases h with (h | rfl) | rfl
  · exact isBlank_of_isWord h
  · decide
  · decide

theorem reads_opened {p : Pattern} {text : List Char} {gs : List (List Char)} :
    Reads (opened p) text gs ↔ ∃ rest, text = '\x7b' :: '\x7b' :: rest ∧ Reads p rest gs := by
  unfold opened
  simp only [inOrder_cons, inOrder_nil, reads_seq, reads_lit]
  constructor
  · rintro ⟨_, _, _, _, rfl, rfl, ⟨rfl, rfl⟩, _, rest, _, _, rfl, rfl, ⟨rfl, rfl⟩, h⟩
    exact ⟨rest, rfl, h⟩
  · rintro ⟨rest, rfl, h⟩
    exact ⟨['\x7b'], _, [], gs, rfl, rfl, ⟨rfl, rfl⟩, ['\x7b'], rest, [], gs, rfl, rfl, ⟨rfl, rfl⟩,
      h⟩

theorem reads_tagged {word : String} {p : Pattern} {text : List Char} {gs : List (List Char)} :
    Reads (tagged word p) text gs ↔ ∃ a b rest, Blanks a ∧ Blanks b ∧
      text = '\x7b' :: '\x7b' :: (a ++ word.toList ++ b ++ '|' :: rest) ∧ Reads p rest gs := by
  unfold tagged
  simp only [reads_opened, reads_inOrder_lit, inOrder_cons, inOrder_nil, reads_seq, reads_blanks,
    reads_lit]
  constructor
  · rintro ⟨_, rfl, a, _, _, _, rfl, rfl, ⟨ha, rfl⟩, _, rfl, b, _, _, _, rfl, rfl, ⟨hb, rfl⟩, _,
      rest, _, _, rfl, rfl, ⟨rfl, rfl⟩, h⟩
    exact ⟨a, b, rest, ha, hb, by simp, h⟩
  · rintro ⟨a, b, rest, ha, hb, rfl, h⟩
    exact ⟨_, rfl, a, word.toList ++ (b ++ '|' :: rest), [], gs, by simp, rfl, ⟨ha, rfl⟩, _, rfl, b,
      _, [], gs, rfl, rfl, ⟨hb, rfl⟩, ['|'], rest, [], gs, rfl, rfl, ⟨rfl, rfl⟩, h⟩

/-- The text behind a word and a bar. -/
theorem afterWord?_eq (word : String) {a b : List Char} (ha : Blanks a) (hb : Blanks b)
    (hbar : '|' ∉ word.toList) (htrim : trim word.toList = word.toList) (rest : List Char) :
    afterWord? word (a ++ word.toList ++ b ++ '|' :: rest) = some rest := by
  have hfront : '|' ∉ a ++ word.toList ++ b := by
    simp only [List.mem_append, not_or]
    exact ⟨⟨ha.not_mem (by decide), hbar⟩, hb.not_mem (by decide)⟩
  unfold afterWord?
  rw [cut_append hfront]
  simp only [trim_padded ha hb, htrim, beq_self_eq_true, if_true]

theorem exists_of_afterWord? {word : String} {body rest : List Char}
    (h : afterWord? word body = some rest) :
    ∃ a b, Blanks a ∧ Blanks b ∧ body = a ++ word.toList ++ b ++ '|' :: rest := by
  unfold afterWord? at h
  rcases cut_cases '|' body with ⟨-, hcut⟩ | ⟨front, tail, rfl, -, hcut⟩
  · simp [hcut] at h
  · rw [hcut] at h
    simp only [beq_iff_eq, Option.ite_none_right_eq_some, Option.some.injEq] at h
    obtain ⟨hword, rfl⟩ := h
    obtain ⟨a, b, ha, hb, he⟩ := exists_padding front
    exact ⟨a, b, ha, hb, by rw [he, hword]⟩

section

variable {text body : List Char} {gs : List (List Char)} {r : Placeholder}

/-- What a choice's pattern takes: the body behind its opening, and what it reads as. -/
theorem choice_isFree_sound (h : Reads (choice isFree) text gs) :
    ∃ body, text = body ++ ['\x7d', '\x7d'] ∧ '\x7d' ∉ body ∧
      ∃ r, choiceOf? body = some r ∧ choiceOfGroups? gs = some r := by
  obtain ⟨body, rfl, hb, -, hr⟩ :=
    choice_sound (by decide) isFree_of_isBlank (fun _ h => h) h
  exact ⟨body, rfl, hb, hr⟩

theorem choice_isFree_complete (hb : '\x7d' ∉ body) (h : (choiceOf? body).isSome) :
    ∃ gs, Reads (choice isFree) (body ++ ['\x7d', '\x7d']) gs := by
  refine choice_complete (by decide) isFree_of_isBlank hb (fun c hc => ?_) h
  obtain ⟨hmem, hbar⟩ := mem_of_mem_cut hc
  exact Bool.and_eq_true_iff.2 ⟨bne_iff_ne.2 fun e => hb (e ▸ hmem), bne_iff_ne.2 hbar⟩

theorem reads_named (h : Reads Grammar.named.pattern text gs) :
    ∃ body, text = braced body ∧ '\x7d' ∉ body ∧
      ∃ r, named? body = some r ∧ Grammar.named.build gs = some r := by
  obtain ⟨rest, rfl, hrest⟩ := reads_opened.1 h
  simp only [inOrder_cons, inOrder_nil, reads_seq, reads_group, reads_oneOrMore_char, reads_blanks,
    reads_lit] at hrest
  obtain ⟨a, _, _, _, rfl, rfl, ⟨ha, rfl⟩, name, _, _, _, rfl, rfl, ⟨_, rfl, hne, hname, rfl⟩, b, _,
    _, _, rfl, rfl, ⟨hb, rfl⟩, _, tail, _, _, rfl, rfl, ⟨rfl, rfl⟩, hc⟩ := hrest
  obtain ⟨body, rfl, hbody, r, hr, hgs⟩ := choice_isFree_sound hc
  have hfront : ∀ c, isNameChar c = false → isBlank c = false → c ∉ a ++ name ++ b := by
    intro c hc hcb
    simp only [List.mem_append, not_or]
    exact ⟨⟨ha.not_mem hcb, fun hm => by simp [hname c hm] at hc⟩, hb.not_mem hcb⟩
  have htrim : trim (a ++ name ++ b) = name := by
    rw [trim_padded ha hb]
    exact trim_eq_self_of_forall fun c hc => isBlank_of_isNameChar (hname c hc)
  refine ⟨a ++ name ++ b ++ ':' :: body, by simp [braced], ?_, _, ?_, by
    simp only [Grammar.build, List.nil_append, List.cons_append, hgs]; rfl⟩
  · rw [List.mem_append, not_or]
    exact ⟨hfront _ (by decide +kernel) (by decide), by simpa using hbody⟩
  · have hn : name.isEmpty = false := by simpa using hne
    unfold named?
    rw [cut_append (hfront ':' (by decide +kernel) (by decide))]
    simp only [htrim, hn, List.all_eq_true.2 hname, hr, Bool.not_true, Bool.or_self]
    rfl

theorem named?_reads (hb : '\x7d' ∉ body) (h : named? body = some r) :
    ∃ gs, Reads Grammar.named.pattern (braced body) gs := by
  unfold named? at h
  rcases cut_cases ':' body with ⟨-, hcut⟩ | ⟨front, rest, rfl, -, hcut⟩ <;> rw [hcut] at h
  · cases h
  · simp only [Option.ite_none_left_eq_some, Bool.or_eq_true, not_or, Bool.not_eq_true',
      Bool.not_eq_false, List.isEmpty_iff, Option.map_eq_some_iff] at h
    obtain ⟨⟨hne, hname⟩, _, hr, -⟩ := h
    obtain ⟨gs, hgs⟩ := choice_isFree_complete (fun hm => hb (by simp [hm]))
      (Option.isSome_iff_exists.2 ⟨_, hr⟩)
    obtain ⟨a, b, ha, hbl, he⟩ := exists_padding front
    refine ⟨_, reads_opened.2 ⟨_, ?_, .seq (reads_blanks.2 ⟨ha, rfl⟩) <|
      .seq (.group (reads_oneOrMore_char.2 ⟨hne, List.all_eq_true.1 hname, rfl⟩)) <|
        .seq (reads_blanks.2 ⟨hbl, rfl⟩) <| .seq (reads_lit.2 ⟨rfl, rfl⟩) hgs⟩⟩
    conv_lhs => rw [he]
    simp [braced]

theorem reads_anonymous (h : Reads Grammar.anonymous.pattern text gs) :
    ∃ body, text = braced body ∧ '\x7d' ∉ body ∧
      ∃ r, anonymous? body = some r ∧ Grammar.anonymous.build gs = some r := by
  obtain ⟨rest, rfl, hrest⟩ := reads_opened.1 h
  obtain ⟨body, rfl, hbody, hplain, r, hr, hgs⟩ :=
    choice_sound (by decide) isPlain_of_isBlank isFree_of_isPlain hrest
  refine ⟨body, rfl, hbody, _, ?_, by simp only [Grammar.build, hgs]; rfl⟩
  have hnot : ∀ c, isPlain c = false → (cut '|' body).1.contains c = false := by
    intro c hc
    rw [List.contains_eq_mem, decide_eq_false_iff_not]
    exact fun hm => by simp [hplain c hm] at hc
  simp only [anonymous?, hnot '\x7b' (by decide), hnot ':' (by decide), hr, Bool.or_self]
  rfl

theorem anonymous?_reads (hb : '\x7d' ∉ body) (h : anonymous? body = some r) :
    ∃ gs, Reads Grammar.anonymous.pattern (braced body) gs := by
  unfold anonymous? at h
  simp only [Option.ite_none_left_eq_some, Bool.or_eq_true, not_or, List.contains_iff_mem,
    Option.map_eq_some_iff] at h
  obtain ⟨⟨hopen, hcolon⟩, _, hr, -⟩ := h
  have hplain : ∀ c ∈ (cut '|' body).1, isPlain c = true := by
    intro c hc
    obtain ⟨hmem, hbar⟩ := mem_of_mem_cut hc
    simp only [isPlain, Bool.and_eq_true, bne_iff_ne]
    exact ⟨⟨⟨fun e => hopen (e ▸ hc), fun e => hb (e ▸ hmem)⟩, fun e => hcolon (e ▸ hc)⟩, hbar⟩
  obtain ⟨gs, hgs⟩ := choice_complete (by decide) isPlain_of_isBlank hb hplain
    (Option.isSome_iff_exists.2 ⟨_, hr⟩)
  exact ⟨gs, reads_opened.2 ⟨_, rfl, hgs⟩⟩

theorem reads_radio (h : Reads Grammar.radio.pattern text gs) :
    ∃ body, text = braced body ∧ '\x7d' ∉ body ∧
      ∃ r, radio? body = some r ∧ Grammar.radio.build gs = some r := by
  obtain ⟨a, b, rest, ha, hb, rfl, hrest⟩ := reads_tagged.1 h
  obtain ⟨body, rfl, hbody, r, hr, hgs⟩ := choice_isFree_sound hrest
  refine ⟨a ++ "radio".toList ++ b ++ '|' :: body, by simp [braced], ?_, _, ?_,
    by simp only [Grammar.build, hgs]; rfl⟩
  · simp only [List.mem_append, List.mem_cons, not_or]
    exact ⟨⟨⟨ha.not_mem (by decide), by decide⟩, hb.not_mem (by decide)⟩, by decide, hbody⟩
  · simp only [radio?, afterWord?_eq "radio" ha hb (by decide) (by decide), hr, Option.bind_eq_bind,
      Option.bind_some]
    rfl

theorem radio?_reads (hb : '\x7d' ∉ body) (h : radio? body = some r) :
    ∃ gs, Reads Grammar.radio.pattern (braced body) gs := by
  obtain ⟨rest, hword, hafter⟩ := Option.bind_eq_some_iff.1 h
  obtain ⟨_, hr, -⟩ := Option.bind_eq_some_iff.1 hafter
  obtain ⟨a, b, ha, hbl, rfl⟩ := exists_of_afterWord? hword
  obtain ⟨gs, hgs⟩ := choice_isFree_complete (fun hm => hb (by simp [hm]))
    (Option.isSome_iff_exists.2 ⟨_, hr⟩)
  exact ⟨gs, reads_tagged.2 ⟨a, b, _, ha, hbl, by simp [braced], hgs⟩⟩

theorem reads_ai (h : Reads Grammar.ai.pattern text gs) :
    ∃ body, text = braced body ∧ '\x7d' ∉ body ∧
      ∃ r, ai? body = some r ∧ Grammar.ai.build gs = some r := by
  obtain ⟨a, b, rest, ha, hb, rfl, hrest⟩ := reads_tagged.1 h
  simp only [inOrder_cons, inOrder_nil, reads_seq, reads_group, reads_oneOrMore_char,
    reads_blanks] at hrest
  obtain ⟨c, _, _, _, rfl, rfl, ⟨hc, rfl⟩, prompt, _, _, _, rfl, rfl, ⟨_, rfl, hne, hp, rfl⟩,
    d, tail, _, ks, rfl, rfl, ⟨hd, rfl⟩, ht⟩ := hrest
  have hfront : ∀ x ∈ c ++ prompt ++ d, isFree x = true := by
    intro x hx
    simp only [List.mem_append] at hx
    rcases hx with (hx | hx) | hx
    · exact isFree_of_isBlank x (hc x hx)
    · exact hp x hx
    · exact isFree_of_isBlank x (hd x hx)
  obtain ⟨ws, rest, body, default, hws, hbody, hbrace, hcut, hdef, hks⟩ := ending_sound hfront ht
  refine ⟨a ++ "ai".toList ++ b ++ '|' :: body, ?_, ?_,
    .ai (String.ofList (trim prompt)) default, ?_, ?_⟩
  · simp only [List.append_assoc] at hbody
    simp [braced, hbody]
  · simp only [List.mem_append, List.mem_cons, not_or]
    exact ⟨⟨⟨ha.not_mem (by decide), by decide⟩, hb.not_mem (by decide)⟩, by decide, hbrace⟩
  · rw [List.append_assoc] at hcut
    have hfull : (c ++ prompt ++ (d ++ ws)).isEmpty = false := by
      rw [List.isEmpty_eq_false_iff]
      simp [hne]
    simp only [ai?, afterWord?_eq "ai" ha hb (by decide) (by decide), hcut, hdef,
      Option.bind_eq_bind, Option.bind_some, hfull, trim_padded hc (hd.append hws)]
    rfl
  · simp only [Grammar.build, List.nil_append, List.cons_append, hks, Option.map_some]

theorem ai?_reads (hb : '\x7d' ∉ body) (h : ai? body = some r) :
    ∃ gs, Reads Grammar.ai.pattern (braced body) gs := by
  obtain ⟨rest, hword, hafter⟩ := Option.bind_eq_some_iff.1 h
  obtain ⟨default, hdef, hsome⟩ := Option.bind_eq_some_iff.1 hafter
  obtain ⟨a, b, ha, hbl, rfl⟩ := exists_of_afterWord? hword
  have hrest : '\x7d' ∉ rest := fun hm => hb (by simp [hm])
  have hne : (cut '|' rest).1 ≠ [] := by
    intro he
    simp [he] at hsome
  have hfree : ∀ c ∈ (cut '|' rest).1, isFree c = true := by
    intro c hc
    obtain ⟨hmem, hbar⟩ := mem_of_mem_cut hc
    exact Bool.and_eq_true_iff.2 ⟨bne_iff_ne.2 fun e => hrest (e ▸ hmem), bne_iff_ne.2 hbar⟩
  obtain ⟨tail, ks, he, ht⟩ := ending_complete hrest (Option.isSome_iff_exists.2 ⟨_, hdef⟩)
  exact ⟨_, reads_tagged.2 ⟨a, b, _, ha, hbl, by simp [braced, he],
    .seq (reads_blanks.2 ⟨.nil, rfl⟩) <|
      .seq (.group (reads_oneOrMore_char.2 ⟨hne, hfree, rfl⟩)) <|
        .seq (reads_blanks.2 ⟨.nil, rfl⟩) ht⟩⟩

theorem isSimpleChar_eq (c : Char) : isSimpleChar c = (c != '\x7d' && !isStructural c) := by
  unfold isSimpleChar isStructural
  by_cases h : c = '\x7d' <;> simp [h, bne, Bool.and_assoc, Bool.and_left_comm]

/-- What the simple grammar's pattern takes. A reserved word is taken too, but builds nothing. -/
theorem reads_simple (h : Reads Grammar.simple.pattern text gs) :
    ∃ body, text = braced body ∧ '\x7d' ∉ body ∧ '\x7b' ∉ body ∧
      Grammar.simple.build gs = simple? body := by
  obtain ⟨rest, rfl, hrest⟩ := reads_opened.1 h
  simp only [inOrder_cons, inOrder_nil, reads_seq, reads_group, reads_oneOrMore_char, reads_blanks,
    reads_closing] at hrest
  obtain ⟨a, _, _, _, rfl, rfl, ⟨ha, rfl⟩, name, _, _, _, rfl, rfl, ⟨_, rfl, hne, hname, rfl⟩, b, _,
    _, _, rfl, rfl, ⟨hb, rfl⟩, rfl, rfl⟩ := hrest
  have hall : ∀ c ∈ a ++ name ++ b, isSimpleChar c = true := by
    intro c hc
    simp only [List.mem_append] at hc
    rcases hc with (hc | hc) | hc
    · exact isSimpleChar_of_isBlank c (ha c hc)
    · exact hname c hc
    · exact isSimpleChar_of_isBlank c (hb c hc)
  have hnot : ∀ c, isSimpleChar c = false → c ∉ a ++ name ++ b :=
    fun c hc hm => by simp [hall c hm] at hc
  refine ⟨a ++ name ++ b, by simp [braced], hnot _ (by decide), hnot _ (by decide), ?_⟩
  have hany : (a ++ name ++ b).any isStructural = false := by
    rw [List.any_eq_false]
    intro c hc
    have := hall c hc
    rw [isSimpleChar_eq, Bool.and_eq_true] at this
    simpa using this.2
  simp only [Grammar.build, simple?, List.nil_append, List.append_nil, hany, trim_padded ha hb,
    Bool.false_or]

theorem simple?_reads (hb : '\x7d' ∉ body) (h : simple? body = some r) :
    ∃ gs, Reads Grammar.simple.pattern (braced body) gs := by
  simp only [simple?, Option.ite_none_left_eq_some, Bool.or_eq_true, not_or, Bool.not_eq_true,
    List.any_eq_false] at h
  obtain ⟨⟨⟨hstruct, hempty⟩, -⟩, -⟩ := h
  have hne : body ≠ [] := by
    rintro rfl
    simp at hempty
  have hall : ∀ c ∈ body, isSimpleChar c = true := by
    intro c hc
    rw [isSimpleChar_eq, Bool.and_eq_true, bne_iff_ne]
    exact ⟨fun e => hb (e ▸ hc), by simpa using hstruct c hc⟩
  refine ⟨[body], reads_opened.2 ⟨_, rfl, ?_⟩⟩
  exact .seq (reads_blanks.2 ⟨.nil, rfl⟩) <|
    .seq (.group (reads_oneOrMore_char.2 ⟨hne, hall, rfl⟩)) <|
      .seq (reads_blanks.2 ⟨.nil, rfl⟩) (reads_closing.2 ⟨rfl, rfl⟩)

/-- What a grammar's pattern takes is a body in its braces without another closing brace. However
the groups were found, they build what the grammar reads in the body. -/
theorem reads_body {g : Grammar} (h : Reads g.pattern text gs) :
    ∃ body, text = braced body ∧ '\x7d' ∉ body ∧ g.build gs = g.ofBody? body ∧
      ((g.ofBody? body).isSome ∨ '\x7b' ∉ body) := by
  cases g with
  | named =>
    obtain ⟨body, rfl, hb, r, hr, hgs⟩ := reads_named h
    exact ⟨body, rfl, hb, hgs.trans hr.symm, Or.inl (Option.isSome_iff_exists.2 ⟨r, hr⟩)⟩
  | anonymous =>
    obtain ⟨body, rfl, hb, r, hr, hgs⟩ := reads_anonymous h
    exact ⟨body, rfl, hb, hgs.trans hr.symm, Or.inl (Option.isSome_iff_exists.2 ⟨r, hr⟩)⟩
  | radio =>
    obtain ⟨body, rfl, hb, r, hr, hgs⟩ := reads_radio h
    exact ⟨body, rfl, hb, hgs.trans hr.symm, Or.inl (Option.isSome_iff_exists.2 ⟨r, hr⟩)⟩
  | ai =>
    obtain ⟨body, rfl, hb, r, hr, hgs⟩ := reads_ai h
    exact ⟨body, rfl, hb, hgs.trans hr.symm, Or.inl (Option.isSome_iff_exists.2 ⟨r, hr⟩)⟩
  | simple =>
    obtain ⟨body, rfl, hb, hopen, hgs⟩ := reads_simple h
    exact ⟨body, rfl, hb, hgs, Or.inr hopen⟩

theorem braced_injective : Function.Injective braced := by
  intro a b h
  simpa [braced] using h

/-- What a grammar reads in a body, its pattern takes, and the groups build it. -/
theorem body_reads {g : Grammar} (hb : '\x7d' ∉ body) (h : g.ofBody? body = some r) :
    ∃ gs, Reads g.pattern (braced body) gs ∧ g.build gs = some r := by
  obtain ⟨gs, hgs⟩ : ∃ gs, Reads g.pattern (braced body) gs := by
    cases g with
    | named => exact named?_reads hb h
    | anonymous => exact anonymous?_reads hb h
    | radio => exact radio?_reads hb h
    | ai => exact ai?_reads hb h
    | simple => exact simple?_reads hb h
  obtain ⟨body', he, -, hbuild, -⟩ := reads_body hgs
  rw [braced_injective he] at h
  exact ⟨gs, hgs, hbuild.trans h⟩

end

end Scaffold.Template
