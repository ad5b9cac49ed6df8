import Mathlib.Tactic
import Scaffold.Glob
import Scaffold.Proofs.Text.Split

/-!
# What patterns stand for

`Stands items cs` says without a search that items stand for a text, and `holds` decides it
(`holds_iff`). A pattern is read from left to right, and a slash in it ends nothing and begins
nothing as long as no bracket is closed behind it: the items of the pattern are those of its two
sides (`parse_append`). So a pattern that ends in `/**` stands for all that lies below a path for
which it stands, or for which it stands without its end (`excludes_below`).
-/

namespace Scaffold.Glob
open Scaffold.Text

/-! ### The text of items -/

/-- The items stand for the whole text: a star for any part of it, any other item for one
character. -/
inductive Stands : List Item → List Char → Prop
  | nil : Stands [] []
  | star {items : List Item} {cs : List Char} (part : List Char) : Stands items cs →
      Stands (.star :: items) (part ++ cs)
  | one {item : Item} {items : List Item} {c : Char} {cs : List Char} : item.accepts c = true →
      Stands items cs → Stands (item :: items) (c :: cs)

section

variable {item : Item} {items : List Item} {c : Char} {cs : List Char}

theorem stands_nil_iff : Stands [] cs ↔ cs = [] := by
  constructor
  · rintro ⟨⟩
    rfl
  · rintro rfl
    exact .nil

theorem stands_star_iff :
    Stands (.star :: items) cs ↔ ∃ suffix, suffix <:+ cs ∧ Stands items suffix := by
  constructor
  · intro h
    cases h with
    | star part h => exact ⟨_, List.suffix_append part _, h⟩
    | one hc _ => cases hc
  · rintro ⟨suffix, ⟨part, rfl⟩, h⟩
    exact .star part h

theorem stands_cons_iff (hitem : item ≠ .star) :
    Stands (item :: items) (c :: cs) ↔ item.accepts c = true ∧ Stands items cs := by
  constructor
  · intro h
    generalize hcs : c :: cs = text at h
    cases h with
    | star part h => exact absurd rfl hitem
    | one hc h =>
      cases hcs
      exact ⟨hc, h⟩
  · rintro ⟨hc, h⟩
    exact .one hc h

theorem not_stands_nil (hitem : item ≠ .star) : ¬ Stands (item :: items) [] := by
  intro h
  generalize hcs : ([] : List Char) = text at h
  cases h with
  | star part h => exact hitem rfl
  | one hc h => cases hcs

theorem anySuffix_iff (p : List Char → Bool) (cs : List Char) :
    anySuffix p cs = true ↔ ∃ suffix, suffix <:+ cs ∧ p suffix = true := by
  induction cs with
  | nil => simp [anySuffix]
  | cons c cs ih =>
    rw [anySuffix, Bool.or_eq_true, ih]
    constructor
    · rintro (h | ⟨suffix, hs, h⟩)
      · exact ⟨_, List.suffix_refl _, h⟩
      · exact ⟨suffix, hs.trans (List.suffix_cons c cs), h⟩
    · rintro ⟨suffix, hs, h⟩
      rcases List.suffix_cons_iff.1 hs with rfl | hs
      · exact Or.inl h
      · exact Or.inr ⟨suffix, hs, h⟩

/-- The search finds out whether items stand for a text. -/
theorem holds_iff (items : List Item) (cs : List Char) :
    holds items cs = true ↔ Stands items cs := by
  induction items generalizing cs with
  | nil => rw [holds, List.isEmpty_iff, stands_nil_iff]
  | cons item items ih =>
    by_cases hitem : item = .star
    · subst hitem
      rw [stands_star_iff]
      cases items with
      | nil => exact iff_of_true rfl ⟨[], List.nil_suffix, .nil⟩
      | cons next items =>
        rw [holds, anySuffix_iff]
        · exact exists_congr fun suffix => and_congr_right fun _ => ih suffix
        · exact List.cons_ne_nil next items
    · cases cs with
      | nil =>
        rw [holds]
        · exact iff_of_false (by simp) (not_stands_nil hitem)
        · exact fun he _ => hitem he
        · exact hitem
      | cons c cs =>
        rw [holds, Bool.and_eq_true, ih, stands_cons_iff hitem]
        · exact fun he _ => hitem he
        · exact hitem

theorem Stands.append {items' : List Item} {cs' : List Char} (h : Stands items cs)
    (h' : Stands items' cs') : Stands (items ++ items') (cs ++ cs') := by
  induction h with
  | nil => exact h'
  | star part _ ih =>
    rw [List.append_assoc]
    exact .star part ih
  | one hc _ ih => exact .one hc ih

/-- A star stands for any text. -/
theorem stands_star (cs : List Char) : Stands [.star] cs :=
  stands_star_iff.2 ⟨[], List.nil_suffix, .nil⟩

/-- A star at the end takes what is added. -/
theorem Stands.append_star (h : Stands (items ++ [.star]) cs) (more : List Char) :
    Stands (items ++ [.star]) (cs ++ more) := by
  induction items generalizing cs with
  | nil => exact stands_star _
  | cons item items ih =>
    generalize hall : item :: items ++ [.star] = all at h
    cases h with
    | nil => cases hall
    | star part h =>
      cases hall
      rw [List.append_assoc]
      exact .star part (ih h)
    | one hc h =>
      cases hall
      exact .one hc (ih h)

end

/-! ### The items of a pattern -/

/-! #### Brackets -/

/-- What belongs to a set although it negates it or closes a bracket. -/
def frontOf (cs : List Char) : List Char :=
  let front := if cs.head? == some '!' then ['!'] else []
  if (cs.drop front.length).head? == some ']' then front ++ [']'] else front

/-- The text of a set that begins with `front`, up to the closing bracket, and the rest. -/
def closedBehind (front rest : List Char) : Option (List Char × List Char) :=
  match cut ']' rest with
  | (body, some rest) => some (front ++ body, rest)
  | (_, none) => none

theorem bracketed?_eq (cs : List Char) :
    bracketed? cs = closedBehind (frontOf cs) (cs.drop (frontOf cs).length) := rfl

theorem frontOf_append (cs tail : List Char) :
    frontOf (cs ++ '/' :: tail) = frontOf cs ∧ (frontOf cs).length ≤ cs.length := by
  have hclosing : ∀ rest : List Char,
      ((rest ++ '/' :: tail).head? == some ']') = (rest.head? == some ']') := by
    intro rest
    cases rest <;> rfl
  rcases cs with _ | ⟨c, cs⟩
  · exact ⟨rfl, le_rfl⟩
  · by_cases hneg : c = '!'
    · subst hneg
      have hfront : ∀ rest, frontOf ('!' :: rest) =
          if rest.head? == some ']' then ['!', ']'] else ['!'] := fun rest => rfl
      rw [List.cons_append, hfront, hfront, hclosing]
      refine ⟨rfl, ?_⟩
      cases cs with
      | nil => exact le_rfl
      | cons d cs => split <;> simp
    · have hfront : ∀ rest, frontOf (c :: rest) = if c = ']' then [']'] else [] := by
        intro rest
        simp [frontOf, hneg]
      rw [List.cons_append, hfront, hfront]
      refine ⟨rfl, ?_⟩
      split <;> simp

/-- A closed bracket is followed by less than it was found in. -/
theorem length_of_bracketed? {cs body rest : List Char} (h : bracketed? cs = some (body, rest)) :
    rest.length < cs.length := by
  rw [bracketed?_eq, closedBehind] at h
  rcases cut_cases ']' (cs.drop (frontOf cs).length) with ⟨-, hcut⟩ | ⟨xs, ys, he, -, hcut⟩
  · rw [hcut] at h
    cases h
  · rw [hcut] at h
    cases h
    have hlength := congrArg List.length he
    simp only [List.length_drop, List.length_append, List.length_cons] at hlength
    omega

/-! #### One item after the other -/

/-- The first item of a pattern, and the pattern behind it. -/
def firstItem (c : Char) (cs : List Char) : Item × List Char :=
  if c = '*' then (.star, cs.dropWhile (· == '*'))
  else if c = '?' then (.any, cs)
  else if c = '[' then
    match bracketed? cs with
    | some (body, rest) => (setOf body, rest)
    | none => (.char '[', cs)
  else (.char c, cs)

theorem itemsFrom_cons (fuel : Nat) (c : Char) (cs : List Char) :
    itemsFrom (fuel + 1) (c :: cs) = (firstItem c cs).1 :: itemsFrom fuel (firstItem c cs).2 := by
  unfold firstItem
  by_cases hstar : c = '*'
  · subst hstar
    rfl
  · by_cases hany : c = '?'
    · subst hany
      rfl
    · by_cases hset : c = '['
      · subst hset
        cases hb : bracketed? cs <;> simp [itemsFrom, hb]
      · simp [itemsFrom, hstar, hany, hset]

theorem length_firstItem_le (c : Char) (cs : List Char) :
    (firstItem c cs).2.length ≤ cs.length := by
  unfold firstItem
  split
  · exact (List.dropWhile_sublist _).length_le
  · split
    · exact le_rfl
    · split
      · split
        · next hb => exact (length_of_bracketed? hb).le
        · exact le_rfl
      · exact le_rfl

/-- More fuel than characters changes nothing. -/
theorem itemsFrom_of_le {fuel : Nat} {cs : List Char} (h : cs.length ≤ fuel) :
    itemsFrom fuel cs = parse cs := by
  have hany : ∀ fuel fuel' cs, cs.length ≤ fuel → cs.length ≤ fuel' →
      itemsFrom fuel cs = itemsFrom fuel' cs := by
    intro fuel
    induction fuel with
    | zero =>
      intro fuel' cs hcs _
      rw [List.length_eq_zero_iff.1 (Nat.le_zero.1 hcs)]
      cases fuel' <;> rfl
    | succ fuel ih =>
      intro fuel' cs hcs hcs'
      cases cs with
      | nil => cases fuel' <;> rfl
      | cons c cs =>
        obtain ⟨fuel', rfl⟩ := Nat.exists_eq_add_one.2 (Nat.zero_lt_of_lt hcs')
        have hless := length_firstItem_le c cs
        simp only [List.length_cons] at hcs hcs'
        rw [itemsFrom_cons, itemsFrom_cons, ih fuel' _ (by omega) (by omega)]
  exact hany fuel cs.length cs h le_rfl

theorem parse_cons (c : Char) (cs : List Char) :
    parse (c :: cs) = (firstItem c cs).1 :: parse (firstItem c cs).2 := by
  rw [parse, List.length_cons, itemsFrom_cons, itemsFrom_of_le (length_firstItem_le c cs)]

section

variable {tail : List Char} (htail : ']' ∉ tail)

include htail

/-- A slash with no closing bracket behind it is no part of a bracket. -/
theorem bracketed?_append (cs : List Char) :
    bracketed? (cs ++ '/' :: tail) =
      (bracketed? cs).map fun (body, rest) => (body, rest ++ '/' :: tail) := by
  obtain ⟨hfront, hlength⟩ := frontOf_append cs tail
  rw [bracketed?_eq, bracketed?_eq, hfront, List.drop_append_of_le_length hlength]
  unfold closedBehind
  rcases cut_cases ']' (cs.drop (frontOf cs).length) with ⟨hn, hc⟩ | ⟨xs, ys, hrest, hn, hc⟩
  · have hnone : ']' ∉ cs.drop (frontOf cs).length ++ '/' :: tail := by simp [hn, htail]
    rw [hc, cut_of_not_mem hnone]
    rfl
  · rw [hc, hrest, List.append_assoc, List.cons_append, cut_append hn]
    rfl

theorem firstItem_append (c : Char) (cs : List Char) :
    firstItem c (cs ++ '/' :: tail) =
      ((firstItem c cs).1, (firstItem c cs).2 ++ '/' :: tail) := by
  unfold firstItem
  by_cases hstar : c = '*'
  · rw [if_pos hstar, if_pos hstar, List.dropWhile_append]
    split
    · next hall =>
      rw [List.isEmpty_iff.1 hall]
      rfl
    · rfl
  · rw [if_neg hstar, if_neg hstar, bracketed?_append htail]
    by_cases hany : c = '?'
    · rw [if_pos hany, if_pos hany]
    · by_cases hset : c = '['
      · rw [if_neg hany, if_neg hany, if_pos hset, if_pos hset]
        cases bracketed? cs <;> rfl
      · rw [if_neg hany, if_neg hany, if_neg hset, if_neg hset]

/-- A slash with no closing bracket behind it parts the items of a pattern. -/
theorem parse_append (cs : List Char) :
    parse (cs ++ '/' :: tail) = parse cs ++ parse ('/' :: tail) := by
  induction hn : cs.length using Nat.strong_induction_on generalizing cs with
  | _ n ih =>
    subst hn
    cases cs with
    | nil => rfl
    | cons c cs =>
      have hless := length_firstItem_le c cs
      rw [List.cons_append, parse_cons, firstItem_append htail, parse_cons,
        ih _ (Nat.lt_succ_of_le hless) _ rfl]
      rfl

end

/-! ### What lies below -/

/-- What a pattern with `/**` behind it stands for, it stands for with more behind that. -/
theorem stands_longer {cs path : List Char} (h : Stands (parse (cs ++ "/**".toList)) path)
    (more : List Char) : Stands (parse (cs ++ "/**".toList)) (path ++ more) := by
  have hstars : ']' ∉ ['*', '*'] := by decide
  have hitems : parse (cs ++ "/**".toList) = parse cs ++ [.char '/'] ++ [.star] := by
    rw [List.append_assoc]
    exact parse_append hstars cs
  rw [hitems] at h ⊢
  exact h.append_star more

/-- A pattern with `/**` behind it stands for what lies below that for which the pattern stands. -/
theorem stands_below {cs path : List Char} (h : Stands (parse cs) path) (more : List Char) :
    Stands (parse (cs ++ "/**".toList)) (path ++ '/' :: more) := by
  have hstars : ']' ∉ ['*', '*'] := by decide
  have hitems : parse (cs ++ "/**".toList) = parse cs ++ [.char '/', .star] :=
    parse_append hstars cs
  rw [hitems]
  exact h.append (.one rfl (stands_star more))

/-- A pattern stands for a path as it is, or without `**/` in front. -/
theorem matchesPath_iff (pattern path : String) :
    matchesPath pattern path = true ↔ Stands (parse pattern.toList) path.toList ∨
      ∃ cs, pattern.toList = "**/".toList ++ cs ∧ Stands (parse cs) path.toList := by
  rw [matchesPath, Bool.or_eq_true, Bool.and_eq_true, matchesText, holds_iff,
    List.isPrefixOf_iff_prefix]
  refine or_congr_right ?_
  constructor
  · rintro ⟨⟨cs, hcs⟩, h⟩
    refine ⟨cs, hcs.symm, ?_⟩
    rw [matchesText, holds_iff, ← hcs, String.toList_ofList] at h
    exact h
  · rintro ⟨cs, hcs, h⟩
    refine ⟨⟨cs, hcs.symm⟩, ?_⟩
    rw [matchesText, holds_iff, hcs, String.toList_ofList]
    exact h

/-- A path is excluded by a pattern that stands for it, or that does with `/**` behind it. -/
theorem excludes_iff (patterns : List String) (path : String) :
    excludes patterns path = true ↔ ∃ pattern ∈ patterns, matchesPath pattern path = true ∨
      ∃ front, pattern = front ++ "/**" ∧ matchesPath front path = true := by
  simp only [excludes, List.any_eq_true, Bool.or_eq_true, Bool.and_eq_true,
    List.isSuffixOf_iff_suffix]
  refine exists_congr fun pattern => and_congr_right fun _ => or_congr_right ?_
  constructor
  · rintro ⟨⟨cs, hcs⟩, h⟩
    have hfront : pattern.toList.take (pattern.length - 3) = cs := by
      rw [← String.length_toList, ← hcs, List.length_append]
      exact List.take_left' (by simp)
    rw [hfront] at h
    refine ⟨String.ofList cs, ?_, h⟩
    rw [← String.toList_inj, String.toList_append, String.toList_ofList, hcs]
  · rintro ⟨front, rfl, h⟩
    refine ⟨⟨front.toList, by simp⟩, ?_⟩
    have hfront : (front ++ "/**").toList.take ((front ++ "/**").length - 3) = front.toList := by
      rw [← String.length_toList, String.toList_append, List.length_append]
      exact List.take_left' (by simp)
    rwa [hfront, String.ofList_toList]

/-- A pattern in `**/`, with `/**` behind it, has the pattern between them, or it is the two of them
sharing the slash. -/
theorem append_eq_append_cases {cs tail : List Char}
    (h : cs ++ "/**".toList = "**/".toList ++ tail) :
    (∃ inner, cs = "**/".toList ++ inner ∧ tail = inner ++ "/**".toList) ∨ tail = ['*', '*'] := by
  rcases cs with _ | ⟨a, _ | ⟨b, _ | ⟨c, inner⟩⟩⟩
  · simp at h
  · simp at h
  · have hparts : '*' = a ∧ '*' = b ∧ tail = ['*', '*'] := by simpa using h.symm
    exact Or.inr hparts.2.2
  · obtain ⟨rfl, rfl, rfl, htail⟩ : a = '*' ∧ b = '*' ∧ c = '/' ∧
        inner ++ ['/', '*', '*'] = tail := by
      simpa using h
    exact Or.inl ⟨inner, rfl, htail.symm⟩

/-- What lies below an excluded path is excluded, if each pattern ends in `/**`. -/
theorem excludes_below {patterns : List String}
    (hpatterns : ∀ pattern ∈ patterns, ∃ front, pattern = front ++ "/**") {path : String}
    (h : excludes patterns path = true) (rest : String) :
    excludes patterns (path ++ "/" ++ rest) = true := by
  obtain ⟨pattern, hmem, h⟩ := (excludes_iff patterns path).1 h
  obtain ⟨front, rfl⟩ := hpatterns pattern hmem
  refine (excludes_iff patterns _).2 ⟨front ++ "/**", hmem, Or.inl ((matchesPath_iff _ _).2 ?_)⟩
  have htext : (front ++ "/**").toList = front.toList ++ "/**".toList := String.toList_append
  have hbelow : (path ++ "/" ++ rest).toList = path.toList ++ '/' :: rest.toList := by simp
  rw [htext, hbelow]
  rcases h with h | ⟨front', hfront, h⟩
  · -- the whole pattern stands for the path
    rcases (matchesPath_iff _ _).1 h with h | ⟨cs, hcs, h⟩ <;> rw [htext] at *
    · exact Or.inl (stands_longer h _)
    · refine Or.inr ⟨cs, hcs, ?_⟩
      rcases append_eq_append_cases hcs with ⟨inner, -, rfl⟩ | rfl
      · exact stands_longer h _
      · exact stands_star _
  · -- what is in front of the end does
    obtain rfl : front = front' := by
      rw [← String.toList_inj]
      simpa using congrArg String.toList hfront
    rcases (matchesPath_iff _ _).1 h with h | ⟨cs, hcs, h⟩
    · exact Or.inl (stands_below h _)
    · exact Or.inr ⟨cs ++ "/**".toList, by rw [hcs, List.append_assoc], stands_below h _⟩

end Scaffold.Glob
