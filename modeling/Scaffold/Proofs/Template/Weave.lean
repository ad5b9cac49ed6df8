import Scaffold.Proofs.Template.Scan
import Scaffold.Template.Fill

/-!
# A template as its tokens and what is between them

A `Slot` is a token with the text in front of it and a text to replace it. `weave` puts slots
together, with one or the other in the place of the tokens.

* `exists_slots` - every template is woven from its tokens;
* `substituteFrom_weave` - substituting some of the tokens changes these slots and nothing else;
* `outside_eq_weave` - what stands outside the tokens is woven with nothing in their place.
-/

namespace Scaffold.Template

/-- A token, the text between it and the token before it, and a text to replace it. -/
structure Slot where
  front : List Char
  token : Token
  text : String

namespace Slot

/-- The token's own text. -/
def raw (s : Slot) : List Char := s.token.raw.toList

/-- The text that replaces the token. -/
def filled (s : Slot) : List Char := s.text.toList

/-- Filled by a selection. -/
def isChoice (s : Slot) : Bool := s.token.isChoice

/-- What the selections leave in the place of the token. -/
def chosen (s : Slot) : List Char := if s.isChoice then s.filled else s.raw

end Slot

/-- Slots one after the other and a text behind them, with the tokens' places taken by `fill`. -/
def weave (fill : Slot → List Char) (slots : List Slot) (last : List Char) : List Char :=
  slots.flatMap (fun s => s.front ++ fill s) ++ last

/-- Each token has the place that the texts before it give it, the first text starting at
`place`. -/
def Laid (place : Nat) : List Slot → Prop
  | [] => True
  | s :: slots => s.token.start = place + s.front.length ∧ Laid s.token.stop slots

@[simp] theorem weave_nil (fill : Slot → List Char) (last : List Char) :
    weave fill [] last = last := rfl

@[simp] theorem weave_cons (fill : Slot → List Char) (s : Slot) (slots : List Slot)
    (last : List Char) :
    weave fill (s :: slots) last = s.front ++ fill s ++ weave fill slots last := by
  simp [weave]

theorem Slot.length_raw (s : Slot) : s.token.start + s.raw.length = s.token.stop := by
  rw [Slot.raw, String.length_toList, Token.stop]

/-! ### The slots of a template -/

theorem slice_append_drop {cs : List Char} {s e : Nat} (h : s ≤ e) :
    slice cs s e ++ cs.drop e = cs.drop s := by
  have hdrop : cs.drop e = (cs.drop s).drop (e - s) := by
    rw [List.drop_drop]
    congr 1
    omega
  rw [slice, List.drop_take, hdrop, List.take_append_drop]

/-- Tokens that follow one another in a text have slots from which the text is woven. -/
theorem exists_slots {cs : List Char} {place : Nat} {tokens : List Token} {texts : List String}
    (hlen : texts.length = tokens.length) (hplace : place ≤ cs.length)
    (hpair : tokens.Pairwise fun t u => t.stop ≤ u.start)
    (hwithin : ∀ t ∈ tokens, place ≤ t.start ∧ t.stop ≤ cs.length ∧
      t.raw.toList = slice cs t.start t.stop) :
    ∃ slots last, slots.map Slot.token = tokens ∧ slots.map Slot.text = texts ∧
      Laid place slots ∧ cs.drop place = weave Slot.raw slots last := by
  -- `place` is where the last token ended
  induction tokens generalizing place texts with
  | nil =>
    obtain rfl := List.length_eq_zero_iff.1 hlen
    exact ⟨[], cs.drop place, rfl, rfl, trivial, rfl⟩
  | cons t tokens ih =>
    obtain ⟨text, texts, rfl⟩ := List.exists_cons_of_length_eq_add_one hlen
    obtain ⟨hstart, hstop, hraw⟩ := hwithin t List.mem_cons_self
    obtain ⟨hnext, hpair⟩ := List.pairwise_cons.1 hpair
    obtain ⟨slots, last, htokens, htexts, hlaid, hrest⟩ := ih (Nat.succ.inj hlen) hstop hpair
      fun u hu => ⟨hnext u hu, (hwithin u (List.mem_cons_of_mem t hu)).2⟩
    have hle : t.start ≤ t.stop := Nat.le_add_right _ _
    refine ⟨⟨slice cs place t.start, t, text⟩ :: slots, last, ?_, ?_, ⟨?_, hlaid⟩, ?_⟩
    · rw [List.map_cons, htokens]
    · rw [List.map_cons, htexts]
    · simp only [slice, List.length_drop, List.length_take]
      omega
    · -- the text splits where the token starts and where it ends
      rw [weave_cons, Slot.raw, hraw, ← hrest, List.append_assoc, slice_append_drop hle,
        slice_append_drop hstart]

/-- A template is woven from its tokens, or from some of them, whatever texts are to replace
them. -/
theorem exists_slots_scan {template : String} {tokens : List Token} {texts : List String}
    (hsub : tokens.Sublist (scan template)) (hlen : texts.length = tokens.length) :
    ∃ slots last, slots.map Slot.token = tokens ∧ slots.map Slot.text = texts ∧
      Laid 0 slots ∧ template.toList = weave Slot.raw slots last := by
  refine exists_slots hlen (Nat.zero_le _)
    ((pairwise_tokensFrom 0 template.toList).sublist hsub) ?_
  intro t ht
  obtain ⟨g, hs⟩ := mem_scanChars.1 (hsub.subset ht)
  exact ⟨Nat.zero_le _, hs.within, hs.raw⟩

/-! ### Substituting -/

section

variable {place : Nat} {before : List Char} {t : Token}

/-- The first token is replaced, with the text before it left as it is. -/
theorem substituteFrom_cons (ht : t.start = place + before.length) (text : String)
    (rest : List Char) (reps : List (Token × String)) :
    substituteFrom place (before ++ t.raw.toList ++ rest) ((t, text) :: reps) =
      before ++ text.toList ++ substituteFrom t.stop rest reps := by
  have hstart : t.start - place = before.length := by omega
  have hstop : t.stop - place = (before ++ t.raw.toList).length := by
    rw [List.length_append, String.length_toList, Token.stop]
    omega
  rw [substituteFrom, hstart, hstop, List.drop_left, List.append_assoc before, List.take_left]

/-- Substituting the tokens that `p` picks fills their slots and leaves the others as they are. -/
theorem substituteFrom_weave (p : Slot → Bool) (place : Nat) (before : List Char)
    {slots : List Slot} (last : List Char) (h : Laid (place + before.length) slots) :
    substituteFrom place (before ++ weave Slot.raw slots last)
        ((slots.filter p).map fun s => (s.token, s.text)) =
      before ++ weave (fun s => if p s then s.filled else s.raw) slots last := by
  -- `before` collects what is left as it is since the last token that was replaced
  induction slots generalizing place before with
  | nil => rfl
  | cons s slots ih =>
    obtain ⟨hstart, hlaid⟩ := h
    have hstop := s.length_raw
    simp only [weave_cons, ← List.append_assoc]
    by_cases hp : p s
    · have hfront : s.token.start = place + (before ++ s.front).length := by
        rw [hstart, List.length_append, Nat.add_assoc]
      rw [List.filter_cons_of_pos hp, List.map_cons, Slot.raw, substituteFrom_cons hfront,
        if_pos hp]
      exact congrArg _ (ih s.token.stop [] hlaid)
    · have hnext : place + (before ++ s.front ++ s.raw).length = s.token.stop := by
        simp only [List.length_append]
        omega
      rw [List.filter_cons_of_neg hp, if_neg hp]
      exact ih place _ (hnext ▸ hlaid)

end

/-! ### Outside the tokens -/

/-- The place lies in a token. -/
def Inside (tokens : List Token) (i : Nat) : Prop :=
  ∃ t ∈ tokens, t.start ≤ i ∧ i < t.stop

instance (tokens : List Token) (i : Nat) : Decidable (Inside tokens i) :=
  inferInstanceAs (Decidable (∃ t ∈ tokens, t.start ≤ i ∧ i < t.stop))

/-- The characters of a text that lie in no token, the text starting at `place`. -/
def outsideFrom (tokens : List Token) (place : Nat) (cs : List Char) : List Char :=
  ((cs.zipIdx place).filter fun x => !decide (Inside tokens x.2)).map Prod.fst

/-- The characters of a template that lie in no token. -/
def outside (template : String) : List Char :=
  outsideFrom (scan template) 0 template.toList

theorem inside_cons {t : Token} {tokens : List Token} {i : Nat} :
    Inside (t :: tokens) i ↔ (t.start ≤ i ∧ i < t.stop) ∨ Inside tokens i := by
  simp [Inside]

section

variable {place i : Nat} {slots : List Slot}

theorem Laid.not_inside (h : Laid place slots) (hi : i < place) :
    ¬ Inside (slots.map Slot.token) i := by
  induction slots generalizing place with
  | nil => simp [Inside]
  | cons s slots ih =>
    obtain ⟨hstart, hlaid⟩ := h
    have hstop := s.length_raw
    rw [List.map_cons, inside_cons, not_or]
    exact ⟨by omega, ih hlaid (by omega)⟩

theorem outsideFrom_append (tokens : List Token) (place : Nat) (xs ys : List Char) :
    outsideFrom tokens place (xs ++ ys) =
      outsideFrom tokens place xs ++ outsideFrom tokens (place + xs.length) ys := by
  simp [outsideFrom, List.zipIdx_append]

theorem outsideFrom_eq_self {tokens : List Token} {xs : List Char}
    (h : ∀ i, place ≤ i → i < place + xs.length → ¬ Inside tokens i) :
    outsideFrom tokens place xs = xs := by
  rw [outsideFrom, List.filter_eq_self.2, List.zipIdx_map_fst]
  rintro ⟨c, i⟩ hm
  obtain ⟨hle, hlt, -⟩ := List.mem_zipIdx hm
  simpa using h i hle hlt

theorem outsideFrom_eq_nil {tokens : List Token} {xs : List Char}
    (h : ∀ i, place ≤ i → i < place + xs.length → Inside tokens i) :
    outsideFrom tokens place xs = [] := by
  rw [outsideFrom, List.map_eq_nil_iff, List.filter_eq_nil_iff]
  rintro ⟨c, i⟩ hm
  obtain ⟨hle, hlt, -⟩ := List.mem_zipIdx hm
  simpa using h i hle hlt

theorem outsideFrom_congr {tokens tokens' : List Token} {xs : List Char}
    (h : ∀ i, place ≤ i → (Inside tokens i ↔ Inside tokens' i)) :
    outsideFrom tokens place xs = outsideFrom tokens' place xs := by
  unfold outsideFrom
  congr 1
  refine List.filter_congr fun x hx => ?_
  rw [decide_eq_decide.2 (h x.2 (List.le_snd_of_mem_zipIdx hx))]

theorem outsideFrom_weave (h : Laid place slots) (last : List Char) :
    outsideFrom (slots.map Slot.token) place (weave Slot.raw slots last) =
      weave (fun _ => []) slots last := by
  induction slots generalizing place with
  | nil => exact outsideFrom_eq_self fun i _ _ => by simp [Inside]
  | cons s slots ih =>
    obtain ⟨hstart, hlaid⟩ := h
    have hstop := s.length_raw
    -- in front of the token no later one starts, and behind it only later ones count
    have hfront : outsideFrom (s.token :: slots.map Slot.token) place s.front = s.front := by
      refine outsideFrom_eq_self fun i _ hlt => ?_
      rw [inside_cons, not_or]
      exact ⟨by omega, hlaid.not_inside (by omega)⟩
    have htoken : outsideFrom (s.token :: slots.map Slot.token) s.token.start s.raw = [] :=
      outsideFrom_eq_nil fun i hle hlt => inside_cons.2 (Or.inl ⟨hle, by omega⟩)
    have hrest : outsideFrom (s.token :: slots.map Slot.token) s.token.stop
        (weave Slot.raw slots last) = weave (fun _ => []) slots last := by
      rw [← ih hlaid]
      refine outsideFrom_congr fun i hle => ?_
      rw [inside_cons, or_iff_right (by omega)]
    rw [List.map_cons, weave_cons, List.append_assoc, outsideFrom_append, hfront, ← hstart,
      outsideFrom_append, htoken, hstop, hrest, weave_cons, List.append_nil, List.nil_append]

end

/-- What stands outside the tokens of a template. -/
theorem outside_eq_weave {template : String} {slots : List Slot} {last : List Char}
    (htokens : slots.map Slot.token = scan template) (hlaid : Laid 0 slots)
    (htemplate : template.toList = weave Slot.raw slots last) :
    outside template = weave (fun _ => []) slots last := by
  rw [outside, ← htokens, htemplate]
  exact outsideFrom_weave hlaid last

end Scaffold.Template
