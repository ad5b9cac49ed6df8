import Scaffold.Proofs.Template.Unopened
import Scaffold.Proofs.Template.Weave

/-!
# Resolving a template

`resolve` scans twice: a template for its choices, and what these leave for its names. Where no
double opening braces are left outside the tokens, the second scan finds the names that the first
one found (`fillNames_weave`), so both passes are one replacement of every token by its text
(`exists_woven`). Then

* `resolve_wellBracketed` - a template with all its braces in tokens is resolved in one step;
* `scan_resolve` - nothing is left to resolve;
* `doubled_not_resolved` - but double braces outside the tokens can come to enclose a value.
-/

namespace Scaffold.Template

/-- What replaces the tokens of a template: the value of a name, or else the next selection, the
first of which has the place `i`. -/
def replacements (selections : List Selection) (values : Values) (i : Nat) :
    List Token → List String
  | [] => []
  | t :: tokens =>
    match t.placeholder with
    | .simple name => values.text name :: replacements selections values i tokens
    | _ => renderedAt selections i :: replacements selections values (i + 1) tokens

/-- Every brace of the template lies in a token. -/
def WellBracketed (template : String) : Prop :=
  ∀ x ∈ template.toList.zipIdx, x.1 = '\x7b' ∨ x.1 = '\x7d' → Inside (scan template) x.2

instance (template : String) : Decidable (WellBracketed template) :=
  inferInstanceAs (Decidable (∀ x ∈ template.toList.zipIdx,
    x.1 = '\x7b' ∨ x.1 = '\x7d' → Inside (scan template) x.2))

/-! ### The replacements -/

section

variable {selections : List Selection} {values : Values}

/-- A choice takes the next selection, a name its value. -/
theorem replacements_cons (selections : List Selection) (values : Values) (i : Nat) (t : Token)
    (tokens : List Token) :
    (t.isChoice = true ∧ replacements selections values i (t :: tokens) =
      renderedAt selections i :: replacements selections values (i + 1) tokens) ∨
    ∃ name, t.placeholder = .simple name ∧ t.isChoice = false ∧
      replacements selections values i (t :: tokens) =
        values.text name :: replacements selections values i tokens := by
  cases hp : t.placeholder <;> simp [replacements, Token.isChoice, Placeholder.isSimple, hp]

theorem not_mem_renderedAt (h : ∀ s ∈ selections, '\x7b' ∉ s.render.toList) (i : Nat) :
    '\x7b' ∉ (renderedAt selections i).toList := by
  rw [renderedAt]
  cases hi : selections[i]? with
  | none => exact List.not_mem_nil
  | some s => exact h s (List.mem_of_getElem? hi)

theorem not_mem_text (h : ∀ e ∈ values, '\x7b' ∉ e.2.toList) (name : String) :
    '\x7b' ∉ (values.text name).toList := by
  rw [Values.text]
  cases hname : values.lookup name with
  | none => exact List.not_mem_nil
  | some text =>
    obtain ⟨front, behind, rfl, -⟩ := List.lookup_eq_some_iff.1 hname
    exact h (name, text) (by simp)

theorem length_replacements (selections : List Selection) (values : Values) (i : Nat)
    (tokens : List Token) :
    (replacements selections values i tokens).length = tokens.length := by
  induction tokens generalizing i with
  | nil => rfl
  | cons t tokens ih =>
    rcases replacements_cons selections values i t tokens with ⟨-, he⟩ | ⟨name, -, -, he⟩ <;>
      rw [he, List.length_cons, List.length_cons, ih]

/-- The choices are replaced by the selections in order. -/
theorem text_choices {slots : List Slot} {i : Nat}
    (h : slots.map Slot.text = replacements selections values i (slots.map Slot.token)) :
    (slots.filter Slot.isChoice).map Slot.text =
      (List.range' i (slots.filter Slot.isChoice).length).map (renderedAt selections) := by
  induction slots generalizing i with
  | nil => rfl
  | cons s slots ih =>
    rw [List.map_cons, List.map_cons] at h
    rcases replacements_cons selections values i s.token (slots.map Slot.token) with
      ⟨hc, he⟩ | ⟨name, -, hc, he⟩ <;> rw [he, List.cons.injEq] at h
    · have hs : s.isChoice = true := hc
      rw [List.filter_cons_of_pos hs, List.map_cons, List.length_cons, List.range'_succ,
        List.map_cons, h.1, ih h.2]
    · have hs : ¬ s.isChoice = true := by simp [Slot.isChoice, hc]
      rw [List.filter_cons_of_neg hs, ih h.2]

/-- A slot is filled by some selection or by the value of its name. -/
theorem text_cases {slots : List Slot} {i : Nat}
    (h : slots.map Slot.text = replacements selections values i (slots.map Slot.token)) {s : Slot}
    (hs : s ∈ slots) :
    (s.isChoice = true ∧ ∃ j, s.text = renderedAt selections j) ∨
      ∃ name, s.token.placeholder = .simple name ∧ s.isChoice = false ∧
        s.text = values.text name := by
  induction slots generalizing i with
  | nil => cases hs
  | cons u slots ih =>
    rw [List.map_cons, List.map_cons] at h
    rcases replacements_cons selections values i u.token (slots.map Slot.token) with
      ⟨hc, he⟩ | ⟨name, hname, hc, he⟩ <;> rw [he, List.cons.injEq] at h
    · rcases List.mem_cons.1 hs with rfl | hs
      · exact Or.inl ⟨hc, i, h.1⟩
      · exact ih h.2 hs
    · rcases List.mem_cons.1 hs with rfl | hs
      · exact Or.inr ⟨name, hname, hc, h.1⟩
      · exact ih h.2 hs

end

/-! ### The first pass -/

section

variable {template : String} {selections : List Selection} {values : Values} {slots : List Slot}
  {last : List Char}

/-- The selections fill the choices and leave the names as they are. -/
theorem toList_fillChoices (htokens : slots.map Slot.token = scan template)
    (htexts : slots.map Slot.text = replacements selections values 0 (scan template))
    (hlaid : Laid 0 slots) (htemplate : template.toList = weave Slot.raw slots last) :
    (fillChoices template selections).toList = weave Slot.chosen slots last := by
  have hchoices : choiceTokens template = (slots.filter Slot.isChoice).map Slot.token := by
    rw [choiceTokens, ← htokens, List.filter_map]
    rfl
  rw [← htokens] at htexts
  have hreps : (choiceTokens template).zip
      ((List.range (choiceTokens template).length).map (renderedAt selections)) =
        (slots.filter Slot.isChoice).map fun s => (s.token, s.text) := by
    rw [hchoices, List.length_map, List.range_eq_range', ← text_choices htexts, List.zip_map']
  rw [fillChoices, substitute, String.toList_ofList, hreps, htemplate]
  exact substituteFrom_weave Slot.isChoice 0 [] last hlaid

end

/-! ### The second pass -/

/-- A choice with a text without an opening brace, or a name with its value. -/
inductive Slot.Fits (values : Values) (s : Slot) : Prop
  | choice (hchoice : s.isChoice = true) (hopen : '\x7b' ∉ s.filled)
  | name (body : List Char) (name : String) (hname : s.isChoice = false)
      (hraw : s.raw = braced body) (hclose : '\x7d' ∉ body)
      (hbody : simple? body = some (.simple name)) (htext : s.text = values.text name)

/-- The names among tokens, with their values. -/
def nameReps (values : Values) (tokens : List Token) : List (Token × String) :=
  tokens.filterMap fun t =>
    match t.placeholder with
    | .simple name => some (t, values.text name)
    | _ => none

theorem nameReps_cons {t : Token} {name : String} (h : t.placeholder = .simple name)
    (values : Values) (tokens : List Token) :
    nameReps values (t :: tokens) = (t, values.text name) :: nameReps values tokens := by
  simp [nameReps, h]

theorem toList_fillPlaceholders (text : String) (values : Values) :
    (fillPlaceholders text values).toList =
      substituteFrom 0 text.toList (nameReps values (tokensFrom 0 text.toList)) := by
  have hreps : (simpleTokens text).map (fun x => (x.1, values.text x.2)) =
      nameReps values (scan text) := by
    rw [simpleTokens, List.map_filterMap, nameReps]
    congr 1
    funext t
    cases t.placeholder <;> rfl
  rw [fillPlaceholders, substitute, String.toList_ofList, List.zip_map', hreps]
  rfl

/-- The values fill the names that were there before the selections. -/
theorem fillNames_weave {values : Values} {slots : List Slot} (place : Nat) (before : List Char)
    {last : List Char} (hfits : ∀ s ∈ slots, s.Fits values)
    (hopen : Unopened (before ++ weave (fun _ => []) slots last)) :
    substituteFrom place (before ++ weave Slot.chosen slots last)
        (nameReps values (tokensFrom place (before ++ weave Slot.chosen slots last))) =
      before ++ weave Slot.filled slots last := by
  -- `before` collects what stands in front of the next name
  induction slots generalizing place before with
  | nil =>
    rw [weave_nil] at hopen
    rw [weave_nil, tokensFrom_of_unopened hopen]
    rfl
  | cons s slots ih =>
    have hrest : ∀ s ∈ slots, s.Fits values := fun u hu => hfits u (List.mem_cons_of_mem s hu)
    simp only [weave_cons, ← List.append_assoc, List.append_nil] at hopen ⊢
    cases hfits s List.mem_cons_self with
    | choice hchoice hfilled =>
      rw [Slot.chosen, if_pos hchoice]
      exact ih place _ hrest (hopen.insert hfilled)
    | name body name hname hraw hclose hbody htext =>
      have hchosen : s.chosen = s.raw := if_neg (by simp [hname])
      have htokens := tokensFrom_simple hopen.left hclose hbody place
        (weave Slot.chosen slots last)
      -- the token at its new place
      generalize ht : Token.mk (.simple name) (String.ofList (braced body))
        (place + (before ++ s.front).length) = t at htokens
      have hstart : t.start = place + (before ++ s.front).length := by rw [← ht]
      have hbraced : t.raw.toList = braced body := by rw [← ht, String.toList_ofList]
      have hstop : place + (before ++ s.front).length + (braced body).length = t.stop := by
        rw [Token.stop, hstart, ← String.length_toList, hbraced]
      have hreps := nameReps_cons (t := t) (by rw [← ht]) values
        (tokensFrom t.stop (weave Slot.chosen slots last))
      rw [hchosen, hraw, htokens, hstop, hreps, ← hbraced, substituteFrom_cons hstart, ← htext]
      exact congrArg _ (ih t.stop [] hrest hopen.right)

/-! ### Both passes -/

section

variable {template : String} {selections : List Selection} {values : Values}

/-- Every token of a template is a slot that both passes fill. -/
theorem fits_of_text {slots : List Slot} (htokens : slots.map Slot.token = scan template)
    (htexts : slots.map Slot.text = replacements selections values 0 (scan template))
    (hselections : ∀ s ∈ selections, '\x7b' ∉ s.render.toList) :
    ∀ s ∈ slots, s.Fits values := by
  intro s hs
  rw [← htokens] at htexts
  rcases text_cases htexts hs with ⟨hchoice, i, htext⟩ | ⟨name, hname, hchoice, htext⟩
  · refine .choice hchoice ?_
    rw [Slot.filled, htext]
    exact not_mem_renderedAt hselections i
  · have hmem : s.token ∈ scan template := by
      rw [← htokens]
      exact List.mem_map_of_mem hs
    obtain ⟨g, hstands⟩ := mem_scanChars.1 hmem
    obtain ⟨body, hraw, hclose, hbody⟩ := Grammar.takes_iff.1 hstands.takes
    rw [hname] at hbody
    exact .name body name hchoice (hstands.raw.trans hraw) hclose (simple?_of_ofBody? hbody) htext

/-- Both passes fill every slot of a template, if no double opening braces are outside the tokens
and none come in with a selection. -/
theorem exists_woven (hopen : Unopened (outside template))
    (hselections : ∀ s ∈ selections, '\x7b' ∉ s.render.toList) (values : Values) :
    ∃ slots last, Laid 0 slots ∧ slots.map Slot.token = scan template ∧
      slots.map Slot.text = replacements selections values 0 (scan template) ∧
      template.toList = weave Slot.raw slots last ∧
      (resolve template selections values).toList = weave Slot.filled slots last := by
  obtain ⟨slots, last, htokens, htexts, hlaid, htemplate⟩ :=
    exists_slots_scan (List.Sublist.refl _)
      (length_replacements selections values 0 (scan template))
  refine ⟨slots, last, hlaid, htokens, htexts, htemplate, ?_⟩
  rw [outside_eq_weave htokens hlaid htemplate] at hopen
  rw [resolve, toList_fillPlaceholders, toList_fillChoices htokens htexts hlaid htemplate]
  exact fillNames_weave 0 [] (fits_of_text htokens htexts hselections) hopen

theorem WellBracketed.unopened (h : WellBracketed template) : Unopened (outside template) := by
  refine .of_not_mem fun hm => ?_
  obtain ⟨x, hx, hbrace⟩ := List.mem_map.1 hm
  obtain ⟨hmem, hout⟩ := List.mem_filter.1 hx
  have hinside := h x hmem (Or.inl hbrace)
  simp [hinside] at hout

/-- A template with all its braces in tokens is resolved in one step: each token that its scan finds
is replaced, a choice by its selection and a name by its value, and nothing else is changed. -/
theorem resolve_wellBracketed (hbracketed : WellBracketed template)
    (hselections : ∀ s ∈ selections, '\x7b' ∉ s.render.toList) (values : Values) :
    ∃ slots last, Laid 0 slots ∧ slots.map Slot.token = scan template ∧
      slots.map Slot.text = replacements selections values 0 (scan template) ∧
      template.toList = weave Slot.raw slots last ∧
      (resolve template selections values).toList = weave Slot.filled slots last :=
  exists_woven hbracketed.unopened hselections values

/-- Braces in the options of a choice, a name right behind it, and a question. -/
def crowded : String := "\x7b\x7bk:\x7b\x7bp,q\x7d\x7d\x7b\x7bn\x7d\x7d \x7b\x7bai|x\x7d\x7d"

/-- A selection of two picks, none for the question, and a value. -/
theorem resolve_crowded :
    WellBracketed crowded ∧ (∀ s ∈ [Selection.picks ["p", "q"]], '\x7b' ∉ s.render.toList) ∧
    ∃ slots last, Laid 0 slots ∧ slots.map Slot.token = scan crowded ∧
      slots.map Slot.text = ["p, q", "v", ""] ∧
      crowded.toList = weave Slot.raw slots last ∧
      (resolve crowded [.picks ["p", "q"]] [("n", "v")]).toList =
        weave Slot.filled slots last := by
  have hbracketed : WellBracketed crowded := by decide +kernel
  have hselections : ∀ s ∈ [Selection.picks ["p", "q"]], '\x7b' ∉ s.render.toList := by
    decide +kernel
  have htexts : replacements [.picks ["p", "q"]] [("n", "v")] 0 (scan crowded) =
      ["p, q", "v", ""] := by decide +kernel
  refine ⟨hbracketed, hselections, ?_⟩
  rw [← htexts]
  exact resolve_wellBracketed hbracketed hselections [("n", "v")]

/-! ### What is left -/

/-- Text without an opening brace may take the places of tokens. -/
theorem unopened_weave {fill : Slot → List Char} {slots : List Slot} (before : List Char)
    {last : List Char} (h : Unopened (before ++ weave (fun _ => []) slots last))
    (hfill : ∀ s ∈ slots, '\x7b' ∉ fill s) : Unopened (before ++ weave fill slots last) := by
  induction slots generalizing before with
  | nil => exact h
  | cons s slots ih =>
    simp only [weave_cons, ← List.append_assoc, List.append_nil] at h ⊢
    exact ih _ (h.insert (hfill s List.mem_cons_self)) fun u hu =>
      hfill u (List.mem_cons_of_mem s hu)

/-- No token is left, if no double opening braces are outside the tokens and none come in with a
selection or a value. -/
theorem scan_resolve (hopen : openings (outside template) = [])
    (hselections : ∀ s ∈ selections, '\x7b' ∉ s.render.toList)
    (hvalues : ∀ e ∈ values, '\x7b' ∉ e.2.toList) :
    scan (resolve template selections values) = [] := by
  have hunopened := openings_eq_nil_iff.1 hopen
  obtain ⟨slots, last, hlaid, htokens, htexts, htemplate, hresolve⟩ :=
    exists_woven hunopened hselections values
  rw [outside_eq_weave htokens hlaid htemplate] at hunopened
  rw [← htokens] at htexts
  have hfilled : Unopened (weave Slot.filled slots last) := by
    refine unopened_weave [] hunopened fun s hs => ?_
    rcases text_cases htexts hs with ⟨-, i, htext⟩ | ⟨name, -, -, htext⟩
    · rw [Slot.filled, htext]
      exact not_mem_renderedAt hselections i
    · rw [Slot.filled, htext]
      exact not_mem_text hvalues name
  rw [scan, scanChars_eq, hresolve]
  exact tokensFrom_of_unopened hfilled 0

/-- Single braces around the tokens, one of them right in front of a choice. -/
def loose : String := "\x7d \x7b \x7b\x7bn\x7d\x7d \x7b\x7b\x7bk:a,b\x7d\x7d"

theorem scan_resolve_loose :
    openings (outside loose) = [] ∧
    (∀ s ∈ [Selection.text "a"], '\x7b' ∉ s.render.toList) ∧
    (∀ e ∈ [("n", "v")], '\x7b' ∉ e.2.toList) ∧
    scan (resolve loose [.text "a"] [("n", "v")]) = [] := by
  have hopen : openings (outside loose) = [] := by decide +kernel
  have hselections : ∀ s ∈ [Selection.text "a"], '\x7b' ∉ s.render.toList := by decide +kernel
  have hvalues : ∀ e ∈ [("n", "v")], '\x7b' ∉ e.2.toList := by decide +kernel
  exact ⟨hopen, hselections, hvalues, scan_resolve hopen hselections hvalues⟩

/-- A name in two pairs of double braces. -/
def doubled : String := "\x7b\x7b\x7b\x7ba\x7d\x7d\x7d\x7d"

/-- The inner pair is a token, and its value stands in the outer pair then, a name itself. -/
theorem doubled_not_resolved :
    choiceTokens doubled = [] ∧ placeholderNames doubled = ["a"] ∧
    scan (resolve doubled [] [("a", "v")]) =
      [⟨.simple "v", "\x7b\x7bv\x7d\x7d", 0⟩] := by
  decide +kernel

end

end Scaffold.Template
