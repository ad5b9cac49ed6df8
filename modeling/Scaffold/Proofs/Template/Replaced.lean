import Scaffold.Proofs.Template.Weave

/-!
# Filling one kind of token

`Replaced reps template result` says that the result is the template with texts in the place of some
of its tokens. No two results are (`Replaced.unique`), and filling the choices, or the names, gives
the one that has the selections, or the values, in these places (`replaced_iff_fill`).
-/

namespace Scaffold.Template

/-- The result has a text in the place of each of these tokens of the template, and what the
template has in front of, between and behind them. -/
def Replaced (reps : List (Token × String)) (template result : String) : Prop :=
  ∃ slots last, slots.map (fun s => (s.token, s.text)) = reps ∧ Laid 0 slots ∧
    template.toList = weave Slot.raw slots last ∧ result.toList = weave Slot.filled slots last

section

variable {template result result' : String} {reps : List (Token × String)}

/-- A text is woven from slots with given tokens and texts in one way only. -/
theorem slots_unique {place : Nat} {slots slots' : List Slot} {last last' : List Char}
    (hlaid : Laid place slots) (hlaid' : Laid place slots')
    (hreps : slots.map (fun s => (s.token, s.text)) = slots'.map fun s => (s.token, s.text))
    (hweave : weave Slot.raw slots last = weave Slot.raw slots' last') :
    slots = slots' ∧ last = last' := by
  induction slots generalizing place slots' with
  | nil =>
    obtain rfl := List.map_eq_nil_iff.1 hreps.symm
    exact ⟨rfl, hweave⟩
  | cons s slots ih =>
    cases slots' with
    | nil => cases hreps
    | cons s' slots' =>
      obtain ⟨front, token, text⟩ := s
      obtain ⟨front', token', text'⟩ := s'
      simp only [List.map_cons, List.cons.injEq, Prod.mk.injEq] at hreps
      obtain ⟨⟨rfl, rfl⟩, hreps⟩ := hreps
      obtain ⟨hstart, hlaid⟩ := hlaid
      obtain ⟨hstart', hlaid'⟩ := hlaid'
      simp only [weave_cons, List.append_assoc] at hweave
      -- both fronts end where the token starts
      obtain ⟨rfl, hrest⟩ := List.append_inj hweave (by simp only at hstart hstart'; omega)
      obtain ⟨rfl, rfl⟩ := ih hlaid hlaid' hreps (List.append_cancel_left hrest)
      exact ⟨rfl, rfl⟩

theorem Replaced.unique (h : Replaced reps template result)
    (h' : Replaced reps template result') : result = result' := by
  obtain ⟨slots, last, hreps, hlaid, htemplate, hresult⟩ := h
  obtain ⟨slots', last', hreps', hlaid', htemplate', hresult'⟩ := h'
  obtain ⟨rfl, rfl⟩ := slots_unique hlaid hlaid' (hreps.trans hreps'.symm)
    (htemplate.symm.trans htemplate')
  rw [← String.toList_inj, hresult, hresult']

/-- Tokens that are replaced by their own texts leave the template as it is. -/
theorem Replaced.eq_self (h : Replaced reps template result) (hraw : ∀ r ∈ reps, r.2 = r.1.raw) :
    result = template := by
  obtain ⟨slots, last, rfl, -, htemplate, hresult⟩ := h
  have hfill : ∀ s ∈ slots, s.front ++ s.filled = s.front ++ s.raw := by
    intro s hs
    have htext : s.text = s.token.raw := hraw _ (List.mem_map_of_mem hs)
    rw [Slot.filled, Slot.raw, htext]
  rw [← String.toList_inj, hresult, htemplate, weave, weave, List.flatMap_congr hfill]

/-- Substituting texts for some tokens of a scan replaces these. -/
theorem replaced_substitute {tokens : List Token} {texts : List String}
    (hsub : tokens.Sublist (scan template)) (hlen : texts.length = tokens.length) :
    Replaced (tokens.zip texts) template (substitute template tokens texts) := by
  obtain ⟨slots, last, rfl, rfl, hlaid, htemplate⟩ := exists_slots_scan hsub hlen
  have hreps : (slots.map Slot.token).zip (slots.map Slot.text) =
      slots.map fun s => (s.token, s.text) := List.zip_map'
  have hall := substituteFrom_weave (fun _ => true) 0 [] last hlaid
  simp only [List.filter_true, List.nil_append, if_true] at hall
  refine ⟨slots, last, hreps.symm, hlaid, htemplate, ?_⟩
  rw [substitute, String.toList_ofList, hreps, htemplate]
  exact hall

end

/-! ### The choices and the names -/

section

variable (template : String)

theorem replaced_fillChoices (selections : List Selection) :
    Replaced ((choiceTokens template).zipIdx.map fun (token, i) => (token, renderedAt selections i))
      template (fillChoices template selections) := by
  have hreps : (choiceTokens template).zip
      ((List.range (choiceTokens template).length).map (renderedAt selections)) =
        (choiceTokens template).zipIdx.map fun (token, i) => (token, renderedAt selections i) := by
    rw [List.zipIdx_eq_zip_range', ← List.range_eq_range', List.zip_map_right]
    rfl
  rw [← hreps]
  exact replaced_substitute List.filter_sublist (by simp)

/-- The simple tokens are tokens of the scan, in order. -/
theorem map_fst_simpleTokens :
    (simpleTokens template).map Prod.fst = (scan template).filter fun t => !t.isChoice := by
  rw [simpleTokens, List.map_filterMap, ← List.filterMap_eq_filter]
  congr 1
  funext t
  cases h : t.placeholder <;> simp [Token.isChoice, Placeholder.isSimple, Option.guard_apply, h]

theorem replaced_fillPlaceholders (values : Values) :
    Replaced ((simpleTokens template).map fun (token, name) => (token, values.text name))
      template (fillPlaceholders template values) := by
  have hreps : ((simpleTokens template).map Prod.fst).zip
      ((simpleTokens template).map fun (_, name) => values.text name) =
        (simpleTokens template).map fun (token, name) => (token, values.text name) :=
    List.zip_map'
  rw [← hreps]
  refine replaced_substitute ?_ (by simp)
  rw [map_fst_simpleTokens]
  exact List.filter_sublist

/-- Filling replaces tokens and nothing else: the choices by the selections in order, with nothing
where a selection is missing, and the names by their values, with nothing where there is no value.
Selecting its own text for each choice leaves the template as it is. -/
theorem replaced_iff_fill :
    (∀ selections result,
      Replaced ((choiceTokens template).zipIdx.map fun (token, i) =>
          (token, renderedAt selections i)) template result ↔
        result = fillChoices template selections) ∧
    (∀ values result,
      Replaced ((simpleTokens template).map fun (token, name) => (token, values.text name))
          template result ↔
        result = fillPlaceholders template values) ∧
    fillChoices template ((choiceTokens template).map fun token => .text token.raw) = template := by
  refine ⟨fun selections result => ⟨fun h => ?_, ?_⟩, fun values result => ⟨fun h => ?_, ?_⟩, ?_⟩
  · exact h.unique (replaced_fillChoices template selections)
  · rintro rfl
    exact replaced_fillChoices template selections
  · exact h.unique (replaced_fillPlaceholders template values)
  · rintro rfl
    exact replaced_fillPlaceholders template values
  · refine (replaced_fillChoices template _).eq_self fun r hr => ?_
    obtain ⟨⟨token, i⟩, hm, rfl⟩ := List.mem_map.1 hr
    have htoken := List.mk_mem_zipIdx_iff_getElem?.1 hm
    simp [renderedAt, Selection.render, htoken]

end

end Scaffold.Template
