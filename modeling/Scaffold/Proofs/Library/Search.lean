import Scaffold.Proofs.Library.Table
import Scaffold.Proofs.Text.Case
import Scaffold.Proofs.Text.Split

/-!
# Searching templates

A search answers the templates with a text that has the term in it when both are in lower case
(`mem_search_iff`), in the order of the store. A term that occurs as it is written is found where it
reads in lower case as it does alone, which depends on its capital sigmas: one that ends a word in
the term may not end one in the text (`search_finds`).
-/

namespace Scaffold.Library
open Scaffold.Workspace Scaffold.Text

/-- The texts of a template that are searched. -/
def Entry.texts (e : Entry) : List String := [e.name, e.description, e.content]

section

variable {entries : List Entry} {e : Entry} {term text : String}

theorem mentions_iff : mentions text term = true ↔
    lowerChars term.toList <:+: lowerChars text.toList := by
  simp [mentions, contains_eq_true_iff, lower]

/-- The templates that a search answers. -/
theorem mem_search_iff : e ∈ search entries term ↔ e ∈ entries ∧ strip term ≠ "" ∧
    ∃ text ∈ e.texts, lowerChars (strip term).toList <:+: lowerChars text.toList := by
  unfold search
  by_cases hblank : strip term = ""
  · simp [hblank]
  · simp [hblank, Entry.texts, mentions_iff, or_assoc]

theorem search_sublist (entries : List Entry) (term : String) :
    (search entries term).Sublist entries := by
  unfold search
  extract_lets stripped
  split
  · exact List.nil_sublist _
  · exact List.filter_sublist

/-- A term is found where it reads as it does alone. -/
theorem mem_search_of_readsAlone (he : e ∈ entries) (hterm : strip term ≠ "")
    (htext : text ∈ e.texts) {front back : List Char}
    (hsplit : text.toList = front ++ (strip term).toList ++ back)
    (hreads : ReadsAlone front (strip term).toList back) : e ∈ search entries term := by
  refine mem_search_iff.2 ⟨he, hterm, text, htext, ?_⟩
  rw [hsplit]
  exact hreads.occurs

variable {ρ : Type} [Log.Journal ρ] [Clock ρ] {cwd : Here} {l : Location} {s : Store}

/-- A search in a store answers templates in their order and each once: those with a text that has
the term in it, white space at its ends left out, when both are in lower case. Where a text has the
term in it as it is written, it has it there in lower case just when each capital sigma ends a word
in the text if it does so in the term, and only then. So a term whose capital sigmas are enclosed
in it is found wherever it occurs. -/
theorem search_finds (h : Reached ρ cwd l s) (term : String) :
    let part := (strip term).toList
    (search s.entries term).Sublist s.entries ∧ (search s.entries term).Nodup ∧
    (∀ e, e ∈ search s.entries term ↔ e ∈ s.entries ∧ strip term ≠ "" ∧
      ∃ text ∈ e.texts, lowerChars part <:+: lowerChars text.toList) ∧
    (∀ e ∈ s.entries, strip term ≠ "" → ∀ text ∈ e.texts, ∀ front back,
      text.toList = front ++ part ++ back →
        (lowerChars text.toList = lowerBetween [] (part ++ back) front ++
          lowerBetween front.reverse back part ++ lowerBetween (front ++ part).reverse [] back) ∧
        (lowerBetween front.reverse back part = lowerChars part ↔ ReadsAlone front part back) ∧
        (ReadsAlone front part back → e ∈ search s.entries term)) ∧
    (Enclosed part → ∀ e ∈ s.entries, strip term ≠ "" → (∃ text ∈ e.texts, part <:+: text.toList) →
      e ∈ search s.entries term) := by
  intro part
  refine ⟨search_sublist _ _, (search_sublist _ _).nodup h.isTable.ids.of_map,
    fun e => mem_search_iff, fun e he hterm text htext front back hsplit => ⟨?_, ?_, ?_⟩, ?_⟩
  · rw [hsplit, lowerChars_between]
  · exact lowerBetween_eq_alone_iff
  · exact mem_search_of_readsAlone he hterm htext hsplit
  · rintro henclosed e he hterm ⟨text, htext, front, back, hsplit⟩
    exact mem_search_of_readsAlone he hterm htext hsplit.symm (henclosed.readsAlone front back)

end

/-! ### A sigma that is no longer last -/

/-- A template with a capital sigma inside its name. -/
def sigmaEntry : Entry :=
  let d := draw ([] : List Log.Record)
  ⟨d.id, "ΑΣΑ", "", "text", d.time, d.time⟩

theorem reached_sigmaEntry :
    Reached (List Log.Record) (.top []) newStore.location ⟨newStore.location, [sigmaEntry]⟩ := by
  have hopened : Reached (List Log.Record) (.top []) newStore.location newStore :=
    .opened (w := ⟨Node.empty, []⟩) readStore_newStore (load_of_missing readStore_newStore)
  have he : (Call.create "ΑΣΑ" "text" "").effect (draw ([] : List Log.Record)) [] =
      .ok ⟨[sigmaEntry], [sigmaEntry]⟩ := rfl
  have hcalled := hopened.called (Call.create "ΑΣΑ" "text" "") ⟨Node.empty, []⟩ (by simp [newStore])
  rwa [(run_of_effect (.top []) (s := newStore) (w := ⟨Node.empty, []⟩) he).1] at hcalled

theorem isCaseIgnorable_alpha : isCaseIgnorable 'Α' = false := by
  have hcode : 'Α'.toNat = 0x391 := rfl
  have hlist : (ignorableRanges.toList.any fun r => r.1 ≤ 0x391 && 0x391 ≤ r.2) = false := by
    decide +kernel
  rw [isCaseIgnorable, hcode, Ranges.covers, ← Array.any_toList, hlist]
  simp

theorem enclosed_name : Enclosed ['Α', sigma, 'Α'] := by
  intro xs ys he
  have hcounts := isCaseIgnorable_alpha
  have hne : 'Α' ≠ sigma := by decide
  rcases xs with _ | ⟨x, _ | ⟨x', _ | ⟨x'', xs⟩⟩⟩
  · exact absurd (List.cons.inj he).1 hne
  · cases he
    exact ⟨⟨'Α', by simp, hcounts⟩, 'Α', by simp, hcounts⟩
  · simp [hne] at he
  · simp at he

/-- The whole name is found, whatever white space stands around it in the term. -/
theorem search_finds_whole_name :
    Reached (List Log.Record) (.top []) newStore.location ⟨newStore.location, [sigmaEntry]⟩ ∧
      Enclosed (strip " ΑΣΑ\n").toList ∧ sigmaEntry ∈ search [sigmaEntry] " ΑΣΑ\n" := by
  have hpart : (strip " ΑΣΑ\n").toList = ['Α', sigma, 'Α'] := by decide +kernel
  have hterm : strip " ΑΣΑ\n" ≠ "" := by decide +kernel
  obtain ⟨-, -, -, -, hfinds⟩ := search_finds reached_sigmaEntry " ΑΣΑ\n"
  have henclosed : Enclosed (strip " ΑΣΑ\n").toList := hpart ▸ enclosed_name
  refine ⟨reached_sigmaEntry, henclosed,
    hfinds henclosed sigmaEntry (List.mem_singleton.2 rfl) hterm ⟨"ΑΣΑ", .head _, ?_⟩⟩
  exact ⟨[], [], by decide +kernel⟩

theorem meetsCased_alpha (cs : List Char) : meetsCased ('Α' :: cs) = true := by
  rw [meetsCased_cons isCaseIgnorable_alpha]
  decide +kernel

theorem lowerAt_alpha (before after : List Char) : lowerAt before 'Α' after = ['α'] := by
  have hdot : ('Α' == '\u0130') = false := by decide
  have hne : ('Α' == sigma) = false := by decide
  have hsmall : lowerChar 'Α' = 'α' := by decide +kernel
  simp only [lowerAt, hdot, hne, hsmall, Bool.false_eq_true, if_false]

/-- The start of the name is not found: alone its sigma ends a word. -/
theorem search_misses_start_of_name :
    Reached (List Log.Record) (.top []) newStore.location ⟨newStore.location, [sigmaEntry]⟩ ∧
      strip "ΑΣ" ≠ "" ∧ (strip "ΑΣ").toList <:+: sigmaEntry.name.toList ∧
      sigmaEntry ∉ search [sigmaEntry] "ΑΣ" := by
  have hterm : (strip "ΑΣ").toList = ['Α', sigma] := by decide +kernel
  have hname : "ΑΣΑ".toList = ['Α', sigma, 'Α'] := by decide +kernel
  have hstart : lowerChars ['Α', sigma] = ['α', '\u03c2'] := by
    have hnone : meetsCased [] = false := rfl
    simp [lowerChars_eq, lowerBetween, lowerAt_alpha, lowerAt_sigma, endsWord, meetsCased_alpha,
      hnone]
  have hwhole : lowerChars ['Α', sigma, 'Α'] = ['α', '\u03c3', 'α'] := by
    simp [lowerChars_eq, lowerBetween, lowerAt_alpha, lowerAt_sigma, endsWord, meetsCased_alpha]
  refine ⟨reached_sigmaEntry, by decide +kernel, ⟨[], ['Α'], by decide +kernel⟩, fun hfound => ?_⟩
  obtain ⟨-, -, text, htext, hinfix⟩ := mem_search_iff.1 hfound
  rw [hterm, hstart] at hinfix
  simp only [Entry.texts, sigmaEntry, List.mem_cons, List.not_mem_nil, or_false] at htext
  rcases htext with rfl | rfl | rfl
  · rw [hname, hwhole] at hinfix
    revert hinfix
    decide
  · revert hinfix
    decide +kernel
  · revert hinfix
    decide +kernel

end Scaffold.Library
