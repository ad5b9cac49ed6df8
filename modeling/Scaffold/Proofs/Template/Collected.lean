import Mathlib.Tactic
import Scaffold.Proofs.Generation.Recorded
import Scaffold.Template.Fill

/-!
# Where selections come from

What is selected for a token is settled by its own pick, its own default and the answer to its own
question. Only an AI input has a question, and it is open only when the pick shows nothing. A
`Turn` has these for one token, and `Turn.chosen` is what they come to. Collecting takes a turn for
each token, whatever the answers are:

* `answerAi_apply` - a question that is asked;
* `collectOne_turn` - one token;
* `collectFrom_turns` - the tokens one after the other;
* `collectSelections_turns` - all tokens, and the questions in their order.
-/

namespace Scaffold.Template
open Scaffold.Generation

/-! ### Answers in text -/

/-- A question that was asked, with its answer. -/
structure Exchange where
  question : String
  answer : Except Failure String

/-- A way to have questions answered in text. -/
abbrev AskText (σ : Type) := String → StateM σ (Except Failure String)

section

variable {σ : Type}

/-- Answers in text as replies. -/
def AskText.ask (ask : AskText σ) : Ask σ := fun question s =>
  let (answer, s') := ask question s
  (answer.map Reply.text, s')

/-- Answering, with each question and its answer written down. -/
def AskText.recorded (ask : AskText σ) : AskText (Recorded σ Exchange) :=
  fun question => recording (Exchange.mk question) (ask question)

theorem AskText.ask_apply {ask : AskText σ} {question : String} {s s' : σ}
    {answer : Except Failure String} (h : ask question s = (answer, s')) :
    ask.ask question s = (answer.map Reply.text, s') := by
  simp only [AskText.ask, h]

end

/-! ### Turns -/

/-- A token in its turn: its pick, and the answer to its question if that was asked. -/
structure Turn where
  token : Token
  pick : Selection
  answer : Option (Except Failure String)

namespace Turn

variable (t : Turn)

/-- The question that is open: that of an AI input whose pick shows nothing. -/
def question? : Option String :=
  if t.pick.render = "" then t.token.placeholder.prompt? else none

/-- An answer without the white space around it, or the default if nothing is left. -/
def ofReply (reply : String) : String :=
  if Text.strip reply = "" then t.token.defaultText else Text.strip reply

/-- What is selected: the pick if it shows something, else the answer to the question if there is
one, else the default. -/
def chosen : String :=
  if t.pick.render = "" then
    match t.answer with
    | some (.ok reply) => t.ofReply reply
    | some (.error _) | none => t.token.defaultText
  else t.pick.render

/-- The question with its answer, if it was asked. -/
def exchange? : Option Exchange :=
  match t.question?, t.answer with
  | some question, some answer => some ⟨question, answer⟩
  | _, _ => none

/-- The question was asked if it was open and there was someone to ask. -/
def Fair (someone : Bool) : Prop :=
  t.answer.isSome = (someone && t.question?.isSome)

variable {t}

/-- What was asked are the open questions. -/
theorem question_exchange? {someone : Bool} (h : t.Fair someone) :
    t.exchange?.map Exchange.question = if someone then t.question? else none := by
  unfold Fair at h
  unfold exchange?
  cases hq : t.question? <;> cases ha : t.answer <;> cases someone <;> simp_all

end Turn

/-! ### One token after the other -/

section

variable {σ : Type} [Log.Journal σ]

/-- What is left of a state when a question was answered: a failure leaves a note. -/
def noted (question : String) (answer : Except Failure String) (s : σ) : σ :=
  match answer with
  | .ok _ => s
  | .error failure =>
    Log.Journal.add ⟨.warning, "templating",
      s!"AI input request failed for {Text.quoted question}: {failure.message}"⟩ s

theorem noted_recorded (question : String) (answer : Except Failure String) (s : σ)
    (calls : List Exchange) :
    noted question answer (⟨s, calls⟩ : Recorded σ Exchange) =
      ⟨noted question answer s, calls⟩ := by
  cases answer <;> rfl

/-- A question that is asked: the answer is selected, and a failure stands for no answer. -/
theorem answerAi_apply {ask : AskText σ} {question : String} {s s' : σ}
    {answer : Except Failure String} (h : ask question s = (answer, s')) (t : Turn)
    (hpick : t.pick.render = "") (hanswer : t.answer = some answer) :
    answerAi ask.ask question t.token.defaultText s =
      (.text t.chosen, noted question answer s') := by
  have hask := AskText.ask_apply h
  cases answer with
  | ok reply =>
    have hchosen : Selection.ofReply t.token.defaultText (.text reply) = .text t.chosen := by
      simp [Selection.ofReply, Turn.chosen, Turn.ofReply, hpick, hanswer, String.isEmpty_iff]
    simp only [answerAi, bind, StateT.bind, hask, Except.map, ← hchosen]
    rfl
  | error failure =>
    have hchosen : t.chosen = t.token.defaultText := by
      simp [Turn.chosen, hpick, hanswer]
    simp only [answerAi, bind, StateT.bind, hask, Except.map, hchosen]
    rfl

/-- One token asks its question, or it needs no answer. -/
theorem collectOne_eq (picks : Nat → Selection) (ask : Option (Ask σ)) (i : Nat) (token : Token) :
    collectOne picks ask i token =
      match ask, (Turn.mk token (picks i) none).question? with
      | some ask, some question => answerAi ask question token.defaultText
      | _, _ => pure (.text (Turn.mk token (picks i) none).chosen) := by
  by_cases hpick : (picks i).render = ""
  · cases hprompt : token.placeholder.prompt? <;> cases ask <;>
      simp [collectOne, Turn.question?, Turn.chosen, hpick, hprompt]
  · cases ask <;> simp [collectOne, Turn.question?, Turn.chosen, hpick]

/-- One token. -/
theorem collectOne_turn (picks : Nat → Selection) (ask : Option (AskText σ)) (i : Nat)
    (token : Token) (s : σ) :
    ∃ (t : Turn) (s' : σ), t.token = token ∧ t.pick = picks i ∧ t.Fair ask.isSome ∧
      collectOne picks (ask.map AskText.ask) i token s = (.text t.chosen, s') ∧
      ∀ calls, collectOne picks (ask.map fun a => a.recorded.ask) i token ⟨s, calls⟩ =
        (.text t.chosen, ⟨s', calls ++ t.exchange?.toList⟩) := by
  by_cases hopen : ∃ asked question, ask = some asked ∧
      (Turn.mk token (picks i) none).question? = some question
  · obtain ⟨ask, question, rfl, hquestion⟩ := hopen
    rcases h : ask question s with ⟨answer, s'⟩
    have hpick : (picks i).render = "" := by
      by_contra hshows
      simp [Turn.question?, hshows] at hquestion
    have hexchange : (Turn.mk token (picks i) (some answer)).exchange? =
        some ⟨question, answer⟩ := by
      rw [Turn.exchange?]
      simp only [Turn.question?] at hquestion ⊢
      simp only [hquestion]
    refine ⟨⟨token, picks i, some answer⟩, noted question answer s', rfl, rfl, ?_, ?_,
      fun calls => ?_⟩
    · simp only [Turn.Fair, Turn.question?] at hquestion ⊢
      simp [hquestion]
    · rw [collectOne_eq]
      simp only [Option.map_some, hquestion]
      exact answerAi_apply h ⟨token, picks i, some answer⟩ hpick rfl
    · rw [collectOne_eq, hexchange, Option.toList_some, ← noted_recorded]
      simp only [Option.map_some, hquestion]
      have hasked : ask.recorded question ⟨s, calls⟩ =
          (answer, ⟨s', calls ++ [⟨question, answer⟩]⟩) := recording_apply h calls
      exact answerAi_apply hasked ⟨token, picks i, some answer⟩ hpick rfl
  · -- nothing is asked
    have hclosed : ∀ {σ' : Type} [Log.Journal σ'] (asking : AskText σ → Ask σ'),
        collectOne picks (ask.map asking) i token =
          pure (.text (Turn.mk token (picks i) none).chosen) := by
      intro σ' _ asking
      rw [collectOne_eq]
      cases ask with
      | none => rfl
      | some ask =>
        cases hquestion : (Turn.mk token (picks i) none).question? with
        | none => rfl
        | some question => exact absurd ⟨ask, question, rfl, hquestion⟩ hopen
    refine ⟨⟨token, picks i, none⟩, s, rfl, rfl, ?_, ?_, fun calls => ?_⟩
    · cases ask with
      | none => rfl
      | some ask =>
        cases hquestion : (Turn.mk token (picks i) none).question? with
        | none => simp [Turn.Fair, hquestion]
        | some question => exact absurd ⟨ask, question, rfl, hquestion⟩ hopen
    · rw [hclosed]
      rfl
    · have hexchange : (Turn.mk token (picks i) none).exchange? = none := by
        simp [Turn.exchange?]
      rw [hclosed, hexchange, Option.toList_none, List.append_nil]
      rfl

/-- The tokens one after the other, the first of which has the place `i`: what was asked so far
does not matter. -/
theorem collectFrom_turns (picks : Nat → Selection) (ask : Option (AskText σ)) (i : Nat)
    (tokens : List Token) (s : σ) :
    ∃ (turns : List Turn) (s' : σ), turns.map Turn.token = tokens ∧
      turns.map Turn.pick = (List.range' i tokens.length).map picks ∧
      (∀ t ∈ turns, t.Fair ask.isSome) ∧
      collectFrom picks (ask.map AskText.ask) i tokens s =
        (turns.map fun t => .text t.chosen, s') ∧
      ∀ calls, collectFrom picks (ask.map fun a => a.recorded.ask) i tokens ⟨s, calls⟩ =
        (turns.map fun t => .text t.chosen, ⟨s', calls ++ turns.filterMap Turn.exchange?⟩) := by
  induction tokens generalizing i s with
  | nil => exact ⟨[], s, rfl, rfl, by simp, rfl, fun calls => by simp [collectFrom]; rfl⟩
  | cons token tokens ih =>
    obtain ⟨t, s₁, htoken, hpick, hfair, hplain, hrecorded⟩ := collectOne_turn picks ask i token s
    obtain ⟨turns, s', htokens, hpicks, hfairs, hplains, hrecordeds⟩ := ih (i + 1) s₁
    refine ⟨t :: turns, s', ?_, ?_, ?_, ?_, fun calls => ?_⟩
    · rw [List.map_cons, htoken, htokens]
    · rw [List.map_cons, hpick, hpicks, List.length_cons, List.range'_succ, List.map_cons]
    · exact List.forall_mem_cons.2 ⟨hfair, hfairs⟩
    · simp only [collectFrom, bind, StateT.bind, hplain, hplains]
      rfl
    · simp only [collectFrom, bind, StateT.bind, hrecorded, hrecordeds]
      cases hx : t.exchange? <;> simp [hx] <;> rfl

end

/-- Selections are collected independently. There is one for each token: its own pick if that shows
something, else the answer to its own question, else its default. The questions are those of the AI
inputs whose picks show nothing, in the order of the tokens and each once, whatever the answers
are. -/
theorem collectSelections_turns {σ : Type} [Log.Journal σ] (tokens : List Token)
    (picks : Nat → Selection) (ask : Option (AskText σ)) (s : σ) :
    ∃ (turns : List Turn) (s' : σ), turns.map Turn.token = tokens ∧
      turns.map Turn.pick = (List.range tokens.length).map picks ∧
      (∀ t ∈ turns, t.Fair ask.isSome) ∧
      collectSelections tokens picks (ask.map AskText.ask) s =
        (turns.map fun t => .text t.chosen, s') ∧
      collectSelections tokens picks (ask.map fun a => a.recorded.ask) ⟨s, []⟩ =
        (turns.map fun t => .text t.chosen, ⟨s', turns.filterMap Turn.exchange?⟩) ∧
      (turns.filterMap Turn.exchange?).map Exchange.question =
        if ask.isSome then turns.filterMap Turn.question? else [] := by
  obtain ⟨turns, s', htokens, hpicks, hfair, hplain, hrecorded⟩ :=
    collectFrom_turns picks ask 0 tokens s
  refine ⟨turns, s', htokens, ?_, hfair, hplain, ?_, ?_⟩
  · rw [hpicks, List.range_eq_range']
  · exact hrecorded []
  · have hquestions : (turns.filterMap Turn.exchange?).map Exchange.question =
        turns.filterMap fun t => if ask.isSome then t.question? else none := by
      rw [List.map_filterMap]
      exact List.filterMap_congr fun t ht => Turn.question_exchange? (hfair t ht)
    rw [hquestions]
    split <;> simp

end Scaffold.Template
