import Scaffold.Generation.Requester
import Scaffold.Proofs.Generation.Run
import Scaffold.Proofs.Reply.Code

/-!
# Content from a runner

A runner puts the content of a file in a block. The requester hands over what is in the block, or
the whole reply where there is nothing in it (`contentOf_reply`), and that is what the file is
written with:

* `askRunner_apply` - one request;
* `generateOne_writesAnswers` - one target: the request for it, and the call that writes it;
* `generateFrom_writesAnswers` - the targets one after the other: a write for each request whose
  answer can be written, in order;
* `generate_unwraps` - a whole run, and what the blocks of its replies become.
-/

namespace Scaffold.Reply

namespace Block

variable (b : Block)

/-- What is taken for the content of a file: the code, or the whole reply when there is no code. -/
def unwrapped : String := if b.code = "" then b.reply else b.code

/-- The code is taken as it is when there is some. -/
theorem unwrapped_eq_code_iff : b.unwrapped = b.code ↔ b.code ≠ "" := by
  by_cases h : b.code = ""
  · rw [unwrapped, if_pos h]
    refine iff_of_false (fun hreply => ?_) (not_not_intro h)
    have hfence := b.fence_infix_reply
    rw [hreply] at hfence
    exact b.code_no_fence hfence
  · rw [unwrapped, if_neg h]
    exact iff_of_true rfl h

/-- The fence is left out when there is some code, and only then. -/
theorem fence_infix_unwrapped_iff : fence <:+: b.unwrapped.toList ↔ b.code = "" := by
  by_cases h : b.code = ""
  · rw [unwrapped, if_pos h]
    exact iff_of_true b.fence_infix_reply h
  · rw [unwrapped, if_neg h]
    exact iff_of_false b.code_no_fence h

end Block

end Scaffold.Reply

namespace Scaffold.Generation
open Scaffold.Provider Scaffold.Workspace Scaffold.Reply

/-- The content of a block, and not its fence, unless there is none. -/
theorem contentOf_reply (b : Block) : contentOf (.text b.reply) = .ok (.text b.unwrapped) := by
  have hfenced : fenced? b.reply = some b.code := by
    rw [fenced?, b.fencedChars?_reply, Option.map_some, String.ofList_toList]
  simp only [contentOf, hfenced, Block.unwrapped, String.isEmpty_iff]

/-! ### Requests to a runner -/

/-- A request that was sent, and its answer. -/
structure Sent where
  request : Request
  answer : Except Failure Reply

section

variable {σ ι α ρ : Type}

/-- Act, and write nothing down. -/
def unrecorded (act : StateM σ α) : StateM (Recorded σ ι) α := fun s =>
  let (a, state) := act s.state
  (a, { s with state := state })

/-- The runner that writes its requests down. -/
def recordedRunner (runner : Runner ρ) : Runner (Recorded ρ Sent) where
  settings := runner.settings
  send request := recording (Sent.mk request) (runner.send request)

/-- The progress callback, with the state of a runner that writes its requests down. -/
def beside (progress : Option (Progress ρ)) : Option (Progress (Recorded ρ Sent)) :=
  progress.map fun report done total message => unrecorded (report done total message)

theorem reported_beside (progress : Option (Progress ρ)) (done total : Nat) (message : String)
    (r : ρ) (sent : List Sent) :
    reported (beside progress) done total message ⟨r, sent⟩ =
      ⟨reported progress done total message r, sent⟩ := by
  cases progress <;> rfl

end

/-- What the requester makes of an answer. -/
def answered (path : String) : Except Failure Reply → Except Failure Reply
  | .ok reply => contentOf reply
  | .error f => .error (contentFailure path f)

/-- The request for a file. -/
def requestFor (settings : Settings) (summary : Summary) (prompt : String) (all : List String)
    (path : String) : Request :=
  let prompts := Plan.contentPrompts prompt summary all path
  ⟨prompts.user, some prompts.system, false, settings⟩

/-- A target that was asked for, with the answer of the runner, and the answer of the file system
when what became of the reply was written, or the failure for which it was not. -/
structure Asked where
  path : String
  answer : Except Failure Reply
  written : Except Failure Unit

/-- The request for the target, and its answer. -/
def Asked.sent (settings : Settings) (summary : Summary) (prompt : String) (targets : List String)
    (a : Asked) : Sent :=
  ⟨requestFor settings summary prompt targets a.path, a.answer⟩

/-- What became of the answer is something that a file can be written with. -/
def Asked.isWritable (a : Asked) : Bool :=
  (unwritable? (answered a.path a.answer)).isNone

/-- The call that writes the target. -/
def Asked.write (prompt : String) (a : Asked) : FileCall :=
  .writeFile a.path (contentBytes prompt a.path (answered a.path a.answer)) a.written

/-- The call writes a file. -/
def FileCall.isWrite : FileCall → Bool
  | .writeFile .. => true
  | _ => false

/-- A world with the calls of its file system and the requests to its runner so far. -/
def withSent {τ ρ : Type} (w : World τ ρ) (calls : List FileCall) (sent : List Sent) :
    World (Recorded τ FileCall) (Recorded ρ Sent) :=
  ⟨⟨w.files, calls⟩, ⟨w.rest, sent⟩⟩

/-- With its calls written down, the action does what it does without that. It asks for some of the
paths, in order, and writes each of them with what becomes of the answer, if that can be written,
and nothing else. -/
def WritesAnswers {τ ρ α : Type} (settings : Settings) (summary : Summary) (prompt : String)
    (targets paths : List String) (act : StateM (World τ ρ) α)
    (recorded : StateM (World (Recorded τ FileCall) (Recorded ρ Sent)) α) : Prop :=
  ∀ w calls sent, ∃ (asked : List Asked) (new : List FileCall),
    (asked.map Asked.path).Sublist paths ∧
    new.filter FileCall.isWrite = (asked.filter Asked.isWritable).map (Asked.write prompt) ∧
    recorded (withSent w calls sent) =
      ((act w).1, withSent (act w).2 (calls ++ new)
        (sent ++ asked.map (Asked.sent settings summary prompt targets)))

section

variable {τ ρ : Type} [Log.Journal ρ] (fs : FileSystem τ) (runner : Runner ρ) (summary : Summary)
  (prompt : String) (targets : List String)

/-- The answer of a runner to the request for a file. -/
def Answers (path : String) (r : ρ) (answer : Except Failure Reply) (r' : ρ) : Prop :=
  let prompts := Plan.contentPrompts prompt summary targets path
  runner.run prompts.user (some prompts.system) false r = (answer, r')

variable {runner summary prompt targets}

/-- One request. -/
theorem askRunner_apply {path : String} {r r' : ρ} {answer : Except Failure Reply}
    (h : Answers runner summary prompt targets path r answer r') :
    askRunner runner summary prompt targets path r = (answered path answer, r') := by
  unfold Answers at h
  simp only [askRunner, bind, StateT.bind, h]
  cases answer <;> rfl

/-- A reply that is a text can be written. -/
theorem unwritable?_askRunner (hsends : ∀ r s, ∃ text, (runner.send r s).1 = .ok (.text text))
    (path : String) (r : ρ) :
    unwritable? (askRunner runner summary prompt targets path r).1 = none := by
  let prompts := Plan.contentPrompts prompt summary targets path
  rcases hrun : runner.run prompts.user (some prompts.system) false r with ⟨answer, r'⟩
  have hanswer : Answers runner summary prompt targets path r answer r' := hrun
  obtain ⟨text, htext⟩ : ∃ text, answer = .ok (.text text) := by
    obtain ⟨text, htext⟩ := hsends ⟨prompts.user, some prompts.system, false, runner.settings⟩
      (Log.Journal.add ⟨.debug, "llm", s!"Sending text request to {runner.settings.model}"⟩ r)
    exact ⟨text, (congrArg Prod.fst hrun).symm.trans htext⟩
  rw [askRunner_apply hanswer, htext, answered, contentOf]
  cases Reply.fenced? text <;> rfl

theorem recordedRunner_answers {path : String} {r r' : ρ} {answer : Except Failure Reply}
    (h : Answers runner summary prompt targets path r answer r') (sent : List Sent) :
    Answers (recordedRunner runner) summary prompt targets path ⟨r, sent⟩ answer
      ⟨r', sent ++ [⟨requestFor runner.settings summary prompt targets path, answer⟩]⟩ :=
  recording_apply h sent

theorem warned_recorded (path : String) (reply : Except Failure Reply) (r : ρ) (sent : List Sent) :
    warned path reply (⟨r, sent⟩ : Recorded ρ Sent) = ⟨warned path reply r, sent⟩ := by
  cases reply <;> rfl

theorem recordFailure_withSent (path : String) (f : Failure) (w : World τ ρ)
    (calls : List FileCall) (sent : List Sent) :
    recordFailure path f (withSent w calls sent) =
      ((recordFailure path f w).1, withSent (recordFailure path f w).2 calls sent) := by
  cases hreason : failureReason? f with
  | some reason =>
    rw [recordFailure_apply hreason, recordFailure_apply hreason]
    rfl
  | none => rw [recordFailure_of_none hreason, recordFailure_of_none hreason]

variable (runner summary prompt targets)

/-- A target that may be written. -/
theorem writeTarget_writesAnswers (existed : Bool) (path : String) :
    WritesAnswers runner.settings summary prompt targets [path]
      (writeTarget fs (askRunner runner summary) prompt targets existed path)
      (writeTarget (recordedFiles fs) (askRunner (recordedRunner runner) summary) prompt targets
        existed path) := by
  intro w calls sent
  rcases h : runner.run (Plan.contentPrompts prompt summary targets path).user
    (some (Plan.contentPrompts prompt summary targets path).system) false w.rest with ⟨answer, r⟩
  have hreply : askRunner runner summary prompt targets path w.rest = _ := askRunner_apply h
  have hrec : askRunner (recordedRunner runner) summary prompt targets path ⟨w.rest, sent⟩ = _ :=
    askRunner_apply (recordedRunner_answers h sent)
  cases hwritable : unwritable? (answered path answer) with
  | some f =>
    have hnot : Asked.isWritable ⟨path, answer, .error f⟩ = false := by
      simp [Asked.isWritable, hwritable]
    refine ⟨[⟨path, answer, .error f⟩], [], List.Sublist.refl _, by simp [hnot], ?_⟩
    rw [writeTarget_of_unwritable hreply hwritable, writeTarget_of_unwritable hrec hwritable,
      warned_recorded, List.append_nil]
    rfl
  | none =>
    have hone : ∀ written, Asked.isWritable ⟨path, answer, written⟩ = true := by
      simp [Asked.isWritable, hwritable]
    rcases hw : fs.writeFile path (contentBytes prompt path (answered path answer)) w.files with
      ⟨f | ⟨⟩, s⟩
    · have hrecw : (recordedFiles fs).writeFile path _ ⟨w.files, calls⟩ = _ :=
        recording_apply hw calls
      refine ⟨[⟨path, answer, .error f⟩], [Asked.write prompt ⟨path, answer, .error f⟩],
        List.Sublist.refl _, by simp [hone, Asked.write, FileCall.isWrite], ?_⟩
      rw [writeTarget_of_error hreply hwritable hw, writeTarget_of_error hrec hwritable hrecw,
        warned_recorded]
      exact recordFailure_withSent path f ⟨s, warned path (answered path answer) r⟩ _ _
    · have hrecw : (recordedFiles fs).writeFile path _ ⟨w.files, calls⟩ = _ :=
        recording_apply hw calls
      refine ⟨[⟨path, answer, .ok ()⟩], [Asked.write prompt ⟨path, answer, .ok ()⟩],
        List.Sublist.refl _, by simp [hone, Asked.write, FileCall.isWrite], ?_⟩
      rw [writeTarget_of_ok hreply hwritable hw, writeTarget_of_ok hrec hwritable hrecw,
        warned_recorded]
      rfl

/-- The directory and the check write nothing. -/
theorem prepare_recorded (path : String) (s : τ) (calls : List FileCall) :
    ∃ new : List FileCall, new.filter FileCall.isWrite = [] ∧
      prepare (recordedFiles fs) path ⟨s, calls⟩ =
        ((prepare fs path s).1, ⟨(prepare fs path s).2, calls ++ new⟩) := by
  rcases hd : fs.createDirectory (Plan.parent path) s with ⟨f | ⟨⟩, s'⟩
  · have hrec : prepare (recordedFiles fs) path ⟨s, calls⟩ = _ :=
      prepare_of_error (recording_apply hd calls)
    exact ⟨[.createDirectory (Plan.parent path) (.error f)], rfl, by rw [hrec, prepare_of_error hd]⟩
  · rcases hx : fs.exists? path s' with ⟨found, s''⟩
    have hrec : prepare (recordedFiles fs) path ⟨s, calls⟩ = _ :=
      (prepare_of_ok (recording_apply hd calls)).trans (recording_apply hx _)
    refine ⟨[.createDirectory (Plan.parent path) (.ok ()), .exists? path found], rfl, ?_⟩
    rw [hrec, prepare_of_ok hd, hx, List.append_assoc]
    rfl

variable (overwrite : Bool)

/-- One target. -/
theorem generateOne_writesAnswers (path : String) :
    WritesAnswers runner.settings summary prompt targets [path]
      (generateOne fs (askRunner runner summary) prompt targets overwrite path)
      (generateOne (recordedFiles fs) (askRunner (recordedRunner runner) summary) prompt targets
        overwrite path) := by
  intro w calls sent
  obtain ⟨checks, hchecks, hrec⟩ := prepare_recorded fs path w.files calls
  rcases hp : prepare fs path w.files with ⟨f | existed, s⟩ <;> rw [hp] at hrec
  · refine ⟨[], checks, List.nil_sublist _, hchecks, ?_⟩
    rw [generateOne_of_error hp, List.map_nil, List.append_nil]
    exact (generateOne_of_error hrec).trans (recordFailure_withSent path f ⟨s, w.rest⟩ _ _)
  · by_cases may : existed = true → overwrite = true
    · obtain ⟨asked, new, hpaths, hwrites, heq⟩ := writeTarget_writesAnswers fs runner summary
        prompt targets existed path ⟨s, w.rest⟩ (calls ++ checks) sent
      refine ⟨asked, checks ++ new, hpaths, ?_, ?_⟩
      · rw [List.filter_append, hchecks, List.nil_append, hwrites]
      · rw [generateOne_of_may hp may, ← List.append_assoc]
        exact (generateOne_of_may hrec may).trans heq
    · obtain ⟨rfl, rfl⟩ := kept_of_not_may may
      refine ⟨[], checks, List.nil_sublist _, hchecks, ?_⟩
      rw [generateOne_of_exists hp, List.map_nil, List.append_nil]
      exact generateOne_of_exists hrec

/-- The targets one after the other: a write for each answer, in order. -/
theorem generateFrom_writesAnswers (progress : Option (Progress ρ)) (done : Nat)
    (paths : List String) :
    WritesAnswers runner.settings summary prompt targets paths
      (generateFrom fs (askRunner runner summary) progress prompt targets overwrite done paths)
      (generateFrom (recordedFiles fs) (askRunner (recordedRunner runner) summary)
        (beside progress) prompt targets overwrite done paths) := by
  induction paths generalizing done with
  | nil =>
    intro w calls sent
    refine ⟨[], [], List.nil_sublist _, rfl, ?_⟩
    rw [List.map_nil, List.append_nil, List.append_nil]
    rfl
  | cons path paths ih =>
    intro w calls sent
    obtain ⟨asked, new, hpaths, hwrites, heq⟩ :=
      generateOne_writesAnswers fs runner summary prompt targets overwrite path w calls sent
    rcases hone : generateOne fs (askRunner runner summary) prompt targets overwrite path w with
      ⟨f | fate, w₁⟩ <;> rw [hone] at heq
    · -- the run ends here, with the calls of this target
      refine ⟨asked, new, hpaths.trans (List.singleton_sublist.2 List.mem_cons_self), hwrites, ?_⟩
      rw [generateFrom_of_error hone, generateFrom_of_error heq]
    · obtain ⟨asked', new', hpaths', hwrites', heq'⟩ := ih (done + 1)
        ⟨w₁.files, reported progress (done + 1) targets.length (fate.message path) w₁.rest⟩
        (calls ++ new) (sent ++ asked.map (Asked.sent runner.settings summary prompt targets))
      refine ⟨asked ++ asked', new ++ new', ?_, ?_, ?_⟩
      · rw [List.map_append]
        exact hpaths.append hpaths'
      · rw [List.filter_append, hwrites, hwrites', List.filter_append, List.map_append]
      · rw [generateFrom_cons hone, generateFrom_cons heq, List.map_append, ← List.append_assoc,
          ← List.append_assoc]
        simp only [withSent, reported_beside] at heq' ⊢
        rw [heq']

/-- A run asks its runner for the targets that it writes, and writes what the answers hold, if it
can be written. It can be where the answer is a block, and then it is what the block holds: a file
has the code of its block, to the byte, unless the block is empty. Then it has the whole reply, and
so the fence. -/
theorem generate_unwraps (progress : Option (Progress ρ)) :
    (∀ path r r' (b : Block),
      Answers runner summary prompt targets path r (.ok (.text b.reply)) r' →
        askRunner runner summary prompt targets path r = (.ok (.text b.unwrapped), r')) ∧
    WritesAnswers runner.settings summary prompt targets targets
      (generate fs (askRunner runner summary) progress prompt targets overwrite)
      (generate (recordedFiles fs) (askRunner (recordedRunner runner) summary) (beside progress)
        prompt targets overwrite) ∧
    (∀ (a : Asked) (b : Block), a.answer = .ok (.text b.reply) →
      a.isWritable = true ∧ a.write prompt = .writeFile a.path b.unwrapped.toUTF8 a.written) ∧
    ∀ b : Block, (b.unwrapped = b.code ↔ b.code ≠ "") ∧
      (fence <:+: b.unwrapped.toList ↔ b.code = "") := by
  have hanswered : ∀ path (b : Block),
      answered path (.ok (.text b.reply)) = .ok (.text b.unwrapped) :=
    fun _ b => contentOf_reply b
  refine ⟨fun path r r' b h => ?_, fun w calls sent => ?_, fun a b h => ?_,
    fun b => ⟨b.unwrapped_eq_code_iff, b.fence_infix_unwrapped_iff⟩⟩
  · rw [askRunner_apply h, hanswered]
  · obtain ⟨asked, new, hpaths, hwrites, heq⟩ := generateFrom_writesAnswers fs runner summary prompt
      targets overwrite progress 0 targets w calls sent
    refine ⟨asked, new, hpaths, hwrites, ?_⟩
    rcases hall : generateFrom fs (askRunner runner summary) progress prompt targets overwrite 0
      targets w with ⟨f | fates, w'⟩ <;> rw [hall] at heq
    · rw [generate_of_error hall, generate_of_error heq]
    · rw [generate_of_ok hall, generate_of_ok heq]
      rfl
  · rw [Asked.isWritable, Asked.write, h, hanswered]
    exact ⟨rfl, rfl⟩

end

/-! ### A file that is to be empty -/

/-- A block for an empty file. -/
def emptyBlock : Block where
  front := ""
  tag := "python"
  code := ""
  back := ""
  front_no_backtick := by decide
  tag_chars := List.all_eq_true.1 (by decide)
  code_no_fence := fenceless_of_not_mem (by simp)
  code_end := by simp

/-- A runner that has this block for every request. -/
def emptyHanded : Runner (List Log.Record) :=
  .custom (fun _ => return .ok (.text emptyBlock.reply)) [] {}

/-- Files by name. -/
def drawer : FileSystem (List (String × ByteArray)) where
  createDirectory _ files := (.ok (), files)
  exists? path files := (.ok (files.any fun file => file.1 == path), files)
  writeFile path content files := (.ok (), files ++ [(path, content)])
  listFiles _ _ _ files := (.ok (files.map Prod.fst), files)

/-- The file is not empty: the fence is written. -/
theorem emptyBlock_not_written :
    let provider := askRunner emptyHanded .empty
    let w := (generate drawer provider none "an app" ["pkg/__init__.py"] false ⟨[], []⟩).2
    emptyBlock.code = "" ∧ emptyBlock.reply = "```python\n\n```" ∧
      (provider "an app" ["pkg/__init__.py"] "pkg/__init__.py" []).1 =
        .ok (.text emptyBlock.reply) ∧
      w.files = [("pkg/__init__.py", emptyBlock.reply.toUTF8)] ∧
      w.files ≠ [("pkg/__init__.py", emptyBlock.code.toUTF8)] := by
  intro provider w
  have hkept : emptyBlock.unwrapped = emptyBlock.reply := if_pos rfl
  have hreply : provider "an app" ["pkg/__init__.py"] "pkg/__init__.py" [] = _ :=
    askRunner_apply rfl
  have hcontent : answered "pkg/__init__.py" (.ok (.text emptyBlock.reply)) =
      .ok (.text emptyBlock.reply) := by
    rw [answered, contentOf_reply, hkept]
  rw [hcontent] at hreply
  have hfiles : w.files = [("pkg/__init__.py", emptyBlock.reply.toUTF8)] := by
    have hdir : drawer.createDirectory (Plan.parent "pkg/__init__.py") [] = (.ok (), []) := rfl
    have hprepare : prepare drawer "pkg/__init__.py" [] = (.ok false, []) := by
      rw [prepare_of_ok hdir]
      rfl
    have hone : generateOne drawer provider "an app" ["pkg/__init__.py"] false "pkg/__init__.py"
        ⟨[], []⟩ = _ :=
      (generateOne_of_may hprepare (by simp)).trans (writeTarget_of_ok hreply rfl rfl)
    have hall : generateFrom drawer provider none "an app" ["pkg/__init__.py"] false 0
        ["pkg/__init__.py"] ⟨[], []⟩ = _ :=
      generateFrom_cons hone
    exact congrArg (fun x => x.2.files) (generate_of_ok hall)
  refine ⟨rfl, by decide, congrArg Prod.fst hreply, hfiles, fun h => ?_⟩
  rw [hfiles] at h
  have hsame : emptyBlock.reply.toUTF8 = emptyBlock.code.toUTF8 := by
    simpa using h
  exact absurd (String.toByteArray_inj.1 hsame) (by decide)

end Scaffold.Generation
