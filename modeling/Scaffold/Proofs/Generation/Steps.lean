import Scaffold.Generation.Run
import Scaffold.Proofs.Text.Wide

/-!
# The steps of a generation run

What the functions of a run give when the answers of the file system and of the content provider
are known: a function is opened here, and nowhere else.

* `prepare_of_error`, `prepare_of_ok` - the directory and the check;
* `writeTarget_of_ok`, `writeTarget_of_error`, `writeTarget_of_unwritable` - the request and the
  write;
* `generateOne_of_error`, `generateOne_of_exists`, `generateOne_of_may` - one target;
* `generateFrom_cons`, `generate_of_ok` - one after the other.
-/

namespace Scaffold.Generation
open Scaffold.Workspace

/-- The failure of a run whose provider answers with what no file can be written with: a text that
has no bytes, or a failure that has no wording. -/
def unwritable? : Except Failure Reply → Option Failure
  | .ok (.wide t) => t.halves?.map .unencodable
  | .error (.wordless message) => some (.type message)
  | _ => none

theorem unwritable?_cases {reply : Except Failure Reply} {f : Failure}
    (h : unwritable? reply = some f) :
    (∃ halves, f = .unencodable halves) ∨ ∃ message, f = .type message := by
  unfold unwritable? at h
  split at h
  · obtain ⟨halves, -, rfl⟩ := Option.map_eq_some_iff.1 h
    exact Or.inl ⟨halves, rfl⟩
  · cases h
    exact Or.inr ⟨_, rfl⟩
  · cases h

/-- The bytes that a file is written with: those of a text, of bytes as far as they are text, none
when there is nothing, and those of the substitute when the request failed. -/
def contentBytes (prompt path : String) : Except Failure Reply → ByteArray
  | .ok (.text s) => s.toUTF8
  | .ok (.wide t) => t.shown.toUTF8
  | .ok (.bytes b) => (Text.decodeLossy b).toUTF8
  | .ok .nothing => .empty
  | .error _ => (Fallback.content path prompt).toUTF8

/-- The failure is one of the file system, or of the operating system. -/
def IsRefusal (f : Failure) : Prop :=
  (∃ place reason, f = .fileSystem place reason) ∨ f.isSystem = true

/-- The reason of a refusal: that of the file system, or the whole message. -/
def reasonOf : Failure → String
  | .fileSystem _ reason => reason
  | f => f.message

theorem failureReason?_of_isRefusal {f : Failure} (h : IsRefusal f) :
    failureReason? f = some (reasonOf f) := by
  rcases h with ⟨place, reason, rfl⟩ | h
  · rfl
  · cases f with
    | fileSystem place reason => rfl
    | _ => simp only [failureReason?, h, if_true, reasonOf]

section

variable {τ ρ : Type} [Log.Journal ρ] {fs : FileSystem τ} {provider : ContentProvider ρ}
  {prompt : String} {targets : List String} {overwrite : Bool} {path : String}

/-- The state with one more report of the run. -/
def noted (level : Log.Level) (message : String) (r : ρ) : ρ :=
  Log.Journal.add ⟨level, "generation", message⟩ r

/-- A failed request is reported. -/
def warned (path : String) : Except Failure Reply → ρ → ρ
  | .ok _, r => r
  | .error f, r => noted .warning
      s!"Content generation failed for {path}; writing fallback content: {f.message}" r

/-- A reply did not come. -/
def isFallback : Except Failure Reply → Bool
  | .ok _ => false
  | .error _ => true

variable {w : World τ ρ} {s s' : τ} {r r' : ρ} {f : Failure} {reason : String} {existed : Bool}
  {reply : Except Failure Reply}

theorem requestContent_of_reply {answer : Reply}
    (hreply : provider prompt targets path r = (.ok answer, r')) :
    requestContent provider prompt targets path r = (.ok ⟨answer.asText, false, none⟩, r') := by
  simp only [requestContent, bind, StateT.bind, hreply]
  rfl

theorem requestContent_of_failure (hreply : provider prompt targets path r = (.error f, r')) :
    requestContent provider prompt targets path r =
      (f.wording.map (Content.substitute path prompt), warned path (.error f) r') := by
  simp only [requestContent, bind, StateT.bind, hreply]
  rfl

theorem wording_of_writable (h : unwritable? (.error f) = none) : f.wording = .ok f.message := by
  cases f with
  | wordless message => cases h
  | _ => rfl

/-- What is asked for has the bytes that the file is written with. -/
theorem requestContent_of_writable (hreply : provider prompt targets path r = (reply, r'))
    (h : unwritable? reply = none) :
    ∃ content, requestContent provider prompt targets path r =
        (.ok content, warned path reply r') ∧
      content.text.encode = .ok (contentBytes prompt path reply) ∧
      content.fallback = isFallback reply := by
  cases reply with
  | ok answer =>
    refine ⟨_, requestContent_of_reply hreply, ?_, rfl⟩
    cases answer with
    | text s => exact Text.Wide.encode_ofString s
    | wide t => exact Text.Wide.encode_of_none (Option.map_eq_none_iff.1 h)
    | bytes b => exact Text.Wide.encode_ofString (Text.decodeLossy b)
    | nothing => rfl
  | error f =>
    refine ⟨.substitute path prompt f.message, ?_, ?_, rfl⟩
    · rw [requestContent_of_failure hreply, wording_of_writable h]
      rfl
    · rw [Content.substitute, Text.Wide.encode_ofString, contentBytes]

/-- A failure that marks the target is reported. -/
theorem recordFailure_apply (hreason : failureReason? f = some reason) :
    recordFailure path f w = (.ok (.failed reason),
      ⟨w.files, noted .error s!"Failed to generate {path}: {reason}" w.rest⟩) := by
  unfold recordFailure
  rw [hreason]
  rfl

/-- Another failure is passed on. -/
theorem recordFailure_of_none (hreason : failureReason? f = none) :
    recordFailure path f w = (.error f, w) := by
  unfold recordFailure
  rw [hreason]
  rfl

theorem prepare_of_error (hd : fs.createDirectory (Plan.parent path) s = (.error f, s')) :
    prepare fs path s = (.error f, s') := by
  simp only [prepare, bind, StateT.bind, hd]
  rfl

theorem prepare_of_ok (hd : fs.createDirectory (Plan.parent path) s = (.ok (), s')) :
    prepare fs path s = fs.exists? path s' := by
  simp only [prepare, bind, StateT.bind, hd]

theorem generateOne_of_error (hp : prepare fs path w.files = (.error f, s)) :
    generateOne fs provider prompt targets overwrite path w = recordFailure path f ⟨s, w.rest⟩ := by
  simp only [generateOne, bind, StateT.bind, World.onFiles, hp]

theorem generateOne_of_exists (hp : prepare fs path w.files = (.ok true, s)) :
    generateOne fs provider prompt targets false path w =
      (.ok .skipped, ⟨s, noted .debug s!"Skipping existing file {path}" w.rest⟩) := by
  simp only [generateOne, bind, StateT.bind, World.onFiles, hp]
  rfl

theorem generateOne_of_may (hp : prepare fs path w.files = (.ok existed, s))
    (may : existed = true → overwrite = true) :
    generateOne fs provider prompt targets overwrite path w =
      writeTarget fs provider prompt targets existed path ⟨s, w.rest⟩ := by
  have hcond : ¬ (existed && !overwrite) = true := by
    cases existed <;> simp_all
  simp only [generateOne, bind, StateT.bind, World.onFiles, hp]
  rw [if_neg hcond]

/-- What may not be written is there, and is to be kept. -/
theorem kept_of_not_may (h : ¬ (existed = true → overwrite = true)) :
    existed = true ∧ overwrite = false := by
  rw [Classical.not_imp, Bool.not_eq_true] at h
  exact h

theorem writeText_of_encode {t : Text.Wide} {bytes : ByteArray} (h : t.encode = .ok bytes) :
    writeText fs path t = fs.writeFile path bytes := by
  rw [writeText, h]

theorem writeText_of_halves {t : Text.Wide} {halves : Text.Halves} (h : t.halves? = some halves)
    (s : τ) : writeText fs path t s = (.error (.unencodable halves), s) := by
  rw [writeText, Text.Wide.encode_of_some h]
  rfl

theorem writeTarget_of_ok (hreply : provider prompt targets path w.rest = (reply, r))
    (hwritable : unwritable? reply = none)
    (hw : fs.writeFile path (contentBytes prompt path reply) w.files = (.ok (), s)) :
    writeTarget fs provider prompt targets existed path w =
      (.ok (if existed then .overwritten (isFallback reply) else .created (isFallback reply)),
        ⟨s, warned path reply r⟩) := by
  obtain ⟨content, hc, hbytes, hfallback⟩ := requestContent_of_writable hreply hwritable
  simp only [writeTarget, bind, StateT.bind, World.onRest, World.onFiles, hc,
    writeText_of_encode hbytes, hw, hfallback]
  rfl

theorem writeTarget_of_error (hreply : provider prompt targets path w.rest = (reply, r))
    (hwritable : unwritable? reply = none)
    (hw : fs.writeFile path (contentBytes prompt path reply) w.files = (.error f, s)) :
    writeTarget fs provider prompt targets existed path w =
      recordFailure path f ⟨s, warned path reply r⟩ := by
  obtain ⟨content, hc, hbytes, hfallback⟩ := requestContent_of_writable hreply hwritable
  simp only [writeTarget, bind, StateT.bind, World.onRest, World.onFiles, hc,
    writeText_of_encode hbytes, hw]

/-- An answer that no file can be written with ends the run, and nothing is written. -/
theorem writeTarget_of_unwritable (hreply : provider prompt targets path w.rest = (reply, r))
    (h : unwritable? reply = some f) :
    writeTarget fs provider prompt targets existed path w =
      (.error f, ⟨w.files, warned path reply r⟩) := by
  cases reply with
  | ok answer =>
    have hc := requestContent_of_reply hreply
    cases answer with
    | wide t =>
      obtain ⟨halves, hhalves, rfl⟩ := Option.map_eq_some_iff.1 h
      simp only [writeTarget, bind, StateT.bind, World.onRest, World.onFiles, hc, Reply.asText,
        writeText_of_halves hhalves]
      exact recordFailure_of_none rfl
    | _ => cases h
  | error f' =>
    have hc := requestContent_of_failure hreply
    cases f' with
    | wordless message =>
      cases h
      simp only [writeTarget, bind, StateT.bind, World.onRest, hc]
      rfl
    | _ => cases h

/-! ### One target after the other -/

/-- The state after the progress callback, if there is one. -/
def reported (progress : Option (Progress ρ)) (done total : Nat) (message : String) (r : ρ) : ρ :=
  match progress with
  | some report => (report done total message r).2
  | none => r

section

variable {progress : Option (Progress ρ)} {done : Nat} {paths : List String} {w' : World τ ρ}

theorem generateFrom_of_error
    (h : generateOne fs provider prompt targets overwrite path w = (.error f, w')) :
    generateFrom fs provider progress prompt targets overwrite done (path :: paths) w =
      (.error f, w') := by
  rw [generateFrom]
  simp only [bind, StateT.bind, h]
  rfl

/-- A target, and then the others. -/
theorem generateFrom_cons {fate : Fate}
    (h : generateOne fs provider prompt targets overwrite path w = (.ok fate, w')) :
    generateFrom fs provider progress prompt targets overwrite done (path :: paths) w =
      let r := generateFrom fs provider progress prompt targets overwrite (done + 1) paths
        ⟨w'.files, reported progress (done + 1) targets.length (fate.message path) w'.rest⟩
      (r.1.map ((path, fate) :: ·), r.2) := by
  obtain ⟨s', r'⟩ := w'
  rw [generateFrom]
  cases progress with
  | none =>
    simp only [bind, StateT.bind, h, pure, reported]
    rcases generateFrom fs provider none prompt targets overwrite (done + 1) paths ⟨s', r'⟩ with
      ⟨_ | _, _⟩ <;> rfl
  | some report =>
    rcases hr : report (done + 1) targets.length (fate.message path) r' with ⟨⟨⟩, r⟩
    simp only [bind, StateT.bind, h, World.onRest, hr, pure, reported]
    rcases generateFrom fs provider (some report) prompt targets overwrite (done + 1) paths ⟨s', r⟩
      with ⟨_ | _, _⟩ <;> rfl

theorem generateFrom_cons_eq_ok_iff {fate : Fate} {fates : List (String × Fate)}
    {w'' : World τ ρ}
    (h : generateOne fs provider prompt targets overwrite path w = (.ok fate, w')) :
    generateFrom fs provider progress prompt targets overwrite done (path :: paths) w =
        (.ok fates, w'') ↔
      ∃ others, fates = (path, fate) :: others ∧
        generateFrom fs provider progress prompt targets overwrite (done + 1) paths
          ⟨w'.files, reported progress (done + 1) targets.length (fate.message path) w'.rest⟩ =
          (.ok others, w'') := by
  rw [generateFrom_cons h]
  generalize generateFrom fs provider progress prompt targets overwrite (done + 1) paths _ = r
  obtain ⟨f | others, w₂⟩ := r
  · constructor
    · intro he
      cases he
    · rintro ⟨_, -, he⟩
      cases he
  · constructor
    · intro he
      cases he
      exact ⟨others, rfl, rfl⟩
    · rintro ⟨_, rfl, he⟩
      cases he
      rfl

theorem generateFrom_cons_eq_error_iff {fate : Fate} {f : Failure}
    (h : generateOne fs provider prompt targets overwrite path w = (.ok fate, w')) :
    (generateFrom fs provider progress prompt targets overwrite done (path :: paths) w).1 =
        .error f ↔
      (generateFrom fs provider progress prompt targets overwrite (done + 1) paths
        ⟨w'.files, reported progress (done + 1) targets.length (fate.message path) w'.rest⟩).1 =
        .error f := by
  rw [generateFrom_cons h]
  generalize generateFrom fs provider progress prompt targets overwrite (done + 1) paths _ = r
  obtain ⟨f' | others, w₂⟩ := r <;> simp [Except.map]

/-- The fates are those of the targets, in order. -/
theorem map_fst_of_generateFrom {fates : List (String × Fate)} {w'' : World τ ρ}
    (h : generateFrom fs provider progress prompt targets overwrite done paths w =
      (.ok fates, w'')) : fates.map Prod.fst = paths := by
  induction paths generalizing done w fates with
  | nil =>
    cases h
    rfl
  | cons path paths ih =>
    rcases hone : generateOne fs provider prompt targets overwrite path w with ⟨f | fate, w'⟩
    · rw [generateFrom_of_error hone] at h
      cases h
    · obtain ⟨others, rfl, hothers⟩ := (generateFrom_cons_eq_ok_iff hone).1 h
      rw [List.map_cons, ih hothers]

theorem generate_of_error
    (h : generateFrom fs provider progress prompt targets overwrite 0 targets w = (.error f, w')) :
    generate fs provider progress prompt targets overwrite w = (.error f, w') := by
  simp only [generate, bind, StateT.bind, h]
  rfl

theorem generate_eq_error_iff :
    (generate fs provider progress prompt targets overwrite w).1 = .error f ↔
      (generateFrom fs provider progress prompt targets overwrite 0 targets w).1 = .error f := by
  rcases h : generateFrom fs provider progress prompt targets overwrite 0 targets w with
    ⟨f' | fates, w'⟩
  · rw [generate_of_error h, Except.error.injEq, Except.error.injEq]
  · simp only [generate, bind, StateT.bind, h]
    constructor <;> intro he <;> cases he

theorem generate_of_ok {fates : List (String × Fate)}
    (h : generateFrom fs provider progress prompt targets overwrite 0 targets w = (.ok fates, w')) :
    generate fs provider progress prompt targets overwrite w = (.ok (.ofFates fates),
      ⟨w'.files,
        noted .info s!"Generation finished: {(Outcome.ofFates fates).summary}" w'.rest⟩) := by
  simp only [generate, bind, StateT.bind, h]
  rfl

/-- A run that comes to its end sorts its targets. -/
theorem exists_fates_of_generate {outcome : Outcome}
    (h : (generate fs provider progress prompt targets overwrite w).1 = .ok outcome) :
    ∃ fates : List (String × Fate), fates.map Prod.fst = targets ∧ outcome = .ofFates fates := by
  rcases hall : generateFrom fs provider progress prompt targets overwrite 0 targets w with
    ⟨f | fates, w'⟩
  · rw [generate_of_error hall] at h
    cases h
  · rw [generate_of_ok hall] at h
    cases h
    exact ⟨fates, map_fst_of_generateFrom hall, rfl⟩

end

end

end Scaffold.Generation
