import Scaffold.Proofs.Generation.Visit

/-!
# What a generation run does

When the file system fails with refusals only (`Reports`), the run comes to its end with a visit for
each target, or it ends early at the first target whose provider answers with what no file can be
written with:

* `generateOne_visit` - one target: its fate and its calls;
* `generateFrom_visits` - the targets one after the other;
* `generate_visits` - a whole run: its result, its calls, and the targets in their lists.
-/

namespace Scaffold.Generation
open Scaffold.Workspace

/-- The file system fails with refusals only. -/
structure Reports {τ : Type} (fs : FileSystem τ) : Prop where
  createDirectory : ∀ path files f, (fs.createDirectory path files).1 = .error f → IsRefusal f
  exists? : ∀ path files f, (fs.exists? path files).1 = .error f → IsRefusal f
  writeFile : ∀ path content files f, (fs.writeFile path content files).1 = .error f → IsRefusal f

section

variable {τ ρ : Type} [Log.Journal ρ] (fs : FileSystem τ) (provider : ContentProvider ρ)
  (prompt : String) (targets : List String) (overwrite : Bool)

/-- A target is visited, and its calls are those of the visit. -/
def OneVisited (path : String) (w : World τ ρ) (files : List FileCall) (rest : List RestCall) :
    Prop :=
  ∃ (v : Visit overwrite) (w' : World τ ρ), v.path = path ∧
    generateOne fs provider prompt targets overwrite path w = (.ok v.fate, w') ∧
    generateOne (recordedFiles fs) (recordedProvider provider) prompt targets overwrite path
        (recorded w files rest) =
      (.ok v.fate, recorded w' (files ++ v.fileCalls prompt) (rest ++ v.asks prompt targets))

/-- A target halts the run. -/
def OneHalted (path : String) (w : World τ ρ) (files : List FileCall) (rest : List RestCall) :
    Prop :=
  ∃ (h : Halt overwrite) (w' : World τ ρ), h.path = path ∧
    generateOne fs provider prompt targets overwrite path w = (.error h.failure, w') ∧
    generateOne (recordedFiles fs) (recordedProvider provider) prompt targets overwrite path
        (recorded w files rest) =
      (.error h.failure, recorded w' (files ++ h.fileCalls) (rest ++ [h.ask prompt targets]))

variable (progress : Option (Progress ρ)) (done : Nat)

/-- Each of the targets is visited, in order. -/
def AllVisited (paths : List String) (w : World τ ρ) (files : List FileCall)
    (rest : List RestCall) : Prop :=
  ∃ (visits : List (Visit overwrite)) (w' : World τ ρ), visits.map Visit.path = paths ∧
    generateFrom fs provider progress prompt targets overwrite done paths w =
      (.ok (visits.map fun v => (v.path, v.fate)), w') ∧
    generateFrom (recordedFiles fs) (recordedProvider provider) (progress.map recordedProgress)
        prompt targets overwrite done paths (recorded w files rest) =
      (.ok (visits.map fun v => (v.path, v.fate)),
        recorded w' (files ++ visits.flatMap (Visit.fileCalls prompt))
          (rest ++ restCalls progress.isSome prompt targets done visits))

/-- Some targets are visited, and the one behind them halts the run. -/
def SomeHalted (paths : List String) (w : World τ ρ) (files : List FileCall)
    (rest : List RestCall) : Prop :=
  ∃ (visits : List (Visit overwrite)) (h : Halt overwrite) (back : List String) (w' : World τ ρ),
    paths = visits.map Visit.path ++ h.path :: back ∧
    generateFrom fs provider progress prompt targets overwrite done paths w =
      (.error h.failure, w') ∧
    generateFrom (recordedFiles fs) (recordedProvider provider) (progress.map recordedProgress)
        prompt targets overwrite done paths (recorded w files rest) =
      (.error h.failure,
        recorded w' (files ++ (visits.flatMap (Visit.fileCalls prompt) ++ h.fileCalls))
          (rest ++ (restCalls progress.isSome prompt targets done visits ++
            [h.ask prompt targets])))

end

/-- What is reported of a visited target is written down. -/
theorem reported_recorded {ρ : Type} {overwrite : Bool} (progress : Option (Progress ρ))
    (done total : Nat) (v : Visit overwrite) (r : ρ) (calls : List RestCall) :
    reported (progress.map recordedProgress) done total (v.fate.message v.path) ⟨r, calls⟩ =
      ⟨reported progress done total (v.fate.message v.path) r,
        calls ++ v.reports progress.isSome done total⟩ := by
  cases progress with
  | none => simp [reported, Visit.reports]
  | some report =>
    rw [v.message_fate]
    rfl

section

variable {τ ρ : Type} [Log.Journal ρ] {fs : FileSystem τ} (provider : ContentProvider ρ)
  (prompt : String) (targets : List String) (overwrite : Bool)

/-- A target that may be written: the request, and the call that writes the file. -/
theorem writeTarget_visit (hfs : Reports fs) (path : String) {existed : Bool}
    (may : existed = true → overwrite = true) {w : World τ ρ} {reply : Except Failure Reply} {r : ρ}
    (hp : provider prompt targets path w.rest = (reply, r)) (writable : unwritable? reply = none)
    (files : List FileCall) (rest : List RestCall) :
    ∃ (v : Visit overwrite) (w' : World τ ρ), v.path = path ∧ v.directory = .ok () ∧
      v.found? = some (.ok existed) ∧
      writeTarget fs provider prompt targets existed path w = (.ok v.fate, w') ∧
      writeTarget (recordedFiles fs) (recordedProvider provider) prompt targets existed path
          (recorded w files rest) =
        (.ok v.fate, recorded w' (files ++ v.writes prompt) (rest ++ v.asks prompt targets)) := by
  have hrecp : recordedProvider provider prompt targets path ⟨w.rest, rest⟩ = _ :=
    recording_apply hp rest
  rcases hw : fs.writeFile path (contentBytes prompt path reply) w.files with ⟨f | ⟨⟩, s⟩
  · have hf : IsRefusal f := hfs.writeFile path _ w.files f (by rw [hw])
    have hreason := failureReason?_of_isRefusal hf
    have hrecw : (recordedFiles fs).writeFile path _ ⟨w.files, files⟩ = _ :=
      recording_apply hw files
    refine ⟨.unwritten path existed may reply writable ⟨f, hf⟩, _, rfl, rfl, rfl,
      (writeTarget_of_error hp writable hw).trans (recordFailure_apply hreason), ?_⟩
    rw [writeTarget_of_error hrecp writable hrecw, recordFailure_apply hreason]
    cases reply <;> rfl
  · have hrecw : (recordedFiles fs).writeFile path _ ⟨w.files, files⟩ = _ :=
      recording_apply hw files
    refine ⟨.written path existed may reply writable, _, rfl, rfl, rfl,
      writeTarget_of_ok hp writable hw, ?_⟩
    rw [writeTarget_of_ok hrecp writable hrecw]
    cases reply <;> rfl

/-- One target: what becomes of it, and the calls that are made. -/
theorem generateOne_visit (hfs : Reports fs) (path : String) (w : World τ ρ)
    (files : List FileCall) (rest : List RestCall) :
    OneVisited fs provider prompt targets overwrite path w files rest ∨
      OneHalted fs provider prompt targets overwrite path w files rest := by
  rcases hd : fs.createDirectory (Plan.parent path) w.files with ⟨f | ⟨⟩, s₁⟩
  · -- the directory could not be made
    have hf : IsRefusal f := hfs.createDirectory (Plan.parent path) w.files f (by rw [hd])
    have hreason := failureReason?_of_isRefusal hf
    have hrec : prepare (recordedFiles fs) path ⟨w.files, files⟩ = _ :=
      prepare_of_error (recording_apply hd files)
    refine Or.inl ⟨.noDirectory path ⟨f, hf⟩, _, rfl,
      (generateOne_of_error (prepare_of_error hd)).trans (recordFailure_apply hreason), ?_⟩
    rw [generateOne_of_error hrec, recordFailure_apply hreason, Visit.append_asks rfl]
    rfl
  have hprepare := prepare_of_ok hd
  have hrec : prepare (recordedFiles fs) path ⟨w.files, files⟩ =
      (recordedFiles fs).exists? path _ :=
    prepare_of_ok (recording_apply hd files)
  rcases hx : fs.exists? path s₁ with ⟨f | existed, s₂⟩
  · -- it could not be found out whether the file exists
    have hf : IsRefusal f := hfs.exists? path s₁ f (by rw [hx])
    have hreason := failureReason?_of_isRefusal hf
    rw [hx] at hprepare
    replace hrec := hrec.trans (recording_apply hx _)
    refine Or.inl ⟨.unknown path ⟨f, hf⟩, _, rfl,
      (generateOne_of_error hprepare).trans (recordFailure_apply hreason), ?_⟩
    rw [generateOne_of_error hrec, recordFailure_apply hreason, Visit.append_asks rfl,
      List.append_assoc]
    rfl
  rw [hx] at hprepare
  replace hrec := hrec.trans (recording_apply hx _)
  by_cases may : existed = true → overwrite = true
  · rcases hp : provider prompt targets path w.rest with ⟨reply, r⟩
    cases hwritable : unwritable? reply with
    | none =>
      obtain ⟨v, w', hpath, hdir, hfound, hplain, hwrite⟩ :=
        writeTarget_visit provider prompt targets overwrite hfs path may (w := ⟨s₂, w.rest⟩) hp
          hwritable (files ++ [.createDirectory (Plan.parent path) (.ok ())] ++
            [.exists? path (.ok existed)]) rest
      refine Or.inl ⟨v, w', hpath, (generateOne_of_may hprepare may).trans hplain, ?_⟩
      refine ((generateOne_of_may hrec may).trans hwrite).trans ?_
      simp [Visit.fileCalls, hpath, hdir, hfound]
    | some f =>
      have hrecp : recordedProvider provider prompt targets path ⟨w.rest, rest⟩ = _ :=
        recording_apply hp rest
      refine Or.inr ⟨⟨path, existed, may, reply, f, hwritable⟩, _, rfl,
        (generateOne_of_may hprepare may).trans (writeTarget_of_unwritable hp hwritable), ?_⟩
      refine ((generateOne_of_may hrec may).trans
        (writeTarget_of_unwritable hrecp hwritable)).trans ?_
      rw [List.append_assoc]
      cases reply <;> rfl
  · -- the file is there and stays as it is
    obtain ⟨rfl, rfl⟩ := kept_of_not_may may
    refine Or.inl ⟨.skipped path rfl, _, rfl, generateOne_of_exists hprepare, ?_⟩
    rw [generateOne_of_exists hrec, Visit.append_asks rfl, List.append_assoc]
    rfl

/-- The targets one after the other: a visit for each, in order, up to one that halts the run. -/
theorem generateFrom_visits (hfs : Reports fs) (progress : Option (Progress ρ))
    (paths : List String) (done : Nat) (w : World τ ρ) (files : List FileCall)
    (rest : List RestCall) :
    AllVisited fs provider prompt targets overwrite progress done paths w files rest ∨
      SomeHalted fs provider prompt targets overwrite progress done paths w files rest := by
  -- the calls so far are any calls: the induction goes on behind those of the first target
  induction paths generalizing done w files rest with
  | nil => exact Or.inl ⟨[], w, rfl, rfl, by simp [generateFrom, restCalls]; rfl⟩
  | cons path paths ih =>
    rcases generateOne_visit provider prompt targets overwrite hfs path w files rest with
      ⟨v, w₁, rfl, hone, hrec⟩ | ⟨h, w₁, rfl, hone, hrec⟩
    · have hnext : generateFrom fs provider progress prompt targets overwrite done
          (v.path :: paths) w = _ := generateFrom_cons hone
      have hrecnext : generateFrom (recordedFiles fs) (recordedProvider provider)
          (progress.map recordedProgress) prompt targets overwrite done (v.path :: paths)
          (recorded w files rest) = _ := generateFrom_cons hrec
      simp only [recorded, reported_recorded] at hrecnext
      rcases ih (done + 1)
        ⟨w₁.files, reported progress (done + 1) targets.length (v.fate.message v.path) w₁.rest⟩
        (files ++ v.fileCalls prompt)
        (rest ++ v.asks prompt targets ++ v.reports progress.isSome (done + 1) targets.length) with
        ⟨visits, w', rfl, hall, hrest⟩ | ⟨visits, h, back, w', rfl, hall, hrest⟩
      · refine Or.inl ⟨v :: visits, w', rfl, by rw [hnext, hall]; rfl, ?_⟩
        simp only [recorded] at hrest ⊢
        rw [hrecnext, hrest]
        simp [restCalls, Except.map]
      · refine Or.inr ⟨v :: visits, h, back, w', rfl, by rw [hnext, hall]; rfl, ?_⟩
        simp only [recorded] at hrest ⊢
        rw [hrecnext, hrest]
        simp [restCalls, Except.map]
    · exact Or.inr ⟨[], h, paths, w₁, rfl, generateFrom_of_error hone, generateFrom_of_error hrec⟩

end

/-! ### A whole run -/

section

variable {τ ρ : Type} [Log.Journal ρ]

variable (fs : FileSystem τ) (provider : ContentProvider ρ) (progress : Option (Progress ρ))
  (prompt : String) (targets : List String) (overwrite : Bool) (w : World τ ρ)

/-- A run comes to its end, with a visit for each target in order. Its calls are those of the
visits, each with its answer, and so are its lists: a target is in one of them. -/
def Visited : Prop :=
  ∃ (visits : List (Visit overwrite)) (outcome : Outcome) (w' : World τ ρ),
    visits.map Visit.path = targets ∧
    generate fs provider progress prompt targets overwrite w = (.ok outcome, w') ∧
    generate (recordedFiles fs) (recordedProvider provider) (progress.map recordedProgress)
        prompt targets overwrite (recorded w [] []) =
      (.ok outcome, recorded w' (visits.flatMap (Visit.fileCalls prompt))
        (restCalls progress.isSome prompt targets 0 visits)) ∧
    (∀ v ∈ visits, v.reply?.isSome = true ↔ v.directory = .ok () ∧
      ∃ existed, v.found? = some (.ok existed) ∧ ¬ (existed = true ∧ overwrite = false)) ∧
    (∀ v ∈ visits, ∀ reply, v.reply? = some reply → unwritable? reply = none) ∧
    (∀ b, outcome.bucket b = (visits.filter fun v => v.bucket = b).map Visit.path ∧
      (outcome.bucket b).Sublist targets) ∧
    List.Perm outcome.all targets ∧
    outcome.fallbacks = (visits.filter Visit.usedFallback).map Visit.path ∧
    outcome.failed = visits.filterMap Visit.failure?

/-- A run ends early, at the first target whose provider answers with a text that has no bytes or
with a failure that has no wording. The targets before it are visited; it is not written, and those
behind it are not touched. -/
def Halted : Prop :=
  ∃ (visits : List (Visit overwrite)) (h : Halt overwrite) (back : List String) (w' : World τ ρ),
    targets = visits.map Visit.path ++ h.path :: back ∧
    generate fs provider progress prompt targets overwrite w = (.error h.failure, w') ∧
    generate (recordedFiles fs) (recordedProvider provider) (progress.map recordedProgress)
        prompt targets overwrite (recorded w [] []) =
      (.error h.failure, recorded w' (visits.flatMap (Visit.fileCalls prompt) ++ h.fileCalls)
        (restCalls progress.isSome prompt targets 0 visits ++ [h.ask prompt targets]))

variable {fs}

/-- With a file system that fails with refusals only, a run comes to its end unless an answer of the
provider is one that no file can be written with. -/
theorem generate_visits (hfs : Reports fs) :
    Visited fs provider progress prompt targets overwrite w ∨
      Halted fs provider progress prompt targets overwrite w := by
  rcases generateFrom_visits provider prompt targets overwrite hfs progress targets 0 w [] [] with
    ⟨visits, w', hpaths, hplain, hrec⟩ | ⟨visits, h, back, w', hpaths, hplain, hrec⟩
  · refine Or.inl ⟨visits, outcomeOf visits, _, hpaths, generate_of_ok hplain, ?_,
      fun v _ => v.reply?_isSome_iff, fun v _ _ => Visit.writable_of_reply?,
      fun b => ⟨outcomeOf_bucket visits b, ?_⟩, ?_,
      outcomeOf_fallbacks visits, outcomeOf_failed visits⟩
    · rw [generate_of_ok hrec]
      rfl
    · rw [outcomeOf_bucket, ← hpaths]
      exact List.filter_sublist.map _
    · have hperm := perm_ofFates (visits.map fun v => (v.path, v.fate))
      rw [List.map_map] at hperm
      rw [← hpaths]
      exact hperm
  · exact Or.inr ⟨visits, h, back, w', hpaths, generate_of_error hplain, generate_of_error hrec⟩

end

/-- Records in a list. -/
instance : Log.Journal (List Log.Record) where
  threshold _ := 0
  add r records := records ++ [r]

/-- Files by name, with a directory that cannot be made and a file that cannot be written. -/
def shelf : FileSystem (List String) where
  createDirectory path files :=
    if path == "locked" then (.error (.systemText "Permission denied"), files) else (.ok (), files)
  exists? path files := (.ok (files.contains path), files)
  writeFile path _ files :=
    if path == "full" then (.error (.fileSystem path "No space left"), files)
    else (.ok (), path :: files)
  listFiles _ _ _ files := (.ok files, files)

theorem reports_shelf : Reports shelf := by
  refine ⟨fun path files f h => ?_, fun path files f h => ?_, fun path content files f h => ?_⟩
  · simp only [shelf] at h
    split at h
    · cases h
      exact Or.inr rfl
    · cases h
  · cases h
  · simp only [shelf] at h
    split at h
    · cases h
      exact Or.inl ⟨_, _, rfl⟩
    · cases h

/-- A run that comes to its end: some targets are skipped, some fail, and a request fails. -/
theorem shelf_visits :
    Reports shelf ∧ Visited shelf
      (fun _ _ path => if path == "b" then return .error (.timeout "late") else return .ok .nothing)
      (some fun _ _ _ => pure ()) "prompt" ["a", "locked/x", "b", "full", "b"] false
      (⟨["a"], []⟩ : World (List String) (List Log.Record)) := by
  refine ⟨reports_shelf, (generate_visits _ _ _ _ _ _ reports_shelf).resolve_right ?_⟩
  rintro ⟨visits, h, back, w', -, hplain, -⟩
  cases congrArg Prod.fst hplain

/-- Half a pair for an answer ends the run, and the second target is in no list. -/
theorem shelf_halts :
    ¬ ∃ outcome w', generate shelf
        (fun _ _ path => return .ok (if path == "a" then .wide [.half 0] else .nothing)) none
        "prompt" ["a", "b"] false (⟨[], []⟩ : World (List String) (List Log.Record)) =
      (.ok outcome, w') := by
  rintro ⟨outcome, w', h⟩
  cases congrArg Prod.fst h

end Scaffold.Generation
