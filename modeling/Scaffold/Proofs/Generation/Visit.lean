import Scaffold.Proofs.Generation.Outcome
import Scaffold.Proofs.Generation.Recorded
import Scaffold.Proofs.Generation.Steps

/-!
# Visits

A `Visit` is what a generation run does for one target: the calls it makes, with their answers
(`Visit.fileCalls`, `Visit.asks`, `Visit.reports`), and what becomes of the target (`Visit.fate`). A
`Halt` is what it does for a target at which it ends early. The lists of an outcome are filters of
the visits (`outcomeOf_bucket`, `outcomeOf_failed`, `outcomeOf_fallbacks`).
-/

namespace Scaffold.Generation
open Scaffold.Workspace

/-- A failure that marks a target as failed. -/
structure Refusal where
  failure : Failure
  isRefusal : IsRefusal failure

/-- The reason that is given. -/
def Refusal.reason (refusal : Refusal) : String := reasonOf refusal.failure

/-- What is done for one target whose provider, if it is asked, answers with what a file can be
written with. -/
inductive Visit (overwrite : Bool)
  /-- the directory could not be made -/
  | noDirectory (path : String) (refusal : Refusal)
  /-- it could not be found out whether the file exists -/
  | unknown (path : String) (refusal : Refusal)
  | skipped (path : String) (kept : overwrite = false)
  /-- there was content, but it could not be written -/
  | unwritten (path : String) (existed : Bool) (may : existed = true → overwrite = true)
      (reply : Except Failure Reply) (writable : unwritable? reply = none) (refusal : Refusal)
  | written (path : String) (existed : Bool) (may : existed = true → overwrite = true)
      (reply : Except Failure Reply) (writable : unwritable? reply = none)

namespace Visit

variable {overwrite : Bool}

/-- The target. -/
def path : Visit overwrite → String
  | noDirectory path _ | unknown path _ | skipped path _ | unwritten path .. | written path .. =>
    path

/-- What the file system answered when the directory was made. -/
def directory : Visit overwrite → Except Failure Unit
  | noDirectory _ refusal => .error refusal.failure
  | _ => .ok ()

/-- What the file system answered when it was asked for the file, if it was asked. -/
def found? : Visit overwrite → Option (Except Failure Bool)
  | noDirectory .. => none
  | unknown _ refusal => some (.error refusal.failure)
  | skipped .. => some (.ok true)
  | unwritten _ existed .. | written _ existed .. => some (.ok existed)

/-- What the provider answered, if it was asked. -/
def reply? : Visit overwrite → Option (Except Failure Reply)
  | unwritten _ _ _ reply _ _ | written _ _ _ reply _ => some reply
  | _ => none

/-- What the file system answered when the file was written, if it was. -/
def written? : Visit overwrite → Option (Except Failure Unit)
  | unwritten _ _ _ _ _ refusal => some (.error refusal.failure)
  | written .. => some (.ok ())
  | _ => none

/-- What becomes of the target. -/
def fate : Visit overwrite → Fate
  | noDirectory _ refusal | unknown _ refusal | unwritten _ _ _ _ _ refusal =>
    .failed refusal.reason
  | skipped .. => .skipped
  | written _ existed _ reply _ =>
    if existed then .overwritten (isFallback reply) else .created (isFallback reply)

/-- The list in which the target ends. -/
def bucket : Visit overwrite → Bucket
  | written _ existed .. => if existed then .overwritten else .created
  | skipped .. => .skipped
  | _ => .failed

/-- What the progress callback hears of the target. -/
def message (v : Visit overwrite) : String :=
  match v.bucket with
  | .created => "created " ++ v.path
  | .overwritten => "overwrote " ++ v.path
  | .skipped => "skipped " ++ v.path
  | .failed => "failed " ++ v.path

theorem message_fate (v : Visit overwrite) : v.fate.message v.path = v.message := by
  cases v with
  | written path existed may reply writable => cases existed <;> rfl
  | _ => rfl

end Visit

/-! ### The calls of a visit -/

namespace Visit

variable {overwrite : Bool}

/-- The call that writes the file. -/
def writes (prompt : String) (v : Visit overwrite) : List FileCall :=
  v.reply?.toList.flatMap fun reply =>
    v.written?.toList.map (FileCall.writeFile v.path (contentBytes prompt v.path reply))

/-- The calls of the file system. -/
def fileCalls (prompt : String) (v : Visit overwrite) : List FileCall :=
  .createDirectory (Plan.parent v.path) v.directory ::
    (v.found?.toList.map (FileCall.exists? v.path) ++ v.writes prompt)

/-- The calls of the provider. -/
def asks (prompt : String) (targets : List String) (v : Visit overwrite) : List RestCall :=
  v.reply?.toList.map (RestCall.ask prompt targets v.path)

/-- The call of the progress callback, if there is one. -/
def reports (heard : Bool) (done total : Nat) (v : Visit overwrite) : List RestCall :=
  if heard then [.report done total v.message] else []

theorem append_asks {v : Visit overwrite} (h : v.reply? = none) (prompt : String)
    (targets : List String) (rest : List RestCall) : rest ++ v.asks prompt targets = rest := by
  simp [asks, h]

end Visit

/-- The calls of the provider and of the progress callback, `done` targets being done before. -/
def restCalls {overwrite : Bool} (heard : Bool) (prompt : String) (targets : List String) :
    Nat → List (Visit overwrite) → List RestCall
  | _, [] => []
  | done, v :: visits =>
    v.asks prompt targets ++ v.reports heard (done + 1) targets.length ++
      restCalls heard prompt targets (done + 1) visits

/-! ### Where a run ends early -/

/-- What is done for a target whose provider answers with what no file can be written with. -/
structure Halt (overwrite : Bool) where
  path : String
  existed : Bool
  may : existed = true → overwrite = true
  reply : Except Failure Reply
  failure : Failure
  unwritable : unwritable? reply = some failure

namespace Halt

variable {overwrite : Bool}

/-- The calls of the file system: the file is not written. -/
def fileCalls (h : Halt overwrite) : List FileCall :=
  [.createDirectory (Plan.parent h.path) (.ok ()), .exists? h.path (.ok h.existed)]

/-- The call of the provider. -/
def ask (prompt : String) (targets : List String) (h : Halt overwrite) : RestCall :=
  .ask prompt targets h.path h.reply

end Halt

/-! ### The lists of an outcome -/

namespace Visit

variable {overwrite : Bool}

/-- The provider failed, and the write succeeded. -/
def usedFallback (v : Visit overwrite) : Bool :=
  match v.reply?, v.written? with
  | some (.error _), some (.ok ()) => true
  | _, _ => false

/-- Why the target failed, if it did. -/
def failure? : Visit overwrite → Option FailedPath
  | noDirectory path refusal | unknown path refusal | unwritten path _ _ _ _ refusal =>
    some ⟨path, refusal.reason⟩
  | _ => none

/-- What the provider answered can be written. -/
theorem writable_of_reply? {v : Visit overwrite} {reply : Except Failure Reply}
    (h : v.reply? = some reply) : unwritable? reply = none := by
  cases v with
  | unwritten _ _ _ reply' writable _ | written _ _ _ reply' writable =>
    cases h
    exact writable
  | _ => cases h

/-- The provider is asked when the checks succeeded and nothing that exists is to be kept. -/
theorem reply?_isSome_iff (v : Visit overwrite) :
    v.reply?.isSome = true ↔ v.directory = .ok () ∧
      ∃ existed, v.found? = some (.ok existed) ∧ ¬ (existed = true ∧ overwrite = false) := by
  cases v with
  | noDirectory path refusal => simp [reply?, directory]
  | unknown path refusal => simp [reply?, found?]
  | skipped path kept => simp [reply?, found?, kept]
  | unwritten path existed may reply writable refusal =>
    refine iff_of_true rfl ⟨rfl, existed, rfl, fun h => ?_⟩
    rw [may h.1] at h
    exact Bool.noConfusion h.2
  | written path existed may reply writable =>
    refine iff_of_true rfl ⟨rfl, existed, rfl, fun h => ?_⟩
    rw [may h.1] at h
    exact Bool.noConfusion h.2

end Visit

section

variable {overwrite : Bool} (visits : List (Visit overwrite))

/-- The targets of visits by what became of them. -/
def outcomeOf : Outcome := .ofFates (visits.map fun v => (v.path, v.fate))

theorem Visit.bucket_fate (v : Visit overwrite) : v.fate.bucket = v.bucket := by
  cases v with
  | written path existed may reply writable => cases existed <;> rfl
  | _ => rfl

/-- A list has the targets of the visits that end in it, in order. -/
theorem outcomeOf_bucket (b : Bucket) :
    (outcomeOf visits).bucket b = (visits.filter fun v => v.bucket = b).map Visit.path := by
  rw [outcomeOf, bucket_ofFates, List.filter_map, List.map_map]
  simp only [Function.comp_def, Visit.bucket_fate]

theorem outcomeOf_failed : (outcomeOf visits).failed = visits.filterMap Visit.failure? := by
  rw [outcomeOf, Outcome.ofFates, List.filterMap_map]
  refine List.filterMap_congr fun v _ => ?_
  cases v with
  | written path existed may reply writable => cases existed <;> rfl
  | _ => rfl

theorem outcomeOf_fallbacks :
    (outcomeOf visits).fallbacks = (visits.filter Visit.usedFallback).map Visit.path := by
  have hused : ∀ v : Visit overwrite, v.fate.usedFallback = v.usedFallback := by
    intro v
    cases v with
    | written path existed may reply writable => cases existed <;> cases reply <;> rfl
    | unwritten path existed may reply writable refusal => cases reply <;> rfl
    | _ => rfl
  simp only [outcomeOf, Outcome.ofFates, Outcome.pathsOf, List.filter_map, List.map_map,
    Function.comp_def, hused]

end

end Scaffold.Generation
