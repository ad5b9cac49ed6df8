import Mathlib
import Scaffold.Proofs.Generation.Kept
import Scaffold.Proofs.Generation.Local
import Scaffold.Proofs.Generation.Run
import Scaffold.Proofs.Workspace.Linkless

/-!
# Generating again

In a workspace without links, what becomes of a target is settled for good (`Settled`): what refused
it refuses it in every larger tree, and else something is there, where the run found or wrote it. A
run that may not overwrite only makes the tree larger, so where it comes to its end it leaves all
its targets settled (`generateFrom_settles`). A run over settled targets changes no file and asks
for no content (`generateFrom_of_settled`). Hence `generate_again`: to run a second time is
harmless, unless the first run ended early for an answer that no file can be written with.
-/

namespace Scaffold.Generation
open Scaffold.Workspace

/-- A path in its one spelling that the system can be asked for. -/
def IsTarget (path : String) : Prop :=
  (∃ raw, Plan.normalize raw = .ok path) ∧ '\x00' ∉ path.toList

/-- What became of the target at a place, below a directory, and why that will not be different. -/
inductive Ends (top : Node) (parent : List String) (last : String) : Fate → Prop
  /-- its directory cannot be made -/
  | noDirectory {cause} : Refuses top parent cause → Ends top parent last (.failed cause.message)
  /-- it cannot be found out whether it is there -/
  | unknown {cause} : Passable top parent → Refuses top (parent ++ [last]) cause →
      cause ≠ .entryExists → Ends top parent last (.failed cause.message)
  | there {fate} : (∀ reason, fate ≠ .failed reason) → Passable top parent →
      Passable top (parent ++ [last]) ∨ Refuses top (parent ++ [last]) .entryExists →
      Ends top parent last fate

/-- What became of a target of a workspace is settled. -/
def Settled (root : List String) (top : Node) (path : String) (fate : Fate) : Prop :=
  ∃ names last, Spelled path (names ++ [last]) ∧ Spelled (Plan.parent path) names ∧
    Ends top (root ++ names) last fate

/-- What becomes of a settled target the next time. -/
def Fate.again : Fate → Fate
  | failed reason => failed reason
  | _ => skipped

section

variable {root names : List String} {top top' old new : Node} {path last : String}
  {fate fate' : Fate}

theorem Settled.mono (h : Settled root old path fate) (hkeeps : Keeps old new) :
    Settled root new path fate := by
  obtain ⟨names, last, hpath, hparent, hends⟩ := h
  refine ⟨names, last, hpath, hparent, ?_⟩
  cases hends with
  | noDirectory hrefuses => exact .noDirectory (hrefuses.mono hkeeps)
  | unknown hpass hrefuses hcause =>
    exact .unknown (hpass.mono hkeeps) (hrefuses.mono hkeeps) hcause
  | there hfate hpass hplace =>
    exact .there hfate (hpass.mono hkeeps) (hplace.imp (·.mono hkeeps) (·.mono hkeeps))

/-- The directory and the check of a settled target: the tree stays, and what is found is what the
fate says. -/
theorem prepare_of_settled (htop : Linkless top root) (h : Settled root top path fate) :
    (∃ place reason, fate = .failed reason ∧
        prepare (.local (.top root)) path top = (.error (.fileSystem place reason), top)) ∨
      (∀ reason, fate ≠ .failed reason) ∧
        prepare (.local (.top root)) path top = (.ok true, top) := by
  obtain ⟨names, last, hpath, hparent, hends⟩ := h
  cases hends with
  | noDirectory hrefuses =>
    exact Or.inl ⟨_, _, rfl, prepare_of_error (createDirectoryIn_refuses htop hparent hrefuses)⟩
  | @unknown cause hpass hrefuses hcause =>
    have hexists := existsIn_refuses htop hpath (List.append_assoc root _ _ ▸ hrefuses)
    rw [if_neg hcause] at hexists
    refine Or.inl ⟨path, cause.message, rfl, ?_⟩
    rw [prepare_of_ok (createDirectoryIn_passable htop hparent hpass)]
    simp only [FileSystem.local, hexists, pathFailure]
  | there hfate hpass hplace =>
    have hexists : existsIn (.top root) path top = .ok true := by
      rw [List.append_assoc] at hplace
      rcases hplace with hplace | hplace
      · exact existsIn_passable htop hpath hplace
      · exact existsIn_refuses htop hpath hplace
    refine Or.inr ⟨hfate, ?_⟩
    rw [prepare_of_ok (createDirectoryIn_passable htop hparent hpass)]
    simp only [FileSystem.local, hexists]

theorem again_of_ne_failed (h : ∀ reason, fate ≠ .failed reason) : fate.again = .skipped := by
  cases fate with
  | failed reason => exact absurd rfl (h reason)
  | _ => rfl

/-- A path that comes twice is settled in one way. -/
theorem Settled.again_unique (htop : Linkless top root) (h : Settled root top path fate)
    (h' : Settled root top path fate') : fate.again = fate'.again := by
  rcases prepare_of_settled htop h with ⟨place, reason, rfl, hp⟩ | ⟨hne, hp⟩ <;>
    rcases prepare_of_settled htop h' with ⟨place', reason', rfl, hp'⟩ | ⟨hne', hp'⟩ <;>
    rw [hp] at hp'
  · cases hp'
    rfl
  · cases hp'
  · cases hp'
  · rw [again_of_ne_failed hne, again_of_ne_failed hne']

end

/-! ### A run settles its targets -/

section

variable {ρ : Type} [Log.Journal ρ] {root : List String} (provider : ContentProvider ρ)
  (progress : Option (Progress ρ)) (prompt : String) (targets : List String)

variable {provider prompt targets}

/-- One target of which something became. -/
theorem generateOne_settles {path : String} (hpath : IsTarget path) {w w' : World Node ρ}
    (h : Linkless w.files root) {fate : Fate}
    (hone : generateOne (.local (.top root)) provider prompt targets false path w =
      (.ok fate, w')) :
    Linkless w'.files root ∧ Settled root w'.files path fate := by
  obtain ⟨⟨raw, hraw⟩, hnul⟩ := hpath
  obtain ⟨names, last, hpath, hparent⟩ := spelled_of_normalize hraw hnul
  rcases createDirectoryIn_cases h hparent with ⟨mid, hdir, hfree, hpass⟩ |
    ⟨cause, mid, hdir, hfree, hrefuses⟩
  · have hprepare : prepare (.local (.top root)) path w.files =
        (existsIn (.top root) path mid, mid) := prepare_of_ok hdir
    rcases existsIn_cases hfree hpath hpass with ⟨hx, hplace⟩ | ⟨cause, hx, hrefuses, hcause⟩ |
      ⟨hx, hwrite⟩ <;> rw [hx] at hprepare
    · rw [generateOne_of_exists hprepare] at hone
      cases hone
      exact ⟨hfree, names, last, hpath, hparent, .there (by simp) hpass hplace⟩
    · rw [generateOne_of_error hprepare, recordFailure_apply rfl] at hone
      cases hone
      exact ⟨hfree, names, last, hpath, hparent, .unknown hpass hrefuses hcause⟩
    · rw [generateOne_of_may hprepare (by simp)] at hone
      rcases hp : provider prompt targets path w.rest with ⟨reply, r⟩
      cases hwritable : unwritable? reply with
      | some f =>
        rw [writeTarget_of_unwritable (w := ⟨mid, w.rest⟩) hp hwritable] at hone
        cases hone
      | none =>
        obtain ⟨top', hw, hfree', hrefuses⟩ := hwrite (contentBytes prompt path reply)
        have hkeeps := keeps_writeFileIn hx (contentBytes prompt path reply)
        rw [hw] at hkeeps
        have hcalled : (FileSystem.local (.top root)).writeFile path
            (contentBytes prompt path reply) mid = (.ok (), top') := hw
        rw [writeTarget_of_ok (w := ⟨mid, w.rest⟩) hp hwritable hcalled] at hone
        cases hone
        exact ⟨hfree', names, last, hpath, hparent,
          .there (by simp) (hpass.mono hkeeps) (Or.inr hrefuses)⟩
  · rw [generateOne_of_error (prepare_of_error hdir), recordFailure_apply rfl] at hone
    cases hone
    exact ⟨hfree, names, last, hpath, hparent, .noDirectory hrefuses⟩

/-- The targets one after the other: what is settled stays so while the others are generated. -/
theorem generateFrom_settles {paths : List String} (hpaths : ∀ path ∈ paths, IsTarget path)
    {done : Nat} {w w' : World Node ρ} (h : Linkless w.files root) {fates : List (String × Fate)}
    (hall : generateFrom (.local (.top root)) provider progress prompt targets false done paths w =
      (.ok fates, w')) :
    Linkless w'.files root ∧ ∀ target ∈ fates, Settled root w'.files target.1 target.2 := by
  induction paths generalizing done w fates with
  | nil =>
    cases hall
    exact ⟨h, by simp⟩
  | cons path paths ih =>
    rcases hone : generateOne (.local (.top root)) provider prompt targets false path w with
      ⟨f | fate, mid⟩
    · rw [generateFrom_of_error hone] at hall
      cases hall
    · obtain ⟨hfree, hsettled⟩ := generateOne_settles (hpaths path List.mem_cons_self) h hone
      obtain ⟨others, rfl, hothers⟩ := (generateFrom_cons_eq_ok_iff hone).1 hall
      have hkeeps := keeps_generateFrom (.top root) provider progress prompt targets paths
        (done + 1)
        ⟨mid.files, reported progress (done + 1) targets.length (fate.message path) mid.rest⟩
      rw [hothers] at hkeeps
      have hback := ih (fun p hp => hpaths p (List.mem_cons_of_mem path hp))
        (w := ⟨mid.files, reported progress (done + 1) targets.length (fate.message path) mid.rest⟩)
        hfree hothers
      refine ⟨hback.1, fun target hm => ?_⟩
      rcases List.mem_cons.1 hm with rfl | hm
      · exact hsettled.mono hkeeps
      · exact hback.2 target hm

end

/-! ### A run over settled targets -/

section

variable {ρ : Type} [Log.Journal ρ] {root : List String}

/-- The state with the report on a target that is left as it is. -/
def passed (path : String) : Fate → ρ → ρ
  | .failed reason, r => noted .error s!"Failed to generate {path}: {reason}" r
  | _, r => noted .debug s!"Skipping existing file {path}" r

/-- The state after targets that are left as they are: their reports, and the progress callback. -/
def heard (progress : Option (Progress ρ)) (total : Nat) : Nat → List (String × Fate) → ρ → ρ
  | _, [], r => r
  | done, (path, fate) :: fates, r =>
    heard progress total (done + 1) fates
      (reported progress (done + 1) total (fate.again.message path) (passed path fate r))

variable (provider : ContentProvider ρ) (progress : Option (Progress ρ)) (prompt : String)
  (targets : List String)

theorem generateOne_of_settled {path : String} {fate : Fate} {top : Node}
    (htop : Linkless top root) (h : Settled root top path fate) (r : ρ) :
    generateOne (.local (.top root)) provider prompt targets false path ⟨top, r⟩ =
      (.ok fate.again, ⟨top, passed path fate r⟩) := by
  rcases prepare_of_settled htop h with ⟨place, reason, rfl, hp⟩ | ⟨hne, hp⟩
  · exact (generateOne_of_error hp).trans (recordFailure_apply rfl)
  · rw [again_of_ne_failed hne, generateOne_of_exists hp]
    cases fate with
    | failed reason => exact absurd rfl (hne reason)
    | _ => rfl

/-- Settled targets are left as they are, and no content is asked for: the provider has no part in
the state that is left. -/
theorem generateFrom_of_settled {top : Node} (htop : Linkless top root)
    {fates : List (String × Fate)}
    (h : ∀ target ∈ fates, Settled root top target.1 target.2) (done : Nat) (r : ρ) :
    generateFrom (.local (.top root)) provider progress prompt targets false done
        (fates.map Prod.fst) ⟨top, r⟩ =
      (.ok (fates.map fun target => (target.1, target.2.again)),
        ⟨top, heard progress targets.length done fates r⟩) := by
  induction fates generalizing done r with
  | nil => rfl
  | cons target fates ih =>
    obtain ⟨path, fate⟩ := target
    have hone := generateOne_of_settled provider prompt targets htop (h _ List.mem_cons_self) r
    have hothers := ih fun t ht => h t (List.mem_cons_of_mem _ ht)
    exact (generateFrom_cons_eq_ok_iff hone).2 ⟨_, rfl, hothers (done + 1) _⟩

/-- Writing down the calls, all that is heard is the progress callback. -/
theorem heard_recorded (total done : Nat) (fates : List (String × Fate)) (r : ρ)
    (calls : List RestCall) :
    ∃ reports : List RestCall,
      (∀ call ∈ reports, ∃ done total message, call = .report done total message) ∧
        heard (progress.map recordedProgress) total done fates ⟨r, calls⟩ =
          ⟨heard progress total done fates r, calls ++ reports⟩ := by
  induction fates generalizing done r calls with
  | nil => exact ⟨[], by simp, by simp [heard]⟩
  | cons target fates ih =>
    obtain ⟨path, fate⟩ := target
    have hpassed : passed path fate (⟨r, calls⟩ : Recorded ρ RestCall) =
        ⟨passed path fate r, calls⟩ := by
      cases fate <;> rfl
    rw [heard, hpassed, heard]
    cases progress with
    | none => exact ih (done + 1) (passed path fate r) calls
    | some report =>
      obtain ⟨reports, hreports, hrest⟩ := ih (done + 1)
        (report (done + 1) total (fate.again.message path) (passed path fate r)).2
        (calls ++ [.report (done + 1) total (fate.again.message path)])
      refine ⟨.report (done + 1) total (fate.again.message path) :: reports, ?_, ?_⟩
      · intro call hcall
        rcases List.mem_cons.1 hcall with rfl | hcall
        · exact ⟨_, _, _, rfl⟩
        · exact hreports call hcall
      · rw [List.append_assoc, List.singleton_append] at hrest
        exact hrest

end

/-! ### The outcomes -/

/-- The second outcome is that of a run that changes nothing: what failed fails again, with the same
reason, and all else is skipped. -/
structure Repeats (targets : List String) (first second : Outcome) : Prop where
  created : second.created = []
  overwritten : second.overwritten = []
  fallbacks : second.fallbacks = []
  failed : second.failed = first.failed
  skipped : second.skipped =
    targets.filter fun path => path ∉ first.failed.map FailedPath.path

/-- The outcomes of two runs, if what comes twice has one fate. -/
theorem repeats_ofFates {fates : List (String × Fate)}
    (hunique : ∀ target ∈ fates, ∀ target' ∈ fates, target.1 = target'.1 →
      target.2.again = target'.2.again) :
    Repeats (fates.map Prod.fst) (.ofFates fates)
      (.ofFates (fates.map fun target => (target.1, target.2.again))) := by
  have hbucket : ∀ b, (Outcome.ofFates (fates.map fun t => (t.1, t.2.again))).bucket b =
      (fates.filter fun t => t.2.again.bucket = b).map Prod.fst := by
    intro b
    rw [bucket_ofFates, List.filter_map, List.map_map]
    rfl
  have hagain : ∀ fate : Fate, fate.again.bucket = .skipped ∨ fate.again.bucket = .failed := by
    intro fate
    cases fate <;> simp [Fate.again, Fate.bucket]
  have hnil : ∀ b, b ≠ .skipped → b ≠ .failed →
      (Outcome.ofFates (fates.map fun t => (t.1, t.2.again))).bucket b = [] := by
    intro b hskipped hfailed
    rw [hbucket, List.map_eq_nil_iff, List.filter_eq_nil_iff]
    intro t _ hb
    rcases hagain t.2 with ht | ht <;> rw [ht, decide_eq_true_eq] at hb
    · exact hskipped hb.symm
    · exact hfailed hb.symm
  have hpaths : (Outcome.ofFates fates).failed.map FailedPath.path =
      (fates.filter fun t => t.2.bucket = .failed).map Prod.fst := bucket_ofFates .failed fates
  refine ⟨hnil .created (by simp) (by simp), hnil .overwritten (by simp) (by simp), ?_, ?_, ?_⟩
  · simp only [Outcome.ofFates, Outcome.pathsOf, List.map_eq_nil_iff, List.filter_eq_nil_iff,
      List.mem_map]
    rintro _ ⟨⟨path, fate⟩, -, rfl⟩
    cases fate <;> simp [Fate.again, Fate.usedFallback]
  · rw [Outcome.ofFates, Outcome.ofFates, List.filterMap_map]
    refine List.filterMap_congr fun t _ => ?_
    obtain ⟨path, fate⟩ := t
    cases fate <;> rfl
  · refine (hbucket .skipped).trans ?_
    rw [List.filter_map, hpaths]
    refine congrArg (List.map Prod.fst) (List.filter_congr fun t ht => ?_)
    rw [Function.comp_apply, decide_eq_decide, List.mem_map]
    constructor
    · -- a path that failed once is not skipped another time
      rintro hskipped ⟨t', ht', hpath⟩
      obtain ⟨hmem, hfailed⟩ := List.mem_filter.1 ht'
      rw [hunique t ht t' hmem hpath.symm] at hskipped
      obtain ⟨path', fate'⟩ := t'
      cases fate' <;> simp [Fate.again, Fate.bucket] at hfailed hskipped
    · intro hno
      rcases hagain t.2 with hb | hb
      · exact hb
      · refine absurd ⟨t, List.mem_filter.2 ⟨ht, ?_⟩, rfl⟩ hno
        obtain ⟨path, fate⟩ := t
        cases fate <;> simp [Fate.again, Fate.bucket] at hb ⊢

/-! ### Two runs -/

/-- A run from the files that another run left changes none of them and repeats its outcome. Writing
down its calls, it asks for no content. -/
def LeavesAlone {τ ρ : Type} [Log.Journal ρ] (fs : FileSystem τ) (targets : List String)
    (first : Outcome) (files : τ) (provider : ContentProvider ρ) (progress : Option (Progress ρ))
    (prompt : String) (rest : ρ) : Prop :=
  ∃ second rest',
    generate fs provider progress prompt targets false ⟨files, rest⟩ =
        (.ok second, ⟨files, rest'⟩) ∧
      Repeats targets first second ∧
      ∃ reports : List RestCall,
        (∀ call ∈ reports, ∃ done total message, call = .report done total message) ∧
          generate fs (recordedProvider provider) (progress.map recordedProgress) prompt targets
              false ⟨files, ⟨rest, []⟩⟩ =
            (.ok second, ⟨files, ⟨rest', reports⟩⟩)

section

variable {ρ ρ' : Type} [Log.Journal ρ] [Log.Journal ρ']

/-- In a workspace without links no target stops a run, so only an answer can end it early. -/
theorem generate_error_iff_linkless {root : List String} {top : Node} (htop : Linkless top root)
    {targets : List String} (htargets : ∀ path ∈ targets, IsTarget path)
    (provider : ContentProvider ρ) (progress : Option (Progress ρ)) (prompt : String) (rest : ρ)
    (f : Failure) :
    (generate (.local (.top root)) provider progress prompt targets false ⟨top, rest⟩).1 =
        .error f ↔
      ∃ front path back fates w, targets = front ++ path :: back ∧
        generateFrom (.local (.top root)) provider progress prompt targets false 0 front
          ⟨top, rest⟩ = (.ok fates, w) ∧
        HaltsAt (.top root) provider prompt targets false w path f := by
  rw [generate_eq_error_iff, generateFrom_error_iff]
  constructor
  · rintro ⟨front, path, back, fates, w, hsplit, hfront, hends⟩
    refine ⟨front, path, back, fates, w, hsplit, hfront, hends.resolve_left ?_⟩
    -- in the tree that the front leaves there is no link either
    have hmem : ∀ p ∈ front, IsTarget p := fun p hp => htargets p (by simp [hsplit, hp])
    obtain ⟨⟨raw, hraw⟩, hnul⟩ := htargets path (by simp [hsplit])
    obtain ⟨names, last, hpath, hparent⟩ := spelled_of_normalize hraw hnul
    exact not_stops_linkless (generateFrom_settles progress hmem htop hfront).1 hpath hparent f
  · rintro ⟨front, path, back, fates, w, hsplit, hfront, hhalts⟩
    exact ⟨front, path, back, fates, w, hsplit, hfront, Or.inr hhalts⟩

/-- There a run comes to its end when every answer can be written. -/
theorem exists_generate_linkless {root : List String} {top : Node} (htop : Linkless top root)
    {targets : List String} (htargets : ∀ path ∈ targets, IsTarget path)
    {provider : ContentProvider ρ} {prompt : String}
    (hwritable : ∀ path rest, unwritable? (provider prompt targets path rest).1 = none)
    (progress : Option (Progress ρ)) (rest : ρ) :
    ∃ outcome w, generate (.local (.top root)) provider progress prompt targets false ⟨top, rest⟩ =
      (.ok outcome, w) := by
  rcases hrun : generate (.local (.top root)) provider progress prompt targets false ⟨top, rest⟩
    with ⟨f | outcome, w⟩
  · obtain ⟨front, path, back, fates, w', -, -, existed, mid, -, -, hsome⟩ :=
      (generate_error_iff_linkless htop htargets provider progress prompt rest f).1 (by rw [hrun])
    rw [hwritable] at hsome
    cases hsome
  · exact ⟨outcome, w, rfl⟩

/-- In a workspace without links, a run ends early just when one of its targets, in the tree that
the targets before it leave, may be written and its provider answers with what no file can be
written with. When it comes to its end, to generate the same targets a second time, with whatever
provider, is harmless. -/
theorem generate_again {root : List String} {top : Node} (htop : Linkless top root)
    {targets : List String} (htargets : ∀ path ∈ targets, IsTarget path)
    (provider : ContentProvider ρ) (progress : Option (Progress ρ)) (prompt : String) (rest : ρ)
    (provider' : ContentProvider ρ') (progress' : Option (Progress ρ')) (prompt' : String)
    (rest' : ρ') :
    (∀ f, (generate (.local (.top root)) provider progress prompt targets false
        ⟨top, rest⟩).1 = .error f ↔
      ∃ front path back fates w, targets = front ++ path :: back ∧
        generateFrom (.local (.top root)) provider progress prompt targets false 0 front
          ⟨top, rest⟩ = (.ok fates, w) ∧
        HaltsAt (.top root) provider prompt targets false w path f) ∧
    ∀ first w, generate (.local (.top root)) provider progress prompt targets false ⟨top, rest⟩ =
        (.ok first, w) →
      LeavesAlone (.local (.top root)) targets first w.files provider' progress' prompt' rest' := by
  refine ⟨generate_error_iff_linkless htop htargets provider progress prompt rest,
    fun first w hfirst => ?_⟩
  rcases hall : generateFrom (.local (.top root)) provider progress prompt targets false 0 targets
    ⟨top, rest⟩ with ⟨f | fates, w₁⟩
  · rw [generate_of_error hall] at hfirst
    cases hfirst
  rw [generate_of_ok hall] at hfirst
  cases hfirst
  obtain ⟨hfree, hsettled⟩ := generateFrom_settles progress htargets htop hall
  have hpaths := map_fst_of_generateFrom hall
  have hsecond := generateFrom_of_settled provider' progress' prompt' targets hfree hsettled 0 rest'
  have hrecorded := generateFrom_of_settled (recordedProvider provider')
    (progress'.map recordedProgress) prompt' targets hfree hsettled 0 ⟨rest', []⟩
  obtain ⟨reports, hreports, hheard⟩ := heard_recorded progress' targets.length 0 fates rest' []
  rw [hpaths] at hsecond hrecorded
  rw [hheard, List.nil_append] at hrecorded
  refine ⟨_, _, generate_of_ok hsecond, ?_, reports, hreports, generate_of_ok hrecorded⟩
  rw [← hpaths]
  refine repeats_ofFates fun t ht t' ht' hpath => ?_
  have hother := hsettled t' ht'
  rw [← hpath] at hother
  exact (hsettled t ht).again_unique hfree hother

/-- A workspace with a file, and targets below that file, at it, and twice at a path that is
missing, with the directory above it among them. -/
theorem generate_again_fileTree :
    let top : Node := .directory [("ws", .directory [("a", .file "old".toUTF8)])]
    let targets := ["a/x", "b/c", "b", "a", "b/c"]
    Linkless top ["ws"] ∧ (∀ path ∈ targets, IsTarget path) ∧
      ∃ first w, generate (.local (.top ["ws"])) (fun _ _ _ => return .ok .nothing) none "prompt"
          targets false (⟨top, []⟩ : World Node (List Log.Record)) = (.ok first, w) ∧
        LeavesAlone (.local (.top ["ws"])) targets first w.files
          (fun _ _ _ => return .error (.timeout "late")) (some fun _ _ _ => pure ()) "other"
          ([] : List Log.Record) := by
  intro top targets
  have htop : Linkless top ["ws"] := by
    refine ⟨rfl, fun name hm => ?_, by decide, fun place target _ => ne_link_of_linkCount rfl⟩
    rw [List.mem_singleton.1 hm]
    exact ⟨by decide, by decide⟩
  have htargets : ∀ path ∈ targets, IsTarget path := by
    have hall : ∀ path ∈ targets, Plan.normalizeChars path.toList = .ok path.toList ∧
        '\x00' ∉ path.toList := by decide +kernel
    intro path hm
    obtain ⟨hnormal, hnul⟩ := hall path hm
    exact ⟨⟨path, Plan.normalize_eq_ok_iff.2 hnormal⟩, hnul⟩
  let provider : ContentProvider (List Log.Record) := fun _ _ _ => return .ok .nothing
  obtain ⟨hends, hagain⟩ := generate_again htop htargets provider none "prompt"
    ([] : List Log.Record) (fun _ _ _ => return .error (.timeout "late"))
    (some fun _ _ _ => pure ()) "other" ([] : List Log.Record)
  refine ⟨htop, htargets, ?_⟩
  rcases hrun : generate (.local (.top ["ws"])) provider none "prompt" targets false ⟨top, []⟩ with
    ⟨f | first, w⟩
  · -- nothing is an answer that a file can be written with
    obtain ⟨front, path, back, fates, w₁, -, -, existed, mid, -, -, hnone⟩ :=
      (hends f).1 (by rw [hrun])
    cases hnone
  · exact ⟨first, w, rfl, hagain first w hrun⟩

/-- A run that half a pair for an answer ended early: the second run writes the file. -/
theorem generate_again_half :
    let top : Node := .directory [("ws", .directory [])]
    let first := generate (.local (.top ["ws"])) (fun _ _ _ => return .ok (.wide [.half 0])) none
      "prompt" ["a"] false (⟨top, []⟩ : World Node (List Log.Record))
    let second := generate (.local (.top ["ws"])) (fun _ _ _ => return .ok .nothing) none "prompt"
      ["a"] false (⟨first.2.files, []⟩ : World Node (List Log.Record))
    first.1 = .error (.unencodable ⟨0, 0, 0⟩) ∧
      second.1 = .ok { Outcome.empty with created := ["a"] } := by
  constructor <;> cbv

end

end Scaffold.Generation
