import Scaffold.Proofs.Workspace.Confine
import Scaffold.Proofs.Workspace.Resolved

/-!
# Calls of a workspace's file system

Directories are made, and a file is written where none was found, without loss of what stands
(`keeps_createDirectoryIn`, `keeps_writeFileIn`).

A `Call` is one of the three operations with its path, and `runAll` makes calls one after the other.
`calls_confined` says what they leave alone: everything outside the root, unless the root or the
path of a call strays. That does happen: `loopTree` has a path that strays to a file outside.
-/

namespace Scaffold.Workspace

/-! ### What stands is kept -/

section

variable {root : Location} {top : Node} {path : String}

theorem keeps_createDirectoryIn (root : Location) (path : String) (top : Node) :
    Keeps top (createDirectoryIn root path top).2 := by
  unfold createDirectoryIn
  split
  · exact .refl top
  · next target _ =>
    have hkeeps := keeps_ensureDirectories top target
    split <;> next h => rwa [h] at hkeeps

/-- What does not exist was looked for where it will be written. -/
theorem stat_of_existsIn (h : existsIn root path top = .ok false) :
    ∃ target, confine root top path = .ok target ∧ top.stat target = .error .noEntry := by
  simp only [existsIn, bind, Except.bind] at h
  split at h
  · cases h
  · next target hc =>
    refine ⟨target, hc, ?_⟩
    split at h
    · cases h
    · next hstat => exact hstat
    · cases h

/-- What exists is found where the path leads. -/
theorem existsIn_eq_true_iff : existsIn root path top = .ok true ↔
    ∃ l n, confine root top path = .ok l ∧ top.stat l = .ok n := by
  simp only [existsIn, bind, Except.bind]
  cases hl : confine root top path with
  | error f => simp
  | ok l =>
    rcases hstat : top.stat l with cause | n
    · cases cause <;> simp [hstat, throw, throwThe, MonadExceptOf.throw, pure, Except.pure]
    · simp [hstat, pure, Except.pure]

/-- A file that does not exist is written without loss. -/
theorem keeps_writeFileIn (h : existsIn root path top = .ok false) (content : ByteArray) :
    Keeps top (writeFileIn root path content top).2 := by
  obtain ⟨target, hc, hstat⟩ := stat_of_existsIn h
  simp only [writeFileIn, hc]
  split
  · next top' hwrite => exact keeps_write_of_stat hstat hwrite
  · exact .refl top

end

/-! ### Nothing outside the root is changed -/

/-- A call of a file system. -/
inductive Call
  | createDirectory (path : String)
  | exists? (path : String)
  | writeFile (path : String) (content : ByteArray)

namespace Call

/-- The path that the call is about. -/
def path : Call → String
  | createDirectory path => path
  | exists? path => path
  | writeFile path _ => path

/-- The tree that a call leaves, whatever it answers. -/
def run (fs : FileSystem Node) (top : Node) : Call → Node
  | createDirectory path => (fs.createDirectory path top).2
  | exists? path => (fs.exists? path top).2
  | writeFile path content => (fs.writeFile path content top).2

/-- The tree that calls leave, made one after the other. -/
def runAll (fs : FileSystem Node) (top : Node) (calls : List Call) : Node :=
  calls.foldl (run fs) top

end Call

section

variable {root target : Location} {top : Node} {path : String}

/-- A path that does not stray leads to a direct location inside the root. -/
theorem direct_of_confine (hroot : Direct top root) (hpath : ¬ Strays top (namesIn root path))
    (h : confine root top path = .ok target) :
    Direct top target ∧ root.names <+: target.names := by
  rcases confine_eq_ok_iff.1 h with ⟨-, rfl⟩ | ⟨-, rfl, -, -, hwithin⟩
  · exact ⟨hroot, List.prefix_refl _⟩
  · simp only [Location.isWithin, Bool.and_eq_true, List.isPrefixOf_iff_prefix] at hwithin
    exact ⟨direct_resolveNames (hroot.clear [] List.nil_prefix) hpath, hwithin.2⟩

/-- A path leads where its names resolve to. -/
theorem names_of_confine (hroot : Direct top root) (h : confine root top path = .ok target) :
    (top.resolveNames (namesIn root path)).names = target.names := by
  rcases confine_eq_ok_iff.1 h with ⟨rfl, rfl⟩ | ⟨-, rfl, -⟩
  · have hnames : namesIn target "" = target.names := List.append_nil _
    rw [hnames, resolveNames_clear hroot.plain hroot.clear]
    rfl
  · rfl

theorem confined_createDirectoryIn (hroot : Direct top root)
    (hpath : ¬ Strays top (namesIn root path)) :
    Confined root.names top (createDirectoryIn root path top).2 := by
  unfold createDirectoryIn
  split
  · exact .refl _ top
  · next target hc =>
    obtain ⟨hdirect, hwithin⟩ := direct_of_confine hroot hpath hc
    have hconfined := confined_ensureDirectories hdirect hwithin
    split <;> next h => rwa [h] at hconfined

theorem confined_writeFileIn (hroot : Direct top root)
    (hpath : ¬ Strays top (namesIn root path)) (content : ByteArray) :
    Confined root.names top (writeFileIn root path content top).2 := by
  unfold writeFileIn
  split
  · exact .refl _ top
  · next target hc =>
    obtain ⟨hdirect, hwithin⟩ := direct_of_confine hroot hpath hc
    split
    · next top' hwrite => exact confined_write hdirect hwithin hwrite
    · exact .refl _ top

/-- One call. -/
theorem confined_run (hroot : Direct top root) (call : Call)
    (hpath : ¬ Strays top (namesIn root call.path)) :
    Confined root.names top (call.run (.local root) top) := by
  cases call with
  | createDirectory path => exact confined_createDirectoryIn hroot hpath
  | exists? path => exact .refl _ top
  | writeFile path content => exact confined_writeFileIn hroot hpath content

/-- Calls one after the other, up to the first one whose path strays. -/
theorem confined_runAll (calls : List Call) (hroot : Direct top root) :
    Confined root.names top (Call.runAll (.local root) top calls) ∨
      ∃ front call back, calls = front ++ call :: back ∧
        Strays (Call.runAll (.local root) top front) (namesIn root call.path) := by
  -- a call that is confined makes no link, so the root is direct for the next one
  induction calls generalizing top with
  | nil => exact Or.inl (.refl _ top)
  | cons call calls ih =>
    by_cases hpath : Strays top (namesIn root call.path)
    · exact Or.inr ⟨[], call, calls, rfl, hpath⟩
    · have hone := confined_run hroot call hpath
      rcases ih (hroot.of_confined hone) with hrest | ⟨front, call', back, rfl, hstrays⟩
      · exact Or.inl (hone.trans hrest)
      · exact Or.inr ⟨call :: front, call', back, rfl, hstrays⟩

end

/-- Calls of the file system of a workspace leave alone what is outside the root, but for missing
directories on the way to the root; or the root strays, or the path of a call in the tree that the
calls before it leave. -/
theorem calls_confined (entries : List (String × Node)) (names : List String) (calls : List Call) :
    Confined ((Node.directory entries).resolveNames names).names (.directory entries)
        (Call.runAll (.local ((Node.directory entries).resolveNames names)) (.directory entries)
          calls) ∨
      Strays (.directory entries) names ∨
      ∃ front call back, calls = front ++ call :: back ∧
        Strays
          (Call.runAll (.local ((Node.directory entries).resolveNames names)) (.directory entries)
            front)
          (namesIn ((Node.directory entries).resolveNames names) call.path) := by
  have htop : (Node.directory entries).linkAt? [] = none := by
    rw [Node.linkAt?, Node.get?_nil]
    split <;> rfl
  by_cases hnames : Strays (.directory entries) names
  · exact Or.inr (Or.inl hnames)
  · rcases confined_runAll calls (direct_resolveNames htop hnames) with h | h
    · exact Or.inl h
    · exact Or.inr (Or.inr h)

/-! ### A path that strays -/

/-- A root with a link to itself and a link to a file outside. -/
def loopTree : Node :=
  .directory [("secret", .file "old".toUTF8),
    ("ws", .directory [("loop", .link "loop"), ("way", .link "../secret")])]

theorem locate_loopTree : loopTree.locate true ⟨1, ["ws", "way"]⟩ =
    .ok ⟨["secret"], some (.file "old".toUTF8)⟩ := by
  have hlong : ¬ Node.pathLimit < (Location.text ⟨1, ["ws", "way"]⟩).utf8ByteSize := by
    decide +kernel
  have hws : ¬ Node.nameLimit < "ws".utf8ByteSize := by decide
  have hway : ¬ Node.nameLimit < "way".utf8ByteSize := by decide
  have hsecret : ¬ Node.nameLimit < "secret".utf8ByteSize := by decide
  have htarget : Node.targetNames "../secret" = ["..", "secret"] := by decide +kernel
  have hrelative : (Location.parse "../secret").isAbsolute = false := by decide +kernel
  simp [Node.locate, hlong, Node.walk, hws, hway, hsecret, htarget, hrelative, Node.linkBudget,
    loopTree, Node.get?, Node.lookup]

theorem confine_loopTree : confine ⟨1, ["ws"]⟩ loopTree "loop/../way" = .ok ⟨1, ["ws", "way"]⟩ := by
  have hnames : (Location.join ⟨1, ["ws"]⟩ (Location.parse "loop/../way")).names =
      ["ws", "loop", "..", "way"] := by decide +kernel
  have hnul : Node.hasNul ["ws", "loop", "..", "way"] = false := by decide +kernel
  have hplace : loopTree.resolveNames ["ws", "loop", "..", "way"] = ⟨1, ["ws", "way"]⟩ := by
    decide +kernel
  have hstat : loopTree.stat ⟨1, ["ws", "way"]⟩ = .ok (.file "old".toUTF8) := by
    rw [Node.stat, locate_loopTree]
    rfl
  have hresolve : loopTree.resolve ["ws", "loop", "..", "way"] = .ok ⟨1, ["ws", "way"]⟩ := by
    simp only [Node.resolve, hnul, hplace, hstat, Bool.false_eq_true, if_false]
  unfold confine
  rw [hnames, hresolve]
  rfl

theorem runAll_loopTree (content : ByteArray) :
    Call.runAll (.local ⟨1, ["ws"]⟩) loopTree [.writeFile "loop/../way" content] =
      loopTree.put ["secret"] (.file content) := by
  have hwrite : loopTree.write ⟨1, ["ws", "way"]⟩ content =
      .ok (loopTree.put ["secret"] (.file content)) := by
    rw [Node.write, locate_loopTree]
    rfl
  simp only [Call.runAll, List.foldl_cons, List.foldl_nil, Call.run, FileSystem.local, writeFileIn,
    confine_loopTree, hwrite]

/-- Behind a link to itself, `..` leads to a link that is written through: a file outside the root
is changed. -/
theorem loopTree_not_confined : ¬ Confined ["ws"] loopTree
    (Call.runAll (.local (loopTree.resolveNames ["ws"])) loopTree
      [.writeFile "loop/../way" "new!".toUTF8]) := by
  have hroot : loopTree.resolveNames ["ws"] = ⟨1, ["ws"]⟩ := by decide +kernel
  rw [hroot, runAll_loopTree]
  intro h
  rcases h.outside ["secret"] (by decide) with hsame | ⟨hon, -⟩
  · have hold : loopTree.bareAt? ["secret"] = some (.file "old".toUTF8) := rfl
    have hnew : (loopTree.put ["secret"] (.file "new!".toUTF8)).bareAt? ["secret"] =
        some (.file "new!".toUTF8) := by
      rw [loopTree, Node.put]
      rfl
    rw [hold, hnew, Option.some.injEq, Bare.file.injEq] at hsame
    exact absurd (congrArg ByteArray.size hsame) (by decide)
  · exact absurd hon (by decide)

end Scaffold.Workspace
