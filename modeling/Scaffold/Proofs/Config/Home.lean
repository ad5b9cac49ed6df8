import Scaffold.Proofs.Config.Ending
import Scaffold.Proofs.Workspace.Outline

/-!
# Whose settings are loaded

Settings for a location are looked for in one directory (`homeOf`): the location itself, if a
directory is there, and else the one that holds it. Loading goes by the file of settings there and
no other one, and the directory of that file is the root (`load_goesBy`). A root that is yet to be
made gets the settings of the directory above it (`load_of_missing`), and a file of settings that is
a link gives the directory that it leads to as root.
-/

namespace Scaffold.Config
open Scaffold.Workspace

/-- The directory in which the settings for a location are looked for. -/
def homeOf (cwd : Here) (l : Location) (top : Node) : Except Failure Location := do
  let inside := ((← statIfThere cwd l top).map Node.isDirectory).getD false
  return if inside then l else l.parent

/-- The names of the file of settings for a directory. -/
def fileNames (cwd : Here) (directory : Location) : List String :=
  (cwd.join directory).names ++ [fileName]

/-- The settings for a location are those of one file: its directory is the root and has the usual
template store, and no content of another file matters. -/
structure GoesBy (loader : Loader) (cwd : Here) (l : Location) (top : Node) (file : Location) :
    Prop where
  root : ∀ settings, load loader cwd l top = .ok settings → settings.root = .top file.parent.names
  store : ∀ settings, load loader cwd l top = .ok settings → settings.store = none →
    settings.storeLocation.isWithin settings.root = true
  only : ∀ top', top'.outline = top.outline → top'.read file = top.read file →
    load loader cwd l top' = load loader cwd l top

section

variable {loader : Loader} {cwd : Here} {l directory file : Location} {top top' : Node}
  {settings : Settings}

theorem isPlain_fileName : IsPlain fileName := ⟨by decide, by decide⟩

theorem names_join (cwd l : Location) :
    (cwd.join l).names = if l.isAbsolute then l.names else cwd.names ++ l.names := by
  unfold Location.join
  split <;> rfl

theorem names_join_fileName (cwd : Here) (l : Location) :
    (cwd.join (l.join (Location.parse fileName))).names = fileNames cwd l := by
  have hparse : Location.parse fileName = ⟨0, [fileName]⟩ := by decide +kernel
  have hjoin : l.join ⟨0, [fileName]⟩ = ⟨l.slashes, l.names ++ [fileName]⟩ := rfl
  have habsolute : Location.isAbsolute ⟨l.slashes, l.names ++ [fileName]⟩ = l.isAbsolute := rfl
  rw [fileNames, hparse, hjoin, names_join, names_join, habsolute]
  split
  · rfl
  · rw [List.append_assoc]

theorem settingsLocation_eq (hname : l.name ≠ fileName) :
    settingsLocation cwd l top =
      homeOf cwd l top >>= fun directory => top.resolve (fileNames cwd directory) := by
  unfold settingsLocation homeOf
  cases statIfThere cwd l top with
  | error f => rfl
  | ok there =>
    simp only [bind, Except.bind, pure, Except.pure, ← names_join_fileName]
    split
    · rfl
    · simp [hname]

/-! ### What a tree's outline decides -/

/-- Something is there in both of two trees with one outline, or in neither. -/
theorem statIfThere_of_outline (cwd : Here) (l : Location) (h : top'.outline = top.outline) :
    (∃ n n', statIfThere cwd l top = .ok (some n) ∧ statIfThere cwd l top' = .ok (some n') ∧
        n'.outline = n.outline) ∨
      statIfThere cwd l top' = statIfThere cwd l top := by
  have hstat := Node.stat_of_outline h (cwd.join l)
  unfold statIfThere
  split
  · exact Or.inr rfl
  · rcases hold : top.stat (cwd.join l) with cause | n <;>
      rcases hnew : top'.stat (cwd.join l) with cause' | n' <;>
      rw [hold, hnew] at hstat
    · cases hstat
      exact Or.inr rfl
    · cases hstat
    · cases hstat
    · exact Or.inl ⟨n, n', rfl, rfl, Except.ok.inj hstat⟩

theorem homeOf_of_outline (h : top'.outline = top.outline) :
    homeOf cwd l top' = homeOf cwd l top := by
  unfold homeOf
  rcases statIfThere_of_outline cwd l h with ⟨n, n', hn, hn', he⟩ | he
  · have hdirectory : n'.isDirectory = n.isDirectory := by
      rw [← Node.isDirectory_outline n', he, Node.isDirectory_outline]
    rw [hn, hn']
    simp only [bind, Except.bind, Option.map_some, hdirectory]
  · rw [he]

/-- Besides the outline, only the file of settings matters. -/
theorem load_of_outline (hname : l.name ≠ fileName) (h : top'.outline = top.outline)
    (hfile : settingsLocation cwd l top = .ok file) (habsolute : file.isAbsolute = true)
    (hread : top'.read file = top.read file) : load loader cwd l top' = load loader cwd l top := by
  have hlocation : settingsLocation cwd l top' = .ok file := by
    rw [← hfile, settingsLocation_eq hname, settingsLocation_eq hname, homeOf_of_outline h]
    exact bind_congr fun directory => Node.resolve_of_outline h _
  have hjoin : cwd.join file = file := if_pos habsolute
  have htext : readText cwd file top' = readText cwd file top := by
    rw [readText, readText, hjoin, hread]
  rw [load, load, hlocation, hfile]
  simp only [bind, Except.bind, Node.resolve_of_outline h]
  cases top.resolve file.parent.names with
  | error f => rfl
  | ok root =>
    rcases statIfThere_of_outline cwd file h with ⟨n, n', hn, hn', -⟩ | he
    · simp only [hn, hn', htext]
    · simp only [he, htext]

/-! ### The root -/

theorem load_root (h : load loader cwd l top = .ok settings) :
    ∃ file, settingsLocation cwd l top = .ok file ∧
      top.resolve file.parent.names = .ok settings.root := by
  obtain ⟨file, hfile, h⟩ := bind_eq_ok h
  obtain ⟨root, hroot, h⟩ := bind_eq_ok h
  obtain ⟨there, -, h⟩ := bind_eq_ok h
  refine ⟨file, hfile, ?_⟩
  cases there with
  | none =>
    cases h
    exact hroot
  | some node =>
    obtain ⟨text, -, h⟩ := bind_eq_ok h
    obtain ⟨v, -, h⟩ := bind_eq_ok h
    rw [(ofValue_sound h).1]
    exact hroot

/-- The directory of a location without links is resolved to itself. -/
theorem resolveNames_parent (h : Direct top file) :
    top.resolveNames file.parent.names = .top file.parent.names :=
  resolveNames_clear (fun name hm => h.plain name (List.mem_of_mem_dropLast hm))
    fun other hp => h.clear other (hp.trans (List.dropLast_prefix _))

theorem usualStore_isWithin (root : Location) : (root.join usualStore).isWithin root = true := by
  have husual : usualStore = ⟨0, [".pathgen", "templates.json"]⟩ := by decide +kernel
  have hjoin : root.join usualStore =
      ⟨root.slashes, root.names ++ [".pathgen", "templates.json"]⟩ := by
    rw [husual]
    rfl
  rw [hjoin, Location.isWithin, beq_self_eq_true, Bool.true_and, List.isPrefixOf_iff_prefix]
  exact List.prefix_append _ _

theorem resolve_of_home (hname : l.name ≠ fileName) (hhome : homeOf cwd l top = .ok directory)
    (hfile : settingsLocation cwd l top = .ok file) :
    top.resolve (fileNames cwd directory) = .ok file := by
  rw [← hfile, settingsLocation_eq hname, hhome]
  rfl

theorem goesBy_of_home (hroot : top.linkAt? [] = none) (hname : l.name ≠ fileName)
    (hhome : homeOf cwd l top = .ok directory) (hstrays : ¬ Strays top (fileNames cwd directory))
    (hfile : settingsLocation cwd l top = .ok file) : GoesBy loader cwd l top file := by
  have hresolve := resolve_of_home hname hhome hfile
  have hdirect : Direct top file := by
    rw [(resolve_eq_ok_iff.1 hresolve).1]
    exact direct_resolveNames hroot hstrays
  have habsolute : file.isAbsolute = true := by
    simpa [Location.isAbsolute] using hdirect.absolute
  refine ⟨fun settings h => ?_, fun settings h hstore => ?_, fun top' houtline hread => ?_⟩
  · obtain ⟨file', hfile', hroot'⟩ := load_root h
    rw [hfile] at hfile'
    cases hfile'
    rw [(resolve_eq_ok_iff.1 hroot').1, resolveNames_parent hdirect]
  · rw [Settings.storeLocation, hstore]
    exact usualStore_isWithin settings.root
  · exact load_of_outline hname houtline hfile habsolute hread

/-- The file of a directory is the one of its name in it, if no link stands there. -/
theorem names_of_resolve (hroot : top.linkAt? [] = none)
    (hspeaking : Speaking (cwd.join directory).names) {root : Location}
    (hresolve : top.resolve (cwd.join directory).names = .ok root)
    (hlink : top.linkAt? (root.names ++ [fileName]) = none)
    (hfile : top.resolve (fileNames cwd directory) = .ok file) :
    file.names = root.names ++ [fileName] := by
  rw [(resolve_eq_ok_iff.1 hresolve).1] at hlink ⊢
  rw [(resolve_eq_ok_iff.1 hfile).1]
  exact resolveNames_concat hroot hspeaking isPlain_fileName hlink

theorem speaking_parent (h : Speaking (cwd.join l).names) : Speaking (cwd.join l.parent).names := by
  have habsolute : l.parent.isAbsolute = l.isAbsolute := rfl
  have hdrop : ∀ name ∈ l.parent.names, name ∈ l.names := fun _ => List.mem_of_mem_dropLast
  intro name hm
  refine h name ?_
  rw [names_join] at hm ⊢
  rw [habsolute] at hm
  split at hm
  · next hl => exact (if_pos hl).symm ▸ hdrop name hm
  · next hl =>
    rw [if_neg hl]
    exact List.mem_append.2 ((List.mem_append.1 hm).imp_right (hdrop name))

/-! ### Directories that are there, and those that are missing -/

theorem homeOf_of_directory {entries : List (String × Node)}
    (h : statIfThere cwd l top = .ok (some (.directory entries))) : homeOf cwd l top = .ok l := by
  rw [homeOf, h]
  rfl

theorem homeOf_of_missing (h : statIfThere cwd l top = .ok none) :
    homeOf cwd l top = .ok l.parent := by
  rw [homeOf, h]
  rfl

/-- The settings for a location that is missing are those of the directory above. -/
theorem load_of_missing (hname : l.name ≠ fileName) (hmissing : statIfThere cwd l top = .ok none)
    {entries : List (String × Node)}
    (habove : statIfThere cwd l.parent top = .ok (some (.directory entries))) :
    load loader cwd l top = load loader cwd l.parent top := by
  have hlocation : settingsLocation cwd l top = settingsLocation cwd l.parent top := by
    rw [settingsLocation_eq hname, homeOf_of_missing hmissing]
    simp only [settingsLocation, habove, bind, Except.bind, Option.map_some, Option.getD_some,
      Node.isDirectory, if_true, names_join_fileName]
  rw [load, load, hlocation]

end

/-- Loading goes by one file and gives its directory as root. For a directory that is there, this is
the file of settings in it, unless a link stands at that place; for one that is missing, it is that
in the directory above. -/
theorem load_goesBy {cwd : Here} {l directory file : Location} {top : Node}
    (hroot : top.linkAt? [] = none) (hspeaking : Speaking (cwd.join l).names)
    (hname : l.name ≠ fileName) (hhome : homeOf cwd l top = .ok directory)
    (hstrays : ¬ Strays top (fileNames cwd directory))
    (hfile : settingsLocation cwd l top = .ok file) :
    GoesBy loader cwd l top file ∧
      (∀ entries, statIfThere cwd l top = .ok (some (.directory entries)) →
        ∀ root, top.resolve (cwd.join l).names = .ok root →
          top.linkAt? (root.names ++ [fileName]) = none → file.names = root.names ++ [fileName]) ∧
      (statIfThere cwd l top = .ok none →
        ∀ above, top.resolve (cwd.join l.parent).names = .ok above →
          top.linkAt? (above.names ++ [fileName]) = none →
            file.names = above.names ++ [fileName]) := by
  have hresolve := resolve_of_home hname hhome hfile
  refine ⟨goesBy_of_home hroot hname hhome hstrays hfile,
    fun entries hthere root hl hlink => ?_, fun hmissing above hl hlink => ?_⟩
  · rw [homeOf_of_directory hthere] at hhome
    cases hhome
    exact names_of_resolve hroot hspeaking hl hlink hresolve
  · rw [homeOf_of_missing hmissing] at hhome
    cases hhome
    exact names_of_resolve hroot (speaking_parent hspeaking) hl hlink hresolve

section

variable {top n : Node} {front rest names : List String} {name : String}

theorem statIfThere_top (hnul : Node.hasNul names = false) :
    statIfThere (.top []) (.top names) top =
      match top.stat (.top names) with
      | .ok n => .ok (some n)
      | .error cause =>
        if isAbsence cause then .ok none else .error (systemFailure (.top names) cause) := by
  have hnul' : ¬ Node.hasNul (Location.top names).names = true := by simpa [Location.top] using hnul
  exact if_neg hnul'

theorem statIfThere_of_ok (hnul : Node.hasNul names = false) (h : top.stat (.top names) = .ok n) :
    statIfThere (.top []) (.top names) top = .ok (some n) := by
  rw [statIfThere_top hnul, h]

theorem statIfThere_of_noEntry (hnul : Node.hasNul names = false)
    (h : top.stat (.top names) = .error .noEntry) :
    statIfThere (.top []) (.top names) top = .ok none := by
  rw [statIfThere_top hnul, h]
  rfl

/-- Where a name is missing, nothing is. -/
theorem stat_of_missing (hplain : ∀ other ∈ front ++ name :: rest, IsPlain other)
    (hfront : Passable top front) (hshort : Short name) (hfits : Fits (front ++ name :: rest))
    (hnone : top.get? (front ++ [name]) = none) :
    top.stat (.top (front ++ name :: rest)) = .error .noEntry := by
  rw [Node.stat, locate_missing true hplain hfront hshort hfits hnone]
  cases rest <;> rfl

end

theorem statIfThere_settingsTree (text : String) : ∃ entries,
    statIfThere (.top []) (.top ["w"]) (Provider.settingsTree text) =
      .ok (some (.directory entries)) := by
  obtain ⟨⟨entries, hat⟩, -⟩ := Provider.stat_settingsTree text
  exact ⟨entries, statIfThere_of_ok (by decide) hat⟩

/-- Settings that say that files are replaced. -/
def replacingText : String := "generation:\n  overwrite: true\n"

/-- A workspace with such settings. -/
def replacingTree : Node := Provider.settingsTree replacingText

theorem load_goesBy_replacingTree :
    GoesBy Yaml.load (.top []) (.top ["w"]) replacingTree (.top ["w", fileName]) := by
  obtain ⟨entries, hthere⟩ := statIfThere_settingsTree replacingText
  have hplain : '\r' ∉ replacingText.toList := by decide
  have hroot : replacingTree.linkAt? [] = none := by decide +kernel
  have hspeaking : Speaking (Location.join (.top []) (.top ["w"])).names := by decide +kernel
  have hname : Location.name (.top ["w"]) ≠ fileName := by decide
  have hcomplete : (replacingTree.resolved ["w", fileName]).complete = true := by decide +kernel
  have hstrays : ¬ Strays replacingTree (fileNames (.top []) (.top ["w"])) := fun h =>
    absurd (hcomplete.symm.trans h.1) (by decide)
  exact (load_goesBy hroot hspeaking hname (homeOf_of_directory hthere) hstrays
    (Provider.found_settingsTree hplain).1).1

theorem statIfThere_missing :
    statIfThere (.top []) (.top ["w", "app"]) replacingTree = .ok none := by
  have hplain : ∀ name ∈ ["w"] ++ ["app"], IsPlain name := by decide +kernel
  have hstat : replacingTree.stat (.top (["w"] ++ ["app"])) = .error .noEntry :=
    stat_of_missing hplain (Provider.passable_settingsTree _) (by decide +kernel)
      (by decide +kernel) rfl
  exact statIfThere_of_noEntry (by decide) hstat

theorem load_missing : ∃ settings,
    load Yaml.load (.top []) (.top ["w", "app"]) replacingTree = .ok settings ∧
      settings.root = .top ["w"] ∧ settings.generation.overwrite = true := by
  obtain ⟨entries, habove⟩ := statIfThere_settingsTree replacingText
  have hload : load Yaml.load (.top []) (.top ["w", "app"]) replacingTree =
      readValue Yaml.load fileName replacingText >>= ofValue (.top ["w"]) :=
    (load_of_missing (by decide) statIfThere_missing habove).trans
      (Provider.load_settingsTree (by decide))
  have hsaid : (readValue Yaml.load fileName replacingText >>=
      ofValue (.top ["w"])).toOption.map (fun s => (s.root, s.generation.overwrite)) =
        some (.top ["w"], true) := by
    decide +kernel
  rw [← hload] at hsaid
  cases hsettings : load Yaml.load (.top []) (.top ["w", "app"]) replacingTree with
  | error f =>
    rw [hsettings] at hsaid
    cases hsaid
  | ok settings =>
    rw [hsettings] at hsaid
    have hpair := Option.some.inj hsaid
    exact ⟨settings, rfl, congrArg Prod.fst hpair, congrArg Prod.snd hpair⟩

/-- A file of settings that is a link to a place where nothing is. -/
def borrowingTree : Node :=
  .directory [("w", .directory [(fileName, .link "../shared/.pathgen.yml")])]

theorem passable_borrowingTree : Passable borrowingTree ["w"] where
  directory := rfl
  short := by decide +kernel
  fits := by decide +kernel

theorem load_borrowingTree :
    load Yaml.load (.top []) (.top ["w"]) borrowingTree = .ok { root := .top ["shared"] } := by
  have htop : Passable borrowingTree [] := ⟨rfl, by simp, by decide +kernel⟩
  have hnone : borrowingTree.get? ([] ++ ["shared"]) = none := rfl
  have hdirectory : borrowingTree.stat (.top ([] ++ "shared" :: [])) = .error .noEntry :=
    stat_of_missing (by decide +kernel) htop (by decide +kernel) (by decide +kernel) hnone
  have hfile : borrowingTree.stat (.top ([] ++ "shared" :: [fileName])) = .error .noEntry :=
    stat_of_missing (by decide +kernel) htop (by decide +kernel) (by decide +kernel) hnone
  obtain ⟨entries, hthere⟩ := stat_there (by decide +kernel) passable_borrowingTree
  have hlocation : settingsLocation (.top []) (.top ["w"]) borrowingTree =
      .ok (.top ["shared", fileName]) := by
    have hresolve : borrowingTree.resolve ["w", fileName] = .ok (.top ["shared", fileName]) := by
      refine resolve_eq_ok_iff.2 ⟨by decide +kernel, by decide, fun hloop => ?_⟩
      cases hfile.symm.trans hloop
    rw [settingsLocation_eq (by decide), homeOf_of_directory (statIfThere_of_ok (by decide) hthere)]
    exact hresolve
  have hroot : borrowingTree.resolve ["shared"] = .ok (.top ["shared"]) := by
    refine resolve_eq_ok_iff.2 ⟨by decide +kernel, by decide, fun hloop => ?_⟩
    cases hdirectory.symm.trans hloop
  have hmissing : statIfThere (.top []) (.top ["shared", fileName]) borrowingTree = .ok none :=
    statIfThere_of_noEntry (by decide) hfile
  have hparent : (Location.top ["shared", fileName]).parent.names = ["shared"] := rfl
  rw [load, hlocation]
  simp only [bind, Except.bind, hparent, hroot, hmissing]
  rfl

/-- The settings for a root that is missing are those of the directory above; and a file of settings
that is a link gives another root. -/
theorem settings_of_others :
    (statIfThere (.top []) (.top ["w", "app"]) replacingTree = .ok none ∧
      replacingTree.resolve ["w", "app"] = .ok (.top ["w", "app"]) ∧
      ∃ settings, load Yaml.load (.top []) (.top ["w", "app"]) replacingTree = .ok settings ∧
        settings.root = .top ["w"] ∧ settings.generation.overwrite = true) ∧
    borrowingTree.resolve ["w"] = .ok (.top ["w"]) ∧
      load Yaml.load (.top []) (.top ["w"]) borrowingTree = .ok { root := .top ["shared"] } := by
  have hplain : ∀ name ∈ ["w", "app"], IsPlain name := by decide +kernel
  refine ⟨⟨statIfThere_missing, resolve_linkless (Provider.linkless_settingsTree _) hplain
    (by decide), load_missing⟩, ?_, load_borrowingTree⟩
  obtain ⟨entries, hthere⟩ := stat_there (by decide +kernel) passable_borrowingTree
  refine resolve_eq_ok_iff.2 ⟨by decide +kernel, by decide, ?_⟩
  rw [hthere]
  simp

end Scaffold.Config
