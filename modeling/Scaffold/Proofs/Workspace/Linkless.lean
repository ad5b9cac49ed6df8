import Scaffold.Proofs.Plan.Path
import Scaffold.Proofs.Workspace.Calls
import Scaffold.Proofs.Workspace.Obstacle

/-!
# Workspaces without links

In a workspace that no link stands in, nor on the way to it (`Linkless`), a path in its one spelling
leads where its names say (`confine_linkless`). What the file system of the workspace answers there
is decided by what stands in the way, and by nothing else:

* `createDirectoryIn_cases` - the directory is there afterwards, or refused for good;
* `existsIn_cases` - something is there, or the place is refused, or a file can be written.
-/

namespace Scaffold.Workspace
open Scaffold.Text

/-! ### The names of a path -/

/-- The path is made of names that can be looked up. -/
structure Spelled (path : String) (names : List String) : Prop where
  parsed : Location.parse path = ⟨0, names⟩
  plain : ∀ name ∈ names, IsPlain name
  noNul : Node.hasNul names = false

/-- Characters that can be a name. -/
structure IsSegment (cs : List Char) : Prop where
  plain : IsPlain (String.ofList cs)
  noSlash : '/' ∉ cs
  noNul : '\x00' ∉ cs

section

variable {segments : List (List Char)} {raw path : String}

/-- A text that starts with a plain name has no slash in front. -/
theorem slashesOf_joinWith (hplain : ∀ cs ∈ segments, IsPlain (String.ofList cs))
    (hslash : ∀ cs ∈ segments, '/' ∉ cs) :
    Location.slashesOf (String.ofList (joinWith ['/'] segments)) = 0 := by
  have hfront : (joinWith ['/'] segments).takeWhile (· == '/') = [] := by
    cases segments with
    | nil => rfl
    | cons segment segments =>
      have hne : segment ≠ [] := by
        rintro rfl
        cases (hplain [] List.mem_cons_self).1
      obtain ⟨c, cs, rfl⟩ := List.exists_cons_of_ne_nil hne
      have hc : ¬ (c == '/') = true := by
        have hnot := hslash (c :: cs) List.mem_cons_self
        rw [List.mem_cons, not_or] at hnot
        simpa using Ne.symm hnot.1
      cases segments <;> exact List.takeWhile_cons_of_neg hc
  rw [Location.slashesOf, String.toList_ofList, hfront]
  rfl

/-- Plain names that are joined are the names of the path. -/
theorem parse_joinWith (hplain : ∀ cs ∈ segments, IsPlain (String.ofList cs))
    (hslash : ∀ cs ∈ segments, '/' ∉ cs) :
    Location.parse (String.ofList (joinWith ['/'] segments)) =
      ⟨0, segments.map String.ofList⟩ := by
  rw [Location.parse, slashesOf_joinWith hplain hslash, Location.namesOf, Location.piecesOf,
    String.toList_ofList]
  by_cases hnil : segments = []
  · subst hnil
    rfl
  · rw [splitOn_joinWith hnil hslash, List.filter_eq_self.2]
    intro name hname
    obtain ⟨cs, hcs, rfl⟩ := List.mem_map.1 hname
    exact (hplain cs hcs).1

/-- Segments that are joined are the names of the path. -/
theorem spelled_joinWith (h : ∀ cs ∈ segments, IsSegment cs) :
    Spelled (String.ofList (joinWith ['/'] segments)) (segments.map String.ofList) := by
  refine ⟨parse_joinWith (fun cs hcs => (h cs hcs).plain) fun cs hcs => (h cs hcs).noSlash,
    fun name hname => ?_, ?_⟩
  · obtain ⟨cs, hcs, rfl⟩ := List.mem_map.1 hname
    exact (h cs hcs).plain
  · rw [Node.hasNul, List.any_eq_false]
    intro name hname
    obtain ⟨cs, hcs, rfl⟩ := List.mem_map.1 hname
    simpa using (h cs hcs).noNul

/-- A path in its one spelling is made of plain names, and so is the path above it. -/
theorem exists_segments_of_normalize (h : Plan.normalize raw = .ok path) :
    ∃ front last, path = String.ofList (joinWith ['/'] (front ++ [last])) ∧
      Plan.parent path = String.ofList (joinWith ['/'] front) ∧
      (∀ cs ∈ front ++ [last], IsPlain (String.ofList cs)) ∧
      (∀ cs ∈ front ++ [last], '/' ∉ cs) ∧
      ∀ cs ∈ front ++ [last], ∀ c ∈ cs, c ∈ path.toList := by
  obtain ⟨-, hup, hne, hpath⟩ := Plan.normalizeChars_eq_ok_iff.1 (Plan.normalize_eq_ok_iff.1 h)
  have hplain : ∀ cs ∈ Plan.segmentsOf raw.toList, IsPlain (String.ofList cs) := by
    intro cs hcs
    have hidle := (List.mem_filter.1 hcs).2
    simp only [Plan.isIdle, Bool.not_or, Bool.and_eq_true, Bool.not_eq_true',
      List.isEmpty_eq_false_iff, beq_eq_false_iff_ne] at hidle
    have hempty : String.ofList cs ≠ "" := fun he => hidle.1 (by simpa using he)
    have hdot : String.ofList cs ≠ "." := fun he =>
      hidle.2 (by simpa using congrArg String.toList he)
    refine ⟨by simp [Location.speaks, hempty, hdot], fun he => ?_⟩
    have hcs' : cs = ['.', '.'] := by simpa using congrArg String.toList he
    exact hup (hcs' ▸ hcs)
  have hslash : ∀ cs ∈ Plan.segmentsOf raw.toList, '/' ∉ cs := by
    intro cs hcs hmem
    cases eq_false_of_mem_splitBy (List.mem_filter.1 hcs).1 hmem
  rcases List.eq_nil_or_concat (Plan.segmentsOf raw.toList) with hnil | ⟨front, last, hlast⟩
  · exact absurd hnil hne
  · rw [List.concat_eq_append] at hlast
    rw [hlast] at hplain hslash hpath
    have hpath' : path = String.ofList (joinWith ['/'] (front ++ [last])) := by
      rw [← hpath, String.ofList_toList]
    refine ⟨front, last, hpath', ?_, hplain, hslash, fun cs hcs c hc => ?_⟩
    · rw [hpath', Plan.parent_joinWith (hslash last (by simp))]
    · rw [hpath]
      exact mem_joinWith hcs hc

/-- A path in its one spelling has plain names, and its directory has all but the last one. -/
theorem parse_of_normalize (h : Plan.normalize raw = .ok path) :
    ∃ names last, Location.parse path = ⟨0, names ++ [last]⟩ ∧
      Location.parse (Plan.parent path) = ⟨0, names⟩ ∧ ∀ name ∈ names ++ [last], IsPlain name := by
  obtain ⟨front, last, hpath, hparent, hplain, hslash, -⟩ := exists_segments_of_normalize h
  refine ⟨front.map String.ofList, String.ofList last, ?_, ?_, fun name hname => ?_⟩
  · rw [hpath, parse_joinWith hplain hslash, List.map_append]
    rfl
  · rw [hparent]
    exact parse_joinWith (fun cs hcs => hplain cs (List.mem_append_left _ hcs))
      fun cs hcs => hslash cs (List.mem_append_left _ hcs)
  · have hmap : name ∈ (front ++ [last]).map String.ofList := by simpa using hname
    obtain ⟨cs, hcs, rfl⟩ := List.mem_map.1 hmap
    exact hplain cs hcs

/-- A path in its one spelling without U+0000 has names, and so has the path above it. -/
theorem spelled_of_normalize (h : Plan.normalize raw = .ok path) (hnul : '\x00' ∉ path.toList) :
    ∃ names last, Spelled path (names ++ [last]) ∧ Spelled (Plan.parent path) names := by
  obtain ⟨front, last, hpath, hparent, hplain, hslash, hchars⟩ := exists_segments_of_normalize h
  have hsegment : ∀ cs ∈ front ++ [last], IsSegment cs := fun cs hcs =>
    ⟨hplain cs hcs, hslash cs hcs, fun hzero => hnul (hchars cs hcs _ hzero)⟩
  refine ⟨front.map String.ofList, String.ofList last, ?_, ?_⟩
  · simpa [hpath] using spelled_joinWith hsegment
  · rw [hparent]
    exact spelled_joinWith fun cs hcs => hsegment cs (List.mem_append_left _ hcs)

end

/-! ### Trees without links -/

/-- A workspace at a place, and no link in it or on the way to it. -/
structure Linkless (top : Node) (root : List String) : Prop where
  directory : top.bareAt? [] = some .directory
  plain : ∀ name ∈ root, IsPlain name
  noNul : Node.hasNul root = false
  noLink : ∀ place target, place <+: root ∨ root <+: place →
    top.bareAt? place ≠ some (.link target)

section

variable {top old new : Node} {root names place : List String} {path : String}

/-- A tree in which no link is counted has none. -/
theorem ne_link_of_linkCount {n : Node} (h : n.linkCount = 0) {target : String} :
    n.bareAt? place ≠ some (.link target) := by
  induction place generalizing n with
  | nil =>
    cases n with
    | link target => cases h
    | file content => simp [Node.bare]
    | directory entries => simp [Node.bare]
  | cons name place ih =>
    cases n with
    | link target => cases h
    | file content => simp [Node.bareAt?, Node.get?]
    | directory entries =>
      rw [Node.bareAt?_directory_cons]
      rw [Node.linkCount] at h
      induction entries with
      | nil => simp [Node.lookup]
      | cons entry entries ihe =>
        obtain ⟨k, n⟩ := entry
        rw [Node.linkCountIn] at h
        by_cases hk : k = name
        · simpa [Node.lookup, hk] using ih (by omega)
        · simpa [Node.lookup, hk] using ihe (by omega)

theorem Linkless.of_confined {other : List String} (h : Linkless old root) (hkeeps : Keeps old new)
    (hc : Confined other old new) : Linkless new root where
  directory := hkeeps [] _ h.directory
  plain := h.plain
  noNul := h.noNul
  noLink place target hplace hlink := h.noLink place target hplace (hc.links place target hlink)

theorem Linkless.ne_link (h : Linkless top root) {other : List String}
    (hp : other <+: root ++ names) (target : String) : top.bareAt? other ≠ some (.link target) :=
  h.noLink other target (List.prefix_or_prefix_of_prefix hp (List.prefix_append root names))

theorem Linkless.clear (h : Linkless top root) (names : List String) :
    Clear top (root ++ names) := by
  intro other hp
  rw [Option.eq_none_iff_forall_ne_some]
  intro target hlink
  exact h.ne_link hp target (linkAt?_eq_some_iff.1 hlink).2

theorem Linkless.course (h : Linkless top root) (names : List String) :
    Course top (root ++ names) :=
  Workspace.course h.directory fun _ target hp => h.ne_link hp target

theorem Linkless.plain_append (h : Linkless top root) (hnames : ∀ name ∈ names, IsPlain name) :
    ∀ name ∈ root ++ names, IsPlain name := by
  intro name hm
  rcases List.mem_append.1 hm with hm | hm
  · exact h.plain name hm
  · exact hnames name hm

/-- Without links there is no link that leads back to itself. -/
theorem stat_ne_linkLoop (hplain : ∀ name ∈ place, IsPlain name) (h : Course top place) :
    top.stat (.top place) ≠ .error .linkLoop := by
  cases h with
  | there h =>
    obtain ⟨entries, hstat⟩ := stat_there hplain h
    simp [hstat]
  | refused cause h =>
    rcases locate_refused true hplain h with ⟨-, content, hl⟩ | ⟨hcause, hl⟩
    · simp [Node.stat, hl, bind, Except.bind, pure, Except.pure]
    · rcases hcause with rfl | rfl <;> simp [Node.stat, hl, bind, Except.bind]
  | missing rest hfront hshort hfits hnone =>
    have hl := locate_missing true hplain hfront hshort hfits hnone
    by_cases hrest : rest.isEmpty <;>
      simp [Node.stat, hl, hrest, bind, Except.bind, throw, throwThe, MonadExceptOf.throw]

/-- Names lead where they say. -/
theorem resolve_linkless (h : Linkless top root) (hnames : ∀ name ∈ names, IsPlain name)
    (hnul : Node.hasNul names = false) :
    top.resolve (root ++ names) = .ok (.top (root ++ names)) := by
  have hplain := h.plain_append hnames
  have hall : Node.hasNul (root ++ names) = false := by
    have hroot := h.noNul
    rw [Node.hasNul] at hroot hnul ⊢
    rw [List.any_append, hroot, hnul, Bool.or_false]
  have hloop := stat_ne_linkLoop hplain (h.course names)
  rw [← resolveNames_clear hplain (h.clear names)] at hloop
  rcases resolve_cases top (root ++ names) with ⟨hr, -⟩ | ⟨-, hn⟩ | ⟨-, -, hl⟩
  · rw [hr, resolveNames_clear hplain (h.clear names)]
  · rw [hall] at hn
    cases hn
  · exact absurd hl hloop

/-- A path leads where its names say. -/
theorem confine_linkless (h : Linkless top root) (hpath : Spelled path names) :
    confine (.top root) top path = .ok (.top (root ++ names)) := by
  by_cases hempty : path = ""
  · subst hempty
    have hnames : names = [] := (congrArg Location.names hpath.parsed).symm.trans (by decide)
    rw [hnames, List.append_nil]
    rfl
  · have hjoin : Location.join (.top root) (Location.parse path) = .top (root ++ names) := by
      rw [hpath.parsed]
      rfl
    have hresolve := resolve_linkless h hpath.plain hpath.noNul
    have hwithin : (Location.top (root ++ names)).isWithin (.top root) = true := by
      simp [Location.isWithin, Location.top, List.isPrefixOf_iff_prefix]
    rw [confine, if_neg (by simpa using hempty), hjoin]
    simp only [Location.top] at hresolve hwithin ⊢
    simp only [hresolve, hwithin, bind, Except.bind, if_true]
    rfl

end

/-! ### The operations -/

section

variable {top : Node} {root names : List String} {path : String} {cause : SystemCause}
  (h : Linkless top root) (hpath : Spelled path names)

include h hpath

/-- A directory that is there is left alone. -/
theorem createDirectoryIn_passable (hplace : Passable top (root ++ names)) :
    createDirectoryIn (.top root) path top = (.ok (), top) := by
  have hmade : top.ensureDirectories (.top (root ++ names)) = (top, none) :=
    ensureDirectoriesUpTo_there (h.plain_append hpath.plain) hplace _
  simp only [createDirectoryIn, confine_linkless h hpath, hmade]

theorem createDirectoryIn_refuses (hplace : Refuses top (root ++ names) cause) :
    createDirectoryIn (.top root) path top = (.error (pathFailure path cause), top) := by
  have hmade : top.ensureDirectories (.top (root ++ names)) =
      (top, some (cause, .top (root ++ names))) :=
    ensureDirectoriesUpTo_refused (h.plain_append hpath.plain) hplace _
  simp only [createDirectoryIn, confine_linkless h hpath, hmade]

/-- The directory is there afterwards, or refused as it will be in every larger tree. -/
theorem createDirectoryIn_cases :
    (∃ top', createDirectoryIn (.top root) path top = (.ok (), top') ∧
        Linkless top' root ∧ Passable top' (root ++ names)) ∨
      ∃ cause top', createDirectoryIn (.top root) path top =
          (.error (pathFailure path cause), top') ∧
        Linkless top' root ∧ Refuses top' (root ++ names) cause := by
  have hplain := h.plain_append hpath.plain
  have hdirect : Direct top (.top (root ++ names)) := ⟨Nat.one_ne_zero, hplain, h.clear names⟩
  have hfree : Linkless (top.ensureDirectories (.top (root ++ names))).1 root :=
    h.of_confined (keeps_ensureDirectories top _)
      (confined_ensureDirectories hdirect (List.prefix_append root names))
  have hcourse := ensureDirectories_course hplain (h.course names)
  rcases hr : top.ensureDirectories (.top (root ++ names)) with ⟨top', r⟩
  rw [hr] at hfree hcourse
  rcases hcourse with ⟨rfl, hpass⟩ | ⟨cause, at_, rfl, hrefuses⟩
  · refine Or.inl ⟨top', ?_, hfree, hpass⟩
    simp only [createDirectoryIn, confine_linkless h hpath, hr]
  · refine Or.inr ⟨cause, top', ?_, hfree, hrefuses⟩
    simp only [createDirectoryIn, confine_linkless h hpath, hr]

theorem existsIn_passable (hplace : Passable top (root ++ names)) :
    existsIn (.top root) path top = .ok true := by
  obtain ⟨entries, hstat⟩ := stat_there (h.plain_append hpath.plain) hplace
  simp only [existsIn, confine_linkless h hpath, hstat, bind, Except.bind]
  rfl

/-- A file is found, and what else refuses is a failure. -/
theorem existsIn_refuses (hplace : Refuses top (root ++ names) cause) :
    existsIn (.top root) path top =
      if cause = .entryExists then .ok true else .error (pathFailure path cause) := by
  rcases locate_refused true (h.plain_append hpath.plain) hplace with
    ⟨rfl, content, hl⟩ | ⟨hcause, hl⟩
  · simp only [existsIn, confine_linkless h hpath, Node.stat, hl, bind, Except.bind]
    rfl
  · rcases hcause with rfl | rfl <;>
      simp only [existsIn, confine_linkless h hpath, Node.stat, hl, bind, Except.bind] <;> rfl

end

section

variable {top : Node} {root names : List String} {path last : String}
  (h : Linkless top root) (hpath : Spelled path (names ++ [last]))
  (hparent : Passable top (root ++ names))

include h hpath hparent

/-- In a directory, something is there, or the name is refused, or nothing is there and a file can
be written, which then stands there. -/
theorem existsIn_cases :
    existsIn (.top root) path top = .ok true ∧
        (Passable top (root ++ names ++ [last]) ∨
          Refuses top (root ++ names ++ [last]) .entryExists) ∨
      (∃ cause, existsIn (.top root) path top = .error (pathFailure path cause) ∧
        Refuses top (root ++ names ++ [last]) cause ∧ cause ≠ .entryExists) ∨
      existsIn (.top root) path top = .ok false ∧ ∀ content, ∃ top',
        writeFileIn (.top root) path content top = (.ok (), top') ∧
          Linkless top' root ∧ Refuses top' (root ++ names ++ [last]) .entryExists := by
  have hcourse := h.course (names ++ [last])
  have hplain := h.plain_append hpath.plain
  have hplace : root ++ (names ++ [last]) = root ++ names ++ [last] :=
    (List.append_assoc _ _ _).symm
  rw [← hplace]
  generalize hall : root ++ (names ++ [last]) = place at hcourse hplain
  cases hcourse with
  | there hthere =>
    subst hall
    exact Or.inl ⟨existsIn_passable h hpath hthere, Or.inl hthere⟩
  | refused cause hrefuses =>
    subst hall
    have hexists := existsIn_refuses h hpath hrefuses
    by_cases hcause : cause = .entryExists
    · subst hcause
      exact Or.inl ⟨hexists, Or.inr hrefuses⟩
    · rw [if_neg hcause] at hexists
      exact Or.inr (Or.inl ⟨cause, hexists, hrefuses, hcause⟩)
  | @missing front name rest hfront hshort hfits hnone =>
    -- what is missing is the last name
    obtain ⟨rfl, rfl, rfl⟩ := rest_eq_nil_of_missing hnone hparent (hplace.symm.trans hall)
    have hl := locate_missing true hplain hfront hshort hfits hnone
    have hconfine := confine_linkless h hpath
    rw [hplace] at hconfine
    refine Or.inr (Or.inr ⟨?_, fun content => ?_⟩)
    · simp only [existsIn, hconfine, Node.stat, hl, bind, Except.bind]
      rfl
    · have hwrite : top.write (.top (root ++ names ++ [name])) content =
          .ok (top.put (root ++ names ++ [name]) (.file content)) := by
        simp only [Node.write, hl, bind, Except.bind]
        rfl
      have hkeeps := keeps_put hnone (.file content)
      have hwithin : root <+: root ++ names ++ [name] := hplace ▸ List.prefix_append root _
      have hfile : (top.put (root ++ names ++ [name]) (.file content)).bareAt?
          (root ++ names ++ [name]) = some (.file content) := by
        rw [Node.bareAt?, get?_put_self hfront.directory]
        rfl
      exact ⟨_, by simp only [writeFileIn, hconfine, hwrite],
        h.of_confined hkeeps (confined_put_file hwithin content),
        .file (hfront.mono hkeeps) hshort hfits hfile⟩

end

end Scaffold.Workspace
