import Scaffold.Proofs.Workspace.Written

/-!
# What stands in the way

Where no link is met, the names of a place lead through directories, up to the first of three
things: the end, a name that is missing, or something that refuses the way (`course`). What refuses
does so in every larger tree (`Refuses.mono`), and directories stay (`Passable.mono`). Making a
directory with all that is missing above it therefore ends in a tree in which it is there, or is
refused as it will be from then on (`ensureDirectories_course`).
-/

namespace Scaffold.Workspace

/-- The name is not too long. -/
def Short (name : String) : Prop := ¬ Node.nameLimit < name.utf8ByteSize

instance (name : String) : Decidable (Short name) := inferInstanceAs (Decidable (¬ _))

/-- A directory that the names of its place lead to. -/
structure Passable (top : Node) (place : List String) : Prop where
  directory : top.bareAt? place = some .directory
  short : ∀ name ∈ place, Short name
  fits : Fits place

/-- No directory can be made at a place, nor below it, and why: the path or a name on the way is too
long, or a file is there, or a file is on the way. -/
inductive Refuses (top : Node) : List String → SystemCause → Prop
  | longPath {place} : ¬ Fits place → Refuses top place .nameTooLong
  | longName {front name} (rest : List String) : Passable top front → ¬ Short name →
      Refuses top (front ++ name :: rest) .nameTooLong
  | file {front name content} : Passable top front → Short name → Fits (front ++ [name]) →
      top.bareAt? (front ++ [name]) = some (.file content) →
      Refuses top (front ++ [name]) .entryExists
  | below {front name content} (next : String) (rest : List String) : Passable top front →
      Short name → Fits (front ++ name :: next :: rest) →
      top.bareAt? (front ++ [name]) = some (.file content) →
      Refuses top (front ++ name :: next :: rest) .notDirectory

/-- Where the names of a place lead. -/
inductive Course (top : Node) : List String → Prop
  | there {place} : Passable top place → Course top place
  | refused {place} (cause : SystemCause) : Refuses top place cause → Course top place
  | missing {front name} (rest : List String) : Passable top front → Short name →
      Fits (front ++ name :: rest) → top.get? (front ++ [name]) = none →
      Course top (front ++ name :: rest)

/-! ### In larger trees -/

section

variable {top old new : Node} {place front rest : List String} {name : String}
  {cause : SystemCause}

theorem Passable.mono (h : Passable old place) (hkeeps : Keeps old new) : Passable new place :=
  ⟨hkeeps place _ h.directory, h.short, h.fits⟩

theorem Refuses.mono (h : Refuses old place cause) (hkeeps : Keeps old new) :
    Refuses new place cause := by
  cases h with
  | longPath hlong => exact .longPath hlong
  | longName rest hfront hlong => exact .longName rest (hfront.mono hkeeps) hlong
  | file hfront hshort hfits hfile =>
    exact .file (hfront.mono hkeeps) hshort hfits (hkeeps _ _ hfile)
  | below next rest hfront hshort hfits hfile =>
    exact .below next rest (hfront.mono hkeeps) hshort hfits (hkeeps _ _ hfile)

/-- What is too long stays so with more names behind it. -/
theorem Refuses.append (h : Refuses top place .nameTooLong) (rest : List String) :
    Refuses top (place ++ rest) .nameTooLong := by
  cases h with
  | longPath hlong => exact .longPath fun hfits => hlong (hfits.of_prefix (List.prefix_append _ _))
  | longName behind hfront hlong =>
    rw [List.append_assoc, List.cons_append]
    exact .longName _ hfront hlong

theorem Passable.of_append (h : Passable top (place ++ rest)) : Passable top place := by
  refine ⟨?_, fun name hm => h.short name (List.mem_append_left _ hm),
    h.fits.of_prefix (List.prefix_append _ _)⟩
  by_cases hrest : rest = []
  · subst hrest
    simpa using h.directory
  · exact bareAt?_of_append hrest h.directory

/-- A directory in a directory. -/
theorem Passable.concat (h : Passable top place) (hshort : Short name)
    (hfits : Fits (place ++ [name])) (hdir : top.bareAt? (place ++ [name]) = some .directory) :
    Passable top (place ++ [name]) := by
  refine ⟨hdir, fun other hm => ?_, hfits⟩
  rcases List.mem_append.1 hm with hm | hm
  · exact h.short other hm
  · rw [List.mem_singleton.1 hm]
    exact hshort

/-! ### The three ways -/

/-- Names without links on the way lead through directories up to what ends the way. -/
theorem course_from (hfront : Passable top front)
    (hlink : ∀ other target, other <+: front ++ rest → top.bareAt? other ≠ some (.link target))
    (hfits : Fits (front ++ rest)) : Course top (front ++ rest) := by
  induction rest generalizing front with
  | nil =>
    rw [List.append_nil]
    exact .there hfront
  | cons name rest ih =>
    have happend : front ++ name :: rest = front ++ [name] ++ rest := by simp
    by_cases hshort : Short name
    · cases hnode : top.get? (front ++ [name]) with
      | none => exact .missing rest hfront hshort hfits hnode
      | some n =>
        have hbare : top.bareAt? (front ++ [name]) = some n.bare := by
          rw [Node.bareAt?, hnode, Option.map_some]
        cases n with
        | file content =>
          cases rest with
          | nil => exact .refused _ (.file hfront hshort hfits hbare)
          | cons next rest => exact .refused _ (.below next rest hfront hshort hfits hbare)
        | link target =>
          exact absurd hbare (hlink _ target (happend ▸ List.prefix_append _ _))
        | directory entries =>
          rw [happend] at hlink hfits ⊢
          have hone := hfront.concat hshort (hfits.of_prefix (List.prefix_append _ _)) hbare
          exact ih hone hlink hfits
    · exact .refused _ (.longName rest hfront hshort)

theorem course (hroot : top.bareAt? [] = some .directory)
    (hlink : ∀ other target, other <+: place → top.bareAt? other ≠ some (.link target)) :
    Course top place := by
  by_cases hfits : Fits place
  · have hnil : Passable top [] := ⟨hroot, by simp, hfits.of_prefix List.nil_prefix⟩
    exact course_from hnil hlink hfits
  · exact .refused _ (.longPath hfits)

/-- What a directory leads to is not missing further up. -/
theorem rest_eq_nil_of_missing (hnone : top.get? (front ++ [name]) = none) {last : String}
    (h : Passable top place) (hplace : place ++ [last] = front ++ name :: rest) :
    rest = [] ∧ front = place ∧ name = last := by
  rcases List.eq_nil_or_concat rest with rfl | ⟨rest, last', rfl⟩
  · have := List.append_inj' hplace rfl
    simpa [eq_comm] using this
  · -- the missing name stands on the way to the directory
    exfalso
    rw [List.concat_eq_append] at hplace
    have hsplit : place ++ [last] = front ++ [name] ++ rest ++ [last'] := by simpa using hplace
    obtain rfl := (List.append_inj' hsplit rfl).1
    have hdir := h.of_append.directory
    rw [Node.bareAt?, hnone] at hdir
    cases hdir

/-! ### Walks without links -/

variable {here : List String} {followLast : Bool} {budget : Nat}

/-- A name that is looked up. -/
theorem walk_plain (hname : IsPlain name) : top.walk followLast budget here (name :: rest) =
    if Node.nameLimit < name.utf8ByteSize then .error .nameTooLong
    else
      match top.get? (here ++ [name]) with
      | none => if rest.isEmpty then .ok ⟨here ++ [name], none⟩ else .error .noEntry
      | some (.file content) =>
        if rest.isEmpty then .ok ⟨here ++ [name], some (.file content)⟩ else .error .notDirectory
      | some (.directory _) => top.walk followLast budget (here ++ [name]) rest
      | some (.link target) =>
        if rest.isEmpty && !followLast then .ok ⟨here ++ [name], some (.link target)⟩
        else
          match budget with
          | 0 => .error .linkLoop
          | budget + 1 =>
            top.walk followLast budget (if (Location.parse target).isAbsolute then [] else here)
              (Node.targetNames target ++ rest) := by
  have hdot : name ≠ "." := by
    rintro rfl
    cases hname.1
  rw [Node.walk, if_neg (by simpa using hdot)]
  refine (if_neg (by simpa using hname.2)).trans ?_
  cases budget <;> rfl

/-- Directories are walked through. -/
theorem walk_passable (hplain : ∀ name ∈ front, IsPlain name) (h : Passable top (here ++ front)) :
    top.walk followLast budget here (front ++ rest) =
      top.walk followLast budget (here ++ front) rest := by
  induction front generalizing here with
  | nil => rw [List.nil_append, List.append_nil]
  | cons name front ih =>
    have happend : here ++ name :: front = here ++ [name] ++ front := by simp
    rw [happend] at h ⊢
    obtain ⟨entries, hnode⟩ := bareAt?_eq_directory_iff.1 h.of_append.directory
    rw [List.cons_append, walk_plain (hplain name List.mem_cons_self),
      if_neg (h.short name (by simp)), hnode]
    exact ih (fun n hn => hplain n (List.mem_cons_of_mem name hn)) h

variable (followLast)

/-- A location is followed from the directories that its first names lead through. -/
theorem locate_of_passable (hplain : ∀ n ∈ front ++ rest, IsPlain n) (h : Passable top front)
    (hfits : Fits (front ++ rest)) : top.locate followLast (.top (front ++ rest)) =
      top.walk followLast Node.linkBudget front rest := by
  have hwalk : top.walk followLast Node.linkBudget [] (front ++ rest) =
      top.walk followLast Node.linkBudget ([] ++ front) rest :=
    walk_passable (fun n hn => hplain n (List.mem_append_left rest hn)) (by simpa using h)
  rw [Node.locate, if_neg hfits]
  exact hwalk

/-- The end of the way is a directory. -/
theorem locate_there (hplain : ∀ name ∈ place, IsPlain name) (h : Passable top place) :
    top.locate followLast (.top place) = .ok ⟨place, top.get? place⟩ := by
  have hlocate : top.locate followLast (.top (place ++ [])) =
      top.walk followLast Node.linkBudget place [] :=
    locate_of_passable followLast (by simpa using hplain) h (by simpa using h.fits)
  rw [List.append_nil] at hlocate
  rw [hlocate, Node.walk]

/-- A name is missing. -/
theorem locate_missing (hplain : ∀ n ∈ front ++ name :: rest, IsPlain n)
    (hfront : Passable top front) (hshort : Short name) (hfits : Fits (front ++ name :: rest))
    (hnone : top.get? (front ++ [name]) = none) :
    top.locate followLast (.top (front ++ name :: rest)) =
      if rest.isEmpty then .ok ⟨front ++ [name], none⟩ else .error .noEntry := by
  rw [locate_of_passable followLast hplain hfront hfits,
    walk_plain (hplain name (by simp)), if_neg hshort, hnone]

/-- A file stands at the end of the way. -/
theorem locate_file {content : ByteArray} (hplain : ∀ n ∈ front ++ [name], IsPlain n)
    (hfront : Passable top front) (hshort : Short name) (hfits : Fits (front ++ [name]))
    (hfile : top.get? (front ++ [name]) = some (.file content)) :
    top.locate followLast (.top (front ++ [name])) =
      .ok ⟨front ++ [name], some (.file content)⟩ := by
  rw [locate_of_passable followLast hplain hfront hfits, walk_plain (hplain name (by simp)),
    if_neg hshort, hfile]
  exact if_pos rfl

/-- The way is refused; a file that stands at its end is found. -/
theorem locate_refused (hplain : ∀ name ∈ place, IsPlain name) (h : Refuses top place cause) :
    (cause = .entryExists ∧
      ∃ content, top.locate followLast (.top place) = .ok ⟨place, some (.file content)⟩) ∨
    ((cause = .nameTooLong ∨ cause = .notDirectory) ∧
      top.locate followLast (.top place) = .error cause) := by
  cases h with
  | longPath hlong =>
    refine Or.inr ⟨Or.inl rfl, ?_⟩
    rw [Node.locate, if_pos (not_not.1 hlong)]
  | @longName front name rest hfront hlong =>
    refine Or.inr ⟨Or.inl rfl, ?_⟩
    by_cases hfits : Fits (front ++ name :: rest)
    · rw [locate_of_passable followLast hplain hfront hfits,
        walk_plain (hplain name (by simp)), if_pos (not_not.1 hlong)]
    · rw [Node.locate, if_pos (not_not.1 hfits)]
  | @file front name content hfront hshort hfits hfile =>
    obtain ⟨n, hn, hbare⟩ := Option.map_eq_some_iff.1 hfile
    cases n <;> cases hbare
    exact Or.inl ⟨rfl, content, locate_file followLast hplain hfront hshort hfits hn⟩
  | @below front name content next rest hfront hshort hfits hfile =>
    obtain ⟨n, hn, hbare⟩ := Option.map_eq_some_iff.1 hfile
    cases n <;> cases hbare
    refine Or.inr ⟨Or.inr rfl, ?_⟩
    rw [locate_of_passable followLast hplain hfront hfits,
      walk_plain (hplain name (by simp)), if_neg hshort, hn]
    rfl

/-! ### Making directories -/

theorem stat_there (hplain : ∀ name ∈ place, IsPlain name) (h : Passable top place) :
    ∃ entries, top.stat (.top place) = .ok (.directory entries) := by
  obtain ⟨entries, hnode⟩ := bareAt?_eq_directory_iff.1 h.directory
  refine ⟨entries, ?_⟩
  simp only [Node.stat, locate_there _ hplain h, hnode, bind, Except.bind]
  rfl

/-- A directory that is there is left alone. -/
theorem ensureDirectoriesUpTo_there (hplain : ∀ name ∈ place, IsPlain name)
    (h : Passable top place) (fuel : Nat) :
    Node.ensureDirectoriesUpTo (fuel + 1) (.top place) top = (top, none) := by
  obtain ⟨entries, hnode⟩ := bareAt?_eq_directory_iff.1 h.directory
  obtain ⟨entries', hstat⟩ := stat_there hplain h
  have hmake : top.makeDirectory (.top place) = .error .entryExists := by
    simp only [Node.makeDirectory, locate_there _ hplain h, hnode, bind, Except.bind]
    rfl
  simp only [Node.ensureDirectoriesUpTo, hmake, Node.ensureDirectory, Node.isDirectoryAt, hstat,
    Node.isDirectory, if_true]

/-- A refusal is answered with the tree as it is. -/
theorem ensureDirectory_refused (hplain : ∀ name ∈ place, IsPlain name)
    (h : Refuses top place cause) :
    top.makeDirectory (.top place) = .error cause ∧ cause ≠ .noEntry ∧
      top.ensureDirectory (.top place) = (top, some (cause, .top place)) := by
  have hfalse := locate_refused false hplain h
  have htrue := locate_refused true hplain h
  rcases hfalse with ⟨rfl, content, hfalse⟩ | ⟨hcause, hfalse⟩ <;>
    rcases htrue with ⟨hother, content', htrue⟩ | ⟨hother, htrue⟩
  · have hmake : top.makeDirectory (.top place) = .error .entryExists := by
      simp only [Node.makeDirectory, hfalse, bind, Except.bind]
      rfl
    refine ⟨hmake, by simp, ?_⟩
    simp only [Node.ensureDirectory, hmake, Node.isDirectoryAt, Node.stat, htrue, bind, Except.bind]
    rfl
  · rcases hother with hother | hother <;> cases hother
  · subst hother
    rcases hcause with hcause | hcause <;> cases hcause
  · have hmake : top.makeDirectory (.top place) = .error cause := by
      simp only [Node.makeDirectory, hfalse, bind, Except.bind]
    refine ⟨hmake, by rcases hcause with rfl | rfl <;> simp, ?_⟩
    simp only [Node.ensureDirectory, hmake, Node.isDirectoryAt, Node.stat, htrue, bind, Except.bind]
    rfl

theorem ensureDirectoriesUpTo_refused (hplain : ∀ name ∈ place, IsPlain name)
    (h : Refuses top place cause) (fuel : Nat) :
    Node.ensureDirectoriesUpTo (fuel + 1) (.top place) top = (top, some (cause, .top place)) := by
  obtain ⟨hmake, hentry, hone⟩ := ensureDirectory_refused hplain h
  rw [Node.ensureDirectoriesUpTo, hmake]
  split
  · next he =>
    cases he
    exact absurd rfl hentry
  · exact hone

/-- First the directory that holds a place is made, and then the place itself. -/
theorem ensureDirectoriesUpTo_of_made {l : Location} {fuel : Nat} {mid : Node}
    (hmake : top.makeDirectory l = .error .noEntry) (hl : l.names.isEmpty = false)
    (h : Node.ensureDirectoriesUpTo fuel l.parent top = (mid, none)) :
    Node.ensureDirectoriesUpTo (fuel + 1) l top = mid.ensureDirectory l := by
  simp only [Node.ensureDirectoriesUpTo, hmake, hl, h, Bool.false_eq_true, if_false]

theorem ensureDirectoriesUpTo_of_refused {l : Location} {fuel : Nat} {mid : Node}
    {refusal : Node.Refusal} (hmake : top.makeDirectory l = .error .noEntry)
    (hl : l.names.isEmpty = false)
    (h : Node.ensureDirectoriesUpTo fuel l.parent top = (mid, some refusal)) :
    Node.ensureDirectoriesUpTo (fuel + 1) l top = (mid, some refusal) := by
  simp only [Node.ensureDirectoriesUpTo, hmake, hl, h, Bool.false_eq_true, if_false]

/-- A missing directory in one that is there is made, and empty. -/
theorem makeDirectory_missing (hplain : ∀ n ∈ front ++ [name], IsPlain n)
    (hfront : Passable top front) (hshort : Short name) (hfits : Fits (front ++ [name]))
    (hnone : top.get? (front ++ [name]) = none) :
    ∃ made, top.makeDirectory (.top (front ++ [name])) = .ok made ∧
      made.get? (front ++ [name]) = some .empty ∧ Passable made (front ++ [name]) := by
  have hput := get?_put_self hfront.directory name .empty
  refine ⟨top.put (front ++ [name]) .empty, ?_, hput, ?_⟩
  · simp only [Node.makeDirectory, locate_missing _ hplain hfront hshort hfits hnone, bind,
      Except.bind]
    rfl
  · refine (hfront.mono (keeps_put hnone _)).concat hshort hfits ?_
    rw [Node.bareAt?, hput]
    rfl

/-- All that is missing is made, down to the place or to a name that is too long. -/
theorem ensureDirectoriesUpTo_missing (hfront : Passable top front) (hshort : Short name)
    (hnone : top.get? (front ++ [name]) = none) {fuel : Nat} (hfuel : rest.length < fuel)
    (hplain : ∀ n ∈ front ++ name :: rest, IsPlain n) (hfits : Fits (front ++ name :: rest)) :
    let r := Node.ensureDirectoriesUpTo fuel (.top (front ++ name :: rest)) top
    (r.2 = none ∧ r.1.get? (front ++ name :: rest) = some .empty ∧
      Passable r.1 (front ++ name :: rest)) ∨
    ∃ at_, r.2 = some (.nameTooLong, at_) ∧ Refuses r.1 (front ++ name :: rest) .nameTooLong := by
  induction rest using List.reverseRecOn generalizing fuel with
  | nil =>
    obtain ⟨fuel, rfl⟩ := Nat.exists_eq_add_one.2 hfuel
    obtain ⟨made, hmake, hempty, hpass⟩ := makeDirectory_missing hplain hfront hshort hfits hnone
    have hone : Node.ensureDirectoriesUpTo (fuel + 1) (.top (front ++ [name])) top =
        (made, none) := by
      simp only [Node.ensureDirectoriesUpTo, hmake, Node.ensureDirectory]
    simp only [hone]
    exact Or.inl ⟨trivial, hempty, hpass⟩
  | append_singleton rest last ih =>
    obtain ⟨fuel, rfl⟩ := Nat.exists_eq_add_one.2 (Nat.zero_lt_of_lt hfuel)
    have happend : front ++ name :: (rest ++ [last]) = front ++ name :: rest ++ [last] := by simp
    have hmake : top.makeDirectory (.top (front ++ name :: (rest ++ [last]))) =
        .error .noEntry := by
      simp only [Node.makeDirectory, locate_missing _ hplain hfront hshort hfits hnone, bind,
        Except.bind]
      simp
    have hparent : (Location.top (front ++ name :: (rest ++ [last]))).parent =
        .top (front ++ name :: rest) := by
      simp only [Location.parent, Location.top, happend, List.dropLast_concat]
    have hlonger : rest.length < fuel := by
      simp only [List.length_append, List.length_singleton] at hfuel
      omega
    have hplain' : ∀ n ∈ front ++ name :: rest, IsPlain n := fun n hn =>
      hplain n (happend ▸ List.mem_append_left _ hn)
    have hbefore := ih hlonger hplain'
      (hfits.of_prefix (happend ▸ List.prefix_append _ _))
    rcases hr : Node.ensureDirectoriesUpTo fuel (.top (front ++ name :: rest)) top with ⟨mid, r⟩
    rw [hr] at hbefore
    rw [← hparent] at hr
    rcases hbefore with ⟨rfl, hempty, hpass⟩ | ⟨at_, rfl, hrefused⟩
    · rw [ensureDirectoriesUpTo_of_made hmake (by simp [Location.top]) hr]
      rw [happend] at hplain hfits ⊢
      by_cases hlast : Short last
      · have hgone : mid.get? (front ++ name :: rest ++ [last]) = none := by
          rw [Node.get?_append, hempty]
          rfl
        obtain ⟨made, hmade, hempty', hpass'⟩ :=
          makeDirectory_missing hplain hpass hlast hfits hgone
        simp only [Node.ensureDirectory, hmade]
        exact Or.inl ⟨trivial, hempty', hpass'⟩
      · have hrefused : Refuses mid (front ++ name :: rest ++ [last]) .nameTooLong :=
          .longName [] hpass hlast
        obtain ⟨-, -, hone⟩ := ensureDirectory_refused hplain hrefused
        simp only [hone]
        exact Or.inr ⟨_, rfl, hrefused⟩
    · rw [ensureDirectoriesUpTo_of_refused hmake (by simp [Location.top]) hr, happend]
      exact Or.inr ⟨at_, rfl, hrefused.append _⟩

/-- A directory is there once it was made with what is missing above it, or it is refused in the
tree that is left. -/
theorem ensureDirectories_course (hplain : ∀ name ∈ place, IsPlain name) (h : Course top place) :
    let r := top.ensureDirectories (.top place)
    (r.2 = none ∧ Passable r.1 place) ∨
      ∃ cause at_, r.2 = some (cause, at_) ∧ Refuses r.1 place cause := by
  intro r
  cases h with
  | there h =>
    have hr : r = (top, none) := ensureDirectoriesUpTo_there hplain h _
    rw [hr]
    exact Or.inl ⟨rfl, h⟩
  | refused cause h =>
    have hr : r = (top, some (cause, .top place)) := ensureDirectoriesUpTo_refused hplain h _
    rw [hr]
    exact Or.inr ⟨cause, _, rfl, h⟩
  | @missing front name rest hfront hshort hfits hnone =>
    have hfuel : rest.length < (front ++ name :: rest).length + 1 := by
      simp only [List.length_append, List.length_cons]
      omega
    rcases ensureDirectoriesUpTo_missing hfront hshort hnone hfuel hplain hfits with
      ⟨hr, -, hpass⟩ | ⟨at_, hr, hrefused⟩
    · exact Or.inl ⟨hr, hpass⟩
    · exact Or.inr ⟨_, at_, hr, hrefused⟩

end

end Scaffold.Workspace
