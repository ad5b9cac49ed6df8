import Scaffold.Proofs.Workspace.Frame
import Scaffold.Workspace.Resolve

/-!
# Walking a tree

The system finds the node of a location by a walk that follows links. `Direct` locations are those
on which it meets none, so that it ends where the names say (`place_of_locate`); other walks end
anywhere. In each case the walk hands back what stands where it ends (`node_of_walk`), and so it
does in a tree that keeps what stands in this one (`walk_keeps`). With that, writing a file and
making directories

* keep what stands, if nothing stands where they write (`keeps_makeDirectory`,
  `keeps_ensureDirectories`);
* are confined to a root, at a direct location inside it (`confined_write`,
  `confined_ensureDirectories`).
-/

namespace Scaffold.Workspace

/-- A name that the system looks up: not empty, not `.` and not `..`. -/
def IsPlain (name : String) : Prop := Location.speaks name = true ∧ name ≠ ".."

instance (name : String) : Decidable (IsPlain name) := inferInstanceAs (Decidable (_ ∧ _))

/-- No link stands at a place, or on the way to it. -/
def Clear (top : Node) (place : List String) : Prop :=
  ∀ other, other <+: place → top.linkAt? other = none

/-- A location that the system follows name by name. -/
structure Direct (top : Node) (l : Location) : Prop where
  absolute : l.slashes ≠ 0
  plain : ∀ name ∈ l.names, IsPlain name
  clear : Clear top l.names

theorem linkAt?_eq_some_iff {top : Node} {place : List String} {target : String} :
    top.linkAt? place = some target ↔
      ¬ Node.pathLimit < (Location.top place).text.utf8ByteSize ∧
        top.bareAt? place = some (.link target) := by
  unfold Node.linkAt? Node.bareAt?
  split
  · next hlong => simp [hlong]
  · next hshort =>
    rcases top.get? place with _ | (content | target' | entries) <;> simp [hshort, Node.bare]

theorem Clear.of_confined {root place : List String} {old new : Node} (h : Clear old place)
    (hc : Confined root old new) : Clear new place := by
  intro other hp
  rw [Option.eq_none_iff_forall_ne_some]
  intro target hlink
  obtain ⟨hshort, hbare⟩ := linkAt?_eq_some_iff.1 hlink
  have hold := linkAt?_eq_some_iff.2 ⟨hshort, hc.links other target hbare⟩
  rw [h other hp] at hold
  cases hold

/-! ### Paths that are not too long -/

theorem utf8ByteSize_intercalate_le {names names' : List String} (h : names <+: names') :
    ("/".intercalate names).utf8ByteSize ≤ ("/".intercalate names').utf8ByteSize := by
  obtain ⟨rest, rfl⟩ := h
  by_cases hn : names = []
  · simp [hn]
  · by_cases hr : rest = []
    · simp [hr]
    · rw [String.intercalate_append_of_ne_nil hn hr]
      simp only [String.utf8ByteSize_append]
      omega

theorem text_top (place : List String) : (Location.top place).text =
    String.ofList (List.replicate 1 '/') ++ "/".intercalate place := rfl

/-- The path to a place on the way is not longer. -/
theorem utf8ByteSize_text_le {l : Location} {place : List String} (habs : l.slashes ≠ 0)
    (h : place <+: l.names) : (Location.top place).text.utf8ByteSize ≤ l.text.utf8ByteSize := by
  obtain ⟨slashes, names⟩ := l
  obtain ⟨more, rfl⟩ : ∃ more, slashes = 1 + more :=
    Nat.exists_eq_add_of_le (Nat.pos_of_ne_zero habs)
  have hl : Location.text ⟨1 + more, names⟩ = String.ofList (List.replicate 1 '/') ++
      String.ofList (List.replicate more '/') ++ "/".intercalate names := by
    rw [← String.ofList_append, List.replicate_append_replicate]
    simp [Location.text]
  have hle := utf8ByteSize_intercalate_le h
  rw [text_top, hl]
  simp only [String.utf8ByteSize_append]
  simp only at hle
  omega

/-- The path to a place is not too long. -/
def Fits (place : List String) : Prop := ¬ Node.pathLimit < (Location.top place).text.utf8ByteSize

instance (place : List String) : Decidable (Fits place) := inferInstanceAs (Decidable (¬ _))

theorem Fits.of_prefix {place front : List String} (h : Fits place) (hp : front <+: place) :
    Fits front := by
  have hle := utf8ByteSize_text_le (l := .top place) Nat.one_ne_zero hp
  unfold Fits at h ⊢
  omega

/-- Where no link stands on the way, the system reads none. -/
theorem Direct.get?_ne_link {top : Node} {l : Location} {place : List String} {target : String}
    (h : Direct top l) (hsize : ¬ Node.pathLimit < l.text.utf8ByteSize) (hp : place <+: l.names) :
    top.get? place ≠ some (.link target) := by
  intro hlink
  have hsize' : ¬ Node.pathLimit < (Location.top place).text.utf8ByteSize := by
    have := utf8ByteSize_text_le h.absolute hp
    omega
  have hbare : top.bareAt? place = some (.link target) := by
    rw [Node.bareAt?, hlink]
    rfl
  have hread := linkAt?_eq_some_iff.2 ⟨hsize', hbare⟩
  rw [h.clear place hp] at hread
  cases hread

theorem Direct.onWay {top : Node} {l l' : Location} (h : Direct top l)
    (hs : l'.slashes = l.slashes) (hp : l'.names <+: l.names) : Direct top l' where
  absolute := hs ▸ h.absolute
  plain name hm := h.plain name (hp.subset hm)
  clear place hplace := h.clear place (hplace.trans hp)

/-- Without new links, what is direct stays direct. -/
theorem Direct.of_confined {root : List String} {old new : Node} {l : Location}
    (h : Direct old l) (hc : Confined root old new) : Direct new l where
  absolute := h.absolute
  plain := h.plain
  clear := h.clear.of_confined hc

/-! ### The steps of a walk -/

section

variable {top : Node} {followLast : Bool} {budget : Nat} {here rest : List String} {name : String}
  (hdot : ¬ (name == ".") = true) (hup : ¬ (name == "..") = true)
  (hlong : ¬ Node.nameLimit < name.utf8ByteSize)

include hdot hup hlong

/-- A directory is walked into. -/
theorem walk_directory {entries : List (String × Node)}
    (hnode : top.get? (here ++ [name]) = some (.directory entries)) :
    top.walk followLast budget here (name :: rest) =
      top.walk followLast budget (here ++ [name]) rest := by
  rw [Node.walk, if_neg hdot, if_neg hup, if_neg hlong, hnode]

/-- A link is followed, unless it is the last name and that is not to be followed. -/
theorem walk_link {target : String} (hnode : top.get? (here ++ [name]) = some (.link target))
    (hlast : ¬ (rest.isEmpty && !followLast) = true) :
    top.walk followLast (budget + 1) here (name :: rest) =
      top.walk followLast budget (if (Location.parse target).isAbsolute then [] else here)
        (Node.targetNames target ++ rest) := by
  rw [Node.walk, if_neg hdot, if_neg hup, if_neg hlong, hnode]
  exact if_neg hlast

/-- A walk ends at its last name, if no link stands there. -/
theorem walk_last {n : Node} (hnode : top.get? (here ++ [name]) = some n)
    (hn : ∀ target, n ≠ .link target) :
    top.walk followLast budget here [name] = .ok ⟨here ++ [name], some n⟩ := by
  cases n with
  | file content =>
    rw [Node.walk, if_neg hdot, if_neg hup, if_neg hlong, hnode]
    rfl
  | link target => exact absurd rfl (hn target)
  | directory entries => rw [walk_directory hdot hup hlong hnode, Node.walk, hnode]

end

/-! ### Where a walk ends -/

section

variable {top top' : Node} {followLast : Bool} {l : Location} {found : Node.Found}
  {content : ByteArray} {root : List String}

/-- A walk hands back what stands where it ends. -/
theorem node_of_walk {budget : Nat} {here names : List String}
    (h : top.walk followLast budget here names = .ok found) :
    found.node = top.get? found.place := by
  fun_induction Node.walk top followLast budget here names with
  | case1 => cases h; rfl
  | case2 _ _ _ _ _ ih => exact ih h
  | case3 _ _ _ _ _ _ ih => exact ih h
  | case4 => cases h
  | case5 _ _ _ _ _ _ _ hnode => cases h; exact hnode.symm
  | case6 => cases h
  | case7 _ _ _ _ _ _ _ _ hnode => cases h; exact hnode.symm
  | case8 => cases h
  | case9 _ _ _ _ _ _ _ _ _ ih => exact ih h
  | case10 _ _ _ _ _ _ _ _ hnode => cases h; exact hnode.symm
  | case11 => cases h
  | case12 _ _ _ _ _ _ _ _ _ _ ih => exact ih h

/-- A walk that ends at something ends there in a larger tree, too. -/
theorem walk_keeps {budget : Nat} {here names place : List String} {n : Node}
    (hkeeps : Keeps top top')
    (h : top.walk followLast budget here names = .ok ⟨place, some n⟩) :
    ∃ n', n'.bare = n.bare ∧
      top'.walk followLast budget here names = .ok ⟨place, some n'⟩ := by
  fun_induction Node.walk top followLast budget here names with
  | case1 budget here =>
    simp only [Except.ok.injEq, Node.Found.mk.injEq] at h
    obtain ⟨rfl, hn⟩ := h
    obtain ⟨n', hn', hbare⟩ := hkeeps.get? hn
    exact ⟨n', hbare, by rw [Node.walk, hn']⟩
  | case2 budget here name rest hdot ih =>
    rw [Node.walk, if_pos hdot]
    exact ih h
  | case3 budget here name rest hdot hup ih =>
    rw [Node.walk, if_neg hdot, if_pos hup]
    exact ih h
  | case4 => cases h
  | case5 => cases h
  | case6 => cases h
  | case7 budget here name rest hdot hup hlong content hnode hrest =>
    cases h
    obtain ⟨_ | _ | _, hnode', hbare⟩ := hkeeps.get? hnode <;> cases hbare
    rw [List.isEmpty_iff.1 hrest]
    exact ⟨_, rfl, walk_last hdot hup hlong hnode' (by simp)⟩
  | case8 => cases h
  | case9 budget here name rest hdot hup hlong entries hnode ih =>
    obtain ⟨_ | _ | _, hnode', hbare⟩ := hkeeps.get? hnode <;> cases hbare
    rw [walk_directory hdot hup hlong hnode']
    exact ih h
  | case10 budget here name rest hdot hup hlong target hnode hlast =>
    cases h
    obtain ⟨_ | _ | _, hnode', hbare⟩ := hkeeps.get? hnode <;> cases hbare
    rw [Node.walk, if_neg hdot, if_neg hup, if_neg hlong, hnode']
    exact ⟨_, rfl, if_pos hlast⟩
  | case11 => cases h
  | case12 here name rest hdot hup hlong target hnode hlast budget ih =>
    obtain ⟨_ | _ | _, hnode', hbare⟩ := hkeeps.get? hnode <;> cases hbare
    rw [walk_link hdot hup hlong hnode' hlast]
    exact ih h

/-- A walk that meets no link ends where its names say. -/
theorem place_of_walk {budget : Nat} {here names : List String}
    (hplain : ∀ name ∈ names, IsPlain name)
    (hlink : ∀ place target, place <+: here ++ names → top.get? place ≠ some (.link target))
    (h : top.walk followLast budget here names = .ok found) : found.place = here ++ names := by
  induction names generalizing here with
  | nil =>
    rw [Node.walk] at h
    cases h
    exact (List.append_nil here).symm
  | cons name rest ih =>
    obtain ⟨hspeaks, hup⟩ := hplain name List.mem_cons_self
    have hdot : name ≠ "." := by
      rintro rfl
      cases hspeaks
    have happend : here ++ name :: rest = here ++ [name] ++ rest := by simp
    have hnext : ∀ target, top.get? (here ++ [name]) ≠ some (.link target) := fun target =>
      hlink (here ++ [name]) target (happend ▸ List.prefix_append _ _)
    rw [Node.walk, if_neg (by simpa using hdot), if_neg (by simpa using hup)] at h
    split at h
    · cases h
    · split at h
      · -- nothing is there
        split at h
        · next hrest =>
          cases h
          rw [List.isEmpty_iff.1 hrest]
        · cases h
      · -- a file
        split at h
        · next hrest =>
          cases h
          rw [List.isEmpty_iff.1 hrest]
        · cases h
      · rw [happend] at hlink ⊢
        exact ih (fun n hn => hplain n (List.mem_cons_of_mem name hn)) hlink h
      · next target hl => exact absurd hl (hnext target)

/-- A direct location is found where its names say. -/
theorem place_of_locate (hl : Direct top l) (h : top.locate followLast l = .ok found) :
    found.place = l.names := by
  unfold Node.locate at h
  split at h
  · cases h
  · next hsize =>
    refine place_of_walk hl.plain (fun place target hp => ?_) h
    exact hl.get?_ne_link hsize (by simpa using hp)

theorem node_of_locate (h : top.locate followLast l = .ok found) :
    found.node = top.get? found.place := by
  unfold Node.locate at h
  split at h
  · cases h
  · exact node_of_walk h

/-- What is found at a location is found there in a larger tree, too. -/
theorem locate_keeps {place : List String} {n : Node} (hkeeps : Keeps top top')
    (h : top.locate followLast l = .ok ⟨place, some n⟩) :
    ∃ n', n'.bare = n.bare ∧ top'.locate followLast l = .ok ⟨place, some n'⟩ := by
  unfold Node.locate at h ⊢
  split at h
  · cases h
  · next hsize =>
    rw [if_neg hsize]
    exact walk_keeps hkeeps h

theorem stat_eq_ok_iff {n : Node} :
    top.stat l = .ok n ↔ ∃ place, top.locate true l = .ok ⟨place, some n⟩ := by
  rw [Node.stat]
  rcases top.locate true l with cause | ⟨place, _ | m⟩ <;>
    simp [bind, Except.bind, pure, Except.pure, throw, throwThe, MonadExceptOf.throw]

theorem stat_keeps {n : Node} (hkeeps : Keeps top top') (h : top.stat l = .ok n) :
    ∃ n', n'.bare = n.bare ∧ top'.stat l = .ok n' := by
  obtain ⟨place, hfound⟩ := stat_eq_ok_iff.1 h
  obtain ⟨n', hbare, hfound'⟩ := locate_keeps hkeeps hfound
  exact ⟨n', hbare, stat_eq_ok_iff.2 ⟨place, hfound'⟩⟩

theorem isDirectoryAt_keeps (hkeeps : Keeps top top') (h : top.isDirectoryAt l = true) :
    top'.isDirectoryAt l = true := by
  unfold Node.isDirectoryAt at h
  split at h
  · next n hstat =>
    obtain ⟨n', hbare, hstat'⟩ := stat_keeps hkeeps hstat
    rw [Node.isDirectoryAt, hstat']
    cases n <;> cases h
    cases n' <;> cases hbare
    rfl
  · cases h

/-! ### Writing a file -/

theorem exists_put_of_write (h : top.write l content = .ok top') :
    ∃ found, top.locate true l = .ok found ∧ top' = top.put found.place (.file content) := by
  simp only [Node.write, bind, Except.bind] at h
  split at h
  · cases h
  · next found hfound =>
    refine ⟨found, hfound, ?_⟩
    split at h
    · cases h
    · cases h
      rfl

/-- Where nothing can be read, the location leads to nothing. -/
theorem get?_of_stat (hstat : top.stat l = .error .noEntry)
    (hfound : top.locate true l = .ok found) : top.get? found.place = none := by
  rw [← node_of_locate hfound]
  simp only [Node.stat, hfound, bind, Except.bind] at hstat
  split at hstat
  · cases hstat
  · next hnone => exact hnone

/-- A file is written where nothing is, if nothing can be read there. -/
theorem keeps_write_of_stat (hstat : top.stat l = .error .noEntry)
    (h : top.write l content = .ok top') : Keeps top top' := by
  obtain ⟨found, hfound, rfl⟩ := exists_put_of_write h
  exact keeps_put (get?_of_stat hstat hfound) _

theorem confined_write (hl : Direct top l) (hroot : root <+: l.names)
    (h : top.write l content = .ok top') : Confined root top top' := by
  obtain ⟨found, hfound, rfl⟩ := exists_put_of_write h
  rw [place_of_locate hl hfound]
  exact confined_put_file hroot content

/-! ### Making directories -/

theorem exists_put_of_makeDirectory (h : top.makeDirectory l = .ok top') :
    ∃ found, top.locate false l = .ok found ∧ top.get? found.place = none ∧
      top' = top.put found.place .empty := by
  simp only [Node.makeDirectory, bind, Except.bind] at h
  split at h
  · cases h
  · next found hfound =>
    refine ⟨found, hfound, ?_⟩
    rw [← node_of_locate hfound]
    split at h
    · cases h
    · next hnone =>
      cases h
      exact ⟨hnone, rfl⟩

theorem keeps_makeDirectory (h : top.makeDirectory l = .ok top') : Keeps top top' := by
  obtain ⟨found, -, hnone, rfl⟩ := exists_put_of_makeDirectory h
  exact keeps_put hnone _

theorem confined_makeDirectory (hl : Direct top l) (hroot : root <+: l.names ∨ l.names <+: root)
    (h : top.makeDirectory l = .ok top') : Confined root top top' := by
  obtain ⟨found, hfound, hnone, rfl⟩ := exists_put_of_makeDirectory h
  rw [place_of_locate hl hfound] at hnone ⊢
  exact confined_put_empty hroot hnone

/-- What each single directory does to a tree, several of them do: a relation that holds of nothing
done, and of one thing done after another, holds of a directory made with all that is missing above
it. -/
theorem ensureDirectoriesUpTo_induction {R : Node → Node → Prop} {target : Location}
    (refl : ∀ n, R n n) (trans : ∀ a b c, R a b → R b c → R a c)
    (make : ∀ l top top', l.slashes = target.slashes → l.names <+: target.names →
      top.makeDirectory l = .ok top' → R top top')
    (fuel : Nat) (hs : l.slashes = target.slashes) (hl : l.names <+: target.names) (top : Node) :
    R top (Node.ensureDirectoriesUpTo fuel l top).1 := by
  have one : ∀ l top, l.slashes = target.slashes → l.names <+: target.names →
      R top (top.ensureDirectory l).1 := by
    intro l top hs hl
    unfold Node.ensureDirectory
    split
    · next top' h => exact make l top top' hs hl h
    · split <;> exact refl top
  induction fuel generalizing l with
  | zero => exact refl top
  | succ fuel ih =>
    unfold Node.ensureDirectoriesUpTo
    split
    · split
      · exact refl top
      · have hparent := ih (l := l.parent) hs ((List.dropLast_prefix _).trans hl)
        split
        · next mid hmid =>
          rw [hmid] at hparent
          exact trans _ _ _ hparent (one l mid hs hl)
        · next mid refusal hmid =>
          rw [hmid] at hparent
          exact hparent
    · exact one l top hs hl

theorem keeps_ensureDirectoriesUpTo (fuel : Nat) (top : Node) (l : Location) :
    Keeps top (Node.ensureDirectoriesUpTo fuel l top).1 :=
  ensureDirectoriesUpTo_induction Keeps.refl (fun _ _ _ => Keeps.trans)
    (fun _ _ _ _ _ => keeps_makeDirectory) fuel rfl (List.prefix_refl _) top

theorem keeps_ensureDirectories (top : Node) (l : Location) :
    Keeps top (top.ensureDirectories l).1 :=
  keeps_ensureDirectoriesUpTo _ top l

theorem confined_ensureDirectories (hl : Direct top l) (hroot : root <+: l.names) :
    Confined root top (top.ensureDirectories l).1 := by
  -- the location stays direct while directories are made on the way to it
  refine ensureDirectoriesUpTo_induction (R := fun a b => Direct a l → Confined root a b)
    (fun n _ => .refl root n) (fun a b c hab hbc ha => ?_) (fun l' a b hs hp hmake ha => ?_) _ rfl
    (List.prefix_refl _) top hl
  · exact (hab ha).trans (hbc (ha.of_confined (hab ha)))
  · exact confined_makeDirectory (ha.onWay hs hp) (List.prefix_or_prefix_of_prefix hroot hp) hmake

end

end Scaffold.Workspace
