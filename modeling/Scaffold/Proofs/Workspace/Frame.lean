import Mathlib.Tactic
import Scaffold.Workspace.Tree

/-!
# What a change of a tree leaves alone

`Node.bareAt?` is what stands at a place of a tree, without what a directory holds, so that two
trees are compared place by place. `put` changes a tree at one place and below it
(`bareAt?_put_of_not_prefix`, `bareAt?_put_append`). Two relations of an older and a newer tree are
built from that:

* `Keeps` - what stood in the older tree stands in the newer one;
* `Confined` - outside a root nothing is different, but for directories on the way to the root that
  were missing, and no link is new.
-/

namespace Scaffold.Workspace

/-- A node without what it holds. -/
inductive Bare
  | file (content : ByteArray)
  | link (target : String)
  | directory

namespace Node

/-- The node without what it holds. -/
def bare : Node → Bare
  | file content => .file content
  | link target => .link target
  | directory _ => .directory

/-- What stands at a place, links not followed. -/
def bareAt? (top : Node) (place : List String) : Option Bare := (top.get? place).map bare

/-! ### Entries -/

@[simp] theorem get?_nil (n : Node) : n.get? [] = some n := by
  cases n <;> rfl

theorem get?_directory_cons (entries : List (String × Node)) (name : String) (rest : List String) :
    (directory entries).get? (name :: rest) = (lookup name entries).bind (·.get? rest) := by
  rw [get?]
  cases lookup name entries <;> rfl

theorem get?_append (top : Node) (place rest : List String) :
    top.get? (place ++ rest) = (top.get? place).bind (·.get? rest) := by
  induction place generalizing top with
  | nil => rw [List.nil_append, get?_nil, Option.bind_some]
  | cons name place ih =>
    cases top with
    | file content => rfl
    | link target => rfl
    | directory entries =>
      rw [List.cons_append, get?_directory_cons, get?_directory_cons, Option.bind_assoc]
      exact Option.bind_congr fun n _ => ih n

theorem lookup_insert (name name' : String) (n : Node) (entries : List (String × Node)) :
    lookup name' (insert name n entries) =
      if name' = name then some n else lookup name' entries := by
  induction entries with
  | nil =>
    simp only [insert, lookup, beq_iff_eq]
    exact if_congr eq_comm rfl rfl
  | cons entry entries ih =>
    obtain ⟨k, m⟩ := entry
    by_cases hk : k = name
    · subst hk
      by_cases hn : name' = k
      · simp [insert, lookup, hn]
      · simp [insert, lookup, hn, Ne.symm hn]
    · by_cases hn : name' = name
      · subst hn
        simp [insert, lookup, hk, ih]
      · simp [insert, lookup, hk, ih, hn]

@[simp] theorem bareAt?_nil (n : Node) : n.bareAt? [] = some n.bare := by
  simp [bareAt?]

/-- Below a directory its entries decide. -/
theorem bareAt?_directory_cons (entries : List (String × Node)) (name : String)
    (rest : List String) :
    (directory entries).bareAt? (name :: rest) = (lookup name entries).bind (·.bareAt? rest) := by
  rw [bareAt?, get?_directory_cons, Option.map_bind]
  rfl

/-! ### One place -/

/-- Putting a node below a directory gives the directory another entry, or nothing changes. -/
theorem put_cons_cases (n new : Node) (name : String) (place : List String) :
    n.put (name :: place) new = n ∨ ∃ entries old, n = directory entries ∧
      n.put (name :: place) new = directory (insert name (old.put place new) entries) ∧
      (place ≠ [] → lookup name entries = some old) := by
  cases n with
  | file content => exact Or.inl (by simp [put])
  | link target => exact Or.inl (by simp [put])
  | directory entries =>
    cases place with
    | nil => exact Or.inr ⟨entries, empty, rfl, by simp [put], fun h => absurd rfl h⟩
    | cons next place =>
      cases hl : lookup name entries with
      | none => exact Or.inl (by simp [put, hl])
      | some old => exact Or.inr ⟨entries, old, rfl, by simp [put, hl], fun _ => hl⟩

/-- A tree with a node put at a place is the same tree elsewhere. -/
theorem bareAt?_put_of_not_prefix {n new : Node} {place other : List String}
    (h : ¬ place <+: other) : (n.put place new).bareAt? other = n.bareAt? other := by
  induction place generalizing n other with
  | nil => exact absurd List.nil_prefix h
  | cons name place ih =>
    rcases put_cons_cases n new name place with hput | ⟨entries, old, rfl, hput, hold⟩ <;> rw [hput]
    -- the other place lies in another entry, or parts from this one further down
    cases other with
    | nil => rfl
    | cons name' other =>
      rw [bareAt?_directory_cons, bareAt?_directory_cons, lookup_insert]
      split
      · next hname =>
        have hrest : ¬ place <+: other := fun hp => h (by simpa [hname] using hp)
        rw [hname, hold fun hnil => hrest (hnil ▸ List.nil_prefix)]
        exact ih hrest
      · rfl

/-- At the place and below it stands what was put there, or what stood there. -/
theorem bareAt?_put_append (n new : Node) (place rest : List String) :
    (n.put place new).bareAt? (place ++ rest) = new.bareAt? rest ∨
      (n.put place new).bareAt? (place ++ rest) = n.bareAt? (place ++ rest) := by
  induction place generalizing n with
  | nil => exact Or.inl (by rw [put, List.nil_append])
  | cons name place ih =>
    rcases put_cons_cases n new name place with hput | ⟨entries, old, rfl, hput, hold⟩ <;> rw [hput]
    · exact Or.inr rfl
    · rw [List.cons_append, bareAt?_directory_cons, bareAt?_directory_cons, lookup_insert,
        if_pos rfl, Option.bind_some]
      by_cases hnil : place = []
      · subst hnil
        exact Or.inl (by rw [put, List.nil_append])
      · rw [hold hnil]
        exact ih old

end Node

/-! ### What stands is kept -/

/-- What stands in the old tree stands in the new one. -/
def Keeps (old new : Node) : Prop :=
  ∀ place b, old.bareAt? place = some b → new.bareAt? place = some b

theorem Keeps.refl (n : Node) : Keeps n n := fun _ _ h => h

theorem Keeps.trans {old mid new : Node} (h : Keeps old mid) (h' : Keeps mid new) :
    Keeps old new :=
  fun place b hb => h' place b (h place b hb)

/-- A node of the old tree is in the new one, with what else a directory holds there. -/
theorem Keeps.get? {old new n : Node} {place : List String} (h : Keeps old new)
    (hn : old.get? place = some n) : ∃ n', new.get? place = some n' ∧ n'.bare = n.bare := by
  have hbare := h place n.bare (by rw [Node.bareAt?, hn, Option.map_some])
  exact Option.map_eq_some_iff.1 hbare

/-- Where nothing stands, nothing stands below. -/
theorem bareAt?_append_eq_none {n : Node} {place : List String} (h : n.get? place = none)
    (rest : List String) : n.bareAt? (place ++ rest) = none := by
  rw [Node.bareAt?, Node.get?_append, h, Option.bind_none, Option.map_none]

theorem keeps_put {n : Node} {place : List String} (h : n.get? place = none) (new : Node) :
    Keeps n (n.put place new) := by
  intro other b hb
  by_cases hp : place <+: other
  · obtain ⟨rest, rfl⟩ := hp
    rw [bareAt?_append_eq_none h] at hb
    cases hb
  · rw [Node.bareAt?_put_of_not_prefix hp, hb]

/-! ### Nothing outside a root is changed -/

/-- Outside a root the new tree is the old one, except that directories on the way to the root may
be new; and no link is new. -/
structure Confined (root : List String) (old new : Node) : Prop where
  outside : ∀ place, ¬ root <+: place → new.bareAt? place = old.bareAt? place ∨
    place <+: root ∧ old.bareAt? place = none ∧ new.bareAt? place = some .directory
  links : ∀ place target, new.bareAt? place = some (.link target) →
    old.bareAt? place = some (.link target)

section

variable {root : List String} {n old mid new : Node} {place : List String}

theorem Confined.refl (root : List String) (n : Node) : Confined root n n :=
  ⟨fun _ _ => Or.inl rfl, fun _ _ h => h⟩

theorem Confined.trans (h : Confined root old mid) (h' : Confined root mid new) :
    Confined root old new := by
  refine ⟨fun place hp => ?_,
    fun place target hl => h.links place target (h'.links place target hl)⟩
  rcases h.outside place hp with heq | ⟨hroot, hnone, hdir⟩
  · rcases h'.outside place hp with heq' | ⟨hroot, hnone, hdir⟩
    · exact Or.inl (heq'.trans heq)
    · exact Or.inr ⟨hroot, heq ▸ hnone, hdir⟩
  · rcases h'.outside place hp with heq' | ⟨-, hnone', -⟩
    · exact Or.inr ⟨hroot, hnone, heq'.trans hdir⟩
    · rw [hdir] at hnone'
      cases hnone'

/-- What is put is no link: no link is new. -/
theorem link_of_put {leaf : Node} (hleaf : ∀ other target, leaf.bareAt? other ≠ some (.link target))
    {other : List String} {target : String}
    (h : (n.put place leaf).bareAt? other = some (.link target)) :
    n.bareAt? other = some (.link target) := by
  by_cases hp : place <+: other
  · obtain ⟨rest, rfl⟩ := hp
    rcases Node.bareAt?_put_append n leaf place rest with hput | hput <;> rw [hput] at h
    · exact absurd h (hleaf rest target)
    · exact h
  · rwa [Node.bareAt?_put_of_not_prefix hp] at h

theorem bareAt?_file_ne_link (content : ByteArray) (other : List String) (target : String) :
    (Node.file content).bareAt? other ≠ some (.link target) := by
  intro h
  cases other <;> cases h

theorem bareAt?_empty_ne_link (other : List String) (target : String) :
    Node.empty.bareAt? other ≠ some (.link target) := by
  intro h
  cases other <;> cases h

/-- A file inside the root. -/
theorem confined_put_file (h : root <+: place) (content : ByteArray) :
    Confined root n (n.put place (.file content)) := by
  refine ⟨fun other hother => Or.inl ?_, fun _ _ => link_of_put (bareAt?_file_ne_link content)⟩
  exact Node.bareAt?_put_of_not_prefix fun hp => hother (h.trans hp)

/-- A directory inside the root or on the way to it, where nothing was. -/
theorem confined_put_empty (h : root <+: place ∨ place <+: root) (hnone : n.get? place = none) :
    Confined root n (n.put place .empty) := by
  refine ⟨fun other hother => ?_, fun _ _ => link_of_put bareAt?_empty_ne_link⟩
  by_cases hp : place <+: other
  · -- the place is not inside the root, so it is on the way to it
    have hroot : place <+: root := h.resolve_left fun hr => hother (hr.trans hp)
    obtain ⟨rest, rfl⟩ := hp
    have hbefore := bareAt?_append_eq_none hnone rest
    rcases Node.bareAt?_put_append n .empty place rest with hput | hput
    · cases rest with
      | nil =>
        rw [List.append_nil] at hput hbefore ⊢
        exact Or.inr ⟨hroot, hbefore, hput⟩
      | cons name rest => exact Or.inl (hput.trans hbefore.symm)
    · exact Or.inl hput
  · exact Or.inl (Node.bareAt?_put_of_not_prefix hp)

end

end Scaffold.Workspace
