import Scaffold.Proofs.Workspace.Walk

/-!
# What resolving leaves

`Node.resolve` replaces links one after the other. As long as none leads back to itself, what it has
found so far is without links, and so is the location that it ends with (`direct_resolveNames`).
After a link that does, it keeps the rest of the path as it is written and takes out each `..` with
the name before it. The location may then have a link on the way that was never followed: the names
stray (`Strays`).
-/

namespace Scaffold.Workspace

/-- A link led back to itself, and the location that the names were taken for has a link on the
way. -/
def Strays (top : Node) (names : List String) : Prop :=
  (top.resolved names).complete = false ∧ ¬ Clear top (top.resolveNames names).names

/-- Names that say something. -/
def Speaking (names : List String) : Prop := ∀ name ∈ names, Location.speaks name = true

instance (names : List String) : Decidable (Speaking names) :=
  inferInstanceAs (Decidable (∀ name ∈ names, _))

/-- Plain names to a place without links. -/
structure Settled (top : Node) (place : List String) : Prop where
  plain : ∀ name ∈ place, IsPlain name
  clear : Clear top place

/-- What is known of the links on the way is settled. -/
def MetSettled (top : Node) (met : Node.Met) : Prop :=
  ∀ entry ∈ met, ∀ place, entry.2 = some place → Settled top place

/-- A resolution ends at a location from the top, and a complete one at a settled place. -/
structure Settles (top : Node) (r : Node.Resolved) : Prop where
  absolute : r.place.slashes ≠ 0
  place : r.complete = true → Settled top r.place.names
  met : r.complete = true → MetSettled top r.met

/-! ### Names -/

section

variable {top : Node} {place : List String} {name : String}

theorem Settled.dropLast (h : Settled top place) : Settled top place.dropLast where
  plain name hm := h.plain name (List.mem_of_mem_dropLast hm)
  clear other hp := h.clear other (hp.trans (List.dropLast_prefix _))

/-- One more name, at which no link stands. -/
theorem Settled.concat (h : Settled top place) (hname : IsPlain name)
    (hlink : top.linkAt? (place ++ [name]) = none) : Settled top (place ++ [name]) where
  plain other hm := by
    rcases List.mem_append.1 hm with hm | hm
    · exact h.plain other hm
    · rw [List.mem_singleton.1 hm]
      exact hname
  clear other hp := by
    rcases List.prefix_concat_iff.1 hp with rfl | hp
    · exact hlink
    · exact h.clear other hp

/-- Names are cleaned one after the other. -/
theorem clean_concat (names : List String) (name : String) :
    Node.clean (names ++ [name]) =
      if !Location.speaks name then Node.clean names
      else if name == ".." then (Node.clean names).dropLast
      else Node.clean names ++ [name] := by
  rw [Node.clean, List.foldl_append]
  rfl

theorem clean_of_plain {names : List String} (h : ∀ name ∈ names, IsPlain name) :
    Node.clean names = names := by
  induction names using List.reverseRecOn with
  | nil => rfl
  | append_singleton names name ih =>
    obtain ⟨hspeaks, hup⟩ := h name (by simp)
    rw [clean_concat, ih fun n hn => h n (List.mem_append_left _ hn)]
    simp [hspeaks, hup]

theorem isPlain_of_mem_clean {names : List String} (h : name ∈ Node.clean names) :
    IsPlain name := by
  induction names using List.reverseRecOn with
  | nil => cases h
  | append_singleton names last ih =>
    rw [clean_concat] at h
    split at h
    · exact ih h
    · split at h
      · exact ih (List.mem_of_mem_dropLast h)
      · next hspeaks hup =>
        rcases List.mem_append.1 h with h | h
        · exact ih h
        · rw [List.mem_singleton.1 h]
          exact ⟨by simpa using hspeaks, by simpa using hup⟩

end

theorem isPlain_of_speaks (hspeaks : ¬ (!Location.speaks name) = true)
    (hup : ¬ (name == "..") = true) : IsPlain name :=
  ⟨by simpa using hspeaks, by simpa using hup⟩

/-! ### Link by link -/

section

variable {top : Node} {met : Node.Met} {here : List String}

theorem settled_nil (hroot : top.linkAt? [] = none) : Settled top [] where
  plain := by simp
  clear other hp := by rwa [List.prefix_nil.1 hp]

/-- An incomplete resolution promises no more than a location. -/
theorem settles_incomplete (top : Node) {place : Location} (met : Node.Met)
    (h : place.slashes ≠ 0) : Settles top ⟨place, false, met⟩ where
  absolute := h
  place hcomplete := by cases hcomplete
  met hcomplete := by cases hcomplete

theorem slashesOf_ne_zero {text : String} (h : ∃ rest, text.toList = '/' :: rest) :
    Location.slashesOf text ≠ 0 := by
  obtain ⟨rest, h⟩ := h
  rw [Location.slashesOf, h]
  simp only [List.takeWhile_cons, beq_self_eq_true, if_true, List.length_cons]
  split <;> simp_all

theorem slashes_behind {place : Location} (h : place.slashes ≠ 0) (pieces : List String) :
    (Node.behind place pieces).slashes ≠ 0 := by
  unfold Node.behind
  split
  · next piece pieces =>
    refine slashesOf_ne_zero ⟨("/".intercalate (piece :: pieces)).toList, ?_⟩
    rw [String.intercalate_cons_cons]
    simp
  · exact h

theorem settled_of_lookup {next place : List String} (hmet : MetSettled top met)
    (h : met.lookup next = some (some place)) : Settled top place := by
  obtain ⟨front, back, rfl, -⟩ := List.lookup_eq_some_iff.1 h
  exact hmet (next, some place) (by simp) place rfl

/-- If the targets of links settle, so do names. -/
theorem settles_resolveWith {expand : Node.Met → List String → String → Node.Resolved}
    (hexpand : ∀ met here target, MetSettled top met → Settled top here →
      Settles top (expand met here target))
    (hmet : MetSettled top met) (hhere : Settled top here) (names : List String) :
    Settles top (top.resolveWith expand met here names) := by
  induction names generalizing met here with
  | nil => exact ⟨Nat.one_ne_zero, fun _ => hhere, fun _ => hmet⟩
  | cons name rest ih =>
    rw [Node.resolveWith]
    split
    · exact ih hmet hhere
    · next hspeaks =>
      split
      · exact ih hmet hhere.dropLast
      · next hup =>
        dsimp only
        split
        · next target hlink =>
          split
          · -- a link met before
            next place hlookup => exact ih hmet (settled_of_lookup hmet hlookup)
          · exact settles_incomplete top _ (slashes_behind Nat.one_ne_zero rest)
          · have hopen : MetSettled top ((here ++ [name], none) :: met) := by
              intro entry hm place hplace
              rcases List.mem_cons.1 hm with rfl | hm
              · cases hplace
              · exact hmet entry hm place hplace
            have hr := hexpand _ here target hopen hhere
            split
            · next hcomplete =>
              refine ih (fun entry hm place hplace => ?_) (hr.place hcomplete)
              rcases List.mem_cons.1 hm with rfl | hm
              · cases hplace
                exact hr.place hcomplete
              · exact hr.met hcomplete entry hm place hplace
            · exact settles_incomplete top _ (slashes_behind hr.absolute rest)
        · next hlink => exact ih hmet (hhere.concat (isPlain_of_speaks hspeaks hup) hlink)

theorem settles_expandLink (hroot : top.linkAt? [] = none) (fuel : Nat) (met : Node.Met)
    (here : List String) (target : String) (hmet : MetSettled top met) (hhere : Settled top here) :
    Settles top (top.expandLink fuel met here target) := by
  induction fuel generalizing met here target with
  | zero => exact settles_incomplete top _ Nat.one_ne_zero
  | succ fuel ih =>
    rw [Node.expandLink]
    refine settles_resolveWith ih hmet ?_ _
    split
    · exact settled_nil hroot
    · exact hhere

theorem settles_resolved (hroot : top.linkAt? [] = none) (names : List String) :
    Settles top (top.resolved names) := by
  refine settles_resolveWith (settles_expandLink hroot _) ?_ (settled_nil hroot) names
  intro entry hm
  cases hm

/-- Names that do not stray are resolved to a location without links. -/
theorem direct_resolveNames (hroot : top.linkAt? [] = none) {names : List String}
    (h : ¬ Strays top names) : Direct top (top.resolveNames names) := by
  have hr := settles_resolved hroot names
  refine ⟨hr.absolute, fun name hm => isPlain_of_mem_clean hm, ?_⟩
  by_cases hcomplete : (top.resolved names).complete = true
  · -- a settled place has nothing to clean away
    have hplace := hr.place hcomplete
    have hclean : (top.resolveNames names).names = (top.resolved names).place.names :=
      clean_of_plain hplace.plain
    rw [hclean]
    exact hplace.clear
  · by_contra hclear
    exact h ⟨by simpa using hcomplete, hclear⟩

/-! ### Names without links -/

/-- Names on a way without links are resolved to themselves. -/
theorem resolveWith_clear {expand : Node.Met → List String → String → Node.Resolved}
    {names : List String} (hplain : ∀ name ∈ names, IsPlain name)
    (hclear : Clear top (here ++ names)) :
    top.resolveWith expand met here names = ⟨.top (here ++ names), true, met⟩ := by
  induction names generalizing here with
  | nil => rw [Node.resolveWith, List.append_nil]
  | cons name names ih =>
    have happend : here ++ name :: names = here ++ [name] ++ names := by simp
    obtain ⟨hspeaks, hup⟩ := hplain name List.mem_cons_self
    rw [happend] at hclear ⊢
    rw [Node.resolveWith, if_neg (by simp [hspeaks]), if_neg (by simpa using hup)]
    simp only [hclear (here ++ [name]) (List.prefix_append _ _)]
    exact ih (fun n hn => hplain n (List.mem_cons_of_mem name hn)) hclear

theorem resolveNames_clear {place : List String} (hplain : ∀ name ∈ place, IsPlain name)
    (hclear : Clear top place) : top.resolveNames place = .top place := by
  have hresolved : top.resolved place = ⟨.top place, true, []⟩ :=
    resolveWith_clear hplain hclear
  simp only [Node.resolveNames, hresolved, Location.top, clean_of_plain hplain]

/-! ### One more name -/

theorem behind_speaking {pieces : List String} (h : Speaking pieces)
    (place : Location) : Node.behind place pieces = ⟨place.slashes, place.names ++ pieces⟩ := by
  unfold Node.behind
  split
  · next piece pieces =>
    cases h "" List.mem_cons_self
  · rfl

/-- One more name is looked up where the names before it lead, or written behind them. -/
theorem resolveWith_concat {expand : Node.Met → List String → String → Node.Resolved}
    {names : List String} {name : String} (hnames : Speaking names) (hname : IsPlain name) :
    top.resolveWith expand met here (names ++ [name]) =
      let r := top.resolveWith expand met here names
      if r.complete then top.resolveWith expand r.met r.place.names [name]
      else ⟨⟨r.place.slashes, r.place.names ++ [name]⟩, false, r.met⟩ := by
  induction names generalizing met here with
  | nil => rfl
  | cons next rest ih =>
    have hspeaks := hnames next List.mem_cons_self
    have hrest : Speaking rest := fun other ho => hnames other (List.mem_cons_of_mem next ho)
    have hmore : Speaking (rest ++ [name]) := by
      intro other ho
      rcases List.mem_append.1 ho with ho | ho
      · exact hrest other ho
      · exact List.mem_singleton.1 ho ▸ hname.1
    have hbehind : ∀ place : Location, Node.behind place (rest ++ [name]) =
        ⟨(Node.behind place rest).slashes, (Node.behind place rest).names ++ [name]⟩ := by
      intro place
      rw [behind_speaking hmore, behind_speaking hrest, List.append_assoc]
    rw [List.cons_append, Node.resolveWith, Node.resolveWith]
    simp only [hspeaks, Bool.not_true, Bool.false_eq_true, if_false]
    split
    · exact ih hrest
    · split
      · split
        · exact ih hrest
        · simp [hbehind]
        · split
          · exact ih hrest
          · simp [hbehind]
      · exact ih hrest

/-- Names that were not resolved to their end are not with one more name, which is written behind
them. -/
theorem resolved_concat {names : List String} {name : String} (hnames : Speaking names)
    (hname : IsPlain name)
    (hincomplete : (top.resolved names).complete = false) :
    (top.resolved (names ++ [name])).complete = false ∧
      (top.resolveNames (names ++ [name])).names = (top.resolveNames names).names ++ [name] := by
  have hresolved : top.resolved (names ++ [name]) = ⟨⟨(top.resolved names).place.slashes,
      (top.resolved names).place.names ++ [name]⟩, false, (top.resolved names).met⟩ := by
    rw [Node.resolved, resolveWith_concat hnames hname]
    exact if_neg (by simpa [Node.resolved] using hincomplete)
  obtain ⟨hspeaks, hup⟩ := hname
  simp only [Node.resolveNames, hresolved, true_and]
  rw [clean_concat]
  simp [hspeaks, hup]

/-- One more name leads from where the names before it lead, if there is no link. -/
theorem resolveNames_concat (hroot : top.linkAt? [] = none) {names : List String} {name : String}
    (hspeaking : Speaking names) (hname : IsPlain name)
    (hfree : top.linkAt? ((top.resolveNames names).names ++ [name]) = none) :
    (top.resolveNames (names ++ [name])).names = (top.resolveNames names).names ++ [name] := by
  cases hcomplete : (top.resolved names).complete with
  | false => exact (resolved_concat hspeaking hname hcomplete).2
  | true =>
    have hplace := (settles_resolved hroot names).place hcomplete
    have hnames : (top.resolveNames names).names = (top.resolved names).place.names :=
      clean_of_plain hplace.plain
    rw [hnames] at hfree ⊢
    have hresolved : top.resolved (names ++ [name]) =
        ⟨.top ((top.resolved names).place.names ++ [name]), true, (top.resolved names).met⟩ := by
      rw [Node.resolved, resolveWith_concat hspeaking hname]
      refine (if_pos hcomplete).trans (resolveWith_clear ?_ (hplace.concat hname hfree).clear)
      exact fun other ho => List.mem_singleton.1 ho ▸ hname
    simp only [Node.resolveNames, hresolved, Location.top]
    exact clean_of_plain (hplace.concat hname hfree).plain

/-- Names do not stray if they do not with one more name. -/
theorem not_strays_of_concat {names : List String} {name : String} (hnames : Speaking names)
    (hname : IsPlain name) (h : ¬ Strays top (names ++ [name])) :
    ¬ Strays top names := by
  rintro ⟨hincomplete, hclear⟩
  obtain ⟨hincomplete', hplace⟩ := resolved_concat hnames hname hincomplete
  refine h ⟨hincomplete', fun hclear' => hclear fun other hp => hclear' other ?_⟩
  rw [hplace]
  exact hp.trans (List.prefix_append _ _)

end

end Scaffold.Workspace
