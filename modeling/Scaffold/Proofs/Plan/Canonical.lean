import Scaffold.Proofs.Plan.Path

/-!
# Safe paths

A path is `Canonical` when it is made of segments that say something and do not lead up, with `/`
between them, and neither a separator nor a drive stands in front. These are the paths that are
read as themselves (`normalize_eq_self_iff`).

Reading a text gives segments in any case (`segmented_normalize`). But the drive is looked for in
the text, and dropping `./` may bring one to the front. This happens to the texts that hide a drive
(`hasDrive_normalize_iff`), and for no other text is the path that it gives, or the path above it,
unsafe (`normalize_safe_iff`).
-/

namespace Scaffold.Plan
open Scaffold.Text

/-! ### Drives -/

/-- A letter and a colon stand in front. -/
def HasDrive (cs : List Char) : Prop := ∃ c rest, isLetter c = true ∧ cs = c :: ':' :: rest

/-- A drive stands behind a separator, and what is in front of that says nothing. -/
def HidesDrive (cs : List Char) : Prop :=
  ∃ front sep rest, cs = front ++ sep :: rest ∧ isSeparator sep = true ∧ segmentsOf front = [] ∧
    HasDrive rest

section

variable {cs : List Char}

theorem HasDrive.append (h : HasDrive cs) (ds : List Char) : HasDrive (cs ++ ds) := by
  obtain ⟨c, rest, hc, rfl⟩ := h
  exact ⟨c, rest ++ ds, hc, rfl⟩

/-- A drive stands in front of the first slash. -/
theorem hasDrive_append_slash (ds : List Char) : HasDrive (cs ++ '/' :: ds) ↔ HasDrive cs := by
  constructor
  · rintro ⟨c, rest, hc, h⟩
    match cs, h with
    | [], h =>
      cases h
      cases hc
    | [d], h => cases h
    | d :: e :: more, h =>
      cases h
      exact ⟨c, more, hc, rfl⟩
  · exact fun h => h.append _

theorem isAbsolute_eq_false_iff : isAbsolute cs = false ↔
    (∀ c, cs.head? = some c → isSeparator c = false) ∧ ¬ HasDrive cs := by
  unfold HasDrive
  match cs with
  | [] => simp [isAbsolute]
  | [c] => simp [isAbsolute]
  | c :: d :: rest =>
    simp only [isAbsolute, Bool.or_eq_false_iff, Bool.and_eq_false_iff, beq_eq_false_iff_ne,
      List.head?_cons, Option.some.injEq, forall_eq', List.cons.injEq, not_exists, not_and]
    refine and_congr_right fun _ => ⟨?_, ?_⟩
    · rintro (hc | hd) c' rest' hc' rfl
      · rw [hc] at hc'
        cases hc'
      · exact fun he => absurd he hd
    · intro h
      cases hc : isLetter c with
      | false => exact Or.inl rfl
      | true => exact Or.inr fun hd => h c rest hc rfl hd rfl

end

/-! ### Paths made of segments -/

/-- A segment that says something and does not lead up. -/
structure IsName (segment : List Char) : Prop where
  ne_nil : segment ≠ []
  ne_dot : segment ≠ ['.']
  ne_dots : segment ≠ ['.', '.']

/-- Made of segments that say something and do not lead up, with `/` between them and no separator
in front. -/
structure Segmented (path : String) : Prop where
  front : ∀ c, path.toList.head? = some c → isSeparator c = false
  names : ∀ segment ∈ splitOn '/' path.toList, IsName segment
  noBackslash : '\\' ∉ path.toList

/-- A relative path in its one spelling. -/
structure Canonical (path : String) : Prop extends Segmented path where
  noDrive : ¬ HasDrive path.toList

section

variable {cs segment : List Char} {segments : List (List Char)}

theorem isName_of_mem_segmentsOf (hup : ['.', '.'] ∉ segmentsOf cs) (h : segment ∈ segmentsOf cs) :
    IsName segment := by
  have hidle := (List.mem_filter.1 h).2
  simp only [isIdle, Bool.not_or, Bool.and_eq_true, Bool.not_eq_true', List.isEmpty_eq_false_iff,
    beq_eq_false_iff_ne] at hidle
  exact ⟨hidle.1, hidle.2, fun he => hup (he ▸ h)⟩

theorem noSeparator_of_mem_segmentsOf (h : segment ∈ segmentsOf cs) :
    ∀ c ∈ segment, isSeparator c = false :=
  fun _ hc => eq_false_of_mem_splitBy (List.mem_filter.1 h).1 hc

theorem not_mem_slash (h : ∀ c ∈ segment, isSeparator c = false) : '/' ∉ segment :=
  fun hm => absurd (h '/' hm) (by decide)

theorem not_mem_joinWith {c : Char} (hc : c ≠ '/') (h : ∀ segment ∈ segments, c ∉ segment) :
    c ∉ joinWith ['/'] segments := by
  induction segments with
  | nil => simp [joinWith]
  | cons segment segments ih =>
    have hfirst := h segment List.mem_cons_self
    have hrest := ih fun s hs => h s (List.mem_cons_of_mem segment hs)
    cases segments with
    | nil => exact hfirst
    | cons next rest => simp [joinWith, hfirst, hc, hrest]

theorem segmented_joinWith (hne : segments ≠ []) (hnames : ∀ segment ∈ segments, IsName segment)
    (hsep : ∀ segment ∈ segments, ∀ c ∈ segment, isSeparator c = false) :
    Segmented (String.ofList (joinWith ['/'] segments)) where
  front c hc := by
    rw [String.toList_ofList] at hc
    obtain ⟨segment, others, rfl⟩ := List.exists_cons_of_ne_nil hne
    obtain ⟨d, ds, hsegment⟩ :=
      List.exists_cons_of_ne_nil (hnames segment List.mem_cons_self).ne_nil
    have hd : isSeparator d = false :=
      hsep segment List.mem_cons_self d (hsegment ▸ List.mem_cons_self)
    subst hsegment
    have hcd : d = c := by cases others <;> simpa [joinWith] using hc
    exact hcd ▸ hd
  names segment h := by
    rw [String.toList_ofList, splitOn_joinWith hne fun s hs => not_mem_slash (hsep s hs)] at h
    exact hnames segment h
  noBackslash := by
    rw [String.toList_ofList]
    exact not_mem_joinWith (by decide) fun s hs hm => absurd (hsep s hs '\\' hm) (by decide)

end

section

variable {raw path : String}

/-- The path that a text is read as, and the path above it if there is one, are made of
segments. -/
theorem segmented_normalize (h : normalize raw = .ok path) :
    Segmented path ∧ (parent path = "" ∨ Segmented (parent path)) := by
  obtain ⟨-, hup, hne, hpath⟩ := normalizeChars_eq_ok_iff.1 (normalize_eq_ok_iff.1 h)
  obtain rfl : path = String.ofList (joinWith ['/'] (segmentsOf raw.toList)) := by
    rw [← hpath, String.ofList_toList]
  have hnames : ∀ segment ∈ segmentsOf raw.toList, IsName segment :=
    fun _ hs => isName_of_mem_segmentsOf hup hs
  have hsep : ∀ segment ∈ segmentsOf raw.toList, ∀ c ∈ segment, isSeparator c = false :=
    fun _ hs => noSeparator_of_mem_segmentsOf hs
  refine ⟨segmented_joinWith hne hnames hsep, ?_⟩
  rcases List.eq_nil_or_concat (segmentsOf raw.toList) with hnil | ⟨front, last, hlast⟩
  · exact absurd hnil hne
  · rw [List.concat_eq_append] at hlast
    rw [hlast] at hnames hsep ⊢
    rw [parent_joinWith (not_mem_slash (hsep last (by simp)))]
    by_cases hfront : front = []
    · exact Or.inl (by rw [hfront]; rfl)
    · refine Or.inr (segmented_joinWith hfront (fun s hs => hnames s ?_) fun s hs => hsep s ?_) <;>
        exact List.mem_append_left _ hs

/-- The path above a path stands in front of a slash. -/
theorem parent_cases (path : String) :
    parent path = "" ∨ ∃ last, path.toList = (parent path).toList ++ '/' :: last := by
  rcases cutLast_cases '/' path.toList with ⟨-, hcut⟩ | ⟨front, last, hpath, -, hcut⟩
  · exact Or.inl (by rw [parent, hcut])
  · exact Or.inr ⟨last, by rw [parent, hcut, String.toList_ofList, hpath]⟩

theorem hasDrive_parent (h : HasDrive (parent path).toList) : HasDrive path.toList := by
  rcases parent_cases path with hempty | ⟨last, hlast⟩
  · obtain ⟨c, rest, -, hcs⟩ := h
    rw [hempty] at hcs
    cases hcs
  · rw [hlast]
    exact h.append _

/-- Only a canonical path is read as itself. -/
theorem normalize_eq_self_iff : normalize path = .ok path ↔ Canonical path := by
  constructor
  · intro h
    have habs := (normalizeChars_eq_ok_iff.1 (normalize_eq_ok_iff.1 h)).1
    exact ⟨(segmented_normalize h).1, (isAbsolute_eq_false_iff.1 habs).2⟩
  · intro h
    have hsplit : splitBy isSeparator path.toList = splitOn '/' path.toList := by
      refine splitBy_congr fun c hc => ?_
      have hne : c ≠ '\\' := fun e => h.noBackslash (e ▸ hc)
      simp [isSeparator, hne]
    have hsegments : segmentsOf path.toList = splitOn '/' path.toList := by
      rw [segmentsOf, hsplit]
      refine List.filter_eq_self.2 fun segment hs => ?_
      have hname := h.names segment hs
      simp [isIdle, hname.ne_nil, hname.ne_dot]
    rw [normalize_eq_ok_iff, normalizeChars_eq_ok_iff, hsegments, joinWith_splitOn]
    refine ⟨isAbsolute_eq_false_iff.2 ⟨h.front, h.noDrive⟩, ?_, ?_, rfl⟩
    · exact fun hup => (h.names _ hup).ne_dots rfl
    · obtain ⟨piece, pieces, he⟩ := exists_splitOn_eq_cons '/' path.toList
      simp [he]

/-! ### Hidden drives -/

theorem segmentsOf_append {front rest : List Char} {sep : Char} (hsep : isSeparator sep = true) :
    segmentsOf (front ++ sep :: rest) = segmentsOf front ++ segmentsOf rest := by
  simp only [segmentsOf, splitBy_append_sep hsep, List.filter_append]

/-- A drive is the beginning of the first segment. -/
theorem hasDrive_joinWith {segment : List Char} (segments : List (List Char)) :
    HasDrive (joinWith ['/'] (segment :: segments)) ↔ HasDrive segment := by
  cases segments with
  | nil => rfl
  | cons next rest =>
    rw [joinWith, List.append_assoc]
    · exact hasDrive_append_slash _
    · exact List.cons_ne_nil next rest

theorem hasDrive_of_splitBy {cs segment : List Char} {segments : List (List Char)}
    (h : splitBy isSeparator cs = segment :: segments) (hdrive : HasDrive segment) :
    HasDrive cs := by
  rcases splitBy_eq_cons h with ⟨-, rfl⟩ | ⟨sep, rest, rfl, -, -⟩
  · exact hdrive
  · exact hdrive.append _

/-- The first segment of a text that starts with a drive. -/
theorem exists_segmentsOf_of_hasDrive {cs : List Char} (h : HasDrive cs) :
    ∃ segment segments, segmentsOf cs = segment :: segments ∧ HasDrive segment := by
  obtain ⟨c, rest, hc, rfl⟩ := h
  obtain ⟨piece, pieces, hrest⟩ := exists_splitBy_eq_cons isSeparator rest
  have hletter : isSeparator c = false := by
    by_contra hsep
    simp only [isSeparator, Bool.not_eq_false, Bool.or_eq_true, beq_iff_eq] at hsep
    rcases hsep with rfl | rfl <;> cases hc
  have hsplit : splitBy isSeparator (c :: ':' :: rest) = (c :: ':' :: piece) :: pieces :=
    splitBy_cons_of_neg hletter (splitBy_cons_of_neg (by decide) hrest)
  refine ⟨c :: ':' :: piece, pieces.filter fun segment => !isIdle segment, ?_, c, piece, hc, rfl⟩
  rw [segmentsOf, hsplit, List.filter_cons_of_pos (by simp [isIdle])]

/-- The path that a text is read as has a drive in front just when the text hides one. -/
theorem hasDrive_normalize_iff (h : normalize raw = .ok path) :
    HasDrive path.toList ↔ HidesDrive raw.toList := by
  obtain ⟨habs, -, hne, hpath⟩ := normalizeChars_eq_ok_iff.1 (normalize_eq_ok_iff.1 h)
  rw [hpath]
  constructor
  · obtain ⟨segment, segments, hsegments⟩ := List.exists_cons_of_ne_nil hne
    rw [hsegments, hasDrive_joinWith]
    intro hdrive
    obtain ⟨idle, behind, hsplit, hidle, -, -⟩ := List.filter_eq_cons_iff.1 hsegments
    -- the text itself has no drive, so something stands in front of the segment
    have hfront : idle ≠ [] := by
      rintro rfl
      exact (isAbsolute_eq_false_iff.1 habs).2 (hasDrive_of_splitBy hsplit hdrive)
    obtain ⟨front, sep, rest, hraw, hsep, hxs, hys⟩ :=
      splitBy_eq_append hfront (List.cons_ne_nil _ _) hsplit
    refine ⟨front, sep, rest, hraw, hsep, ?_, hasDrive_of_splitBy hys hdrive⟩
    rw [segmentsOf, hxs]
    exact List.filter_eq_nil_iff.2 hidle
  · rintro ⟨front, sep, rest, hraw, hsep, hfront, hdrive⟩
    obtain ⟨segment, segments, hsegments, hsegment⟩ := exists_segmentsOf_of_hasDrive hdrive
    rw [hraw, segmentsOf_append hsep, hfront, List.nil_append, hsegments]
    exact (hasDrive_joinWith segments).2 hsegment

/-! ### Safe paths -/

/-- In its one spelling, and read as itself. -/
def Safe (path : String) : Prop := Canonical path ∧ normalize path = .ok path

theorem safe_iff : Safe path ↔ Canonical path :=
  ⟨And.left, fun h => ⟨h, normalize_eq_self_iff.2 h⟩⟩

/-- The path that a text is read as is made of segments, and so is the path above it, if there is
one. Both are safe just when the text hides no drive. -/
theorem normalize_safe_iff (h : normalize raw = .ok path) :
    (Segmented path ∧ (parent path = "" ∨ Segmented (parent path))) ∧
    (Safe path ∧ (parent path = "" ∨ Safe (parent path)) ↔ ¬ HidesDrive raw.toList) := by
  obtain ⟨hpath, hparent⟩ := segmented_normalize h
  refine ⟨⟨hpath, hparent⟩, ?_⟩
  rw [← hasDrive_normalize_iff h, safe_iff, safe_iff]
  constructor
  · exact fun hsafe => hsafe.1.noDrive
  · intro hdrive
    refine ⟨⟨hpath, hdrive⟩, hparent.imp_right fun habove => ⟨habove, ?_⟩⟩
    exact fun hd => hdrive (hasDrive_parent hd)

end

/-- Dots and separators of both kinds, without a drive behind them. -/
theorem normalize_safe_mixed :
    normalize ".\\src//./lib\\a.py" = .ok "src/lib/a.py" ∧
      Safe "src/lib/a.py" ∧ (parent "src/lib/a.py" = "" ∨ Safe (parent "src/lib/a.py")) := by
  have h : normalize ".\\src//./lib\\a.py" = .ok "src/lib/a.py" := rfl
  have hdrive : ¬ HidesDrive ".\\src//./lib\\a.py".toList := by
    rw [← hasDrive_normalize_iff h]
    rintro ⟨c, rest, -, he⟩
    cases he
  exact ⟨h, (normalize_safe_iff h).2.2 hdrive⟩

/-- A dropped `./` brings a drive to the front: the path is refused when it is read again, and the
path above it is the drive. -/
theorem hidden_drive_not_safe :
    normalize "./C:/x.txt" = .ok "C:/x.txt" ∧
      normalize "C:/x.txt" = .error (.invalidPath "C:/x.txt" "Absolute paths not allowed") ∧
      parent "C:/x.txt" = "C:" ∧ ¬ Safe "C:/x.txt" := by
  refine ⟨rfl, rfl, rfl, fun hsafe => ?_⟩
  exact hsafe.1.noDrive ⟨'C', "/x.txt".toList, rfl, rfl⟩

end Scaffold.Plan
