import Scaffold.Fallback
import Scaffold.Proofs.Text.Split

/-!
# What stands in for a file is a comment

A substitute names a path, a label and a snippet, each on a line that is made a comment. It is
nothing but comments (`OnlyComments`) just when none of the three leads out of its comment
(`Harmless`): by a line that does not look like a comment, or by the end of a comment. The snippet
has no line ends; the path and the label may have them. `content_onlyComments_iff` says this, and
that nothing is then outside a comment as a reader of the file sees it (`Commented`).
-/

namespace Scaffold.Fallback
open Scaffold.Text

/-- Either of the two characters that end a line. -/
def endsLine (c : Char) : Bool := c == '\n' || c == '\r'

/-- What comments start with. -/
def CommentStyle.opening : CommentStyle → List Char
  | hash => ['#', ' ']
  | markup => ['<', '!', '-', '-', ' ']
  | block => ['/', '*', ' ']
  | slashes => ['/', '/', ' ']

/-- What ends comments that do not end with their line. -/
def CommentStyle.closing? : CommentStyle → Option (List Char)
  | hash | slashes => none
  | markup => some ['-', '-', '>']
  | block => some ['*', '/']

/-- Each line that is not empty starts with a text. -/
def LinesStart (opening text : List Char) : Prop :=
  ∀ line ∈ splitBy endsLine text, line ≠ [] → opening <+: line

/-- A text in which a part stands only at the end, if at all. -/
def OnlyAtEnd (part text : List Char) : Prop :=
  ∀ front back, text = front ++ part ++ back → back = []

/-- Lines, each with a line feed behind it. -/
def lined (lines : List (List Char)) : List Char := lines.flatMap fun line => line ++ ['\n']

/-- The text up to the end of the first line, of the second line, and so on. -/
def lineEnds : List (List Char) → List (List Char)
  | [] => []
  | line :: lines => line :: (lineEnds lines).map fun front => line ++ '\n' :: front

/-- The lines of a substitute. -/
def header (s : CommentStyle) (path prompt : String) : List (List Char) :=
  [s!"Generated fallback for {path}", s!"Template: {label prompt}",
    s!"Prompt snippet: {snippet prompt}..."].map fun line => (s.wrap line).toList

/-- The substitute is nothing but comments. Each line that is not empty starts as a comment; or,
where comments have an end, this stands at the ends of the header's lines only. -/
@[irreducible] def OnlyComments (path prompt : String) : Prop :=
  match (CommentStyle.of path).closing? with
  | none => LinesStart (CommentStyle.of path).opening (content path prompt).toList
  | some closing => ∀ front back, (content path prompt).toList = front ++ closing ++ back →
      front ++ closing ∈ lineEnds (header (.of path) path prompt)

/-- A part that does not lead out of its comment. -/
@[irreducible] def CommentStyle.Harmless (s : CommentStyle) (part : List Char) : Prop :=
  match s.closing? with
  | none => ∀ line ∈ (splitBy endsLine part).tail, line ≠ [] → s.opening <+: line
  | some closing => ¬ closing <:+: part

instance (s : CommentStyle) (part : List Char) : Decidable (s.Harmless part) :=
  match h : s.closing? with
  | none => decidable_of_iff (∀ line ∈ (splitBy endsLine part).tail, line ≠ [] → s.opening <+: line)
      (by rw [CommentStyle.Harmless, h])
  | some closing => decidable_of_iff (¬ closing <:+: part) (by rw [CommentStyle.Harmless, h])

/-- A text of comments and line ends only, as it is read: a comment goes to the end of its line, or
up to the first thing that ends it. -/
inductive Commented (s : CommentStyle) : List Char → Prop
  | nil : Commented s []
  | lineEnd {c : Char} {rest : List Char} (hc : endsLine c = true) (h : Commented s rest) :
    Commented s (c :: rest)
  | line {body rest : List Char} (hline : s.closing? = none)
    (hbody : ∀ c ∈ body, endsLine c = false) (hrest : ∀ c ∈ rest.head?, endsLine c = true)
    (h : Commented s rest) :
    Commented s (s.opening ++ body ++ rest)
  | enclosed {closing body rest : List Char} (hclosing : s.closing? = some closing)
    (hbody : OnlyAtEnd closing (body ++ closing)) (h : Commented s rest) :
    Commented s (s.opening ++ (body ++ closing) ++ rest)

/-! ### Texts of lines -/

section

variable {part : List Char} {lines : List (List Char)}

@[simp] theorem lined_nil : lined [] = [] := rfl

@[simp] theorem lined_cons (line : List Char) (lines : List (List Char)) :
    lined (line :: lines) = line ++ '\n' :: lined lines := by
  simp [lined]

theorem onlyAtEnd_append_cons_iff {c : Char} (hc : c ∉ part) {front : List Char} :
    OnlyAtEnd part (front ++ c :: part) ↔ ¬ part <:+: front := by
  constructor
  · rintro h ⟨before, behind, rfl⟩
    have hend := h before (behind ++ c :: part) (by simp)
    simp at hend
  · intro h before behind he
    rcases append_part_cases hc he.symm with ⟨rest, hfront⟩ | ⟨rest, -, hpart⟩
    · exact absurd ⟨before, rest, hfront.symm⟩ h
    · have hlength := congrArg List.length hpart
      simp only [List.length_append] at hlength
      exact List.eq_nil_of_length_eq_zero (by omega)

/-- A part without line feed stands at the ends of lines only, in each line and in all of them. -/
theorem mem_lineEnds_iff (hpart : '\n' ∉ part) (hne : part ≠ []) :
    (∀ front back, lined lines ++ ['\n'] = front ++ part ++ back →
        front ++ part ∈ lineEnds lines) ↔
      ∀ line ∈ lines, OnlyAtEnd part line := by
  induction lines with
  | nil =>
    have hno : ∀ front back, ['\n'] ≠ front ++ part ++ back := by
      intro front back h
      have hfeed : front ++ part ++ back = [] ++ '\n' :: [] := h.symm
      rcases append_part_cases hpart hfeed with ⟨rest, hnil⟩ | ⟨rest, -, hnil⟩
      · exact hne (List.append_eq_nil_iff.1 (List.append_eq_nil_iff.1 hnil.symm).1).2
      · exact hne (List.append_eq_nil_iff.1 (List.append_eq_nil_iff.1 hnil.symm).1).2
    exact ⟨fun _ => by simp, fun _ front back he => absurd he (hno front back)⟩
  | cons line lines ih =>
    rw [List.forall_mem_cons, ← ih, lined_cons, List.append_assoc, List.cons_append, lineEnds]
    constructor
    · refine fun h => ⟨fun front back he => ?_, fun front back he => ?_⟩
      · -- the part would end within the first line, and the ends of the others lie behind it
        have hmem := h front (back ++ '\n' :: (lined lines ++ ['\n'])) (by simp [he])
        rcases List.mem_cons.1 hmem with hline | hmem
        · rw [hline] at he
          simpa using he
        · obtain ⟨rest, -, hrest⟩ := List.mem_map.1 hmem
          have hlength := congrArg List.length hrest
          simp [he] at hlength
      · have hmem := h (line ++ '\n' :: front) back (by simp [he])
        rcases List.mem_cons.1 hmem with hline | hmem
        · have hlength := congrArg List.length hline
          simp at hlength
        · obtain ⟨rest, hrest, he'⟩ := List.mem_map.1 hmem
          obtain rfl : rest = front ++ part := by simpa using he'
          exact hrest
    · rintro ⟨hline, hlines⟩ front back he
      rcases append_part_cases hpart he.symm with ⟨rest, hfront⟩ | ⟨rest, rfl, hrest⟩
      · rw [hline front rest hfront, List.append_nil] at hfront
        exact List.mem_cons.2 (Or.inl hfront.symm)
      · refine List.mem_cons_of_mem _ (List.mem_map.2 ⟨rest ++ part, hlines rest back hrest, ?_⟩)
        simp

theorem linesStart_lined_iff {opening : List Char} :
    LinesStart opening (lined lines ++ ['\n']) ↔ ∀ line ∈ lines, LinesStart opening line := by
  induction lines with
  | nil => simp [LinesStart, splitBy, endsLine]
  | cons line lines ih =>
    rw [List.forall_mem_cons, ← ih, lined_cons, List.append_assoc, List.cons_append]
    unfold LinesStart
    rw [splitBy_append_sep rfl]
    simp only [List.mem_append, or_imp, forall_and]

end

/-! ### The header -/

section

variable {s : CommentStyle} {closing : List Char}

/-- What the lines of the header say in front of a part. -/
def leads : List (List Char) :=
  ["Generated fallback for".toList, "Template:".toList, "Prompt snippet:".toList]

/-- A comment that says a text behind a lead. -/
def CommentStyle.line (s : CommentStyle) (lead text : List Char) : List Char :=
  s.opening ++ (lead ++ ' ' :: text ++ (s.closing?.map (' ' :: ·)).getD [])

theorem toList_wrap (line : String) :
    (s.wrap line).toList = s.opening ++ (line.toList ++ (s.closing?.map (' ' :: ·)).getD []) := by
  cases s <;> simp [CommentStyle.wrap, CommentStyle.opening, CommentStyle.closing?]

theorem header_eq (s : CommentStyle) (path prompt : String) :
    header s path prompt = List.zipWith s.line leads
      [path.toList, (label prompt).toList, (snippet prompt).toList ++ ['.', '.', '.']] := by
  simp [header, leads, CommentStyle.line, toList_wrap, toString]

theorem toList_content (path prompt : String) :
    (content path prompt).toList = lined (header (.of path) path prompt) ++ ['\n'] := by
  have hjoin : ∀ a b c : String, "\n".intercalate [a, b, c] = a ++ "\n" ++ b ++ "\n" ++ c :=
    fun _ _ _ => rfl
  simp [content, header, hjoin]

theorem opening_ends (s : CommentStyle) : ∀ c ∈ s.opening, endsLine c = false := by
  cases s <;> simp [CommentStyle.opening, endsLine]

theorem leads_ends : ∀ lead ∈ leads, ∀ c ∈ lead ++ [' '], endsLine c = false := by
  have hall : leads.all (fun lead => (lead ++ [' ']).all fun c => !endsLine c) = true := by
    decide +kernel
  intro lead hlead c hc
  have hlead := List.all_eq_true.1 hall lead hlead
  simpa using List.all_eq_true.1 hlead c hc

/-- Blanks and what ends a line have no place in what ends a comment, and no lead has this. -/
theorem closing_facts (h : s.closing? = some closing) :
    ' ' ∉ closing ∧ '\n' ∉ closing ∧ '.' ∉ closing ∧ closing ≠ [] ∧
      ¬ closing <:+: ['.', '.'] ∧ ∀ lead ∈ leads, ¬ closing <:+: s.opening ++ lead := by
  cases s <;> cases h <;> decide +kernel

/-! ### Comments that end with their line -/

theorem linesStart_line_iff (h : s.closing? = none) {lead : List Char} (hlead : lead ∈ leads)
    (text : List Char) : LinesStart s.opening (s.line lead text) ↔ s.Harmless text := by
  have hends : ∀ c ∈ s.opening ++ (lead ++ [' ']), endsLine c = false := by
    intro c hc
    rcases List.mem_append.1 hc with hc | hc
    · exact opening_ends s c hc
    · exact leads_ends lead hlead c hc
  have hline : s.line lead text = s.opening ++ (lead ++ [' ']) ++ text := by
    simp [CommentStyle.line, h]
  obtain ⟨piece, pieces, hpieces⟩ := exists_splitBy_eq_cons endsLine text
  rw [LinesStart, CommentStyle.Harmless, h, hline, splitBy_append hends hpieces, hpieces,
    List.forall_mem_cons, List.tail_cons]
  simp

/-- A first line that starts as a comment, or is empty, before a text that is read as comments. -/
theorem commented_of_piece (h : s.closing? = none) {text piece rest : List Char}
    {pieces : List (List Char)} (hstart : LinesStart s.opening text)
    (hpieces : splitBy endsLine text = piece :: pieces)
    (hends : ∀ c ∈ rest.head?, endsLine c = true) (hrest : Commented s rest) :
    Commented s (piece ++ rest) := by
  have hmem : piece ∈ splitBy endsLine text := by simp [hpieces]
  by_cases hne : piece = []
  · rw [hne, List.nil_append]
    exact hrest
  · obtain ⟨body, rfl⟩ := hstart piece hmem hne
    have hbody : ∀ c ∈ body, endsLine c = false := fun c hc =>
      eq_false_of_mem_splitBy hmem (List.mem_append_right _ hc)
    exact .line h hbody hends hrest

/-- Lines that start as comments are read as comments, and only these are. -/
theorem commented_iff_of_line (h : s.closing? = none) {text : List Char} :
    Commented s text ↔ LinesStart s.opening text := by
  constructor
  · intro hcommented
    induction hcommented with
    | nil => simp [LinesStart, splitBy]
    | lineEnd hc _ ih =>
      rw [LinesStart, splitBy_cons_of_pos hc, List.forall_mem_cons]
      exact ⟨fun hne => absurd rfl hne, ih⟩
    | @line body rest _ hbody hrest _ ih =>
      have hends : ∀ c ∈ s.opening ++ body, endsLine c = false := by
        intro c hc
        rcases List.mem_append.1 hc with hc | hc
        · exact opening_ends s c hc
        · exact hbody c hc
      obtain ⟨pieces, hpieces⟩ : ∃ pieces, splitBy endsLine rest = [] :: pieces := by
        cases rest with
        | nil => exact ⟨[], rfl⟩
        | cons c rest => exact ⟨_, splitBy_cons_of_pos (hrest c rfl) rest⟩
      rw [LinesStart, hpieces, List.forall_mem_cons] at ih
      rw [LinesStart, splitBy_append hends hpieces, List.forall_mem_cons]
      exact ⟨fun _ => by simp, ih.2⟩
    | enclosed hclosing _ _ _ =>
      rw [h] at hclosing
      cases hclosing
  · intro hstart
    obtain ⟨piece, pieces, hpieces⟩ := exists_splitBy_eq_cons endsLine text
    induction pieces generalizing text piece with
    | nil =>
      rcases splitBy_eq_cons hpieces with ⟨-, rfl⟩ | ⟨sep, rest, -, -, hrest⟩
      · have hends : ∀ c ∈ ([] : List Char).head?, endsLine c = true := by simp
        have hfirst := commented_of_piece h hstart hpieces hends .nil
        rwa [List.append_nil] at hfirst
      · obtain ⟨piece, pieces, hcons⟩ := exists_splitBy_eq_cons endsLine rest
        rw [hrest] at hcons
        cases hcons
    | cons next pieces ih =>
      rcases splitBy_eq_cons hpieces with ⟨hnil, -⟩ | ⟨sep, rest, rfl, hsep, hrest⟩
      · cases hnil
      · have hrests : LinesStart s.opening rest := by
          intro line hline
          refine hstart line ?_
          rw [hpieces, ← hrest]
          exact List.mem_cons_of_mem _ hline
        exact commented_of_piece h hstart hpieces (by simpa using hsep)
          (.lineEnd hsep (ih hrests next hrest))

/-! ### Comments with an end -/

theorem onlyAtEnd_line_iff (h : s.closing? = some closing) {lead : List Char}
    (hlead : lead ∈ leads) (text : List Char) :
    OnlyAtEnd closing (s.line lead text) ↔ ¬ closing <:+: text := by
  obtain ⟨hspace, -, -, -, -, hleads⟩ := closing_facts h
  have hline : s.line lead text = (s.opening ++ lead ++ ' ' :: text) ++ ' ' :: closing := by
    simp [CommentStyle.line, h]
  rw [hline, onlyAtEnd_append_cons_iff hspace, infix_append_cons_iff hspace]
  simp [hleads lead hlead]

/-- A comment whose end stands only at its end, before a text that is read as comments. -/
theorem commented_of_onlyAtEnd (h : s.closing? = some closing) {lead text rest : List Char}
    (hend : OnlyAtEnd closing (s.line lead text)) (hrest : Commented s rest) :
    Commented s (s.line lead text ++ rest) := by
  have hline : s.line lead text = s.opening ++ ((lead ++ ' ' :: text ++ [' ']) ++ closing) := by
    simp [CommentStyle.line, h]
  rw [hline] at hend ⊢
  refine .enclosed h (fun front back he => ?_) hrest
  exact hend (s.opening ++ front) back (by rw [he]; simp)

/-! ### Substitutes -/

theorem endsLine_of_isBlank {c : Char} (h : isBlank c = false) : endsLine c = false := by
  rw [Bool.eq_false_iff]
  intro hends
  simp only [endsLine, Bool.or_eq_true, beq_iff_eq] at hends
  rcases hends with rfl | rfl <;> exact absurd h (by decide)

theorem mem_intercalate {sep : List Char} {pieces : List (List Char)} {c : Char}
    (h : c ∈ sep.intercalate pieces) : c ∈ sep ∨ ∃ piece ∈ pieces, c ∈ piece := by
  induction pieces with
  | nil => simp [List.intercalate] at h
  | cons piece pieces ih =>
    cases pieces with
    | nil => exact Or.inr ⟨piece, List.mem_cons_self, by simpa [List.intercalate] using h⟩
    | cons next pieces =>
      have hsplit : c ∈ piece ∨ c ∈ sep ∨ c ∈ sep.intercalate (next :: pieces) := by
        simpa [List.intercalate] using h
      rcases hsplit with hc | hc | hc
      · exact Or.inr ⟨piece, List.mem_cons_self, hc⟩
      · exact Or.inl hc
      · exact (ih hc).imp_right fun ⟨other, hother, hc⟩ =>
          ⟨other, List.mem_cons_of_mem _ hother, hc⟩

/-- A snippet is on one line. -/
theorem snippet_ends (prompt : String) : ∀ c ∈ (snippet prompt).toList, endsLine c = false := by
  intro c hc
  rw [snippet, String.toList_ofList] at hc
  rcases mem_intercalate hc with hc | ⟨word, hword, hc⟩
  · rw [List.mem_singleton.1 hc]
    rfl
  · exact endsLine_of_isBlank (isBlank_of_mem_words hword hc)

/-- The texts that a substitute names. -/
def namedParts (path prompt : String) : List (List Char) :=
  [path.toList, (label prompt).toList, (snippet prompt).toList]

/-- A property of the header's lines, for what they say behind their leads. -/
theorem forall_header_iff {path prompt : String} (p q : List Char → Prop)
    (h : ∀ lead ∈ leads, ∀ text, p (s.line lead text) ↔ q text)
    (hdots : q ((snippet prompt).toList ++ ['.', '.', '.']) ↔ q (snippet prompt).toList) :
    (∀ line ∈ header s path prompt, p line) ↔ ∀ part ∈ namedParts path prompt, q part := by
  have hpath := h ("Generated fallback for".toList) (by simp [leads]) path.toList
  have hlabel := h ("Template:".toList) (by simp [leads]) (label prompt).toList
  have hsnippet := h ("Prompt snippet:".toList) (by simp [leads])
    ((snippet prompt).toList ++ ['.', '.', '.'])
  rw [header_eq, leads, namedParts, List.zipWith_cons_cons, List.zipWith_cons_cons,
    List.zipWith_cons_cons, List.zipWith_nil_left]
  simp only [List.forall_mem_cons, List.not_mem_nil, false_imp_iff, implies_true, and_true, hpath,
    hlabel, hsnippet, hdots]

theorem onlyComments_iff (path prompt : String) :
    OnlyComments path prompt ↔
      ∀ part ∈ namedParts path prompt, (CommentStyle.of path).Harmless part := by
  unfold OnlyComments
  have htext := toList_content path prompt
  generalize CommentStyle.of path = s at htext ⊢
  rw [htext]
  cases h : s.closing? with
  | none =>
    -- the snippet's line has no other lines behind it
    have hsnippet : ∀ dots, (∀ c ∈ dots, endsLine c = false) →
        s.Harmless ((snippet prompt).toList ++ dots) := by
      intro dots hdots
      rw [CommentStyle.Harmless, h, splitBy_append (snippet_ends prompt) (splitBy_of_forall hdots)]
      simp
    have hplain := hsnippet [] (by simp)
    rw [List.append_nil] at hplain
    refine linesStart_lined_iff.trans (forall_header_iff (LinesStart s.opening) s.Harmless
      (fun lead hlead text => linesStart_line_iff h hlead text) ?_)
    exact iff_of_true (hsnippet _ (by simp [endsLine])) hplain
  | some closing =>
    obtain ⟨-, hfeed, hdot, hne, hdots, -⟩ := closing_facts h
    have hharmless : ∀ text, s.Harmless text ↔ ¬ closing <:+: text := by
      intro text
      rw [CommentStyle.Harmless, h]
    refine (mem_lineEnds_iff hfeed hne).trans (forall_header_iff (OnlyAtEnd closing) s.Harmless
      (fun lead hlead text => ?_) ?_)
    · rw [hharmless, onlyAtEnd_line_iff h hlead]
    · rw [hharmless, hharmless, infix_append_cons_iff hdot]
      simp [hdots]

instance (path prompt : String) : Decidable (OnlyComments path prompt) :=
  decidable_of_iff _ (onlyComments_iff path prompt).symm

/-- Comments whose ends stand only at their ends are read as comments. -/
theorem commented_lined (h : s.closing? = some closing) {lines : List (List Char)}
    (hlines : ∀ line ∈ lines, OnlyAtEnd closing line ∧ ∃ lead text, line = s.line lead text) :
    Commented s (lined lines ++ ['\n']) := by
  induction lines with
  | nil => exact .lineEnd rfl .nil
  | cons line lines ih =>
    obtain ⟨⟨hend, lead, text, rfl⟩, hrest⟩ := List.forall_mem_cons.1 hlines
    rw [lined_cons, List.append_assoc, List.cons_append]
    exact commented_of_onlyAtEnd h hend (.lineEnd rfl (ih hrest))

/-- What is nothing but comments is read as nothing but comments. -/
theorem commented_of_onlyComments {path prompt : String} (honly : OnlyComments path prompt) :
    Commented (CommentStyle.of path) (content path prompt).toList := by
  unfold OnlyComments at honly
  have htext := toList_content path prompt
  generalize CommentStyle.of path = s at htext honly ⊢
  rw [htext] at honly ⊢
  cases h : s.closing? with
  | none =>
    rw [h] at honly
    exact (commented_iff_of_line h).2 honly
  | some closing =>
    rw [h] at honly
    obtain ⟨-, hfeed, -, hne, -, -⟩ := closing_facts h
    have hsaid : ∀ line ∈ header s path prompt, ∃ lead text, line = s.line lead text :=
      (forall_header_iff _ (fun _ => True) (fun lead _ text => iff_of_true ⟨lead, text, rfl⟩ ⟨⟩)
        Iff.rfl).2 fun _ _ => ⟨⟩
    refine commented_lined h fun line hline => ⟨?_, hsaid line hline⟩
    exact (mem_lineEnds_iff hfeed hne).1 honly line hline

/-- Where comments end with their line, only what is nothing but comments is read as that. -/
theorem onlyComments_of_commented {path prompt : String}
    (h : (CommentStyle.of path).closing? = none)
    (hcommented : Commented (CommentStyle.of path) (content path prompt).toList) :
    OnlyComments path prompt := by
  unfold OnlyComments
  generalize CommentStyle.of path = s at h hcommented ⊢
  simp only [h]
  exact (commented_iff_of_line h).1 hcommented

/-- A substitute is nothing but comments just when its path, its label and its snippet do not lead
out of their comments. It is then read as nothing but comments, and else, where comments end with
their line, it is not. -/
theorem content_onlyComments_iff (path prompt : String) :
    (OnlyComments path prompt ↔
        ∀ part ∈ namedParts path prompt, (CommentStyle.of path).Harmless part) ∧
      (OnlyComments path prompt →
        Commented (CommentStyle.of path) (content path prompt).toList) ∧
      ((CommentStyle.of path).closing? = none →
        Commented (CommentStyle.of path) (content path prompt).toList → OnlyComments path prompt) :=
  ⟨onlyComments_iff path prompt, commented_of_onlyComments, onlyComments_of_commented⟩

/-- Paths that a plan may hold and that lead out of their comments; a label with a line end that
does, and a prompt with the end of a comment. -/
theorem substitutes_beyond_comments :
    (Plan.normalize "x\nimport os.py" = .ok "x\nimport os.py" ∧
        ¬ OnlyComments "x\nimport os.py" "an app" ∧
        ¬ Commented (.of "x\nimport os.py") (content "x\nimport os.py" "an app").toList) ∧
      (Plan.normalize "a*/b.css" = .ok "a*/b.css" ∧ ¬ OnlyComments "a*/b.css" "an app") ∧
      ¬ OnlyComments "main.py" "an app\rimport os" ∧
      ¬ OnlyComments "index.html" "close --> it" := by
  have hpath : ¬ OnlyComments "x\nimport os.py" "an app" := by decide +kernel
  have hstyle : (CommentStyle.of "x\nimport os.py").closing? = none := by decide +kernel
  refine ⟨⟨by decide +kernel, hpath, mt (onlyComments_of_commented hstyle) hpath⟩,
    ⟨by decide +kernel, by decide +kernel⟩, by decide +kernel, by decide +kernel⟩

end

end Scaffold.Fallback
