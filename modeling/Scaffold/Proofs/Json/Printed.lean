import Scaffold.Proofs.Json.Number
import Scaffold.Proofs.Json.Text
import Scaffold.Proofs.Text.Wide

/-!
# Printed values read back

A value is `Plain` if it has no doubles, no number that is too long, no repeated key and no nesting
that is too deep. In every layout a plain value that is printed reads back (`read_print`,
`parse_print`), and the printed text has no carriage return (`not_mem_print`).
-/

namespace Scaffold.Json

/-- A value without doubles, nested at most so deeply: each object has each key once, and no whole
number has more digits than are read. -/
inductive Plain : Nat → Json → Prop
  | null {depth : Nat} : Plain depth .null
  | bool {depth : Nat} (b : Bool) : Plain depth (.bool b)
  | int {depth : Nat} {n : Int} (h : Decimal.tooLongToWrite n = false) : Plain depth (.int n)
  | text {depth : Nat} (s : String) : Plain depth (.text s)
  | array {depth : Nat} {vs : List Json} (h : ∀ v ∈ vs, Plain depth v) :
    Plain (depth + 1) (.array vs)
  | object {depth : Nat} {fields : List (String × Json)} (hkeys : (fields.map Prod.fst).Nodup)
    (h : ∀ field ∈ fields, Plain depth field.2) : Plain (depth + 1) (.object fields)

mutual

/-- A value as it is read from a text of its own. -/
def raw : Json → Raw
  | null => .null
  | bool b => .bool b
  | int n => .int n
  | float x => .float x
  | text s => .text (.ofString s)
  | array items => .array (rawItems items)
  | object fields => .object (rawFields fields)

/-- The items of an array, as they are read. -/
def rawItems : List Json → List Raw
  | [] => []
  | v :: vs => raw v :: rawItems vs

/-- The fields of an object, as they are read. -/
def rawFields : List (String × Json) → List (Text.Wide × Raw)
  | [] => []
  | (k, v) :: fields => (.ofString k, raw v) :: rawFields fields

end

/-! ### White space -/

theorem skip_cons {c : Char} (h : isSpace c = false) (cs : List Char) :
    skip (c :: cs) = c :: cs := by
  rw [skip, List.dropWhile_cons_of_neg (by simp [h])]

theorem isSpace_of_isDigit {c : Char} (h : c.isDigit = true) : isSpace c = false := by
  rw [Bool.eq_false_iff]
  intro hspace
  simp only [isSpace, Bool.or_eq_true, beq_iff_eq] at hspace
  rcases hspace with ((rfl | rfl) | rfl) | rfl <;> cases h

theorem skip_append {space : List Char} (h : ∀ c ∈ space, isSpace c = true) (cs : List Char) :
    skip (space ++ cs) = skip cs :=
  List.dropWhile_append_of_pos h

section

variable (layout : Layout) (level : Nat)

theorem isSpace_of_mem_lineAt {c : Char} (h : c ∈ layout.lineAt level) : isSpace c = true := by
  unfold Layout.lineAt at h
  split at h
  · cases h
  · rcases List.mem_cons.1 h with rfl | hc
    · rfl
    · rw [List.eq_of_mem_replicate hc]
      rfl

theorem skip_lineAt (cs : List Char) : skip (layout.lineAt level ++ cs) = skip cs :=
  skip_append (fun _ => isSpace_of_mem_lineAt layout level) cs

/-- A comma with white space behind it. -/
theorem exists_comma : ∃ space, layout.comma level = ',' :: space ∧
    ∀ cs, skip (space ++ cs) = skip cs := by
  unfold Layout.comma
  split
  · exact ⟨[' '], rfl, skip_append (by simp [isSpace])⟩
  · exact ⟨layout.lineAt level, rfl, skip_lineAt layout level⟩

/-- White space ends a number, as what closes an array or an object does. -/
theorem ends_lineAt {c : Char} (hc : Ends [c]) (rest : List Char) :
    Ends (layout.lineAt level ++ c :: rest) := by
  unfold Layout.lineAt
  split
  · simpa [Ends] using hc
  · simp [Ends, Char.isDigit]

end

/-! ### Single values -/

theorem exists_of_mem_wordValues {w : String} {v : Raw} (h : (w, v) ∈ wordValues) :
    ∃ c d cs, w.toList = c :: d :: cs ∧ c.isDigit = false ∧ d.isDigit = false := by
  simp only [wordValues, List.mem_cons, Prod.mk.injEq, List.not_mem_nil, or_false] at h
  rcases h with ⟨rfl, -⟩ | ⟨rfl, -⟩ | ⟨rfl, -⟩ | ⟨rfl, -⟩ | ⟨rfl, -⟩ | ⟨rfl, -⟩ <;>
    exact ⟨_, _, _, rfl, rfl, rfl⟩

/-- No word has a digit for its first or its second character. -/
theorem word?_of_isDigit {c : Char} (h : c.isDigit = true) (cs : List Char) :
    word? (c :: cs) = none ∧ word? ('-' :: c :: cs) = none := by
  have hne : ∀ d : Char, d.isDigit = false → (d == c) = false := by
    intro d hd
    rw [beq_eq_false_iff_ne]
    rintro rfl
    rw [h] at hd
    cases hd
  simp only [word?, List.findSome?_eq_none_iff, Prod.forall, Option.map_eq_none_iff]
  constructor
  all_goals
    intro w v hmem
    obtain ⟨x, y, zs, hw, hx, hy⟩ := exists_of_mem_wordValues hmem
    simp [after?, hw, List.isPrefixOf, hne x hx, hne y hy]

/-- What starts with a digit is neither a text nor an array nor an object. -/
theorem valueWith_of_isDigit (item : Option (List Char → Step Raw)) {c : Char}
    (hc : c.isDigit = true) (cs : List Char) : valueWith item (c :: cs) = number (c :: cs) := by
  rw [valueWith, (word?_of_isDigit hc cs).1]
  all_goals
    rintro _ ⟨⟩
    cases hc

/-- A number is neither a text nor an array nor an object. -/
theorem valueWith_digitsOf (item : Option (List Char → Step Raw)) {n : Int}
    (hn : Decimal.tooLongToWrite n = false) {rest : List Char} (hrest : Ends rest) :
    valueWith item ((Decimal.digitsOf n).toList ++ rest) = .ok (.int n, rest) := by
  have hread := number_digitsOf hrest hn
  obtain ⟨c, cs, hc, hlist | hlist⟩ := digitsOf_eq_cons n <;>
    rw [hlist, List.cons_append] at hread ⊢
  · exact (valueWith_of_isDigit item hc _).trans hread
  · rw [valueWith, List.cons_append, (word?_of_isDigit hc _).2]
    · exact hread
    all_goals
      rintro _ ⟨⟩

/-- A value reads what stands inside it with some reader, or with none. -/
theorem exists_valueWith (depth : Nat) : ∃ item, value depth = valueWith item := by
  cases depth with
  | zero => exact ⟨none, rfl⟩
  | succ depth => exact ⟨some (value depth), rfl⟩

/-- A value starts with no white space, and with nothing that closes an array. -/
def Starts (layout : Layout) (level : Nat) (v : Json) : Prop :=
  ∃ c cs, printAt layout level v = c :: cs ∧ isSpace c = false ∧ c ≠ ']'

theorem Plain.starts {depth : Nat} {v : Json} (h : Plain depth v) (layout : Layout) (level : Nat) :
    Starts layout level v := by
  cases h with
  | null => exact ⟨'n', _, rfl, rfl, by decide⟩
  | bool b => cases b <;> exact ⟨_, _, rfl, rfl, by decide⟩
  | @int _ n _ =>
    unfold Starts
    obtain ⟨c, cs, hc, hlist | hlist⟩ := digitsOf_eq_cons n <;> rw [printAt, hlist]
    · refine ⟨c, cs, rfl, isSpace_of_isDigit hc, ?_⟩
      rintro rfl
      cases hc
    · exact ⟨'-', _, rfl, rfl, by decide⟩
  | text s => exact ⟨'"', _, rfl, rfl, by decide⟩
  | @array _ vs _ => cases vs <;> exact ⟨'[', _, rfl, rfl, by decide⟩
  | @object _ fields _ _ =>
    rcases fields with _ | ⟨⟨k, v⟩, fields⟩ <;> exact ⟨'\x7b', _, rfl, rfl, by decide⟩

/-! ### Objects -/

theorem insertField_of_not_mem {k : String} {v : Json} {fields : List (String × Json)}
    (h : k ∉ fields.map Prod.fst) : insertField k v fields = fields ++ [(k, v)] := by
  induction fields with
  | nil => rfl
  | cons field fields ih =>
    obtain ⟨k', v'⟩ := field
    simp only [List.map_cons, List.mem_cons, not_or] at h
    rw [insertField, if_neg (by simpa using Ne.symm h.1), ih h.2, List.cons_append]

/-- An object whose keys do not repeat is one of its own fields. -/
theorem ofFields_of_nodup {fields : List (String × Json)} (h : (fields.map Prod.fst).Nodup) :
    ofFields fields = .object fields := by
  have hfold : ∀ (back front : List (String × Json)), ((front ++ back).map Prod.fst).Nodup →
      back.foldl (fun seen field => insertField field.1 field.2 seen) front = front ++ back := by
    intro back
    induction back with
    | nil => simp
    | cons field back ih =>
      intro front hnodup
      have hk : field.1 ∉ front.map Prod.fst := by
        intro hmem
        rw [List.map_append, List.nodup_append] at hnodup
        exact hnodup.2.2 field.1 hmem field.1 (by simp) rfl
      have hmove : front ++ [field] ++ back = front ++ field :: back := by simp
      rw [← hmove] at hnodup
      rw [List.foldl_cons, insertField_of_not_mem hk]
      exact (ih _ hnodup).trans hmove
  exact congrArg Json.object (hfold fields [] (by simpa using h))

theorem toItems_rawItems {vs : List Json} (h : ∀ v ∈ vs, v.raw.toJson = v) :
    Raw.toItems (rawItems vs) = vs := by
  induction vs with
  | nil => rfl
  | cons v vs ih =>
    rw [rawItems, Raw.toItems, h v List.mem_cons_self,
      ih fun w hw => h w (List.mem_cons_of_mem v hw)]

theorem toFields_rawFields {fields : List (String × Json)}
    (h : ∀ field ∈ fields, field.2.raw.toJson = field.2) :
    Raw.toFields (rawFields fields) = fields := by
  induction fields with
  | nil => rfl
  | cons field fields ih =>
    rw [rawFields, Raw.toFields, h field List.mem_cons_self, Text.Wide.shown_ofString,
      ih fun g hg => h g (List.mem_cons_of_mem field hg)]

/-- A plain value is what is made of it as it is read. -/
theorem Plain.toJson_raw {depth : Nat} {v : Json} (h : Plain depth v) : v.raw.toJson = v := by
  induction h with
  | null => rfl
  | bool b => rfl
  | int h => rfl
  | text s => rw [raw, Raw.toJson, Text.Wide.shown_ofString]
  | array h ih => rw [raw, Raw.toJson, toItems_rawItems ih]
  | object hkeys h ih => rw [raw, Raw.toJson, toFields_rawFields ih, ofFields_of_nodup hkeys]

/-! ### Values inside others -/

section

variable {layout : Layout} {item : List Char → Step Raw} {level : Nat}

/-- A value reads back, whatever follows that does not go on with a number. -/
def Reads (item : List Char → Step Raw) (layout : Layout) (level : Nat) (v : Json) : Prop :=
  ∀ rest, Ends rest → item (printAt layout level v ++ rest) = .ok (v.raw, rest)

theorem Starts.skip {v : Json} (h : Starts layout level v) (rest : List Char) :
    skip (printAt layout level v ++ rest) = printAt layout level v ++ rest := by
  obtain ⟨c, cs, hv, hc, -⟩ := h
  rw [hv, List.cons_append, skip_cons hc]

/-- The items of an array, each of which reads back. -/
theorem items_printItems {outer fuel : Nat} {v : Json} {vs : List Json}
    (hitem : ∀ w ∈ v :: vs, Reads item layout level w) (hstart : ∀ w ∈ vs, Starts layout level w)
    (hfuel : vs.length < fuel) (rest : List Char) :
    items item fuel (printAt layout level v ++ (printItems layout level vs ++
      (layout.lineAt outer ++ ']' :: rest))) = .ok (rawItems (v :: vs), rest) := by
  induction vs generalizing v fuel with
  | nil =>
    obtain ⟨fuel, rfl⟩ := Nat.exists_eq_succ_of_ne_zero (Nat.ne_of_gt hfuel)
    have hends : Ends (layout.lineAt outer ++ ']' :: rest) :=
      ends_lineAt layout outer (by simp [Ends, Char.isDigit]) rest
    have hskip : skip (layout.lineAt outer ++ ']' :: rest) = ']' :: rest := by
      rw [skip_lineAt, skip_cons rfl]
    simp only [items, rawItems, printItems, List.nil_append, hitem v List.mem_cons_self _ hends,
      bind, Except.bind, hskip, pure, Except.pure]
  | cons w vs ih =>
    obtain ⟨fuel, rfl⟩ := Nat.exists_eq_succ_of_ne_zero (Nat.ne_of_gt (Nat.zero_lt_of_lt hfuel))
    obtain ⟨space, hcomma, hspace⟩ := exists_comma layout level
    have hbehind : printItems layout level (w :: vs) ++ (layout.lineAt outer ++ ']' :: rest) =
        ',' :: (space ++ (printAt layout level w ++ (printItems layout level vs ++
          (layout.lineAt outer ++ ']' :: rest)))) := by
      rw [printItems, hcomma]
      simp
    have hrest := ih (fun u hu => hitem u (List.mem_cons_of_mem v hu))
      (fun u hu => hstart u (List.mem_cons_of_mem w hu)) (Nat.lt_of_succ_lt_succ hfuel)
    simp only [items, hbehind, hitem v List.mem_cons_self _ (ends_comma _), bind, Except.bind,
      skip_cons (show isSpace ',' = false from rfl), hspace, (hstart w List.mem_cons_self).skip,
      hrest, rawItems, pure, Except.pure]

/-- A key with its value. -/
theorem member_print {k : String} {v : Json} (hitem : Reads item layout level v)
    (hstart : Starts layout level v) {rest : List Char} (hrest : Ends rest) :
    member item (printText layout.ascii k ++ ([':', ' '] ++ (printAt layout level v ++ rest))) =
      .ok ((.ofString k, v.raw), rest) := by
  have hblank : ∀ c ∈ [' '], isSpace c = true := by simp [isSpace]
  have hspace : skip (' ' :: (printAt layout level v ++ rest)) = printAt layout level v ++ rest :=
    (skip_append hblank _).trans (hstart.skip rest)
  simp only [printText, List.cons_append, List.append_assoc, List.nil_append, member,
    stringBody_printText, bind, Except.bind, skip_cons (show isSpace ':' = false from rfl), hspace,
    hitem rest hrest, Text.Wide.ofString, pure, Except.pure]

/-- The fields of an object, each of which reads back. -/
theorem members_printFields {outer fuel : Nat} {k : String} {v : Json}
    {fields : List (String × Json)}
    (hitem : ∀ field ∈ (k, v) :: fields, Reads item layout level field.2)
    (hstart : ∀ field ∈ (k, v) :: fields, Starts layout level field.2)
    (hfuel : fields.length < fuel) (rest : List Char) :
    members item fuel (printText layout.ascii k ++ ([':', ' '] ++ (printAt layout level v ++
      (printFields layout level fields ++ (layout.lineAt outer ++ '\x7d' :: rest))))) =
        .ok (rawFields ((k, v) :: fields), rest) := by
  induction fields generalizing k v fuel with
  | nil =>
    obtain ⟨fuel, rfl⟩ := Nat.exists_eq_succ_of_ne_zero (Nat.ne_of_gt hfuel)
    have hends : Ends (layout.lineAt outer ++ '\x7d' :: rest) :=
      ends_lineAt layout outer (by simp [Ends, Char.isDigit]) rest
    have hskip : skip (layout.lineAt outer ++ '\x7d' :: rest) = '\x7d' :: rest := by
      rw [skip_lineAt, skip_cons rfl]
    have hfirst := member_print (k := k) (hitem _ List.mem_cons_self)
      (hstart _ List.mem_cons_self) hends
    simp only [members, printFields, rawFields, List.nil_append, hfirst, bind, Except.bind, hskip,
      pure, Except.pure]
  | cons field fields ih =>
    obtain ⟨k', v'⟩ := field
    obtain ⟨fuel, rfl⟩ := Nat.exists_eq_succ_of_ne_zero (Nat.ne_of_gt (Nat.zero_lt_of_lt hfuel))
    obtain ⟨space, hcomma, hspace⟩ := exists_comma layout level
    have hbehind : printFields layout level ((k', v') :: fields) ++
          (layout.lineAt outer ++ '\x7d' :: rest) =
        ',' :: (space ++ (printText layout.ascii k' ++ ([':', ' '] ++ (printAt layout level v' ++
          (printFields layout level fields ++ (layout.lineAt outer ++ '\x7d' :: rest)))))) := by
      rw [printFields, hcomma]
      simp
    have hfirst := fun rest => member_print (k := k) (hitem _ List.mem_cons_self)
      (hstart _ List.mem_cons_self) (ends_comma rest)
    have hquote : ∀ rest, skip (printText layout.ascii k' ++ rest) =
        printText layout.ascii k' ++ rest := fun rest => skip_cons rfl _
    have hrest := ih (fun u hu => hitem u (List.mem_cons_of_mem _ hu))
      (fun u hu => hstart u (List.mem_cons_of_mem _ hu)) (Nat.lt_of_succ_lt_succ hfuel)
    simp only [members, hbehind, hfirst, bind, Except.bind,
      skip_cons (show isSpace ',' = false from rfl), hspace, hquote, hrest, rawFields, pure,
      Except.pure]

variable (layout level) in
theorem length_le_printItems (vs : List Json) :
    vs.length ≤ (printItems layout level vs).length := by
  obtain ⟨space, hcomma, -⟩ := exists_comma layout level
  induction vs with
  | nil => exact Nat.zero_le _
  | cons v vs ih =>
    simp only [printItems, hcomma, List.length_append, List.length_cons]
    omega

variable (layout level) in
theorem length_le_printFields (fields : List (String × Json)) :
    fields.length ≤ (printFields layout level fields).length := by
  obtain ⟨space, hcomma, -⟩ := exists_comma layout level
  induction fields with
  | nil => exact Nat.zero_le _
  | cons field fields ih =>
    simp only [printFields, hcomma, List.length_append, List.length_cons]
    omega

/-- An array with items, after its bracket. -/
theorem arrayBody_print (outer : Nat) {v : Json} {vs : List Json}
    (hitem : ∀ w ∈ v :: vs, Reads item layout level w)
    (hstart : ∀ w ∈ v :: vs, Starts layout level w) (rest : List Char) :
    arrayBody item (layout.lineAt level ++ (printAt layout level v ++
      (printItems layout level vs ++ (layout.lineAt outer ++ ']' :: rest)))) =
        .ok ((array (v :: vs)).raw, rest) := by
  have hv := hstart v List.mem_cons_self
  rw [arrayBody, skip_lineAt, hv.skip]
  obtain ⟨c, cs, hv, -, hc⟩ := hv
  split
  · next heq =>
    rw [hv] at heq
    cases heq
    exact absurd rfl hc
  · rw [items_printItems hitem fun w hw => hstart w (List.mem_cons_of_mem v hw)]
    · rfl
    · have hlength := length_le_printItems layout level vs
      simp only [hv, List.length_append, List.length_cons]
      omega

/-- An object with fields, after its brace. -/
theorem objectBody_print (outer : Nat) {k : String} {v : Json} {fields : List (String × Json)}
    (hitem : ∀ field ∈ (k, v) :: fields, Reads item layout level field.2)
    (hstart : ∀ field ∈ (k, v) :: fields, Starts layout level field.2)
    (rest : List Char) :
    objectBody item (layout.lineAt level ++ (printText layout.ascii k ++ ([':', ' '] ++
      (printAt layout level v ++ (printFields layout level fields ++
        (layout.lineAt outer ++ '\x7d' :: rest)))))) =
      .ok ((object ((k, v) :: fields)).raw, rest) := by
  have hquote : ∀ rest, skip (printText layout.ascii k ++ rest) =
      printText layout.ascii k ++ rest := fun rest => skip_cons rfl _
  rw [objectBody, skip_lineAt, hquote]
  split
  · next heq => cases heq
  · rw [members_printFields hitem hstart]
    · rfl
    · have hlength := length_le_printFields layout level fields
      simp only [printText, List.length_append, List.length_cons]
      omega

end

/-! ### Whole values -/

section

variable {layout : Layout} {depth : Nat} {v : Json}

/-- A plain value reads back in each layout. -/
theorem Plain.reads (h : Plain depth v) (level : Nat) : Reads (value depth) layout level v := by
  induction h generalizing level with
  | @null depth =>
    intro rest hrest
    obtain ⟨item, hvalue⟩ := exists_valueWith depth
    rw [hvalue]
    rfl
  | @bool depth b =>
    intro rest hrest
    obtain ⟨item, hvalue⟩ := exists_valueWith depth
    rw [hvalue]
    cases b <;> rfl
  | @int depth n h =>
    intro rest hrest
    obtain ⟨item, hvalue⟩ := exists_valueWith depth
    rw [hvalue, printAt]
    exact valueWith_digitsOf item h hrest
  | @text depth s =>
    intro rest hrest
    obtain ⟨item, hvalue⟩ := exists_valueWith depth
    simp only [hvalue, printAt, printText, List.cons_append, List.append_assoc, List.nil_append,
      valueWith, stringBody_printText, Except.map, raw, Text.Wide.ofString]
  | @array depth vs h ih =>
    intro rest hrest
    cases vs with
    | nil => rfl
    | cons v vs =>
      have hread := arrayBody_print level (fun w hw => ih w hw (level + 1))
        (fun w hw => (h w hw).starts layout (level + 1)) rest
      simpa [printAt, value, valueWith] using hread
  | @object depth fields hkeys h ih =>
    intro rest hrest
    rcases fields with _ | ⟨⟨k, v⟩, fields⟩
    · rfl
    · have hread := objectBody_print level (fun field hf => ih field hf (level + 1))
        (fun field hf => (h field hf).starts layout (level + 1)) rest
      simpa [printAt, value, valueWith] using hread

/-- A plain value that is not nested too deeply is what is read from the text that is printed. -/
theorem read_print (h : Plain depthLimit v) : read (print layout v) = .ok v.raw := by
  have hread : value depthLimit (printAt layout 0 v ++ []) = .ok (v.raw, []) :=
    h.reads 0 [] ends_nil
  have hskip := (h.starts layout 0).skip []
  rw [List.append_nil] at hread hskip
  rw [read, print, String.toList_ofList, readChars, hskip, hread]
  rfl

theorem parse_print (h : Plain depthLimit v) : parse (print layout v) = .ok v := by
  have hread : readChars (print layout v).toList = .ok v.raw := read_print h
  rw [parse, parseChars, hread, Except.map, h.toJson_raw]

theorem not_mem_lineAt (layout : Layout) (level : Nat) :
    '\r' ∉ layout.lineAt level ∧ '\r' ∉ layout.comma level := by
  have hline : '\r' ∉ layout.lineAt level := by
    unfold Layout.lineAt
    split
    · exact List.not_mem_nil
    · simp [List.mem_replicate]
  refine ⟨hline, ?_⟩
  unfold Layout.comma
  split
  · decide
  · simp [hline]

theorem not_mem_printItems {level : Nat} {vs : List Json}
    (h : ∀ v ∈ vs, '\r' ∉ printAt layout level v) : '\r' ∉ printItems layout level vs := by
  induction vs with
  | nil => exact List.not_mem_nil
  | cons v vs ih =>
    simp only [printItems, List.mem_append, not_or]
    exact ⟨⟨(not_mem_lineAt layout level).2, h v List.mem_cons_self⟩,
      ih fun w hw => h w (List.mem_cons_of_mem v hw)⟩

theorem not_mem_printFields {level : Nat} {fields : List (String × Json)}
    (h : ∀ field ∈ fields, '\r' ∉ printAt layout level field.2) :
    '\r' ∉ printFields layout level fields := by
  induction fields with
  | nil => exact List.not_mem_nil
  | cons field fields ih =>
    simp only [printFields, List.mem_append, not_or]
    exact ⟨⟨⟨⟨(not_mem_lineAt layout level).2, not_mem_printText _ _⟩, by decide⟩,
      h field List.mem_cons_self⟩, ih fun g hg => h g (List.mem_cons_of_mem field hg)⟩

/-- A plain value is printed without a carriage return, whatever its texts have. -/
theorem not_mem_printAt (h : Plain depth v) (level : Nat) : '\r' ∉ printAt layout level v := by
  have hline := fun level => (not_mem_lineAt layout level).1
  induction h generalizing level with
  | null => simp [printAt]
  | bool b => cases b <;> simp [printAt]
  | @int _ n _ =>
    rw [printAt]
    exact not_mem_digitsOf n
  | text s => exact not_mem_printText layout.ascii s
  | @array _ vs _ ih =>
    cases vs with
    | nil => simp [printAt]
    | cons v vs =>
      have hitems := not_mem_printItems fun w hw => ih w (List.mem_cons_of_mem v hw) (level + 1)
      simp [printAt, hline, ih v List.mem_cons_self, hitems]
  | @object _ fields _ _ ih =>
    rcases fields with _ | ⟨⟨k, v⟩, fields⟩
    · simp [printAt]
    · have hfields := not_mem_printFields fun field hf =>
        ih field (List.mem_cons_of_mem (k, v) hf) (level + 1)
      simp [printAt, hline, not_mem_printText, ih (k, v) List.mem_cons_self, hfields]

theorem not_mem_print (h : Plain depth v) : '\r' ∉ (print layout v).toList := by
  rw [print, String.toList_ofList]
  exact not_mem_printAt h 0

end

end Scaffold.Json
