import Scaffold.Proofs.Template.Stretch

/-!
# Scanning undoes writing

A `Document` is literal text with written placeholders in between. A `Written` placeholder has the
parts of its syntax, each with white space around it. The types carry what a writer has to keep to:

* `Part` - text over a class of characters, not empty and without white space at its ends;
* `Options` - at least two parts;
* `Literal` - no brace.

`findSome?_body` says that a written body is read by its own grammar and by none of higher
precedence, and `scan_chars` that the scan of a document finds what was written.
-/

namespace Scaffold.Template
open Scaffold.Text

/-! ### The parts -/

/-- White space on both sides. -/
structure Padding where
  before : List Char
  after : List Char
  blank_before : Blanks before
  blank_after : Blanks after

/-- A text with white space around it. -/
def Padding.around (padding : Padding) (text : List Char) : List Char :=
  padding.before ++ text ++ padding.after

/-- A text over a class of characters, not empty and trimmed, and the white space around it. -/
structure Part (ok : Char → Bool) where
  text : List Char
  padding : Padding
  ne_nil : text ≠ []
  trimmed : trim text = text
  all_ok : ∀ c ∈ text, ok c = true

/-- A character of an option. -/
def isOptionChar (c : Char) : Bool := c != '\x7b' && c != '\x7d' && c != '|' && c != ','

/-- A character of a prompt. -/
def isPromptChar (c : Char) : Bool := c != '\x7b' && c != '\x7d' && c != '|'

/-- A character of a default. -/
def isDefaultChar (c : Char) : Bool := c != '\x7b' && c != '\x7d'

namespace Part

variable {ok : Char → Bool}

/-- The part as it is written. -/
def chars (part : Part ok) : List Char := part.padding.around part.text

/-- The part as it is read. -/
def value (part : Part ok) : String := String.ofList part.text

end Part

/-- Two options or more. -/
structure Options (ok : Char → Bool) where
  first : Part ok
  second : Part ok
  others : List (Part ok)

namespace Options

variable {ok : Char → Bool}

/-- All options, in order. -/
def parts (options : Options ok) : List (Part ok) :=
  options.first :: options.second :: options.others

/-- The options with commas between them. -/
def chars (options : Options ok) : List Char := joinWith [','] (options.parts.map Part.chars)

/-- The options as they are read. -/
def values (options : Options ok) : List String := options.parts.map Part.value

end Options

/-- A bar and the default, if there is one. -/
def defaultChars : Option (Part isDefaultChar) → List Char
  | none => []
  | some default => '|' :: default.chars

/-- A placeholder and the white space in it. -/
inductive Written
  | named (name : Part isNameChar) (options : Options isOptionChar)
      (default : Option (Part isDefaultChar))
  /-- an option without a name in front has the characters of a simple name -/
  | anonymous (options : Options isSimpleChar) (default : Option (Part isDefaultChar))
  | radio (word : Padding) (options : Options isOptionChar)
      (default : Option (Part isDefaultChar))
  | ai (word : Padding) (prompt : Part isPromptChar) (default : Option (Part isDefaultChar))
  | simple (name : Part isSimpleChar) (free : name.value ∉ reservedNames)

namespace Written

/-- What is written between the braces. -/
def body : Written → List Char
  | named name options default => name.chars ++ ':' :: (options.chars ++ defaultChars default)
  | anonymous options default => options.chars ++ defaultChars default
  | radio word options default =>
    word.around "radio".toList ++ '|' :: (options.chars ++ defaultChars default)
  | ai word prompt default =>
    word.around "ai".toList ++ '|' :: (prompt.chars ++ defaultChars default)
  | simple name _ => name.chars

/-- What was written. -/
def placeholder : Written → Placeholder
  | named name options default => .named name.value options.values (default.map Part.value)
  | anonymous options default => .anonymous options.values (default.map Part.value)
  | radio _ options default => .radio options.values (default.map Part.value)
  | ai _ prompt default => .ai prompt.value (default.map Part.value)
  | simple name _ => .simple name.value

end Written

/-- Text without braces. -/
structure Literal where
  chars : List Char
  not_mem_open : '\x7b' ∉ chars
  not_mem_close : '\x7d' ∉ chars

/-- Placeholders, each behind a literal text, and a literal text at the end. -/
structure Document where
  parts : List (Literal × Written)
  last : Literal

namespace Document

/-- The document as it is written. -/
def chars (doc : Document) : List Char :=
  doc.parts.flatMap (fun (literal, written) => literal.chars ++ braced written.body) ++
    doc.last.chars

/-- The tokens of placeholders that start at `place`. -/
def tokensAt (place : Nat) : List (Literal × Written) → List Token
  | [] => []
  | (literal, written) :: parts =>
    let start := place + literal.chars.length
    let raw := String.ofList (braced written.body)
    ⟨written.placeholder, raw, start⟩ :: tokensAt (start + raw.length) parts

/-- The tokens of the document. -/
def tokens (doc : Document) : List Token := tokensAt 0 doc.parts

end Document

/-! ### Reading the parts -/

theorem Padding.trim_around (padding : Padding) (text : List Char) :
    trim (padding.around text) = trim text :=
  trim_padded padding.blank_before padding.blank_after text

theorem Padding.not_mem_around (padding : Padding) {text : List Char} {c : Char}
    (hc : isBlank c = false) (h : c ∉ text) : c ∉ padding.around text := by
  simp only [Padding.around, List.mem_append, not_or]
  exact ⟨⟨padding.blank_before.not_mem hc, h⟩, padding.blank_after.not_mem hc⟩

namespace Part

variable {ok : Char → Bool} (part : Part ok)

theorem trim_chars : trim part.chars = part.text :=
  (part.padding.trim_around part.text).trans part.trimmed

theorem chars_ne_nil : part.chars ≠ [] := by
  simp [chars, Padding.around, part.ne_nil]

theorem not_mem_text {c : Char} (hok : ok c = false) : c ∉ part.text := by
  intro hm
  rw [part.all_ok c hm] at hok
  cases hok

theorem not_mem_chars {c : Char} (hc : isBlank c = false) (hok : ok c = false) :
    c ∉ part.chars :=
  part.padding.not_mem_around hc (part.not_mem_text hok)

end Part

namespace Options

variable {ok : Char → Bool} (options : Options ok)

theorem chars_eq : options.chars = options.first.chars ++ ',' ::
    joinWith [','] ((options.second :: options.others).map Part.chars) := by
  simp [chars, parts, joinWith]

theorem not_mem_chars {c : Char} (hc : isBlank c = false) (hok : ok c = false) (hne : c ≠ ',') :
    c ∉ options.chars := by
  unfold chars
  generalize options.parts = parts
  induction parts with
  | nil => simp [joinWith]
  | cons part parts ih =>
    have hpart := part.not_mem_chars hc hok
    cases parts with
    | nil => exact hpart
    | cons next rest =>
      simp only [List.map_cons, joinWith, List.mem_append, List.mem_singleton, not_or]
      exact ⟨⟨hpart, hne⟩, ih⟩

theorem hasInnerComma_chars : hasInnerComma options.chars = true := by
  refine (hasInnerComma_iff _).2 ⟨_, _, options.first.chars_ne_nil, ?_, options.chars_eq⟩
  cases options.others with
  | nil => exact options.second.chars_ne_nil
  | cons next rest => simp [joinWith]

theorem optionsOf_chars (hcomma : ok ',' = false) : optionsOf options.chars = options.values := by
  have hsplit : splitOn ',' options.chars = options.parts.map Part.chars := by
    refine splitOn_joinWith (by simp [parts]) fun piece hm => ?_
    obtain ⟨part, -, rfl⟩ := List.mem_map.1 hm
    exact part.not_mem_chars (by decide) hcomma
  rw [optionsOf, hsplit, List.map_map]
  refine List.map_congr_left fun part _ => ?_
  rw [Function.comp_apply, part.trim_chars, Part.value]

end Options

section

variable {front : List Char} {default : Option (Part isDefaultChar)}

/-- What stands in front of the default is cut off at its bar. -/
theorem cut_defaultChars (h : '|' ∉ front) :
    cut '|' (front ++ defaultChars default) = (front, default.map Part.chars) := by
  cases default with
  | none => simpa [defaultChars] using cut_of_not_mem h
  | some default => exact cut_append h _

theorem defaultOf?_chars : defaultOf? (default.map Part.chars) = some (default.map Part.value) := by
  cases default with
  | none => rfl
  | some default =>
    obtain ⟨c, cs, he⟩ := List.exists_cons_of_ne_nil default.chars_ne_nil
    simp only [Option.map_some, Part.value, ← default.trim_chars, he]
    rfl

theorem choiceOf?_chars {ok : Char → Bool} (hbar : ok '|' = false) (hcomma : ok ',' = false)
    (options : Options ok) :
    choiceOf? (options.chars ++ defaultChars default) =
      some (options.values, default.map Part.value) := by
  have hcut : cut '|' (options.chars ++ defaultChars default) =
      (options.chars, default.map Part.chars) :=
    cut_defaultChars (options.not_mem_chars (by decide) hbar (by decide))
  simp only [choiceOf?, hcut, defaultOf?_chars, options.hasInnerComma_chars,
    options.optionsOf_chars hcomma, Option.bind_eq_bind, Option.bind_some, if_true]
  rfl

end

/-! ### What the other grammars refuse -/

/-- No name holds what stands in front of the first colon. -/
theorem named?_eq_none {front rest : List Char} {c : Char} (hfront : ':' ∉ front)
    (hname : isNameChar c = false) (hc : isBlank c = false) (hne : c ≠ ':') :
    named? (front ++ c :: rest) = none := by
  unfold named?
  rcases cut_cases ':' (front ++ c :: rest) with ⟨-, hcut⟩ | ⟨xs, ys, he, hxs, hcut⟩ <;> rw [hcut]
  have hm : c ∈ xs := by
    rcases List.append_eq_append_iff.1 he with ⟨zs, rfl, hz⟩ | ⟨zs, rfl, hz⟩
    · cases zs with
      | nil => exact absurd (List.cons.inj hz).1 hne
      | cons d zs => simp [(List.cons.inj hz).1]
    · cases zs with
      | nil => exact absurd (List.cons.inj hz).1.symm hne
      | cons d zs =>
        rw [(List.cons.inj hz).1] at hfront
        simp at hfront
  have htrim : c ∈ trim xs := by
    obtain ⟨a, b, ha, hb, hpad⟩ := exists_padding xs
    rw [hpad, List.mem_append, List.mem_append] at hm
    exact (hm.resolve_right (hb.not_mem hc)).resolve_left (ha.not_mem hc)
  have hall : (trim xs).all isNameChar = false :=
    List.all_eq_false.2 ⟨c, htrim, by simp [hname]⟩
  simp [hall]

theorem anonymous?_eq_none {body : List Char} (h : ',' ∉ (cut '|' body).1) :
    anonymous? body = none := by
  have hcomma : hasInnerComma (cut '|' body).1 = false := by
    rw [Bool.eq_false_iff]
    intro hc
    obtain ⟨xs, ys, -, -, he⟩ := (hasInnerComma_iff _).1 hc
    exact h (by simp [he])
  have hchoice : choiceOf? body = none := by
    simp [choiceOf?, hcomma]
  simp [anonymous?, hchoice]

section

variable {padding : Padding} {word other : String} {rest : List Char}

/-- A word and a bar are no name. -/
theorem named?_tagged (hcolon : ':' ∉ word.toList) :
    named? (padding.around word.toList ++ '|' :: rest) = none :=
  named?_eq_none (padding.not_mem_around (by decide) hcolon) (by decide +kernel) (by decide)
    (by decide)

/-- A word is no list of options. -/
theorem anonymous?_tagged (hbar : '|' ∉ word.toList) (hcomma : ',' ∉ word.toList) :
    anonymous? (padding.around word.toList ++ '|' :: rest) = none := by
  refine anonymous?_eq_none ?_
  rw [cut_append (padding.not_mem_around (by decide) hbar)]
  exact padding.not_mem_around (by decide) hcomma

theorem afterWord?_eq_none (hbar : '|' ∉ other.toList) (htrim : trim other.toList ≠ word.toList) :
    afterWord? word (padding.around other.toList ++ '|' :: rest) = none := by
  unfold afterWord?
  rw [cut_append (padding.not_mem_around (by decide) hbar)]
  simp [padding.trim_around, htrim]

end

theorem afterWord?_eq_none_of_not_mem {word : String} {body : List Char} (h : '|' ∉ body) :
    afterWord? word body = none := by
  unfold afterWord?
  rw [cut_of_not_mem h]

/-- A body without a colon, a bar or a comma is left to the grammar of names. -/
theorem ofBody?_eq_none {g : Grammar} {body : List Char} (hcolon : ':' ∉ body) (hbar : '|' ∉ body)
    (hcomma : ',' ∉ body) (hg : g.rank < Grammar.simple.rank) : g.ofBody? body = none := by
  cases g with
  | named => simp [Grammar.ofBody?, named?, cut_of_not_mem hcolon]
  | anonymous =>
    refine anonymous?_eq_none ?_
    rwa [cut_of_not_mem hbar]
  | radio => simp [Grammar.ofBody?, radio?, afterWord?_eq_none_of_not_mem hbar]
  | ai => simp [Grammar.ofBody?, ai?, afterWord?_eq_none_of_not_mem hbar]
  | simple => exact absurd hg (Nat.lt_irrefl _)

/-! ### A written placeholder -/

section

variable {options : Options isOptionChar} {default : Option (Part isDefaultChar)} {word : Padding}

theorem named?_body (name : Part isNameChar) :
    named? (Written.named name options default).body =
      some (Written.named name options default).placeholder := by
  have hcut : cut ':' (name.chars ++ ':' :: (options.chars ++ defaultChars default)) =
      (name.chars, some (options.chars ++ defaultChars default)) :=
    cut_append (name.not_mem_chars (by decide) (by decide +kernel)) _
  have hempty : name.text.isEmpty = false := by simpa using name.ne_nil
  have hall : name.text.all isNameChar = true := List.all_eq_true.2 name.all_ok
  simp only [Written.body, named?, hcut, name.trim_chars, hempty, hall,
    choiceOf?_chars (show isOptionChar '|' = false by decide) (by decide)]
  rfl

theorem anonymous?_body (options : Options isSimpleChar) :
    anonymous? (Written.anonymous options default).body =
      some (Written.anonymous options default).placeholder := by
  have hcut : (cut '|' (options.chars ++ defaultChars default)).1 = options.chars := by
    rw [cut_defaultChars (options.not_mem_chars (by decide) (by decide) (by decide))]
  have hnot : ∀ c, isBlank c = false → isSimpleChar c = false → c ≠ ',' →
      options.chars.contains c = false := by
    intro c hc hok hne
    simpa using options.not_mem_chars hc hok hne
  simp only [Written.body, anonymous?, hcut, hnot '\x7b' (by decide) (by decide) (by decide),
    hnot ':' (by decide) (by decide) (by decide),
    choiceOf?_chars (show isSimpleChar '|' = false by decide) (by decide)]
  rfl

theorem afterWord?_around {name : String} (hbar : '|' ∉ name.toList)
    (htrim : trim name.toList = name.toList) (rest : List Char) :
    afterWord? name (word.around name.toList ++ '|' :: rest) = some rest :=
  afterWord?_eq name word.blank_before word.blank_after hbar htrim rest

theorem radio?_body :
    radio? (Written.radio word options default).body =
      some (Written.radio word options default).placeholder := by
  simp only [Written.body, radio?, afterWord?_around (show '|' ∉ "radio".toList by decide)
    (by decide), choiceOf?_chars (show isOptionChar '|' = false by decide) (by decide),
    Option.bind_eq_bind, Option.bind_some]
  rfl

theorem ai?_body (prompt : Part isPromptChar) :
    ai? (Written.ai word prompt default).body =
      some (Written.ai word prompt default).placeholder := by
  have hcut : cut '|' (prompt.chars ++ defaultChars default) =
      (prompt.chars, default.map Part.chars) :=
    cut_defaultChars (prompt.not_mem_chars (by decide) (by decide))
  have hempty : prompt.chars.isEmpty = false := by simpa using prompt.chars_ne_nil
  simp only [Written.body, ai?, afterWord?_around (show '|' ∉ "ai".toList by decide)
    (by decide), hcut, defaultOf?_chars, hempty, prompt.trim_chars, Option.bind_eq_bind,
    Option.bind_some]
  rfl

theorem simple?_body (name : Part isSimpleChar) (free : name.value ∉ reservedNames) :
    simple? (Written.simple name free).body = some (Written.simple name free).placeholder := by
  have hany : name.chars.any isStructural = false := by
    rw [List.any_eq_false]
    intro c hm hc
    simp only [isStructural, Bool.or_eq_true, beq_iff_eq] at hc
    rcases hc with ((rfl | rfl) | rfl) | rfl
    all_goals exact name.not_mem_chars (by decide) (by decide) hm
  have hempty : name.value.isEmpty = false := by
    rw [Part.value, ← Bool.not_eq_true, String.isEmpty_iff]
    intro he
    exact name.ne_nil (by simpa using congrArg String.toList he)
  have hfree : reservedNames.contains name.value = false := by simpa using free
  simp only [Written.body, simple?, name.trim_chars, hany, Bool.false_or]
  rw [← Part.value, hempty, hfree]
  rfl

end

/-- A written body is read by its own grammar, and by none of higher precedence. -/
theorem findSome?_body (written : Written) :
    grammars.findSome? (fun grammar => grammar written.body) = some written.placeholder := by
  unfold grammars
  cases written with
  | named name options default => rw [List.findSome?_cons, named?_body]
  | anonymous options default =>
    have hnamed : named? (Written.anonymous options default).body = none := by
      rw [Written.body, options.chars_eq, List.append_assoc, List.cons_append]
      exact named?_eq_none (options.first.not_mem_chars (by decide) (by decide)) (by decide +kernel)
        (by decide) (by decide)
    rw [List.findSome?_cons, hnamed, List.findSome?_cons, anonymous?_body]
  | radio word options default =>
    have hradio : radio? (Written.radio word options default).body = _ := radio?_body
    rw [Written.body] at hradio ⊢
    rw [List.findSome?_cons, named?_tagged (by decide), List.findSome?_cons,
      anonymous?_tagged (by decide) (by decide), List.findSome?_cons, hradio]
  | ai word prompt default =>
    have hradio : radio? (Written.ai word prompt default).body = none := by
      have hword : afterWord? "radio" (Written.ai word prompt default).body = none :=
        afterWord?_eq_none (by decide) (by decide)
      rw [radio?, hword]
      rfl
    have hai : ai? (Written.ai word prompt default).body = _ := ai?_body prompt
    rw [Written.body] at hradio hai ⊢
    rw [List.findSome?_cons, named?_tagged (by decide), List.findSome?_cons,
      anonymous?_tagged (by decide) (by decide), List.findSome?_cons, hradio, List.findSome?_cons,
      hai]
  | simple name free =>
    -- each of the other grammars looks for a character that no simple name has
    have hrefused : ∀ g : Grammar, g.rank < Grammar.simple.rank → g.ofBody? name.chars = none :=
      fun g => ofBody?_eq_none (name.not_mem_chars (by decide) (by decide))
        (name.not_mem_chars (by decide) (by decide)) (name.not_mem_chars (by decide) (by decide))
    have hnamed : named? name.chars = none := hrefused .named (by decide)
    have hanonymous : anonymous? name.chars = none := hrefused .anonymous (by decide)
    have hradio : radio? name.chars = none := hrefused .radio (by decide)
    have hai : ai? name.chars = none := hrefused .ai (by decide)
    have hsimple := simple?_body name free
    rw [Written.body] at hsimple ⊢
    rw [List.findSome?_cons, hnamed, List.findSome?_cons, hanonymous, List.findSome?_cons, hradio,
      List.findSome?_cons, hai, List.findSome?_cons, hsimple]

theorem not_mem_defaultChars (default : Option (Part isDefaultChar)) {c : Char}
    (hc : isBlank c = false) (hok : isDefaultChar c = false) (hbar : c ≠ '|') :
    c ∉ defaultChars default := by
  cases default with
  | none => exact List.not_mem_nil
  | some default =>
    rw [defaultChars, List.mem_cons, not_or]
    exact ⟨hbar, default.not_mem_chars hc hok⟩

/-- No brace is written between the braces. -/
theorem Written.not_mem_body (written : Written) {c : Char} (hc : c = '\x7b' ∨ c = '\x7d') :
    c ∉ written.body := by
  obtain ⟨hblank, hname, hoption, hsimple, hprompt, hdefault⟩ : isBlank c = false ∧
      isNameChar c = false ∧ isOptionChar c = false ∧ isSimpleChar c = false ∧
      isPromptChar c = false ∧ isDefaultChar c = false := by
    rcases hc with rfl | rfl <;> decide +kernel
  obtain ⟨hcolon, hbar, hcomma⟩ : c ≠ ':' ∧ c ≠ '|' ∧ c ≠ ',' := by
    rcases hc with rfl | rfl <;> decide
  obtain ⟨hradio, hai⟩ : c ∉ "radio".toList ∧ c ∉ "ai".toList := by
    rcases hc with rfl | rfl <;> decide
  cases written with
  | named name options default =>
    simp only [Written.body, List.mem_append, List.mem_cons, not_or]
    exact ⟨name.not_mem_chars hblank hname, hcolon, options.not_mem_chars hblank hoption hcomma,
      not_mem_defaultChars default hblank hdefault hbar⟩
  | anonymous options default =>
    simp only [Written.body, List.mem_append, not_or]
    exact ⟨options.not_mem_chars hblank hsimple hcomma,
      not_mem_defaultChars default hblank hdefault hbar⟩
  | radio word options default =>
    simp only [Written.body, List.mem_append, List.mem_cons, not_or]
    exact ⟨word.not_mem_around hblank hradio, hbar, options.not_mem_chars hblank hoption hcomma,
      not_mem_defaultChars default hblank hdefault hbar⟩
  | ai word prompt default =>
    simp only [Written.body, List.mem_append, List.mem_cons, not_or]
    exact ⟨word.not_mem_around hblank hai, hbar, prompt.not_mem_chars hblank hprompt,
      not_mem_defaultChars default hblank hdefault hbar⟩
  | simple name free => exact name.not_mem_chars hblank hsimple

/-! ### A written document -/

/-- A stretch in which braces open once has the token of that body. -/
theorem stretchToken?_written (place : Nat) (literal : Literal) (written : Written) :
    stretchToken? place (literal.chars ++ '\x7b' :: '\x7b' :: written.body) =
      some ⟨written.placeholder, String.ofList (braced written.body),
        place + literal.chars.length⟩ := by
  have hopenings := openings_append literal.not_mem_open (written.not_mem_body (Or.inl rfl))
  have hbest := best?_of_openings hopenings
  rw [findSome?_body, Option.map_some] at hbest
  simp only [stretchToken?, hbest, Option.map_some, List.drop_left]
  rfl

theorem tokensFrom_written (place : Nat) (parts : List (Literal × Written)) (last : Literal) :
    tokensFrom place (Document.chars ⟨parts, last⟩) = Document.tokensAt place parts := by
  induction parts generalizing place with
  | nil => exact tokensFrom_of_not_mem last.not_mem_close place
  | cons part parts ih =>
    obtain ⟨literal, written⟩ := part
    have hstretch : '\x7d' ∉ literal.chars ++ '\x7b' :: '\x7b' :: written.body := by
      have := literal.not_mem_close
      have := written.not_mem_body (Or.inr rfl)
      simp_all
    have hchars : Document.chars ⟨(literal, written) :: parts, last⟩ =
        (literal.chars ++ '\x7b' :: '\x7b' :: written.body) ++
          '\x7d' :: '\x7d' :: Document.chars ⟨parts, last⟩ := by
      simp [Document.chars, braced]
    have hplace : place + (literal.chars ++ '\x7b' :: '\x7b' :: written.body).length + 2 =
        place + literal.chars.length + (String.ofList (braced written.body)).length := by
      rw [String.length_ofList]
      simp only [braced, List.length_append, List.length_cons, List.length_nil]
      omega
    rw [hchars, tokensFrom_closing hstretch, stretchToken?_written, ih, hplace]
    rfl

/-- Scanning undoes writing: a document has the tokens that were written, in order. -/
theorem scan_chars (doc : Document) : scan (String.ofList doc.chars) = doc.tokens := by
  rw [scan, String.toList_ofList, scanChars_eq]
  exact tokensFrom_written 0 doc.parts doc.last

/-- No white space around a text. -/
def Padding.tight : Padding := ⟨[], [], .nil, .nil⟩

/-- Two blanks before a text, and one behind it. -/
def Padding.loose : Padding :=
  ⟨[' ', ' '], [' '], by simp [Blanks, isBlank], by simp [Blanks, isBlank]⟩

/-- A text as a part, after a check. -/
def Part.of {ok : Char → Bool} (text : String) (padding : Padding)
    (h : text.toList ≠ [] ∧ trim text.toList = text.toList ∧ text.toList.all ok = true) : Part ok :=
  ⟨text.toList, padding, h.1, h.2.1, List.all_eq_true.1 h.2.2⟩

/-- A placeholder of each kind:
`Use {{  style :plain,  so so |plain}}, {{a,b}}{{  radio |x,y: z}} or {{ai|  Why? |a | b}}{{name}}.`
-/
def allKinds : Document where
  parts :=
    [(⟨"Use ".toList, by decide, by decide⟩,
        .named (.of "style" .loose (by decide))
          ⟨.of "plain" .tight (by decide), .of "so so" .loose (by decide), []⟩
          (some (.of "plain" .tight (by decide)))),
      (⟨", ".toList, by decide, by decide⟩,
        .anonymous ⟨.of "a" .tight (by decide), .of "b" .tight (by decide), []⟩ none),
      (⟨[], by decide, by decide⟩,
        .radio .loose ⟨.of "x" .tight (by decide), .of "y: z" .tight (by decide), []⟩ none),
      (⟨" or ".toList, by decide, by decide⟩,
        .ai .tight (.of "Why?" .loose (by decide)) (some (.of "a | b" .tight (by decide)))),
      (⟨[], by decide, by decide⟩, .simple (.of "name" .tight (by decide)) (by decide))]
  last := ⟨".".toList, by decide, by decide⟩

theorem scan_allKinds :
    (scan (String.ofList allKinds.chars)).map (fun t => (t.placeholder, t.start)) =
      [(.named "style" ["plain", "so so"] (some "plain"), 4), (.anonymous ["a", "b"] none, 39),
        (.radio ["x", "y: z"] none, 46), (.ai "Why?" (some "a | b"), 69),
        (.simple "name", 89)] := by
  rw [scan_chars]
  rfl

end Scaffold.Template
