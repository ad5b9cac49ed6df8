import Scaffold.Proofs.Json.Printed
import Scaffold.Proofs.Reply.Fence

/-!
# Values in chatter

A text that is JSON, stands in braces and holds no fence is recovered from the chatter around it
(`extractJson_recovers`): from prose on either side, and from a fenced block with prose around it in
the block and anything else around the block. The texts that are tried before it are the whole reply
and the whole block, so it is missed only where one of these is another value.
-/

namespace Scaffold.Reply
open Scaffold.Text

/-- Neither braces nor backticks. -/
structure Prose (cs : List Char) : Prop where
  noOpening : '\x7b' ∉ cs
  noClosing : '\x7d' ∉ cs
  noBacktick : '\x60' ∉ cs

/-- An opening brace in front, a closing one at the end, and no fence. -/
structure InBraces (cs : List Char) : Prop where
  opens : cs.head? = some '\x7b'
  closes : cs.getLast? = some '\x7d'
  noFence : ¬ fence <:+: cs

section

variable {cs xs ys : List Char}

theorem Prose.of_subset (h : Prose cs) (hsub : xs ⊆ cs) : Prose xs :=
  ⟨fun hm => h.noOpening (hsub hm), fun hm => h.noClosing (hsub hm),
    fun hm => h.noBacktick (hsub hm)⟩

theorem InBraces.exists_eq (h : InBraces cs) : ∃ inside, cs = '\x7b' :: inside ++ ['\x7d'] := by
  obtain ⟨front, hfront⟩ := List.getLast?_eq_some_iff.1 h.closes
  cases front with
  | nil =>
    have hopens := h.opens
    rw [hfront] at hopens
    cases hopens
  | cons c inside =>
    have hopens := h.opens
    rw [hfront] at hopens
    cases hopens
    exact ⟨inside, hfront⟩

/-- Texts without backticks around a text in braces make no fence. -/
theorem InBraces.fenceless (h : InBraces cs) (hxs : '\x60' ∉ xs)
    (hys : ¬ fence <:+: ys) : ¬ fence <:+: xs ++ cs ++ ys := by
  obtain ⟨inside, rfl⟩ := h.exists_eq
  have hinside := h.noFence
  have hsplit : xs ++ ('\x7b' :: inside ++ ['\x7d']) ++ ys =
      xs ++ '\x7b' :: (inside ++ '\x7d' :: ys) := by simp
  rw [List.cons_append, ← List.nil_append ('\x7b' :: _),
    fence_infix_append_cons_iff (by decide), fence_infix_append_cons_iff (by decide)] at hinside
  rw [hsplit, fence_infix_append_cons_iff (by decide), fence_infix_append_cons_iff (by decide)]
  rintro (hfence | hfence | hfence)
  · exact fenceless_of_not_mem hxs hfence
  · exact hinside (Or.inr (Or.inl hfence))
  · exact hys hfence

/-- The outer braces of a text with prose around a text in braces. -/
theorem InBraces.braced?_eq (h : InBraces cs) (hxs : Prose xs) (hys : Prose ys) :
    braced? (xs ++ cs ++ ys) = some cs := by
  obtain ⟨inside, rfl⟩ := h.exists_eq
  have hsplit : xs ++ ('\x7b' :: inside ++ ['\x7d']) ++ ys =
      xs ++ '\x7b' :: (inside ++ '\x7d' :: ys) := by simp
  simp only [hsplit, braced?, cut_append hxs.noOpening, cutLast_append hys.noClosing]

/-- White space is trimmed from around a text in braces, and from nowhere else. -/
theorem InBraces.trim_eq (h : InBraces cs) (xs ys : List Char) :
    trim (xs ++ cs ++ ys) = trimLeft xs ++ cs ++ trimRight ys := by
  obtain ⟨inside, rfl⟩ := h.exists_eq
  have hsplit : ∀ front back : List Char, front ++ ('\x7b' :: inside ++ ['\x7d']) ++ back =
      front ++ '\x7b' :: (inside ++ '\x7d' :: back) := by simp
  rw [hsplit, hsplit, trim, trimLeft_append_cons (by decide), ← List.cons_append,
    ← List.append_assoc, trimRight_append_cons (by decide)]
  simp

/-! ### The texts that are tried -/

/-- Prose around a text in braces: the whole text is tried, and then the text in braces. -/
theorem jsonTexts_prose (h : InBraces cs) (hxs : Prose xs) (hys : Prose ys) :
    jsonTexts (xs ++ cs ++ ys) = [trim (xs ++ cs ++ ys), cs] := by
  have hfence := h.fenceless hxs.noBacktick (fenceless_of_not_mem hys.noBacktick)
  simp only [jsonTexts, fencedChars?_eq_none hfence, h.braced?_eq hxs hys]
  rfl

/-- A text in braces in a fenced block: the whole text is tried, the whole block, and then the text
in braces. -/
theorem exists_jsonTexts_fenced (h : InBraces cs) {front : List Char} (hfront : '\x60' ∉ front)
    (hxs : Prose xs) (hys : Prose ys) (back : List Char) :
    ∃ more, jsonTexts (front ++ fence ++ (xs ++ cs ++ ys ++ fence ++ back)) =
      trim (front ++ fence ++ (xs ++ cs ++ ys ++ fence ++ back)) ::
        trim (afterOpening xs ++ cs ++ ys) :: cs :: more := by
  have hline : Prose (afterOpening xs) := hxs.of_subset (afterOpening_suffix xs).subset
  have hopened : afterOpening (xs ++ cs ++ ys ++ fence ++ back) =
      afterOpening xs ++ cs ++ ys ++ fence ++ back := by
    obtain ⟨inside, rfl⟩ := h.exists_eq
    simp only [List.append_assoc, List.cons_append]
    exact afterOpening_append_cons (by decide) (by decide) (by decide) _ _
  have hend : ¬ fence <:+: afterOpening xs ++ cs ++ ys ++ fence.dropLast := by
    rw [List.append_assoc]
    exact h.fenceless hline.noBacktick (fenceless_append hys.noBacktick)
  have hblock : fencedChars? (front ++ fence ++ (xs ++ cs ++ ys ++ fence ++ back)) =
      some (trimRight (afterOpening xs ++ cs ++ ys)) := fencedChars?_append hfront hopened hend
  have hbraced : braced? (trim (afterOpening xs ++ cs ++ ys)) = some cs := by
    rw [h.trim_eq]
    refine h.braced?_eq (hline.of_subset (List.dropWhile_suffix _).subset) (hys.of_subset ?_)
    exact (List.rdropWhile_prefix isBlank ys).subset
  refine ⟨(braced? (front ++ fence ++ (xs ++ cs ++ ys ++ fence ++ back))).toList, ?_⟩
  simp only [jsonTexts, hblock, trim_trimRight, hbraced]
  rfl

/-- A text that is JSON is recovered when each text that is tried before it is no other value. -/
theorem extractJson_of_jsonTexts {s : String} {v : Json} (front : List (List Char))
    {back : List (List Char)} (htexts : jsonTexts s.toList = front ++ cs :: back)
    (hv : Json.parseChars cs = .ok v)
    (hfront : ∀ text ∈ front, ∀ w, Json.parseChars text = .ok w → w = v) :
    extractJson s = .ok v := by
  have hfirst : (jsonTexts s.toList).findSome? (fun text => (Json.parseChars text).toOption) =
      some v := by
    rw [htexts]
    clear htexts
    induction front with
    | nil => rw [List.nil_append, List.findSome?_cons_of_isSome] <;> simp [hv, Except.toOption]
    | cons text front ih =>
      rw [List.cons_append, List.findSome?_cons]
      cases htext : Json.parseChars text with
      | ok w => rw [hfront text List.mem_cons_self w htext]; rfl
      | error fault => exact ih fun t ht => hfront t (List.mem_cons_of_mem text ht)
  rw [extractJson, hfirst]

/-- A text in braces that is JSON is recovered from prose around it, and from a fenced block in
which prose stands around it, unless the trimmed reply or the trimmed block is another value. -/
theorem extractJson_recovers {j : String} {v : Json} (hj : InBraces j.toList)
    (hv : Json.parse j = .ok v) :
    (∀ pre post : String, Prose pre.toList → Prose post.toList →
      (∀ w, Json.parse (strip (pre ++ j ++ post)) = .ok w → w = v) →
      extractJson (pre ++ j ++ post) = .ok v) ∧
    ∀ front pre post back : String, '\x60' ∉ front.toList → Prose pre.toList → Prose post.toList →
      (∀ w, Json.parse (strip (front ++ "```" ++ pre ++ j ++ post ++ "```" ++ back)) = .ok w →
        w = v) →
      (∀ w, Json.parse (strip (String.ofList (afterOpening pre.toList) ++ j ++ post)) = .ok w →
        w = v) →
      extractJson (front ++ "```" ++ pre ++ j ++ post ++ "```" ++ back) = .ok v := by
  constructor
  · intro pre post hpre hpost hwhole
    have htexts := jsonTexts_prose hj hpre hpost
    rw [← String.toList_append, ← String.toList_append] at htexts
    refine extractJson_of_jsonTexts [_] htexts hv fun text htext w hw => ?_
    obtain rfl := List.mem_singleton.1 htext
    exact hwhole w (by rw [Json.parse, toList_strip, hw])
  · intro front pre post back hfront hpre hpost hwhole hblock
    obtain ⟨more, htexts⟩ := exists_jsonTexts_fenced hj hfront hpre hpost back.toList
    have hreply : front.toList ++ fence ++
        (pre.toList ++ j.toList ++ post.toList ++ fence ++ back.toList) =
          (front ++ "```" ++ pre ++ j ++ post ++ "```" ++ back).toList := by
      simp [fence]
    rw [hreply] at htexts
    refine extractJson_of_jsonTexts [_, _] htexts hv fun text htext w hw => ?_
    rcases List.mem_cons.1 htext with rfl | htext
    · exact hwhole w (by rw [Json.parse, toList_strip, hw])
    · obtain rfl := List.mem_singleton.1 htext
      refine hblock w ?_
      rw [Json.parse, toList_strip, ← hw]
      simp

end

/-- A plan with one file, on one line. -/
theorem parse_onePath : Json.parse "\x7b\"files\": [\"a.py\"]\x7d" =
    .ok (.object [("files", .array [.text "a.py"])]) := by
  have hplain : Json.Plain Json.depthLimit (.object [("files", .array [.text "a.py"])]) := by
    refine .object (by simp) fun field hfield => ?_
    rw [List.mem_singleton.1 hfield]
    refine .array fun v hv => ?_
    rw [List.mem_singleton.1 hv]
    exact .text _
  have hprint : Json.print .wire (.object [("files", .array [.text "a.py"])]) =
      "\x7b\"files\": [\"a.py\"]\x7d" := by decide +kernel
  rw [← hprint, Json.parse_print hplain]

/-- The plan is found in a sentence, and in a block with a tag behind other braces. -/
theorem extractJson_recovers_onePath :
    extractJson ("Sure: " ++ "\x7b\"files\": [\"a.py\"]\x7d" ++ ".") =
      .ok (.object [("files", .array [.text "a.py"])]) ∧
    extractJson ("As \x7bx\x7d:\n" ++ "```" ++ "json\n" ++ "\x7b\"files\": [\"a.py\"]\x7d" ++
      "\n" ++ "```" ++ "\n\x7d") = .ok (.object [("files", .array [.text "a.py"])]) := by
  have hj : InBraces "\x7b\"files\": [\"a.py\"]\x7d".toList :=
    ⟨rfl, rfl, fenceless_of_not_mem (by decide)⟩
  have hprose : Prose "Sure: ".toList ∧ Prose ".".toList ∧ Prose "json\n".toList ∧
      Prose "\n".toList := by
    refine ⟨⟨?_, ?_, ?_⟩, ⟨?_, ?_, ?_⟩, ⟨?_, ?_, ?_⟩, ⟨?_, ?_, ?_⟩⟩ <;> decide
  obtain ⟨hpre, hpost, htag, hend⟩ := hprose
  have hrecovers := extractJson_recovers hj parse_onePath
  refine ⟨hrecovers.1 "Sure: " "." hpre hpost fun w hw => ?_, ?_⟩
  · have hfault : ∃ fault, Json.parse (strip ("Sure: " ++ "\x7b\"files\": [\"a.py\"]\x7d" ++ ".")) =
        .error fault := ⟨_, rfl⟩
    obtain ⟨fault, hfault⟩ := hfault
    cases hfault.symm.trans hw
  · refine hrecovers.2 "As \x7bx\x7d:\n" "json\n" "\n" "\n\x7d" (by decide) htag hend
      (fun w hw => ?_) fun w hw => ?_
    · have hfault : ∃ fault, Json.parse (strip ("As \x7bx\x7d:\n" ++ "```" ++ "json\n" ++
          "\x7b\"files\": [\"a.py\"]\x7d" ++ "\n" ++ "```" ++ "\n\x7d")) = .error fault := ⟨_, rfl⟩
      obtain ⟨fault, hfault⟩ := hfault
      cases hfault.symm.trans hw
    · have hblock : strip (String.ofList (afterOpening "json\n".toList) ++
          "\x7b\"files\": [\"a.py\"]\x7d" ++ "\n") = "\x7b\"files\": [\"a.py\"]\x7d" := rfl
      rw [hblock, parse_onePath] at hw
      exact (Except.ok.inj hw).symm

end Scaffold.Reply
