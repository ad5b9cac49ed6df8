import Scaffold.Proofs.Reply.Fence

/-!
# Code in a fence

A `Block` is code in a fence, with a tag on the line of its opening and with other text around it.
The inside of the block is the code as it was written, with its indentation and its blank lines
(`fenced?_reply`): the tag and its line end are all that is dropped in front (`afterOpening_tag`),
and the line end before the closing fence is all that is trimmed behind.
-/

namespace Scaffold.Reply
open Scaffold.Text

/-- Code in a fence, the tag of the fence, and the text around it. Behind the block anything may
stand, and the code may hold one or two backticks side by side; it may be empty. -/
structure Block where
  front : String
  tag : String
  code : String
  back : String
  front_no_backtick : '\x60' ∉ front.toList
  tag_chars : ∀ c ∈ tag.toList, isTagChar c = true
  code_no_fence : ¬ fence <:+: code.toList
  code_end : ∀ c, code.toList.getLast? = some c → isBlank c = false

/-- The reply that the block stands in. -/
def Block.reply (b : Block) : String :=
  b.front ++ "```" ++ b.tag ++ "\n" ++ b.code ++ "\n```" ++ b.back

section

variable {tag code : List Char}

/-- A tag ends where its line does. -/
theorem afterOpening_tag (h : ∀ c ∈ tag, isTagChar c = true) (rest : List Char) :
    afterOpening (tag ++ '\n' :: rest) = rest := by
  have htag : tag.dropWhile isTagChar = [] := List.dropWhile_eq_nil_iff.2 h
  rw [afterOpening, dropWhile_append_cons (by decide), htag, List.nil_append,
    List.dropWhile_cons_of_neg (by decide)]
  rfl

/-- The line end behind code is trimmed, and nothing else. -/
theorem trimRight_line (h : ∀ c, code.getLast? = some c → isBlank c = false) :
    trimRight (code ++ ['\n']) = code := by
  have hline : Blanks ['\n'] := by
    intro c hc
    rw [List.mem_singleton.1 hc]
    decide
  rw [trimRight_append hline]
  rcases List.eq_nil_or_concat code with rfl | ⟨front, c, rfl⟩
  · rfl
  · rw [List.concat_eq_append]
    exact trimRight_append_cons (h c (by simp)) front []

/-- The line end keeps the code and the closing fence apart. -/
theorem fenceless_line (h : ¬ fence <:+: code) :
    ¬ fence <:+: code ++ ['\n'] ++ fence.dropLast := by
  have hsplit : code ++ ['\n'] ++ fence.dropLast = code ++ '\n' :: fence.dropLast := by simp
  rw [hsplit, fence_infix_append_cons_iff (by decide), not_or]
  exact ⟨h, fenceless_append List.not_mem_nil⟩

end

namespace Block

variable (b : Block)

theorem toList_reply : b.reply.toList = b.front.toList ++ fence ++
    (b.tag.toList ++ '\n' :: (b.code.toList ++ ['\n'] ++ fence ++ b.back.toList)) := by
  simp [reply, fence]

theorem fence_infix_reply : fence <:+: b.reply.toList :=
  ⟨b.front.toList, _, b.toList_reply.symm⟩

/-- The first fence is the one that opens the block, and the next one closes it. -/
theorem fencedChars?_reply : fencedChars? b.reply.toList = some b.code.toList := by
  have hblock : fencedChars? b.reply.toList = some (trimRight (b.code.toList ++ ['\n'])) := by
    rw [toList_reply]
    exact fencedChars?_append b.front_no_backtick (afterOpening_tag b.tag_chars _)
      (fenceless_line b.code_no_fence)
  rw [hblock, trimRight_line b.code_end]

end Block

/-- The code of a block is read back from the reply that the block stands in. -/
theorem fenced?_reply (b : Block) : fenced? b.reply = some b.code := by
  rw [fenced?, b.fencedChars?_reply, Option.map_some, String.ofList_toList]

/-- Code with blank lines, indentation and other backticks, and a fence behind the block. -/
def indentedBlock : Block where
  front := "So:\n"
  tag := "py"
  code := "\n  a ``b``\n\n  c"
  back := "\n```"
  front_no_backtick := by decide
  tag_chars := List.all_eq_true.1 (by decide)
  code_no_fence := by decide
  code_end := by
    rintro c ⟨⟩
    decide

theorem fenced?_indentedBlock :
    fenced? "So:\n```py\n\n  a ``b``\n\n  c\n```\n```" = some "\n  a ``b``\n\n  c" :=
  fenced?_reply indentedBlock

end Scaffold.Reply
