import Wiregen.Emit.Field
import Wiregen.Proofs.Schema.Comments
import Wiregen.Target.Spelling

/-!
# Comments as documentation

What a comment becomes in emitted code: its lines, each without white space around it, from the
first to the last that hold something, with one attribute for each (`documented_lines`).
-/

namespace Wiregen.Emit

open Schema (cleanComment)
open Target (docTokens words)

/-- The lines of a text become an attribute each. -/
theorem docTokens_docLines (ctx : Context) (text : List Char) :
    (docLines ctx (some (String.ofList text))).flatMap docTokens =
      if ctx.comments then
        (Text.lines text).flatMap fun line => docTokens (String.ofList (' ' :: line))
      else [] := by
  rw [docLines, String.toList_ofList]
  split
  next => exact List.flatMap_map _ docTokens _
  next => rfl

/-- A comment becomes a text of lines without white space at their ends, the first and the last of
which hold something. The text is empty exactly if the comment is blank. Its lines are those of the
comment, trimmed, but for empty ones before the first and behind the last, and it is these with a
line feed between each two; so it does not change when it is trimmed again. Where comments are
emitted, each line is one attribute. -/
theorem documented_lines (comment : String) :
    ∃ text, cleanComment comment.toList = text ∧
      (∀ line ∈ Text.lines text, Text.IsTrimmed line) ∧
      (text = [] ∨ ∃ first last, (Text.lines text).head? = some first ∧
        (Text.lines text).getLast? = some last ∧
        ¬ first.all Text.isBlank ∧ ¬ last.all Text.isBlank) ∧
      (text = [] ↔ ∀ c ∈ comment.toList, Text.isBlank c) ∧
      (∃ before behind,
        (Text.lines comment.toList).map Text.trim = before ++ Text.lines text ++ behind ∧
          ∀ line ∈ before ++ behind, line = []) ∧
      Text.joined '\n' (Text.lines text) = text ∧
      cleanComment text = text ∧
      ∀ ctx : Context, (docLines ctx (some (String.ofList text))).flatMap docTokens =
        if ctx.comments then
          (Text.lines text).flatMap fun line =>
            [.word "#", .group .brackets
              (words ["doc", "=", Text.literal (String.ofList (' ' :: line))])]
        else [] := by
  refine ⟨_, rfl, ?_, ?_, Schema.cleanComment_eq_nil_iff, ?_, ?_,
    Schema.cleanComment_cleanComment _, fun ctx => docTokens_docLines ctx _⟩
  · rw [Schema.lines_cleanComment]
    exact fun _ => Schema.isTrimmed_of_mem_keptLines
  · rw [Schema.lines_cleanComment]
    by_cases hkept : Schema.keptLines comment.toList = []
    · rw [Schema.cleanComment_eq, hkept]
      exact .inl rfl
    · have hfirst := List.head?_eq_some_head hkept
      have hlast := List.getLast?_eq_some_getLast hkept
      exact .inr ⟨_, _, hfirst, hlast, Schema.not_blank_of_end (.inl hfirst),
        Schema.not_blank_of_end (.inr hlast)⟩
  · rw [Schema.lines_cleanComment]
    exact Schema.exists_eq_keptLines _
  · rw [Schema.lines_cleanComment, ← Schema.cleanComment_eq]

/-- Every kind of line end goes, and the blank line between two others stays. -/
example : Text.lines (cleanComment "\n  In\rstore.\r\n\t\nOr not.\u2003\r\n \n".toList) =
    ["In\rstore.".toList, [], "Or not.".toList] := by
  decide

end Wiregen.Emit
