import Scaffold.Generation.Content
import Scaffold.Plan.Prompt
import Scaffold.Provider.Runner
import Scaffold.Reply.Extract

/-!
# Content from a runner

The content provider that asks a runner for one file at a time and takes the content out of the
reply's code fence.
-/

namespace Scaffold.Generation
open Scaffold.Provider Scaffold.Workspace

/-- The content that a reply holds: the inside of its first fence unless that is empty, else the
whole reply. -/
def contentOf : Reply → Except Failure Reply
  | .text s =>
    match Reply.fenced? s with
    | some inside => .ok (.text (if inside.isEmpty then s else inside))
    | none => .ok (.text s)
  | .wide t =>
    match Reply.fencedSpan? t.shown.toList with
    | some (start, count) =>
      let inside := (t.drop start).take count
      .ok (.ofWide (if inside.isEmpty then t else inside))
    | none => .ok (.wide t)
  | .bytes b =>
    if b.isEmpty then .ok (.text "")
    else .error (.type "cannot use a string pattern on a bytes-like object")
  | .nothing => .ok (.text "")

/-- A failed request for a file; only failures of a run's stages become one. -/
def contentFailure (path : String) (f : Failure) : Failure :=
  if f.isRuntime then .content s!"Content request for {path} failed: {f.message}" else f

/-- Ask a runner for the content of a file. -/
def askRunner {ρ : Type} [Log.Journal ρ] (runner : Runner ρ) (summary : Summary) :
    ContentProvider ρ := fun prompt all path => do
  let prompts := Plan.contentPrompts prompt summary all path
  match ← runner.run prompts.user (some prompts.system) false with
  | .ok reply => return contentOf reply
  | .error f => return .error (contentFailure path f)

end Scaffold.Generation
