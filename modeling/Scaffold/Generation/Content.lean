import Scaffold.Fallback
import Scaffold.Reply.Basic
import Scaffold.Log.Record

/-!
# Content of a file

`requestContent` asks for the content of one file and substitutes a comment when asking fails. It
fails itself only when that failure cannot be put into words.
-/

namespace Scaffold.Generation

/-- A way to have the content of a file written: the prompt, all files, and the file's path. -/
abbrev ContentProvider (ρ : Type) := String → List String → String → StateM ρ (Except Failure Reply)

/-- What a file is written with. -/
structure Content where
  text : Text.Wide
  /-- the text stands in for a failed request -/
  fallback : Bool
  reason : Option String
deriving Repr, DecidableEq

/-- The content that stands in for a failed request. -/
def Content.substitute (path prompt reason : String) : Content :=
  ⟨.ofString (Fallback.content path prompt), true, some reason⟩

/-- Ask for the content of a file. -/
def requestContent {ρ : Type} [Log.Journal ρ] (provider : ContentProvider ρ) (prompt : String)
    (all : List String) (path : String) : StateM ρ (Except Failure Content) := do
  match ← provider prompt all path with
  | .ok reply => return .ok ⟨reply.asText, false, none⟩
  | .error f =>
    Log.note .warning "generation"
      s!"Content generation failed for {path}; writing fallback content: {f.message}"
    return f.wording.map (Content.substitute path prompt)

end Scaffold.Generation
