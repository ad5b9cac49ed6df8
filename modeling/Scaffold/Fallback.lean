import Scaffold.Plan.Path
import Scaffold.Json.Value
import Scaffold.Text.Blank
import Scaffold.Text.Case

/-!
# Substitutes

What stands in when the provider gives no usable answer: a fixed plan (`fallbackPlan`), and for a
file a comment that names the path and the prompt (`fallbackContent`).
-/

namespace Scaffold.Fallback
open Scaffold.Text

/-- The directories of the fixed plan. -/
def directories : List String :=
  ["src/components", "src/utils", "src/hooks", "src/styles", "src/assets"]

/-- The files of the fixed plan. -/
def files : List String :=
  ["src/components/Button.jsx", "src/components/Header.jsx", "src/components/Footer.jsx",
    "src/utils/helpers.js", "src/utils/constants.js", "src/hooks/useLocalStorage.js",
    "src/hooks/useApi.js", "src/styles/global.css", "src/styles/components.css"]

/-- The fixed plan, as a reply would give it. -/
def plan : Json :=
  .object [("paths", .array (directories.map .text)), ("files", .array (files.map .text))]

/-- How lines are made comments. -/
inductive CommentStyle
  | hash
  | markup
  | block
  | slashes
deriving Repr, DecidableEq

/-- Suffixes of files with `#` comments. -/
def hashSuffixes : List String :=
  [".py", ".sh", ".bash", ".rb", ".yml", ".yaml", ".toml", ".cfg", ".ini", ".r", ".pl", ".ps1",
    ".dockerfile", ".env", ".txt"]

/-- Suffixes of files with markup comments. -/
def markupSuffixes : List String :=
  [".html", ".htm", ".xml", ".md", ".vue", ".svg"]

/-- Suffixes of style sheets. -/
def blockSuffixes : List String :=
  [".css", ".scss", ".less"]

/-- The comments of a file with this name. -/
def CommentStyle.of (path : String) : CommentStyle :=
  let suffix := String.ofList (lowerChars (Plan.suffixOf path))
  if hashSuffixes.contains suffix then .hash
  else if markupSuffixes.contains suffix then .markup
  else if blockSuffixes.contains suffix then .block
  else .slashes

/-- A line as a comment. -/
def CommentStyle.wrap (line : String) : CommentStyle → String
  | hash => "# " ++ line
  | markup => "<!-- " ++ line ++ " -->"
  | block => "/* " ++ line ++ " */"
  | slashes => "// " ++ line

/-- The first line of a prompt, cut after 40 characters. -/
def label (prompt : String) : String :=
  let first := (prompt.toList.takeWhile (· != '\n')).take 40
  if first.isEmpty then "prompt" else String.ofList first

/-- The words of a prompt's first 120 characters. -/
def snippet (prompt : String) : String :=
  String.ofList ([' '].intercalate (words (prompt.toList.take 120)))

/-- A comment of three lines that names a path and its prompt. -/
def content (path prompt : String) : String :=
  let style := CommentStyle.of path
  let header :=
    [s!"Generated fallback for {path}", s!"Template: {label prompt}",
      s!"Prompt snippet: {snippet prompt}..."]
  "\n".intercalate (header.map fun line => style.wrap line) ++ "\n\n"

end Scaffold.Fallback
