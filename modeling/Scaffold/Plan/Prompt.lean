import Scaffold.Plan.Path
import Scaffold.Workspace.Listing

/-!
# Prompts

The two texts of a request: what the assistant is told about its task, and what the user asks for.
`planPrompts` asks for a plan, `contentPrompts` for the content of one file.
-/

namespace Scaffold.Plan
open Scaffold.Workspace

/-- The texts of a request. -/
structure Prompts where
  system : String
  user : String
deriving Repr, DecidableEq

/-- Lines with line ends between them. -/
def lines (ls : List String) : String :=
  "\n".intercalate ls

/-- Which kinds a plan may hold, in words. -/
def kindRule (kinds : List Kind) : String :=
  match kinds.contains .directory, kinds.contains .file with
  | true, false => "directories only (no files)"
  | false, true => "files only (no directories)"
  | _, _ => "include both directories and files"

/-- The first values of a list, with dots if there are more. -/
def excerpt (values : List String) (limit : Nat) : String :=
  let shown := ", ".intercalate (values.take limit)
  if limit < values.length then shown ++ "..." else shown

/-- Values as a list of bullets. -/
def bullets (values : List String) : String :=
  if values.isEmpty then "- (none)" else lines (values.map fun v => "- " ++ v)

/-- What the assistant is told about planning. -/
def planSystem (directories files rule : String) (total : Int) : String :=
  lines [
    "You are an assistant that designs directory and file layouts for software projects.",
    "",
    "## Responsibilities",
    "- Design files and folders that fit the user's request.",
    "- Take the current workspace into account and avoid duplicating what exists.",
    "- Follow the conventions of the languages and frameworks involved.",
    "",
    "## Current workspace",
    s!"- Existing directories: {directories}",
    s!"- Existing files: {files}",
    s!"- Total: {total} paths",
    "",
    "## Rules",
    "1. Relative paths only: no absolute paths, no drive letters, never start with /.",
    "2. Never use \"..\" to refer to a parent directory.",
    "3. Reply with a single valid JSON object and nothing else.",
    "4. Avoid paths that already exist in the workspace.",
    s!"5. Path kinds: {rule}",
    "6. Use descriptive names that follow the language or framework conventions.",
    "7. Build a sensible hierarchy.",
    "8. Include every file that another planned file imports.",
    "9. Reuse existing files when that is the better fit.",
    "",
    "## Reply format",
    "```json",
    "\x7b",
    "  \"paths\": [\"src/components\", \"src/utils\"],",
    "  \"files\": [\"src/components/Header.jsx\", \"src/utils/helpers.js\"]",
    "\x7d",
    "```",
    "",
    "When only one kind is requested, omit the other key:",
    "```json",
    "\x7b",
    "  \"paths\": [\"src/components\", \"src/utils\"]",
    "\x7d",
    "```",
    "",
    "## Examples",
    "**React component:**",
    "- paths: [\"src/components\", \"src/hooks\", \"src/utils\"]",
    "- files: [\"src/components/Button.jsx\", \"src/components/Header.jsx\", \"src/hooks/useLocalStorage.js\"]",
    "",
    "**Node.js API:**",
    "- paths: [\"src/routes\", \"src/controllers\", \"src/models\", \"src/middleware\"]",
    "- files: [\"src/routes/user.js\", \"src/controllers/userController.js\", \"src/models/User.js\"]",
    "",
    "**Python package:**",
    "- paths: [\"package_name\", \"package_name/utils\", \"tests\"]",
    "- files: [\"package_name/__init__.py\", \"package_name/main.py\", \"tests/test_main.py\"]",
    ""]

/-- What the user asks of a plan. -/
def planUser (instructions rule : String) : String :=
  lines [
    "## Request",
    s!"{instructions}",
    "",
    "## Notes",
    s!"- Path kinds: {rule}",
    "- The workspace already has content; avoid duplicates.",
    "- Produce a complete structure that fits the request.",
    "",
    "Reply with a JSON object containing only \"paths\" and \"files\"."]

/-- The texts that ask for a plan. -/
def planPrompts (instructions : String) (summary : Summary) (kinds : List Kind) : Prompts :=
  let rule := kindRule kinds
  ⟨planSystem (excerpt summary.directories 20) (excerpt summary.files 10) rule summary.total,
    planUser instructions rule⟩

/-- What the assistant is told about writing a file. -/
def contentSystem (extension : String) : String :=
  lines [
    "You generate source files that match a given prompt and stay consistent with the other files in the same set.",
    "",
    "Requirements:",
    "- Return the content of the single requested file only.",
    "- Include the complete file with every import and function it needs.",
    s!"- The extension is .{extension}; write in that language.",
    "- Do not add explanations or any text outside the file content.",
    "- If you use a code fence, tag it with the file's language."]

/-- What the user asks of a file. -/
def contentUser (prompt all related target directories files : String) : String :=
  lines [
    "Main prompt:",
    s!"{prompt}",
    "",
    "All files being generated:",
    s!"{all}",
    "",
    "Other related files:",
    s!"{related}",
    "",
    s!"Generate the file at path: {target}",
    "Existing workspace (partial):",
    s!"- Directories: {directories}",
    s!"- Files: {files}",
    "",
    "Return the file content only."]

/-- The extension of a file without its dot, or `plain`. -/
def extensionOf (path : String) : String :=
  match suffixOf path with
  | [] => "plain"
  | _ :: cs => String.ofList cs

/-- The texts that ask for the content of one file. -/
def contentPrompts (prompt : String) (summary : Summary) (all : List String) (target : String) :
    Prompts :=
  ⟨contentSystem (extensionOf target),
    contentUser prompt (bullets all) (bullets (all.filter (· != target))) target
      (excerpt summary.directories 20) (excerpt summary.files 20)⟩

end Scaffold.Plan
