import Scaffold.Text.Wide

/-!
# Failures

Everything that can go wrong, by cause, and the wording of each (`Failure.message`). Callers catch
failures by family: `isDomain` holds of the failures of this library's own stages, `isRuntime` of
those that planning and content requests mask, `isSystem` of those of the operating system.
-/

namespace Scaffold

/-- What the operating system objects to. -/
inductive SystemCause
  | noEntry
  | entryExists
  | notDirectory
  | isDirectory
  | nameTooLong
  | linkLoop
deriving Repr, DecidableEq

/-- The number of a cause. -/
def SystemCause.code : SystemCause → Nat
  | noEntry => 2
  | entryExists => 17
  | notDirectory => 20
  | isDirectory => 21
  | nameTooLong => 36
  | linkLoop => 40

/-- The wording of a cause. -/
def SystemCause.message : SystemCause → String
  | noEntry => "No such file or directory"
  | entryExists => "File exists"
  | notDirectory => "Not a directory"
  | isDirectory => "Is a directory"
  | nameTooLong => "File name too long"
  | linkLoop => "Too many levels of symbolic links"

/-- A refusal of the operating system, with the path it is about. -/
structure SystemFault where
  cause : SystemCause
  path : String
deriving Repr, DecidableEq

/-- The full wording of a refusal. -/
def SystemFault.message (f : SystemFault) : String :=
  s!"[Errno {f.cause.code}] {f.cause.message}: {Text.quoted f.path}"

/-- Why a path is no path of a plan. -/
inductive PathFault
  | absolute
  | parentReference
  | empty
deriving Repr, DecidableEq

/-- The wording of a path's fault. -/
def PathFault.message : PathFault → String
  | absolute => "Absolute paths not allowed"
  | parentReference => "Parent directory references not allowed"
  | empty => "Path is empty"

/-- Why the text-generation provider gives no answer. -/
inductive ProviderFault
  | noKey
  /-- a status that is not a success, with the reply's text or the status' name -/
  | status (code : Int) (detail : String)
  | unreachable (reason : String)
  | invalidJson
  | noContent
  | unexpectedPayload
  | unexpectedListing
  | other (message : String)
deriving Repr, DecidableEq

/-- The wording of a provider's fault. -/
def ProviderFault.message : ProviderFault → String
  | noKey =>
    "API key is not set. Configure llm.api_key in .pathgen.yml or export PATHGEN_LLM_API_KEY."
  | status code detail => s!"Provider request failed with status {code}: {detail}"
  | unreachable reason => s!"Provider request failed: {reason}"
  | invalidJson => "Provider returned invalid JSON"
  | noContent => "No response content from provider"
  | unexpectedPayload => "Provider returned an unexpected payload"
  | unexpectedListing => "Provider returned an unexpected model listing"
  | other message => message

/-- Why the template store refuses. -/
inductive StoreFault
  | notFound (key : String)
  | nameRequired
  | nameTaken
  | contentRequired
  | unwritable (path : String) (fault : SystemFault)
  | unreadable (path : String) (fault : SystemFault)
  /-- the store's file is not JSON -/
  | malformed (path : String)
deriving Repr, DecidableEq

/-- The wording of a store's fault. -/
def StoreFault.message : StoreFault → String
  | notFound key => s!"Template not found: {key}"
  | nameRequired => "Name is required"
  | nameTaken => "A template with this name already exists"
  | contentRequired => "Prompt template content is required"
  | unwritable path fault => s!"Unable to write template store {path}: {fault.message}"
  | unreadable path fault => s!"Unable to read template store {path}: {fault.message}"
  | malformed path => s!"Unable to read template store {path}: <json error>"

/-- Why a configuration is refused. -/
inductive ConfigFault
  | malformed (file : String)
  | notMapping (file : String)
  | unknownKind (kind : String)
  | noKinds
deriving Repr, DecidableEq

/-- The wording of a configuration's fault. -/
def ConfigFault.message : ConfigFault → String
  | malformed file => s!"Failed to parse {file}: <yaml error>"
  | notMapping file => s!"{file} must contain a mapping at the root"
  | unknownKind kind => s!"Unknown path kind in generation.kinds: {Text.quoted kind}"
  | noKinds => "generation.kinds must list at least one of: directory, file"

/-- A failure, by cause. -/
inductive Failure
  /-- a path that a plan cannot hold -/
  | invalidPath (path reason : String)
  /-- a reply without JSON -/
  | malformedReply (text : String)
  /-- a path that cannot be created, examined or written -/
  | fileSystem (path reason : String)
  /-- the content of a file could not be had -/
  | content (message : String)
  | provider (fault : ProviderFault)
  | store (fault : StoreFault)
  /-- another failure of this library's stages -/
  | general (message : String)
  | config (fault : ConfigFault)
  | system (fault : SystemFault)
  /-- a failure of the system's that names no path -/
  | systemText (message : String)
  | timeout (message : String)
  | runtime (message : String)
  /-- something is nested too deeply -/
  | depth (message : String)
  | value (message : String)
  /-- a value of the wrong type -/
  | type (message : String)
  /-- bytes that are no text -/
  | undecodable
  /-- a text that has no bytes -/
  | unencodable (halves : Text.Halves)
  /-- a failure that has no wording; whoever asks for it meets a type failure of this message -/
  | wordless (message : String)
  /-- a number beyond all doubles -/
  | overflow
  /-- a word outside a fixed list -/
  | unlisted
  /-- a text without the character that is asked for -/
  | outOfText
  /-- a text that does not have the form that is asked for -/
  | unmatched
deriving Repr, DecidableEq

namespace Failure

/-- A reply on one line, cut after 200 characters. -/
def excerpt (text : String) : String :=
  String.ofList ([' '].intercalate (Text.words text.toList) |>.take 200)

/-- The wording of a failure, which is empty if it has none. -/
def message : Failure → String
  | invalidPath path reason => s!"{reason}: {Text.quoted path}"
  | malformedReply text => s!"Invalid JSON response: {excerpt text}"
  | fileSystem path reason => s!"{path}: {reason}"
  | content message => message
  | provider fault => fault.message
  | store fault => fault.message
  | general message => message
  | config fault => fault.message
  | system fault => fault.message
  | systemText message => message
  | timeout message => message
  | runtime message => message
  | depth message => message
  | value message => message
  | type message => message
  | undecodable => "invalid UTF-8"
  | unencodable halves => halves.message
  | wordless _ => ""
  | overflow => "int too large to convert to float"
  | unlisted => "unknown word"
  | outOfText => "string index out of range"
  | unmatched => "no match"

/-- The failure of writing a whole number with too many digits. -/
def tooManyDigits : Failure :=
  .value ("Exceeds the limit (4300 digits) for integer string conversion; " ++
    "use sys.set_int_max_str_digits() to increase the limit")

/-- The wording of a failure, asked for where it must have one. -/
def wording : Failure → Except Failure String
  | wordless message => .error (.type message)
  | f => .ok f.message

/-- A failure of this library's own stages. -/
def isDomain : Failure → Bool
  | invalidPath .. | malformedReply _ | fileSystem .. | content _ | provider _ | store _
  | general _ => true
  | _ => false

/-- A failure that planning and content requests mask. -/
def isRuntime : Failure → Bool
  | config _ | runtime _ | depth _ => true
  | f => f.isDomain

/-- A failure of the operating system. -/
def isSystem : Failure → Bool
  | system _ | systemText _ | timeout _ => true
  | _ => false

end Failure

end Scaffold
