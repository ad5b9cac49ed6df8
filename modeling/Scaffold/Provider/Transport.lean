import Scaffold.Failure
import Scaffold.Decimal.Number
import Scaffold.Text.Split

/-!
# Transport

One exchange with a server: a request goes out, and a body, a status, or a failure comes back. What
carries it is a `Transport`.
-/

namespace Scaffold.Provider

/-- A request to a server. -/
structure WebRequest where
  url : String
  method : String
  headers : List (String × String)
  body : Option String
  timeout : Number

/-- What comes back. -/
inductive WebReply
  | body (content : ByteArray)
  /-- a status that is not a success, with its name and the body -/
  | status (code : Int) (name : String) (content : ByteArray)
  | unreachable (reason : String)
  /-- another failure on the way -/
  | broken (failure : Failure)

/-- A carrier of requests. -/
abbrev Transport (ρ : Type) := WebRequest → StateM ρ WebReply

namespace Url
open Scaffold.Text

/-- A URL in angle brackets or after `URL:` without them. -/
def unwrap (s : String) : List Char :=
  let cs := trim s.toList
  let cs :=
    if cs.head? == some '<' && cs.getLast? == some '>' then trim (cs.drop 1).dropLast else cs
  if "URL:".toList.isPrefixOf cs then trim (cs.drop 4) else cs

/-- Some text and a colon stand before the first slash. -/
def hasScheme (cs : List Char) : Bool :=
  match cs.span fun c => c != ':' && c != '/' with
  | (_ :: _, ':' :: _) => true
  | _ => false

/-- A URL as it is sent, without an empty fragment, or the failure of one without a scheme. -/
def check (s : String) : Except Failure String :=
  let cs := unwrap s
  let (front, fragment) :=
    match cutLast '#' cs with
    | (some front, fragment) => (front, fragment)
    | (none, all) => (all, [])
  let full := String.ofList (if fragment.isEmpty then front else front ++ '#' :: fragment)
  if hasScheme front then .ok full
  else .error (.value s!"unknown url type: {Text.quoted full}")

end Url

end Scaffold.Provider
