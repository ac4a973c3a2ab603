import FileBridge.Url.Host
import FileBridge.Url.Path

/-!
Parsing of URLs, as far as it decides which file one names. White space around a URL does not
count, nor do line ends inside it.
-/
namespace FileBridge

/-- A URL: a file, perhaps on another machine, with its path; or something of another scheme. -/
inductive Url where
  | file (remote : Bool) (path : List Char)
  | other (scheme : String)
deriving DecidableEq, Repr

namespace Url

/-- The schemes besides `file` whose URLs have a host. -/
def hostSchemes : List String :=
  ["http", "https", "ws", "wss", "ftp"]

/-- A control character or a space. -/
def isOuter (c : Char) : Bool :=
  c.toNat ≤ 0x20

def trim (s : List Char) : List Char :=
  ((s.dropWhile isOuter).reverse.dropWhile isOuter).reverse

def isSchemeChar (c : Char) : Bool :=
  c.isAlphanum || c = '+' || c = '-' || c = '.'

def splitScheme? (s : List Char) : Option (String × List Char) := do
  let (before, rest) ← Text.cutFirst? ':' s
  let scheme := counted before
  if scheme.head?.any Char.isAlpha && scheme.all isSchemeChar then
    some (Text.lower (String.ofList scheme), rest)
  else none

def afterSlash? (s : List Char) : Option (List Char) :=
  match s.dropWhile isIgnored with
  | [] => none
  | c :: s => if c = '/' || c = '\\' then some s else none

/-- A file on another machine or on this one. A path that starts with a drive is on this one. -/
def ofPath (remote : Bool) (path : Path) : Url :=
  .file (remote && !path.hasDrive) path.text

def parseFileHost (s : List Char) : Except UrlError Url :=
  let (before, rest) := s.span fun c => !endsHost true c
  let host := counted before
  if isDrive host then .ok (ofPath false (.parse ['/'] s))
  else if host = [] then .ok (ofPath false (.parse [] rest))
  else
    (checkHost host).map fun domain =>
      if domain = "localhost".toList then ofPath false (.parse [] rest)
      else ofPath true (.parse ['/'] ((afterSlash? rest).getD rest))

def parseFile (s : List Char) : Except UrlError Url :=
  match afterSlash? s with
  | none => .ok (ofPath false (.parse ['/'] s))
  | some rest =>
    match afterSlash? rest with
    | none => .ok (ofPath false (.parse [] s))
    | some rest => parseFileHost rest

def parse (s : String) : Except UrlError Url :=
  match splitScheme? (trim s.toList) with
  | none => .error .noScheme
  | some (scheme, rest) =>
    if scheme = "file" then parseFile rest
    else
      let rest := counted rest
      if hostSchemes.contains scheme then
        (checkAuthority true (rest.dropWhile fun c => c = '/' || c = '\\')).map fun _ =>
          .other scheme
      else
        match rest with
        | '/' :: '/' :: rest => (checkAuthority false rest).map fun _ => .other scheme
        | _ => .ok (.other scheme)

end Url

end FileBridge
