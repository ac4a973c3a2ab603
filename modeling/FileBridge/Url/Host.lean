import FileBridge.Domain.Basic
import FileBridge.Net.Address
import FileBridge.Text.Percent
import FileBridge.Text.Utf8
import FileBridge.Url.Error

/-!
The host of a URL: an address in brackets, an address of four bytes, or a domain. Before a host may
stand credentials, and after it a port.
-/
namespace FileBridge.Url

/-- A part of an address of four bytes: decimal, octal after a zero, or hexadecimal after `0x`. -/
def addressPart? (s : List Char) : Option Nat :=
  let inRadix (radix : Nat) (s : List Char) : Option Nat :=
    s.foldlM (fun n c => do
      let d ← Text.hexValue? c
      if d < radix then some (radix * n + d) else none) 0
  match s with
  | [] => none
  | '0' :: 'x' :: s => inRadix 16 s
  | '0' :: d :: s => inRadix 8 (d :: s)
  | s => inRadix 10 s

def labels (domain : List Char) : List (List Char) :=
  let all := Text.splitAt '.' domain
  if 1 < all.length && all.getLast? = some [] then all.dropLast else all

/-- A domain whose last label is a number is an address. -/
def endsInNumber (domain : List Char) : Bool :=
  match (labels domain).getLast? with
  | none => false
  | some last => (last ≠ [] && last.all Char.isDigit) || (addressPart? last).isSome

/-- An address of four bytes in up to four parts, of which the last fills what is left. -/
def isIpv4 (domain : List Char) : Bool :=
  let parts := (labels domain).map addressPart?
  if 4 < parts.length || parts.contains none then false
  else
    match (parts.filterMap id).reverse with
    | [] => false
    | last :: others => others.all (· ≤ 255) && last < Nat.pow 256 (4 - others.length)

def checkIpv6 (host : List Char) : Except UrlError Unit :=
  let inner := host.dropLast.drop 1
  if host.getLast? = some ']' && inner.contains ':' && (Net.Address.read? inner).isSome then .ok ()
  else .error .badIpv6

def checkHost (host : List Char) : Except UrlError (List Char) :=
  if host.head? = some '[' then (checkIpv6 host).map fun _ => host
  else
    let bytes := Text.percentDecode (Text.bytes (String.ofList host))
    match (Text.ofBytes? bytes).bind fun s => Domain.plain? s.toList with
    | none => .error .badDomain
    | some domain =>
      if domain = [] then .error .emptyHost
      else if endsInNumber domain && !isIpv4 domain then .error .badIpv4
      else .ok domain

def checkOpaqueHost (host : List Char) : Except UrlError Unit :=
  if host.head? = some '[' then checkIpv6 host
  else if host.any fun c => c.toNat = 0 ||
      [' ', '#', '/', ':', '<', '>', '?', '@', '[', '\\', ']', '^', '|'].contains c then
    .error .badHostCharacter
  else .ok ()

/-- A character that ends a host. A backslash does so only where the scheme is known. -/
def endsHost (known : Bool) (c : Char) : Bool :=
  c = '/' || c = '?' || c = '#' || (known && c = '\\')

/-- The host and the port after it. Colons in brackets belong to the host. -/
def splitPort (bracketed : Bool) : List Char → List Char × Option (List Char)
  | [] => ([], none)
  | c :: s =>
    if c = ':' && !bracketed then ([], some s)
    else
      let inside := if c = '[' then true else if c = ']' then false else bracketed
      let (host, port) := splitPort inside s
      (c :: host, port)

/-- Checks a port, which may be left out. A backslash ends it. -/
def checkPort (port : List Char) : Except UrlError Unit :=
  let digits := port.takeWhile (· ≠ '\\')
  if digits = [] || (Text.natural? digits).any (· ≤ 65535) then .ok () else .error .badPort

def checkServer (known : Bool) (host : List Char) (port : Option (List Char)) :
    Except UrlError Unit := do
  if known && host = [] then .error .emptyHost
  if known then
    let _ ← checkHost host
  else checkOpaqueHost host
  match port with
  | none => .ok ()
  | some port => if host = [] then .error .emptyHost else checkPort port

/-- Checks what stands between the slashes and the path. Credentials come before the last at sign,
and need a host after them unless they are a lone colon. -/
def checkAuthority (known : Bool) (s : List Char) : Except UrlError Unit := do
  let (authority, path) := s.span fun c => !endsHost known c
  let (host, port) := splitPort false (Text.afterLast '@' authority)
  if authority = ['@'] && path ≠ [] then .error .emptyHost
  checkServer known host port
  let credentials := Text.beforeLast '@' authority
  if host = [] && credentials ≠ [] && credentials ≠ [':'] then .error .emptyHost

end FileBridge.Url
