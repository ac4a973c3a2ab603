import FileBridge.Error
import FileBridge.Yaml.Pairs
import FileBridge.Yaml.Writer

/-!
Settings in a file. The file holds a YAML mapping with a subset of the settings; the others have
their defaults.
-/
namespace FileBridge.Config

open Yaml

/-- A scalar may denote a number: it stands without quotes, or it is literal and has the tag of
integers. -/
def mayBeNumber (s : Scalar) : Bool :=
  s.style = .plain || (s.style = .literal && s.tag = some .integer)

def natural? (bits : Nat) (s : Scalar) : Option Nat :=
  if mayBeNumber s then (Yaml.natural? s.text.toList).filter (· < Nat.pow 2 bits) else none

/-- One of some values by its name, or by a tag of that name before nothing. -/
def choice? {α : Type} (values : List α) (name : α → String) (s : Scalar) : Option α :=
  match s.tag.bind Tag.local? with
  | some tag =>
    if s.style = .plain && isNull s.text then values.find? fun a => name a = tag else none
  | none => values.find? fun a => name a = s.text

/-- The directory to serve: nothing stands for the whole disk. A tag makes a text of it, except the
tag of nothing. -/
def root? (s : Scalar) : Option (Option String) :=
  if s.style ≠ .plain then some (some s.text)
  else
    match s.tag with
    | none => some (if isNull s.text then none else some s.text)
    | some tag =>
      if tag ≠ .null then some (some s.text)
      else if nullWords.contains s.text then some none
      else none

def isEmptyList (s : Scalar) : Bool :=
  s.style = .plain && s.text = ""

def assign? (c : Config) (pair : String × Value) : Option Config :=
  match pair with
  | (name, .scalar s) =>
    if name = "bind-address" then
      (Net.Address.read? s.text.toList).map fun a => { c with bindAddress := a }
    else if name = "port" then (natural? 16 s).map fun n => { c with port := n }
    else if name = "guarded-schemes" then
      if isEmptyList s then some { c with guardedSchemes := [] } else none
    else if name = "backend" then
      (choice? Backend.all Backend.name s).map fun b => { c with backend := b }
    else if name = "root" then (root? s).map fun r => { c with root := r }
    else if name = "error-codes" then
      (choice? CodeMode.all CodeMode.name s).map fun m => { c with errorCodes := m }
    else if name = "max-message-size" then
      (natural? 64 s).map fun n => { c with maxMessageSize := n }
    else none
  | (name, .list items) =>
    if name = "guarded-schemes" then some { c with guardedSchemes := items.map Scalar.text }
    else none

/-- The settings that pairs make. No name may occur twice. -/
def ofPairs? (pairs : List (String × Value)) : Option Config :=
  if (pairs.map Prod.fst).Nodup then pairs.foldlM assign? default else none

def ofYaml? (s : List Char) : Option Config :=
  (pairs? s).bind ofPairs?

def yaml (c : Config) : List Char :=
  scalarPair "bind-address" c.bindAddress.text ++ numberPair "port" c.port ++
    listPair "guarded-schemes" c.guardedSchemes ++ scalarPair "backend" c.backend.name ++
    (match c.root with
      | some root => scalarPair "root" root
      | none => []) ++
    scalarPair "error-codes" c.errorCodes.name ++ numberPair "max-message-size" c.maxMessageSize

def checked (c : Config) : Except BridgeError Config :=
  (c.validate.mapError .config).map fun _ => c

/-- Loads settings from the bytes of a file, or from the failure to read them. -/
def load (file : String) (content : Except String (List UInt8)) : Except BridgeError Config :=
  match content with
  | .error cause => .error (.io cause)
  | .ok bytes =>
    match Text.ofBytes? bytes with
    | none => .error (.io "stream did not contain valid UTF-8")
    | some text =>
      match ofYaml? text.toList with
      | none => .error (.config (.unreadable file))
      | some c => c.checked

end FileBridge.Config
