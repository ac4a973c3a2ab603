import FileBridge.Text.Hex
import FileBridge.Yaml.Folding
import FileBridge.Yaml.Place

/-!
Scalars between quotes. Between single quotes a quote is written twice; between double quotes a
backslash starts an escape. No line of them may look like the start or the end of a document.
-/
namespace FileBridge.Yaml

def scanSingle (place : Place) : List Char → Option (Found (List Piece))
  | [] => none
  | '\x27' :: '\x27' :: s => (scanSingle (place.skip 2) s).map (.map (.char '\x27' :: ·))
  | '\x27' :: s => some ⟨[], place.skip 1, s⟩
  | c :: s =>
    if isBreak c && startsDocument s then none
    else (scanSingle (place.next c) s).map (.map (.of c :: ·))

def escaped? (c : Char) : Option Char :=
  match c with
  | '0' => some (.ofNat 0)
  | 'a' => some (.ofNat 0x07)
  | 'b' => some (.ofNat 0x08)
  | 't' => some '\t'
  | '\t' => some '\t'
  | 'n' => some '\n'
  | 'v' => some (.ofNat 0x0b)
  | 'f' => some (.ofNat 0x0c)
  | 'r' => some '\r'
  | 'e' => some (.ofNat 0x1b)
  | ' ' => some ' '
  | '"' => some '"'
  | '/' => some '/'
  | '\\' => some '\\'
  | 'N' => some '\u0085'
  | '_' => some '\u00a0'
  | 'L' => some '\u2028'
  | 'P' => some '\u2029'
  | _ => none

def codePoint? (digits : List Char) : Option Char := do
  let n ← digits.foldlM (fun n c => (Text.hexValue? c).map (16 * n + ·)) 0
  if n.isValidChar then some (.ofNat n) else none

def consChar (c : Option Char) (rest : Option (Found (List Piece))) : Option (Found (List Piece)) :=
  c.bind fun c => rest.map (.map (.char c :: ·))

def scanDouble (place : Place) : List Char → Option (Found (List Piece))
  | [] => none
  | '"' :: s => some ⟨[], place.skip 1, s⟩
  | ['\\'] => none
  | '\\' :: 'x' :: a :: b :: s => consChar (codePoint? [a, b]) (scanDouble (place.skip 4) s)
  | '\\' :: 'u' :: a :: b :: c :: d :: s =>
    consChar (codePoint? [a, b, c, d]) (scanDouble (place.skip 6) s)
  | '\\' :: 'U' :: a :: b :: c :: d :: e :: f :: g :: h :: s =>
    consChar (codePoint? [a, b, c, d, e, f, g, h]) (scanDouble (place.skip 10) s)
  | '\\' :: c :: s =>
    if !isBreak c then consChar (escaped? c) (scanDouble (place.skip 2) s)
    else if startsDocument s then none
    else (scanDouble ((place.skip 1).next c) s).map (.map (.splice :: ·))
  | c :: s =>
    if isBreak c && startsDocument s then none
    else (scanDouble (place.next c) s).map (.map (.of c :: ·))

end FileBridge.Yaml
