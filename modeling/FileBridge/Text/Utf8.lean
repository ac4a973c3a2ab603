import FileBridge.Text.Decimal

/-!
Text as UTF-8 bytes, and where bytes stop being text.
-/
namespace FileBridge.Text

def bytes (s : String) : List UInt8 :=
  s.toUTF8.data.toList

def ofBytes? (b : List UInt8) : Option String :=
  String.fromUTF8? ⟨b.toArray⟩

/-- Where bytes stop being UTF-8: the index of the first byte that belongs to no character, and the
length of the sequence there, unless the bytes just end inside a character. -/
structure Utf8Fault where
  index : Nat
  length : Option Nat
deriving DecidableEq, Repr

def isTail (b : UInt8) : Bool :=
  0x80 ≤ b && b ≤ 0xbf

/-- A byte that may follow the first byte of a character of three or four bytes. Overlong forms,
surrogates and code points above the last one are left out. -/
def isSecond (a b : UInt8) : Bool :=
  if a = 0xe0 then 0xa0 ≤ b && b ≤ 0xbf
  else if a = 0xed then 0x80 ≤ b && b ≤ 0x9f
  else if a = 0xf0 then 0x90 ≤ b && b ≤ 0xbf
  else if a = 0xf4 then 0x80 ≤ b && b ≤ 0x8f
  else isTail b

def utf8Fault? (i : Nat) : List UInt8 → Option Utf8Fault
  | [] => none
  | a :: r =>
    if a < 0x80 then utf8Fault? (i + 1) r
    else if a < 0xc2 then some ⟨i, some 1⟩
    else if a < 0xe0 then
      match r with
      | [] => some ⟨i, none⟩
      | b :: r => if isTail b then utf8Fault? (i + 2) r else some ⟨i, some 1⟩
    else if a < 0xf0 then
      match r with
      | [] => some ⟨i, none⟩
      | b :: r =>
        if !isSecond a b then some ⟨i, some 1⟩
        else
          match r with
          | [] => some ⟨i, none⟩
          | c :: r => if isTail c then utf8Fault? (i + 3) r else some ⟨i, some 2⟩
    else if a < 0xf5 then
      match r with
      | [] => some ⟨i, none⟩
      | b :: r =>
        if !isSecond a b then some ⟨i, some 1⟩
        else
          match r with
          | [] => some ⟨i, none⟩
          | c :: r =>
            if !isTail c then some ⟨i, some 2⟩
            else
              match r with
              | [] => some ⟨i, none⟩
              | d :: r => if isTail d then utf8Fault? (i + 4) r else some ⟨i, some 3⟩
    else some ⟨i, some 1⟩

def Utf8Fault.message (f : Utf8Fault) : String :=
  match f.length with
  | some n =>
    "invalid utf-8 sequence of " ++ decimal n ++ " bytes from index " ++ decimal f.index
  | none => "incomplete utf-8 byte sequence from index " ++ decimal f.index

/-- The text of bytes, with U+FFFD for every sequence that is none. There are no more of them than
the first argument says. -/
def lossyUpTo : Nat → List UInt8 → String
  | 0, _ => ""
  | fuel + 1, b =>
    match utf8Fault? 0 b with
    | none => (ofBytes? b).getD ""
    | some f =>
      (ofBytes? (b.take f.index)).getD "" ++ "\ufffd" ++
        match f.length with
        | some n => lossyUpTo fuel (b.drop (f.index + n))
        | none => ""

/-- The text of bytes, with U+FFFD for every sequence that is none. -/
def lossy (b : List UInt8) : String :=
  lossyUpTo (b.length + 1) b

@[simp]
theorem ofBytes?_bytes (s : String) : ofBytes? (bytes s) = some s := by
  have h : (⟨s.toUTF8.data.toList.toArray⟩ : ByteArray) = s.toByteArray := rfl
  unfold ofBytes? bytes
  rw [h, String.fromUTF8?]
  simp [s.isValidUTF8, String.fromUTF8]

theorem eq_bytes_of_ofBytes? {b : List UInt8} {s : String} (h : ofBytes? b = some s) :
    b = bytes s := by
  unfold ofBytes? String.fromUTF8? at h
  split at h
  · cases h
    rfl
  · cases h

end FileBridge.Text
