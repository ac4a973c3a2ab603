/-!
Cutting a text at a character.
-/
namespace FileBridge.Text

def cutFirst? (c : Char) (s : List Char) : Option (List Char × List Char) :=
  match s.span (· ≠ c) with
  | (_, []) => none
  | (before, _ :: after) => some (before, after)

def dropTrailing (c : Char) (s : List Char) : List Char :=
  (s.reverse.dropWhile (· = c)).reverse

/-- The part after the last occurrence of a character, or all of it. -/
def afterLast (c : Char) (s : List Char) : List Char :=
  (s.reverse.takeWhile (· ≠ c)).reverse

/-- The part before the last occurrence of a character, or nothing. -/
def beforeLast (c : Char) (s : List Char) : List Char :=
  ((s.reverse.dropWhile (· ≠ c)).drop 1).reverse

/-- The pieces between the occurrences of a character; one more than there are occurrences. -/
def splitAt (c : Char) (s : List Char) : List (List Char) :=
  s.foldr (fun d pieces =>
    if d = c then [] :: pieces
    else
      match pieces with
      | [] => [[d]]
      | piece :: rest => (d :: piece) :: rest) [[]]

def lower (s : String) : String :=
  String.ofList (s.toList.map Char.toLower)

end FileBridge.Text
