import Mentorship.Text.CasingTable

/-! Lower-casing of whole texts: single letters by table, `İ` to two characters, and a capital sigma
by its place in the word. -/

namespace Mentorship.Text

/-! ### ASCII -/

/-- Lowers the letters `A` to `Z` and leaves all else alone. -/
def lowerAscii (s : String) : String :=
  String.ofList (s.toList.map Char.toLower)

/-! ### All letters -/

def LowerRun.last (r : LowerRun) : Nat :=
  r.first + (r.count - 1) * r.stride

def LowerRun.covers (r : LowerRun) (n : Nat) : Bool :=
  r.first ≤ n && n ≤ r.last && (n - r.first) % r.stride == 0

/-- The lower form of `c` outside any text. -/
def lowerChar (c : Char) : List Char :=
  if c == 'İ' then ['i', '\u0307']
  else
    match lowerRuns.find? (·.covers c.toNat) with
    | some r => [Char.ofNat ((c.toNat : Int) + r.shift).toNat]
    | none => [c]

/-- Whether a cased letter comes first once ignorable characters are passed over. -/
def meetsCased (cs : List Char) : Bool :=
  (cs.dropWhile caseIgnorableTable.has).head?.any casedTable.has

/-- A capital sigma ends its word when a letter comes before it and none after it; `before` is
reversed. -/
def endsWord (before after : List Char) : Bool :=
  meetsCased before && !meetsCased after

/-- Lowers the characters `cs` that follow `before`, which is reversed. -/
def lowerAfter (before : List Char) : List Char → List Char
  | [] => []
  | c :: cs =>
    (if c == 'Σ' then [if endsWord before cs then 'ς' else 'σ'] else lowerChar c) ++
      lowerAfter (c :: before) cs

def lowercaseChars (cs : List Char) : List Char :=
  lowerAfter [] cs

def lowercase (s : String) : String :=
  String.ofList (lowercaseChars s.toList)

end Mentorship.Text
