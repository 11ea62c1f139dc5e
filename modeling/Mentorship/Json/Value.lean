import Mentorship.Text.Digits

/-! JSON values and their text over several lines, each level indented by two spaces. -/

namespace Mentorship.Json

inductive Value where
  | null
  | bool (b : Bool)
  | int (n : Int)
  | string (s : String)
  | list (xs : List Value)
  | object (members : List (String × Value))

namespace Value

def escapedChar (c : Char) : List Char :=
  if c == '"' || c == '\\' then ['\\', c]
  else if c == '\n' then ['\\', 'n']
  else if c == '\r' then ['\\', 'r']
  else if c == '\t' then ['\\', 't']
  else if c == '\x08' then ['\\', 'b']
  else if c == '\x0c' then ['\\', 'f']
  else if c < ' ' then ['\\', 'u'] ++ (Nat.toDigits 16 c.toNat).leftpad 4 '0'
  else [c]

def quoted (s : String) : String :=
  String.ofList ('"' :: s.toList.flatMap escapedChar ++ ['"'])

def newline (depth : Nat) : String :=
  "\n" ++ String.ofList (List.replicate (2 * depth) ' ')

/-- Items between two brackets, each on a line of its own. -/
def block (depth : Nat) (opening closing : String) (items : List String) : String :=
  if items.isEmpty then opening ++ closing
  else
    opening ++ newline (depth + 1) ++ (("," ++ newline (depth + 1)).intercalate items) ++
      newline depth ++ closing

def render (depth : Nat) : Value → String
  | null => "null"
  | bool b => if b then "true" else "false"
  | int n => toString n
  | string s => quoted s
  | list xs => block depth "[" "]" (xs.map (render (depth + 1)))
  | object members =>
    block depth "\x7b" "\x7d" (members.attach.map fun ⟨(key, value), _⟩ =>
      quoted key ++ ": " ++ render (depth + 1) value)
termination_by v => sizeOf v
decreasing_by
  · rename_i h
    have := List.sizeOf_lt_of_mem h
    simp; omega
  · rename_i h
    have := List.sizeOf_lt_of_mem h
    simp at this ⊢; omega

def text (v : Value) : String :=
  v.render 0

end Value

end Mentorship.Json
