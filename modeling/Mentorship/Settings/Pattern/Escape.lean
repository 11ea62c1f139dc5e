import Mentorship.Settings.Pattern.Flags
import Mentorship.Text.Digits

/-! Escapes: what a backslash and the characters after it stand for. -/

namespace Mentorship.Settings.Pattern

open Text

/-- A character, given as one byte if `octet`; a shorthand class or its complement; an edge of the
text, or of a word. -/
inductive Escape where
  | literal (c : Char) (octet : Bool)
  | shorthand (negated : Bool)
  | textEdge
  | wordEdge
  deriving DecidableEq, Repr

namespace Escape

/-! ### Reading -/

/-- Marks stand for themselves. -/
def isMark (c : Char) : Bool :=
  c.toNat ≤ Flags.lastAscii && !c.isAlphanum && c != '<' && c != '>'

def controls : List (Char × Char) :=
  [('a', '\x07'), ('f', '\x0c'), ('n', '\n'), ('r', '\r'), ('t', '\t'), ('v', '\x0b')]

/-- The number that `count` hexadecimal digits continue `n` to. -/
def takeHex? (f : Flags) : Nat → Nat → List Char → Option (Nat × List Char)
  | 0, n, cs => some (n, cs)
  | count + 1, n, cs =>
    match f.skip cs with
    | [] => none
    | c :: cs => (hexValue? c).bind fun digit => takeHex? f count (16 * n + digit) cs

/-- A character given by `count` hexadecimal digits. -/
def takeCode? (f : Flags) (count : Nat) (cs : List Char) : Option (Escape × List Char) := do
  let (n, cs) ← takeHex? f count 0 cs
  if n.isValidChar then some (.literal (Char.ofNat n) (count == 2), cs) else none

/-- An escape, after its backslash; there are no escapes with braces. -/
def take? (f : Flags) : List Char → Option (Escape × List Char)
  | [] => none
  | c :: cs =>
    if c == 'x' then takeCode? f 2 cs
    else if c == 'u' then takeCode? f 4 cs
    else if c == 'U' then takeCode? f 8 cs
    else if isMark c then some (.literal c false, cs)
    else if let some control := controls.lookup c then some (.literal control false, cs)
    else if c == 'd' || c == 's' || c == 'w' then some (.shorthand false, cs)
    else if c == 'D' || c == 'S' || c == 'W' then some (.shorthand true, cs)
    else if c == 'A' || c == 'z' then some (.textEdge, cs)
    else if c == 'b' || c == 'B' || c == '<' || c == '>' then some (.wordEdge, cs)
    else none

/-! ### Where escapes may stand -/

def isAllowed (f : Flags) : Escape → Bool
  | literal c octet => f.allowsLiteral c octet
  | shorthand negated => f.allowsShorthand negated
  | textEdge => true
  | wordEdge => f.allowsWordEdge

/-- Whether an escape may be the member of a class. -/
def isMember (f : Flags) : Escape → Bool
  | literal c _ => f.allowsMember c
  | shorthand negated => f.allowsShorthand negated
  | _ => false

end Escape

end Mentorship.Settings.Pattern
