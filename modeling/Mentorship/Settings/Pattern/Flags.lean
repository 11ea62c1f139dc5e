import Mentorship.Text.Blank

/-! Ways to read a pattern: flags, what they allow, and blanks that are passed over. Letters of both
cases and shorthand classes reach beyond ASCII unless a pattern is read by bytes, and are refused
there; by bytes, what could match a part of a character is refused. -/

namespace Mentorship.Settings.Pattern

open Text

/-- Letters may be alike in both cases, a pattern may match bytes in place of characters, and blanks
may be passed over. -/
structure Flags where
  caseless : Bool := false
  byBytes : Bool := false
  spaced : Bool := false

namespace Flags

/-! ### What is allowed -/

def lastAscii : Nat := 0x7F

/-- A character by itself; `octet` tells whether it was given as one byte. -/
def allowsLiteral (f : Flags) (c : Char) (octet : Bool) : Bool :=
  if f.byBytes then !octet || c.toNat ≤ lastAscii else !f.caseless

/-- A character as the member of a class. -/
def allowsMember (f : Flags) (c : Char) : Bool :=
  if f.byBytes then c.toNat ≤ lastAscii else !f.caseless

/-- A class of ASCII characters with a name, or its complement. -/
def allowsNamed (f : Flags) (negated : Bool) : Bool :=
  if f.byBytes then !negated else !f.caseless

/-- The class of digits, of blanks or of word characters, or its complement. -/
def allowsShorthand (f : Flags) (negated : Bool) : Bool :=
  f.byBytes && !negated

/-- The complement of a class in brackets, or of the line feed. -/
def allowsComplement (f : Flags) : Bool :=
  !f.byBytes

def allowsWordEdge (f : Flags) : Bool :=
  f.byBytes

/-! ### Blanks -/

/-- What follows blanks and comments; `comment` tells whether one is open. -/
def skipSpaces (comment : Bool) : List Char → List Char
  | [] => []
  | c :: cs =>
    if comment then skipSpaces (c != '\n') cs
    else if isBlank c then skipSpaces false cs
    else if c == '#' then skipSpaces true cs
    else c :: cs

def skip (f : Flags) (cs : List Char) : List Char :=
  if f.spaced then skipSpaces false cs else cs

/-- The next character that counts; here a comment has no text but its mark. -/
def peek? (f : Flags) (cs : List Char) : Option Char :=
  if f.spaced then
    match trimStartChars cs with
    | '#' :: cs => (trimStartChars cs).head?
    | cs => cs.head?
  else cs.head?

/-! ### Change -/

def letters : List Char := ['i', 'm', 's', 'U', 'u', 'R', 'x', '-']

/-- Whether characters can stand for a change of flags: each at most once, and a flag behind the
dash that turns flags off. -/
def isChange (cs : List Char) : Bool :=
  cs.all letters.contains && decide cs.Nodup && cs.getLast? != some '-'

/-- What a change says about a flag, if anything. -/
def stateOf? (cs : List Char) (letter : Char) : Option Bool :=
  if cs.contains letter then some (!(cs.dropWhile (· != '-')).contains letter) else none

def change (f : Flags) (cs : List Char) : Flags where
  caseless := (stateOf? cs 'i').getD f.caseless
  byBytes := ((stateOf? cs 'u').map (!·)).getD f.byBytes
  spaced := (stateOf? cs 'x').getD f.spaced

end Flags

end Mentorship.Settings.Pattern
