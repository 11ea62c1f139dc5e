import Mentorship.Settings.Pattern.Escape

/-! Classes of characters in brackets: members and ranges, classes inside of classes, and operators
between them. Of a class only its depth is kept. -/

namespace Mentorship.Settings.Pattern

/-- The depth of parts that stand together, which is one more than theirs if they are several. -/
def together : List Nat → Nat
  | [] => 0
  | [depth] => depth
  | depths => depths.foldl Nat.max 0 + 1

/-- An open class: whether it has only dashes yet, the depths of its members since the last
operator, and the depth of what stands before that. -/
structure Bracket where
  opening : Bool := true
  members : List Nat := []
  left : Option Nat := none

namespace Bracket

def depth (b : Bracket) : Nat :=
  match b.left with
  | none => together b.members
  | some left => Nat.max left (together b.members) + 1

def add (b : Bracket) (depth : Nat) : Bracket :=
  { b with opening := false, members := depth :: b.members }

/-- The class after an operator. -/
def operate (b : Bracket) : Bracket where
  opening := false
  left := some b.depth

/-! ### Members -/

def classNames : List String :=
  ["alnum", "alpha", "ascii", "blank", "cntrl", "digit", "graph", "lower", "print", "punct",
    "space", "upper", "word", "xdigit"]

/-- A named class after its bracket, and whether its complement is meant. -/
def takeNamed? : List Char → Option (Bool × List Char)
  | ':' :: cs =>
    let (negated, cs) := match cs with
      | '^' :: cs => (true, cs)
      | _ => (false, cs)
    match cs.dropWhile (· != ':') with
    | ':' :: ']' :: rest =>
      if classNames.contains (String.ofList (cs.takeWhile (· != ':'))) then some (negated, rest)
      else none
    | _ => none
  | _ => none

def takeMember? (f : Flags) : List Char → Option (Escape × List Char)
  | [] => none
  | c :: cs => if c == '\\' then Escape.take? f cs else some (.literal c false, cs)

/-- Passes over a member or a range of members; a dash before a dash or a closing bracket makes no
range. -/
def passRange? (f : Flags) (cs : List Char) : Option (List Char) := do
  let (first, cs) ← takeMember? f cs
  match f.skip cs with
  | '-' :: rest =>
    if f.peek? rest == some ']' || f.peek? rest == some '-' then
      if first.isMember f then some ('-' :: rest) else none
    else
      let (last, rest) ← takeMember? f (f.skip rest)
      match first, last with
      | .literal a _, .literal b _ =>
        if f.allowsMember a && f.allowsMember b && a ≤ b then some rest else none
      | _, _ => none
  | rest => if first.isMember f then some rest else none

/-! ### Whole classes -/

/-- Passes over the mark of a complement. -/
def passOpening? (f : Flags) (cs : List Char) : Option (List Char) :=
  match f.skip cs with
  | '^' :: cs => if f.allowsComplement then some cs else none
  | cs => some cs

def isOperator (c : Char) : Bool :=
  c == '&' || c == '-' || c == '~'

/-- Reads on in a class that stands in those of `outer`, up to the end of the outermost. -/
def takeFrom? (f : Flags) : Nat → Bracket → List Bracket → List Char → Option (Nat × List Char)
  | 0, _, _, _ => none
  | fuel + 1, b, outer, cs =>
    match f.skip cs with
    | [] => none
    | c :: cs =>
      if b.opening && (c == '-' || (c == ']' && b.members.isEmpty)) then
        if f.allowsMember c then
          takeFrom? f fuel { b.add 0 with opening := c == '-' } outer cs
        else none
      else if c == ']' then
        match outer with
        | [] => some (b.depth + 1, cs)
        | parent :: outer => takeFrom? f fuel (parent.add (b.depth + 1)) outer cs
      else if c == '[' then
        match takeNamed? cs with
        | some (negated, cs) =>
          if f.allowsNamed negated then takeFrom? f fuel (b.add 0) outer cs else none
        | none => do takeFrom? f fuel {} (b :: outer) (← passOpening? f cs)
      else if isOperator c && cs.head? == some c then
        takeFrom? f fuel b.operate outer (cs.drop 1)
      else do takeFrom? f fuel (b.add 0) outer (← passRange? f (c :: cs))

/-- The depth of a class, and what follows it; `cs` follows its bracket. -/
def take? (f : Flags) (cs : List Char) : Option (Nat × List Char) := do
  let cs ← passOpening? f cs
  takeFrom? f (cs.length + 1) {} [] cs

end Bracket

end Mentorship.Settings.Pattern
