import Mentorship.Settings.Pattern.Bracket
import Mentorship.Text.Letters

/-! Whole patterns: groups, branches, repetitions and their nesting. A pattern holds no closing
brace, so nothing that opens one is complete. -/

namespace Mentorship.Settings.Pattern

open Text

/-- What matters of a part: how deep it nests, and whether it may be repeated. -/
structure Part where
  depth : Nat
  repeatable : Bool := true

/-- An open group: the parts of its last branch, last first; the depths of the branches before; the
flags around it. -/
structure Group where
  around : Flags
  parts : List Part := []
  branches : List Nat := []

namespace Group

/-- The group with its last branch closed. -/
def branch (g : Group) : Group :=
  { g with parts := [], branches := together (g.parts.map (·.depth)) :: g.branches }

def depth (g : Group) : Nat :=
  together g.branch.branches

def add (g : Group) (p : Part) : Group :=
  { g with parts := p :: g.parts }

/-- The group with its last part repeated. -/
def repeatLast? (g : Group) : Option Group :=
  match g.parts with
  | [] => none
  | p :: ps => if p.repeatable then some { g with parts := ⟨p.depth + 1, true⟩ :: ps } else none

end Group

/-- What is known inside a pattern: the flags, the group that is open and those around it, and the
names given to groups. -/
structure Reading where
  flags : Flags := {}
  group : Group := ⟨{}, [], []⟩
  outer : List Group := []
  names : List (List Char) := []

namespace Reading

def add (r : Reading) (depth : Nat) : Reading :=
  { r with group := r.group.add ⟨depth, true⟩ }

/-! ### Groups -/

def openGroup (r : Reading) (flags : Flags) : Reading :=
  { r with flags, group := ⟨r.flags, [], []⟩, outer := r.group :: r.outer }

def closeGroup? (r : Reading) : Option Reading :=
  match r.outer with
  | [] => none
  | group :: outer =>
    some { r with flags := r.group.around, group := group.add ⟨r.group.depth + 1, true⟩, outer }

def opensName (c : Char) : Bool :=
  c == '_' || isAlphabetic c

def continuesName (c : Char) : Bool :=
  c == '_' || c == '.' || c == '[' || c == ']' || isAlphanumeric c

def isName (cs : List Char) : Bool :=
  cs.head?.any opensName && (cs.drop 1).all continuesName

/-- Opens a group whose name follows; no two groups have one name. -/
def openNamed? (r : Reading) (cs : List Char) : Option (Reading × List Char) :=
  let name := cs.takeWhile (· != '>')
  match cs.dropWhile (· != '>') with
  | '>' :: rest =>
    if isName name && !r.names.contains name then
      some ({ r.openGroup r.flags with names := name :: r.names }, rest)
    else none
  | _ => none

/-- Changes flags, up to the end of the open group or for a group that opens. -/
def changeFlags? (r : Reading) (cs : List Char) : Option (Reading × List Char) :=
  let ends (c : Char) := c == ':' || c == ')'
  let letters := cs.takeWhile (!ends ·)
  let flags := r.flags.change letters
  if !Flags.isChange letters then none
  else match cs.dropWhile (!ends ·) with
    | ':' :: rest => some (r.openGroup flags, rest)
    | ')' :: rest =>
      if letters.isEmpty then none
      else some ({ r with flags, group := r.group.add ⟨0, false⟩ }, rest)
    | _ => none

/-- Reads on after an opening parenthesis. -/
def open? (r : Reading) : List Char → Option (Reading × List Char)
  | '?' :: 'P' :: '<' :: cs => r.openNamed? cs
  | '?' :: '<' :: cs => r.openNamed? cs
  | '?' :: cs => r.changeFlags? cs
  | cs => some (r.openGroup r.flags, cs)

/-! ### Parts -/

def repeatLast? (r : Reading) : Option Reading :=
  r.group.repeatLast?.map fun group => { r with group }

/-- What follows the mark that makes a repetition lazy. -/
def dropLazy : List Char → List Char
  | '?' :: cs => cs
  | cs => cs

/-- Reads a part that begins with `c`. -/
def step? (r : Reading) (c : Char) (cs : List Char) : Option (Reading × List Char) :=
  if c == '(' then r.open? (r.flags.skip cs)
  else if c == ')' then r.closeGroup?.map (·, cs)
  else if c == '|' then some ({ r with group := r.group.branch }, cs)
  else if c == '[' then (Bracket.take? r.flags cs).map fun (depth, cs) => (r.add depth, cs)
  else if c == '?' || c == '*' || c == '+' then r.repeatLast?.map (·, dropLazy cs)
  else if c == '\x7b' then none
  else if c == '\\' then do
    let (e, cs) ← Escape.take? r.flags cs
    if e.isAllowed r.flags then some (r.add 0, cs) else none
  else if c == '.' then if r.flags.allowsComplement then some (r.add 0, cs) else none
  else if c == '^' || c == '$' then some (r.add 0, cs)
  else if r.flags.allowsLiteral c false then some (r.add 0, cs)
  else none

def readFrom? : Nat → Reading → List Char → Option Reading
  | 0, _, _ => none
  | fuel + 1, r, cs =>
    match r.flags.skip cs with
    | [] => some r
    | c :: cs => do
      let (r, cs) ← r.step? c cs
      readFrom? fuel r cs

end Reading

def greatestDepth : Nat := 250

/-- Whether a text is a pattern: every part is complete and allowed, all groups are closed, and they
do not nest too deep. -/
def isPattern (cs : List Char) : Bool :=
  match Reading.readFrom? (cs.length + 1) {} cs with
  | none => false
  | some r => r.outer.isEmpty && r.group.depth ≤ greatestDepth

end Mentorship.Settings.Pattern
