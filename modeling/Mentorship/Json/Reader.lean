import Mentorship.Number.Binary64

/-! Reading JSON text from left to right into typed values, up to the first fault. -/

namespace Mentorship.Json

open Number Text

/-- What is wrong where reading stops: text that no JSON document continues with, the end of the
text inside a document, or well-formed text of another type than wanted. -/
inductive Fault where
  | malformed | truncated | unexpected
  deriving DecidableEq, Repr

def Fault.message : Fault → String
  | malformed => "malformed text"
  | truncated => "unexpected end of text"
  | unexpected => "value of another type than wanted, or unknown, repeated or missing member"

abbrev Reader := StateT (List Char) (Except Fault)

namespace Reader

/-! ### Blanks and words -/

def isSpace (c : Char) : Bool :=
  c == ' ' || c == '\n' || c == '\t' || c == '\r'

/-- The next character that is not a blank, without consuming it. -/
def peek? : Reader (Option Char) := do
  let s := (← get).dropWhile isSpace
  set s
  return s.head?

def skip : Reader Unit :=
  modify List.tail

/-- The first character of a value. -/
def start : Reader Char := do
  match ← peek? with
  | some c => return c
  | none => throw .truncated

def word : List Char → Reader Unit
  | [] => return ()
  | c :: cs => do
    match ← get with
    | [] => throw .truncated
    | d :: rest =>
      if d == c then
        set rest
        word cs
      else throw .malformed

/-! ### Strings -/

/-- Where reading stands inside a string. -/
inductive Place where
  | plain
  | escape
  | hex (left : Nat) (value : Nat) (high : Option Nat)
  | lowEscape (high : Nat)
  | lowMark (high : Nat)

def shortEscape? (c : Char) : Option Char :=
  if c == '"' || c == '\\' || c == '/' then some c
  else if c == 'b' then some '\x08'
  else if c == 'f' then some '\x0c'
  else if c == 'n' then some '\n'
  else if c == 'r' then some '\r'
  else if c == 't' then some '\t'
  else none

def isHighSurrogate (n : Nat) : Bool :=
  0xD800 ≤ n && n ≤ 0xDBFF

def isLowSurrogate (n : Nat) : Bool :=
  0xDC00 ≤ n && n ≤ 0xDFFF

def joinSurrogates (high low : Nat) : Char :=
  Char.ofNat ((high - 0xD800) * 0x400 + (low - 0xDC00) + 0x10000)

/-- Whether four more bytes of text follow. -/
def hasFourBytes (cs : List Char) : Bool :=
  4 ≤ (cs.take 4).foldl (fun n c => n + c.utf8Size) 0

/-- The characters up to the closing quote, and the text after it. -/
def stringFrom : Place → List Char → Except Fault (List Char × List Char)
  | _, [] => .error .truncated
  | .plain, c :: cs =>
    if c == '"' then .ok ([], cs)
    else if c == '\\' then stringFrom .escape cs
    else if c < ' ' then .error .malformed
    else (stringFrom .plain cs).map fun (t, rest) => (c :: t, rest)
  | .escape, c :: cs =>
    match shortEscape? c with
    | some d => (stringFrom .plain cs).map fun (t, rest) => (d :: t, rest)
    | none =>
      if c != 'u' then .error .malformed
      else if hasFourBytes cs then stringFrom (.hex 4 0 none) cs
      else .error .truncated
  | .hex left value high, c :: cs =>
    match hexValue? c with
    | none => .error .malformed
    | some d =>
      let value := 16 * value + d
      if 1 < left then stringFrom (.hex (left - 1) value high) cs
      else match high with
        | none =>
          if isLowSurrogate value then .error .malformed
          else if isHighSurrogate value then stringFrom (.lowEscape value) cs
          else (stringFrom .plain cs).map fun (t, rest) => (Char.ofNat value :: t, rest)
        | some high =>
          if isLowSurrogate value then
            (stringFrom .plain cs).map fun (t, rest) => (joinSurrogates high value :: t, rest)
          else .error .malformed
  | .lowEscape high, c :: cs =>
    if c == '\\' then stringFrom (.lowMark high) cs else .error .malformed
  | .lowMark high, c :: cs =>
    if c != 'u' then .error .malformed
    else if hasFourBytes cs then stringFrom (.hex 4 0 (some high)) cs
    else .error .truncated

/-- The rest of a string whose opening quote is the next character. -/
def quotedText : Reader String := do
  skip
  let (t, rest) ← stringFrom .plain (← get)
  set rest
  return String.ofList t

/-! ### Numbers -/

def digits : Reader (List Char) := do
  let s ← get
  set (s.dropWhile isDigit)
  return s.takeWhile isDigit

def digits1 : Reader (List Char) := do
  match (← get).head? with
  | none => throw .truncated
  | some c => if isDigit c then digits else throw .malformed

/-- The digits kept of a numeral: as many as fit in 64 bits, and the power of ten that the digits
left out and the digits after the point amount to. -/
structure Kept where
  value : Nat
  full : Bool
  exponent : Int

namespace Kept

def whole (k : Kept) (c : Char) : Kept :=
  let value := 10 * k.value + digitValue c
  if !k.full && value < wordLimit then { k with value }
  else { k with full := true, exponent := k.exponent + 1 }

def part (k : Kept) (c : Char) : Kept :=
  let value := 10 * k.value + digitValue c
  if !k.full && value < wordLimit then { k with value, exponent := k.exponent - 1 }
  else { k with full := true }

end Kept

def keep (whole part : List Char) : Kept :=
  let k := whole.foldl Kept.whole ⟨0, false, 0⟩
  part.foldl Kept.part { k with full := false }

/-- Whether the kept digits times a power of ten have a finite floating-point value. -/
def isFinite (k : Kept) (exponent : Int) : Bool :=
  let e := k.exponent + exponent
  if k.value == 0 || e < 0 then true
  else if 308 < e then false
  else match (Binary64.ofInt k.value).times (.ofInt (Nat.pow 10 e.toNat)) with
    | .finite .. => true
    | _ => false

/-- The digits of a fraction, if a point follows. -/
def fractionPart : Reader (List Char) := do
  if (← get).head? == some '.' then
    skip
    digits1
  else return []

/-- The exponent of a numeral, if one follows. -/
def exponentPart : Reader (Option Int) := do
  if (← get).head?.any fun e => e == 'e' || e == 'E' then
    skip
    let (negative, rest) := splitSign (← get)
    set rest
    return some (signed negative (natOfDigits (← digits1)))
  else return none

/-- A number: its value when it is written as a natural number of 64 bits. -/
def number : Reader (Option Nat) := do
  let negative := (← get).head? == some '-'
  if negative then skip
  let whole ← digits1
  if whole.head? == some '0' && 1 < whole.length then throw .malformed
  let part ← fractionPart
  let exponent ← exponentPart
  unless isFinite (keep whole part) (exponent.getD 0) do throw .malformed
  let n := natOfDigits whole
  return if negative || !part.isEmpty || exponent.isSome || wordLimit ≤ n then none else some n

/-! ### Values -/

/-- Refuses the value that starts with `c`, once it has been read as far as it must be to know its
type. -/
def refuse {α : Type} (c : Char) : Reader α := do
  if c == 'n' then skip; word ['u', 'l', 'l']
  else if c == 't' then skip; word ['r', 'u', 'e']
  else if c == 'f' then skip; word ['a', 'l', 's', 'e']
  else if c == '-' || isDigit c then discard number
  else if c == '"' then discard quotedText
  else unless c == '[' || c == '\x7b' do throw .malformed
  throw .unexpected

def string : Reader String := do
  let c ← start
  if c == '"' then quotedText else refuse c

def bool : Reader Bool := do
  let c ← start
  if c == 't' then
    skip
    word ['r', 'u', 'e']
    return true
  else if c == 'f' then
    skip
    word ['a', 'l', 's', 'e']
    return false
  else refuse c

/-- A natural number below `limit`. -/
def naturalBelow (limit : Nat) : Reader Nat := do
  let c ← start
  if c == '-' || isDigit c then
    match ← number with
    | some n => if n < limit then return n else throw .unexpected
    | none => throw .unexpected
  else refuse c

/-- Absent for `null`. -/
def optional {α : Type} (value : Reader α) : Reader (Option α) := do
  if (← peek?) == some 'n' then
    skip
    word ['u', 'l', 'l']
    return none
  else return some (← value)

/-! ### Lists -/

/-- Whether one more element follows in a list. -/
def nextElement (first : Bool) : Reader Bool := do
  match ← peek? with
  | none => throw .truncated
  | some c =>
    if c == ']' then return false
    else if first then return true
    else if c != ',' then throw .malformed
    else
      skip
      match ← peek? with
      | none => throw .truncated
      | some d => if d == ']' then throw .malformed else return true

/-- The elements up to the end of a list, which stays unread. -/
def elementsFrom {α : Type} (element : Reader α) (first : Bool) (s : List Char) :
    Except Fault (List α × List Char) := do
  let (more, t) ← (nextElement first).run s
  if !more then return ([], t)
  let (x, rest) ← element.run t
  if rest.length < s.length then
    let (xs, rest) ← elementsFrom element false rest
    return (x :: xs, rest)
  else throw .malformed
termination_by s.length

def endList : Reader Unit := do
  match ← peek? with
  | none => throw .truncated
  | some c => if c == ']' then skip else throw .malformed

def list {α : Type} (element : Reader α) : Reader (List α) := do
  let c ← start
  if c != '[' then refuse c
  skip
  let (xs, rest) ← elementsFrom element true (← get)
  set rest
  endList
  return xs

/-! ### Objects -/

/-- The key of one more member of an object, if one follows. -/
def nextKey? (first : Bool) : Reader (Option String) := do
  match ← peek? with
  | none => throw .truncated
  | some c =>
    if c == '\x7d' then return none
    if !first then
      if c == ',' then skip else throw .malformed
    match ← peek? with
    | none => throw .truncated
    | some d => if d == '"' then return some (← quotedText) else throw .malformed

def colon : Reader Unit := do
  match ← peek? with
  | none => throw .truncated
  | some c => if c == ':' then skip else throw .malformed

/-- The members up to the end of an object, which stays unread. A key is refused unless `accepts`
allows it after the keys already seen. -/
def membersFrom {β : Type} (accepts : List String → String → Bool) (member : String → β → Reader β)
    (seen : List String) (value : β) (s : List Char) : Except Fault (β × List Char) := do
  let (key?, t) ← (nextKey? seen.isEmpty).run s
  match key? with
  | none => return (value, t)
  | some key =>
    unless accepts seen key do throw .unexpected
    let (_, t) ← colon.run t
    let (value, rest) ← (member key value).run t
    if rest.length < s.length then
      membersFrom accepts member (key :: seen) value rest
    else throw .malformed
termination_by s.length

/-- The members of an object whose opening brace is the next character. -/
def members {β : Type} (accepts : List String → String → Bool) (member : String → β → Reader β)
    (value : β) : Reader β := do
  skip
  let (value, rest) ← membersFrom accepts member [] value (← get)
  set rest
  return value

/-- An object with any keys; `member` adds a pair to what the pairs before it made. -/
def map {β : Type} (member : String → β → Reader β) (empty : β) : Reader β := do
  let c ← start
  if c != '\x7b' then refuse c
  let value ← members (fun _ _ => true) member empty
  skip
  return value

/-! ### Records -/

/-- One field of a record under construction: its key and how its value is read. -/
structure Field (β : Type) where
  key : String
  read : β → Reader β

/-- The fields of a record written as a list, in their order; a shorter list leaves out the last. -/
def positional {β : Type} : List (Field β) → Bool → β → Reader β
  | [], _, value => return value
  | field :: fields, first, value => do
    if ← nextElement first then positional fields false (← field.read value)
    else return value

/-- A record: an object with each of the fields at most once, or a list of their values in order.
What was gathered has to be complete. -/
def record {β γ : Type} (fields : List (Field β)) (empty : β) (complete? : β → Option γ) :
    Reader γ := do
  let complete (value : β) : Reader γ :=
    match complete? value with
    | some r => return r
    | none => throw .unexpected
  let c ← start
  if c == '[' then
    skip
    let r ← complete (← positional fields true empty)
    endList
    return r
  else if c == '\x7b' then
    let accepts (seen : List String) (key : String) :=
      fields.any (·.key == key) && !seen.contains key
    let member (key : String) (value : β) : Reader β :=
      match fields.find? (·.key == key) with
      | some field => field.read value
      | none => throw .unexpected
    let r ← complete (← members accepts member empty)
    skip
    return r
  else refuse c

/-- Reads a whole text as one value. -/
def document {α : Type} (value : Reader α) (text : String) : Except Fault α := do
  let (a, rest) ← value.run text.toList
  if rest.all isSpace then return a else throw .malformed

end Reader

end Mentorship.Json
