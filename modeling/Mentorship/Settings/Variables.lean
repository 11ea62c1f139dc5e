import Mentorship.Settings.Configuration
import Mentorship.Text.ByteOrderMark
import Mentorship.Text.Digits
import Mentorship.Text.Letters

/-! Files of environment variables: lines `NAME=value` with quotes, escapes, comments and references
to other variables. A variable that is set already keeps its value. -/

namespace Mentorship.Settings.Variables

open Text

/-! ### Lines -/

/-- What a line leaves open: nothing, a blank before a possible comment, an escape, or a quoted text
with or without an escape. -/
inductive Open where
  | nothing | blank | escape | strong | strongEscape | weak | weakEscape
  deriving DecidableEq, Repr

def Open.bare (c : Char) : Open :=
  if c == '\\' then .escape
  else if c == '"' then .weak
  else if c == '\x27' then .strong
  else .nothing

def Open.next (o : Open) (c : Char) : Open :=
  match o with
  | .nothing => if isBlank c && c != '\n' && c != '\r' then .blank else .bare c
  | .blank => .bare c
  | .escape => .nothing
  | .weak => if c == '\\' then .weakEscape else if c == '"' then .nothing else .weak
  | .weakEscape => .weak
  | .strong => if c == '\\' then .strongEscape else if c == '\x27' then .nothing else .strong
  | .strongEscape => .strong

/-- What is open at the end of a line, or the number of characters before its comment. -/
def scan (o : Open) (count : Nat) : List Char → Open ⊕ Nat
  | [] => .inl o
  | c :: cs => if o == .blank && c == '#' then .inr count else scan (o.next c) (count + 1) cs

/-- The lines of a text, each with its line end. -/
def linesWith {α : Type} [BEq α] (newline : α) : List α → List (List α)
  | [] => []
  | c :: cs =>
    if c == newline then [c] :: linesWith newline cs
    else if cs.isEmpty then [[c]]
    else (linesWith newline cs).modifyHead (c :: ·)

def decodeAll : List (List UInt8) → List (List Char)
  | [] => []
  | line :: lines =>
    match String.fromUTF8? line.toByteArray with
    | some s => s.toList :: decodeAll lines
    | none => []

/-- The lines of a file up to the first that is not text. -/
def fileLines (bytes : List UInt8) : List (List Char) :=
  decodeAll (linesWith 10 (dropByteOrderMark bytes))

def dropLineEnd (cs : List Char) : List Char :=
  match cs.reverse with
  | '\n' :: '\r' :: rest => rest.reverse
  | '\n' :: rest => rest.reverse
  | _ => cs

/-- Lines joined as long as a quote is open, without line ends and comments. A last line left open
is no line. -/
def joined (o : Open) (before : List Char) : List (List Char) → List (Option (List Char))
  | [] => if o == .nothing then [] else [none]
  | line :: lines =>
    let text := before ++ line
    if (trimStartChars text).head? == some '#' then some [] :: joined .nothing [] lines
    else match scan o 0 line with
      | .inr n => some (before ++ line.take n) :: joined .nothing [] lines
      | .inl .nothing => some (dropLineEnd text) :: joined .nothing [] lines
      | .inl o => joined o text lines

/-! ### Values -/

/-- Where reading stands inside a value; `quoted` tells whether weak quotes are open around it. -/
inductive Place where
  | plain (quoted : Bool)
  | escape (quoted : Bool)
  | strong
  | name (quoted : Bool) (reversed : List Char)
  | braced (quoted : Bool) (reversed : List Char)
  | ending

def escaped? (c : Char) : Option Char :=
  if c == '\\' || c == '\x27' || c == '"' || c == '$' || c == ' ' then some c
  else if c == 'n' then some '\n'
  else none

/-- The characters of a value from a place inside it on; `value` looks up variables. -/
def valueFrom (value : List Char → List Char) : Place → List Char → Option (List Char)
  | .plain quoted, [] => if quoted then none else some []
  | .escape quoted, [] => if quoted then none else some []
  | .name quoted r, [] => if quoted then none else some (value r.reverse)
  | .ending, [] => some []
  | .strong, [] => none
  | .braced .., [] => none
  | .ending, c :: cs =>
    if c == ' ' || c == '\t' then valueFrom value .ending cs
    else if c == '#' then some []
    else none
  | .escape quoted, c :: cs =>
    match escaped? c with
    | some d => (valueFrom value (.plain quoted) cs).map (d :: ·)
    | none => none
  | .strong, c :: cs =>
    if c == '\x27' then valueFrom value (.plain false) cs
    else (valueFrom value .strong cs).map (c :: ·)
  | .name quoted r, c :: cs =>
    if isAlphanumeric c then valueFrom value (.name quoted (c :: r)) cs
    else if c == '\x7b' && r.isEmpty then valueFrom value (.braced quoted []) cs
    else if c == '$' then (valueFrom value (.name quoted []) cs).map (value r.reverse ++ ·)
    else (valueFrom value (.plain quoted) cs).map (value r.reverse ++ c :: ·)
  | .braced quoted r, c :: cs =>
    if c == '\x7d' then (valueFrom value (.plain quoted) cs).map (value r.reverse ++ ·)
    else valueFrom value (.braced quoted (c :: r)) cs
  | .plain quoted, c :: cs =>
    if c == '$' then valueFrom value (.name quoted []) cs
    else if c == '\\' then valueFrom value (.escape quoted) cs
    else if c == '"' then valueFrom value (.plain (!quoted)) cs
    else if quoted then (valueFrom value (.plain true) cs).map (c :: ·)
    else if c == '\x27' then valueFrom value .strong cs
    else if c == ' ' || c == '\t' then valueFrom value .ending cs
    else (valueFrom value (.plain false) cs).map (c :: ·)

/-! ### Settings -/

def opensName (c : Char) : Bool :=
  c.isAlpha || c == '_'

def continuesName (c : Char) : Bool :=
  c.isAlphanum || c == '_' || c == '.'

/-- A name at the front of a line, and what follows it and its blanks. -/
def takeName? (cs : List Char) : Option (List Char × List Char) :=
  if cs.head?.any opensName then
    some (cs.takeWhile continuesName, trimStartChars (cs.dropWhile continuesName))
  else none

/-- A name and an equals sign, with or without the word `export` before them. -/
def takeTarget? (cs : List Char) : Option (List Char × List Char) := do
  match ← takeName? cs with
  | (name, '=' :: rest) => some (name, rest)
  | (name, rest) =>
    if name != "export".toList then none
    match ← takeName? rest with
    | (name, '=' :: rest) => some (name, rest)
    | _ => none

/-- What one line says: nothing, a variable and its value, or something that is no line. -/
inductive Line where
  | blank
  | setting (name value : String)
  | fault
  deriving DecidableEq, Repr

def startsComment (cs : List Char) : Bool :=
  cs.isEmpty || cs.head? == some '#'

def readLine (value : List Char → List Char) (line : List Char) : Line :=
  let cs := trimChars line
  if startsComment cs then .blank
  else match takeTarget? cs with
    | none => .fault
    | some (name, rest) =>
      let rest := trimStartChars rest
      if startsComment rest then .setting (String.ofList name) ""
      else match valueFrom value (.plain false) rest with
        | some v => .setting (String.ofList name) (String.ofList v)
        | none => .fault

/-- The value of a variable in texts that refer to it, empty if it is not set. -/
def reference (env : Environment) (name : List Char) : List Char :=
  ((env.find? (String.ofList name)).getD "").toList

/-- A variable whose value holds a NUL character cannot be set. -/
inductive Fault where
  | nulInValue (name : String)
  deriving DecidableEq, Repr

/-- Sets a variable that is not set yet. -/
def set (env : Environment) (name value : String) : Except Fault Environment :=
  if !env.contains name && value.toList.contains '\x00' then .error (.nulInValue name)
  else .ok (env.insertIfNew name value)

/-- Reads lines up to the first that is none; the settings before it hold. -/
def loadLines (env : Environment) : List (Option (List Char)) → Except Fault Environment
  | [] => .ok env
  | none :: _ => .ok env
  | some line :: lines =>
    match readLine (reference env) line with
    | .blank => loadLines env lines
    | .fault => .ok env
    | .setting name value => do loadLines (← set env name value) lines

/-- The environment with the settings of a file added. -/
def load (bytes : List UInt8) (env : Environment) : Except Fault Environment :=
  loadLines env (joined .nothing [] (fileLines bytes))

end Mentorship.Settings.Variables
