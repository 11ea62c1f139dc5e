import Mentorship.Number.Numeral
import Mentorship.Settings.Pattern.Group
import Mentorship.Text.ByteOffset
import Mentorship.Text.Split

/-! Log filters: directives separated by commas, each a level, or a target or span with an optional
level. Here it only matters whether a text is one. -/

namespace Mentorship.Settings.LogFilter

open Text

inductive Fault where
  | malformed | splitCharacter
  deriving DecidableEq, Repr

/-! ### Levels -/

def levelNames : List String :=
  ["error", "warn", "info", "debug", "trace", "off"]

def greatestLevel : Nat := 5

/-- A name in any case, a number from zero to five, or nothing. -/
def isLevel (cs : List Char) : Bool :=
  let s := String.ofList cs
  s.isEmpty || (Number.naturalUpTo? greatestLevel s).isSome ||
    levelNames.contains (String.ofList (cs.map Char.toLower))

/-! ### Fields -/

/-- A name, or a name and the value to compare with: a number or else a pattern. -/
def isField (cs : List Char) : Bool :=
  match pieces '=' cs with
  | _ :: value :: _ =>
    (Number.decimal? (String.ofList value)).isSome || Pattern.isPattern value
  | _ => !cs.isEmpty

/-! ### Directives -/

/-- Where reading stands inside a directive; `first` is the offset at which the current part
starts. -/
inductive Place where
  | start
  | target
  | span (first : Nat)
  | field (first : Nat)
  | fieldsEnd
  | spanEnd
  | level (first : Nat)

def opensTarget (c : Char) : Bool :=
  c == '-' || c == ':' || c == '_' || isAlphanumeric c

def cut (text : List Char) (first last : Nat) : Except Fault (List Char) :=
  match cutBytes? first last text with
  | some cs => .ok cs
  | none => .error .splitCharacter

/-- The place after the character `c` at the offset `i`; the parts between places are cut out of
`text`. -/
def Place.next (text : List Char) (i : Nat) (c : Char) : Place → Except Fault Place
  | start =>
    if c == '[' then .ok (span (i + 1))
    else if opensTarget c then .ok target
    else .error .malformed
  | target => do
    if c != '=' && c != '[' then return target
    discard <| cut text 0 i
    return if c == '=' then level (i + 1) else span (i + 1)
  | span first => do
    if c != ']' && c != '\x7b' then return span first
    discard <| cut text first i
    return if c == ']' then spanEnd else field (i + 1)
  | field first => do
    if c != '\x7d' then return field first
    if isField (← cut text first i) then return fieldsEnd else throw .malformed
  | fieldsEnd => if c == ']' then .ok spanEnd else .error .malformed
  | spanEnd => if c == '=' then .ok (level (i + 1)) else .error .malformed
  | level first => .ok (level first)

/-- Whether a directive may end here. -/
def Place.finish (text : List Char) : Place → Except Fault Unit
  | target => .ok ()
  | spanEnd => .ok ()
  | level first => do
    if isLevel (← cut text first (byteCount text)) then return () else throw .malformed
  | _ => .error .malformed

def readFrom (text : List Char) (i : Nat) (p : Place) : List Char → Except Fault Unit
  | [] => p.finish text
  | c :: cs => do readFrom text (i + c.utf8Size) (← p.next text i c) cs

/-- A directive is read without the blanks around it, but its parts are counted off from its very
start. -/
def readDirective (text : List Char) : Except Fault Unit :=
  readFrom text 0 .start (trimChars text)

/-- Reads a log filter; empty directives are passed over. -/
def read (s : String) : Except Fault Unit :=
  ((pieces ',' s.toList).filter (!·.isEmpty)).forM readDirective

end Mentorship.Settings.LogFilter
