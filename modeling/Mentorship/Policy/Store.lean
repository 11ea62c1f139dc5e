import Mentorship.Policy.Check

/-! Stores that keep the last policy read and serve it again while its document keeps the same
modification time. -/

namespace Mentorship.Policy

/-- A document on disk: its bytes and when they were last written. -/
structure Document where
  bytes : List UInt8
  modified : Int
  deriving DecidableEq, Repr

/-- What looking for a document at a path finds. -/
abbrev Source := Except FileFault Document

/-- The policy of a document, read afresh. -/
def ofSource (mode : Mode) (path : String) (source : Source) : Except Error Policy :=
  match source with
  | .error fault => .error (.unreadable path fault)
  | .ok document =>
    match String.fromUTF8? document.bytes.toByteArray with
    | none => .error (.unreadable path .notUtf8)
    | some text => ofText mode text

/-- A policy handed out by a store; no two that were read separately have the same serial number. -/
structure Loaded where
  serial : Nat
  policy : Policy
  deriving DecidableEq, Repr

structure Cached where
  modified : Int
  loaded : Loaded
  deriving DecidableEq, Repr

structure Store where
  path : String
  mode : Mode
  issued : Nat := 0
  cached : Option Cached := none
  deriving DecidableEq, Repr

namespace Store

/-- Reads the document whatever is cached; a failure leaves the store as it was. -/
def reload (source : Source) (s : Store) : Except Error Loaded × Store :=
  match source with
  | .error fault => (.error (.unreadable s.path fault), s)
  | .ok document =>
    match ofSource s.mode s.path source with
    | .error e => (.error e, s)
    | .ok policy =>
      let loaded : Loaded := ⟨s.issued, policy⟩
      (.ok loaded,
        { s with issued := s.issued + 1, cached := some ⟨document.modified, loaded⟩ })

/-- The cached policy if the document has the modification time it was read with, and otherwise the
document read again. -/
def load (source : Source) (s : Store) : Except Error Loaded × Store :=
  match source, s.cached with
  | .ok document, some cached =>
    if cached.modified == document.modified then (.ok cached.loaded, s) else s.reload source
  | _, _ => s.reload source

def clear (s : Store) : Store :=
  { s with cached := none }

end Store

end Mentorship.Policy
