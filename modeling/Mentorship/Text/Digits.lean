/-! Decimal digits: Persian and Arabic-Indic digits read as their ASCII counterparts. -/

namespace Mentorship.Text

def isDigit (c : Char) : Bool :=
  '0' ≤ c && c ≤ '9'

/-- The value of an ASCII digit. -/
def digitValue (c : Char) : Nat :=
  c.toNat - '0'.toNat

/-- The value of a hexadecimal digit in either case. -/
def hexValue? (c : Char) : Option Nat :=
  if isDigit c then some (digitValue c)
  else if 'a' ≤ c && c ≤ 'f' then some (c.toNat - 'a'.toNat + 10)
  else if 'A' ≤ c && c ≤ 'F' then some (c.toNat - 'A'.toNat + 10)
  else none

def foldDigit (c : Char) : Char :=
  let n := c.toNat
  if 0x06F0 ≤ n && n ≤ 0x06F9 then Char.ofNat ('0'.toNat + (n - 0x06F0))
  else if 0x0660 ≤ n && n ≤ 0x0669 then Char.ofNat ('0'.toNat + (n - 0x0660))
  else c

/-- The text with every Persian or Arabic-Indic digit replaced by its ASCII counterpart. -/
def foldDigits (s : String) : String :=
  String.ofList (s.toList.map foldDigit)

/-- The number that a list of ASCII digits denotes, most significant digit first. -/
def natOfDigits (cs : List Char) : Nat :=
  cs.foldl (fun n c => 10 * n + digitValue c) 0

/-- The decimal digits of `n`, without leading zeros. -/
def digitsOfNat (n : Nat) : List Char :=
  Nat.toDigits 10 n

/-- The digits of `n` filled up with zeros on the left to `width`. -/
def paddedDigits (width n : Nat) : List Char :=
  (digitsOfNat n).leftpad width '0'

theorem isDigit_of_mem_leftpad {width : Nat} {ds : List Char} (h : ∀ c ∈ ds, isDigit c = true) :
    ∀ c ∈ ds.leftpad width '0', isDigit c = true := by
  intro c hc
  rw [List.leftpad, List.mem_append] at hc
  rcases hc with hc | hc
  · rw [List.eq_of_mem_replicate hc]
    rfl
  · exact h c hc

end Mentorship.Text
