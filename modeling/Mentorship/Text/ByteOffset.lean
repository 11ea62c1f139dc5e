/-! Cutting a text at byte offsets, which have to fall between two characters. -/

namespace Mentorship.Text

def byteCount : List Char → Nat
  | [] => 0
  | c :: cs => c.utf8Size + byteCount cs

/-- The text after its first `n` bytes, where these end between two characters. -/
def dropBytes? : Nat → List Char → Option (List Char)
  | 0, cs => some cs
  | _ + 1, [] => none
  | n + 1, c :: cs => if c.utf8Size ≤ n + 1 then dropBytes? (n + 1 - c.utf8Size) cs else none

/-- The first `n` bytes of a text, where these end between two characters. -/
def takeBytes? : Nat → List Char → Option (List Char)
  | 0, _ => some []
  | _ + 1, [] => none
  | n + 1, c :: cs =>
    if c.utf8Size ≤ n + 1 then (takeBytes? (n + 1 - c.utf8Size) cs).map (c :: ·) else none

/-- The text between two byte offsets. -/
def cutBytes? (first last : Nat) (cs : List Char) : Option (List Char) :=
  (dropBytes? first cs).bind (takeBytes? (last - first))

theorem dropBytes?_append (before after : List Char) :
    dropBytes? (byteCount before) (before ++ after) = some after := by
  induction before with
  | nil => simp [byteCount, dropBytes?]
  | cons c cs ih =>
    obtain ⟨n, hn⟩ := Nat.exists_eq_add_of_lt (Nat.add_pos_left c.utf8Size_pos (byteCount cs))
    simp only [Nat.zero_add] at hn
    have h : n + 1 - c.utf8Size = byteCount cs := by omega
    rw [byteCount, hn, List.cons_append, dropBytes?, if_pos (by omega), h, ih]

theorem takeBytes?_append (before after : List Char) :
    takeBytes? (byteCount before) (before ++ after) = some before := by
  induction before with
  | nil => simp [byteCount, takeBytes?]
  | cons c cs ih =>
    obtain ⟨n, hn⟩ := Nat.exists_eq_add_of_lt (Nat.add_pos_left c.utf8Size_pos (byteCount cs))
    simp only [Nat.zero_add] at hn
    have h : n + 1 - c.utf8Size = byteCount cs := by omega
    rw [byteCount, hn, List.cons_append, takeBytes?, if_pos (by omega), h, ih, Option.map_some]

end Mentorship.Text
