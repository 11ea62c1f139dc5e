import Mentorship.Proofs.Numerals
import Mentorship.Registration.Id
import Mentorship.Text.ByteOffset

/-! Registration ids as texts. Reading undoes writing, and a text reads as an id exactly if it is
the id as written, up to blanks at the ends and the script of its digits. Digits have one byte each,
so that the parts of an id can be cut at byte offsets. -/

namespace Mentorship

/-! ### Padded digits -/

namespace Text

variable {width n : Nat}

theorem isDigit_of_mem_paddedDigits {c : Char} (h : c ∈ paddedDigits width n) :
    isDigit c = true :=
  isDigit_of_mem_leftpad (fun _ => isDigit_of_mem_digitsOfNat) c h

theorem length_paddedDigits (hw : 0 < width) (h : n < 10 ^ width) :
    (paddedDigits width n).length = width := by
  rw [paddedDigits, List.length_leftpad, digitsOfNat]
  exact Nat.max_eq_left ((Nat.length_toDigits_le_iff (by decide) hw).mpr h)

theorem natOfDigits_replicate_zero_append (k : Nat) (cs : List Char) :
    natOfDigits (List.replicate k '0' ++ cs) = natOfDigits cs := by
  induction k with
  | zero => rfl
  | succ k ih =>
    rw [List.replicate_succ, List.cons_append, natOfDigits_cons, ih,
      show digitValue '0' = 0 from rfl, Nat.zero_mul, Nat.zero_add]

theorem natOfDigits_leftpad (cs : List Char) :
    natOfDigits (cs.leftpad width '0') = natOfDigits cs := by
  rw [List.leftpad, natOfDigits_replicate_zero_append]

@[simp] theorem natOfDigits_paddedDigits : natOfDigits (paddedDigits width n) = n := by
  rw [paddedDigits, natOfDigits_leftpad, natOfDigits_digitsOfNat]

theorem natOfDigits_lt_pow {cs : List Char} (hlen : cs.length = width)
    (h : ∀ c ∈ cs, isDigit c = true) : natOfDigits cs < 10 ^ width :=
  hlen ▸ natOfDigits_lt h

/-- Digits are the number that they denote, padded to their length. -/
theorem paddedDigits_natOfDigits {cs : List Char} (hw : 0 < width) (hlen : cs.length = width)
    (h : ∀ c ∈ cs, isDigit c = true) : paddedDigits width (natOfDigits cs) = cs :=
  eq_of_natOfDigits_eq (fun _ => isDigit_of_mem_paddedDigits) h
    ((length_paddedDigits hw (natOfDigits_lt_pow hlen h)).trans hlen.symm)
    natOfDigits_paddedDigits

/-! ### Bytes of digits -/

section Bytes

variable {cs : List Char}

theorem utf8Size_of_isDigit {c : Char} (h : isDigit c = true) : c.utf8Size = 1 := by
  rw [isDigit_iff] at h
  have hascii : c.val ≤ 0x7F := by
    rw [UInt32.le_iff_toNat_le]
    change c.toNat ≤ 127
    omega
  simp [Char.utf8Size, hascii]

theorem byteCount_of_digits (h : ∀ c ∈ cs, isDigit c = true) : byteCount cs = cs.length := by
  induction cs with
  | nil => rfl
  | cons c cs ih =>
    rw [List.forall_mem_cons] at h
    rw [byteCount, utf8Size_of_isDigit h.1, ih h.2, List.length_cons, Nat.add_comm]

/-- Digits can be cut at any byte offsets. -/
theorem cutBytes?_of_digits {first last : Nat} (h : ∀ c ∈ cs, isDigit c = true)
    (hle : first ≤ last) (hlast : last ≤ cs.length) :
    cutBytes? first last cs = some ((cs.drop first).take (last - first)) := by
  have hbefore : byteCount (cs.take first) = first := by
    rw [byteCount_of_digits fun c hc => h c (List.mem_of_mem_take hc), List.length_take]
    omega
  have hpart : byteCount ((cs.drop first).take (last - first)) = last - first := by
    rw [byteCount_of_digits fun c hc => h c (List.mem_of_mem_drop (List.mem_of_mem_take hc)),
      List.length_take, List.length_drop]
    omega
  have hdrop := dropBytes?_append (cs.take first) (cs.drop first)
  have htake := takeBytes?_append ((cs.drop first).take (last - first))
    ((cs.drop first).drop (last - first))
  rw [hbefore, List.take_append_drop] at hdrop
  rw [hpart, List.take_append_drop] at htake
  rw [cutBytes?, hdrop, Option.bind_some, htake]

end Bytes

end Text

/-! ### Reading and writing -/

namespace Registration.Id

open Text

/-- The parts of an id have no more digits than they are written with. -/
structure NineDigits (x : Id) : Prop where
  year : x.year < 10 ^ 2
  gender : x.gender < 10 ^ 3
  sequence : x.sequence < 10 ^ 4

variable {x y : Id} {s t : String}

theorem isDigit_of_mem_render {c : Char} (h : c ∈ x.render.toList) : isDigit c = true := by
  rw [render, String.toList_ofList, List.mem_append, List.mem_append] at h
  rcases h with (h | h) | h <;> exact isDigit_of_mem_paddedDigits h

/-- An id as written has no blanks, and its digits are folded. -/
theorem foldDigits_trim_render (x : Id) : foldDigits (trim x.render) = x.render := by
  have h : ∀ c ∈ x.render.toList, isDigit c = true := fun _ => isDigit_of_mem_render
  rw [trim_of_digits h, foldDigits_of_digits h]

theorem toList_render (x : Id) : x.render.toList =
    paddedDigits 2 x.year ++ (paddedDigits 3 x.gender ++ paddedDigits 4 x.sequence) := by
  rw [render, String.toList_ofList, List.append_assoc]

theorem length_render (hx : x.NineDigits) : x.render.toList.length = 9 := by
  rw [toList_render, List.length_append, List.length_append, length_paddedDigits (by decide) hx.year,
    length_paddedDigits (by decide) hx.gender, length_paddedDigits (by decide) hx.sequence]

theorem take_render (hx : x.NineDigits) : x.render.toList.take 2 = paddedDigits 2 x.year := by
  rw [toList_render, List.take_left' (length_paddedDigits (by decide) hx.year)]

theorem take_drop_render (hx : x.NineDigits) :
    (x.render.toList.drop 2).take 3 = paddedDigits 3 x.gender := by
  rw [toList_render, List.drop_left' (length_paddedDigits (by decide) hx.year),
    List.take_left' (length_paddedDigits (by decide) hx.gender)]

theorem drop_render (hx : x.NineDigits) :
    x.render.toList.drop 5 = paddedDigits 4 x.sequence := by
  have hlength : (paddedDigits 2 x.year ++ paddedDigits 3 x.gender).length = 5 := by
    rw [List.length_append, length_paddedDigits (by decide) hx.year,
      length_paddedDigits (by decide) hx.gender]
  rw [toList_render, ← List.append_assoc, List.drop_left' hlength]

/-- Reading undoes writing. -/
theorem ofText?_render (hx : x.NineDigits) : ofText? x.render = some x := by
  have hall : x.render.toList.all isDigit = true :=
    List.all_eq_true.mpr fun _ => isDigit_of_mem_render
  simp [ofText?, foldDigits_trim_render, hall, length_render hx, take_render hx,
    take_drop_render hx, drop_render hx]

theorem append_parts (ds : List Char) :
    ds.take 2 ++ (ds.drop 2).take 3 ++ ds.drop 5 = ds := by
  have hlast : ds.drop 5 = (ds.drop 2).drop 3 := by rw [List.drop_drop]
  rw [List.append_assoc, hlast, List.take_append_drop, List.take_append_drop]

/-- Writing undoes reading, but for the spelling. -/
theorem render_of_ofText? (h : ofText? s = some x) :
    x.NineDigits ∧ foldDigits (trim s) = x.render := by
  simp only [ofText?] at h
  split at h
  · rename_i hnine
    rw [Bool.and_eq_true, beq_iff_eq, List.all_eq_true] at hnine
    obtain ⟨hlength, hdigits⟩ := hnine
    rw [← Option.some.inj h]
    generalize hds : (foldDigits (trim s)).toList = ds at hlength hdigits
    have hfirst : (ds.take 2).length = 2 := by simp [hlength]
    have hmiddle : ((ds.drop 2).take 3).length = 3 := by simp [hlength]
    have hlast : (ds.drop 5).length = 4 := by simp [hlength]
    have hfirst' : ∀ c ∈ ds.take 2, isDigit c = true := fun c hc =>
      hdigits c (List.mem_of_mem_take hc)
    have hmiddle' : ∀ c ∈ (ds.drop 2).take 3, isDigit c = true := fun c hc =>
      hdigits c (List.mem_of_mem_drop (List.mem_of_mem_take hc))
    have hlast' : ∀ c ∈ ds.drop 5, isDigit c = true := fun c hc =>
      hdigits c (List.mem_of_mem_drop hc)
    refine ⟨⟨natOfDigits_lt_pow hfirst hfirst', natOfDigits_lt_pow hmiddle hmiddle',
      natOfDigits_lt_pow hlast hlast'⟩, ?_⟩
    rw [render, paddedDigits_natOfDigits (by decide) hfirst hfirst',
      paddedDigits_natOfDigits (by decide) hmiddle hmiddle',
      paddedDigits_natOfDigits (by decide) hlast hlast']
    rw [append_parts, ← hds, String.ofList_toList]
  · cases h

theorem eq_of_render_eq (hx : x.NineDigits) (hy : y.NineDigits) (h : x.render = y.render) :
    x = y := by
  rw [← Option.some.injEq, ← ofText?_render hx, ← ofText?_render hy, h]

/-- Nine digits are read, and nothing else is. -/
theorem isSome_ofText?_iff : (ofText? s).isSome = true ↔
    (foldDigits (trim s)).toList.length = 9 ∧
      ∀ c ∈ (foldDigits (trim s)).toList, isDigit c = true := by
  simp only [ofText?, apply_ite Option.isSome, Option.isSome_some, Option.isSome_none]
  simp

/-- What reads as an id and was written as one is that id as written. -/
theorem render_eq_of_ofText?_render (h : ofText? y.render = some x) : y.render = x.render := by
  rw [← (render_of_ofText? h).2, foldDigits_trim_render]

/-! ### Both ways -/

/-- Ids are read back as they were written, and a text is read exactly if it is nine digits once it
is trimmed and folded; these are the id as written. They are nine bytes as well, so that the byte
offsets between the parts of an id are never inside a character. -/
theorem ofText?_and_render :
    (∀ x : Id, x.year ≤ 99 → x.gender ≤ 999 → x.sequence ≤ 9999 →
      ofText? x.render = some x ∧
        ∀ y : Id, y.year ≤ 99 → y.gender ≤ 999 → y.sequence ≤ 9999 →
          x.render = y.render → x = y) ∧
    ∀ s, ((ofText? s).isSome = true ↔
        (foldDigits (trim s)).toList.length = 9 ∧
          ∀ c ∈ (foldDigits (trim s)).toList, isDigit c = true) ∧
      ∀ x, ofText? s = some x →
        x.render = foldDigits (trim s) ∧ byteCount (foldDigits (trim s)).toList = 9 ∧
        cutBytes? 0 2 (foldDigits (trim s)).toList = some (paddedDigits 2 x.year) ∧
        cutBytes? 2 5 (foldDigits (trim s)).toList = some (paddedDigits 3 x.gender) ∧
        cutBytes? 5 9 (foldDigits (trim s)).toList = some (paddedDigits 4 x.sequence) := by
  have hnine (x : Id) (hyear : x.year ≤ 99) (hgender : x.gender ≤ 999)
      (hsequence : x.sequence ≤ 9999) : x.NineDigits :=
    ⟨Nat.lt_succ_of_le hyear, Nat.lt_succ_of_le hgender, Nat.lt_succ_of_le hsequence⟩
  refine ⟨fun x hyear hgender hsequence => ?_, fun s => ⟨isSome_ofText?_iff, fun x h => ?_⟩⟩
  · have hx := hnine x hyear hgender hsequence
    exact ⟨ofText?_render hx, fun y hyear hgender hsequence =>
      eq_of_render_eq hx (hnine y hyear hgender hsequence)⟩
  · obtain ⟨hx, hs⟩ := render_of_ofText? h
    have hdigits : ∀ c ∈ x.render.toList, isDigit c = true := fun _ => isDigit_of_mem_render
    have hlength := length_render hx
    have hlast : (x.render.toList.drop 5).take 4 = x.render.toList.drop 5 := by
      rw [List.take_of_length_le (by rw [List.length_drop, hlength])]
    rw [hs]
    refine ⟨rfl, (byteCount_of_digits hdigits).trans hlength, ?_, ?_, ?_⟩
    · rw [cutBytes?_of_digits hdigits (by decide) (by omega)]
      exact congrArg some (take_render hx)
    · rw [cutBytes?_of_digits hdigits (by decide) (by omega)]
      exact congrArg some (take_drop_render hx)
    · rw [cutBytes?_of_digits hdigits (by decide) (by omega)]
      exact congrArg some (hlast.trans (drop_render hx))

/-- An id with zeros in front of each part, and its digits in Persian with a blank in front. -/
theorem ofText?_and_render_padded :
    ofText? (render ⟨4, 57, 12⟩) = some ⟨4, 57, 12⟩ ∧ render ⟨4, 57, 12⟩ = "040570012" ∧
    ofText? " ۰۴۰۵۷۰۰۱۲" = some ⟨4, 57, 12⟩ ∧
    render ⟨4, 57, 12⟩ = foldDigits (trim " ۰۴۰۵۷۰۰۱۲") ∧
    cutBytes? 2 5 (foldDigits (trim " ۰۴۰۵۷۰۰۱۲")).toList = some ['0', '5', '7'] := by
  have hread : ofText? " ۰۴۰۵۷۰۰۱۲" = some ⟨4, 57, 12⟩ := rfl
  obtain ⟨hids, htexts⟩ := ofText?_and_render
  obtain ⟨hrender, -, -, hgender, -⟩ := (htexts " ۰۴۰۵۷۰۰۱۲").2 _ hread
  exact ⟨(hids ⟨4, 57, 12⟩ (by decide) (by decide) (by decide)).1, rfl, hread, hrender, hgender⟩

end Registration.Id

end Mentorship
