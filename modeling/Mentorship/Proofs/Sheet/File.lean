import Mentorship.Proofs.Sequence
import Mentorship.Proofs.Sheet.Records
import Mentorship.Proofs.SmallNames
import Mentorship.Sheet.File

/-! Sheets read back from files. A table is written as text and read as bytes: the marks of a sheet
are bytes of their own in UTF-8, so the fields come back one by one, without the blanks at their
ends. Column names of small letters come back as they are. -/

namespace Mentorship

/-! ### Bytes of a text -/

namespace Text

/-- The bytes of characters. -/
def utf8 (cs : List Char) : List UInt8 :=
  cs.flatMap String.utf8EncodeChar

theorem toList_loop_eq (bytes : ByteArray) (i : Nat) (done : List UInt8) :
    ByteArray.toList.loop bytes i done = done.reverse ++ bytes.data.toList.drop i := by
  fun_induction ByteArray.toList.loop bytes i done with
  | case1 i done h ih =>
    have hi : i < bytes.data.toList.length := by simpa using h
    have hget : bytes.get! i = bytes.data.toList[i] := getElem!_pos bytes.data i h
    rw [ih, List.drop_eq_getElem_cons hi, List.reverse_cons, List.append_assoc, hget,
      List.singleton_append]
  | case2 i done h =>
    have hi : bytes.data.toList.length ≤ i := by simpa using h
    rw [List.drop_eq_nil_of_le hi, List.append_nil]

theorem toByteArray_utf8 (cs : List Char) : (utf8 cs).toByteArray = (String.ofList cs).toUTF8 := by
  rw [String.toUTF8_eq_toByteArray, ← String.utf8Encode_toList, String.toList_ofList,
    List.utf8Encode, utf8]

/-- A text as a file holds it. -/
theorem toList_toUTF8 (s : String) : s.toUTF8.toList = utf8 s.toList := by
  have hbytes := toByteArray_utf8 s.toList
  rw [String.ofList_toList] at hbytes
  rw [← hbytes, ByteArray.toList, toList_loop_eq, List.toList_data_toByteArray]
  rfl

theorem fromUTF8?_utf8 (cs : List Char) :
    String.fromUTF8? (utf8 cs).toByteArray = some (String.ofList cs) := by
  rw [toByteArray_utf8]
  exact dif_pos (String.ofList cs).isValidUTF8

theorem utf8EncodeChar_of_lt {c : Char} (hc : c.toNat < 128) :
    String.utf8EncodeChar c = [UInt8.ofNat c.toNat] := by
  have hval : c.val.toNat = c.toNat := rfl
  rw [String.utf8EncodeChar, hval]
  exact if_pos (Nat.le_of_lt_succ hc)

theorem toNat_ofNat_of_lt {n : Nat} (h : n < 256) : (UInt8.ofNat n).toNat = n :=
  UInt8.toNat_ofNat_of_lt' h

/-- A character above the first 128 has no byte below 128. -/
theorem le_toNat_of_mem_utf8EncodeChar {c : Char} (hc : 128 ≤ c.toNat) {b : UInt8}
    (hb : b ∈ String.utf8EncodeChar c) : 128 ≤ b.toNat := by
  have hval : c.val.toNat = c.toNat := rfl
  have hbyte (n : Nat) (hn : 128 ≤ n ∧ n < 256) : 128 ≤ (UInt8.ofNat n).toNat :=
    hn.1.trans_eq (toNat_ofNat_of_lt hn.2).symm
  simp only [String.utf8EncodeChar, hval] at hb
  split at hb
  · omega
  · split at hb
    · simp only [List.mem_cons, List.not_mem_nil, or_false] at hb
      rcases hb with rfl | rfl <;> exact hbyte _ (by omega)
    · split at hb
      · simp only [List.mem_cons, List.not_mem_nil, or_false] at hb
        rcases hb with rfl | rfl | rfl <;> exact hbyte _ (by omega)
      · simp only [List.mem_cons, List.not_mem_nil, or_false] at hb
        rcases hb with rfl | rfl | rfl | rfl <;> exact hbyte _ (by omega)

end Text

/-! ### Marks as bytes -/

namespace Sheet

open Text

/-- The code points of the marks of a sheet. -/
def markPoints : List Nat := [44, 34, 13, 10]

theorem isMark_charMarks (c : Char) : charMarks.isMark c = markPoints.any (c.toNat == ·) := by
  have h (d : Char) : (c == d) = (c.toNat == d.toNat) := by
    rw [Bool.eq_iff_iff, beq_iff_eq, beq_iff_eq]
    exact Char.toNat_inj.symm
  simp [Marks.isMark, Marks.isLineEnd, charMarks, markPoints, h, Bool.or_assoc]

theorem isMark_byteMarks (b : UInt8) : byteMarks.isMark b = markPoints.any (b.toNat == ·) := by
  have h (d : UInt8) : (b == d) = (b.toNat == d.toNat) := by
    rw [Bool.eq_iff_iff, beq_iff_eq, beq_iff_eq]
    exact UInt8.toNat_inj.symm
  simp [Marks.isMark, Marks.isLineEnd, byteMarks, markPoints, h, Bool.or_assoc]

theorem distinct_byteMarks : byteMarks.Distinct := by
  constructor <;> decide

/-- The marks of a sheet are single bytes, which occur in no other character. -/
theorem encodes_utf8 : Marks.Encodes String.utf8EncodeChar charMarks byteMarks where
  comma := by decide
  quote := by decide
  carriageReturn := by decide
  lineFeed := by decide
  other c hc b hb := by
    rw [isMark_charMarks] at hc
    rw [isMark_byteMarks]
    rcases Nat.lt_or_ge c.toNat 128 with hlt | hge
    · rw [utf8EncodeChar_of_lt hlt, List.mem_singleton] at hb
      rw [hb, toNat_ofNat_of_lt (by omega), hc]
    · have hle := le_toNat_of_mem_utf8EncodeChar hge hb
      simp only [markPoints, List.any_cons, List.any_nil, Bool.or_false, Bool.or_eq_false_iff,
        beq_eq_false_iff_ne]
      omega

/-! ### A written table -/

theorem fieldText_utf8 (s : String) : fieldText (utf8 s.toList) = .ok (trim s) := by
  simp only [fieldText, fromUTF8?_utf8, String.ofList_toList]

theorem isMark_of_isSmall {c : Char} (h : isSmall c = true) : charMarks.isMark c = false := by
  have hn := isSmall_iff.mp h
  rw [isMark_charMarks]
  simp only [markPoints, List.any_cons, List.any_nil, Bool.or_false, Bool.or_eq_false_iff,
    beq_eq_false_iff_ne]
  omega

/-- A text that begins with a small letter has no byte order mark in front. -/
theorem dropByteOrderMark_utf8 {c : Char} (h : isSmall c = true) (cs : List Char) :
    dropByteOrderMark (utf8 (c :: cs)) = utf8 (c :: cs) := by
  have hn := isSmall_iff.mp h
  have hbyte : UInt8.ofNat c.toNat ≠ 0xEF := by
    intro heq
    have hnat := congrArg UInt8.toNat heq
    rw [toNat_ofNat_of_lt (by omega)] at hnat
    have hmark : (0xEF : UInt8).toNat = 239 := rfl
    omega
  rw [utf8, List.flatMap_cons, utf8EncodeChar_of_lt (by omega), List.singleton_append,
    dropByteOrderMark]
  intro bytes heq
  exact absurd (List.head_eq_of_cons_eq heq) hbyte

theorem exists_intercalate_cons {α : Type} (sep x : List α) (xs : List (List α)) :
    ∃ rest, sep.intercalate (x :: xs) = x ++ rest := by
  cases xs with
  | nil => exact ⟨[], by rw [List.intercalate_singleton, List.append_nil]⟩
  | cons y ys => exact ⟨_, by rw [List.intercalate_cons_cons, List.append_assoc]⟩

/-- A table whose first column has a name of small letters begins with one. -/
theorem exists_toList_textOf {name : String} (names : List String) {rows : List (List String)}
    (hname : isSmallName name = true) (hrows : rows ≠ []) :
    ∃ c cs, isSmall c = true ∧ (textOf (name :: names) rows).toList = c :: cs := by
  rw [isSmallName, Bool.and_eq_true, Bool.not_eq_true', List.isEmpty_eq_false_iff,
    List.all_eq_true] at hname
  obtain ⟨hne, hsmall⟩ := hname
  obtain ⟨c, cs, hcs⟩ := List.exists_cons_of_ne_nil hne
  have hplain : charMarks.writeField name.toList = name.toList := by
    rw [Marks.writeField, Marks.needsQuotes_eq, if_neg]
    rw [Bool.not_eq_true, List.any_eq_false]
    exact fun d hd => by simp [isMark_of_isSmall (hsmall d hd)]
  obtain ⟨rest, hrest⟩ := exists_intercalate_cons [charMarks.comma] name.toList
    ((names.map String.toList).map charMarks.writeField)
  have hfirst : isSmall c = true := hsmall c (hcs ▸ List.mem_cons_self)
  rw [textOf, if_neg (by simpa using hrows), String.toList_ofList, Marks.write, List.map_cons,
    List.flatMap_cons, Marks.writeRecord, List.map_cons, List.map_cons, hplain, hrest, hcs]
  exact ⟨c, _, hfirst, rfl⟩

section WrittenTable
variable {columns : List String} {rows : List (List String)}
variable (hnames : ∀ name ∈ columns, isSmallName name = true)
variable (hwide : ∀ row ∈ columns :: rows, 2 ≤ row.length) (hrows : rows ≠ [])

include hnames hwide hrows in
theorem dropByteOrderMark_textOf :
    dropByteOrderMark (utf8 (textOf columns rows).toList) = utf8 (textOf columns rows).toList := by
  cases columns with
  | nil => simpa using hwide [] List.mem_cons_self
  | cons name names =>
    obtain ⟨c, cs, hc, htext⟩ := exists_toList_textOf names (hnames name List.mem_cons_self) hrows
    rw [htext, dropByteOrderMark_utf8 hc]

include hnames hwide hrows in
/-- The records of a written table are its lines, encoded. -/
theorem read_textOf :
    byteMarks.read (dropByteOrderMark (textOf columns rows).toUTF8.toList) =
      (columns :: rows).map (·.map fun s => utf8 s.toList) := by
  rw [toList_toUTF8, dropByteOrderMark_textOf hnames hwide hrows, textOf,
    if_neg (by simpa using hrows), String.toList_ofList, utf8,
    encodes_utf8.write_flatMap distinct_byteMarks, Marks.read_write distinct_byteMarks,
    List.filter_eq_self.mpr]
  · simp [Function.comp_def, utf8]
  · intro record hrecord
    obtain ⟨row, hrow, rfl⟩ := List.mem_map.mp hrecord
    obtain ⟨cells, hcells, rfl⟩ := List.mem_map.mp hrow
    rw [Marks.isEmptyLine_of_two_le (by simpa using hwide cells hcells), Bool.not_false]

include hnames hwide hrows in
/-- A table that was written is read back: the column names as they are, and the rows in their order
with the blanks at the ends of their cells removed. -/
theorem ofBytes_textOf :
    ofBytes (textOf columns rows).toUTF8.toList = .ok ⟨columns, rows.map (·.map trim)⟩ := by
  have hfields : ((columns :: rows).map (·.map fun s => utf8 s.toList)).mapM (·.mapM fieldText) =
      .ok ((columns :: rows).map (·.map trim)) := by
    rw [List.mapM_map]
    refine mapM_eq_ok fun row _ => ?_
    rw [Function.comp_apply, List.mapM_map]
    exact mapM_eq_ok fun s _ => fieldText_utf8 s
  have hcolumns : columns.map trim = columns :=
    (List.map_congr_left fun name h => trim_of_isSmallName (hnames name h)).trans (List.map_id' _)
  rw [ofBytes, read_textOf hnames hwide hrows, hfields, List.map_cons, hcolumns]
  rfl

end WrittenTable

/-! ### Cells -/

/-- The cells of a file have no blanks at their ends. -/
theorem trim_cellAt_of_ofBytes {bytes : List UInt8} {sheet : Sheet}
    (h : ofBytes bytes = .ok sheet) {cells : List String} (hcells : cells ∈ sheet.rows)
    (column : Nat) : trim (cellAt cells column) = cellAt cells column := by
  rw [ofBytes, bind_eq_ok_iff] at h
  obtain ⟨records, hrecords, h⟩ := h
  rw [pure_eq_ok_iff] at h
  subst h
  have hmem : cells ∈ records := by
    cases records with
    | nil => simp [ofRecords] at hcells
    | cons headers rows => exact List.mem_cons_of_mem _ hcells
  obtain ⟨fields, -, hfields⟩ := exists_of_mem_of_mapM_eq_ok hrecords hmem
  rw [cellAt, List.getD_eq_getElem?_getD]
  cases hcell : cells[column]? with
  | none => rfl
  | some cell =>
    obtain ⟨field, -, hfield⟩ := exists_of_mem_of_mapM_eq_ok hfields (List.mem_of_getElem? hcell)
    rw [fieldText] at hfield
    split at hfield
    · rw [Option.getD_some, ← Except.ok.inj hfield, trim_trim]
    · cases hfield

/-! ### A row per item -/

/-- Columns in small letters, at least two, and a field for each of them in the row of an item. -/
structure IsTable {α : Type} (columns : List String) (row : α → List String) : Prop where
  names : ∀ name ∈ columns, isSmallName name = true
  wide : 2 ≤ columns.length
  length_row : ∀ x, (row x).length = columns.length

/-- A table of items, read back. -/
theorem IsTable.ofBytes_textOf {α : Type} {columns : List String} {row : α → List String}
    (h : IsTable columns row) {xs : List α} (hxs : xs ≠ []) :
    ofBytes (textOf columns (xs.map row)).toUTF8.toList =
      .ok ⟨columns, xs.map fun x => (row x).map trim⟩ := by
  have hwide : ∀ cells ∈ columns :: xs.map row, 2 ≤ cells.length := by
    intro cells hcells
    rcases List.mem_cons.mp hcells with rfl | hcells
    · exact h.wide
    · obtain ⟨x, -, rfl⟩ := List.mem_map.mp hcells
      rw [h.length_row x]
      exact h.wide
  have hrows : xs.map row ≠ [] := by simpa using hxs
  rw [Sheet.ofBytes_textOf h.names hwide hrows, List.map_map]
  rfl

end Sheet

end Mentorship
