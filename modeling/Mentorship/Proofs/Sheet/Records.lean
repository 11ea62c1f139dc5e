import Mentorship.Sheet.Records

/-! Records read back. Reading what was written gives the records again, whatever symbols their
fields hold, except for those that are written as an empty line. An encoding under which marks stay
marks, and no other symbol comes to look like one, may be applied before writing or after it. -/

namespace Mentorship.Sheet.Marks

variable {α : Type} [DecidableEq α]

/-! ### Marks -/

/-- The marks that reading tells apart are different symbols. -/
structure Distinct (m : Marks α) : Prop where
  comma_ne_quote : m.comma ≠ m.quote
  isLineEnd_comma : m.isLineEnd m.comma = false
  isLineEnd_quote : m.isLineEnd m.quote = false

/-- The symbols for which a field needs quotes. -/
def isMark (m : Marks α) (c : α) : Bool :=
  c == m.comma || c == m.quote || m.isLineEnd c

variable {m : Marks α} {c : α}

theorem needsQuotes_eq (field : List α) : m.needsQuotes field = field.any m.isMark := rfl

theorem isLineEnd_lineFeed (m : Marks α) : m.isLineEnd m.lineFeed = true := by
  simp [isLineEnd]

theorem isMark_eq_false_iff :
    m.isMark c = false ↔ c ≠ m.comma ∧ c ≠ m.quote ∧ m.isLineEnd c = false := by
  simp [isMark, and_assoc]

theorem eq_of_isMark (h : m.isMark c = true) :
    c = m.comma ∨ c = m.quote ∨ c = m.carriageReturn ∨ c = m.lineFeed := by
  simpa [isMark, isLineEnd, or_assoc] using h

/-- A field with every quote in it written twice. -/
def doubled (m : Marks α) (field : List α) : List α :=
  field.flatMap fun c => if c == m.quote then [c, c] else [c]

theorem quoteField_eq (field : List α) :
    m.quoteField field = m.quote :: (m.doubled field ++ [m.quote]) := rfl

/-! ### Reading a field -/

/-- The record under way after more symbols of its field. -/
def Pending.pushAll (p : Pending α) (cs : List α) : Pending α :=
  { p with field := cs.reverse ++ p.field }

omit [DecidableEq α] in
theorem Pending.pushAll_cons (p : Pending α) (c : α) (cs : List α) :
    p.pushAll (c :: cs) = (p.push c).pushAll cs := by
  simp [pushAll, push]

omit [DecidableEq α] in
theorem Pending.endField_pushAll (fields : List (List α)) (cs : List α) :
    (Pending.pushAll ⟨fields, []⟩ cs).endField = ⟨cs :: fields, []⟩ := by
  simp [pushAll, endField]

theorem readFrom_of_not_isMark {place : Place} (hplace : place ≠ .quoted) (h : m.isMark c = false)
    (p : Pending α) (cs : List α) :
    m.readFrom place p (c :: cs) = m.readFrom .plain (p.push c) cs := by
  obtain ⟨hcomma, hquote, hline⟩ := isMark_eq_false_iff.mp h
  cases place with
  | quoted => exact absurd rfl hplace
  | _ => simp [readFrom, hcomma, hquote, hline]

theorem readFrom_plain {cs : List α} (h : ∀ c ∈ cs, m.isMark c = false) (p : Pending α)
    (rest : List α) : m.readFrom .plain p (cs ++ rest) = m.readFrom .plain (p.pushAll cs) rest := by
  induction cs generalizing p with
  | nil => rfl
  | cons c cs ih =>
    rw [List.forall_mem_cons] at h
    rw [List.cons_append, readFrom_of_not_isMark (by decide) h.1, ih h.2, Pending.pushAll_cons]

/-- Inside quotes a quote written twice is one of the field, and every other symbol is itself. -/
theorem readFrom_doubled (p : Pending α) (cs rest : List α) :
    m.readFrom .quoted p (m.doubled cs ++ rest) = m.readFrom .quoted (p.pushAll cs) rest := by
  induction cs generalizing p with
  | nil => rfl
  | cons c cs ih =>
    rw [Pending.pushAll_cons, ← ih]
    by_cases h : c = m.quote <;> simp [doubled, readFrom, h]

/-- Where reading stands behind a written field that began at `start`. -/
def placeAfter (m : Marks α) (start : Place) (field : List α) : Place :=
  if m.needsQuotes field then .afterQuote else if field.isEmpty then start else .plain

theorem readFrom_quote (hm : m.Distinct) {start : Place}
    (hstart : start = .recordStart ∨ start = .fieldStart) (p : Pending α) (cs : List α) :
    m.readFrom start p (m.quote :: cs) = m.readFrom .quoted p cs := by
  rcases hstart with rfl | rfl <;>
    simp [readFrom, hm.isLineEnd_quote, Ne.symm hm.comma_ne_quote]

/-- A field is read as it was written. -/
theorem readFrom_writeField (hm : m.Distinct) {start : Place}
    (hstart : start = .recordStart ∨ start = .fieldStart) (p : Pending α) (field rest : List α) :
    m.readFrom start p (m.writeField field ++ rest) =
      m.readFrom (m.placeAfter start field) (p.pushAll field) rest := by
  cases hquotes : m.needsQuotes field with
  | true =>
    have hlast : ∀ p', m.readFrom .quoted p' (m.quote :: rest) =
        m.readFrom .afterQuote p' rest := fun p' => by simp [readFrom]
    simp only [writeField, placeAfter, hquotes, if_true, quoteField_eq, List.cons_append,
      List.append_assoc, List.nil_append]
    rw [readFrom_quote hm hstart, readFrom_doubled, hlast]
  | false =>
    simp only [writeField, placeAfter, hquotes, Bool.false_eq_true, if_false]
    rw [needsQuotes_eq, List.any_eq_false] at hquotes
    have hplain : ∀ c ∈ field, m.isMark c = false := fun c hc => by simpa using hquotes c hc
    cases field with
    | nil => rfl
    | cons c cs =>
      rw [List.forall_mem_cons] at hplain
      have hplace : start ≠ .quoted := by rcases hstart with rfl | rfl <;> decide
      rw [List.cons_append, readFrom_of_not_isMark hplace hplain.1, readFrom_plain hplain.2,
        ← Pending.pushAll_cons]
      rfl

/-! ### Reading records -/

theorem readFrom_comma (hm : m.Distinct) {place : Place} (hplace : place ≠ .quoted)
    (p : Pending α) (cs : List α) :
    m.readFrom place p (m.comma :: cs) = m.readFrom .fieldStart p.endField cs := by
  cases place with
  | quoted => exact absurd rfl hplace
  | _ => simp [readFrom, hm.comma_ne_quote, hm.isLineEnd_comma]

theorem lineFeed_ne_quote (hm : m.Distinct) : m.lineFeed ≠ m.quote := by
  intro h
  have hline := isLineEnd_lineFeed m
  rw [h, hm.isLineEnd_quote] at hline
  cases hline

theorem readFrom_lineFeed (hm : m.Distinct) {place : Place} (hplace : place ≠ .quoted)
    (hstart : place ≠ .recordStart) (p : Pending α) (cs : List α) :
    m.readFrom place p (m.lineFeed :: cs) = p.record :: m.readFrom .recordStart {} cs := by
  have hquote := lineFeed_ne_quote hm
  cases place with
  | quoted => exact absurd rfl hplace
  | recordStart => exact absurd rfl hstart
  | _ => simp [readFrom, hquote, isLineEnd_lineFeed]

theorem placeAfter_ne_quoted {start : Place}
    (hstart : start = .recordStart ∨ start = .fieldStart) (field : List α) :
    m.placeAfter start field ≠ .quoted := by
  rw [placeAfter]
  split
  · decide
  · split
    · rcases hstart with rfl | rfl <;> decide
    · decide

theorem placeAfter_ne_recordStart {start : Place} {field : List α}
    (h : start = .recordStart → field ≠ []) : m.placeAfter start field ≠ .recordStart := by
  rw [placeAfter]
  split
  · decide
  · split
    · rename_i hempty
      exact fun hstart => h hstart (List.isEmpty_iff.mp hempty)
    · decide

/-- Records that are written as an empty line. -/
def isEmptyLine : List (List α) → Bool
  | [] => true
  | [[]] => true
  | _ => false

omit [DecidableEq α] in
theorem isEmptyLine_of_two_le {record : List (List α)} (h : 2 ≤ record.length) :
    isEmptyLine record = false := by
  unfold isEmptyLine
  split
  · simp at h
  · simp at h
  · rfl

/-- The fields of a record are read as they were written, after those read before. -/
theorem readFrom_fields (hm : m.Distinct) {start : Place}
    (hstart : start = .recordStart ∨ start = .fieldStart) {fields : List (List α)}
    (hne : fields ≠ []) (hline : start = .recordStart → fields ≠ [[]]) (done : List (List α))
    (rest : List α) :
    m.readFrom start ⟨done, []⟩
        ([m.comma].intercalate (fields.map m.writeField) ++ m.lineFeed :: rest) =
      (done.reverse ++ fields) :: m.readFrom .recordStart {} rest := by
  -- Only the first field of a record stands at its start, so the place varies in the induction.
  induction fields generalizing start done with
  | nil => exact absurd rfl hne
  | cons field fields ih =>
    have hquoted := placeAfter_ne_quoted (m := m) hstart field
    cases fields with
    | nil =>
      have hfirst : m.placeAfter start field ≠ .recordStart :=
        placeAfter_ne_recordStart fun h hfield => hline h (hfield ▸ rfl)
      rw [List.map_singleton, List.intercalate_singleton, readFrom_writeField hm hstart,
        readFrom_lineFeed hm hquoted hfirst, Pending.record, Pending.endField_pushAll,
        List.reverse_cons]
    | cons next fields =>
      have hnext : Place.fieldStart = .recordStart ∨ Place.fieldStart = .fieldStart := .inr rfl
      have hrest := ih hnext (List.cons_ne_nil _ _) nofun (field :: done)
      rw [List.map_cons, List.map_cons, List.intercalate_cons_cons, List.append_assoc,
        List.append_assoc, readFrom_writeField hm hstart, List.singleton_append,
        readFrom_comma hm hquoted, Pending.endField_pushAll, ← List.map_cons, hrest,
        List.reverse_cons, List.append_assoc, List.singleton_append]

theorem readFrom_writeRecord (hm : m.Distinct) {record : List (List α)}
    (h : isEmptyLine record = false) (rest : List α) :
    m.readFrom .recordStart {} (m.writeRecord record ++ rest) =
      record :: m.readFrom .recordStart {} rest := by
  have hne : record ≠ [] := by rintro rfl; cases h
  have hline : record ≠ [[]] := by rintro rfl; cases h
  rw [writeRecord, List.append_assoc, List.singleton_append,
    readFrom_fields hm (.inl rfl) hne fun _ => hline]
  rfl

/-- An empty line holds no record. -/
theorem readFrom_writeRecord_of_isEmptyLine (hm : m.Distinct) {record : List (List α)}
    (h : isEmptyLine record = true) (rest : List α) :
    m.readFrom .recordStart {} (m.writeRecord record ++ rest) = m.readFrom .recordStart {} rest := by
  have hwritten : m.writeRecord record = [m.lineFeed] := by
    unfold isEmptyLine at h
    split at h
    · rfl
    · rfl
    · cases h
  have hquote := lineFeed_ne_quote hm
  rw [hwritten, List.singleton_append]
  simp [readFrom, hquote, isLineEnd_lineFeed]

/-- Reading undoes writing, but for empty lines. -/
theorem read_write (hm : m.Distinct) (records : List (List (List α))) :
    m.read (m.write records) = records.filter (!isEmptyLine ·) := by
  unfold read write
  induction records with
  | nil => rfl
  | cons record records ih =>
    rw [List.flatMap_cons, List.filter_cons]
    cases h : isEmptyLine record with
    | true => simp [readFrom_writeRecord_of_isEmptyLine hm h, ih]
    | false => simp [readFrom_writeRecord hm h, ih]

/-! ### Encodings -/

variable {β : Type} [DecidableEq β]

/-- An encoding of symbols that keeps marks, and under which no other symbol looks like one. -/
structure Encodes (encode : α → List β) (m : Marks α) (m' : Marks β) : Prop where
  comma : encode m.comma = [m'.comma]
  quote : encode m.quote = [m'.quote]
  carriageReturn : encode m.carriageReturn = [m'.carriageReturn]
  lineFeed : encode m.lineFeed = [m'.lineFeed]
  other : ∀ c, m.isMark c = false → ∀ b ∈ encode c, m'.isMark b = false

namespace Encodes

variable {encode : α → List β} {m' : Marks β} (h : Encodes encode m m')

include h in
theorem any_isMark (c : α) : (encode c).any m'.isMark = m.isMark c := by
  cases hc : m.isMark c with
  | true =>
    rcases eq_of_isMark hc with rfl | rfl | rfl | rfl
    · simp [h.comma, isMark]
    · simp [h.quote, isMark]
    · simp [h.carriageReturn, isMark, isLineEnd]
    · simp [h.lineFeed, isMark, isLineEnd]
  | false => simpa using h.other c hc

include h in
theorem needsQuotes_flatMap (field : List α) :
    m'.needsQuotes (field.flatMap encode) = m.needsQuotes field := by
  rw [needsQuotes_eq, needsQuotes_eq, List.any_flatMap]
  congr 1
  funext c
  exact h.any_isMark c

include h in
/-- A symbol other than the quote is encoded without quotes. -/
theorem quote_not_mem (hm' : m'.Distinct) (hc : c ≠ m.quote) : m'.quote ∉ encode c := by
  intro hmem
  cases hmark : m.isMark c with
  | true =>
    rcases eq_of_isMark hmark with rfl | rfl | rfl | rfl
    · rw [h.comma, List.mem_singleton] at hmem
      exact hm'.comma_ne_quote hmem.symm
    · exact hc rfl
    · rw [h.carriageReturn, List.mem_singleton] at hmem
      have hline := hm'.isLineEnd_quote
      simp [isLineEnd, hmem] at hline
    · rw [h.lineFeed, List.mem_singleton] at hmem
      exact lineFeed_ne_quote hm' hmem.symm
  | false => exact (isMark_eq_false_iff.mp (h.other c hmark _ hmem)).2.1 rfl

omit [DecidableEq α] in
theorem doubled_of_not_mem {field : List β} (hfield : m'.quote ∉ field) :
    m'.doubled field = field := by
  induction field with
  | nil => rfl
  | cons b field ih =>
    obtain ⟨hb, hfield⟩ := List.ne_and_not_mem_of_not_mem_cons hfield
    have hcons : m'.doubled (b :: field) = [b] ++ m'.doubled field := by
      simp [doubled, hb.symm]
    rw [hcons, ih hfield, List.singleton_append]

include h in
theorem doubled_flatMap (hm' : m'.Distinct) (field : List α) :
    (m.doubled field).flatMap encode = m'.doubled (field.flatMap encode) := by
  induction field with
  | nil => rfl
  | cons c field ih =>
    have hcons : m.doubled (c :: field) =
        (if c == m.quote then [c, c] else [c]) ++ m.doubled field := rfl
    have hsplit : m'.doubled ((c :: field).flatMap encode) =
        m'.doubled (encode c) ++ m'.doubled (field.flatMap encode) := by
      rw [List.flatMap_cons, doubled, List.flatMap_append]
      rfl
    rw [hcons, List.flatMap_append, ih, hsplit]
    by_cases hc : c = m.quote
    · simp [hc, h.quote, doubled]
    · simp [hc, doubled_of_not_mem (h.quote_not_mem hm' hc)]

include h in
theorem writeField_flatMap (hm' : m'.Distinct) (field : List α) :
    (m.writeField field).flatMap encode = m'.writeField (field.flatMap encode) := by
  rw [writeField, writeField, h.needsQuotes_flatMap]
  split
  · simp [quoteField_eq, h.quote, h.doubled_flatMap hm']
  · rfl

include h in
theorem fields_flatMap (hm' : m'.Distinct) (fields : List (List α)) :
    ([m.comma].intercalate (fields.map m.writeField)).flatMap encode =
      [m'.comma].intercalate ((fields.map (·.flatMap encode)).map m'.writeField) := by
  induction fields with
  | nil => rfl
  | cons field fields ih =>
    cases fields with
    | nil => simp [h.writeField_flatMap hm']
    | cons next fields =>
      simp only [List.map_cons, List.intercalate_cons_cons, List.flatMap_append,
        h.writeField_flatMap hm'] at ih ⊢
      simp [ih, h.comma]

include h in
/-- What was written and then encoded is the encoded records, written. -/
theorem write_flatMap (hm' : m'.Distinct) (records : List (List (List α))) :
    (m.write records).flatMap encode =
      m'.write (records.map (·.map (·.flatMap encode))) := by
  simp [write, writeRecord, List.flatMap_assoc, List.flatMap_map, h.fields_flatMap hm',
    h.lineFeed]

end Encodes

end Mentorship.Sheet.Marks
