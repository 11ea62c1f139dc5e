import Mentorship.Proofs.Trimming
import Mentorship.Text.Label

/-! Words and the text in which single spaces part them. A blank parts the words before it from
those after it; from this, collapsing is done once, and a trimmed text is left as it is exactly if
collapsing it gives a text without blanks. -/

namespace Mentorship.Text

/-! ### Words of a text -/

/-- One character or more, and no blank among them. -/
structure IsWord (w : List Char) : Prop where
  ne_nil : w ≠ []
  not_isBlank : ∀ c ∈ w, isBlank c = false

section Words

variable {b c : Char} {cs w : List Char}

theorem wordsOf_cons_of_isBlank (h : isBlank c = true) (cs : List Char) :
    wordsOf (c :: cs) = wordsOf cs := by
  rw [wordsOf, if_pos h]

theorem wordsOf_cons_ne_nil (h : isBlank c = false) (cs : List Char) : wordsOf (c :: cs) ≠ [] := by
  induction cs generalizing c with
  | nil => simp [wordsOf, h]
  | cons d cs ih =>
    rw [wordsOf, h, if_neg Bool.false_ne_true]
    cases hd : isBlank d with
    | true => simp [hd]
    | false => simpa [hd] using ih hd

/-- A blank parts the words before it from those after it. -/
theorem wordsOf_append_cons (h : isBlank b = true) (xs ys : List Char) :
    wordsOf (xs ++ b :: ys) = wordsOf xs ++ wordsOf ys := by
  induction xs with
  | nil => exact wordsOf_cons_of_isBlank h ys
  | cons x xs ih =>
    cases hx : isBlank x with
    | true => rw [List.cons_append, wordsOf_cons_of_isBlank hx, wordsOf_cons_of_isBlank hx, ih]
    | false =>
      rw [List.cons_append, wordsOf, wordsOf, ih, hx]
      cases xs with
      | nil => simp [h, wordsOf]
      | cons z zs =>
        cases hz : isBlank z with
        | true => simp [hz]
        | false =>
          obtain ⟨w, ws, hws⟩ := List.exists_cons_of_ne_nil (wordsOf_cons_ne_nil hz zs)
          simp [hz, hws]

theorem wordsOf_eq_nil_iff : wordsOf cs = [] ↔ ∀ c ∈ cs, isBlank c = true := by
  induction cs with
  | nil => simp [wordsOf]
  | cons c cs ih =>
    cases hc : isBlank c with
    | true => rw [wordsOf_cons_of_isBlank hc, ih, List.forall_mem_cons, hc, eq_self, true_and]
    | false => simp [wordsOf_cons_ne_nil hc, hc]

/-- Blanks in front belong to no word. -/
theorem wordsOf_append_of_blank_left {bs : List Char} (h : ∀ c ∈ bs, isBlank c = true)
    (cs : List Char) : wordsOf (bs ++ cs) = wordsOf cs := by
  induction bs with
  | nil => rfl
  | cons b bs ih =>
    rw [List.forall_mem_cons] at h
    rw [List.cons_append, wordsOf_cons_of_isBlank h.1, ih h.2]

/-- Blanks at the end belong to no word. -/
theorem wordsOf_append_of_blank_right {es : List Char} (h : ∀ c ∈ es, isBlank c = true)
    (cs : List Char) : wordsOf (cs ++ es) = wordsOf cs := by
  cases es with
  | nil => rw [List.append_nil]
  | cons e es =>
    rw [List.forall_mem_cons] at h
    rw [wordsOf_append_cons h.1, wordsOf_eq_nil_iff.mpr h.2, List.append_nil]

/-- Characters without a blank among them are one word. -/
theorem wordsOf_of_isWord (h : IsWord w) : wordsOf w = [w] := by
  obtain ⟨hne, hw⟩ := h
  induction w with
  | nil => exact absurd rfl hne
  | cons c cs ih =>
    rw [List.forall_mem_cons] at hw
    rw [wordsOf, hw.1, if_neg Bool.false_ne_true]
    cases cs with
    | nil => rfl
    | cons d ds => simp [hw.2 d List.mem_cons_self, ih (List.cons_ne_nil d ds) hw.2]

/-- The words of a text are words, made of its characters. -/
theorem isWord_of_mem_wordsOf (h : w ∈ wordsOf cs) : IsWord w ∧ ∀ c ∈ w, c ∈ cs := by
  induction cs generalizing w with
  | nil => simp [wordsOf] at h
  | cons c cs ih =>
    have hlater : ∀ v ∈ wordsOf cs, IsWord v ∧ ∀ d ∈ v, d ∈ c :: cs := fun v hv =>
      ⟨(ih hv).1, fun d hd => List.mem_cons_of_mem c ((ih hv).2 d hd)⟩
    cases hc : isBlank c with
    | true => exact hlater w (wordsOf_cons_of_isBlank hc cs ▸ h)
    | false =>
      rw [wordsOf, hc, if_neg Bool.false_ne_true] at h
      split_ifs at h with hhead
      · rcases List.mem_cons.mp h with rfl | h
        · exact ⟨⟨List.cons_ne_nil c [], by simpa using hc⟩, by simp⟩
        · exact hlater w h
      · cases hws : wordsOf cs with
        | nil => simp [hws] at h
        | cons v vs =>
          rw [hws, List.forall_mem_cons] at hlater
          rw [hws, List.modifyHead_cons, List.mem_cons] at h
          rcases h with rfl | h
          · refine ⟨⟨List.cons_ne_nil c v, ?_⟩, ?_⟩
            · exact List.forall_mem_cons.mpr ⟨hc, hlater.1.1.not_isBlank⟩
            · exact List.forall_mem_cons.mpr ⟨List.mem_cons_self, hlater.1.2⟩
          · exact hlater.2 w h

/-- A text with a single word is that word with blanks around it. -/
theorem exists_of_wordsOf_eq_singleton (h : wordsOf cs = [w]) :
    ∃ bs es, cs = bs ++ w ++ es ∧ (∀ c ∈ bs, isBlank c = true) ∧ ∀ c ∈ es, isBlank c = true := by
  induction cs generalizing w with
  | nil => simp [wordsOf] at h
  | cons c cs ih =>
    cases hc : isBlank c with
    | true =>
      rw [wordsOf_cons_of_isBlank hc] at h
      obtain ⟨bs, es, rfl, hbs, hes⟩ := ih h
      exact ⟨c :: bs, es, rfl, List.forall_mem_cons.mpr ⟨hc, hbs⟩, hes⟩
    | false =>
      rw [wordsOf, hc, if_neg Bool.false_ne_true] at h
      split_ifs at h with hhead
      · obtain ⟨rfl, hnil⟩ := List.cons.inj h
        exact ⟨[], cs, rfl, by simp, wordsOf_eq_nil_iff.mp hnil⟩
      · cases hws : wordsOf cs with
        | nil => simp [hws] at h
        | cons v vs =>
          rw [hws, List.modifyHead_cons] at h
          obtain ⟨rfl, rfl⟩ := List.cons.inj h
          obtain ⟨bs, es, rfl, hbs, hes⟩ := ih hws
          -- the word goes on with `c`, so no blank stands between
          cases bs with
          | nil => exact ⟨[], es, rfl, hbs, hes⟩
          | cons b bs => simp [hbs b List.mem_cons_self] at hhead

end Words

/-! ### Collapsing -/

section Collapsing

variable {s : String}

/-- Words with single spaces between them are found again. -/
theorem wordsOf_intercalate {ws : List (List Char)} (h : ∀ w ∈ ws, IsWord w) :
    wordsOf ([' '].intercalate ws) = ws := by
  induction ws with
  | nil => rfl
  | cons w ws ih =>
    rw [List.forall_mem_cons] at h
    cases ws with
    | nil => rw [List.intercalate_singleton, wordsOf_of_isWord h.1]
    | cons v vs =>
      rw [List.intercalate_cons_cons, List.append_assoc, List.singleton_append,
        wordsOf_append_cons (by decide), wordsOf_of_isWord h.1, ih h.2, List.singleton_append]

theorem wordsOf_collapse (s : String) : wordsOf (collapse s).toList = wordsOf s.toList := by
  rw [collapse, String.toList_ofList]
  exact wordsOf_intercalate fun w hw => (isWord_of_mem_wordsOf hw).1

theorem collapse_collapse (s : String) : collapse (collapse s) = collapse s := by
  rw [collapse, wordsOf_collapse]
  rfl

theorem mem_of_mem_intercalate {c d : Char} {ws : List (List Char)}
    (h : c ∈ [d].intercalate ws) : c = d ∨ ∃ w ∈ ws, c ∈ w := by
  induction ws with
  | nil => simp at h
  | cons w ws ih =>
    cases ws with
    | nil => simp_all
    | cons v vs =>
      rw [List.intercalate_cons_cons, List.mem_append, List.mem_append, List.mem_singleton] at h
      rcases h with (h | h) | h
      · exact .inr ⟨w, List.mem_cons_self, h⟩
      · exact .inl h
      · exact (ih h).imp_right fun ⟨u, hu, hc⟩ => ⟨u, List.mem_cons_of_mem w hu, hc⟩

/-- Nothing but spaces is added. -/
theorem mem_of_mem_collapse {c : Char} (h : c ∈ (collapse s).toList) : c = ' ' ∨ c ∈ s.toList := by
  rw [collapse, String.toList_ofList] at h
  exact (mem_of_mem_intercalate h).imp_right fun ⟨w, hw, hc⟩ => (isWord_of_mem_wordsOf hw).2 c hc

/-- A trimmed text without blanks is not changed by collapsing. -/
theorem collapse_of_trim (h : ∀ c ∈ (trim s).toList, isBlank c = false) : collapse s = trim s := by
  obtain ⟨bs, es, hs, hbs, hes⟩ := exists_append_trimChars s.toList
  have hwords : wordsOf s.toList = wordsOf (trimChars s.toList) := by
    conv_lhs => rw [hs]
    rw [wordsOf_append_of_blank_right hes, wordsOf_append_of_blank_left hbs]
  rw [trim, String.toList_ofList] at h
  rw [collapse, hwords, trim]
  by_cases hnil : trimChars s.toList = []
  · rw [hnil]
    rfl
  · rw [wordsOf_of_isWord ⟨hnil, h⟩, List.intercalate_singleton]

/-- A collapsed text without blanks is the trimmed text. -/
theorem trim_of_collapse (h : ∀ c ∈ (collapse s).toList, isBlank c = false) :
    trim s = collapse s := by
  rw [collapse, String.toList_ofList] at h
  rw [trim, collapse]
  cases hws : wordsOf s.toList with
  | nil =>
    have htrim := trimChars_append (wordsOf_eq_nil_iff.mp hws) (List.forall_mem_nil _)
      (List.forall_mem_nil _)
    rw [List.append_nil, List.append_nil] at htrim
    rw [htrim]
    rfl
  | cons w ws =>
    rw [hws] at h
    cases ws with
    | nil =>
      obtain ⟨bs, es, hs, hbs, hes⟩ := exists_of_wordsOf_eq_singleton hws
      rw [List.intercalate_singleton] at h
      rw [hs, trimChars_append hbs h hes, List.intercalate_singleton]
    | cons v vs =>
      have hspace : ' ' ∈ [' '].intercalate (w :: v :: vs) := by
        simp [List.intercalate_cons_cons]
      exact absurd (h ' ' hspace) (by decide)

/-- What collapsing leaves without blanks inside is as trimming leaves it. -/
theorem trim_collapse_of_trim (h : ∀ c ∈ (trim (collapse s)).toList, isBlank c = false) :
    trim (collapse s) = trim s := by
  have houter : trim (collapse s) = collapse s := by rw [← collapse_of_trim h, collapse_collapse]
  rw [houter] at h ⊢
  exact (trim_of_collapse h).symm

end Collapsing

/-! ### Labels -/

/-- Blanks around a text are not seen in its label. -/
theorem label_trim (s : String) : label (trim s) = label s := by
  obtain ⟨bs, es, hs, hbs, hes⟩ := exists_append_trimChars s.toList
  have hblank {cs : List Char} (h : ∀ c ∈ cs, isBlank c = true) :
      ∀ c ∈ cs.map fun c => if isInvisible c then ' ' else c, isBlank c = true := by
    rw [List.forall_mem_map]
    intro c hc
    split
    · rfl
    · exact h c hc
  have hwords : wordsOf (s.toList.map fun c => if isInvisible c then ' ' else c) =
      wordsOf ((trimChars s.toList).map fun c => if isInvisible c then ' ' else c) := by
    conv_lhs => rw [hs]
    rw [List.map_append, List.map_append, wordsOf_append_of_blank_right (hblank hes),
      wordsOf_append_of_blank_left (hblank hbs)]
  rw [label, label, collapse, collapse, trim, String.toList_ofList, String.toList_ofList,
    String.toList_ofList, hwords]

end Mentorship.Text
