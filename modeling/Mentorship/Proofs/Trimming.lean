import Mathlib.Data.List.DropRight
import Mentorship.Text.Blank

/-! Trimming is done once: what is left of a text has no blanks at its ends. -/

namespace Mentorship.Text

theorem trimEndChars_eq (cs : List Char) : trimEndChars cs = cs.rdropWhile isBlank := rfl

/-- What is left in front after trimming the end is still no blank. -/
theorem trimStartChars_trimChars (cs : List Char) : trimStartChars (trimChars cs) = trimChars cs := by
  obtain ⟨rest, hrest⟩ := List.rdropWhile_prefix isBlank (l := trimStartChars cs)
  rw [← trimEndChars_eq, ← trimChars] at hrest
  cases h : trimChars cs with
  | nil => rfl
  | cons c es =>
    have hhead := List.head?_dropWhile_not isBlank cs
    rw [← trimStartChars, ← hrest, h] at hhead
    rw [trimStartChars, List.dropWhile_cons_of_neg]
    simpa using hhead

theorem trimChars_trimChars (cs : List Char) : trimChars (trimChars cs) = trimChars cs := by
  have houter : trimChars (trimChars cs) = trimEndChars (trimStartChars (trimChars cs)) := rfl
  rw [houter, trimStartChars_trimChars, trimChars, trimEndChars_eq, trimEndChars_eq,
    List.rdropWhile_idempotent]

@[simp] theorem trim_trim (s : String) : trim (trim s) = trim s := by
  rw [trim, trim, String.toList_ofList, trimChars_trimChars]

theorem dropWhile_isBlank_of_not_isBlank {cs : List Char} (h : ∀ c ∈ cs, isBlank c = false) :
    cs.dropWhile isBlank = cs := by
  cases cs with
  | nil => rfl
  | cons c cs =>
    rw [List.dropWhile_cons_of_neg]
    simp [h c List.mem_cons_self]

/-- Blanks are dropped from the front up to what begins with none. -/
theorem trimStartChars_append {xs ys : List Char} (h : ∀ c ∈ ys.head?, isBlank c = false) :
    trimStartChars (xs ++ ys) = trimStartChars xs ++ ys := by
  have hys : ys.dropWhile isBlank = ys := by
    cases ys with
    | nil => rfl
    | cons c ys => rw [List.dropWhile_cons_of_neg (by simp [h c rfl])]
  unfold trimStartChars
  rw [List.dropWhile_append, hys]
  split
  · rename_i hnil
    rw [List.isEmpty_iff.mp hnil, List.nil_append]
  · rfl

/-- Blanks are dropped from the end down to what ends in none. -/
theorem trimEndChars_append {xs ys : List Char} (h : ∀ c ∈ xs.getLast?, isBlank c = false) :
    trimEndChars (xs ++ ys) = xs ++ trimEndChars ys := by
  have hfront : ∀ c ∈ xs.reverse.head?, isBlank c = false := by simpa using h
  have hrev := @trimStartChars_append ys.reverse xs.reverse hfront
  unfold trimStartChars at hrev
  unfold trimEndChars
  rw [List.reverse_append, hrev, List.reverse_append, List.reverse_reverse]

/-- What is left in front of a text ends as it did. -/
theorem mem_getLast?_of_trimStartChars {cs : List Char} {c : Char}
    (h : c ∈ (trimStartChars cs).getLast?) : c ∈ cs.getLast? := by
  obtain ⟨blanks, hcs⟩ := List.dropWhile_suffix isBlank (l := cs)
  unfold trimStartChars at h
  rw [← hcs, List.getLast?_append, Option.mem_def.mp h, Option.some_or]
  exact Option.mem_some_self c

/-- What is left behind a text begins as it did. -/
theorem mem_head?_of_trimEndChars {cs : List Char} {c : Char}
    (h : c ∈ (trimEndChars cs).head?) : c ∈ cs.head? := by
  obtain ⟨blanks, hcs⟩ := List.rdropWhile_prefix isBlank cs
  rw [trimEndChars_eq] at h
  rw [← hcs, List.head?_append, Option.mem_def.mp h, Option.some_or]
  exact Option.mem_some_self c

/-- What stands between blanks is what trimming leaves. -/
theorem trimChars_append {bs cs es : List Char} (hbs : ∀ c ∈ bs, isBlank c = true)
    (hcs : ∀ c ∈ cs, isBlank c = false) (hes : ∀ c ∈ es, isBlank c = true) :
    trimChars (bs ++ cs ++ es) = cs := by
  have hend : trimEndChars es = [] := by
    rw [trimEndChars_eq, List.rdropWhile_eq_nil_iff]
    exact hes
  rw [trimChars, trimStartChars, List.append_assoc, List.dropWhile_append_of_pos hbs]
  cases cs with
  | nil =>
    have hstart : es.dropWhile isBlank = [] := List.dropWhile_eq_nil_iff.mpr hes
    rw [List.nil_append, hstart]
    rfl
  | cons c cs =>
    rw [List.cons_append, List.dropWhile_cons_of_neg (by simp [hcs c List.mem_cons_self]),
      ← List.cons_append, trimEndChars_append fun d hd => hcs d (List.mem_of_mem_getLast? hd), hend,
      List.append_nil]

/-- Trimming takes nothing but blanks away. -/
theorem exists_append_trimChars (cs : List Char) :
    ∃ bs es, cs = bs ++ trimChars cs ++ es ∧ (∀ c ∈ bs, isBlank c = true) ∧
      ∀ c ∈ es, isBlank c = true := by
  refine ⟨cs.takeWhile isBlank, (trimStartChars cs).rtakeWhile isBlank, ?_,
    fun c hc => List.mem_takeWhile_imp hc, fun c hc => List.mem_rtakeWhile_imp hc⟩
  rw [trimChars, trimEndChars_eq, List.append_assoc, List.rdropWhile_append_rtakeWhile]
  exact List.takeWhile_append_dropWhile.symm

/-- What is no blank is not trimmed away. -/
theorem mem_trim_iff {s : String} {c : Char} (h : isBlank c = false) :
    c ∈ (trim s).toList ↔ c ∈ s.toList := by
  obtain ⟨bs, es, hcs, hbs, hes⟩ := exists_append_trimChars s.toList
  have hc : c ∉ bs := fun hc => Bool.eq_false_iff.mp h (hbs c hc)
  have hc' : c ∉ es := fun hc => Bool.eq_false_iff.mp h (hes c hc)
  rw [trim, String.toList_ofList]
  nth_rewrite 2 [hcs]
  simp [hc, hc']

/-- A text without blanks is its own trimmed text. -/
theorem trim_of_not_isBlank {s : String} (h : ∀ c ∈ s.toList, isBlank c = false) :
    trim s = s := by
  have hrev : ∀ c ∈ s.toList.reverse, isBlank c = false := fun c hc => h c (List.mem_reverse.mp hc)
  rw [trim, trimChars, trimStartChars, trimEndChars, dropWhile_isBlank_of_not_isBlank h,
    dropWhile_isBlank_of_not_isBlank hrev, List.reverse_reverse, String.ofList_toList]

end Mentorship.Text
