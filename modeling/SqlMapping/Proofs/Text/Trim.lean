import Mathlib.Data.List.TakeWhile
import SqlMapping.Text.Blank

/-! # Trimmed texts

Trimming takes the blanks off the ends of a text, and nothing else. -/

namespace SqlMapping.Text

open scoped List

variable {cs : List Char} {c : Char}

/-- A text of blanks only. -/
def Blank (cs : List Char) : Prop :=
  ∀ c ∈ cs, isBlank c

instance (cs : List Char) : Decidable (Blank cs) :=
  decidable_of_iff (cs.all isBlank = true) List.all_eq_true

theorem trimStart_sublist (cs : List Char) : trimStart cs <+ cs :=
  List.dropWhile_sublist isBlank

theorem trimEnd_append_takeWhile (cs : List Char) :
    trimEnd cs ++ (cs.reverse.takeWhile isBlank).reverse = cs := by
  rw [trimEnd, ← List.reverse_append, List.takeWhile_append_dropWhile, List.reverse_reverse]

theorem trimEnd_isPrefix (cs : List Char) : trimEnd cs <+: cs :=
  ⟨_, trimEnd_append_takeWhile cs⟩

theorem trimEnd_sublist (cs : List Char) : trimEnd cs <+ cs :=
  (trimEnd_isPrefix cs).sublist

theorem trim_sublist (cs : List Char) : trim cs <+ cs :=
  (trimEnd_sublist _).trans (trimStart_sublist cs)

theorem trimStart_append_of_blank {bs : List Char} (h : Blank bs) :
    trimStart (bs ++ cs) = trimStart cs :=
  List.dropWhile_append_of_pos h

theorem trimEnd_append_of_blank {bs : List Char} (h : Blank bs) :
    trimEnd (cs ++ bs) = trimEnd cs := by
  have hreverse : ∀ b ∈ bs.reverse, isBlank b := fun b hb => h b (List.mem_reverse.mp hb)
  rw [trimEnd, trimEnd, List.reverse_append, List.dropWhile_append_of_pos hreverse]

theorem trim_append_of_blank_left {bs : List Char} (h : Blank bs) :
    trim (bs ++ cs) = trim cs := by
  rw [trim, trim, trimStart_append_of_blank h]

theorem trim_append_of_blank_right {bs : List Char} (h : Blank bs) :
    trim (cs ++ bs) = trim cs := by
  rw [trim, trim, trimStart, trimStart, List.dropWhile_append]
  split
  · rename_i hempty
    rw [List.isEmpty_iff.mp hempty, List.dropWhile_eq_nil_iff.mpr h]
  · exact trimEnd_append_of_blank h

theorem blank_takeWhile (cs : List Char) : Blank (cs.takeWhile isBlank) := fun _ =>
  List.mem_takeWhile_imp

theorem blank_reverse_takeWhile (cs : List Char) : Blank (cs.takeWhile isBlank).reverse :=
  fun b hb => blank_takeWhile cs b (List.mem_reverse.mp hb)

/-- What `cs` is without the blanks it ends with: all of it but some blanks, up to a character
that is none. -/
structure EndTrimmed (cs ds : List Char) : Prop where
  blanks : ∃ bs, Blank bs ∧ cs = ds ++ bs
  last : ∀ c ∈ ds.getLast?, ¬ isBlank c

theorem trimEnd_of_getLast? (h : ∀ c ∈ cs.getLast?, ¬ isBlank c) : trimEnd cs = cs := by
  rw [trimEnd]
  cases hcs : cs.reverse with
  | nil => rw [List.reverse_eq_nil_iff.mp hcs]; rfl
  | cons d ds =>
      have hd : ¬ isBlank d := h d (by rw [← List.head?_reverse, hcs]; rfl)
      rw [List.dropWhile_cons_of_neg hd, ← hcs, List.reverse_reverse]

theorem not_isBlank_of_getLast?_trimEnd (h : c ∈ (trimEnd cs).getLast?) : ¬ isBlank c := by
  have hhead := List.head?_dropWhile_not isBlank cs.reverse
  rw [trimEnd, List.getLast?_reverse] at h
  rw [h] at hhead
  simpa using hhead

theorem endTrimmed_iff {ds : List Char} : EndTrimmed cs ds ↔ trimEnd cs = ds := by
  constructor
  · rintro ⟨⟨bs, hbs, rfl⟩, hlast⟩
    rw [trimEnd_append_of_blank hbs, trimEnd_of_getLast? hlast]
  · rintro rfl
    exact ⟨⟨_, blank_reverse_takeWhile cs.reverse, (trimEnd_append_takeWhile cs).symm⟩,
      fun _ => not_isBlank_of_getLast?_trimEnd⟩

theorem exists_blank_append_trim (cs : List Char) :
    ∃ before after, Blank before ∧ Blank after ∧ cs = before ++ trim cs ++ after := by
  refine ⟨_, _, blank_takeWhile cs, blank_reverse_takeWhile (trimStart cs).reverse, ?_⟩
  rw [List.append_assoc, trim, trimEnd_append_takeWhile, trimStart,
    List.takeWhile_append_dropWhile]

theorem trim_eq_nil_iff : trim cs = [] ↔ Blank cs := by
  constructor
  · intro h
    obtain ⟨before, after, hbefore, hafter, hcs⟩ := exists_blank_append_trim cs
    rw [h, List.append_nil] at hcs
    rw [hcs]
    exact List.forall_mem_append.mpr ⟨hbefore, hafter⟩
  · intro h
    rw [← List.append_nil cs, trim_append_of_blank_left h]
    rfl

theorem trim_trimStart (cs : List Char) : trim (trimStart cs) = trim cs := by
  rw [← trim_append_of_blank_left (blank_takeWhile cs), trimStart, List.takeWhile_append_dropWhile]

theorem trim_trimEnd (cs : List Char) : trim (trimEnd cs) = trim cs := by
  rw [← trim_append_of_blank_right (blank_reverse_takeWhile cs.reverse),
    trimEnd_append_takeWhile]

/-- Around a character that is no blank, a text is trimmed on each side. -/
theorem trim_append_cons {ds : List Char} (h : ¬ isBlank c) :
    trim (cs ++ c :: ds) = trimStart cs ++ c :: trimEnd ds := by
  have hstart : trimStart (cs ++ c :: ds) = trimStart cs ++ c :: ds := by
    rw [trimStart, List.dropWhile_append, List.dropWhile_cons_of_neg h]
    split
    · rename_i hempty
      rw [trimStart, List.isEmpty_iff.mp hempty, List.nil_append]
    · rfl
  rw [trim, hstart, trimEnd, List.reverse_append, List.reverse_cons, List.append_assoc,
    List.dropWhile_append, List.singleton_append, List.dropWhile_cons_of_neg h]
  split
  · rename_i hempty
    simp [trimEnd, List.isEmpty_iff.mp hempty]
  · simp [trimEnd]

end SqlMapping.Text
