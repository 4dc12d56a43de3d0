import Mathlib.Data.List.TakeWhile
import SqlMapping.Alias
import SqlMapping.Proofs.Text.Trim

/-! # Plain names

A division takes the alias of a name off, and the blanks around the name. A text that is left as it
is has neither: it is plain. -/

namespace SqlMapping

open scoped List

namespace Alias

variable {cs : List Char}

/-! ## Divisions -/

/-- A text that has an `as` between blanks. -/
def HasWord (cs : List Char) : Prop :=
  ∃ b d, Text.isBlank b ∧ Text.isBlank d ∧ b :: word ++ [d] <:+: cs

theorem afterWord?_isSome {c : Char} {rest : List Char} :
    (afterWord? (c :: rest)).isSome ↔ Text.isBlank c ∧ ∃ d after,
      rest.dropWhile Text.isBlank = 'a' :: 's' :: d :: after ∧ Text.isBlank d := by
  rw [afterWord?]
  cases Text.isBlank c with
  | false => simp
  | true =>
      simp only [if_true, true_and]
      split
      · rename_i d after heq
        cases hd : Text.isBlank d <;> simp [heq, hd]
      · rename_i hne
        simp only [Option.isSome_none, Bool.false_eq_true, false_iff]
        rintro ⟨d, after, heq, -⟩
        exact hne d after heq

/-- The word may be looked for after the last of the blanks before it. -/
theorem hasWord_iff : HasWord cs ↔ ∃ t, t <:+ cs ∧ (afterWord? t).isSome := by
  constructor
  · rintro ⟨b, d, hb, hd, before, after, rfl⟩
    refine ⟨b :: 'a' :: 's' :: d :: after, ⟨before, by simp [word]⟩, ?_⟩
    exact afterWord?_isSome.mpr ⟨hb, d, after, rfl, hd⟩
  · rintro ⟨t, ⟨before, rfl⟩, h⟩
    cases t with
    | nil => cases h
    | cons c rest =>
        obtain ⟨hc, d, after, hrest, hd⟩ := afterWord?_isSome.mp h
        have hblank : ∀ b ∈ c :: rest.takeWhile Text.isBlank, Text.isBlank b = true := by
          rintro b (- | ⟨-, hb⟩)
          · exact hc
          · exact List.mem_takeWhile_imp hb
        obtain ⟨blanks, b, hlast⟩ :=
          (List.eq_nil_or_concat (c :: rest.takeWhile Text.isBlank)).resolve_left (by simp)
        refine ⟨b, d, hblank b (by simp [hlast]), hd, before ++ blanks, after, ?_⟩
        have hsplit : c :: rest = blanks ++ [b] ++ 'a' :: 's' :: d :: after := by
          rw [← List.concat_eq_append, ← hlast, ← hrest, List.cons_append,
            List.takeWhile_append_dropWhile]
        simp [hsplit, word]

theorem lastOnLine?_cons_isSome (before : List Char) (c : Char) (cs : List Char) :
    (lastOnLine? before (c :: cs)).isSome ↔
      (afterWord? (c :: cs)).isSome ∨ c ≠ '\n' ∧ (lastOnLine? (c :: before) cs).isSome := by
  rw [lastOnLine?]
  by_cases hc : c = '\n'
  · simp [hc]
  · cases hlater : lastOnLine? (c :: before) cs <;> simp [hc]

/-- Each character of a text is on its first line or on a later one, line feeds on the line that
they end. -/
theorem exists_lastOnLine?_iff (before : List Char) :
    ((lastOnLine? before cs).isSome ∨ ∃ l ∈ laterLines cs, (lastOnLine? [] l).isSome) ↔
      ∃ t, t <:+ cs ∧ (afterWord? t).isSome := by
  induction cs generalizing before with
  | nil => simp [lastOnLine?, laterLines, afterWord?]
  | cons c cs ih =>
      have hsuffix : (∃ t, t <:+ c :: cs ∧ (afterWord? t).isSome) ↔
          (afterWord? (c :: cs)).isSome ∨ ∃ t, t <:+ cs ∧ (afterWord? t).isSome := by
        simp [List.suffix_cons_iff, or_and_right, exists_or]
      rw [lastOnLine?_cons_isSome, laterLines, hsuffix]
      by_cases hc : c = '\n'
      · simp [hc, ← ih []]
      · simp [hc, ← ih (c :: before), or_assoc]

/-- A text is divided if it has the word on any of its lines. -/
theorem divide?_isSome : (divide? cs).isSome ↔ HasWord cs := by
  rw [hasWord_iff, ← exists_lastOnLine?_iff [], divide?, List.findSome?_isSome_iff]
  simp

/-! ## Names -/

theorem length_of_lastOnLine? {before name after : List Char}
    (h : lastOnLine? before cs = some (name, after)) :
    name.length < before.length + cs.length := by
  induction cs generalizing before with
  | nil => cases h
  | cons c cs ih =>
      have hhere : ∀ {r}, (afterWord? (c :: cs)).map (fun after => (before.reverse, after)) =
          some r → r.1.length < before.length + (c :: cs).length := by
        intro r hr
        obtain ⟨after, -, rfl⟩ := Option.map_eq_some_iff.mp hr
        simp
      rw [lastOnLine?] at h
      split at h
      · exact hhere h
      · split at h
        · rename_i later hlater
          obtain rfl := Option.some.inj h
          have hlength := ih hlater
          simp only [List.length_cons] at hlength ⊢
          omega
        · exact hhere h

theorem length_of_mem_laterLines {l : List Char} (h : l ∈ laterLines cs) :
    l.length < cs.length := by
  induction cs with
  | nil => cases h
  | cons c cs ih =>
      rw [laterLines] at h
      rw [List.length_cons]
      split at h
      · rcases List.mem_cons.mp h with rfl | h
        · exact Nat.lt_succ_self _
        · exact Nat.lt_succ_of_lt (ih h)
      · exact Nat.lt_succ_of_lt (ih h)

/-- The name of a text that is divided is shorter than the text. -/
theorem length_of_divide? {name after : List Char} (h : divide? cs = some (name, after)) :
    name.length < cs.length := by
  obtain ⟨l, hl, hline⟩ := List.exists_of_findSome?_eq_some h
  have hlength := length_of_lastOnLine? hline
  rw [List.length_nil, Nat.zero_add] at hlength
  rcases List.mem_cons.mp hl with rfl | hl
  · exact hlength
  · exact hlength.trans (length_of_mem_laterLines hl)

/-- A text without blanks around it and without an alias. -/
structure Plain (s : String) : Prop where
  trimmed : Text.trimmed s = s
  undivided : ¬ HasWord s.toList

/-- A text that is not its own name is longer than its name. -/
theorem split_fst_eq_or_length_lt (s : String) :
    (split s).1 = s ∨ (split s).1.length < s.length := by
  rw [← String.length_toList, ← String.length_toList, split]
  split
  · rename_i name after hdivide
    right
    simpa only [String.toList_ofList] using
      (Text.trim_sublist name).length_le.trans_lt (length_of_divide? hdivide)
  · have htrim := Text.trim_sublist s.toList
    rcases htrim.length_le.eq_or_lt with hlength | hlength
    · left
      simp only [Text.trimmed, htrim.eq_of_length hlength, String.ofList_toList]
    · right
      simpa only [Text.trimmed, String.toList_ofList] using hlength

theorem split_fst_eq_iff {s : String} : (split s).1 = s ↔ Plain s := by
  constructor
  · intro h
    cases hdivide : divide? s.toList with
    | none =>
        have hword : ¬ HasWord s.toList := by simp [← divide?_isSome, hdivide]
        exact ⟨by simpa [split, hdivide] using h, hword⟩
    | some d =>
        have hlength := (Text.trim_sublist d.1).length_le.trans_lt (length_of_divide? hdivide)
        have hname : String.ofList (Text.trim d.1) = s := by simpa [split, hdivide] using h
        rw [← hname] at hlength
        simp at hlength
  · intro h
    have hdivide : divide? s.toList = none := by
      rw [← Option.not_isSome_iff_eq_none, divide?_isSome]
      exact h.undivided
    simpa [split, hdivide] using h.trimmed

instance (s : String) : Decidable (Plain s) :=
  decidable_of_iff _ split_fst_eq_iff

end Alias

end SqlMapping
