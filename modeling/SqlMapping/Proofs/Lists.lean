import Mathlib.Data.List.Forall2
import Mathlib.Data.List.Induction
import Mathlib.Data.List.Perm.Basic

/-! # Lists in relation, and what stands last in a list -/

namespace SqlMapping

open scoped List

variable {α β : Type} {R : α → β → Prop} {xs : List α} {ys : List β}

theorem exists_right_of_mem (h : List.Forall₂ R xs ys) {x : α} (hx : x ∈ xs) :
    ∃ y ∈ ys, R x y := by
  induction h with
  | nil => cases hx
  | cons hfirst _ ih =>
      rcases List.mem_cons.mp hx with rfl | hx
      · exact ⟨_, List.mem_cons_self, hfirst⟩
      · obtain ⟨y, hy, hR⟩ := ih hx
        exact ⟨y, List.mem_cons_of_mem _ hy, hR⟩

theorem exists_left_of_mem (h : List.Forall₂ R xs ys) {y : β} (hy : y ∈ ys) :
    ∃ x ∈ xs, R x y :=
  exists_right_of_mem (R := flip R) h.flip hy

theorem exists_forall₂_iff : (∃ ys, List.Forall₂ R xs ys) ↔ ∀ x ∈ xs, ∃ y, R x y := by
  constructor
  · rintro ⟨ys, h⟩ x hx
    obtain ⟨y, -, hR⟩ := exists_right_of_mem h hx
    exact ⟨y, hR⟩
  · intro h
    induction xs with
    | nil => exact ⟨[], .nil⟩
    | cons x xs ih =>
        obtain ⟨hx, hxs⟩ := List.forall_mem_cons.mp h
        obtain ⟨y, hy⟩ := hx
        obtain ⟨ys, hys⟩ := ih hxs
        exact ⟨y :: ys, .cons hy hys⟩

theorem perm_append_right_comm (xs ys zs : List α) : xs ++ ys ++ zs ~ xs ++ zs ++ ys := by
  rw [List.append_assoc, List.append_assoc]
  exact List.perm_append_comm.append_left xs

/-- An element of a list has a property, and all after it have another. -/
def Latest (P Q : α → Prop) (xs : List α) : Prop :=
  ∃ before x after, xs = before ++ x :: after ∧ P x ∧ ∀ y ∈ after, Q y

section

variable {P P' Q Q' : α → Prop}

@[simp] theorem not_latest_nil : ¬ Latest P Q [] := by
  rintro ⟨before, x, after, h, -⟩
  simp at h

/-- The last element is the one itself, or is passed over. -/
theorem latest_concat {x : α} : Latest P Q (xs ++ [x]) ↔ P x ∨ Q x ∧ Latest P Q xs := by
  constructor
  · rintro ⟨before, y, after, hsplit, hy, hafter⟩
    rcases List.eq_nil_or_concat' after with rfl | ⟨after, z, rfl⟩
    · obtain ⟨-, hlast⟩ := List.append_inj' hsplit rfl
      obtain rfl := List.singleton_inj.mp hlast
      exact .inl hy
    · rw [← List.cons_append, ← List.append_assoc] at hsplit
      obtain ⟨hxs, hlast⟩ := List.append_inj' hsplit rfl
      obtain rfl := List.singleton_inj.mp hlast
      rw [List.forall_mem_append] at hafter
      exact .inr ⟨hafter.2 x List.mem_cons_self, before, y, after, hxs, hy, hafter.1⟩
  · rintro (hx | ⟨hx, before, y, after, rfl, hy, hafter⟩)
    · exact ⟨xs, x, [], rfl, hx, by simp⟩
    · refine ⟨before, y, after ++ [x], by simp, hy, ?_⟩
      rw [List.forall_mem_append]
      exact ⟨hafter, by simpa using hx⟩

theorem latest_congr (h : ∀ x ∈ xs, (P x ↔ P' x) ∧ (Q x ↔ Q' x)) :
    Latest P Q xs ↔ Latest P' Q' xs := by
  induction xs using List.reverseRecOn with
  | nil => simp
  | append_singleton xs x ih =>
      rw [List.forall_mem_append] at h
      obtain ⟨hP, hQ⟩ := h.2 x List.mem_cons_self
      rw [latest_concat, latest_concat, hP, hQ, ih h.1]

end

end SqlMapping
