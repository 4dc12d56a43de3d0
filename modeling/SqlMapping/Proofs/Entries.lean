import Mathlib.Data.List.Nodup
import SqlMapping.Entries
import SqlMapping.Proofs.Lists

/-! # Maps as lists of entries

What is found in a map after it was changed, and the keys it has. A key stands once in a map that is
built by these changes. -/

namespace SqlMapping.Entries

variable {α : Type}

/-- An entry that takes the place of one with its name. -/
theorem find?_replaced (key name : String) (value v : α) (es : List (String × α)) :
    find? name ((key, value) :: es) =
      if key = name then some value else find? name ((key, v) :: es) := by
  rw [find?, find?]
  split <;> rfl

/-- A change behind an entry with another name. -/
theorem find?_behind {k key name : String} {value : α} {es es' : List (String × α)} (v : α)
    (hk : k ≠ key) (h : find? name es' = if key = name then some value else find? name es) :
    find? name ((k, v) :: es') =
      if key = name then some value else find? name ((k, v) :: es) := by
  rw [find?, find?, h]
  by_cases hname : k = name
  · have hkey : key ≠ name := fun h => hk (hname.trans h.symm)
    simp [hname, hkey]
  · simp [hname]

theorem find?_insert (key name : String) (value : α) (es : List (String × α)) :
    find? name (insert key value es) = if key = name then some value else find? name es := by
  induction es with
  | nil => rfl
  | cons e es ih =>
      obtain ⟨k, v⟩ := e
      rw [insert]
      split
      · rfl
      split
      · rename_i hk
        subst hk
        exact find?_replaced ..
      · rename_i hk
        exact find?_behind v hk ih

theorem find?_isSome {name : String} {es : List (String × α)} :
    (find? name es).isSome ↔ name ∈ es.map Prod.fst := by
  induction es with
  | nil => simp [find?]
  | cons e es ih =>
      rw [find?]
      by_cases hname : e.1 = name
      · simp [hname]
      · simp [hname, ih, Ne.symm hname]

theorem find?_eq_none_of_not_mem {name : String} {es : List (String × α)}
    (h : name ∉ es.map Prod.fst) : find? name es = none := by
  rw [← Option.not_isSome_iff_eq_none, find?_isSome]
  exact h

/-! ## Entries that keep their places -/

theorem find?_put (key name : String) (value : α) (es : List (String × α)) :
    find? name (put key value es) = if key = name then some value else find? name es := by
  induction es with
  | nil => rfl
  | cons e es ih =>
      obtain ⟨k, v⟩ := e
      rw [put]
      split
      · rename_i hk
        subst hk
        exact find?_replaced ..
      · rename_i hk
        exact find?_behind v hk ih

/-- A key that is new goes to the end. -/
theorem map_fst_put (key : String) (value : α) (es : List (String × α)) :
    (put key value es).map Prod.fst =
      if key ∈ es.map Prod.fst then es.map Prod.fst else es.map Prod.fst ++ [key] := by
  induction es with
  | nil => rfl
  | cons e es ih =>
      obtain ⟨k, v⟩ := e
      rw [put]
      by_cases hk : k = key
      · simp [hk]
      · rw [if_neg hk, List.map_cons, ih]
        by_cases hkey : key ∈ es.map Prod.fst
        · simp [hkey]
        · simp [hkey, Ne.symm hk]

theorem nodup_map_fst_put {es : List (String × α)} (h : (es.map Prod.fst).Nodup) (key : String)
    (value : α) : ((put key value es).map Prod.fst).Nodup := by
  rw [map_fst_put]
  split
  · exact h
  · rename_i hkey
    exact List.Nodup.append h (List.nodup_singleton key) (by simpa using hkey)

theorem map_fst_remove (key : String) (es : List (String × α)) :
    (remove key es).map Prod.fst = (es.map Prod.fst).erase key := by
  induction es with
  | nil => rfl
  | cons e es ih =>
      obtain ⟨k, v⟩ := e
      rw [remove, List.map_cons, List.erase_cons]
      by_cases hk : k = key
      · simp [hk]
      · simp [hk, ih]

theorem find?_remove {es : List (String × α)} (h : (es.map Prod.fst).Nodup) (key name : String) :
    find? name (remove key es) = if key = name then none else find? name es := by
  induction es with
  | nil => simp [remove, find?]
  | cons e es ih =>
      obtain ⟨k, v⟩ := e
      obtain ⟨hk, hes⟩ := List.nodup_cons.mp h
      rw [remove]
      by_cases hkey : k = key
      · subst hkey
        rw [if_pos rfl, find?]
        by_cases hname : k = name
        · subst hname
          simpa using find?_eq_none_of_not_mem hk
        · simp [hname]
      · rw [if_neg hkey, find?, find?, ih hes]
        by_cases hname : k = name
        · have hne : key ≠ name := fun h => hkey (hname.trans h.symm)
          simp [hname, hne]
        · simp [hname]

/-! ## Maps of some entries -/

theorem inOrder_concat (es : List (String × α)) (e : String × α) :
    inOrder (es ++ [e]) = put e.1 e.2 (inOrder es) := by
  simp [inOrder]

theorem nodup_map_fst_inOrder (es : List (String × α)) : ((inOrder es).map Prod.fst).Nodup := by
  induction es using List.reverseRecOn with
  | nil => exact List.nodup_nil
  | append_singleton es e ih =>
      rw [inOrder_concat]
      exact nodup_map_fst_put ih e.1 e.2

theorem mem_map_fst_inOrder {name : String} {es : List (String × α)} :
    name ∈ (inOrder es).map Prod.fst ↔ name ∈ es.map Prod.fst := by
  induction es using List.reverseRecOn with
  | nil => rfl
  | append_singleton es e ih =>
      rw [inOrder_concat, map_fst_put, List.map_append, List.mem_append, ← ih]
      split
      · rename_i hmem
        refine ⟨.inl, fun h => h.elim id fun h => ?_⟩
        obtain rfl : name = e.1 := by simpa using h
        exact hmem
      · simp

/-- The last entry of a name is found. -/
theorem find?_inOrder_eq_some {name : String} {value : α} {es : List (String × α)} :
    find? name (inOrder es) = some value ↔
      Latest (fun e => e.1 = name ∧ e.2 = value) (fun e => e.1 ≠ name) es := by
  induction es using List.reverseRecOn with
  | nil => simp [inOrder, find?]
  | append_singleton es e ih =>
      rw [inOrder_concat, find?_put, latest_concat, ← ih]
      by_cases he : e.1 = name <;> simp [he]

end SqlMapping.Entries
