import SqlMapping.Session.Cache

/-! # Statements and their checksums

A cache finds a statement by the checksum of a text. What it finds was prepared from a text with
this checksum, which need not be the same text. -/

namespace SqlMapping.StatementCache

variable {c : StatementCache} {k : UInt32} {p : Prepared} {sql : String}

theorem mem_of_find?_eq_some (h : c.find? k = some p) : (k, p) ∈ c := by
  induction c with
  | nil => cases h
  | cons e es ih =>
      obtain ⟨l, q⟩ := e
      by_cases hl : l = k
      · subst hl
        simp only [find?, if_true, Option.some.injEq] at h
        subst h
        exact List.mem_cons_self
      · simp only [find?, hl, if_false] at h
        exact List.mem_cons_of_mem _ (ih h)

theorem mem_put {e : UInt32 × Prepared} (h : e ∈ c.put k p) : e = (k, p) ∨ e ∈ c := by
  induction c with
  | nil => simpa [put] using h
  | cons e' es ih =>
      obtain ⟨l, q⟩ := e'
      by_cases hl : l = k
      · simp only [put, hl, if_true, List.mem_cons] at h
        rcases h with rfl | h
        · exact .inl rfl
        · exact .inr (List.mem_cons_of_mem _ h)
      · simp only [put, hl, if_false, List.mem_cons] at h
        rcases h with rfl | h
        · exact .inr List.mem_cons_self
        · exact (ih h).imp_right (List.mem_cons_of_mem _)

/-- Each statement of a cache is one for a text in `T`, and stands under its checksum. -/
def Tidy (T : String → Prop) (c : StatementCache) : Prop :=
  ∀ e ∈ c, e.1 = Text.checksum e.2.sql ∧ T e.2.sql

namespace Tidy

variable {T : String → Prop}

theorem empty : Tidy T [] := by
  intro e he
  cases he

theorem insert (h : c.Tidy T) (hp : p.sql = sql) (hsql : T sql) :
    Tidy T (c.insert sql p) := by
  intro e he
  rcases mem_put he with rfl | he
  · subst hp
    exact ⟨rfl, hsql⟩
  · exact h e he

theorem get? (h : c.Tidy T) (hp : c.get? sql = some p) :
    Text.checksum p.sql = Text.checksum sql ∧ T p.sql := by
  obtain ⟨hkey, hT⟩ := h _ (mem_of_find?_eq_some hp)
  exact ⟨hkey.symm, hT⟩

end Tidy

end SqlMapping.StatementCache
