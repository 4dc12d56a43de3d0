import SqlMapping.Connection.Registry
import SqlMapping.Proofs.Entries

/-! # Registered endpoints

The empty name stands for the default one, wherever a single name is given. The names of a list that
replaces all that is registered are kept as they are: an endpoint that is registered so under the
empty name is neither found nor removed again. -/

namespace SqlMapping.Registry

/-- What a registry is asked to change. -/
inductive Call where
  | add (name : String) (e : Endpoint)
  | set (es : List (String × Endpoint))
  | remove (name : String)

def apply (r : Registry) : Call → Registry
  | .add name e => r.add name e
  | .set es => .ofList es
  | .remove name => r.remove name

/-- The registry after some calls. -/
def run (calls : List Call) : Registry :=
  calls.foldl apply []

namespace Call

/-- A call that registers an endpoint under a name, with a reading of the names in a list. -/
def Registers (read : String → String) (name : String) (e : Endpoint) : Call → Prop
  | add key e' => resolve key = resolve name ∧ e' = e
  | set es =>
    Latest (fun p => read p.1 = resolve name ∧ p.2 = e) (fun p => read p.1 ≠ resolve name) es
  | remove _ => False

/-- A call that leaves alone what is registered under a name. -/
def Spares (name : String) : Call → Prop
  | add key _ | remove key => resolve key ≠ resolve name
  | set _ => False

/-- The names that a call gives in a list. -/
def listed? : Call → Option (List String)
  | set es => some (es.map Prod.fst)
  | _ => none

end Call

/-- An endpoint was registered under a name, and was neither replaced nor removed since. -/
def Stands (read : String → String) (calls : List Call) (name : String) (e : Endpoint) : Prop :=
  Latest (·.Registers read name e) (·.Spares name) calls

/-- The names of the last list that was given. -/
def listed (calls : List Call) : List String :=
  (calls.reverse.findSome? Call.listed?).getD []

/-- Endpoints are found under the names they were registered under, the empty one and the default
one being the same, and all names but the empty one are listed once. -/
structure Lawful (calls : List Call) : Prop where
  found : ∀ name e, (run calls).get? name = some e ↔ Stands resolve calls name e
  named : ∀ name, name ∈ (run calls).names ↔ name ≠ "" ∧ ((run calls).get? name).isSome
  nodup : (run calls).names.Nodup

/-! ## Names -/

variable {r : Registry} {calls : List Call} {c : Call} {name : String} {e : Endpoint}

@[simp] theorem resolve_empty : resolve "" = defaultName := rfl

@[simp] theorem resolve_of_ne (h : name ≠ "") : resolve name = name := by
  simp [resolve, h]

theorem resolve_ne_empty (name : String) : resolve name ≠ "" := by
  by_cases h : name = ""
  · subst h
    decide
  · rwa [resolve_of_ne h]

theorem run_concat (calls : List Call) (c : Call) : run (calls ++ [c]) = (run calls).apply c := by
  simp [run]

theorem listed_concat (calls : List Call) (c : Call) :
    listed (calls ++ [c]) = c.listed?.getD (listed calls) := by
  cases h : c.listed? <;> simp [listed, h]

/-! ## One call -/

theorem nodup_apply (h : r.names.Nodup) (c : Call) : (r.apply c).names.Nodup := by
  cases c with
  | add key e => exact Entries.nodup_map_fst_put h _ _
  | set es => exact Entries.nodup_map_fst_inOrder es
  | remove key =>
      rw [apply, remove, names, Entries.map_fst_remove]
      exact h.erase _

/-- Single calls never mention the empty name. -/
theorem empty_mem_apply (c : Call) :
    "" ∈ (r.apply c).names ↔ "" ∈ c.listed?.getD r.names := by
  cases c with
  | add key e =>
      rw [apply, add, names, Entries.map_fst_put]
      split
      · rfl
      · simp [Call.listed?, names, (resolve_ne_empty key).symm]
  | set es => exact Entries.mem_map_fst_inOrder
  | remove key =>
      rw [apply, remove, names, Entries.map_fst_remove]
      exact List.mem_erase_of_ne (resolve_ne_empty key).symm

theorem get?_apply (h : r.names.Nodup) (c : Call) :
    (r.apply c).get? name = some e ↔
      c.Registers id name e ∨ c.Spares name ∧ r.get? name = some e := by
  cases c with
  | add key e' =>
      rw [apply, add, get?, Entries.find?_put]
      by_cases hkey : resolve key = resolve name <;> simp [Call.Registers, Call.Spares, get?, hkey]
  | set es =>
      rw [apply, ofList, get?, Entries.find?_inOrder_eq_some]
      simp [Call.Registers, Call.Spares]
  | remove key =>
      rw [apply, remove, get?, Entries.find?_remove h]
      by_cases hkey : resolve key = resolve name <;> simp [Call.Registers, Call.Spares, get?, hkey]

/-! ## Runs -/

theorem nodup_run (calls : List Call) : (run calls).names.Nodup := by
  induction calls using List.reverseRecOn with
  | nil => exact List.nodup_nil
  | append_singleton calls c ih =>
      rw [run_concat]
      exact nodup_apply ih c

theorem empty_mem_run : "" ∈ (run calls).names ↔ "" ∈ listed calls := by
  induction calls using List.reverseRecOn with
  | nil => rfl
  | append_singleton calls c ih =>
      rw [run_concat, empty_mem_apply, listed_concat]
      cases c <;> simp [Call.listed?, ih]

theorem get?_run : (run calls).get? name = some e ↔ Stands id calls name e := by
  induction calls using List.reverseRecOn with
  | nil => simp [run, get?, Entries.find?, Stands]
  | append_singleton calls c ih =>
      rw [run_concat, get?_apply (nodup_run calls), ih, Stands, Stands, latest_concat]

theorem mem_names_run (h : name ≠ "") :
    name ∈ (run calls).names ↔ ((run calls).get? name).isSome := by
  rw [get?, resolve_of_ne h]
  exact Entries.find?_isSome.symm

/-! ## Names in lists -/

/-- In a list only the empty name is not taken for the one it stands for. -/
theorem registers_id_iff (h : resolve name ≠ defaultName ∨ "" ∉ c.listed?.getD []) :
    c.Registers id name e ↔ c.Registers resolve name e := by
  cases c with
  | add key e' => rfl
  | remove key => rfl
  | set es =>
      apply latest_congr
      intro p hp
      have hread : id p.1 = resolve name ↔ resolve p.1 = resolve name := by
        by_cases hempty : p.1 = ""
        · rcases h with h | h
          · simp [hempty, h.symm, (resolve_ne_empty name).symm]
          · refine absurd ?_ h
            simpa [Call.listed?] using ⟨p.2, hempty ▸ hp⟩
        · rw [resolve_of_ne hempty, id]
      exact ⟨and_congr_left' hread, not_congr hread⟩

theorem stands_id_iff (h : resolve name ≠ defaultName ∨ "" ∉ listed calls) :
    Stands id calls name e ↔ Stands resolve calls name e := by
  induction calls using List.reverseRecOn with
  | nil => simp [Stands]
  | append_singleton calls c ih =>
      rw [listed_concat] at h
      simp only [Stands, latest_concat] at ih ⊢
      cases c with
      | set es => rw [registers_id_iff h]; simp [Call.Spares]
      | add key e' => rw [registers_id_iff (by simp [Call.listed?]), ih h]
      | remove key => rw [registers_id_iff (by simp [Call.listed?]), ih h]

theorem lawful_iff : Lawful calls ↔ "" ∉ listed calls := by
  constructor
  · intro h hempty
    exact ((h.named "").mp (empty_mem_run.mpr hempty)).1 rfl
  · intro h
    refine ⟨fun name e => get?_run.trans (stands_id_iff (.inr h)), fun name => ?_, nodup_run calls⟩
    by_cases hname : name = ""
    · simp [hname, empty_mem_run, h]
    · simp [hname, mem_names_run hname]

/-- After any calls an endpoint is found under the name it was registered under last, unless this is
the default name and the last list gives the empty one for it. Each name is listed once: those that
an endpoint is found under, and the empty one just if the last list gives it. So registered
endpoints are found again just if no endpoint of that list has the empty name. -/
theorem registered_found_iff (calls : List Call) :
    (∀ name e, (run calls).get? name = some e ↔ Stands id calls name e) ∧
    (∀ name e, resolve name ≠ defaultName →
      ((run calls).get? name = some e ↔ Stands resolve calls name e)) ∧
    (run calls).names.Nodup ∧
    (∀ name, name ≠ "" → (name ∈ (run calls).names ↔ ((run calls).get? name).isSome)) ∧
    ("" ∈ (run calls).names ↔ "" ∈ listed calls) ∧
    (Lawful calls ↔ "" ∉ listed calls) :=
  ⟨fun _ _ => get?_run, fun _ _ h => get?_run.trans (stands_id_iff (.inl h)), nodup_run calls,
    fun _ => mem_names_run, empty_mem_run, lawful_iff⟩

/-- The endpoint of an archive. -/
def archive : Endpoint :=
  { driver := "mysql", username := "root", password := "secret", host := "localhost", port := 3306
    database := "archive", options := [] }

/-- The endpoint of reports. -/
def reports : Endpoint :=
  { archive with database := "reports" }

/-- An archive that is registered in a list, under the empty name, and removed again. -/
def removingArchive : List Call :=
  [.add "reports" reports, .set [("", archive), ("reports", reports)], .remove ""]

/-- It can be neither found nor removed, unlike what is registered beside it. If it is added on its
own it is found. -/
theorem registered_found_archive :
    Stands resolve (removingArchive.take 2) "" archive ∧
      (run (removingArchive.take 2)).get? "" = none ∧
      (run removingArchive).get? "reports" = some reports ∧
      "" ∈ (run removingArchive).names ∧ ¬ Lawful removingArchive ∧
      Lawful [.add "reports" reports, .add "" archive] := by
  obtain ⟨-, hfound, -, -, hempty, hlawful⟩ := registered_found_iff removingArchive
  have hlisted : "" ∈ listed removingArchive := by decide
  refine ⟨?_, rfl, ?_, hempty.mpr hlisted, fun h => hlawful.mp h hlisted, ?_⟩
  · refine ⟨[_], .set [("", archive), ("reports", reports)], [], rfl, ?_, by simp⟩
    exact ⟨[], _, [("reports", reports)], rfl, ⟨rfl, rfl⟩, by simp [resolve, defaultName]⟩
  · refine (hfound "reports" reports (by decide)).mpr ?_
    refine ⟨[_], .set [("", archive), ("reports", reports)], [.remove ""], rfl, ?_, ?_⟩
    · exact ⟨[("", archive)], _, [], rfl, ⟨rfl, rfl⟩, by simp⟩
    · simp [Call.Spares, resolve, defaultName]
  · exact (registered_found_iff _).2.2.2.2.2.mpr (by decide)

end SqlMapping.Registry
