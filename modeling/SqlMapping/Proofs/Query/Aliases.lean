import SqlMapping.Proofs.Entries
import SqlMapping.Proofs.Query.Reordering

/-! # The aliases that a query knows

A query notes the alias of each table that it is given, for itself or for a join, by the name of the
table. A note stays when the table is replaced, and a later one of the same name takes its place. -/

namespace SqlMapping

/-! ## Mentioned tables -/

/-- The tables that calls name. -/
structure Mentions where
  /-- The query's table. -/
  table : TableRef := {}
  /-- Those of the joins that are kept. -/
  joined : List TableRef := []
  /-- All of which the alias was noted, the latest first. -/
  noted : List TableRef := []

namespace Mentions

def setTable (m : Mentions) (t : TableRef) : Mentions :=
  { m with table := t, noted := t :: m.noted }

def addJoined (m : Mentions) (t : TableRef) : Mentions :=
  { m with joined := m.joined ++ [t], noted := t :: m.noted }

/-- What is mentioned after a call. A join without conditions is not. -/
def apply (m : Mentions) : Step → Mentions
  | .table text => m.setTable (.parse text)
  | .aliased text => m.setTable { m.table with aliasName := text }
  | .join _ text steps => if steps.any JoinStep.isOn then m.addJoined (.parse text) else m
  | .reset => {}
  | _ => m

def run (m : Mentions) (steps : List Step) : Mentions :=
  steps.foldl apply m

/-- The alias that was noted last for a name. -/
def alias? (m : Mentions) (name : String) : Option String :=
  (m.noted.find? (·.name = name)).map TableRef.aliasName

/-- The names of the tables in the statement. -/
def names (m : Mentions) : List String :=
  (if m.table.name = "" then [] else [m.table.name]) ++ m.joined.map TableRef.name

end Mentions

/-- A query knows the aliases of the tables that were mentioned, and has those of its statement. -/
structure Query.Knows (q : Query) (m : Mentions) : Prop where
  table : q.table = m.table
  joined : q.joins.map Join.table = m.joined
  aliases : ∀ name, Entries.find? name q.aliases = m.alias? name

theorem Join.table_run (j : Join) (steps : List JoinStep) : (j.run steps).table = j.table := by
  induction steps generalizing j with
  | nil => rfl
  | cons s ss ih =>
      rw [run, ih]
      cases s <;> rfl

namespace Query.Knows

variable {q : Query} {m : Mentions}

theorem congr (h : q.Knows m) {q' : Query} (htable : q'.table = q.table) (hjoins : q'.joins = q.joins)
    (haliases : q'.aliases = q.aliases) : q'.Knows m :=
  ⟨htable ▸ h.table, hjoins ▸ h.joined, haliases ▸ h.aliases⟩

theorem find?_noted (h : q.Knows m) (t : TableRef) (name : String) :
    Entries.find? name (Entries.insert t.name t.aliasName q.aliases) =
      ((t :: m.noted).find? (·.name = name)).map TableRef.aliasName := by
  rw [Entries.find?_insert, h.aliases, List.find?_cons]
  by_cases hname : t.name = name <;> simp [hname, Mentions.alias?]

theorem fail (h : q.Knows m) (c : Cause) : (q.fail c).Knows m := by
  rw [fail_eq]
  exact h.congr rfl rfl rfl

/-- A call notes the table that it mentions. -/
theorem apply (h : q.Knows m) (s : Step) : (q.apply s).Knows (m.apply s) := by
  cases s with
  | table text => exact ⟨rfl, h.joined, h.find?_noted (.parse text)⟩
  | aliased text =>
      rw [Mentions.apply, ← h.table]
      exact ⟨rfl, h.joined, h.find?_noted { q.table with aliasName := text }⟩
  | join kind text steps =>
      have hconditions := Join.conditions_run_start q.dialect kind text steps
      rw [Query.apply, addJoin_eq, hconditions, Mentions.apply]
      cases steps.any JoinStep.isOn with
      | false => exact h.congr rfl rfl rfl
      | true =>
          have htable : (Join.run (Join.start q.dialect kind text) steps).table = .parse text :=
            Join.table_run _ _
          refine ⟨h.table, ?_, ?_⟩
          · simp [Mentions.addJoined, h.joined, htable]
          · rw [htable]
            exact h.find?_noted (.parse text)
  | compare logic column operator value =>
      rw [Query.apply, compare]
      split
      · exact h.fail _
      · exact h.congr rfl rfl rfl
  | between logic column first last negated =>
      rw [Query.apply, between]
      split
      · exact h.congr rfl rfl rfl
      · exact h.fail _
  | sub logic column operator steps =>
      rw [Query.apply, compareSub_eq]
      split <;> exact h.congr rfl rfl rfl
  | take rows =>
      rw [Query.apply, take]
      split <;> exact h.congr rfl rfl rfl
  | reset => exact ⟨rfl, rfl, fun _ => rfl⟩
  | _ => exact h.congr rfl rfl rfl

theorem run (h : q.Knows m) (steps : List Step) : (q.run steps).Knows (m.run steps) := by
  induction steps generalizing q m with
  | nil => exact h
  | cons s ss ih => exact ih (h.apply s)

theorem empty (d : Dialect) : (Query.empty d).Knows {} :=
  ⟨rfl, rfl, fun _ => rfl⟩

end Query.Knows

/-! ## Aliases and statements -/

/-- The names of the tables that a query selects from or joins. -/
def Query.tableNames (q : Query) : List String :=
  (if q.table.name = "" then [] else [q.table.name]) ++ q.joins.map (·.table.name)

/-- The aliases a query knows are of the tables in its statement, and its own is that of its
table. -/
structure Query.Described (q : Query) : Prop where
  keys : ∀ name, name ∈ q.aliases.map Prod.fst ↔ name ∈ q.tableNames
  current : q.table.name ≠ "" → Entries.find? q.table.name q.aliases = some q.table.aliasName

/-- A call that gives the query no table of another name, and joins none of this one. -/
def Step.Keeps (name : String) : Step → Prop
  | table text => (TableRef.parse text).name = name
  | join _ text steps => steps.any JoinStep.isOn → (TableRef.parse text).name ≠ name
  | reset => False
  | _ => True

namespace Mentions

variable {m : Mentions}

/-- Each table in the statement was noted. -/
structure Complete (m : Mentions) : Prop where
  table : m.table.name ≠ "" → m.table ∈ m.noted
  joined : m.joined ⊆ m.noted

theorem Complete.setTable (h : m.Complete) (t : TableRef) : (m.setTable t).Complete where
  table _ := List.mem_cons_self
  joined := List.subset_cons_of_subset t h.joined

theorem Complete.addJoined (h : m.Complete) (t : TableRef) : (m.addJoined t).Complete where
  table hname := List.mem_cons_of_mem t (h.table hname)
  joined := by
    refine List.append_subset.mpr ⟨List.subset_cons_of_subset t h.joined, ?_⟩
    simp [Mentions.addJoined]

theorem Complete.apply (h : m.Complete) (s : Step) : (m.apply s).Complete := by
  cases s with
  | table text => exact h.setTable _
  | aliased text => exact h.setTable _
  | join kind text steps =>
      rw [Mentions.apply]
      split
      · exact h.addJoined _
      · exact h
  | reset => exact ⟨fun hname => absurd rfl hname, List.nil_subset _⟩
  | _ => exact h

theorem Complete.run (h : m.Complete) (steps : List Step) : (m.run steps).Complete := by
  induction steps generalizing m with
  | nil => exact h
  | cons s ss ih => exact ih (h.apply s)

theorem complete_empty : Complete {} :=
  ⟨fun hname => absurd rfl hname, List.nil_subset _⟩

/-- Only tables in the statement were noted, the query's own with its alias after any other of its
name. -/
structure Current (m : Mentions) : Prop where
  named : ∀ t ∈ m.noted, t.name ∈ m.names
  alias?_table : m.table.name ≠ "" → m.alias? m.table.name = some m.table.aliasName

theorem current_setTable {t : TableRef} (hname : t.name ≠ "")
    (h : ∀ u ∈ m.noted, u.name = t.name ∨ u.name ∈ m.joined.map TableRef.name) :
    (m.setTable t).Current where
  named := by
    have hnames : (m.setTable t).names = t.name :: m.joined.map TableRef.name := by
      simp [names, Mentions.setTable, hname]
    rw [hnames]
    exact List.forall_mem_cons.mpr
      ⟨List.mem_cons_self, fun u hu => List.mem_cons.mpr (h u hu)⟩
  alias?_table _ := by simp [alias?, Mentions.setTable]

theorem Current.addJoined (h : m.Current) {t : TableRef} (ht : t.name ≠ m.table.name) :
    (m.addJoined t).Current where
  named := by
    have hnames : (m.addJoined t).names = m.names ++ [t.name] := by
      rw [names, names, Mentions.addJoined, List.map_append, ← List.append_assoc]
      rfl
    rw [hnames]
    refine List.forall_mem_cons.mpr ⟨by simp, fun u hu => ?_⟩
    exact List.mem_append_left _ (h.named u hu)
  alias?_table hname := by
    have hnoted := h.alias?_table hname
    rw [alias?] at hnoted ⊢
    rw [Mentions.addJoined, List.find?_cons_of_neg (by simpa using ht)]
    exact hnoted

theorem Current.split (h : m.Current) (hname : m.table.name ≠ "") :
    ∀ u ∈ m.noted, u.name = m.table.name ∨ u.name ∈ m.joined.map TableRef.name := by
  intro u hu
  simpa [names, hname] using h.named u hu

/-- A call keeps the aliases current if it keeps the name of the query's table to itself. -/
theorem Current.apply (h : m.Current) (hname : m.table.name ≠ "") {s : Step}
    (hs : s.Keeps m.table.name) :
    (m.apply s).Current ∧ (m.apply s).table.name = m.table.name := by
  cases s with
  | table text =>
      obtain hs : (TableRef.parse text).name = m.table.name := hs
      exact ⟨current_setTable (hs ▸ hname) (hs ▸ h.split hname), hs⟩
  | aliased text => exact ⟨current_setTable hname (h.split hname), rfl⟩
  | join kind text steps =>
      rw [Mentions.apply]
      split
      · rename_i hon
        exact ⟨h.addJoined (hs hon), rfl⟩
      · exact ⟨h, rfl⟩
  | reset => exact hs.elim
  | _ => exact ⟨h, rfl⟩

theorem Current.run (h : m.Current) (hname : m.table.name ≠ "") {steps : List Step}
    (hsteps : ∀ s ∈ steps, s.Keeps m.table.name) : (m.run steps).Current := by
  induction steps generalizing m with
  | nil => exact h
  | cons s ss ih =>
      obtain ⟨hs, hss⟩ := List.forall_mem_cons.mp hsteps
      obtain ⟨hcurrent, htable⟩ := h.apply hname hs
      exact ih hcurrent (htable ▸ hname) (htable ▸ hss)

end Mentions

theorem Query.Knows.described_iff {q : Query} {m : Mentions} (h : q.Knows m) (hm : m.Complete) :
    q.Described ↔ m.Current := by
  have hnames : q.tableNames = m.names := by
    rw [tableNames, Mentions.names, ← h.joined, ← h.table, List.map_map]
    rfl
  have hkeys : ∀ name, name ∈ q.aliases.map Prod.fst ↔ ∃ t ∈ m.noted, t.name = name := by
    intro name
    rw [← Entries.find?_isSome, h.aliases, Mentions.alias?]
    simp
  constructor
  · intro hdescribed
    refine ⟨fun t ht => ?_, fun hname => ?_⟩
    · exact hnames ▸ (hdescribed.keys t.name).mp ((hkeys t.name).mpr ⟨t, ht, rfl⟩)
    · have hcurrent := hdescribed.current
      rw [h.table, h.aliases] at hcurrent
      exact hcurrent hname
  · intro hcurrent
    refine ⟨fun name => ?_, fun hname => ?_⟩
    · rw [hkeys, hnames]
      constructor
      · rintro ⟨t, ht, rfl⟩
        exact hcurrent.named t ht
      · intro hname
        rcases List.mem_append.mp hname with htable | hjoined
        · split at htable
          · cases htable
          · rename_i hne
            exact ⟨m.table, hm.table hne, (List.mem_singleton.mp htable).symm⟩
        · obtain ⟨t, ht, hname⟩ := List.mem_map.mp hjoined
          exact ⟨t, hm.joined ht, hname⟩
    · rw [h.table] at hname ⊢
      rw [h.aliases]
      exact hcurrent.alias?_table hname

/-- A query knows the alias that was noted last for each name. These describe its statement just if
only tables in it were noted, and its own last of its name. They do if the query keeps a table of one
name and joins none of that name; a table that is replaced, an alias that is set before the table and
a join of the table with itself stay or take its place. -/
theorem aliases_described_iff (d : Dialect) (steps : List Step) :
    (Query.run (.empty d) steps).Knows (Mentions.run {} steps) ∧
    ((Query.run (.empty d) steps).Described ↔ (Mentions.run {} steps).Current) ∧
    ∀ text rest, steps = .table text :: rest → (TableRef.parse text).name ≠ "" →
      (∀ s ∈ rest, s.Keeps (TableRef.parse text).name) →
        (Query.run (.empty d) steps).Described := by
  have hknows := (Query.Knows.empty d).run steps
  have hdescribed := hknows.described_iff (Mentions.complete_empty.run steps)
  refine ⟨hknows, hdescribed, ?_⟩
  rintro text rest rfl hname hrest
  refine hdescribed.mpr ?_
  have hfirst : (Mentions.setTable {} (.parse text)).Current :=
    Mentions.current_setTable hname nofun
  exact hfirst.run hname hrest

/-- A query whose table is replaced. -/
def replacingUsers : List Step :=
  [.table "users as u", .table "posts as p"]

/-- A query that joins its table with itself. -/
def joiningUsers : List Step :=
  [.table "users as u", .join .inner "users as m" [.on .and "u.manager" "=" "m.id"]]

/-- A query that is given its alias later, and a join that is left out. -/
def renamingUsers : List Step :=
  [.table "users", .join .left "posts as p" [], .aliased "u",
    .join .left "tags as t" [.on .and "t.owner" "=" "u.id"]]

/-- The first two know aliases that do not describe their statements; those of the last do. -/
theorem aliases_described_users :
    (Query.run (.empty .mysql) replacingUsers).aliases = [("posts", "p"), ("users", "u")] ∧
      ¬ (Query.run (.empty .mysql) replacingUsers).Described ∧
      ¬ (Query.run (.empty .mysql) joiningUsers).Described ∧
      (Query.run (.empty .mysql) renamingUsers).Described := by
  have hreplaced : ¬ (Mentions.run {} replacingUsers).Current := by
    intro h
    have hnamed := h.named ⟨"users", "u"⟩ (by decide +kernel)
    exact absurd hnamed (by decide +kernel)
  have hjoined : ¬ (Mentions.run {} joiningUsers).Current := by
    intro h
    exact absurd (h.alias?_table (by decide +kernel)) (by decide +kernel)
  refine ⟨by decide +kernel, mt (aliases_described_iff .mysql replacingUsers).2.1.mp hreplaced,
    mt (aliases_described_iff .mysql joiningUsers).2.1.mp hjoined, ?_⟩
  refine (aliases_described_iff .mysql renamingUsers).2.2 _ _ rfl (by decide +kernel) ?_
  simp only [List.forall_mem_cons, Step.Keeps]
  exact ⟨nofun, trivial, fun _ => by decide +kernel, nofun⟩

end SqlMapping
