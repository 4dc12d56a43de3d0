import SqlMapping.Proofs.Lists
import SqlMapping.Proofs.Session.Loading

/-! # Rows apart

The rows of a query go through the same buffers one after another. A row overwrites all that another
one of its length left there, so that each object is what its own row makes of it.
-/

namespace SqlMapping

/-! ## Scanning again -/

theorem MappedField.scannedAt_scannedAt {row row' : List Value} (h : row.length = row'.length)
    (f : MappedField) (place : Option Nat) :
    (f.scannedAt row place).scannedAt row' place = f.scannedAt row' place := by
  cases place with
  | none => rfl
  | some i =>
      have hbuffer : row'[i]?.getD (row[i]?.getD f.buffer) = row'[i]?.getD f.buffer := by
        by_cases hi : i < row'.length
        · simp [hi]
        · have hrow : row[i]? = none := List.getElem?_eq_none (by omega)
          rw [hrow, Option.getD_none]
      simp only [scannedAt, hbuffer]

namespace Mapping

variable {m : Mapping} {row row' : List Value}

/-- Of two rows of one length the second leaves nothing of the first. -/
theorem scan_scan (hnodup : m.columns.Nodup) (hlength : row.length = row'.length)
    (columns : List String) :
    let m' := m.scan (m.places columns) row
    m'.scan (m'.places columns) row' = m.scan (m.places columns) row' := by
  intro m'
  have hcolumns : m'.columns = m.columns := columns_scan hnodup columns row
  have hfields : (m'.scan (m'.places columns) row').fields =
      (m.scan (m.places columns) row').fields := by
    rw [fields_scan_places (hcolumns ▸ hnodup), fields_scan_places hnodup,
      fields_scan_places hnodup, List.map_map]
    refine List.map_congr_left fun f _ => ?_
    rw [Function.comp_apply, MappedField.column_scannedAt,
      MappedField.scannedAt_scannedAt hlength]
  calc m'.scan (m'.places columns) row'
      = { m with fields := (m'.scan (m'.places columns) row').fields } := rfl
    _ = m.scan (m.places columns) row' := by rw [hfields]; rfl

end Mapping

/-! ## Objects from rows -/

namespace Plan

variable {fresh : Object} {columns : List String} {ending : Option Failure} {m m₀ : Mapping}
  {rows : List (List Value)} {objects : List Object} {n : Nat}

/-- The object that a row makes of a fresh one. -/
def loadRow (fresh : Object) (columns : List String) (m : Mapping) (row : List Value) :
    Result Object := do
  let filled := fresh.allocate
  filled.result
  let (_, a) := assignRow m columns row filled.state
  a.result
  return a.state

theorem loadRows_cons (row : List Value) (rows : List (List Value)) :
    loadRows fresh columns ending m (row :: rows) = do
      let o ← loadRow fresh columns m row
      let rest ← loadRows fresh columns ending (m.scan (m.places columns) row) rows
      return o :: rest := by
  rw [loadRows, loadRow]
  cases fresh.allocate.result with
  | error e => rfl
  | ok _ =>
      simp only [bind, Except.bind]
      cases (assignRow m columns row fresh.allocate.state).2.result <;> rfl

/-- What is left of other rows in a mapping does not show after a row of their length. -/
def Rescans (columns : List String) (n : Nat) (m₀ m : Mapping) : Prop :=
  ∀ row, row.length = n → m.scan (m.places columns) row = m₀.scan (m₀.places columns) row

theorem Rescans.scan (h : Rescans columns n m₀ m) (hnodup : m₀.columns.Nodup) {row : List Value}
    (hrow : row.length = n) : Rescans columns n m₀ (m.scan (m.places columns) row) := by
  intro row' hrow'
  rw [h row hrow]
  exact Mapping.scan_scan hnodup (hrow.trans hrow'.symm) columns

/-- Loading rows of one length gives the object of each row, unless the rows end in a failure. -/
theorem loadRows_eq_ok_iff (hnodup : m₀.columns.Nodup) (hm : Rescans columns n m₀ m)
    (hlength : ∀ row ∈ rows, row.length = n) :
    loadRows fresh columns ending m rows = .ok objects ↔
      ending = none ∧
        List.Forall₂ (fun row o => loadRow fresh columns m₀ row = .ok o) rows objects := by
  -- The mapping changes from row to row, yet each row finds it as good as the first one did.
  induction rows generalizing m objects with
  | nil =>
      cases ending with
      | some e => simp [loadRows]
      | none => simp [loadRows, eq_comm]
  | cons row rows ih =>
      obtain ⟨hrow, hrows⟩ := List.forall_mem_cons.mp hlength
      have hload : loadRow fresh columns m row = loadRow fresh columns m₀ row := by
        simp only [loadRow, assignRow, hm row hrow]
      rw [loadRows_cons, hload]
      simp only [Result.bind_eq_ok, ih (hm.scan hnodup hrow) hrows, pure, Except.pure,
        Except.ok.injEq]
      constructor
      · rintro ⟨o, ho, rest, ⟨hending, hrest⟩, rfl⟩
        exact ⟨hending, .cons ho hrest⟩
      · rintro ⟨hending, hall⟩
        cases hall with
        | cons ho hrest => exact ⟨_, ho, _, ⟨hending, hrest⟩, rfl⟩

theorem loadRows_singleton (hnodup : m.columns.Nodup) (row : List Value) :
    loadRows fresh columns ending m [row] = .ok objects ↔
      ∃ o, objects = [o] ∧ ending = none ∧ loadRow fresh columns m row = .ok o := by
  have hsame : Rescans columns row.length m m := fun _ _ => rfl
  rw [loadRows_eq_ok_iff hnodup hsame (List.forall_mem_singleton.mpr rfl),
    List.forall₂_cons_left_iff]
  constructor
  · rintro ⟨hending, o, rest, ho, hrest, rfl⟩
    obtain rfl := List.forall₂_nil_left_iff.mp hrest
    exact ⟨o, rfl, hending, ho⟩
  · rintro ⟨o, rfl, hending, ho⟩
    exact ⟨hending, o, [], ho, .nil, rfl⟩

/-- Rows of one length are loaded if each is loaded on its own, and to the same objects. -/
theorem loadRows_apart (hnodup : m.columns.Nodup) (hlength : ∀ row ∈ rows, row.length = n)
    (hne : rows ≠ []) :
    ((∃ objects, loadRows fresh columns ending m rows = .ok objects) ↔
      ∀ row ∈ rows, ∃ objects, loadRows fresh columns ending m [row] = .ok objects) ∧
    ∀ objects, loadRows fresh columns ending m rows = .ok objects →
      List.Forall₂ (fun row o => loadRows fresh columns ending m [row] = .ok [o]) rows objects := by
  have hsame : Rescans columns n m m := fun _ _ => rfl
  have halone : ∀ row, (∃ objects, loadRows fresh columns ending m [row] = .ok objects) ↔
      ending = none ∧ ∃ o, loadRow fresh columns m row = .ok o := by
    intro row
    simp [loadRows_singleton hnodup]
  constructor
  · simp only [loadRows_eq_ok_iff hnodup hsame hlength, exists_and_left, exists_forall₂_iff, halone]
    constructor
    · exact fun ⟨hending, h⟩ row hrow => ⟨hending, h row hrow⟩
    · intro h
      obtain ⟨row, hrow⟩ := List.exists_mem_of_ne_nil rows hne
      exact ⟨(h row hrow).1, fun row hrow => (h row hrow).2⟩
  · intro objects h
    obtain ⟨hending, hall⟩ := (loadRows_eq_ok_iff hnodup hsame hlength).mp h
    exact hall.imp fun row o ho => (loadRows_singleton hnodup row).mpr ⟨o, rfl, hending, ho⟩

end Plan

/-! ## Other rows in an answer -/

def Cursor.withRows (rows : List (List Value)) (c : Cursor) : Cursor :=
  { c with rows }

/-- A reply with other rows if it has any. -/
def Request.withRows (rows : List (List Value)) : (r : Request) → Result r.Reply → Result r.Reply
  | .query .., reply => reply.map (Cursor.withRows rows)
  | .prepare _, reply | .exec .., reply | .begin, reply | .commit _, reply | .rollback _, reply
  | .closeStatement _, reply | .close, reply => reply

/-- A backend that answers each query with the same rows, and is otherwise as it was. -/
def Backend.withRows {σ : Type} (b : Backend σ) (rows : List (List Value)) : Backend σ :=
  { b with
    answer := fun r s =>
      let (reply, s) := b.answer r s
      (r.withRows rows reply, s)
    answerBy := fun deadline r s =>
      let (reply, s) := b.answerBy deadline r s
      (reply.map (r.withRows rows), s) }

theorem Backend.withRows_answerBy {σ : Type} (b : Backend σ) (rows : List (List Value))
    (deadline : Nat) (r : Request) (s : σ) :
    (b.withRows rows).answerBy deadline r s =
      ((b.answerBy deadline r s).1.map (r.withRows rows), (b.answerBy deadline r s).2) :=
  rfl

namespace Session

variable {σ : Type} (b : Backend σ) (rows : List (List Value))

theorem prepare_withRows (sql : String) : prepare (b.withRows rows) sql = prepare b sql :=
  rfl

theorem map_apply {α β : Type} (f : α → β) (w : Work σ α) (d : Desk σ) :
    (f <$> w) d = ((w d).1.map f, (w d).2) := by
  rw [← bind_pure_comp, bind_apply]
  rcases w d with ⟨_ | _, _⟩ <;> rfl

theorem during_map {α β : Type} (a : Activity) (f : α → β) (w : Work σ α) :
    during a (f <$> w) = f <$> during a w := by
  funext d
  rw [map_apply, during, map_apply, during]
  rcases w d with ⟨_ | _, _⟩ <;> rfl

/-- Sends a statement that reads rows. -/
def queryWithin (b : Backend σ) (deadline : Option Nat) (via : Option Transaction) (p : Prepared)
    (values : List Value) : Work σ Cursor :=
  sendWithin b deadline (.query via p values)

theorem runQuery_eq (sql : String) (values : List Value) :
    runQuery b sql values = (do
      record b sql values
      during (.querying sql) do
        let statement ← prepare b sql
        let (via, deadline) ← route
        queryWithin b deadline via statement values) :=
  rfl

theorem queryWithin_withRows (deadline : Option Nat) (via : Option Transaction) (p : Prepared)
    (values : List Value) :
    queryWithin (b.withRows rows) deadline via p values =
      Cursor.withRows rows <$> queryWithin b deadline via p values := by
  funext d
  rw [map_apply]
  cases deadline with
  | none => rfl
  | some deadline =>
      rw [queryWithin, queryWithin, sendWithin_some, sendWithin_some]
      have hclock : clock (b.withRows rows) = clock b := rfl
      have hnow : (b.withRows rows).now = b.now := rfl
      rw [hclock, hnow]
      split
      · rfl
      · simp only [sendBy, onBackend, Backend.withRows_answerBy]
        rcases b.answerBy deadline (.query via p values) (clock b d).2.link.backend with ⟨_ | _, _⟩
          <;> rfl

theorem runQuery_withRows (sql : String) (values : List Value) :
    runQuery (b.withRows rows) sql values = Cursor.withRows rows <$> runQuery b sql values := by
  have hrecord : record (b.withRows rows) sql values = record b sql values := rfl
  simp only [runQuery_eq, hrecord, prepare_withRows, queryWithin_withRows, ← during_map, map_bind]

/-- The plan by which the rows of a query are loaded, and the cursor that has them. -/
def selected (b : Backend σ) (fresh : Object) (requested : List String) :
    Work σ (Plan × Cursor) := do
  let s ← current
  let p : Plan ← yield (s.planFor (some s.query.aliases) requested fresh).1
  let sql ← yield p.query.selectSql
  let c ← runQuery b (s.text sql) p.query.values
  return (p, c)

theorem all_eq (fresh : Object) (requested : List String) :
    all b fresh requested = terminal (do
      let (p, c) ← selected b fresh requested
      yield (Plan.loadRows fresh p.columns c.ending p.mapping c.rows)) := by
  simp only [all, selected, bind_assoc, pure_bind]

theorem all_withRows (fresh : Object) (requested : List String) :
    all (b.withRows rows) fresh requested = terminal (do
      let (p, c) ← selected b fresh requested
      yield (Plan.loadRows fresh p.columns c.ending p.mapping rows)) := by
  simp only [all, selected, runQuery_withRows, bind_map_left, bind_assoc, pure_bind]
  rfl

theorem fst_terminal_yield {α β : Type} (w : Work σ α) (f : α → Result β) (d : Desk σ) :
    (terminal (w >>= fun a => yield (f a)) d).1 = (w d).1 >>= f := by
  rw [terminal_fst, bind_apply]
  rcases w d with ⟨_ | _, _⟩ <;> rfl

theorem plan_of_selected {fresh : Object} {requested : List String} {d : Desk σ} {p : Plan}
    {c : Cursor} (h : (selected b fresh requested d).1 = .ok (p, c)) :
    (d.session.planFor (some d.session.query.aliases) requested fresh).1 = .ok p := by
  obtain ⟨s, hs, h⟩ := ok_of_bind h
  obtain rfl := Except.ok.inj hs
  obtain ⟨q, hplan, h⟩ := ok_of_bind h
  obtain ⟨sql, -, h⟩ := ok_of_bind h
  obtain ⟨cursor, -, h⟩ := ok_of_bind h
  obtain ⟨rfl, -⟩ := Prod.mk.inj (Except.ok.inj h)
  exact hplan

theorem nodup_selected {fresh : Object} {requested : List String} {d : Desk σ} {p : Plan}
    {c : Cursor} (h : (selected b fresh requested d).1 = .ok (p, c)) : p.mapping.columns.Nodup :=
  (fits_of_planFor (plan_of_selected b h)).2.nodup

/-- Rows of one length do not show in each other's objects. They are loaded if a query that is
answered with one of them is loaded for each, and each becomes the object that it becomes there. -/
theorem rows_apart (fresh : Object) (requested : List String) (d : Desk σ)
    {rows : List (List Value)} {n : Nat} (hne : rows ≠ [])
    (hlength : ∀ row ∈ rows, row.length = n) :
    let answered := fun rows => (all (b.withRows rows) fresh requested d).1
    ((∃ objects, answered rows = .ok objects) ↔
        ∀ row ∈ rows, ∃ objects, answered [row] = .ok objects) ∧
      ∀ objects, answered rows = .ok objects →
        List.Forall₂ (fun row o => answered [row] = .ok [o]) rows objects := by
  intro answered
  have hanswered : ∀ rows, answered rows = (selected b fresh requested d).1 >>= fun (p, c) =>
      Plan.loadRows fresh p.columns c.ending p.mapping rows := fun rows => by
    rw [← fst_terminal_yield, ← all_withRows]
  simp only [hanswered]
  rcases hselected : (selected b fresh requested d).1 with e | ⟨p, c⟩
  · obtain ⟨row, hrow⟩ := List.exists_mem_of_ne_nil rows hne
    refine ⟨⟨nofun, fun h => ?_⟩, nofun⟩
    obtain ⟨objects, hobjects⟩ := h row hrow
    cases hobjects
  · exact Plan.loadRows_apart (nodup_selected b hselected) hlength hne

/-- A null after a value leaves nothing of it, nor does a column that is read again. -/
theorem rows_apart_repeatedColumn :
    let rows : List (List Value) :=
      [[.boolean (some true), .boolean (some false), .null],
        [.boolean none, .boolean (some true), .null]]
    let user (id : Bool) : Object :=
      { label := "User", typeName := "", table := "users", primaryKey := "id"
        members := [.field "id" "col:id" (.scalar (.boolean id))] }
    let answered := fun rows =>
      (all (Script.backend.withRows rows) (user false) ["id", "id as same", "ghost"]
        (answering [])).1
    answered rows = .ok [user true, user false] ∧
      List.Forall₂ (fun row o => answered [row] = .ok [o]) rows [user true, user false] := by
  intro rows user answered
  have hlength : ∀ row ∈ rows, row.length = 3 := by
    simp [rows]
  have hanswered : answered rows = .ok [user true, user false] := rfl
  obtain ⟨-, hobjects⟩ := rows_apart Script.backend (user false) ["id", "id as same", "ghost"]
    (answering []) (List.cons_ne_nil _ _) hlength
  exact ⟨hanswered, hobjects _ hanswered⟩

end Session

end SqlMapping
