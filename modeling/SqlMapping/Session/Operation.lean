import SqlMapping.Session.Writing

/-!
# Operations

Everything a session can be asked, as data, so that runs of a session can be spoken of.
-/

namespace SqlMapping

/-- One thing asked of a session. -/
inductive Operation where
  | step (s : Step)
  | find (id : Value) (o : Object) (columns : List String)
  | first (o : Object) (columns : List String)
  | all (fresh : Object) (columns : List String)
  | findRecord (id : Value) (primaryKey : String) (columns : List String)
  | firstRecord
  | allRecords
  | insert (p : Payload)
  | update (p : Payload)
  | delete
  | exec (sql : String) (values : List Value)
  | selectText
  | insertText (p : Payload)
  | updateText (p : Payload)
  | deleteText
  | begin (timeout : Option Nat)
  | commit
  | rollback
  | close

/-- What comes of an operation. -/
inductive Outcome where
  | nothing
  | loaded (found : Result Bool) (o : Object)
  | objects (r : Result (List Object))
  | record (r : Result (Option Record))
  | records (r : Result (List Record))
  | affected (r : Result Affected)
  | count (r : Result Nat)
  | text (r : Result String)
  | done (r : Result Unit)

namespace Session

variable {σ : Type}

def perform (b : Backend σ) : Operation → StateM (Desk σ) Outcome
  | .step s => do
    let _ ← (change fun session => { session with query := session.query.apply s } : Work σ Unit)
    return .nothing
  | .find id o columns => do
    let (found, o) ← find b id o columns
    return .loaded found o
  | .first o columns => do
    let (found, o) ← first b o columns
    return .loaded found o
  | .all fresh columns => .objects <$> (all b fresh columns).run
  | .findRecord id primaryKey columns => .record <$> (findRecord b id primaryKey columns).run
  | .firstRecord => .record <$> (firstRecord b).run
  | .allRecords => .records <$> (allRecords b).run
  | .insert p => .affected <$> (insert b p).run
  | .update p => .count <$> (update b p).run
  | .delete => .count <$> (delete b).run
  | .exec sql values => .affected <$> (execute b sql values).run
  | .selectText => .text <$> (selectText (σ := σ)).run
  | .insertText p => .text <$> (insertText (σ := σ) p).run
  | .updateText p => .text <$> (updateText (σ := σ) p).run
  | .deleteText => .text <$> (deleteText (σ := σ)).run
  | .begin timeout => .done <$> (begin b timeout).run
  | .commit => .done <$> (commit b).run
  | .rollback => .done <$> (rollback b).run
  | .close => .done <$> (close b).run

end Session

end SqlMapping
