import SqlMapping.Text.Cut
import SqlMapping.Url.Fault
import SqlMapping.Value.Show

/-!
# Failures

A failure is a cause and what was being done when it arose, the outermost activity first. The
wording of both is here and nowhere else.
-/

namespace SqlMapping

/-- The parameters a connection url has to give. -/
inductive Parameter where
  | username
  | password
  | host
  | port
  | database
  deriving DecidableEq

def Parameter.name : Parameter → String
  | username => "username"
  | password => "password"
  | host => "host"
  | port => "port"
  | database => "database"

/-- What went wrong. -/
inductive Cause where
  | tableMissing
  /-- A statement that writes has no column; `what` names the kind of content. -/
  | columnSetEmpty (what : String)
  | unsupportedFieldType (field kind : String)
  | fieldSliceType (field : String)
  | unsupportedValueShape (reason : String)
  | invalidOperator (operator : String)
  | nullFieldUnassignable (field : String)
  | transactionConflict
  | noTransaction
  | objectNil
  | objectNoFields
  | invalidTag (tag reason : String)
  | invalidBetweenValue
  | deadlineExceeded
  | connectionNotFound (name : String)
  | missingConnectionParameter (parameter : Parameter)
  | invalidConnectionUrl (fault : Url.Fault)
  | valueConversion (value : Value) (target : String)
  | unknownNaming (name : String)
  | unknownBucket (name : String)
  | optionNotBoolean (option value : String)
  | notText (fault : Text.Utf8.Fault)
  | driverMismatch (scheme driver : String)
  | emptyPrimaryKey
  | nestedAssignment (typeName : String)
  /-- The backend's own wording. -/
  | backend (text : String)

def Cause.message : Cause → String
  | tableMissing => "Missing table name"
  | columnSetEmpty what => s!"Nothing to write, the {what} has no column"
  | unsupportedFieldType field kind => s!"Field `{field}` has an unsupported type ({kind})"
  | fieldSliceType field => s!"Field `{field}` is a slice, only byte slices can be mapped"
  | unsupportedValueShape reason => s!"Unsupported value shape: {reason}"
  | invalidOperator operator => s!"Invalid where operator `{operator}`"
  | nullFieldUnassignable field => s!"Field `{field}` is null and cannot be assigned"
  | transactionConflict => "The session already has an active transaction"
  | noTransaction => "The session has no active transaction"
  | objectNil => "No object to map"
  | objectNoFields => "The object has no mappable field"
  | invalidTag tag reason => s!"Invalid tag `{tag}`: {reason}"
  | invalidBetweenValue => "The bounds of a between predicate must be scalar values"
  | deadlineExceeded => "The transaction deadline has been exceeded"
  | connectionNotFound name => s!"No connection named `{name}` was found"
  | missingConnectionParameter parameter =>
    "The connection is missing parameter: " ++ parameter.name
  | invalidConnectionUrl fault => "Invalid connection url: " ++ fault.message
  | valueConversion value target => "Cannot convert " ++ value.describe ++ " to " ++ target
  | unknownNaming name => s!"Unknown naming style `{name}`, expected `snake` or `pascal`"
  | unknownBucket name => s!"Unknown binding bucket `{name}`"
  | optionNotBoolean option value => s!"Option `{option}` expects a boolean, found `{value}`"
  | notText fault => fault.message
  | driverMismatch scheme driver =>
    s!"The url scheme `{scheme}` does not match the driver `{driver}`"
  | emptyPrimaryKey => "The primary key can not be empty"
  | nestedAssignment typeName =>
    s!"Cannot assign a column value to the nested struct `{typeName}`"
  | backend text => text

/-- What was being done. -/
inductive Activity where
  | parsingUrl (url : String)
  | connecting (driver host : String) (port : Nat) (database : String)
  | closing (connection : String)
  | querying (sql : String)
  | executing (sql : String)
  | assigning (column : String)
  | beginning
  | committing
  | rollingBack

def Activity.message : Activity → String
  | parsingUrl url => "While parsing the connection url `" ++ Text.abridged url ++ "`"
  | connecting driver host port database =>
    s!"While connecting to `{driver}://{host}:{port}/{database}`"
  | closing connection => s!"While closing the connection `{connection}`"
  | querying sql => "While running the query:\n" ++ Text.abridged sql
  | executing sql => "While executing the query:\n" ++ Text.abridged sql
  | assigning column => s!"While assigning the column `{column}`"
  | beginning => "While beginning a transaction"
  | committing => "While committing the transaction"
  | rollingBack => "While rolling back the transaction"

/-- A cause and the activities around it, the outermost first. -/
structure Failure where
  activities : List Activity := []
  cause : Cause

namespace Failure

/-- The whole wording, outermost activity first. -/
def message (f : Failure) : String :=
  ": ".intercalate (f.activities.map Activity.message ++ [f.cause.message])

def within (a : Activity) (f : Failure) : Failure :=
  { f with activities := a :: f.activities }

end Failure

instance : Coe Cause Failure := ⟨fun c => { cause := c }⟩

/-- A result, or the failure that there is none. -/
abbrev Result := Except Failure

namespace Result

variable {α : Type}

def fail (c : Cause) : Result α :=
  .error c

def within (a : Activity) (r : Result α) : Result α :=
  r.mapError (Failure.within a)

end Result

/-- A state after work on it, and the failure that ended the work early if one did. What was done
before the failure stays done. -/
structure Attempt (α : Type) where
  state : α
  failure : Option Failure := none

namespace Attempt

variable {α β : Type}

/-- An attempt seen as one on a larger state. -/
def map (f : α → β) (a : Attempt α) : Attempt β :=
  ⟨f a.state, a.failure⟩

def result (a : Attempt α) : Result Unit :=
  match a.failure with
  | some f => .error f
  | none => .ok ()

/-- Further work, unless the work so far failed. -/
def andThen (a : Attempt α) (f : α → Attempt α) : Attempt α :=
  match a.failure with
  | some _ => a
  | none => f a.state

end Attempt

end SqlMapping
