import TestWorker.Fault

namespace TestWorker.Database

/-- Names start after a colon that follows neither a colon, a word character nor a backslash. A name
is not followed by a colon; one that is loses its last character. -/
def bindNames (before : Option Char) : List Char → List String
  | [] => []
  | c :: cs =>
    let opens : Bool := c == ':' && match before with
      | some b => !(b == ':' || b == '\\' || Text.isWord b)
      | none => true
    let word := cs.takeWhile Text.isWord
    let name := match cs.dropWhile Text.isWord with
      | ':' :: _ => word.dropLast
      | _ => word
    if opens && !name.isEmpty then String.ofList name :: bindNames (some c) cs
    else bindNames (some c) cs

structure Statement where
  sql : String
  /-- The bound values, as the job gives them. -/
  parameters : Value
  deriving Repr

/-- The names that a statement binds, sorted and once each. -/
def Statement.binds (s : Statement) : List String :=
  ((bindNames none s.sql.toList).mergeSort fun a b => decide (a ≤ b)).eraseDups

/-- Only a text can be a statement. -/
def Statement.ofValue (query parameters : Value) : Except Fault Statement :=
  match query with
  | .text sql => .ok ⟨sql, parameters⟩
  | .bytes _ => .error (.wrongKind "cannot use a string pattern on a bytes-like object")
  | v =>
    .error (.wrongKind ("expected string or bytes-like object, got '" ++ v.qualifiedKind ++ "'"))

/-- `columns` is nothing where the statement returns no rows. -/
structure ResultSet where
  columns : Option (List String) := none
  rows : List (List Value) := []
  rowCount : Value := .int (-1)
  deriving Repr

/-- A value as rows show it: what JSON has no scalar for is its display. -/
def cell : Value → Value
  | .null => .null
  | .bool b => .bool b
  | .int n => .int n
  | .float x => .float x
  | .text s => .text s
  | v => .text v.display

/-- Each row as an object; of two columns with one name the later wins. -/
def ResultSet.objects (r : ResultSet) : List Value :=
  match r.columns with
  | none => []
  | some columns => r.rows.map fun row =>
    .object (Entries.ofList (columns.zip (row.map cell)))

inductive Step where
  | connect (address : String)
  | begin
  | commit
  | rollback
  | dispose
  deriving DecidableEq, Repr

inductive Event where
  | step (s : Step)
  | execute (s : Statement)
  deriving Repr

def driverCodes : List (String × String) := [
  ("OperationalError", "e3q8"), ("ProgrammingError", "f405"), ("IntegrityError", "gkpj"),
  ("DatabaseError", "4xp6"), ("InterfaceError", "rvf5"), ("DataError", "9h9h"),
  ("InternalError", "2j85"), ("NotSupportedError", "tw8g")]

def layerKinds : List String := [
  "SQLAlchemyError", "ArgumentError", "DuplicateColumnError", "ObjectNotExecutableError",
  "NoSuchModuleError", "NoForeignKeysError", "AmbiguousForeignKeysError",
  "ConstraintColumnNotFoundError", "CircularDependencyError", "CompileError",
  "UnsupportedCompilationError", "IdentifierError", "DisconnectionError", "InvalidatePoolError",
  "TimeoutError", "InvalidRequestError", "IllegalStateChangeError", "NoInspectionAvailable",
  "PendingRollbackError", "ResourceClosedError", "NoSuchColumnError", "NoResultFound",
  "MultipleResultsFound", "NoReferenceError", "AwaitRequired", "MissingGreenlet",
  "NoReferencedTableError", "NoReferencedColumnError", "NoSuchTableError",
  "UnreflectableTableError", "UnboundExecutionError", "DontWrapMixin", "StatementError"]

def shownLength : Nat := 300

def shorten (s : String) : String :=
  let cs := s.toList
  if cs.length ≤ shownLength then s
  else
    let half := shownLength / 2
    String.ofList (cs.take half) ++ " ... (" ++ toString (cs.length - shownLength) ++
      " characters truncated) ... " ++ String.ofList (cs.drop (cs.length - half))

/-- Cause, statement, bound values and where the refusal is explained. -/
def driverMessage (code message : String) (s : Statement) : String :=
  "\n".intercalate (
    ["(builtins.Exception) " ++ message, "[SQL: " ++ s.sql ++ "]"] ++
    (if s.parameters.truthy then ["[parameters: " ++ shorten s.parameters.literal ++ "]"]
      else []) ++
    ["(Background on this error at: https://sqlalche.me/e/21/" ++ code ++ ")"])

/-- The fault behind a refusal of the given kind. -/
def refusal (kind : String) (message : Option String) (s : Statement) : Fault :=
  match driverCodes.lookup kind with
  | some code => .database kind (driverMessage code (message.getD "") s)
  | none =>
    if layerKinds.contains kind then .database kind (message.getD "") else .raised kind message

end TestWorker.Database
