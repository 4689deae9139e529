import TestWorker.Value

namespace TestWorker.Wire

inductive Place where
  | key (name : String)
  | index (n : Nat)
  deriving DecidableEq, Repr

def Place.text : Place → String
  | key s => s
  | index n => toString n

inductive Complaint where
  | missing
  | notModel (model : String)
  | notObject
  | notList
  | notText
  | notUnicode
  | notBool
  | unreadableBool
  | notNumber
  | unreadableNumber
  deriving DecidableEq, Repr

namespace Complaint

def name : Complaint → String
  | missing => "missing"
  | notModel _ => "model_type"
  | notObject => "dict_type"
  | notList => "list_type"
  | notText => "string_type"
  | notUnicode => "string_unicode"
  | notBool => "bool_type"
  | unreadableBool => "bool_parsing"
  | notNumber => "float_type"
  | unreadableNumber => "float_parsing"

def message : Complaint → String
  | missing => "Field required"
  | notModel m => "Input should be a valid dictionary or instance of " ++ m
  | notObject => "Input should be a valid dictionary"
  | notList => "Input should be a valid list"
  | notText => "Input should be a valid string"
  | notUnicode => "Input should be a valid string, unable to parse raw data as a unicode string"
  | notBool => "Input should be a valid boolean"
  | unreadableBool => "Input should be a valid boolean, unable to interpret input"
  | notNumber => "Input should be a valid number"
  | unreadableNumber => "Input should be a valid number, unable to parse string as a number"

end Complaint

/-- A complaint about the value of some kind at the end of a path. -/
structure Issue where
  complaint : Complaint
  path : List Place
  kind : String
  deriving DecidableEq, Repr

namespace Issue

def under (p : Place) (i : Issue) : Issue := { i with path := p :: i.path }

def text (i : Issue) : String :=
  let place := if i.path.isEmpty then "" else ".".intercalate (i.path.map Place.text) ++ "\n"
  place ++ "  " ++ i.complaint.message ++ " [type=" ++ i.complaint.name ++
    ", input_type=" ++ i.kind ++ "]"

/-- All issues with a document of one model. -/
def report (model : String) (issues : List Issue) : String :=
  let n := issues.length
  let head := toString n ++ " validation error" ++ (if n = 1 then "" else "s") ++ " for " ++ model
  "\n".intercalate (head :: issues.map text)

end Issue
end TestWorker.Wire
