import TestWorker.Fault

namespace TestWorker

/-- What a provider has under a name. What a generator gives is not its own: it is asked for at each
call, and a rehearsal replies with the sample. -/
inductive Attribute where
  | generator (sample : Except Fault Value)
  | plain (value : Value)
  deriving Repr

structure Provider where
  /-- The dotted name of the module that it comes from. -/
  origin : String
  attributes : List (String × Attribute)
  deriving Repr

structure Draw where
  origin : String
  function : String
  sample : Except Fault Value
  deriving Repr

namespace Provider

/-- The third part of a module's name, for modules of providers. -/
def group? (p : Provider) : Option String :=
  match Text.splitChars (· == '.') p.origin.toList with
  | root :: branch :: group :: _ =>
    if String.ofList root == "faker" && String.ofList branch == "providers" then
      some (String.ofList group)
    else none
  | _ => none

/-- The first provider of a group stands for it. -/
def ofGroup? (ps : List Provider) (group : String) : Option Provider :=
  ps.find? fun p => p.group? == some group

def groups (ps : List Provider) : List String := (ps.filterMap group?).eraseDups

/-- The generator of a name; names that start with an underscore are not for callers. -/
def find? (p : Provider) (function : String) : Option Draw :=
  if function.startsWith "_" then none
  else match Entries.get? p.attributes function with
    | some (.generator sample) => some ⟨p.origin, function, sample⟩
    | _ => none

def english (group : String) (attributes : List (String × Attribute)) : Provider :=
  ⟨"faker.providers." ++ group ++ ".en_US", attributes⟩

def sample (name value : String) : String × Attribute := (name, .generator (.ok (.text value)))

/-- A catalogue of all groups, with a sample of the common generators. -/
def catalogue : List Provider := [
  english "address" [sample "city" "Springfield"],
  english "automotive" [], english "bank" [], english "barcode" [],
  english "color" [], english "company" [], english "credit_card" [], english "currency" [],
  english "date_time" [sample "date" "2001-02-03"],
  english "doi" [], english "emoji" [], english "file" [],
  english "geo" [("latitude", .generator (.ok (.decimal "12.5")))],
  english "internet" [sample "email" "ann@example.test"],
  english "isbn" [], english "job" [],
  english "lorem" [sample "sentence" "One two three."],
  english "misc" [], english "passport" [],
  english "person" [sample "first_name" "Ann", ("first_names", .plain (.list [.text "Ann"]))],
  english "phone_number" [sample "phone_number" "555-0100"],
  english "profile" [],
  english "python" [("pyint", .generator (.ok (.int 42))), ("pyobject", .generator (.ok .null))],
  english "sbn" [], english "ssn" [], english "user_agent" []]

end Provider
end TestWorker
