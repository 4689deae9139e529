import TestWorker.CommandLine.Parameter
import TestWorker.Text.Letters

namespace TestWorker.CommandLine

def program : String := "rapidworker"

def usage : String := "Usage: " ++ program ++ " [OPTIONS]"

namespace Parameter

def metavariable (p : Parameter) : String :=
  match p.domain with
  | .text => " TEXT"
  | .number _ => " INTEGER RANGE"
  | .choice names => " [" ++ "|".intercalate names ++ "]"
  | _ => ""

def term (p : Parameter) : String :=
  ", ".intercalate p.names ++ p.metavariable ++ match p.off? with
    | some off => " / " ++ off
    | none => ""

def remarks (p : Parameter) : List String :=
  (if p.showDefault then ["default: " ++ p.default.display] else []) ++
  (match p.domain with
    | .number least => ["x>=" ++ toString least]
    | _ => []) ++
  (if p.required then ["required"] else [])

def description (p : Parameter) : String :=
  if p.remarks.isEmpty then p.help
  else p.help ++ "  [" ++ "; ".intercalate p.remarks ++ "]"

end Parameter

def pageWidth : Nat := 80

/-- Widest entry of the left column that shares a line with its description. -/
def widestTerm : Nat := 30

/-- Words with the number of blanks before each. -/
def words : Nat → List Char → List Char → List (Nat × List Char)
  | gap, word, [] => if word.isEmpty then [] else [(gap, word)]
  | gap, word, c :: cs =>
    if c == ' ' then
      if word.isEmpty then words (gap + 1) [] cs else (gap, word) :: words 1 [] cs
    else words gap (word ++ [c]) cs

def fill (width : Nat) (line : List Char) : List (Nat × List Char) → List (List Char)
  | [] => [line]
  | (gap, word) :: ws =>
    if line.isEmpty then fill width word ws
    else if line.length + gap + word.length ≤ width then
      fill width (line ++ List.replicate gap ' ' ++ word) ws
    else line :: fill width word ws

def wrap (width : Nat) (text : String) : List String :=
  (fill width [] (words 0 [] text.toList)).map String.ofList

def blanks (n : Nat) : String := String.ofList (List.replicate n ' ')

/-- One entry: its description stands beside its name, or below where the name is too wide. -/
def entry (column : Nat) (term description : String) : List String :=
  let margin := blanks (column + 2)
  let lines := wrap (pageWidth - column - 2) description
  if term.length + 2 ≤ column then
    match lines with
    | [] => ["  " ++ term]
    | l :: ls => ("  " ++ term ++ blanks (column - term.length) ++ l) :: ls.map (margin ++ ·)
  else ("  " ++ term) :: lines.map (margin ++ ·)

def overview : List String :=
  let widest := (Parameter.all.map fun p => p.term.length).foldl max 0
  let column := min widest widestTerm + 2
  [usage, "", "  Start a worker to execute API tests and requests.", "", "Options:"] ++
    Parameter.all.flatMap fun p => entry column p.term p.description

end TestWorker.CommandLine
