/-
# `Lib.CsvReader` — reading comma separated values

The reader of a standard dialect: commas, double quotes doubled inside a
quoted field, records that end with a line.  It reads line by line, and a
record goes on over lines while a quoted field is open.  A reader that raises
has returned the records before.
-/
import Mathlib.Data.List.Basic

namespace CsvReader

abbrev Line := List Char

/-- Where in a record the reader is. -/
inductive Mode where
  | startRecord
  | startField
  | inField
  | inQuotedField
  | quoteInQuotedField
  | eatNewline
deriving DecidableEq

inductive CsvError where
  | nul
  | newlineInField
  | fieldTooLong
deriving DecidableEq

structure State where
  mode : Mode
  field : Line
  fields : List Line
deriving DecidableEq

/-- The reader before a record. -/
def State.initial : State := ⟨.startRecord, [], []⟩

/-- Saves the field, and goes on in a mode. -/
def State.save (s : State) (mode : Mode) : State := ⟨mode, [], s.fields ++ [s.field]⟩

/-- Adds a character to the field. -/
def State.add (limit : Nat) (s : State) (mode : Mode) (c : Char) : Except CsvError State :=
  if s.field.length < limit then .ok { s with mode := mode, field := s.field ++ [c] }
  else .error .fieldTooLong

def isNewline (c : Char) : Bool := c = '\n' || c = '\r'

/-- A character at the start of a field. -/
def startField (limit : Nat) (s : State) (c : Char) : Except CsvError State :=
  if isNewline c then .ok (s.save .eatNewline)
  else if c = '"' then .ok { s with mode := .inQuotedField }
  else if c = ',' then .ok (s.save .startField)
  else s.add limit .inField c

/-- A character of a line. -/
def step (limit : Nat) (s : State) (c : Char) : Except CsvError State :=
  if c = '\x00' then .error .nul
  else
    match s.mode with
    | .startRecord =>
        if isNewline c then .ok { s with mode := .eatNewline } else startField limit s c
    | .startField => startField limit s c
    | .inField =>
        if isNewline c then .ok (s.save .eatNewline)
        else if c = ',' then .ok (s.save .startField)
        else s.add limit .inField c
    | .inQuotedField =>
        if c = '"' then .ok { s with mode := .quoteInQuotedField }
        else s.add limit .inQuotedField c
    | .quoteInQuotedField =>
        if c = '"' then s.add limit .inQuotedField c
        else if c = ',' then .ok (s.save .startField)
        else if isNewline c then .ok (s.save .eatNewline)
        else s.add limit .inField c
    | .eatNewline => if isNewline c then .ok s else .error .newlineInField

/-- The end of a line. -/
def endLine (s : State) : State :=
  match s.mode with
  | .startRecord => s
  | .startField => s.save .startRecord
  | .inField => s.save .startRecord
  | .inQuotedField => s
  | .quoteInQuotedField => s.save .startRecord
  | .eatNewline => { s with mode := .startRecord }

def readLine (limit : Nat) (s : State) (line : Line) : Except CsvError State :=
  endLine <$> line.foldlM (step limit) s

/-- The records of the lines, and the exception that ends them. -/
def readLines (limit : Nat) : State → List Line → List (List Line) × Option CsvError
  | s, [] => (if s.mode = .inQuotedField then [s.fields ++ [s.field]] else [], none)
  | s, line :: lines =>
      match readLine limit s line with
      | .error e => ([], some e)
      | .ok next =>
          if next.mode = .startRecord then
            let (records, error) := readLines limit .initial lines
            (next.fields :: records, error)
          else readLines limit next lines

/-- The lines of a text, with their ends. -/
def splitLines : List Char → List Line
  | [] => []
  | c :: text =>
      if c = '\n' then [c] :: splitLines text
      else
        match splitLines text with
        | [] => [[c]]
        | line :: lines => (c :: line) :: lines

def read (limit : Nat) (text : List Char) : List (List Line) × Option CsvError :=
  readLines limit .initial (splitLines text)

/-- A quoted field goes on over lines, and a blank line is an empty record. -/
example : read 10 "a,\"b\"\"\n,\"\n\nc".toList =
    ([["a".toList, "b\"\n,".toList], [], ["c".toList]], none) := by
  decide

end CsvReader
