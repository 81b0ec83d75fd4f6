import ShelfWise.Py.Value

/-!
# Reading comma-separated text

`csv.reader` with its default dialect over `io.StringIO(text)`: a field may be quoted, a quote inside
quotes is doubled, and a record ends with its line unless a quote is open. The reader is lazy, so what
it yields is a list of records of which the last may be an error.
-/

namespace Py

namespace Csv

/-- Where the reader stands in a record. -/
inductive State where
  | startRecord
  | startField
  | inField
  | inQuotedField
  | quoteInQuotedField
  | eatCrnl
deriving DecidableEq

/-- The reader inside a record: the characters of the field and the fields before it, last first. -/
structure Reader where
  state : State
  field : List Char
  fields : List String

/-- The reader before a record. -/
def Reader.start : Reader := ⟨.startRecord, [], []⟩

/-- `csv.Error`. -/
def error (message : String) : Exc := .raised "Error" message

/-- `csv.field_size_limit()`. -/
def fieldSizeLimit : ℕ := 131072

/-- `parse_add_char`, on the way to a state. -/
def Reader.addChar (r : Reader) (state : State) (c : Char) : Except Exc Reader :=
  if fieldSizeLimit ≤ r.field.length then
    .error (error ("field larger than field limit (" ++ toString fieldSizeLimit ++ ")"))
  else .ok ⟨state, c :: r.field, r.fields⟩

/-- `parse_save_field`, on the way to a state. -/
def Reader.saveField (r : Reader) (state : State) : Reader :=
  ⟨state, [], String.ofList r.field.reverse :: r.fields⟩

/-- A character that ends a line. -/
def isLineBreak (c : Char) : Bool := c = '\n' || c = '\r'

/-- A character at the start of a field. -/
def Reader.startField (delimiter c : Char) (r : Reader) : Except Exc Reader :=
  if isLineBreak c then .ok (r.saveField .eatCrnl)
  else if c = '"' then .ok { r with state := .inQuotedField }
  else if c = delimiter then .ok (r.saveField .startField)
  else r.addChar .inField c

/-- `parse_process_char` of a character of the text. -/
def Reader.processChar (delimiter c : Char) (r : Reader) : Except Exc Reader :=
  match r.state with
  | .startRecord =>
    if isLineBreak c then .ok { r with state := .eatCrnl } else r.startField delimiter c
  | .startField => r.startField delimiter c
  | .inField =>
    if isLineBreak c then .ok (r.saveField .eatCrnl)
    else if c = delimiter then .ok (r.saveField .startField)
    else r.addChar .inField c
  | .inQuotedField =>
    if c = '"' then .ok { r with state := .quoteInQuotedField } else r.addChar .inQuotedField c
  | .quoteInQuotedField =>
    if c = '"' then r.addChar .inQuotedField c
    else if c = delimiter then .ok (r.saveField .startField)
    else if isLineBreak c then .ok (r.saveField .eatCrnl)
    else r.addChar .inField c
  | .eatCrnl =>
    if isLineBreak c then .ok r
    else .error (error ("new-line character seen in unquoted field - " ++
      "do you need to open the file with newline=''?"))

/-- `parse_process_char` of the end of a line. -/
def Reader.endLine (r : Reader) : Reader :=
  match r.state with
  | .startRecord | .inQuotedField => r
  | .startField | .inField | .quoteInQuotedField => r.saveField .startRecord
  | .eatCrnl => { r with state := .startRecord }

/-- A line of the text. -/
def Reader.processLine (delimiter : Char) : List Char → Reader → Except Exc Reader
  | [], r => .ok r.endLine
  | c :: cs, r => do
    let r ← r.processChar delimiter c
    r.processLine delimiter cs

/-- The lines of a text, each with the line feed that ends it. -/
def linesOf : List Char → List (List Char)
  | [] => []
  | c :: cs =>
    if c = '\n' then ['\n'] :: linesOf cs
    else match linesOf cs with
      | [] => [[c]]
      | line :: lines => (c :: line) :: lines

/-- What the reader yields from the rest of the lines. -/
def readLines (delimiter : Char) : List (List Char) → Reader → List (Except Exc (List String))
  | [], r =>
    if r.field ≠ [] ∨ r.state = .inQuotedField then
      [.ok (r.saveField .startRecord).fields.reverse]
    else []
  | line :: lines, r =>
    match r.processLine delimiter line with
    | .error e => [.error e]
    | .ok r =>
      if r.state = .startRecord then .ok r.fields.reverse :: readLines delimiter lines .start
      else readLines delimiter lines r

/-- `csv.reader(io.StringIO(text), delimiter=delimiter)`. -/
def reader (delimiter : Char) (text : String) : List (Except Exc (List String)) :=
  readLines delimiter (linesOf text.toList) .start

example : (reader ',' "sku,name\n4011,\"milk, \"\"1 l\"\"\"\n\n").map Except.toOption =
    [some ["sku", "name"], some ["4011", "milk, \"1 l\""], some []] := by
  decide +kernel

end Csv

end Py
