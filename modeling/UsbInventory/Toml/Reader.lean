/-
Reading TOML documents. A document is a list of lines: headers, which name the table that the lines
after them belong to, and assignments. Values may hold values in brackets and braces.
-/
import UsbInventory.Toml.Lexeme

namespace UsbInventory.Toml

/-! ## Values -/

/-- Drops blanks, ends of line and whole comments, which bound the text they stand in. -/
def skipLines : Nat → List Char → Option (List Char)
  | 0, _ => none
  | fuel + 1, cs =>
    match skipBlanks cs with
    | '#' :: rest => (newline? (rest.dropWhile isPlain)).bind (skipLines fuel)
    | rest =>
      match newline? rest with
      | some rest => skipLines fuel rest
      | none => some rest

mutual

/-- Reads a value; `depth` counts the brackets and braces around it. Each call takes a character or
ends the reading, so the length of the text bounds the number of calls. -/
def readValue (fuel depth : Nat) (cs : List Char) : Option (Toml × List Char) :=
  match fuel with
  | 0 => none
  | fuel + 1 =>
    match cs with
    | [] => none
    | 't' :: 'r' :: 'u' :: 'e' :: rest => some (.boolean true, rest)
    | 'f' :: 'a' :: 'l' :: 's' :: 'e' :: rest => some (.boolean false, rest)
    | '[' :: rest =>
      if maxDepth ≤ depth + 1 then none
      else do
        let rest ← skipLines (rest.length + 1) rest
        match rest with
        | ']' :: rest => some (.array [], rest)
        | rest => (readItems fuel (depth + 1) rest).map fun (items, rest) => (.array items, rest)
    | '\x7b' :: rest =>
      if maxDepth ≤ depth + 1 then none
      else
        match skipBlanks rest with
        | '\x7d' :: rest => some (.table .braces [], rest)
        | rest =>
          (readPairs fuel (depth + 1) [] rest).map fun (entries, rest) =>
            (.table .braces entries, rest)
    | c :: rest =>
      if c = '"' ∨ c = '\'' then
        (readString (c :: rest)).map fun (text, rest) => (.string text, rest)
      else readNumeric (c :: rest)

/-- Reads the items of an array, one at least, and its closing bracket. A comma may stand before it. -/
def readItems (fuel depth : Nat) (cs : List Char) : Option (List Toml × List Char) :=
  match fuel with
  | 0 => none
  | fuel + 1 => do
    let (v, rest) ← readValue fuel depth cs
    let rest ← skipLines (rest.length + 1) rest
    match rest with
    | ']' :: rest => some ([v], rest)
    | ',' :: rest =>
      let rest ← skipLines (rest.length + 1) rest
      match rest with
      | ']' :: rest => some ([v], rest)
      | rest => (readItems fuel depth rest).map fun (items, rest) => (v :: items, rest)
    | _ => none

/-- Reads the assignments between braces, one at least, and the closing brace, adding to the entries
read so far. -/
def readPairs (fuel depth : Nat) (entries : Entries) (cs : List Char) :
    Option (Entries × List Char) :=
  match fuel with
  | 0 => none
  | fuel + 1 => do
    let (path, key, rest) ← readKey cs
    let (v, rest) ← readValue fuel depth (skipBlanks (← expect '=' rest))
    let entries ← insertDotted path.isEmpty key v path entries
    match skipBlanks rest with
    | '\x7d' :: rest => some (entries, rest)
    | ',' :: rest => readPairs fuel depth entries rest
    | _ => none

end

/-! ## Lines -/

/-- A line of a document that says something. -/
inductive Line where
  /-- The header of a table. -/
  | table (path : List (List Char)) (key : List Char)
  /-- The header of one more table under a key. -/
  | tables (path : List (List Char)) (key : List Char)
  | assign (path : List (List Char)) (key : List Char) (value : Toml)

/-- Reads a line, which begins with no blank. -/
def readLine (cs : List Char) : Option (Line × List Char) :=
  match cs with
  | '[' :: '[' :: rest => do
    let (path, key, rest) ← readKey rest
    let rest ← expect ']' (← expect ']' rest)
    return (.tables path key, ← restOfLine? rest)
  | '[' :: rest => do
    let (path, key, rest) ← readKey rest
    return (.table path key, ← restOfLine? (← expect ']' rest))
  | cs => do
    let (path, key, rest) ← readKey cs
    let rest := skipBlanks (← expect '=' rest)
    let (v, rest) ← readValue (2 * rest.length + 2) 0 rest
    return (.assign path key v, ← restOfLine? rest)

/-- Reads all lines. Every line takes a character, so the length of the text bounds their number. -/
def readLines : Nat → List Char → Option (List Line)
  | 0, _ => none
  | fuel + 1, cs =>
    match skipBlanks cs with
    | [] => some []
    | c :: rest =>
      if c = '#' ∨ c = '\n' ∨ c = '\r' then (lineEnd? (skipComment (c :: rest))).bind (readLines fuel)
      else do
        let (line, rest) ← readLine (c :: rest)
        return line :: (← readLines fuel rest)

/-! ## Documents -/

/-- The assignments up to the next header, added to a table. -/
def assignAll (es : Entries) : List Line → Option Entries
  | .assign path key v :: rest => do
    let es ← insertDotted path.isEmpty key v path es
    assignAll es rest
  | _ => some es

/-- Opens the table of a header and fills it. A table may have one header; one that was only implied may
still get it. -/
def fillTable (key : List Char) (lines : List Line) (es : Entries) : Option Entries :=
  match find? key es with
  | none => (assignAll [] lines).map fun inner => put key (.table .header inner) es
  | some (.table .implied inner) =>
    (assignAll inner lines).map fun inner => put key (.table .header inner) es
  | some _ => none

/-- Adds one more table under a key and fills it. -/
def fillNext (key : List Char) (lines : List Line) (es : Entries) : Option Entries :=
  match find? key es with
  | none => (assignAll [] lines).map fun inner => put key (.tables [inner]) es
  | some (.tables items) =>
    (assignAll [] lines).map fun inner => put key (.tables (items ++ [inner])) es
  | some _ => none

/-- Takes the headers in order, each with the assignments after it. -/
def applyHeaders (es : Entries) : List Line → Option Entries
  | [] => some es
  | .assign _ _ _ :: rest => applyHeaders es rest
  | .table path key :: rest => do
    let es ← within (fillTable key rest) path es
    applyHeaders es rest
  | .tables path key :: rest => do
    let es ← within (fillNext key rest) path es
    applyHeaders es rest

/-- The table that the lines of a document write. -/
def ofLines (lines : List Line) : Option Entries := do
  let es ← assignAll [] lines
  applyHeaders es lines

/-- Drops the mark that may begin a text. -/
def dropMark : List Char → List Char
  | '\uFEFF' :: rest => rest
  | cs => cs

/-- The table that a document writes. -/
def parse (text : List Char) : Option Toml := do
  let cs := dropMark text
  let lines ← readLines (cs.length + 1) cs
  return .table .header (← ofLines lines)

end UsbInventory.Toml
