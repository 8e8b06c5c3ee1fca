/-
The report about an error that ends the program: the outermost message, and below it the causes.
-/

namespace UsbInventory.CommandLine

/-- The lines of a text, which has one line more than it has line breaks. -/
def textLines (text : String) : List String := text.splitOn "\n"

/-- A text indented as a block: the first line after `first`, the others after `rest`. -/
def indented (first rest : String) (text : String) : List String :=
  match textLines text with
  | [] => []
  | line :: lines => (first ++ line) :: lines.map (rest ++ ·)

/-- A number in a column of five. -/
def numberColumn (n : Nat) : String :=
  let digits := toString n
  String.ofList (List.replicate (5 - digits.length) ' ') ++ digits ++ ": "

/-- The causes, numbered if there are several. -/
def causeLines : List String → List String
  | [] => []
  | [cause] => indented "    " "    " cause
  | causes =>
    (causes.zipIdx.map fun (cause, n) => indented (numberColumn n) "       " cause).flatten

/-- The report about a chain of messages, outermost first. -/
def errorReport : List String → List String
  | [] => []
  | message :: causes =>
    textLines ("Error: " ++ message) ++
      if causes.isEmpty then [] else ["", "Caused by:"] ++ causeLines causes

end UsbInventory.CommandLine
