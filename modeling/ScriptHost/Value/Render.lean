import ScriptHost.Numeric.Shortest
import ScriptHost.Text.Quoted
import ScriptHost.Value.Basic

/-!
# The text of values

Values have three texts.

* `Value.display` is for readers of a script's output: a text stands for itself.
* `Value.debug` puts texts in quotes, though as they are, and the names of a map in quotes with
  everything visible (`Text.quote`).
* `Value.pretty` is the same over several lines: each item and entry on lines of its own, indented,
  and followed by a comma.

**Indented text.**  `Text.indent` moves a text four columns to the right, for its place inside
brackets.  It puts the spaces in front of the first character of every line, and a line break that
stands alone on a line is such a character.  After a final line break nothing is added: the next line
has not begun.
-/

set_option autoImplicit false

namespace ScriptHost

/-- The text of a host object. -/
def HostObject.display (object : HostObject) : String := "<host " ++ object.typeName ++ ">"

/-! ## Parts between brackets -/

/-- Four spaces. -/
def Text.indentation : List Char := List.replicate 4 ' '

/-- Indents a text; `atLineStart` says whether its first character begins a line. -/
def Text.indentFrom (atLineStart : Bool) : List Char → List Char
  | [] => []
  | c :: rest =>
    (if atLineStart then indentation else []) ++ c :: indentFrom (c = '\n') rest

/-- Moves every line of a text to the right. -/
def Text.indent (s : String) : String := String.ofList (indentFrom true s.toList)

/-- Parts between brackets, with commas between them. -/
def enclose (left right : String) (parts : List String) : String :=
  left ++ String.intercalate ", " parts ++ right

/-- Parts between brackets, each on lines of its own. -/
def encloseLines (left right : String) (parts : List String) : String :=
  if parts = [] then left ++ right
  else left ++ "\n" ++ String.join (parts.map fun part => Text.indent (part ++ ",\n")) ++ right

/-! ## The three texts -/

mutual

/-- The text of a value for readers. -/
def Value.display : Value → String
  | ⟨_, content⟩ => content.display

/-- The text of a content for readers. -/
def Content.display : Content → String
  | .unit => "unit"
  | .bool b => if b then "true" else "false"
  | .int n => toString n.toInt
  | .float x => x.display
  | .string s => s
  | .array items => enclose "[" "]" (displayItems items)
  | .map entries => enclose "\x7b" "\x7d" (displayEntries entries)
  | .host object => object.display

/-- The texts of items for readers. -/
def displayItems : List Value → List String
  | [] => []
  | v :: rest => v.display :: displayItems rest

/-- The texts of entries for readers. -/
def displayEntries : List (String × Value) → List String
  | [] => []
  | (name, v) :: rest => (name ++ ": " ++ v.display) :: displayEntries rest

end

mutual

/-- The text of a value that shows what kind of value it is. -/
def Value.debug : Value → String
  | ⟨_, content⟩ => content.debug

/-- The text of a content that shows what kind of content it is. -/
def Content.debug : Content → String
  | .unit => "Unit"
  | .bool b => if b then "true" else "false"
  | .int n => toString n.toInt
  | .float x => x.display
  | .string s => "\"" ++ s ++ "\""
  | .array items => enclose "[" "]" (debugItems items)
  | .map entries => enclose "\x7b" "\x7d" (debugEntries entries)
  | .host object => object.display

/-- The texts of items, showing their kinds. -/
def debugItems : List Value → List String
  | [] => []
  | v :: rest => v.debug :: debugItems rest

/-- The texts of entries, showing the kinds of their values. -/
def debugEntries : List (String × Value) → List String
  | [] => []
  | (name, v) :: rest => (Text.quote name ++ ": " ++ v.debug) :: debugEntries rest

end

mutual

/-- The text of a value over several lines. -/
def Value.pretty : Value → String
  | ⟨_, content⟩ => content.pretty

/-- The text of a content over several lines. -/
def Content.pretty : Content → String
  | .array items => encloseLines "[" "]" (prettyItems items)
  | .map entries => encloseLines "\x7b" "\x7d" (prettyEntries entries)
  | content => content.debug

/-- The texts of items, each over several lines. -/
def prettyItems : List Value → List String
  | [] => []
  | v :: rest => v.pretty :: prettyItems rest

/-- The texts of entries, each over several lines. -/
def prettyEntries : List (String × Value) → List String
  | [] => []
  | (name, v) :: rest => (Text.quote name ++ ": " ++ v.pretty) :: prettyEntries rest

end

end ScriptHost
