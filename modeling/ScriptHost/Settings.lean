/-!
# Settings of an execution context

A context is created with `Settings`: how the bytes of its output channels are to be read, how
many of them are held back before they are decoded, and what its scope is called.
-/

set_option autoImplicit false

namespace ScriptHost

/-- How the bytes on an output channel stand for characters. -/
inductive Charset where
  /-- One to four bytes for a character. -/
  | utf8
  /-- Every byte is the code point of one character. -/
  | latin1
  deriving DecidableEq, Repr

instance : Inhabited Charset := ⟨.utf8⟩

/-- The registered name of the encoding. -/
def Charset.name : Charset → String
  | .utf8 => "UTF-8"
  | .latin1 => "ISO-8859-1"

/-- The settings that are fixed when an execution context is created. -/
structure Settings where
  charset : Charset := .utf8
  /-- How many bytes an output channel may hold before it has to decode them.  A channel raises
  values below four, the length of the longest UTF-8 sequence. -/
  bufferCapacity : Nat := 100
  /-- The name of the context's scopes. -/
  scopeName : String := "ScriptEngine"
  deriving DecidableEq, Repr

instance : Inhabited Settings := ⟨{}⟩

namespace Settings

/-- The settings with another encoding. -/
def withCharset (settings : Settings) (charset : Charset) : Settings :=
  { settings with charset }

/-- The settings with another buffer capacity. -/
def withBufferCapacity (settings : Settings) (bufferCapacity : Nat) : Settings :=
  { settings with bufferCapacity }

/-- The settings with another scope name. -/
def withScopeName (settings : Settings) (scopeName : String) : Settings :=
  { settings with scopeName }

end Settings

end ScriptHost
