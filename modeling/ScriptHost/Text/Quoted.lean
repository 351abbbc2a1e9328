import ScriptHost.Text.GraphemeExtend
import ScriptHost.Text.Unprintable

/-!
# Quoted text

A text in double quotes in which every character can be seen.  The quote, the backslash and a few
controls are written with a backslash and one more character; what cannot be shown as itself, shows
nothing, or would join the character before it, is written by its code point in hexadecimal digits.

**Characters that show nothing** are those with the Unicode property `Default_Ignorable_Code_Point`
(version 17.0).  A renderer leaves them out where it does not support them: among them joiners,
variation selectors, and the fillers of the Korean script, which count as letters and yet are blank.
-/

set_option autoImplicit false

namespace ScriptHost.Text

/-- The code points that show nothing, as ranges in ascending order, ends included. -/
def defaultIgnorableRanges : List (Nat × Nat) := [
  (0xAD, 0xAD), (0x34F, 0x34F), (0x61C, 0x61C), (0x115F, 0x1160), (0x17B4, 0x17B5),
  (0x180B, 0x180F), (0x200B, 0x200F), (0x202A, 0x202E), (0x2060, 0x206F), (0x3164, 0x3164),
  (0xFE00, 0xFE0F), (0xFEFF, 0xFEFF), (0xFFA0, 0xFFA0), (0xFFF0, 0xFFF8), (0x1BCA0, 0x1BCA3),
  (0x1D173, 0x1D17A), (0xE0000, 0xE0FFF)]

/-- Whether the character shows nothing. -/
def isDefaultIgnorable (c : Char) : Bool :=
  defaultIgnorableRanges.any fun range => range.1 ≤ c.toNat && c.toNat ≤ range.2

/-- Whether the character is one of the two halfwidth sound marks of the Japanese script.  They extend
the character before them like combining marks, but they are letters with a cell of their own. -/
def isHalfwidthSoundMark (c : Char) : Bool := c = '\uFF9E' || c = '\uFF9F'

/-- Whether the character would be drawn onto the one before it. -/
def joinsPrevious (c : Char) : Bool := isGraphemeExtend c && !isHalfwidthSoundMark c

/-- A character as it stands between the quotes. -/
def escape (c : Char) : List Char :=
  match c with
  | '\x00' => ['\\', '0']
  | '\t' => ['\\', 't']
  | '\r' => ['\\', 'r']
  | '\n' => ['\\', 'n']
  | '\\' => ['\\', '\\']
  | '"' => ['\\', '"']
  | c =>
    if joinsPrevious c || isUnprintable c || isDefaultIgnorable c then
      ['\\', 'u', '\x7b'] ++ Nat.toDigits 16 c.toNat ++ ['\x7d']
    else [c]

/-- The text in quotes. -/
def quote (s : String) : String :=
  "\"" ++ String.ofList (s.toList.flatMap escape) ++ "\""

end ScriptHost.Text
