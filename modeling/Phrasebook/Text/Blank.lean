-- SUMMARY: The whitespace characters that layout and locale tags trim.
import Phrasebook.Text.Basic

/-!
# Whitespace

The characters of Unicode's `White_Space` property together with the four
ASCII separators U+001C to U+001F. The zero-width space and the byte order mark
are not among them.
-/

namespace Phrasebook.Text

/-- Whether a character is whitespace. -/
def isBlank (c : Char) : Bool :=
  let n := c.toNat
  (9 ≤ n && n ≤ 13) || (0x1C ≤ n && n ≤ 0x20) || n == 0x85 || n == 0xA0 || n == 0x1680
    || (0x2000 ≤ n && n ≤ 0x200A) || n == 0x2028 || n == 0x2029 || n == 0x202F || n == 0x205F
    || n == 0x3000

/-- A text without the whitespace at either end. -/
def strip (s : String) : String :=
  String.ofList (trim isBlank s.toList)

end Phrasebook.Text
