-- SUMMARY: Membership of a character in a table of code point ranges.

/-!
# Code point ranges

A character class of Unicode is given as a list of inclusive code point ranges
in increasing order.
-/

namespace Phrasebook.Text

/-- Inclusive ranges of code points. -/
abbrev Ranges := List (Nat × Nat)

/-- Whether a range of the table holds the character. -/
def Ranges.has (table : Ranges) (c : Char) : Bool :=
  table.any fun r => r.1 ≤ c.toNat && c.toNat ≤ r.2

end Phrasebook.Text
