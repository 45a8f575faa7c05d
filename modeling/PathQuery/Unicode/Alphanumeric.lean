import PathQuery.Unicode.GeneralCategory
import PathQuery.Unicode.Property

/-!
# Letters and numbers

A character is alphanumeric if it is alphabetic or a number of any kind, by version 17.0 of the
Unicode standard. A combining mark such as U+0301 is neither. In ASCII these are the letters and
the digits; the tables are asked about the characters beyond it. Those of the properties and the
general categories are of version 15.0, and what has been assigned since stands here.
-/

namespace PathQuery.Unicode

/-- The alphabetic characters and the numbers that versions 15.1, 16.0 and 17.0 have added. -/
def laterAlphanumericText : String :=
  "88F 897 C5C CDC 1C89-1C8A A7CB-A7CF A7D2 A7D4 A7DA-A7DC A7F1 105C0-105F3 10940-10959
    10D40-10D65 10D69 10D6F-10D85 10EC2-10EC7 10EFA-10EFC 11380-11389 1138B 1138E
    11390-113B5 113B7-113C0 113C2 113C5 113C7-113CA 113CC-113CD 113D1 113D3 116D0-116E3
    11B60-11B67 11BC0-11BE0 11BF0-11BF9 11DB0-11DDB 11DE0-11DE9 13460-143FA 16100-1612E
    16130-16139 16D40-16D6C 16D70-16D79 16EA0-16EB8 16EBB-16ED3 16FF2-16FF6 187F8-187FF
    18D09-18D1E 18D80-18DF2 1CCF0-1CCF9 1E5D0-1E5ED 1E5F0-1E5FA 1E6C0-1E6DE 1E6E0-1E6F5
    1E6FE-1E6FF 2B73A-2B73F 2B81E 2CEA2-2CEAD 2EBF0-2EE5D 323B0-33479"

/-- What is alphanumeric since version 15.1. -/
def laterAlphanumeric : RangeSet := .ofText laterAlphanumericText

/-- Whether a character is alphabetic or a number. -/
def isAlphanumeric (c : Char) : Bool :=
  c.isAlphanum || (0x80 ≤ c.toNat &&
    (Property.alphabetic.contains c || GeneralCategory.digits.contains c ||
      GeneralCategory.otherNumbers.any (·.contains c) || laterAlphanumeric.contains c))

end PathQuery.Unicode
