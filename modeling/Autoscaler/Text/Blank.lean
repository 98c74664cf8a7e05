/-!
# Blank characters

The characters with the Unicode property `White_Space`, and removal of them from
both ends of a text.
-/

namespace Autoscaler.Text

/-- Members of the Unicode property `White_Space`. -/
def isBlank (c : Char) : Bool :=
  let n := c.toNat
  (9 ≤ n && n ≤ 13) || n == 0x20 || n == 0x85 || n == 0xA0 || n == 0x1680
    || (0x2000 ≤ n && n ≤ 0x200A) || n == 0x2028 || n == 0x2029 || n == 0x202F
    || n == 0x205F || n == 0x3000

/-- A text without the blanks it begins and ends with. -/
def trim (cs : List Char) : List Char :=
  ((cs.dropWhile isBlank).reverse.dropWhile isBlank).reverse

example : "\t 5m\u00a0".toList.map isBlank = [true, true, false, false, true] := by decide

end Autoscaler.Text
