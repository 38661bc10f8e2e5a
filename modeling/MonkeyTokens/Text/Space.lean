/- # Space

The characters that are space in general text: the control characters that move on a page, the
separators, and the blanks of other widths.  The blanks between lexemes are four of them.
-/

namespace MonkeyTokens

/-- The ranges, both ends included, of the space characters. -/
def spaceRanges : List (Nat × Nat) := [
  (0x9, 0xd), (0x20, 0x20), (0x85, 0x85), (0xa0, 0xa0), (0x1680, 0x1680), (0x2000, 0x200a),
  (0x2028, 0x2029), (0x202f, 0x202f), (0x205f, 0x205f), (0x3000, 0x3000)]

/-- A space character. -/
def isSpace (c : Char) : Bool :=
  spaceRanges.any fun (low, high) => low ≤ c.toNat && c.toNat ≤ high

end MonkeyTokens
