/-! Sets of characters, given by the code points at which membership changes. -/
namespace Typewright.Text

/-- Ascending code points: the set opens at the first, closes at the second, and so on. -/
structure CharSet where
  flips : List Nat

def CharSet.contains (set : CharSet) (c : Char) : Bool :=
  set.flips.countP (· ≤ c.toNat) % 2 == 1

end Typewright.Text
