/-! Sets of code points, written as the sorted list of the points where membership changes: the
first point enters the set, the second leaves it, and so on. -/

namespace Tenancy.Text

structure CodePointSet where
  flips : List Nat

namespace CodePointSet

def ofFlips (flips : List Nat) : CodePointSet := ⟨flips⟩

/-- A code point is a member when an odd number of changes lie at or before it. -/
def contains (set : CodePointSet) (point : Nat) : Bool :=
  (set.flips.takeWhile (· ≤ point)).length % 2 == 1

def containsChar (set : CodePointSet) (character : Char) : Bool :=
  set.contains character.toNat

example : (ofFlips [65, 91]).containsChar 'A' = true := rfl

example : (ofFlips [65, 91]).containsChar '[' = false := rfl

end CodePointSet

end Tenancy.Text
