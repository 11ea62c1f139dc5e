/-! Sets of characters given by the code points where membership changes. -/

namespace Mentorship.Text

/-- A set of code points: outside below the first edge, and switching at every edge. The edges
ascend. -/
structure CodePoints where
  edges : List Nat

namespace CodePoints

/-- Membership of `n`, when the points below the first of the remaining edges have membership
`inside`. -/
def hasFrom (n : Nat) : Bool → List Nat → Bool
  | inside, [] => inside
  | inside, edge :: edges => if n < edge then inside else hasFrom n (!inside) edges

def has (s : CodePoints) (c : Char) : Bool :=
  hasFrom c.toNat false s.edges

end CodePoints

end Mentorship.Text
