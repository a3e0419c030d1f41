/-
RentalRouting/Text/Ranges.lean

Character classes as lists of inclusive code point ranges, in increasing order and
pairwise disjoint.  Membership is a scan of the list; the classes used here have a few
hundred ranges each, and the texts they are applied to are short.
-/
namespace RentalRouting.Text

/-- The code point lies in one of the inclusive ranges. -/
def inRanges (ranges : List (Nat × Nat)) (n : Nat) : Bool :=
  ranges.any fun r => r.1 ≤ n && n ≤ r.2

end RentalRouting.Text
