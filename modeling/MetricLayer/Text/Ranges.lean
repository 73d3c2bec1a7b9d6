/-!
# Code-point ranges

A character class of the Unicode standard is a sorted list of disjoint, inclusive code-point
ranges. `CodeRanges.contains` decides membership by bisection, so a class of several hundred
ranges costs about ten comparisons per character.
-/

namespace MetricLayer.Text

/-- Sorted, disjoint, inclusive code-point ranges. -/
abbrev CodeRanges := Array (Nat × Nat)

namespace CodeRanges

/-- Membership by bisection over the window `[lo, hi)` of the range array. -/
def containsIn (rs : CodeRanges) (n : Nat) (lo hi : Nat) : Bool :=
  if _h : lo < hi then
    let mid := (lo + hi) / 2
    match rs[mid]? with
    | some (a, b) =>
      if n < a then containsIn rs n lo mid
      else if b < n then containsIn rs n (mid + 1) hi
      else true
    | none => false
  else false
termination_by hi - lo

/-- Whether code point `n` lies in one of the ranges. -/
def contains (rs : CodeRanges) (n : Nat) : Bool :=
  rs.containsIn n 0 rs.size

end CodeRanges

end MetricLayer.Text
