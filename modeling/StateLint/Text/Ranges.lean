namespace StateLint.Text

-- A set of code points: disjoint closed ranges in ascending order.
abbrev Ranges := Array (Nat × Nat)

namespace Ranges

def contains (ranges : Ranges) (n : Nat) : Bool :=
  go 0 ranges.size
where
  go (lo hi : Nat) : Bool :=
    if _ : lo < hi then
      let mid := (lo + hi) / 2
      match ranges[mid]? with
      | none => false
      | some (first, last) =>
        if n < first then go lo mid
        else if last < n then go (mid + 1) hi
        else true
    else
      false
  termination_by hi - lo

end Ranges
end StateLint.Text
