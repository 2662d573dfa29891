/-!
# Sets of characters as ranges

A property of characters is kept as the list of the closed ranges of code points that have it.
-/
namespace HostAccess.Text

abbrev Ranges := List (Nat × Nat)

def Ranges.mem (ranges : Ranges) (n : Nat) : Bool :=
  ranges.any fun (first, last) => first ≤ n && n ≤ last

theorem Ranges.mem_iff {ranges : Ranges} {n : Nat} :
    ranges.mem n = true ↔ ∃ r ∈ ranges, r.1 ≤ n ∧ n ≤ r.2 := by
  simp [Ranges.mem]

end HostAccess.Text
