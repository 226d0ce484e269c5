/-!
# Character classes as ranges

A class of characters is a list of inclusive ranges of code points.
-/

namespace ModuleBridge.Text

/-- Does the character lie in one of the inclusive ranges of code points? -/
def inRanges (ranges : List (Nat × Nat)) (c : Char) : Bool :=
  ranges.any fun r => r.1 ≤ c.toNat && c.toNat ≤ r.2

theorem inRanges_eq_true {ranges : List (Nat × Nat)} {c : Char} :
    inRanges ranges c = true ↔ ∃ r ∈ ranges, r.1 ≤ c.toNat ∧ c.toNat ≤ r.2 := by
  simp [inRanges]

/-- Ranges that begin at a bound or above it do not matter for the characters below it. -/
theorem inRanges_filter_lt {c : Char} {bound : Nat} (h : c.toNat < bound)
    (ranges : List (Nat × Nat)) : inRanges (ranges.filter (·.1 < bound)) c = inRanges ranges c := by
  rw [Bool.eq_iff_iff, inRanges_eq_true, inRanges_eq_true]
  constructor
  · rintro ⟨r, hr, hc⟩
    exact ⟨r, (List.mem_filter.1 hr).1, hc⟩
  · rintro ⟨r, hr, hc⟩
    exact ⟨r, List.mem_filter.2 ⟨hr, by simpa using Nat.lt_of_le_of_lt hc.1 h⟩, hc⟩

end ModuleBridge.Text
