import Mathlib.Data.List.Basic
import ModuleBridge.Text.Ranges

/-!
# Ranges without others

The code points of some ranges that are in none of some others lie in ranges again
(`within_difference`). Where both lists ascend, as tables of characters do, the others that end
below one range end below all ranges after it, so both lists are gone through once.
-/

namespace ModuleBridge.Text

/-- One of the ranges holds the code point. -/
def Within (ranges : List (Nat × Nat)) (n : Nat) : Prop := ∃ r ∈ ranges, r.1 ≤ n ∧ n ≤ r.2

/-- A range ends before another one begins. -/
def Below (r s : Nat × Nat) : Prop := r.1 ≤ r.2 ∧ r.2 < s.1

instance (r s : Nat × Nat) : Decidable (Below r s) := inferInstanceAs (Decidable (_ ∧ _))

instance : Trans Below Below Below where
  trans h h' := ⟨h.1, Nat.lt_trans h.2 (Nat.lt_of_le_of_lt h'.1 h'.2)⟩

/-- Ranges that ascend, with no code point in two of them. -/
abbrev Ascending (ranges : List (Nat × Nat)) : Prop := ranges.IsChain Below

/-- What is left of the code points from one to another after ascending ranges are taken out. -/
def without (low high : Nat) : List (Nat × Nat) → List (Nat × Nat)
  | [] => [(low, high)]
  | (first, last) :: rest =>
    if high < first then [(low, high)]
    else if last < low then without low high rest
    else (if low < first then [(low, first - 1)] else []) ++
      if last < high then without (last + 1) high rest else []

/-- What is left of ascending ranges after others are taken out. The others that lie below a range
lie below all that follow it. -/
def difference : List (Nat × Nat) → List (Nat × Nat) → List (Nat × Nat)
  | [], _ => []
  | (low, high) :: ranges, others =>
    without low high (others.dropWhile (·.2 < low)) ++
      difference ranges (others.dropWhile (·.2 < low))

section
variable {ranges others rest : List (Nat × Nat)} {n low high : Nat} {r : Nat × Nat}

/-- The check of ranges is that one of them has the number. -/
theorem inRanges_eq_true_iff_within {c : Char} : inRanges ranges c = true ↔ Within ranges c.toNat :=
  inRanges_eq_true

theorem not_within_nil : ¬Within [] n := by
  rintro ⟨r, hr, -⟩
  cases hr

theorem within_cons : Within (r :: ranges) n ↔ (r.1 ≤ n ∧ n ≤ r.2) ∨ Within ranges n := by
  simp [Within]

theorem within_singleton : Within [r] n ↔ r.1 ≤ n ∧ n ≤ r.2 := by
  simp [Within]

theorem within_append : Within (ranges ++ rest) n ↔ Within ranges n ∨ Within rest n := by
  simp [Within, or_and_right, exists_or]

theorem within_ite_nil {p : Prop} [Decidable p] :
    Within (if p then ranges else []) n ↔ p ∧ Within ranges n := by
  split
  · next hp => exact (and_iff_right hp).symm
  · next hp => exact iff_of_false not_within_nil fun h => hp h.1

/-- Ranges that lie above a code point do not hold it. -/
theorem not_within_of_lt (h : Ascending (r :: ranges)) (hn : n < r.1) : ¬Within ranges n := by
  rintro ⟨s, hs, hle, -⟩
  obtain ⟨hr, hlt⟩ := List.rel_of_pairwise_cons h.pairwise hs
  omega

/-- A code point that is not below a bound is in no range that ends below it. -/
theorem within_dropWhile (hn : low ≤ n) :
    Within (others.dropWhile (·.2 < low)) n ↔ Within others n := by
  induction others with
  | nil => rfl
  | cons r others ih =>
    rw [List.dropWhile_cons]
    split
    · next hlt =>
      rw [ih, within_cons, or_iff_right]
      rintro ⟨-, hle⟩
      have : r.2 < low := by simpa using hlt
      omega
    · rfl

/-- What is in one range without others. -/
theorem within_without (h : Ascending others) :
    Within (without low high others) n ↔ (low ≤ n ∧ n ≤ high) ∧ ¬Within others n := by
  induction others generalizing low with
  | nil =>
    rw [without, within_singleton]
    exact (and_iff_left not_within_nil).symm
  | cons r rest ih =>
    obtain ⟨first, last⟩ := r
    have habove : n < first → ¬Within rest n := not_within_of_lt h
    rw [without, within_cons, not_or]
    by_cases hhigh : high < first
    · -- the others begin after the end
      rw [if_pos hhigh, within_singleton, iff_self_and]
      intro hn
      exact ⟨by omega, habove (by omega)⟩
    by_cases hlast : last < low
    · -- the first of the others ends before the beginning
      rw [if_neg hhigh, if_pos hlast, ih h.of_cons, and_congr_right_iff]
      intro hn
      rw [iff_and_self]
      intro _
      omega
    · rw [if_neg hhigh, if_neg hlast]
      rw [within_append, within_ite_nil, within_singleton, within_ite_nil, ih h.of_cons]
      by_cases hrest : Within rest n
      · have hfirst : first ≤ n := by
          by_contra hlt
          exact habove (by omega) hrest
        simp only [hrest, not_true_eq_false, and_false, or_false, iff_false]
        omega
      · simp only [hrest, not_false_eq_true, and_true]
        omega

/-- A difference has what the first ranges have and the others have not. -/
theorem within_difference (h : Ascending ranges) (hothers : Ascending others) :
    Within (difference ranges others) n ↔ Within ranges n ∧ ¬Within others n := by
  induction ranges generalizing others with
  | nil => exact iff_of_false not_within_nil fun h => not_within_nil h.1
  | cons r ranges ih =>
    obtain ⟨low, high⟩ := r
    have hleft : Ascending (others.dropWhile (·.2 < low)) :=
      (hothers.pairwise.sublist (List.dropWhile_sublist _)).isChain
    rw [difference, within_append, within_without hleft, ih h.of_cons hleft, within_cons,
      or_and_right]
    refine or_congr ?_ ?_
    · rw [and_congr_right_iff]
      intro hn
      rw [within_dropWhile hn.1]
    · rw [and_congr_right_iff]
      intro hn
      have hlow : low ≤ n := by
        by_contra hlt
        exact not_within_of_lt h (by simpa using hlt) hn
      rw [within_dropWhile hlow]

end
end ModuleBridge.Text
