import Mathlib.Algebra.Order.Field.Power
import Mathlib.Algebra.Order.Field.Rat
import Mathlib.Data.Nat.Cast.Order.Field
import Mathlib.Tactic.FieldSimp
import Mathlib.Tactic.Linarith
import Mathlib.Tactic.NormNum
import Mathlib.Tactic.Positivity
import Mathlib.Tactic.Ring
import ModuleBridge.Decimal.Shortest

/-!
# The decimal of a double rounds to it

The text of a double is made from a number of units of a power of ten. It is found on the first grid
that has a number between the ends of what rounds to the double (`roundsTo_iff`), and the eighteenth
grid has one because its numbers stand closer than half a unit of the double (`roundsTo_above`).
What rounds to one double does not round to another (`eq_of_roundsTo`): where the ends of two
doubles meet, one of them has an odd mantissa and leaves its ends out.
-/

namespace ModuleBridge.Decimal

open Binary64 (leastExponent ratio)

/-- The double has its mantissa in 53 bits, all of them unless its exponent is the least one. -/
structure Binary64.IsDouble (x : Binary64) : Prop where
  small : x.mantissa < 2 ^ 53
  least : leastExponent ≤ x.exponent
  full : 2 ^ 52 ≤ x.mantissa ∨ x.exponent = leastExponent

section
variable {m m' k num den : Nat} {e e' t : Int}

/-! ## Quotients -/

/-- The ratio of a double is its value. -/
theorem ratio_eq (m : Nat) (e : Int) :
    0 < (ratio m e).2 ∧ ((ratio m e).1 : ℚ) / (ratio m e).2 = m * 2 ^ e := by
  unfold ratio
  split
  · next h =>
    obtain ⟨n, rfl⟩ := Int.eq_ofNat_of_zero_le h
    simp
  · next h =>
    obtain ⟨n, rfl⟩ : ∃ n : Nat, e = -n := ⟨e.natAbs, by omega⟩
    simp [div_eq_mul_inv]

/-- A ratio in powers of ten is scaled by one of them. -/
theorem inPowers_eq (hden : 0 < den) (num : Nat) (t : Int) :
    0 < (inPowers num den t).2 ∧
      ((inPowers num den t).1 : ℚ) / (inPowers num den t).2 = num / den / 10 ^ t := by
  unfold inPowers
  split
  · next h =>
    obtain ⟨n, rfl⟩ := Int.eq_ofNat_of_zero_le h
    refine ⟨Nat.mul_pos hden (Nat.pow_pos (by decide)), ?_⟩
    simp [div_div]
  · next h =>
    obtain ⟨n, rfl⟩ : ∃ n : Nat, t = -n := ⟨t.natAbs, by omega⟩
    refine ⟨hden, ?_⟩
    simp [div_eq_mul_inv]
    ring

/-! ## What rounds to a double -/

/-- The number of units of a power of ten lies between the ends of what rounds to the double, at an
end only if the mantissa is even. -/
theorem roundsTo_iff : roundsTo m e k t = true ↔
    if m % 2 = 0 then
      ((roundingEnds m e).1 : ℚ) * 2 ^ (e - 2) ≤ k * 10 ^ t ∧
        (k : ℚ) * 10 ^ t ≤ (roundingEnds m e).2 * 2 ^ (e - 2)
    else
      ((roundingEnds m e).1 : ℚ) * 2 ^ (e - 2) < k * 10 ^ t ∧
        (k : ℚ) * 10 ^ t < (roundingEnds m e).2 * 2 ^ (e - 2) := by
  obtain ⟨hq, hpq⟩ := inPowers_eq Nat.one_pos k (-t)
  obtain ⟨hv, huv⟩ := ratio_eq 1 (e - 2)
  have hk : ((inPowers k 1 (-t)).1 : ℚ) / (inPowers k 1 (-t)).2 = k * 10 ^ t := by
    rw [hpq]
    simp
  rw [Nat.cast_one, one_mul] at huv
  rw [← hk, ← huv]
  have hq' : (0 : ℚ) < (inPowers k 1 (-t)).2 := by exact_mod_cast hq
  have hv' : (0 : ℚ) < (ratio 1 (e - 2)).2 := by exact_mod_cast hv
  have hle (a b c d x : Nat) (hb : (0 : ℚ) < b) (hd : (0 : ℚ) < d) :
      (x : ℚ) * (a / b) ≤ c / d ↔ x * a * d ≤ c * b := by
    rw [← mul_div_assoc, div_le_div_iff₀ hb hd]
    exact_mod_cast Iff.rfl
  have hge (a b c d x : Nat) (hb : (0 : ℚ) < b) (hd : (0 : ℚ) < d) :
      (c : ℚ) / d ≤ x * (a / b) ↔ c * b ≤ x * a * d := by
    rw [← mul_div_assoc, div_le_div_iff₀ hd hb]
    exact_mod_cast Iff.rfl
  simp only [← not_le, hle _ _ _ _ _ hv' hq', hge _ _ _ _ _ hv' hq']
  by_cases hm : m % 2 = 0
  · simp [roundsTo, hm]
  · simp [roundsTo, hm]

/-- The double itself lies strictly between the ends, half a unit below the upper one. -/
theorem roundingEnds_spec (hm : 0 < m) :
    0 < (roundingEnds m e).1 ∧ (roundingEnds m e).1 < 4 * m ∧ (roundingEnds m e).2 = 4 * m + 2 := by
  unfold roundingEnds
  split <;> simp <;> omega

/-- A number above a double by less than half a unit rounds to it. -/
theorem roundsTo_above (hm : 0 < m) (hlo : (m : ℚ) * 2 ^ e < k * 10 ^ t)
    (hhi : (k : ℚ) * 10 ^ t < m * 2 ^ e + 2 ^ (e - 1)) : roundsTo m e k t = true := by
  obtain ⟨-, hlower, hupper⟩ := roundingEnds_spec (e := e) hm
  have hunit : (2 : ℚ) ^ e = 4 * 2 ^ (e - 2) ∧ (2 : ℚ) ^ (e - 1) = 2 * 2 ^ (e - 2) := by
    have hpow (n : Int) : (2 : ℚ) ^ (e - 2 + n) = 2 ^ (e - 2) * 2 ^ n :=
      zpow_add₀ (by norm_num) _ _
    have htwo := hpow 2
    have hone := hpow 1
    rw [show e - 2 + 2 = e by ring] at htwo
    rw [show e - 2 + 1 = e - 1 by ring] at hone
    rw [htwo, hone]
    norm_num [mul_comm]
  have hpos : (0 : ℚ) < 2 ^ (e - 2) := by positivity
  rw [hunit.1] at hlo hhi
  rw [hunit.2] at hhi
  have hleft : ((roundingEnds m e).1 : ℚ) * 2 ^ (e - 2) < k * 10 ^ t := by
    have hlower' : ((roundingEnds m e).1 : ℚ) ≤ 4 * m := by exact_mod_cast hlower.le
    nlinarith
  have hright : (k : ℚ) * 10 ^ t < (roundingEnds m e).2 * 2 ^ (e - 2) := by
    rw [hupper]
    push_cast
    linarith
  rw [roundsTo_iff]
  split
  · exact ⟨hleft.le, hright.le⟩
  · exact ⟨hleft, hright⟩

/-! ## The grids -/

/-- A number is at least the power of ten that its first digit counts. -/
theorem pow_length_natDigits_le (hk : 0 < k) : 10 ^ ((natDigits k).length - 1) ≤ k := by
  rcases Nat.eq_zero_or_pos ((natDigits k).length - 1) with h | h
  · rw [h]
    exact hk
  · by_contra hlt
    have hlength := (Nat.length_toDigits_le_iff (by decide) h).2 (Nat.lt_of_not_le hlt)
    rw [natDigits] at h hlength
    omega

/-- The leading power is that of a digit of the quotient or of one in front of it. -/
theorem leadingPower_le (hnum : 0 < num) (hden : 0 < den) :
    (10 : ℚ) ^ leadingPower num den ≤ num / den := by
  have hden' : (0 : ℚ) < den := by exact_mod_cast hden
  have hnum' : (0 : ℚ) < num := by exact_mod_cast hnum
  unfold leadingPower
  split
  · next hle =>
    have hquotient : 0 < num / den := Nat.div_pos hle hden
    have hpow := pow_length_natDigits_le hquotient
    rw [le_div_iff₀ hden']
    obtain ⟨n, hn⟩ : ∃ n, (natDigits (num / den)).length = n + 1 :=
      ⟨_, (Nat.succ_pred_eq_of_pos Nat.length_toDigits_pos).symm⟩
    rw [hn] at hpow ⊢
    have hmul : 10 ^ n * den ≤ num := (Nat.le_div_iff_mul_le hden).1 hpow
    rw [Nat.cast_add, Nat.cast_one, add_sub_cancel_right, zpow_natCast]
    exact_mod_cast hmul
  · obtain ⟨n, hn⟩ : ∃ n, (natDigits (den / num)).length = n + 1 :=
      ⟨_, (Nat.succ_pred_eq_of_pos Nat.length_toDigits_pos).symm⟩
    simp only [hn]
    split
    · next heq =>
      rw [Nat.add_sub_cancel, Nat.pow_eq] at heq
      have hpower : (1 : Int) - ((n + 1 : Nat) : Int) = -(n : Int) := by
        push_cast
        ring
      rw [hpower, zpow_neg, zpow_natCast, le_div_iff₀ hden', heq]
      push_cast
      field_simp
      rfl
    · have hlt : den < num * 10 ^ (n + 1) := by
        have hdigits := (Nat.length_toDigits_le_iff (b := 10) (by decide) (Nat.succ_pos n)).1 hn.le
        rw [mul_comm]
        exact (Nat.div_lt_iff_lt_mul hnum).1 hdigits
      rw [zpow_neg, zpow_natCast, le_div_iff₀ hden', inv_mul_le_iff₀ (by positivity)]
      have hlt' : (den : ℚ) ≤ num * 10 ^ (n + 1) := by exact_mod_cast hlt.le
      linarith

/-- What is found on a grid rounds to the double. -/
theorem roundsTo_of_onGrid (h : onGrid m e t = some k) : roundsTo m e k t = true := by
  unfold onGrid at h
  simp only at h
  split at h
  · next hboth =>
    rw [Bool.and_eq_true] at hboth
    cases h
    split
    · exact hboth.1
    · exact hboth.2
  · split at h
    · next hbelow =>
      cases h
      exact hbelow
    · split at h
      · next habove =>
        cases h
        exact habove
      · cases h

/-- On a grid whose numbers stand closer than half a unit of the double, one is found. -/
theorem onGrid_ne_none (hm : 0 < m) (hfine : (10 : ℚ) ^ t < 2 ^ (e - 1)) :
    onGrid m e t ≠ none := by
  obtain ⟨hden, hvalue⟩ := ratio_eq m e
  obtain ⟨hd, hscaled⟩ := inPowers_eq hden (ratio m e).1 t
  rw [hvalue] at hscaled
  have hpow : (0 : ℚ) < 10 ^ t := by positivity
  have habove : roundsTo m e ((inPowers (ratio m e).1 (ratio m e).2 t).1 /
      (inPowers (ratio m e).1 (ratio m e).2 t).2 + 1) t = true := by
    generalize (inPowers (ratio m e).1 (ratio m e).2 t).1 = n at hscaled ⊢
    generalize (inPowers (ratio m e).1 (ratio m e).2 t).2 = d at hd hscaled ⊢
    have hd' : (0 : ℚ) < d := by exact_mod_cast hd
    have hbelow : ((n / d : Nat) : ℚ) ≤ n / d := Nat.cast_div_le
    have hover : (n : ℚ) / d < (n / d : Nat) + 1 := by
      rw [div_lt_iff₀ hd']
      exact_mod_cast Nat.lt_mul_of_div_lt (Nat.lt_succ_self _) hd
    rw [hscaled, le_div_iff₀ hpow] at hbelow
    rw [hscaled, div_lt_iff₀ hpow] at hover
    refine roundsTo_above hm ?_ ?_
    · exact_mod_cast hover
    · push_cast
      linarith
  intro hnone
  simp only [onGrid, habove, Bool.and_true] at hnone
  split at hnone
  · cases hnone
  · simp at hnone

/-- The first grid with a number that rounds to the double is found if there is one within reach. -/
theorem roundsTo_firstGrid {fuel : Nat} {t : Int} (i : Nat) (hi : i < fuel)
    (h : onGrid m e (t - i) ≠ none) :
    roundsTo m e (firstGrid m e fuel t).1 (firstGrid m e fuel t).2 = true := by
  induction fuel generalizing t i with
  | zero => cases hi
  | succ fuel ih =>
    rw [firstGrid]
    cases hgrid : onGrid m e t with
    | some k => exact roundsTo_of_onGrid hgrid
    | none =>
      cases i with
      | zero =>
        rw [Nat.cast_zero, sub_zero] at h
        exact absurd hgrid h
      | succ i =>
        refine ih i (Nat.lt_of_succ_lt_succ hi) ?_
        rwa [Nat.cast_succ, add_comm, ← sub_sub] at h

/-- The numbers of the eighteenth grid stand closer than half a unit of a double. -/
theorem lastGrid_fine (hm : 0 < m) (hsmall : m < 2 ^ 53) :
    (10 : ℚ) ^ (leadingPower (ratio m e).1 (ratio m e).2 - 17) < 2 ^ (e - 1) := by
  obtain ⟨hden, hvalue⟩ := ratio_eq m e
  have hnum : 0 < (ratio m e).1 := by
    unfold ratio
    split
    · exact Nat.mul_pos hm (Nat.pow_pos (by decide))
    · exact hm
  have hleading := leadingPower_le hnum hden
  rw [hvalue] at hleading
  have hpos : (0 : ℚ) < 2 ^ e := by positivity
  have hbits : (m : ℚ) * 2 ^ e ≤ 2 ^ 53 * 2 ^ e := by
    gcongr
    exact_mod_cast hsmall.le
  rw [zpow_sub₀ (by norm_num), zpow_sub₀ (by norm_num), div_lt_div_iff₀ (by norm_num) (by norm_num)]
  calc (10 : ℚ) ^ leadingPower (ratio m e).1 (ratio m e).2 * 2 ^ (1 : Int)
      ≤ 2 ^ 53 * 2 ^ e * 2 ^ (1 : Int) := by gcongr; exact hleading.trans hbits
    _ < 2 ^ e * 10 ^ (17 : Int) := by
      norm_num
      linarith

/-- **The decimal of a double rounds to it.** -/
theorem roundsTo_shortest (hm : 0 < m) (hsmall : m < 2 ^ 53) :
    let grid := firstGrid m e 18 (leadingPower (ratio m e).1 (ratio m e).2)
    roundsTo m e grid.1 grid.2 = true :=
  roundsTo_firstGrid 17 (by decide) (onGrid_ne_none hm (lastGrid_fine hm hsmall))

/-! ## One double only -/

/-- The one double comes before the other. -/
def Binary64.Precedes (x y : Binary64) : Prop :=
  x.exponent < y.exponent ∨ x.exponent = y.exponent ∧ x.mantissa < y.mantissa

/-- What rounds to a double ends where what rounds to a later one begins, or before. Where the ends
meet one of the two mantissas is odd. -/
theorem roundingEnds_le {x y : Binary64} (hx : x.IsDouble) (hy : y.IsDouble) (h : x.Precedes y) :
    ∃ j : Nat, y.exponent = x.exponent + j ∧
      (roundingEnds x.mantissa x.exponent).2 ≤ (roundingEnds y.mantissa y.exponent).1 * 2 ^ j ∧
      (x.mantissa % 2 = 0 → y.mantissa % 2 = 0 →
        (roundingEnds x.mantissa x.exponent).2 < (roundingEnds y.mantissa y.exponent).1 * 2 ^ j) := by
  obtain ⟨_, m, e⟩ := x
  obtain ⟨_, m', e'⟩ := y
  obtain ⟨hsmall, hleast, -⟩ := hx
  obtain ⟨-, -, hfull⟩ := hy
  simp only [Binary64.Precedes] at hsmall hleast hfull h ⊢
  have hupper : (roundingEnds m e).2 = 4 * m + 2 := by
    unfold roundingEnds
    split <;> rfl
  have hlower : (roundingEnds m' e').1 =
      if m' = 2 ^ 52 ∧ leastExponent < e' then 4 * m' - 1 else 4 * m' - 2 := by
    simp only [roundingEnds, Nat.pow_eq, Bool.and_eq_true, decide_eq_true_eq]
    split <;> rfl
  rw [hupper, hlower]
  rcases h with h | ⟨rfl, h⟩
  · obtain ⟨j, rfl⟩ : ∃ j : Nat, e' = e + (j + 1 : Nat) := ⟨(e' - e - 1).toNat, by omega⟩
    have hfull' : 2 ^ 52 ≤ m' := hfull.resolve_right (by omega)
    have htwo : 2 ≤ 2 ^ (j + 1) := Nat.le_self_pow (by omega) 2
    have hends : 2 ^ 54 - 1 ≤
        (if m' = 2 ^ 52 ∧ leastExponent < e + (j + 1 : Nat) then 4 * m' - 1 else 4 * m' - 2) := by
      split <;> omega
    have hreach := Nat.mul_le_mul hends htwo
    exact ⟨j + 1, rfl, by omega, fun heven _ => by omega⟩
  · refine ⟨0, by simp, ?_, fun heven heven' => ?_⟩
    · split <;> omega
    · split <;> omega

/-- What rounds to a double does not round to a later one. -/
theorem not_roundsTo_of_precedes {x y : Binary64} (hx : x.IsDouble) (hy : y.IsDouble)
    (h : x.Precedes y) {k' : Nat} {t' : Int} (hvalue : (k : ℚ) * 10 ^ t = k' * 10 ^ t')
    (hrx : roundsTo x.mantissa x.exponent k t = true) :
    roundsTo y.mantissa y.exponent k' t' = false := by
  by_contra hry
  rw [Bool.not_eq_false] at hry
  obtain ⟨j, hj, hle, hlt⟩ := roundingEnds_le hx hy h
  have hpos : (0 : ℚ) < 2 ^ (x.exponent - 2) := by positivity
  have hscale : (2 : ℚ) ^ (y.exponent - 2) = 2 ^ j * 2 ^ (x.exponent - 2) := by
    rw [hj, show x.exponent + j - 2 = j + (x.exponent - 2) by ring, zpow_add₀ (by norm_num),
      zpow_natCast]
  rw [roundsTo_iff] at hrx hry
  rw [← hvalue, hscale, ← mul_assoc] at hry
  have hle' : ((roundingEnds x.mantissa x.exponent).2 : ℚ) * 2 ^ (x.exponent - 2) ≤
      (roundingEnds y.mantissa y.exponent).1 * 2 ^ j * 2 ^ (x.exponent - 2) := by
    gcongr
    exact_mod_cast hle
  split at hrx
  · next hx2 =>
    split at hry
    · next hy2 =>
      have hlt' : ((roundingEnds x.mantissa x.exponent).2 : ℚ) * 2 ^ (x.exponent - 2) <
          (roundingEnds y.mantissa y.exponent).1 * 2 ^ j * 2 ^ (x.exponent - 2) := by
        gcongr
        exact_mod_cast hlt hx2 hy2
      exact absurd (hrx.2.trans_lt hlt') (not_lt.2 hry.1)
    · exact absurd (hrx.2.trans hle') (not_le.2 hry.1)
  · have hupper := hrx.2.trans_le hle'
    split at hry
    · exact absurd hupper (not_lt.2 hry.1)
    · exact absurd hupper (not_lt.2 hry.1.le)

/-- **One double for a decimal.** Two doubles that the same number rounds to differ in nothing but
their signs. -/
theorem eq_of_roundsTo {x y : Binary64} (hx : x.IsDouble) (hy : y.IsDouble) {k' : Nat} {t' : Int}
    (hvalue : (k : ℚ) * 10 ^ t = k' * 10 ^ t')
    (hrx : roundsTo x.mantissa x.exponent k t = true)
    (hry : roundsTo y.mantissa y.exponent k' t' = true) :
    x.mantissa = y.mantissa ∧ x.exponent = y.exponent := by
  have hxy : ¬ x.Precedes y := fun h => by
    rw [not_roundsTo_of_precedes hx hy h hvalue hrx] at hry
    cases hry
  have hyx : ¬ y.Precedes x := fun h => by
    rw [not_roundsTo_of_precedes hy hx h hvalue.symm hry] at hrx
    cases hrx
  unfold Binary64.Precedes at hxy hyx
  omega

end

end ModuleBridge.Decimal
