import ModuleBridge.Proofs.Json.Takes

/-!
# Integers read back

The digits of a number are gathered to the number as long as it stays below the bound, and the
digits of an integer of 64 bits do (`gather_natDigits`). A zero stands alone and no other number
begins with one (`natDigits_cons`), so an integer is read back from its digits where they end
(`number_natDigits`).
-/

namespace ModuleBridge.Json

open Text.Utf8
open Decimal (natDigits)

/-! ## Digits -/

/-- The byte of a decimal digit. -/
def digitByte (d : Nat) : UInt8 := .ofNat (0x30 + d)

/-- A number below ten is one digit. -/
theorem natDigits_of_lt {n : Nat} (h : n < 10) : encode (natDigits n) = [digitByte n] := by
  rw [natDigits, Nat.toDigits_of_lt_base h]
  have hall : ∀ n < 10, encode [Nat.digitChar n] = [digitByte n] := by decide
  exact hall n h

/-- The last digit stands behind those of a tenth. -/
theorem natDigits_of_le {n : Nat} (h : 10 ≤ n) :
    encode (natDigits n) = encode (natDigits (n / 10)) ++ [digitByte (n % 10)] := by
  rw [← natDigits_of_lt (Nat.mod_lt n (by decide)), ← encode_append]
  simp only [natDigits]
  rw [Nat.toDigits_append_toDigits (by decide) (by omega) (Nat.mod_lt n (by decide)),
    Nat.div_add_mod]

theorem isDigit_digitByte {d : Nat} (h : d < 10) : isDigit (digitByte d) = true := by
  have hall : ∀ d < 10, isDigit (digitByte d) = true := by decide
  exact hall d h

/-- A digit is read back. -/
theorem digitValue_digitByte {d : Nat} (h : d < 10) : digitValue (digitByte d) = d := by
  have hall : ∀ d < 10, digitValue (digitByte d) = d := by decide
  exact hall d h

/-- The digits of a number are digits, and the first of them is zero for zero only. -/
theorem natDigits_cons (n : Nat) : ∃ d bs, encode (natDigits n) = digitByte d :: bs ∧ d < 10 ∧
    (0 < n → 0 < d) ∧ ∀ b ∈ bs, isDigit b = true := by
  induction n using Nat.strongRecOn with
  | ind n ih =>
    by_cases h : n < 10
    · exact ⟨n, [], natDigits_of_lt h, h, id, nofun⟩
    · obtain ⟨d, bs, hdigits, hd, hpos, hbs⟩ := ih (n / 10) (by omega)
      refine ⟨d, bs ++ [digitByte (n % 10)], ?_, hd, fun _ => hpos (by omega), ?_⟩
      · rw [natDigits_of_le (by omega), hdigits]
        rfl
      · intro b hb
        rcases List.mem_append.1 hb with hb | hb
        · exact hbs b hb
        · rw [List.mem_singleton.1 hb]
          exact isDigit_digitByte (Nat.mod_lt n (by decide))

/-! ## Gathering -/

/-- The number that digits make after those before them. -/
def gathered (significand : Nat) (bs : List UInt8) : Nat :=
  bs.foldl (fun value b => value * 10 + digitValue b) significand

/-- Digits that are gathered make a significand no smaller. -/
theorem le_gathered (significand : Nat) (bs : List UInt8) :
    significand ≤ gathered significand bs := by
  induction bs generalizing significand with
  | nil => exact Nat.le_refl _
  | cons b bs ih => exact Nat.le_trans (by omega) (ih (significand * 10 + digitValue b))

/-- The digits of a number are gathered to it. -/
theorem gathered_natDigits (n : Nat) : gathered 0 (encode (natDigits n)) = n := by
  induction n using Nat.strongRecOn with
  | ind n ih =>
    by_cases h : n < 10
    · rw [natDigits_of_lt h, gathered, List.foldl_cons, List.foldl_nil, digitValue_digitByte h]
      omega
    · have hrest := ih (n / 10) (by omega)
      rw [gathered] at hrest
      rw [natDigits_of_le (by omega), gathered, List.foldl_append, hrest, List.foldl_cons,
        List.foldl_nil, digitValue_digitByte (Nat.mod_lt n (by decide))]
      omega

section
variable {rest : List UInt8}

/-- No digit follows where a number ends. -/
theorem Ends.isDigit_eq_false {b : UInt8} (h : Ends (b :: rest)) : isDigit b = false := by
  have hb := h b rfl
  simp only [continuesNumber, Bool.or_eq_false_iff] at hb
  exact hb.1.1.1

/-- Digits are gathered if the number they make lies below the bound. -/
theorem gather_append {significand : Nat} {bs : List UInt8} (hbs : ∀ b ∈ bs, isDigit b = true)
    (hlt : gathered significand bs < significandBound) (h : Ends rest) (count : Nat) :
    ∃ count', gather significand count (bs ++ rest) = (gathered significand bs, count', rest) := by
  induction bs generalizing significand count with
  | nil =>
    refine ⟨count, ?_⟩
    cases rest with
    | nil => rfl
    | cons b rest =>
      simp only [List.nil_append, gather, h.isDigit_eq_false, Bool.false_and, Bool.false_eq_true,
        if_false]
      rfl
  | cons b bs ih =>
    obtain ⟨count', hrest⟩ := ih (fun b' hb => hbs b' (.tail _ hb)) hlt (count + 1)
    have hnext : significand * 10 + digitValue b < significandBound :=
      Nat.lt_of_le_of_lt (le_gathered _ bs) hlt
    refine ⟨count', ?_⟩
    simp only [List.cons_append, gather, hbs b List.mem_cons_self, hnext, decide_true,
      Bool.and_self, if_true]
    exact hrest

/-! ## Numbers -/

/-- Where a number ends after its digits, these are the whole number. -/
theorem afterWhole_eq (negative : Bool) (n : Nat) (h : Ends rest) :
    Reader.afterWhole negative n rest = Reader.ofSignificand negative n rest := by
  cases rest with
  | nil => rfl
  | cons b rest =>
    have hb := h b rfl
    simp only [continuesNumber, Bool.or_eq_false_iff, decide_eq_false_iff_not] at hb
    obtain ⟨⟨⟨-, hpoint⟩, he⟩, hE⟩ := hb
    unfold Reader.afterWhole
    split
    · simp_all
    · simp_all
    · simp_all
    · rfl

/-- Zero is read back from its digit. -/
theorem number_zero (h : Ends rest) (negative : Bool) :
    Reader.number negative (0x30 :: rest) = Reader.ofSignificand negative 0 rest := by
  rw [← afterWhole_eq negative 0 h]
  cases rest with
  | nil => rfl
  | cons b rest =>
    unfold Reader.number
    simp [h.isDigit_eq_false]

/-- The digits of a number are read back to where they end. -/
theorem number_natDigits {n : Nat} (hn : n < significandBound) (h : Ends rest) (negative : Bool) :
    Reader.number negative (encode (natDigits n) ++ rest) =
      Reader.ofSignificand negative n rest := by
  rcases Nat.eq_zero_or_pos n with rfl | hpos
  · exact number_zero h negative
  · obtain ⟨d, bs, hdigits, hd, hfirst, hbs⟩ := natDigits_cons n
    have hall : ∀ b ∈ encode (natDigits n), isDigit b = true := by
      rw [hdigits]
      exact List.forall_mem_cons.2 ⟨isDigit_digitByte hd, hbs⟩
    have hlt : gathered 0 (encode (natDigits n)) < significandBound := by
      rwa [gathered_natDigits]
    have hzero : ∀ d < 10, digitByte d = 0x30 → d = 0 := by decide
    obtain ⟨count, hgather⟩ := gather_append hall hlt h 0
    rw [gathered_natDigits, hdigits] at hgather
    rw [hdigits]
    simp only [List.cons_append] at hgather ⊢
    unfold Reader.number
    split
    · contradiction
    · next heq =>
      have := hzero d hd (List.cons.inj heq).1
      have := hfirst hpos
      omega
    · next b after _ heq =>
      obtain ⟨rfl, rfl⟩ := List.cons.inj heq
      rw [if_pos (isDigit_digitByte hd), hgather]
      cases rest with
      | nil => exact afterWhole_eq negative n h
      | cons c rest =>
        simp only [h.isDigit_eq_false, Bool.false_eq_true, if_false]
        exact afterWhole_eq negative n h

end

/-! ## Integers of 64 bits -/

/-- An integer that 64 bits hold, with a sign or without one. -/
def FitsBits (n : Int) : Prop := -(Nat.pow 2 63 : Nat) ≤ n ∧ n < (Nat.pow 2 64 : Nat)

/-- A negative integer is written as a minus sign and the digits of its absolute value. -/
theorem render_of_neg {n : Int} (h : n < 0) :
    encode (JsonNumber.integer n).render = 0x2D :: encode (natDigits n.natAbs) := by
  rw [JsonNumber.render, if_pos h]
  rfl

/-- What follows the minus sign of an integer is read back. -/
theorem number_of_neg {n : Int} (hn : FitsBits n) (h : n < 0) {rest : List UInt8}
    (hr : Ends rest) :
    Reader.number true (encode (natDigits n.natAbs) ++ rest) = .ok (.integer n, rest) := by
  have hless : Nat.pow 2 63 < significandBound := by decide
  have habs : n.natAbs ≤ Nat.pow 2 63 := by
    have := hn.1
    omega
  rw [number_natDigits (Nat.lt_of_le_of_lt habs hless) hr, Reader.ofSignificand]
  have hfits : 0 < n.natAbs && n.natAbs ≤ Nat.pow 2 63 := by
    simp only [Bool.and_eq_true, decide_eq_true_eq]
    exact ⟨by omega, habs⟩
  have hneg : -(n.natAbs : Int) = n := by omega
  rw [if_neg (by simp), if_pos hfits, hneg]
  rfl

/-- Any other integer is written as its digits, of which there is one at least. -/
theorem render_of_nonneg {n : Int} (h : 0 ≤ n) :
    ∃ b bs, encode (JsonNumber.integer n).render = b :: bs ∧ isDigit b = true := by
  obtain ⟨d, bs, hdigits, hd, -, -⟩ := natDigits_cons n.natAbs
  refine ⟨_, bs, ?_, isDigit_digitByte hd⟩
  rw [JsonNumber.render, if_neg (by omega)]
  exact hdigits

/-- The digits of an integer without a sign are read back. -/
theorem number_of_nonneg {n : Int} (hn : FitsBits n) (h : 0 ≤ n) {rest : List UInt8}
    (hr : Ends rest) :
    Reader.number false (encode (JsonNumber.integer n).render ++ rest) =
      .ok (.integer n, rest) := by
  have hhigh : n.natAbs < significandBound := by
    have hbound : n < (significandBound : Nat) := hn.2
    omega
  have habs : (n.natAbs : Int) = n := by omega
  rw [JsonNumber.render, if_neg (by omega), List.nil_append, number_natDigits hhigh hr,
    Reader.ofSignificand, habs]
  rfl

end ModuleBridge.Json
