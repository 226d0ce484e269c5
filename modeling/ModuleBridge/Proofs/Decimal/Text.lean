import Mathlib.Data.List.TakeWhile
import ModuleBridge.Json.Render
import ModuleBridge.Proofs.Decimal.Shortest

/-!
# The text of a number determines it

What a decimal text stands for can be read off it: the digits around the point are a natural number,
and the places after the point and the exponent are a power of ten (`decimalValue`). The text of a
double is that of digits which stand for a number of units of a power of ten (`value_shortest`), and
whichever form it takes it stands for just that (`decimalValue_render`). As this number rounds to no
other double, the double is determined (`Binary64.render_inj`); an integer is told apart from a
double by having neither a point nor an exponent (`JsonNumber.render_inj`).
-/

namespace ModuleBridge.Decimal

open Binary64 (ratio)

/-- The natural number that decimal digits stand for. -/
def natOf (cs : List Char) : Nat := Nat.ofDigitChars 10 cs 0

/-- The integer that an exponent with its sign stands for. -/
def exponentOf : List Char → Int
  | '-' :: ds => -natOf ds
  | '+' :: ds => natOf ds
  | _ => 0

/-- The characters up to a mark and those after it. -/
def cutAt (mark : Char) (cs : List Char) : List Char × List Char :=
  (cs.takeWhile (· ≠ mark), (cs.dropWhile (· ≠ mark)).drop 1)

/-- What the digits around a point stand for, in units of a power of ten. -/
def mantissaValue (cs : List Char) (exponent : Int) : ℚ :=
  let (whole, decimals) := cutAt '.' cs
  natOf (whole ++ decimals) * 10 ^ (exponent - decimals.length)

/-- What a decimal text without a sign stands for. -/
def decimalValue (cs : List Char) : ℚ :=
  let (mantissa, exponent) := cutAt 'e' cs
  mantissaValue mantissa (exponentOf exponent)

/-- What digits stand for. -/
def Digits.value (d : Digits) : ℚ :=
  natOf d.digits * 10 ^ (d.power + 1 - d.digits.length)

/-- There are digits, and nothing but digits. -/
structure Digits.IsSome (d : Digits) : Prop where
  ne_nil : d.digits ≠ []
  isDigit : ∀ c ∈ d.digits, c.isDigit = true

section
variable {cs ds whole decimals : List Char} {mark : Char} {d : Digits} {m : Nat} {e : Int}

/-! ## Digits -/

/-- Digits in front of others count for a power of ten more. -/
theorem natOf_append (cs ds : List Char) :
    natOf (cs ++ ds) = natOf cs * 10 ^ ds.length + natOf ds := by
  rw [natOf, Nat.ofDigitChars_append, Nat.ofDigitChars_eq_ofDigitChars_zero, mul_comm]
  rfl

/-- Zeros stand for zero. -/
theorem natOf_zeros (n : Nat) : natOf (List.replicate n '0') = 0 := by
  rw [natOf, Nat.ofDigitChars_replicate_zero, Nat.mul_zero]

/-- Zeros in front of digits do not count. -/
theorem natOf_zeros_append (n : Nat) (ds : List Char) :
    natOf (List.replicate n '0' ++ ds) = natOf ds := by
  rw [natOf_append, natOf_zeros, Nat.zero_mul, Nat.zero_add]

/-- Each zero after the digits makes the number ten times as large. -/
theorem natOf_append_zeros (ds : List Char) (n : Nat) :
    natOf (ds ++ List.replicate n '0') = natOf ds * 10 ^ n := by
  rw [natOf_append, natOf_zeros, Nat.add_zero, List.length_replicate]

/-- The digits of a number stand for it. -/
theorem natOf_natDigits (n : Nat) : natOf (natDigits n) = n :=
  Nat.ofDigitChars_toDigits (by decide) (by decide)

/-- The digits of a number are digits. -/
theorem isDigit_of_mem_natDigits {n : Nat} {c : Char} (h : c ∈ natDigits n) : c.isDigit = true :=
  Nat.isDigit_of_mem_toDigits (by decide) (by decide) h

theorem not_mem_of_isDigit (h : ∀ d ∈ ds, d.isDigit = true) (hc : mark.isDigit = false) :
    mark ∉ ds := fun hmem => by
  rw [h mark hmem] at hc
  cases hc

/-! ## What texts stand for -/

/-- A text is cut at the first mark. -/
theorem cutAt_append (h : mark ∉ cs) (ds : List Char) :
    cutAt mark (cs ++ mark :: ds) = (cs, ds) := by
  have hall : ∀ c ∈ cs, decide (c ≠ mark) = true := fun c hc =>
    decide_eq_true fun e => h (e ▸ hc)
  rw [cutAt, List.takeWhile_append_of_pos hall, List.dropWhile_append_of_pos hall,
    List.takeWhile_cons_of_neg (by simp), List.dropWhile_cons_of_neg (by simp), List.append_nil]
  rfl

/-- A text without the mark is not cut. -/
theorem cutAt_self (h : mark ∉ cs) : cutAt mark cs = (cs, []) := by
  have hall : ∀ c ∈ cs, decide (c ≠ mark) = true := fun c hc =>
    decide_eq_true fun e => h (e ▸ hc)
  have hkept : cs.takeWhile (· ≠ mark) = cs := List.takeWhile_eq_self_iff.2 hall
  have hgone : cs.dropWhile (· ≠ mark) = [] := List.dropWhile_eq_nil_iff.2 hall
  rw [cutAt, hkept, hgone, List.drop_nil]

/-- Decimals move the point: the digits as a whole stand for a number times a power of ten. -/
theorem mantissaValue_point (hwhole : '.' ∉ whole) (decimals : List Char) (exponent : Int) :
    mantissaValue (whole ++ '.' :: decimals) exponent =
      natOf (whole ++ decimals) * 10 ^ (exponent - decimals.length) := by
  rw [mantissaValue, cutAt_append hwhole]

/-- What follows an `e` is the exponent of what is in front of it. -/
theorem decimalValue_exponent (hcs : 'e' ∉ cs) (ds : List Char) :
    decimalValue (cs ++ 'e' :: ds) = mantissaValue cs (exponentOf ds) := by
  rw [decimalValue, cutAt_append hcs]

/-- The value of digits with a point and without an exponent. -/
theorem decimalValue_point (whole decimals : List Char) (hwhole : '.' ∉ whole)
    (he : 'e' ∉ whole) (he' : 'e' ∉ decimals) :
    decimalValue (whole ++ '.' :: decimals) =
      natOf (whole ++ decimals) * 10 ^ (-decimals.length : Int) := by
  have hall : 'e' ∉ whole ++ '.' :: decimals := by simp [he, he']
  rw [decimalValue, cutAt_self hall]
  simp only [exponentOf]
  rw [mantissaValue_point hwhole, zero_sub]

/-- An exponent is read back from its sign and digits. -/
theorem exponentOf_signed (n : Int) :
    exponentOf ((if n < 0 then ['-'] else ['+']) ++ natDigits n.natAbs) = n := by
  split
  · rw [List.singleton_append, exponentOf, natOf_natDigits]
    omega
  · rw [List.singleton_append, exponentOf, natOf_natDigits]
    omega

/-- Digits with zeros behind them, cut at a place at which a point stands, stand for what they
stand for without the zeros. -/
theorem decimalValue_padded (hds : ∀ c ∈ ds, c.isDigit = true) (n : Nat) :
    let padded := ds ++ List.replicate (n - ds.length) '0'
    let decimals := padded.drop n
    decimalValue (padded.take n ++ '.' :: (if decimals.isEmpty then ['0'] else decimals)) =
      natOf ds * 10 ^ (n - ds.length : Int) := by
  intro padded decimals
  have hpadded : ∀ c ∈ padded, c.isDigit = true := by
    intro c hc
    rcases List.mem_append.1 hc with hc | hc
    · exact hds c hc
    · rw [(List.mem_replicate.1 hc).2]
      rfl
  have hmark {c : Char} (hc : c.isDigit = false) : c ∉ padded.take n :=
    not_mem_of_isDigit (fun d hd => hpadded d (List.mem_of_mem_take hd)) hc
  have hmark' {c : Char} (hc : c.isDigit = false) : c ∉ decimals :=
    not_mem_of_isDigit (fun d hd => hpadded d (List.mem_of_mem_drop hd)) hc
  have hlength : padded.length = ds.length + (n - ds.length) := by simp [padded]
  split
  · next hempty =>
    -- the place is behind all digits, so a zero of its own stands behind the point
    have hnone : padded.length ≤ n := List.drop_eq_nil_iff.1 (List.isEmpty_iff.1 hempty)
    have htake : padded.take n = padded := List.take_of_length_le hnone
    have hone : natOf (padded ++ ['0']) = natOf ds * 10 ^ (n - ds.length) * 10 := by
      have hzero := natOf_append_zeros padded 1
      rw [List.replicate_one, pow_one] at hzero
      rw [hzero, natOf_append_zeros]
    rw [decimalValue_point _ _ (hmark rfl) (hmark rfl) (by decide), htake, hone]
    obtain ⟨k, hk⟩ : ∃ k, n = ds.length + k := ⟨n - ds.length, by omega⟩
    rw [hk]
    push_cast
    simp
  · next hsome =>
    -- the place is within the digits, so no zeros were put behind them
    rw [decimalValue_point _ _ (hmark rfl) (hmark rfl) (hmark' rfl), List.take_append_drop]
    have hlong : n < padded.length := by
      by_contra hle
      exact hsome (List.isEmpty_iff.2 (List.drop_eq_nil_iff.2 (Nat.le_of_not_lt hle)))
    have hself : padded = ds := by
      have hzero : n - ds.length = 0 := by omega
      simp [padded, hzero]
    have hplaces : decimals.length = ds.length - n := by simp [decimals, hself]
    rw [hplaces, hself, Nat.cast_sub (by omega), neg_sub]

/-- Digits behind a point and zeros. -/
theorem decimalValue_fraction (hds : ∀ c ∈ ds, c.isDigit = true) (n : Nat) :
    decimalValue ('0' :: '.' :: List.replicate n '0' ++ ds) =
      natOf ds * 10 ^ (-(n + ds.length : Nat) : Int) := by
  have hmark : 'e' ∉ List.replicate n '0' ++ ds := by
    have hdigits : 'e' ∉ ds := not_mem_of_isDigit hds (by rfl)
    simp [hdigits]
  have hzeros : natOf (['0'] ++ (List.replicate n '0' ++ ds)) = natOf ds :=
    (natOf_zeros_append 1 _).trans (natOf_zeros_append n ds)
  have htext := decimalValue_point ['0'] _ (by decide) (by decide) hmark
  rwa [hzeros, List.length_append, List.length_replicate] at htext

/-- A digit with an exponent. -/
theorem decimalValue_digit {c : Char} (hc : c.isDigit = true) (power : Int) :
    decimalValue (c :: 'e' :: ((if power < 0 then ['-'] else ['+']) ++ natDigits power.natAbs)) =
      natOf [c] * 10 ^ power := by
  have hmark {mark : Char} (h : mark.isDigit = false) : mark ∉ [c] :=
    not_mem_of_isDigit (List.forall_mem_singleton.2 hc) h
  have htext := decimalValue_exponent (hmark (by rfl : 'e'.isDigit = false))
    ((if power < 0 then ['-'] else ['+']) ++ natDigits power.natAbs)
  rw [exponentOf_signed, mantissaValue, cutAt_self (hmark rfl)] at htext
  refine htext.trans ?_
  simp

/-- Digits with a point after the first one and an exponent. -/
theorem decimalValue_scientific {c : Char} (hc : c.isDigit = true)
    (hds : ∀ d ∈ ds, d.isDigit = true) (power : Int) :
    decimalValue (c :: '.' :: ds ++
        'e' :: ((if power < 0 then ['-'] else ['+']) ++ natDigits power.natAbs)) =
      natOf (c :: ds) * 10 ^ (power - ds.length) := by
  have hfirst {mark : Char} (h : mark.isDigit = false) : mark ∉ [c] :=
    not_mem_of_isDigit (List.forall_mem_singleton.2 hc) h
  have hmark : 'e' ∉ [c] ++ '.' :: ds := by
    intro hmem
    rcases List.mem_append.1 hmem with hmem | hmem
    · exact hfirst rfl hmem
    · exact (List.mem_cons.1 hmem).elim (by decide) (not_mem_of_isDigit hds rfl)
  have htext := decimalValue_exponent hmark
    ((if power < 0 then ['-'] else ['+']) ++ natDigits power.natAbs)
  rwa [exponentOf_signed, mantissaValue_point (hfirst rfl)] at htext

/-- The text of digits stands for what the digits stand for. -/
theorem decimalValue_render (hd : d.IsSome) : decimalValue d.render = d.value := by
  obtain ⟨ds, power⟩ := d
  obtain ⟨hne, hdigits⟩ := hd
  simp only at hne hdigits
  unfold Digits.render Digits.value
  simp only
  split
  · split
    · next hneg =>
      rw [decimalValue_fraction hdigits]
      congr 2
      push_cast
      omega
    · next hpos =>
      rw [decimalValue_padded hdigits]
      congr 2
      omega
  · cases ds with
    | nil => exact absurd rfl hne
    | cons c cs =>
      obtain ⟨hc, hcs⟩ := List.forall_mem_cons.1 hdigits
      cases cs with
      | nil =>
        refine (decimalValue_digit hc power).trans ?_
        simp
      | cons c' cs =>
        refine (decimalValue_scientific hc hcs power).trans ?_
        simp

/-! ## The text of a double -/

/-- A decimal that rounds to a double above zero is above zero. -/
theorem roundsTo_pos (hm : 0 < m) {k : Nat} {t : Int} (h : roundsTo m e k t = true) : 0 < k := by
  obtain ⟨hlower, -, -⟩ := roundingEnds_spec (e := e) hm
  rw [roundsTo_iff] at h
  rcases Nat.eq_zero_or_pos k with rfl | hk
  · have hpos : (0 : ℚ) < (roundingEnds m e).1 * 2 ^ (e - 2) := by
      have hlower' : (0 : ℚ) < (roundingEnds m e).1 := by exact_mod_cast hlower
      positivity
    rw [Nat.cast_zero, zero_mul] at h
    split at h
    · exact absurd h.1 (not_le.2 hpos)
    · exact absurd h.1 (not_lt.2 hpos.le)
  · exact hk

/-- Digits are what is left of them without the zeros at their end, and these zeros. -/
theorem exists_zeros (ds : List Char) :
    ∃ n, ds = (ds.reverse.dropWhile (· = '0')).reverse ++ List.replicate n '0' := by
  have hzeros : ∀ c ∈ ds.reverse.takeWhile (· = '0'), c = '0' := fun c hc => by
    simpa using List.mem_takeWhile_imp hc
  have hsplit := congrArg List.reverse
    (List.takeWhile_append_dropWhile (p := (· = '0')) (l := ds.reverse))
  rw [List.reverse_append, List.eq_replicate_of_mem hzeros, List.reverse_replicate,
    List.reverse_reverse] at hsplit
  exact ⟨_, hsplit.symm⟩

/-- The digits of a double stand for a number of units of a power of ten that rounds to it. -/
theorem value_shortest (hm : 0 < m) (hsmall : m < 2 ^ 53) :
    (shortest m e).IsSome ∧ ∃ (k : Nat) (t : Int), roundsTo m e k t = true ∧
      (shortest m e).value = k * 10 ^ t := by
  have hrounds := roundsTo_shortest (e := e) hm hsmall
  unfold shortest
  simp only at hrounds ⊢
  generalize firstGrid m e 18 (leadingPower (ratio m e).1 (ratio m e).2) = grid at hrounds ⊢
  obtain ⟨k, t⟩ := grid
  have hk := roundsTo_pos hm hrounds
  -- the zeros that are dropped from the digits go into the power
  obtain ⟨n, hn⟩ := exists_zeros (natDigits k)
  generalize ((natDigits k).reverse.dropWhile (· = '0')).reverse = kept at hn ⊢
  have hvalue : natOf kept * 10 ^ n = k := by
    rw [← natOf_append_zeros, ← hn, natOf_natDigits]
  have hlength : (natDigits k).length = kept.length + n := by
    rw [hn, List.length_append, List.length_replicate]
  have hpositive : 0 < (natDigits k).length := Nat.length_toDigits_pos
  refine ⟨⟨?_, fun c hc => ?_⟩, k, t, hrounds, ?_⟩
  · rintro rfl
    rw [natOf, Nat.ofDigitChars_nil, Nat.zero_mul] at hvalue
    omega
  · exact isDigit_of_mem_natDigits (n := k) (by rw [hn]; exact List.mem_append_left _ hc)
  · have hpower : t + ((natDigits k).length - 1 : Nat) + 1 - kept.length = n + t := by
      omega
    rw [Digits.value, hpower, zpow_add₀ (by norm_num), ← hvalue]
    push_cast
    rw [zpow_natCast, mul_assoc]

/-- The text of a decimal begins with a digit. -/
theorem isDigit_of_mem_head? (hd : d.IsSome) {c : Char} (h : c ∈ d.render.head?) :
    c.isDigit = true := by
  obtain ⟨ds, power⟩ := d
  obtain ⟨hne, hdigits⟩ := hd
  cases ds with
  | nil => exact absurd rfl hne
  | cons first ds =>
    have hfirst := (List.forall_mem_cons.1 hdigits).1
    unfold Digits.render at h
    simp only at h
    split at h
    · split at h
      · cases h
        rfl
      · rw [List.cons_append, List.take_succ_cons] at h
        cases h
        exact hfirst
    · cases ds <;> cases h <;> exact hfirst

/-- The text of a double without its sign. -/
def magnitude (x : Binary64) : List Char :=
  if x.mantissa = 0 then ['0', '.', '0'] else (shortest x.mantissa x.exponent).render

/-- The text of a double without its sign begins with a digit. -/
theorem isDigit_of_mem_head?_magnitude {x : Binary64} (hx : x.IsDouble) {c : Char}
    (h : c ∈ (magnitude x).head?) : c.isDigit = true := by
  unfold magnitude at h
  split at h
  · cases h
    rfl
  · next hm => exact isDigit_of_mem_head? (value_shortest (Nat.pos_of_ne_zero hm) hx.small).1 h

/-- What the text of a double without its sign stands for. -/
theorem decimalValue_magnitude {x : Binary64} (hx : x.IsDouble) :
    (x.mantissa = 0 ∧ decimalValue (magnitude x) = 0) ∨
      ∃ (k : Nat) (t : Int), roundsTo x.mantissa x.exponent k t = true ∧ 0 < x.mantissa ∧
        0 < decimalValue (magnitude x) ∧ decimalValue (magnitude x) = k * 10 ^ t := by
  unfold magnitude
  split
  · next hm =>
    refine .inl ⟨hm, ?_⟩
    have htext := decimalValue_point ['0'] ['0'] (by decide) (by decide)
      (by decide)
    have hzero : natOf (['0'] ++ ['0']) = 0 := natOf_zeros 2
    rwa [hzero, Nat.cast_zero, zero_mul] at htext
  · next hm =>
    have hpos := Nat.pos_of_ne_zero hm
    obtain ⟨hsome, k, t, hrounds, hvalue⟩ := value_shortest (e := x.exponent) hpos hx.small
    have hk : (0 : ℚ) < k := by exact_mod_cast roundsTo_pos hpos hrounds
    rw [decimalValue_render hsome, hvalue]
    exact .inr ⟨k, t, hrounds, hpos, by positivity, rfl⟩

/-- **The text of a double determines it.** -/
theorem Binary64.render_inj {x y : Binary64} (hx : x.IsDouble) (hy : y.IsDouble)
    (h : x.render = y.render) : x = y := by
  have hrender (x : Binary64) : x.render = (if x.negative then ['-'] else []) ++ magnitude x := rfl
  have hminus {x : Binary64} (hx : x.IsDouble) (cs : List Char) : magnitude x ≠ '-' :: cs := by
    intro he
    have hdigit := isDigit_of_mem_head?_magnitude (c := '-') hx (by rw [he]; rfl)
    cases hdigit
  rw [hrender, hrender] at h
  have hsign : x.negative = y.negative ∧ magnitude x = magnitude y := by
    cases hxn : x.negative <;> cases hyn : y.negative <;>
      simp only [hxn, hyn, if_true, Bool.false_eq_true, if_false, List.nil_append,
        List.singleton_append] at h
    · exact ⟨rfl, h⟩
    · exact absurd h (hminus hx _)
    · exact absurd h.symm (hminus hy _)
    · exact ⟨rfl, (List.cons.inj h).2⟩
  obtain ⟨hnegative, hmagnitude⟩ := hsign
  have hsame : x.mantissa = y.mantissa ∧ x.exponent = y.exponent := by
    rcases decimalValue_magnitude hx with ⟨hxm, hxv⟩ | ⟨k, t, hxr, -, hxp, hxv⟩ <;>
      rcases decimalValue_magnitude hy with ⟨hym, hyv⟩ | ⟨k', t', hyr, -, hyp, hyv⟩ <;>
      rw [hmagnitude] at hxv
    · have hxe := hx.full.resolve_left (by omega)
      have hye := hy.full.resolve_left (by omega)
      exact ⟨hxm.trans hym.symm, hxe.trans hye.symm⟩
    · exact absurd hxv hyp.ne'
    · rw [hmagnitude] at hxp
      exact absurd hyv hxp.ne'
    · exact eq_of_roundsTo hx hy (hxv.symm.trans hyv) hxr hyr
  obtain ⟨_, _, _⟩ := x
  obtain ⟨_, _, _⟩ := y
  simp only at hnegative hsame
  rw [hnegative, hsame.1, hsame.2]

/-! ## The characters of numbers -/

/-- The digits, the signs, the point and the letter of an exponent. -/
def inNumber (c : Char) : Bool :=
  c.isDigit || c ∈ ['-', '+', '.', 'e']

theorem inNumber_of_isDigit {c : Char} (h : c.isDigit = true) : inNumber c = true := by
  rw [inNumber, h, Bool.true_or]

/-- The digits of a number may stand in a number's text. -/
theorem inNumber_of_mem_natDigits {n : Nat} {c : Char} (h : c ∈ natDigits n) : inNumber c = true :=
  inNumber_of_isDigit (isDigit_of_mem_natDigits h)

/-- The shortest digits of a double are digits. -/
theorem isDigit_of_mem_shortest {c : Char} (h : c ∈ (shortest m e).digits) : c.isDigit = true := by
  have hkept := List.dropWhile_subset _ (List.mem_reverse.1 h)
  exact isDigit_of_mem_natDigits (List.mem_reverse.1 hkept)

/-- A decimal is written with characters of numbers only. -/
theorem inNumber_of_mem_digits (hd : ∀ c ∈ d.digits, c.isDigit = true) {c : Char}
    (h : c ∈ d.render) : inNumber c = true := by
  have hzeros {n : Nat} {c : Char} (h : c ∈ List.replicate n '0') : inNumber c = true := by
    rw [(List.mem_replicate.1 h).2]
    rfl
  have hpadded {n : Nat} {c : Char} (h : c ∈ d.digits ++ List.replicate n '0') :
      inNumber c = true :=
    (List.mem_append.1 h).elim (fun h => inNumber_of_isDigit (hd c h)) hzeros
  have hexponent {c : Char}
      (h : c ∈ (if d.power < 0 then ['-'] else ['+']) ++ natDigits d.power.natAbs) :
      inNumber c = true := by
    rcases List.mem_append.1 h with h | h
    · split at h <;> rw [List.mem_singleton.1 h] <;> rfl
    · exact inNumber_of_mem_natDigits h
  unfold Digits.render at h
  simp only at h
  split at h
  · split at h
    · rw [List.cons_append, List.cons_append, List.mem_cons, List.mem_cons, List.mem_append] at h
      rcases h with rfl | rfl | h | h
      · rfl
      · rfl
      · exact hzeros h
      · exact inNumber_of_isDigit (hd c h)
    · rw [List.mem_append, List.mem_cons] at h
      rcases h with h | rfl | h
      · exact hpadded (List.mem_of_mem_take h)
      · rfl
      · split at h
        · rw [List.mem_singleton.1 h]
          rfl
        · exact hpadded (List.mem_of_mem_drop h)
  · split at h
    · cases h
    · next c' hdigits =>
      rw [List.mem_cons, List.mem_cons] at h
      rcases h with rfl | rfl | h
      · exact inNumber_of_isDigit (hd c (by rw [hdigits]; exact List.mem_singleton_self c))
      · rfl
      · exact hexponent h
    · next c' cs _ hdigits =>
      rw [List.mem_append, List.mem_cons, List.mem_cons, List.mem_cons] at h
      rcases h with (rfl | rfl | h) | rfl | h
      · exact inNumber_of_isDigit (hd c (by rw [hdigits]; exact List.mem_cons_self))
      · rfl
      · exact inNumber_of_isDigit (hd c (by rw [hdigits]; exact .tail _ h))
      · rfl
      · exact hexponent h

/-- The text of a decimal has a point or the letter of an exponent. -/
theorem exists_mark (hd : d.digits ≠ []) : '.' ∈ d.render ∨ 'e' ∈ d.render := by
  unfold Digits.render
  simp only
  split
  · split <;> exact .inl (by simp)
  · split
    · next hdigits => exact absurd hdigits hd
    · exact .inr (by simp)
    · exact .inr (by simp)

/-- The text of a double has a point or an exponent, which sets it apart from that of an integer. -/
theorem Binary64.exists_mark {x : Binary64} (hx : x.IsDouble) :
    '.' ∈ x.render ∨ 'e' ∈ x.render := by
  have hmagnitude : '.' ∈ magnitude x ∨ 'e' ∈ magnitude x := by
    unfold magnitude
    split
    · exact .inl (by decide)
    · next hm =>
      exact Decimal.exists_mark (value_shortest (Nat.pos_of_ne_zero hm) hx.small).1.ne_nil
  exact hmagnitude.imp (List.mem_append_right _) (List.mem_append_right _)

/-- A double is written with characters of numbers only. -/
theorem Binary64.inNumber_of_mem_render {x : Binary64} {c : Char} (h : c ∈ x.render) :
    inNumber c = true := by
  rcases List.mem_append.1 h with h | h
  · split at h
    · rw [List.mem_singleton.1 h]
      rfl
    · cases h
  · split at h
    · have hzero : ['0', '.', '0'].all inNumber = true := by decide
      exact List.all_eq_true.1 hzero c h
    · exact inNumber_of_mem_digits (fun c hc => isDigit_of_mem_shortest hc) h

end

end ModuleBridge.Decimal

namespace ModuleBridge.JsonNumber

open Decimal

/-- The number is one that a program can hold: its double, if it is one, is a double. -/
def IsHeld : JsonNumber → Prop
  | .integer _ => True
  | .real x => x.IsDouble

section
variable {a b : JsonNumber} {n n' : Int} {c : Char}

/-- An integer is written with digits and a minus sign. -/
theorem mem_integer (h : c ∈ (JsonNumber.integer n).render) : c = '-' ∨ c.isDigit = true := by
  rcases List.mem_append.1 h with h | h
  · split at h
    · exact .inl (List.mem_singleton.1 h)
    · cases h
  · exact .inr (isDigit_of_mem_natDigits h)

/-- The characters of a number are those of numbers. -/
theorem inNumber_of_mem_render (h : c ∈ a.render) : inNumber c = true := by
  cases a with
  | integer n =>
    rcases mem_integer h with rfl | h
    · rfl
    · exact inNumber_of_isDigit h
  | real x => exact Binary64.inNumber_of_mem_render h

/-- Integers with the same text are the same. -/
theorem integer_inj (h : (JsonNumber.integer n).render = (JsonNumber.integer n').render) :
    n = n' := by
  have hminus {n : Nat} (cs : List Char) : natDigits n ≠ '-' :: cs := fun he => by
    have hdigit := isDigit_of_mem_natDigits (n := n) (c := '-') (by rw [he]; exact .head _)
    cases hdigit
  have hdigits {k k' : Nat} (h : natDigits k = natDigits k') : k = k' := by
    rw [← natOf_natDigits k, h, natOf_natDigits]
  unfold render at h
  by_cases hn : n < 0 <;> by_cases hn' : n' < 0 <;>
    simp only [hn, hn', if_true, if_false, List.nil_append, List.singleton_append] at h
  · have habs := hdigits (List.cons.inj h).2
    omega
  · exact absurd h.symm (hminus _)
  · exact absurd h (hminus _)
  · have habs := hdigits h
    omega

/-- No integer has the text of a double. -/
theorem integer_ne_real {x : Binary64} (hx : x.IsDouble) :
    (JsonNumber.integer n).render ≠ (JsonNumber.real x).render := by
  intro h
  have hnone {c : Char} (hc : c ≠ '-') (hd : c.isDigit = false) : c ∉ x.render := by
    intro hmem
    change c ∈ (JsonNumber.real x).render at hmem
    rw [← h] at hmem
    rcases mem_integer hmem with rfl | hdigit
    · exact hc rfl
    · rw [hd] at hdigit
      cases hdigit
  rcases Binary64.exists_mark hx with hmark | hmark
  · exact hnone (by decide) rfl hmark
  · exact hnone (by decide) rfl hmark

/-- **The text of a number determines it.** -/
theorem render_inj (ha : a.IsHeld) (hb : b.IsHeld) (h : a.render = b.render) : a = b := by
  cases a with
  | integer n =>
    cases b with
    | integer n' => rw [integer_inj h]
    | real y => exact absurd h (integer_ne_real hb)
  | real x =>
    cases b with
    | integer n' => exact absurd h.symm (integer_ne_real ha)
    | real y => rw [Binary64.render_inj ha hb h]

end

end ModuleBridge.JsonNumber
