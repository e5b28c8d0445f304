import Switchboard.Decimal.Layout
import Switchboard.Proofs.Decimal.Conversion
import Switchboard.Proofs.Text.Digits

/-!
# The text of whole numbers

A whole number below `2 ^ 53` is written with its own decimal digits: the
shortest decimal that reads back to its value is the number itself, since less
than half a unit around the number rounds to it.
-/

namespace Switchboard.Decimal

/-- The interval of a whole number, which reaches at most half a unit to both
sides. -/
structure Interval.Surrounds (interval : Interval) (number : Nat) : Prop where
  value : interval.value = number * Nat.pow 2 unitExponent
  low : interval.low < interval.value
  high : interval.value < interval.high
  below : 2 * interval.value ≤ 2 * interval.low + Nat.pow 2 unitExponent
  above : 2 * interval.high ≤ 2 * interval.value + Nat.pow 2 unitExponent

theorem toNat_exponentField (bits : UInt64) :
    ((bits >>> 52) &&& 0x7FF).toNat =
      bits.toNat / 4503599627370496 % 2048 := by
  rw [UInt64.toNat_and, UInt64.toNat_shiftRight]
  exact (Nat.and_two_pow_sub_one_eq_mod _ 11).trans (by
    rw [Nat.shiftRight_eq_div_pow]
    rfl)

theorem toNat_fraction (bits : UInt64) :
    (bits &&& 0xFFFFFFFFFFFFF).toNat = bits.toNat % 4503599627370496 := by
  rw [UInt64.toNat_and]
  exact Nat.and_two_pow_sub_one_eq_mod _ 52

theorem and_magnitude {bits : UInt64}
    (positive : bits.toNat < 9223372036854775808) :
    bits &&& 0x7FFFFFFFFFFFFFFF = bits := by
  apply UInt64.toNat_inj.mp
  rw [UInt64.toNat_and]
  exact (Nat.and_two_pow_sub_one_eq_mod _ 63).trans
    (Nat.mod_eq_of_lt positive)

/-- An interval is narrow enough when its unit step is. -/
theorem Interval.Surrounds.of_step {number quarters gap step : Nat}
    {closed : Bool} (value : quarters * step = number * Nat.pow 2 unitExponent)
    (narrow : 4 * step ≤ Nat.pow 2 unitExponent) (positive : 0 < step)
    (apart : 0 < gap) (near : gap ≤ 2) (within : gap ≤ quarters) :
    Interval.Surrounds
      { value := quarters * step
        low := (quarters - gap) * step
        high := (quarters + 2) * step
        closed := closed } number := by
  have split : (quarters - gap) * step + gap * step = quarters * step := by
    rw [← Nat.add_mul, Nat.sub_add_cancel within]
  have beyond : (quarters + 2) * step = quarters * step + 2 * step :=
    Nat.add_mul _ _ _
  have least : 1 * step ≤ gap * step := Nat.mul_le_mul_right step apart
  have most : gap * step ≤ 2 * step := Nat.mul_le_mul_right step near
  constructor
  · exact value
  all_goals
    simp only
    omega

theorem four_mul_pow_le {shift exponent : Nat}
    (bounded : shift + 2 ≤ exponent) :
    4 * Nat.pow 2 shift ≤ Nat.pow 2 exponent :=
  calc
    4 * Nat.pow 2 shift = Nat.pow 2 (shift + 2) := by
      simp only [Nat.pow_eq, Nat.pow_succ]
      omega
    _ ≤ Nat.pow 2 exponent := Nat.pow_le_pow_right (by decide) bounded

private theorem four_mul_shifted (number first second : Nat) :
    4 * (number * Nat.pow 2 first) * Nat.pow 2 second =
      number * Nat.pow 2 (first + second + 2) := by
  simp only [Nat.pow_eq, Nat.pow_succ, Nat.pow_add]
  ring

private theorem fields_of_full (exponent : Nat) {significand : Nat}
    (low : 4503599627370496 ≤ significand)
    (high : significand < 9007199254740992) (bounded : exponent < 2046) :
    (exponent * 4503599627370496 + significand) / 4503599627370496 % 2048 =
        exponent + 1 ∧
      4503599627370496 +
        (exponent * 4503599627370496 + significand) % 4503599627370496 =
          significand := by
  omega

/-- The interval around the value of a small count. -/
theorem surrounds_ofBits {count : UInt64} (positive : 0 < count.toNat)
    (small : count.toNat < 9007199254740992) :
    (Interval.ofBits count.toFloat.toBits).Surrounds count.toNat := by
  obtain ⟨low, high⟩ := fullSignificand_bounds positive small
  have bounded := log2_le_of_small positive small
  have exponent :
      52 - count.toNat.log2 + (count.toNat.log2 + 1022) + 2 = unitExponent := by
    unfold unitExponent
    omega
  obtain ⟨first, second⟩ :=
    fields_of_full (count.toNat.log2 + 1022) low high (by omega)
  rw [← toNat_toBits_toFloat positive small] at first second
  have field : ((count.toFloat.toBits >>> 52) &&& 0x7FF).toNat =
      count.toNat.log2 + 1022 + 1 :=
    (toNat_exponentField _).trans first
  have fraction : Nat.pow 2 52 +
      (count.toFloat.toBits &&& 0xFFFFFFFFFFFFF).toNat =
        fullSignificand count.toNat := by
    rw [toNat_fraction]
    exact second
  unfold Interval.ofBits
  simp only [field, Nat.add_one_ne_zero, if_false, fraction, Nat.add_sub_cancel]
  apply Interval.Surrounds.of_step
  · rw [fullSignificand, four_mul_shifted, exponent]
  · exact four_mul_pow_le (by unfold unitExponent; omega)
  · exact Nat.pow_pos (by decide)
  · split <;> decide
  · split <;> decide
  · split <;> omega

/-- Whole multiples of a unit that are at most half a unit apart in one
direction. -/
theorem le_of_half_unit {first second unit : Nat} (positive : 0 < unit)
    (near : 2 * (first * unit) ≤ 2 * (second * unit) + unit) :
    first ≤ second := by
  rcases Nat.lt_or_ge second first with less | held
  · have apart : (second + 1) * unit ≤ first * unit :=
      Nat.mul_le_mul_right unit less
    rw [Nat.add_mul, Nat.one_mul] at apart
    omega
  · exact held

theorem two_pow_pos (exponent : Nat) : 0 < Nat.pow 2 exponent :=
  Nat.pow_pos (by decide)

namespace Interval

variable {interval : Interval} {tie : Tie} {exponent : Int} {point : Nat}

/-- A point that is taken from a grid lies in the interval. -/
theorem contains_of_nearestOn
    (found : interval.nearestOn tie exponent = some point) :
    interval.contains point exponent = true := by
  unfold nearestOn at found
  extract_lets lower upper at found
  clear_value lower upper
  -- The comparison only says which of two contained points is taken.
  generalize interval.compareMiddle lower exponent = order at found
  generalize below : interval.contains lower exponent = first at found
  generalize above : interval.contains upper exponent = second at found
  cases first <;> cases second
  case false.false => cases found
  case true.false =>
      cases found
      exact below
  case false.true =>
      cases found
      exact above
  case true.true =>
      have either : point = lower ∨ point = upper := by grind
      rcases either with rfl | rfl
      · exact below
      · exact above

end Interval

/-- A search through the first places ends at a place that is known to have
something, or before. -/
theorem exists_findSome?_range {found : Type} {search : Nat → Option found}
    {last : Nat} {value : found} (hit : search last = some value)
    (limit : Nat) (within : last < limit) :
    ∃ place result, place ≤ last ∧ search place = some result ∧
      (List.range limit).findSome? search = some result := by
  obtain ⟨result, ends⟩ : ∃ result,
      (List.range (last + 1)).findSome? search = some result := by
    apply Option.isSome_iff_exists.mp
    apply List.findSome?_isSome_iff.mpr
    refine ⟨last, List.self_mem_range_succ, ?_⟩
    rw [hit]
    rfl
  obtain ⟨place, member, taken⟩ := List.exists_of_findSome?_eq_some ends
  have early := List.mem_range.mp member
  refine ⟨place, result, by omega, taken, ?_⟩
  have parts : limit = last + 1 + (limit - (last + 1)) := by omega
  rw [parts, List.range_add, List.findSome?_append, ends]
  rfl

theorem decimalLength_mul_pow {number : Nat} (positive : 0 < number)
    (places : Nat) :
    decimalLength (number * Nat.pow 10 places) =
      decimalLength number + places := by
  unfold decimalLength
  rw [Text.toDigits_mul_pow positive, List.length_append,
    List.length_replicate]

namespace Interval.Surrounds

variable {interval : Interval} {number : Nat}

/-- The only whole number in the interval is the number itself. -/
theorem contains_iff (surrounds : interval.Surrounds number)
    (digits exponent : Nat) :
    interval.contains digits (exponent : Int) = true ↔
      digits * Nat.pow 10 exponent = number := by
  obtain ⟨value, low, high, below, above⟩ := surrounds
  have whole : (-(exponent : Int)).toNat = 0 := by omega
  have one : Nat.pow 10 0 = 1 := rfl
  have unit := two_pow_pos unitExponent
  unfold contains
  simp only [Int.toNat_natCast, whole, one, Nat.mul_one]
  generalize digits * Nat.pow 10 exponent = point
  generalize Nat.pow 2 unitExponent = step at *
  constructor
  · intro within
    have bounds : interval.low ≤ point * step ∧
        point * step ≤ interval.high := by
      split at within <;>
        simp only [Bool.and_eq_true, decide_eq_true_eq] at within <;> omega
    apply Nat.le_antisymm
    · exact le_of_half_unit unit (by omega)
    · exact le_of_half_unit unit (by omega)
  · rintro rfl
    split <;> simp only [Bool.and_eq_true, decide_eq_true_eq] <;> omega

private theorem floorAt
    (surrounds : interval.Surrounds number) (exponent : Nat) :
    interval.floorAt (exponent : Int) = number / Nat.pow 10 exponent := by
  have whole : (-(exponent : Int)).toNat = 0 := by omega
  have one : Nat.pow 10 0 = 1 := rfl
  unfold Interval.floorAt
  rw [surrounds.value, whole, one, Nat.mul_one, Int.toNat_natCast,
    Nat.mul_comm number]
  exact Nat.mul_div_mul_left _ _ (two_pow_pos unitExponent)

/-- A point that is taken from a grid is the number itself. -/
theorem eq_of_nearestOn (surrounds : interval.Surrounds number) {tie : Tie}
    {exponent point : Nat}
    (found : interval.nearestOn tie (exponent : Int) = some point) :
    point * Nat.pow 10 exponent = number :=
  (surrounds.contains_iff point exponent).mp (contains_of_nearestOn found)

/-- The grid of the whole numbers has the number as its only point. -/
theorem nearestOn_zero (surrounds : interval.Surrounds number) (tie : Tie) :
    interval.nearestOn tie 0 = some number := by
  have floor : interval.floorAt 0 = number :=
    (surrounds.floorAt 0).trans (Nat.div_one number)
  have lower : interval.contains number 0 = true :=
    (surrounds.contains_iff number 0).mpr (Nat.mul_one number)
  have upper : interval.contains (number + 1) 0 = false := by
    apply Bool.eq_false_iff.mpr
    intro held
    have same := (surrounds.contains_iff (number + 1) 0).mp held
    rw [show Nat.pow 10 0 = 1 from rfl] at same
    omega
  unfold nearestOn
  rw [floor]
  extract_lets point next
  generalize interval.compareMiddle point 0 = order
  simp only [point, next, lower, upper]

private theorem floorAt_neg
    (surrounds : interval.Surrounds number) (places : Nat) :
    interval.floorAt (-(places : Int)) = number * Nat.pow 10 places := by
  have none : (-(places : Int)).toNat = 0 := by omega
  have all : (- -(places : Int)).toNat = places := by omega
  have one : Nat.pow 10 0 = 1 := rfl
  unfold Interval.floorAt
  rw [surrounds.value, none, all, one, Nat.mul_one, Nat.mul_right_comm]
  exact Nat.mul_div_cancel _ (two_pow_pos unitExponent)

private theorem leadingExponent (surrounds : interval.Surrounds number)
    (positive : 0 < number) :
    interval.leadingExponent = (decimalLength number : Int) - 1 := by
  have added : (-400 : Int) = -((400 : Nat) : Int) := rfl
  unfold Interval.leadingExponent
  rw [added, surrounds.floorAt_neg, decimalLength_mul_pow positive 400]
  omega

/-- The search ends at the number itself, on the grid of the whole numbers or
before. -/
theorem exists_shortest (surrounds : interval.Surrounds number)
    (positive : 0 < number) (short : decimalLength number ≤ 17) (tie : Tie) :
    ∃ point exponent, point * Nat.pow 10 exponent = number ∧
      interval.shortest tie = Digits.ofNat point (exponent : Int) := by
  have nonempty : 0 < decimalLength number := Nat.length_toDigits_pos
  have first := surrounds.leadingExponent positive
  unfold Interval.shortest
  extract_lets leading onGrid
  have grid {places exponent : Nat}
      (sum : places + exponent = decimalLength number - 1) :
      onGrid places = (interval.nearestOn tie (exponent : Int)).map
        (Digits.ofNat · (exponent : Int)) := by
    have shifted : leading - (places : Int) = (exponent : Int) := by omega
    simp only [onGrid, shifted]
  have last : onGrid (decimalLength number - 1) =
      some (Digits.ofNat number 0) := by
    rw [grid (Nat.add_zero _)]
    exact congrArg _ (surrounds.nearestOn_zero tie)
  clear_value onGrid
  obtain ⟨places, found, early, taken, search⟩ :=
    exists_findSome?_range last 17 (by omega)
  rw [grid (Nat.add_sub_of_le early)] at taken
  obtain ⟨point, nearest, form⟩ := Option.map_eq_some_iff.mp taken
  refine ⟨point, _, surrounds.eq_of_nearestOn nearest, ?_⟩
  rw [search, form]

end Interval.Surrounds

theorem Digits.ofNat_exponent (point exponent : Nat) :
    (Digits.ofNat point (exponent : Int)).exponent =
      (decimalLength point + exponent : Int) - 1 := by
  unfold Digits.ofNat decimalLength
  simp only
  omega

private theorem Digits.positional_ofNat {point : Nat} (positive : 0 < point)
    (exponent : Nat) (wholeMark : List Char) :
    (Digits.ofNat point (exponent : Int)).positional wholeMark =
      Nat.toDigits 10 (point * Nat.pow 10 exponent) ++ wholeMark := by
  obtain ⟨zeros, form⟩ := Text.exists_trailing_zeros (Nat.toDigits 10 point)
  have nonempty : 0 < decimalLength point := Nat.length_toDigits_pos
  have kept : (Digits.ofNat point (exponent : Int)).digits =
      (Nat.toDigits 10 point).rdropWhile (· == '0') := rfl
  have length : decimalLength point =
      ((Nat.toDigits 10 point).rdropWhile (· == '0')).length + zeros := by
    rw [← List.length_replicate (n := zeros) (a := '0'), ← List.length_append,
      form]
    rfl
  have places : (Digits.ofNat point (exponent : Int)).exponent.toNat + 1 =
      decimalLength point + exponent := by
    rw [Digits.ofNat_exponent]
    omega
  generalize (Nat.toDigits 10 point).rdropWhile (· == '0') = run at *
  unfold Digits.positional
  rw [if_neg (by rw [Digits.ofNat_exponent]; omega), kept, places,
    Text.toDigits_mul_pow positive, ← form]
  have all : run.take (decimalLength point + exponent) = run :=
    List.take_of_length_le (by omega)
  have nothing : run.drop (decimalLength point + exponent) = [] :=
    List.drop_of_length_le (by omega)
  have missing : decimalLength point + exponent - run.length =
      zeros + exponent := by
    omega
  simp only [all, nothing, missing, List.append_assoc,
    ← List.replicate_append_replicate]

/-- The shortest decimal for a whole number shows the number. -/
theorem Interval.Surrounds.shortest {interval : Interval} {number : Nat}
    (surrounds : interval.Surrounds number) (positive : 0 < number)
    (short : decimalLength number ≤ 17) (tie : Tie) :
    (interval.shortest tie).exponent = (decimalLength number : Int) - 1 ∧
      ∀ wholeMark, (interval.shortest tie).positional wholeMark =
        Nat.toDigits 10 number ++ wholeMark := by
  obtain ⟨point, exponent, value, form⟩ :=
    surrounds.exists_shortest positive short tie
  have nonzero : 0 < point := by
    apply Nat.pos_of_ne_zero
    rintro rfl
    rw [Nat.zero_mul] at value
    omega
  rw [form]
  constructor
  · rw [Digits.ofNat_exponent, ← value, decimalLength_mul_pow nonzero,
      Int.natCast_add]
  · intro wholeMark
    rw [Digits.positional_ofNat nonzero, value]

/-- A small count is written with its own digits, where a layout writes such
numbers positionally. -/
theorem Layout.render_toFloat (layout : Layout) {count : UInt64}
    (small : count.toNat < 9007199254740992)
    (positional :
      layout.positional ((decimalLength count.toNat : Int) - 1) = true) :
    layout.render count.toFloat =
      Nat.toDigits 10 count.toNat ++ layout.wholeMark := by
  rcases Nat.eq_zero_or_pos count.toNat with zero | positive
  · have none : count = 0 := UInt64.toNat_inj.mp zero
    have bits : (0 : UInt64).toFloat.toBits = 0 := rfl
    rw [none]
    unfold Layout.render
    rw [bits]
    rfl
  · obtain ⟨low, high⟩ := fullSignificand_bounds positive small
    have bounded := log2_le_of_small positive small
    have bits := toNat_toBits_toFloat positive small
    have magnitude : count.toFloat.toBits &&& 0x7FFFFFFFFFFFFFFF =
        count.toFloat.toBits :=
      and_magnitude (by omega)
    have apart : count.toFloat.toBits ≠ 0 := by
      intro zero
      rw [zero, UInt64.toNat_zero] at bits
      omega
    have short : decimalLength count.toNat ≤ 17 :=
      (Nat.length_toDigits_le_iff (by decide) (by decide)).mpr (by omega)
    obtain ⟨exponent, text⟩ :=
      (surrounds_ofBits positive small).shortest positive short layout.tie
    unfold Layout.render
    simp only [magnitude, if_neg apart, exponent, positional, text, if_true]

end Switchboard.Decimal
