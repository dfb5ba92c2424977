import Powermeter.Lib.CStr
import Powermeter.Lib.Rounding

/-!
# Fixed-point texts

`fixed p x` is what `%.pf` prints: the number rounded to `p` places, with exactly `p` digits
after the point. The digits of the text are those of the nearest multiple of `10 ^ -p`, and the
text is no longer than the number of digits before the point makes it.
-/

namespace CStr

/-- The last `p` decimal digits of `m`, with leading zeros. -/
def padded : Nat → Nat → List UInt8
  | 0, _ => []
  | p + 1, m => padded p (m / 10) ++ [UInt8.ofNat (48 + m % 10)]

/-- What `sprintf(buf, "%.pf", x)` writes, without the NUL, for `p` at least 1. -/
def fixed (p : Nat) (x : ℚ) : List UInt8 :=
  -- the printed digits, without the point
  let m := (Rounding.nearestEven (|x| * 10 ^ p)).toNat
  (if x < 0 then [45] else []) ++ decimal (m / 10 ^ p) ++ 46 :: padded p m

/-- The number whose digits are in a text, with `p` of them after the point. -/
def places (p : Nat) (s : List UInt8) : ℚ := digitsVal (s.filter isDigit) / 10 ^ p

@[simp] theorem length_padded (p m : Nat) : (padded p m).length = p := by
  induction p generalizing m with
  | zero => rfl
  | succ p ih => rw [padded, List.length_append, ih, List.length_singleton]

theorem padded_digits {p m : Nat} : ∀ c ∈ padded p m, isDigit c = true := by
  induction p generalizing m with
  | zero => simp [padded]
  | succ p ih =>
    intro c hc
    rcases List.mem_append.mp hc with hc | hc
    · exact ih c hc
    · rw [List.mem_singleton.mp hc]
      exact isDigit_ofNat (Nat.mod_lt m (by decide))

theorem digitsVal_append_padded (s : List UInt8) (p m : Nat) :
    digitsVal (s ++ padded p m) = digitsVal s * 10 ^ p + m % 10 ^ p := by
  induction p generalizing m with
  | zero => simp [padded, Nat.mod_one]
  | succ p ih =>
    rw [padded, ← List.append_assoc, digitsVal_append, ih,
      digitVal_ofNat (Nat.mod_lt m (by decide)), Nat.pow_succ', Nat.mod_mul]
    ring

theorem length_decimal_le {m k : Nat} (hk : 1 ≤ k) (h : m < 10 ^ k) : (decimal m).length ≤ k := by
  unfold decimal
  split
  · exact hk
  · rw [List.length_map, List.length_reverse]
    exact (Nat.digits_length_le_iff (by decide) m).mpr h

theorem digits_fixed (p : Nat) (x : ℚ) :
    digitsVal ((fixed p x).filter isDigit) = (Rounding.nearestEven (|x| * 10 ^ p)).toNat := by
  generalize hm : (Rounding.nearestEven (|x| * 10 ^ p)).toNat = m
  have hsign : (if x < 0 then [45] else []).filter isDigit = [] := by
    split <;> decide
  have hdecimal : (decimal (m / 10 ^ p)).filter isDigit = decimal (m / 10 ^ p) :=
    List.filter_eq_self.mpr decimal_digits
  have hpoint : (46 :: padded p m).filter isDigit = padded p m := by
    rw [List.filter_cons_of_neg (by decide), List.filter_eq_self.mpr padded_digits]
  simp only [fixed, hm]
  rw [List.filter_append, List.filter_append, hsign, hdecimal, hpoint, List.nil_append,
    digitsVal_append_padded, digitsVal_decimal, Nat.div_add_mod']

/-- `-0.04` is printed as `-0.0`. -/
example : fixed 1 (-4 / 100) = [45, 48, 46, 48] := by decide +kernel

theorem places_fixed_mono (p : Nat) {x y : ℚ} (h : abs x ≤ abs y) :
    places p (fixed p x) ≤ places p (fixed p y) := by
  have hle : Rounding.nearestEven (|x| * 10 ^ p) ≤ Rounding.nearestEven (|y| * 10 ^ p) :=
    Rounding.nearestEven_mono (by gcongr)
  have hnat := Int.toNat_le_toNat hle
  rw [places, places, digits_fixed, digits_fixed]
  gcongr

theorem length_fixed_le (p : Nat) {k : Nat} (hk : 1 ≤ k) {x : ℚ} (h0 : 0 ≤ x)
    (h : x ≤ 10 ^ k - 1) : (fixed p x).length ≤ k + 1 + p := by
  have hpow : 0 < 10 ^ p := by positivity
  have hle : Rounding.nearestEven (|x| * 10 ^ p) ≤ (((10 ^ k - 1) * 10 ^ p : ℤ)) := by
    rw [← Rounding.nearestEven_intCast ((10 ^ k - 1) * 10 ^ p)]
    refine Rounding.nearestEven_mono ?_
    push_cast
    rw [abs_of_nonneg h0]
    gcongr
  have hlt : (Rounding.nearestEven (|x| * 10 ^ p)).toNat / 10 ^ p < 10 ^ k := by
    rw [Nat.div_lt_iff_lt_mul hpow]
    zify
    have hpos : (0 : ℤ) < 10 ^ p := by positivity
    have hpos' : (0 : ℤ) < 10 ^ k := by positivity
    rw [Int.toNat_eq_max]
    refine max_lt (hle.trans_lt ?_) (by positivity)
    gcongr
    exact sub_one_lt _
  have hdecimal := length_decimal_le hk hlt
  simp only [fixed, if_neg (not_lt.mpr h0), List.nil_append, List.length_append, List.length_cons,
    length_padded]
  omega

theorem fixed_no_nul {p : Nat} {x : ℚ} : ∀ c ∈ fixed p x, c ≠ 0 := by
  intro c hc
  simp only [fixed, List.mem_append, List.mem_cons] at hc
  rcases hc with (hc | hc) | hc | hc
  · split at hc
    · rw [List.mem_singleton.mp hc]; decide
    · cases hc
  · exact decimal_no_nul c hc
  · rw [hc]; decide
  · rintro rfl
    exact absurd (padded_digits _ hc) (by decide)

end CStr
