import Mathlib.Data.Int.Log
import Mathlib.Data.Rat.Floor
import Mathlib.Tactic.Linarith
import Mathlib.Tactic.Positivity
import Mathlib.Tactic.Ring

/-!
# Binary floating point

The numbers of a format are the multiples of a power of two that take at most `prec` bits;
below a smallest quantum they get fewer bits. `fl` rounds to the nearest of them, ties to even.
It is monotone, leaves the numbers of the format as they are, and is off by at most `unit`
of a value that is not too small. `Near θ x y` is the calculus of such relative errors: they
add up in products, and in sums the larger one counts. There is no largest number, a value
that is too large for a real format has to be excluded by other means. `Approx` keeps the
error of a computed value together with a bound that says it is not too small.
-/

namespace Rounding

/-! ## Nearest integers -/

/-- The nearest integer, of two the even one. -/
def nearestEven (x : ℚ) : ℤ :=
  if 2 * Int.fract x < 1 then ⌊x⌋
  else if 1 < 2 * Int.fract x then ⌊x⌋ + 1
  else if ⌊x⌋ % 2 = 0 then ⌊x⌋ else ⌊x⌋ + 1

theorem nearestEven_cases (x : ℚ) :
    (nearestEven x = ⌊x⌋ ∧ 2 * Int.fract x ≤ 1) ∨
      (nearestEven x = ⌊x⌋ + 1 ∧ 1 ≤ 2 * Int.fract x) := by
  unfold nearestEven
  split_ifs with hlt hgt heven
  · exact .inl ⟨rfl, hlt.le⟩
  · exact .inr ⟨rfl, hgt.le⟩
  · exact .inl ⟨rfl, not_lt.mp hgt⟩
  · exact .inr ⟨rfl, not_lt.mp hlt⟩

@[simp] theorem nearestEven_intCast (m : ℤ) : nearestEven m = m := by
  simp [nearestEven]

theorem floor_le_nearestEven (x : ℚ) : ⌊x⌋ ≤ nearestEven x := by
  rcases nearestEven_cases x with ⟨h, -⟩ | ⟨h, -⟩ <;> omega

theorem nearestEven_le_floor (x : ℚ) : nearestEven x ≤ ⌊x⌋ + 1 := by
  rcases nearestEven_cases x with ⟨h, -⟩ | ⟨h, -⟩ <;> omega

theorem abs_nearestEven_sub_le (x : ℚ) : |(nearestEven x : ℚ) - x| ≤ 1 / 2 := by
  have hsplit := Int.floor_add_fract x
  have hnonneg := Int.fract_nonneg x
  have hlt := Int.fract_lt_one x
  rcases nearestEven_cases x with ⟨h, hle⟩ | ⟨h, hle⟩
  · rw [h, abs_le]
    constructor <;> linarith
  · rw [h, Int.cast_add, Int.cast_one, abs_le]
    constructor <;> linarith

theorem nearestEven_mono {x y : ℚ} (hxy : x ≤ y) : nearestEven x ≤ nearestEven y := by
  rcases (Int.floor_le_floor hxy).lt_or_eq with hlt | heq
  · exact (nearestEven_le_floor x).trans ((Int.add_one_le_of_lt hlt).trans (floor_le_nearestEven y))
  · -- between the same two integers the fractions decide
    have hfract : Int.fract x ≤ Int.fract y := by
      rw [Int.fract, Int.fract, heq]
      linarith
    rw [nearestEven, nearestEven, heq]
    split_ifs <;> first | omega | linarith

/-! ## Formats -/

/-- Precision in bits, and the exponent of the smallest quantum. -/
structure Format where
  prec : ℕ
  emin : ℤ
  prec_pos : 0 < prec

def binary32 : Format := ⟨24, -149, by norm_num⟩

def binary64 : Format := ⟨53, -1074, by norm_num⟩

namespace Format

variable (F : Format) {x y : ℚ} {m e : ℤ}

/-- The exponent of the last bit of `x`. -/
def quantumExp (x : ℚ) : ℤ := max F.emin (Int.log 2 |x| + 1 - F.prec)

def quantum (x : ℚ) : ℚ := 2 ^ F.quantumExp x

/-- The number of the format nearest to `x`. -/
def fl (x : ℚ) : ℚ := nearestEven (x / F.quantum x) * F.quantum x

/-- Half a unit in the last place of 1. -/
def unit : ℚ := 2 ^ (-(F.prec : ℤ))

/-- Rounding loses no bits because `x` were small: it is not, or it has no bits to lose. -/
def Normal (x : ℚ) : Prop := 2 ^ (F.emin + F.prec - 1) ≤ |x| ∨ ∃ m : ℤ, x = m * 2 ^ F.emin

theorem unit_pos : 0 < F.unit := zpow_pos two_pos _

theorem unit_le_half : F.unit ≤ 1 / 2 := by
  have hp := F.prec_pos
  have h : (2 : ℚ) ^ (-(F.prec : ℤ)) ≤ 2 ^ (-1 : ℤ) :=
    zpow_le_zpow_right₀ one_le_two (by omega)
  rwa [zpow_neg_one, ← one_div] at h

theorem quantum_pos (x : ℚ) : 0 < F.quantum x := zpow_pos two_pos _

theorem emin_le_quantumExp (x : ℚ) : F.emin ≤ F.quantumExp x := le_max_left _ _

@[simp] theorem fl_zero : F.fl 0 = 0 := by
  have h : nearestEven 0 = 0 := nearestEven_intCast 0
  simp [fl, h]

theorem abs_fl_sub_le_quantum (x : ℚ) : |F.fl x - x| ≤ F.quantum x / 2 := by
  have hq := F.quantum_pos x
  have hdiff : F.fl x - x = (nearestEven (x / F.quantum x) - x / F.quantum x) * F.quantum x := by
    rw [sub_mul, div_mul_cancel₀ _ hq.ne', fl]
  rw [hdiff, abs_mul, abs_of_pos hq]
  have := mul_le_mul_of_nonneg_right (abs_nearestEven_sub_le (x / F.quantum x)) hq.le
  linarith

/-! ### The numbers of a format -/

theorem exists_mul_quantum (he : F.quantumExp x ≤ e) : ∃ k : ℤ, (2 ^ e : ℚ) = k * F.quantum x := by
  obtain ⟨k, hk⟩ := Int.eq_ofNat_of_zero_le (sub_nonneg.mpr he)
  refine ⟨2 ^ k, ?_⟩
  rw [quantum, Int.cast_pow, Int.cast_two, ← zpow_natCast (2 : ℚ) k, ← zpow_add₀ two_ne_zero]
  congr 1
  omega

theorem fl_of_quantumExp_le (h : F.quantumExp (m * 2 ^ e) ≤ e) : F.fl (m * 2 ^ e) = m * 2 ^ e := by
  obtain ⟨k, hk⟩ := F.exists_mul_quantum h
  have hq := F.quantum_pos (m * 2 ^ e)
  have hmul : (m * 2 ^ e : ℚ) = ((m * k : ℤ) : ℚ) * F.quantum (m * 2 ^ e) := by
    rw [Int.cast_mul, mul_assoc, ← hk]
  have hdiv : (m * 2 ^ e : ℚ) / F.quantum (m * 2 ^ e) = ((m * k : ℤ) : ℚ) :=
    (div_eq_iff hq.ne').mpr hmul
  rw [fl, hdiv, nearestEven_intCast, ← hmul]

theorem fl_of_lt (hm : |m| < 2 ^ F.prec) (he : F.emin ≤ e) : F.fl (m * 2 ^ e) = m * 2 ^ e := by
  have hpow : (0 : ℚ) < 2 ^ e := zpow_pos two_pos e
  by_cases h0 : (m * 2 ^ e : ℚ) = 0
  · rw [h0, fl_zero]
  · refine F.fl_of_quantumExp_le (max_le he ?_)
    have hlt : |(m * 2 ^ e : ℚ)| < 2 ^ (e + F.prec) := by
      rw [abs_mul, abs_of_pos hpow, add_comm, zpow_add₀ two_ne_zero, zpow_natCast]
      exact mul_lt_mul_of_pos_right (by exact_mod_cast hm) hpow
    have hlog : Int.log 2 |(m * 2 ^ e : ℚ)| < e + F.prec :=
      (Int.lt_zpow_iff_log_lt (b := 2) one_lt_two (abs_pos.mpr h0)).mp (by exact_mod_cast hlt)
    omega

/-- **The numbers of the format stay as they are.** -/
theorem fl_of_le (hm : |m| ≤ 2 ^ F.prec) (he : F.emin ≤ e) : F.fl (m * 2 ^ e) = m * 2 ^ e := by
  rcases hm.lt_or_eq with hlt | heq
  · exact F.fl_of_lt hlt he
  · -- with one bit too many the last one is 0
    obtain ⟨p, hp⟩ := Nat.exists_eq_succ_of_ne_zero F.prec_pos.ne'
    have heven : (2 : ℤ) ∣ m := by
      rw [← dvd_abs, heq, hp]
      exact dvd_pow_self 2 p.succ_ne_zero
    obtain ⟨k, rfl⟩ := heven
    have hk : |k| < 2 ^ F.prec := by
      have hpos : (0 : ℤ) < 2 ^ F.prec := pow_pos two_pos _
      rw [abs_mul, abs_two] at heq
      omega
    have hmul : (((2 * k : ℤ) : ℚ) * 2 ^ e) = k * 2 ^ (e + 1) := by
      rw [zpow_add_one₀ two_ne_zero]
      push_cast
      ring
    rw [hmul]
    exact F.fl_of_lt hk (by omega)

theorem fl_two_zpow (he : F.emin ≤ e) : F.fl (2 ^ e) = 2 ^ e := by
  have h := F.fl_of_le (m := 1) (by simpa using one_le_pow₀ one_le_two) he
  simpa using h

theorem abs_nearestEven_quantum_le (x : ℚ) : |nearestEven (x / F.quantum x)| ≤ 2 ^ F.prec := by
  have hq := F.quantum_pos x
  have hlt : |x / F.quantum x| < 2 ^ F.prec := by
    have hself : |x| < 2 ^ (Int.log 2 |x| + 1) := by
      exact_mod_cast Int.lt_zpow_succ_log_self (b := 2) one_lt_two |x|
    have hexp : Int.log 2 |x| + 1 - F.prec ≤ F.quantumExp x := le_max_right _ _
    rw [abs_div, abs_of_pos hq, div_lt_iff₀ hq, quantum, ← zpow_natCast (2 : ℚ) F.prec,
      ← zpow_add₀ two_ne_zero]
    exact hself.trans_le (zpow_le_zpow_right₀ one_le_two (by omega))
  obtain ⟨hlo, hhi⟩ := abs_lt.mp hlt
  have hlower : nearestEven ((-(2 ^ F.prec) : ℤ) : ℚ) ≤ nearestEven (x / F.quantum x) :=
    nearestEven_mono (by push_cast; exact hlo.le)
  have hupper : nearestEven (x / F.quantum x) ≤ nearestEven ((2 ^ F.prec : ℤ) : ℚ) :=
    nearestEven_mono (by push_cast; exact hhi.le)
  rw [nearestEven_intCast] at hlower hupper
  exact abs_le.mpr ⟨hlower, hupper⟩

/-- **Rounding twice is rounding once.** -/
@[simp] theorem fl_fl (x : ℚ) : F.fl (F.fl x) = F.fl x :=
  F.fl_of_le (F.abs_nearestEven_quantum_le x) (F.emin_le_quantumExp x)

theorem exists_fl_eq (x : ℚ) : ∃ m : ℤ, F.fl x = m * 2 ^ F.emin := by
  obtain ⟨k, hk⟩ := Int.eq_ofNat_of_zero_le (sub_nonneg.mpr (F.emin_le_quantumExp x))
  refine ⟨nearestEven (x / F.quantum x) * 2 ^ k, ?_⟩
  rw [fl, Int.cast_mul, Int.cast_pow, Int.cast_two, mul_assoc, ← zpow_natCast (2 : ℚ) k,
    ← zpow_add₀ two_ne_zero, quantum]
  congr 2
  omega

/-- **A sum of numbers of formats loses no bits for being small.** -/
theorem normal_add {G : Format} (hG : F.emin ≤ G.emin) (hx : F.fl x = x) (hy : G.fl y = y) :
    F.Normal (x + y) := by
  obtain ⟨a, ha⟩ := F.exists_fl_eq x
  obtain ⟨b, hb⟩ := G.exists_fl_eq y
  obtain ⟨k, hk⟩ := Int.eq_ofNat_of_zero_le (sub_nonneg.mpr hG)
  have hpow : (2 : ℚ) ^ G.emin = ((2 ^ k : ℤ) : ℚ) * 2 ^ F.emin := by
    rw [Int.cast_pow, Int.cast_two, ← zpow_natCast (2 : ℚ) k, ← zpow_add₀ two_ne_zero]
    congr 1
    omega
  refine .inr ⟨a + b * 2 ^ k, ?_⟩
  rw [← hx, ← hy, ha, hb, hpow]
  push_cast
  ring

theorem normal_sub (hx : F.fl x = x) (hy : F.fl y = y) : F.Normal (x - y) := by
  obtain ⟨a, ha⟩ := F.exists_fl_eq x
  obtain ⟨b, hb⟩ := F.exists_fl_eq y
  refine .inr ⟨a - b, ?_⟩
  rw [← hx, ← hy, ha, hb]
  push_cast
  ring

/-- **The error of one rounding.** -/
theorem abs_fl_sub_le (h : F.Normal x) : |F.fl x - x| ≤ F.unit * |x| := by
  have large : 2 ^ (F.emin + F.prec - 1) ≤ |x| → |F.fl x - x| ≤ F.unit * |x| := by
    intro h
    have hpos : 0 < |x| := (zpow_pos two_pos _).trans_le h
    have hlog : F.emin + F.prec - 1 ≤ Int.log 2 |x| :=
      (Int.zpow_le_iff_le_log (b := 2) one_lt_two hpos).mp (by exact_mod_cast h)
    have hexp : F.quantumExp x = Int.log 2 |x| + 1 - F.prec := max_eq_right (by omega)
    have hself : (2 : ℚ) ^ Int.log 2 |x| ≤ |x| := by
      exact_mod_cast Int.zpow_log_le_self (b := 2) one_lt_two hpos
    have hhalf : F.quantum x / 2 = F.unit * 2 ^ Int.log 2 |x| := by
      have hdiv : (2 : ℚ) ^ (Int.log 2 |x| + 1 - F.prec) / 2 ^ (1 : ℤ) =
          2 ^ (-(F.prec : ℤ) + Int.log 2 |x|) := by
        rw [← zpow_sub₀ two_ne_zero]
        congr 1
        ring
      rw [quantum, hexp, unit, ← zpow_add₀ two_ne_zero, ← hdiv, zpow_one]
    calc |F.fl x - x| ≤ F.quantum x / 2 := F.abs_fl_sub_le_quantum x
      _ = F.unit * 2 ^ Int.log 2 |x| := hhalf
      _ ≤ F.unit * |x| := mul_le_mul_of_nonneg_left hself F.unit_pos.le
  rcases h with h | ⟨m, rfl⟩
  · exact large h
  · rcases le_total |m| (2 ^ F.prec) with hm | hm
    · rw [F.fl_of_le hm le_rfl, sub_self, abs_zero]
      exact mul_nonneg F.unit_pos.le (abs_nonneg _)
    · refine large ?_
      have hpow : (2 : ℚ) ^ (F.emin + F.prec - 1) ≤ 2 ^ F.prec * 2 ^ F.emin := by
        rw [← zpow_natCast (2 : ℚ) F.prec, ← zpow_add₀ two_ne_zero]
        exact zpow_le_zpow_right₀ one_le_two (by omega)
      have hemin : (0 : ℚ) < 2 ^ F.emin := zpow_pos two_pos _
      rw [abs_mul, abs_of_pos hemin]
      exact hpow.trans (mul_le_mul_of_nonneg_right (by exact_mod_cast hm) hemin.le)

/-- `0.1f` is off by about 2⁻²⁹. -/
example : binary32.fl (1 / 10) = 13421773 / 134217728 := by decide +kernel

theorem fl_nonpos (h : x ≤ 0) : F.fl x ≤ 0 := by
  have hq := F.quantum_pos x
  have hnearest : nearestEven (x / F.quantum x) ≤ nearestEven ((0 : ℤ) : ℚ) :=
    nearestEven_mono (by simpa using div_nonpos_of_nonpos_of_nonneg h hq.le)
  rw [nearestEven_intCast] at hnearest
  exact mul_nonpos_of_nonpos_of_nonneg (by exact_mod_cast hnearest) hq.le

theorem fl_nonneg (h : 0 ≤ x) : 0 ≤ F.fl x := by
  have hq := F.quantum_pos x
  have hnearest : nearestEven ((0 : ℤ) : ℚ) ≤ nearestEven (x / F.quantum x) :=
    nearestEven_mono (by simpa using div_nonneg h hq.le)
  rw [nearestEven_intCast] at hnearest
  exact mul_nonneg (by exact_mod_cast hnearest) hq.le

/-! ### Order -/

/-- A power of two that is a multiple of the quantum still bounds the rounded value. -/
theorem fl_le_of_le (hxy : x ≤ 2 ^ e) (he : F.quantumExp x ≤ e) : F.fl x ≤ 2 ^ e := by
  obtain ⟨k, hk⟩ := F.exists_mul_quantum he
  have hq := F.quantum_pos x
  have hdiv : x / F.quantum x ≤ k := (div_le_iff₀ hq).mpr (hk ▸ hxy)
  have hnearest := nearestEven_mono hdiv
  rw [nearestEven_intCast] at hnearest
  rw [hk]
  exact mul_le_mul_of_nonneg_right (by exact_mod_cast hnearest) hq.le

theorem le_fl_of_le (hxy : 2 ^ e ≤ x) (he : F.quantumExp x ≤ e) : 2 ^ e ≤ F.fl x := by
  obtain ⟨k, hk⟩ := F.exists_mul_quantum he
  have hq := F.quantum_pos x
  have hdiv : (k : ℚ) ≤ x / F.quantum x := (le_div_iff₀ hq).mpr (hk ▸ hxy)
  have hnearest := nearestEven_mono hdiv
  rw [nearestEven_intCast] at hnearest
  rw [hk]
  exact mul_le_mul_of_nonneg_right (by exact_mod_cast hnearest) hq.le

/-- **Rounding is monotone.** -/
theorem fl_mono (h0 : 0 ≤ y) (hxy : x ≤ y) : F.fl x ≤ F.fl y := by
  rcases le_or_gt x 0 with hx | hpos
  · exact (F.fl_nonpos hx).trans (F.fl_nonneg h0)
  · have hy : 0 < y := hpos.trans_le hxy
    have hlog : Int.log 2 x ≤ Int.log 2 y := Int.log_mono_right hpos hxy
    have hexp : F.quantumExp x ≤ F.quantumExp y := by
      unfold quantumExp
      rw [abs_of_pos hpos, abs_of_pos hy]
      omega
    rcases hexp.eq_or_lt with heq | hlt
    · have hq := F.quantum_pos y
      unfold fl
      rw [quantum, heq, ← quantum]
      have := nearestEven_mono (div_le_div_of_nonneg_right hxy hq.le)
      exact mul_le_mul_of_nonneg_right (by exact_mod_cast this) hq.le
    · -- there is a power of two between them
      have hp := F.prec_pos
      have hlog' : Int.log 2 x < Int.log 2 y ∧ F.quantumExp y = Int.log 2 y + 1 - F.prec := by
        unfold quantumExp at hlt ⊢
        rw [abs_of_pos hpos, abs_of_pos hy] at hlt
        rw [abs_of_pos hy]
        omega
      have hle : x ≤ 2 ^ Int.log 2 y := by
        have hself : x < 2 ^ (Int.log 2 x + 1) := by
          exact_mod_cast Int.lt_zpow_succ_log_self (b := 2) one_lt_two x
        exact hself.le.trans (zpow_le_zpow_right₀ one_le_two (by omega))
      have hge : (2 : ℚ) ^ Int.log 2 y ≤ y := by
        exact_mod_cast Int.zpow_log_le_self (b := 2) one_lt_two hy
      exact (F.fl_le_of_le hle (by omega)).trans (F.le_fl_of_le hge (by omega))

theorem fl_max (h0 : 0 ≤ x) : F.fl (max x y) = max (F.fl x) (F.fl y) := by
  rcases le_total x y with h | h
  · rw [max_eq_right h, max_eq_right (F.fl_mono (h0.trans h) h)]
  · rw [max_eq_left h, max_eq_left (F.fl_mono h0 h)]

end Format

/-! ## Relative errors -/

/-- Two nonnegative values that differ by at most the fraction `θ` of the larger one. -/
structure Near (θ x y : ℚ) : Prop where
  left : 0 ≤ x
  right : 0 ≤ y
  le : (1 - θ) * x ≤ y
  ge : (1 - θ) * y ≤ x

namespace Near

variable {F : Format} {θ φ x y z u v : ℚ}

theorem refl (h : 0 ≤ x) : Near 0 x x := ⟨h, h, by simp, by simp⟩

theorem symm (h : Near θ x y) : Near θ y x := ⟨h.right, h.left, h.ge, h.le⟩

theorem mono (h : Near θ x y) (hθ : θ ≤ φ) : Near φ x y where
  left := h.left
  right := h.right
  le := (mul_le_mul_of_nonneg_right (by linarith) h.left).trans h.le
  ge := (mul_le_mul_of_nonneg_right (by linarith) h.right).trans h.ge

/-- The inequality behind `trans` and `mul`. -/
theorem sub_add_mul_le (hθ : 0 ≤ θ) (hφ : 0 ≤ φ) (hx : 0 ≤ x) (hz : 0 ≤ z)
    (h : φ ≤ 1 → (1 - φ) * ((1 - θ) * x) ≤ z) : (1 - (θ + φ)) * x ≤ z := by
  by_cases h1 : φ ≤ 1
  · refine le_trans ?_ (h h1)
    have : 0 ≤ θ * φ * x := mul_nonneg (mul_nonneg hθ hφ) hx
    linarith
  · have : (1 - (θ + φ)) * x ≤ 0 := mul_nonpos_of_nonpos_of_nonneg (by linarith) hx
    linarith

theorem trans (h : Near θ x y) (h' : Near φ y z) (hθ : 0 ≤ θ) (hφ : 0 ≤ φ) :
    Near (θ + φ) x z where
  left := h.left
  right := h'.right
  le := sub_add_mul_le hθ hφ h.left h'.right fun h1 =>
    (mul_le_mul_of_nonneg_left h.le (by linarith)).trans h'.le
  ge := by
    rw [add_comm]
    exact sub_add_mul_le hφ hθ h'.right h.left fun h1 =>
      (mul_le_mul_of_nonneg_left h'.ge (by linarith)).trans h.ge

/-- **In a product the errors add up.** -/
theorem mul (h : Near θ x y) (h' : Near φ u v) (hθ : 0 ≤ θ) (hφ : 0 ≤ φ) :
    Near (θ + φ) (x * u) (y * v) := by
  have half : ∀ {x y u v : ℚ}, Near θ x y → Near φ u v → (1 - (θ + φ)) * (x * u) ≤ y * v := by
    intro x y u v h h'
    refine sub_add_mul_le hθ hφ (mul_nonneg h.left h'.left) (mul_nonneg h.right h'.right) ?_
    intro h1
    have hu : 0 ≤ (1 - φ) * u := mul_nonneg (by linarith) h'.left
    calc (1 - φ) * ((1 - θ) * (x * u)) = (1 - θ) * x * ((1 - φ) * u) := by ring
      _ ≤ y * ((1 - φ) * u) := mul_le_mul_of_nonneg_right h.le hu
      _ ≤ y * v := mul_le_mul_of_nonneg_left h'.le h.right
  exact ⟨mul_nonneg h.left h'.left, mul_nonneg h.right h'.right, half h h', half h.symm h'.symm⟩

/-- **In a sum they do not.** -/
theorem add (h : Near θ x y) (h' : Near θ u v) : Near θ (x + u) (y + v) where
  left := add_nonneg h.left h'.left
  right := add_nonneg h.right h'.right
  le := by linarith [h.le, h'.le]
  ge := by linarith [h.ge, h'.ge]

theorem abs_fl (h : F.Normal x) : Near F.unit |x| |F.fl x| := by
  have herror := F.abs_fl_sub_le h
  have hlower := (abs_sub_abs_le_abs_sub x (F.fl x)).trans_eq (abs_sub_comm _ _)
  have hupper := abs_sub_abs_le_abs_sub (F.fl x) x
  refine ⟨abs_nonneg _, abs_nonneg _, by linarith, ?_⟩
  have hle : |F.fl x| ≤ (1 + F.unit) * |x| := by linarith
  have hsq : 0 ≤ F.unit ^ 2 * |x| := mul_nonneg (sq_nonneg _) (abs_nonneg _)
  calc (1 - F.unit) * |F.fl x| ≤ (1 - F.unit) * ((1 + F.unit) * |x|) :=
        mul_le_mul_of_nonneg_left hle (by linarith [F.unit_le_half])
    _ = |x| - F.unit ^ 2 * |x| := by ring
    _ ≤ |x| := by linarith

theorem fl (h : Near θ x y) (hn : F.Normal y) (hθ : 0 ≤ θ) : Near (θ + F.unit) x (F.fl y) := by
  have hround := abs_fl hn
  rw [abs_of_nonneg h.right, abs_of_nonneg (F.fl_nonneg h.right)] at hround
  exact h.trans hround hθ F.unit_pos.le

end Near

/-- `y` was computed for `x`: it is off by at most the fraction `θ`, and zero or not below `b`. -/
structure Approx (θ b x y : ℚ) : Prop where
  near : Near θ |x| |y|
  clear : y = 0 ∨ b ≤ |y|
  error_nonneg : 0 ≤ θ
  bound_nonneg : 0 ≤ b

namespace Approx

variable {F : Format} {θ φ b c x y u v : ℚ}

theorem exact (hb : 0 ≤ b) (h : x = 0 ∨ b ≤ |x|) : Approx 0 b x x :=
  ⟨.refl (abs_nonneg x), h, le_rfl, hb⟩

theorem abs (h : Approx θ b x y) : Approx θ b |x| |y| where
  near := by simpa only [abs_abs] using h.near
  clear := by simpa only [abs_abs, abs_eq_zero] using h.clear
  error_nonneg := h.error_nonneg
  bound_nonneg := h.bound_nonneg

theorem mul (h : Approx θ b x y) (h' : Approx φ c u v) :
    Approx (θ + φ) (b * c) (x * u) (y * v) where
  near := by
    rw [abs_mul, abs_mul]
    exact h.near.mul h'.near h.error_nonneg h'.error_nonneg
  clear := by
    rcases h.clear with rfl | hy
    · exact .inl (zero_mul v)
    · rcases h'.clear with rfl | hv
      · exact .inl (mul_zero y)
      · exact .inr (abs_mul y v ▸ mul_le_mul hy hv h'.bound_nonneg (abs_nonneg y))
  error_nonneg := add_nonneg h.error_nonneg h'.error_nonneg
  bound_nonneg := mul_nonneg h.bound_nonneg h'.bound_nonneg

theorem mono (h : Approx θ b x y) (hθ : θ ≤ φ) (hc : c ≤ b) (hc0 : 0 ≤ c) : Approx φ c x y :=
  ⟨h.near.mono hθ, h.clear.imp_right hc.trans, h.error_nonneg.trans hθ, hc0⟩

theorem normal (h : Approx θ b x y) (hb : 2 ^ (F.emin + F.prec - 1) ≤ b) : F.Normal y := by
  rcases h.clear with rfl | hy
  · exact .inr ⟨0, by simp⟩
  · exact .inl (hb.trans hy)

/-- **One rounding**: one `unit` more, and half the bound at worst. -/
theorem fl (h : Approx θ b x y) (hb : 2 ^ (F.emin + F.prec - 1) ≤ b) :
    Approx (θ + F.unit) (b / 2) x (F.fl y) where
  near := h.near.trans (.abs_fl (h.normal hb)) h.error_nonneg F.unit_pos.le
  clear := by
    rcases h.clear with rfl | hy
    · exact .inl F.fl_zero
    · have hround := (Near.abs_fl (h.normal hb)).le
      have : 1 / 2 * |y| ≤ (1 - F.unit) * |y| :=
        mul_le_mul_of_nonneg_right (by linarith [F.unit_le_half]) (abs_nonneg y)
      exact .inr (by linarith)
  error_nonneg := add_nonneg h.error_nonneg F.unit_pos.le
  bound_nonneg := by linarith [h.bound_nonneg]

end Approx

end Rounding
