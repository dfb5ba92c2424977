import Mathlib.Data.Nat.Digits.Lemmas
import Mathlib.Data.List.TakeWhile

/-!
# C strings and decimal numerals

Byte strings as C sees them: `cstr` cuts a buffer at its first NUL, `scan` is the
subject sequence the base-10 `strtol`/`strtoul` read (white space, an optional
sign, digits), `strtol`/`strtoul` add the saturation at the ends of a `w`-bit
`long`, `decimal` is what `%u` prints. A decimal numeral is read back as the
number it prints, cut at the largest value of the type.
-/

namespace CStr

def isSpace (c : UInt8) : Bool := c == 32 || (9 ≤ c && c ≤ 13)

def isDigit (c : UInt8) : Bool := 48 ≤ c && c ≤ 57

def digitVal (c : UInt8) : Nat := c.toNat - 48

def digitsVal (ds : List UInt8) : Nat := ds.foldl (fun acc c => 10 * acc + digitVal c) 0

/-- The string a buffer holds: its bytes before the first NUL. -/
def cstr (buf : List UInt8) : List UInt8 := buf.takeWhile (· != 0)

/-- A numeral found at the start of a string, and the bytes after it. -/
structure Numeral where
  neg : Bool
  digits : List UInt8
  rest : List UInt8
  deriving DecidableEq, Repr

def scanSign : List UInt8 → Bool × List UInt8
  | c :: s => if c == 45 then (true, s) else if c == 43 then (false, s) else (false, c :: s)
  | [] => (false, [])

/-- The subject sequence of the base-10 conversions; `none` when there is none. -/
def scan (s : List UInt8) : Option Numeral :=
  let (neg, u) := scanSign (s.dropWhile isSpace)
  let ds := u.takeWhile isDigit
  if ds.isEmpty then none else some ⟨neg, ds, u.dropWhile isDigit⟩

/-- The result of a conversion: the value, `*endptr` as an offset into the string, and
whether `errno` was set to `ERANGE`. -/
structure Conv where
  value : Int
  endptr : Nat
  erange : Bool
  deriving DecidableEq, Repr

/-- `strtol(s, &endptr, 10)` with a `w`-bit `long`. -/
def strtol (w : Nat) (s : List UInt8) : Conv :=
  match scan s with
  | none => ⟨0, 0, false⟩
  | some n =>
    let off := s.length - n.rest.length
    let v : Int := if n.neg then -(digitsVal n.digits : Int) else digitsVal n.digits
    if v < -2 ^ (w - 1) then ⟨-2 ^ (w - 1), off, true⟩
    else if 2 ^ (w - 1) - 1 < v then ⟨2 ^ (w - 1) - 1, off, true⟩
    else ⟨v, off, false⟩

/-- `strtoul(s, &endptr, 10)` with a `w`-bit `unsigned long`. -/
def strtoul (w : Nat) (s : List UInt8) : Conv :=
  match scan s with
  | none => ⟨0, 0, false⟩
  | some n =>
    let off := s.length - n.rest.length
    let m := digitsVal n.digits
    if 2 ^ w - 1 < m then ⟨(2 ^ w - 1 : Nat), off, true⟩
    else ⟨((if n.neg then (2 ^ w - m) % 2 ^ w else m : Nat) : Int), off, false⟩

/-- What `sprintf(buf, "%u", n)` writes, without the NUL. -/
def decimal (n : Nat) : List UInt8 :=
  if n = 0 then [48] else (Nat.digits 10 n).reverse.map fun d => UInt8.ofNat (48 + d)

/-! ## Cutting at the NUL -/

theorem cstr_append_nul (s t : List UInt8) : cstr (s ++ 0 :: t) = cstr s := by
  induction s with
  | nil => simp [cstr]
  | cons c s ih =>
    by_cases hc : c = 0
    · subst hc; simp [cstr]
    · simp only [cstr] at ih
      simp [cstr, hc, ih]

theorem cstr_eq_self {s : List UInt8} (h : ∀ c ∈ s, c ≠ 0) : cstr s = s := by
  rw [cstr, List.takeWhile_eq_self_iff]
  simpa using h

theorem cstr_append_nul_self {s t : List UInt8} (h : ∀ c ∈ s, c ≠ 0) :
    cstr (s ++ 0 :: t) = s := by
  rw [cstr_append_nul, cstr_eq_self h]

/-! ## Reading a decimal numeral back -/

theorem isDigit_ofNat {d : Nat} (h : d < 10) : isDigit (UInt8.ofNat (48 + d)) = true := by
  interval_cases d <;> decide

theorem digitVal_ofNat {d : Nat} (h : d < 10) : digitVal (UInt8.ofNat (48 + d)) = d := by
  interval_cases d <;> decide

theorem not_isSpace_of_isDigit {c : UInt8} (h : isDigit c = true) : isSpace c = false := by
  simp only [isDigit, Bool.and_eq_true, decide_eq_true_eq, UInt8.le_iff_toNat_le] at h
  simp only [isSpace, Bool.or_eq_false_iff, Bool.and_eq_false_iff, beq_eq_false_iff_ne, ne_eq,
    decide_eq_false_iff_not, UInt8.le_iff_toNat_le, ← UInt8.toNat_inj]
  simp at h ⊢
  omega

theorem decimal_digits {n : Nat} : ∀ c ∈ decimal n, isDigit c = true := by
  intro c hc
  unfold decimal at hc
  split at hc
  · rw [List.mem_singleton] at hc; subst hc; decide
  · obtain ⟨d, hd, rfl⟩ := List.mem_map.mp hc
    exact isDigit_ofNat (Nat.digits_lt_base (by omega) (List.mem_reverse.mp hd))

theorem decimal_ne_nil (n : Nat) : decimal n ≠ [] := by
  unfold decimal
  split
  · simp
  · rename_i h
    simp [Nat.digits_ne_nil_iff_ne_zero.mpr h]

theorem digitsVal_append (s : List UInt8) (c : UInt8) :
    digitsVal (s ++ [c]) = 10 * digitsVal s + digitVal c := by
  simp [digitsVal]

theorem digitsVal_map {ds : List Nat} (h : ∀ d ∈ ds, d < 10) :
    digitsVal (ds.reverse.map fun d => UInt8.ofNat (48 + d)) = Nat.ofDigits 10 ds := by
  induction ds with
  | nil => rfl
  | cons d ds ih =>
    rw [List.reverse_cons, List.map_append, List.map_singleton, digitsVal_append,
      ih fun x hx => h x (List.mem_cons_of_mem _ hx), digitVal_ofNat (h d List.mem_cons_self),
      Nat.ofDigits_cons]
    simp [Nat.add_comm]

theorem digitsVal_decimal (n : Nat) : digitsVal (decimal n) = n := by
  unfold decimal
  split
  · rename_i h; subst h; rfl
  · rw [digitsVal_map fun d hd => Nat.digits_lt_base (by omega) hd, Nat.ofDigits_digits]

theorem scan_digits {s : List UInt8} (hne : s ≠ []) (h : ∀ c ∈ s, isDigit c = true) :
    scan s = some ⟨false, s, []⟩ := by
  obtain ⟨c, t, rfl⟩ := List.exists_cons_of_ne_nil hne
  have hc := h c List.mem_cons_self
  have hsp : (c :: t).dropWhile isSpace = c :: t := by
    simp [not_isSpace_of_isDigit hc]
  have h45 : c ≠ 45 := by rintro rfl; exact absurd hc (by decide)
  have h43 : c ≠ 43 := by rintro rfl; exact absurd hc (by decide)
  have htk : (c :: t).takeWhile isDigit = c :: t := List.takeWhile_eq_self_iff.mpr h
  have hdr : (c :: t).dropWhile isDigit = [] := List.dropWhile_eq_nil_iff.mpr h
  simp only [scan, hsp, scanSign, beq_iff_eq, h45, h43, if_false, htk, hdr]
  rfl

theorem decimal_no_nul {n : Nat} : ∀ c ∈ decimal n, c ≠ 0 := by
  rintro c hc rfl
  exact absurd (decimal_digits _ hc) (by decide)

/-- **`strtoul` of a decimal numeral**: the number, cut at `ULONG_MAX`. -/
theorem strtoul_decimal (w n : Nat) :
    strtoul w (decimal n) =
      ⟨(min n (2 ^ w - 1) : Nat), (decimal n).length, decide (2 ^ w - 1 < n)⟩ := by
  unfold strtoul
  rw [scan_digits (decimal_ne_nil n) decimal_digits]
  simp only [digitsVal_decimal, List.length_nil, Nat.sub_zero, Bool.false_eq_true, if_false]
  split
  · rename_i h
    rw [Nat.min_eq_right (by omega)]; simp [h]
  · rename_i h
    rw [Nat.min_eq_left (by omega)]; simp [h]

/-- **`strtol` of a decimal numeral**: the number, cut at `LONG_MAX`. -/
theorem strtol_decimal (w n : Nat) :
    strtol w (decimal n) =
      ⟨min (n : Int) (2 ^ (w - 1) - 1), (decimal n).length,
        decide ((2 : Int) ^ (w - 1) - 1 < n)⟩ := by
  have hpos : (0 : Int) < 2 ^ (w - 1) := by positivity
  unfold strtol
  rw [scan_digits (decimal_ne_nil n) decimal_digits]
  simp only [digitsVal_decimal, List.length_nil, Nat.sub_zero, Bool.false_eq_true, if_false]
  rw [if_neg (by omega)]
  split
  · rename_i h
    rw [min_eq_right (by omega)]; simp [h]
  · rename_i h
    rw [min_eq_left (by omega)]; simp [h]

/-! ## The grammar of a numeral -/

/-- White space, an optional sign and decimal digits, nothing else, with the integer denoted. -/
inductive Denotes : List UInt8 → Int → Prop where
  | unsigned {ws ds : List UInt8} (hws : ∀ c ∈ ws, isSpace c = true) (hne : ds ≠ [])
      (hds : ∀ c ∈ ds, isDigit c = true) : Denotes (ws ++ ds) (digitsVal ds)
  | plus {ws ds : List UInt8} (hws : ∀ c ∈ ws, isSpace c = true) (hne : ds ≠ [])
      (hds : ∀ c ∈ ds, isDigit c = true) : Denotes (ws ++ 43 :: ds) (digitsVal ds)
  | minus {ws ds : List UInt8} (hws : ∀ c ∈ ws, isSpace c = true) (hne : ds ≠ [])
      (hds : ∀ c ∈ ds, isDigit c = true) : Denotes (ws ++ 45 :: ds) (-(digitsVal ds : Int))

def Numeral.value (n : Numeral) : Int :=
  if n.neg then -(digitsVal n.digits : Int) else digitsVal n.digits

theorem scan_spaces {ws : List UInt8} (hws : ∀ c ∈ ws, isSpace c = true) (s : List UInt8) :
    scan (ws ++ s) = scan s := by
  unfold scan
  rw [List.dropWhile_append_of_pos hws]

theorem scan_signed {ds : List UInt8} (hne : ds ≠ []) (hds : ∀ c ∈ ds, isDigit c = true) :
    scan (43 :: ds) = some ⟨false, ds, []⟩ ∧ scan (45 :: ds) = some ⟨true, ds, []⟩ := by
  have h43 : (43 :: ds).dropWhile isSpace = 43 :: ds := List.dropWhile_cons_of_neg (by decide)
  have h45 : (45 :: ds).dropWhile isSpace = 45 :: ds := List.dropWhile_cons_of_neg (by decide)
  have htk : ds.takeWhile isDigit = ds := List.takeWhile_eq_self_iff.mpr hds
  have hdr : ds.dropWhile isDigit = [] := List.dropWhile_eq_nil_iff.mpr hds
  have he : ds.isEmpty = false := by simpa using hne
  unfold scan
  simp only [h43, h45, scanSign, beq_self_eq_true, if_true]
  simp [htk, hdr, he]

theorem scan_of_denotes {s : List UInt8} {v : Int} (h : Denotes s v) :
    ∃ n, scan s = some n ∧ n.rest = [] ∧ n.value = v := by
  cases h with
  | unsigned hws hne hds =>
    rw [scan_spaces hws, scan_digits hne hds]
    exact ⟨_, rfl, rfl, rfl⟩
  | plus hws hne hds =>
    rw [scan_spaces hws, (scan_signed hne hds).1]
    exact ⟨_, rfl, rfl, rfl⟩
  | minus hws hne hds =>
    rw [scan_spaces hws, (scan_signed hne hds).2]
    exact ⟨_, rfl, rfl, rfl⟩

theorem Denotes.unique {s : List UInt8} {v v' : Int} (h : Denotes s v) (h' : Denotes s v') :
    v = v' := by
  obtain ⟨m, hm, -, rfl⟩ := scan_of_denotes h
  obtain ⟨m', hm', -, rfl⟩ := scan_of_denotes h'
  rw [hm] at hm'
  cases hm'
  rfl

theorem Denotes.length_pos {s : List UInt8} {v : Int} (h : Denotes s v) : 0 < s.length := by
  cases h with
  | unsigned _ hne _ =>
    rw [List.length_append]
    have := List.length_pos_iff.mpr hne
    omega
  | plus _ _ _ => simp
  | minus _ _ _ => simp

/-- The parts of a scan: white space, what the sign was read from, digits, the rest. -/
theorem scan_eq_some {s : List UInt8} {n : Numeral} (h : scan s = some n) :
    ∃ ws sign, s = ws ++ sign ++ n.digits ++ n.rest ∧ (∀ c ∈ ws, isSpace c = true) ∧
      (sign = [] ∧ n.neg = false ∨ sign = [43] ∧ n.neg = false ∨ sign = [45] ∧ n.neg = true) ∧
      n.digits ≠ [] ∧ ∀ c ∈ n.digits, isDigit c = true := by
  have hs := List.takeWhile_append_dropWhile (p := isSpace) (l := s)
  have hws : ∀ c ∈ s.takeWhile isSpace, isSpace c = true := fun c => List.mem_takeWhile_imp
  unfold scan at h
  generalize s.takeWhile isSpace = ws at hs hws
  generalize s.dropWhile isSpace = t at hs h
  subst hs
  -- what `scanSign` leaves is `t` without its sign
  obtain ⟨sign, ht, hsign⟩ : ∃ sign, t = sign ++ (scanSign t).2 ∧
      (sign = [] ∧ (scanSign t).1 = false ∨ sign = [43] ∧ (scanSign t).1 = false ∨
        sign = [45] ∧ (scanSign t).1 = true) := by
    cases t with
    | nil => exact ⟨[], rfl, .inl ⟨rfl, rfl⟩⟩
    | cons c t =>
      by_cases h45 : c = 45
      · subst h45; exact ⟨[45], rfl, .inr (.inr ⟨rfl, rfl⟩)⟩
      · by_cases h43 : c = 43
        · subst h43; exact ⟨[43], rfl, .inr (.inl ⟨rfl, rfl⟩)⟩
        · refine ⟨[], ?_, .inl ⟨rfl, ?_⟩⟩ <;> simp [scanSign, h45, h43]
  generalize scanSign t = r at h ht hsign
  obtain ⟨neg, u⟩ := r
  simp only at h ht hsign
  split at h
  · cases h
  · next hne =>
    cases h
    refine ⟨ws, sign, ?_, hws, hsign, by simpa using hne, fun c => List.mem_takeWhile_imp⟩
    simp only [List.append_assoc, List.takeWhile_append_dropWhile, ht]

theorem denotes_of_scan {s : List UInt8} {n : Numeral} (h : scan s = some n)
    (hrest : n.rest = []) : Denotes s n.value := by
  obtain ⟨ws, sign, rfl, hws, hsign, hne, hds⟩ := scan_eq_some h
  unfold Numeral.value
  rw [hrest, List.append_nil, List.append_assoc]
  rcases hsign with ⟨rfl, hneg⟩ | ⟨rfl, hneg⟩ | ⟨rfl, hneg⟩ <;> rw [hneg]
  · exact .unsigned hws hne hds
  · exact .plus hws hne hds
  · exact .minus hws hne hds

theorem strtol_of_scan {w : Nat} {s : List UInt8} {n : Numeral} (h : scan s = some n) :
    strtol w s =
      if n.value < -2 ^ (w - 1) then ⟨-2 ^ (w - 1), s.length - n.rest.length, true⟩
      else if 2 ^ (w - 1) - 1 < n.value then ⟨2 ^ (w - 1) - 1, s.length - n.rest.length, true⟩
      else ⟨n.value, s.length - n.rest.length, false⟩ := by
  unfold strtol
  rw [h]
  rfl

/-- **`strtol` of a numeral**: the integer it denotes, cut to the range of `long`, and the end
of the string. -/
theorem strtol_denotes {w : Nat} {s : List UInt8} {v : Int} (h : Denotes s v) :
    strtol w s =
      if v < -2 ^ (w - 1) then ⟨-2 ^ (w - 1), s.length, true⟩
      else if 2 ^ (w - 1) - 1 < v then ⟨2 ^ (w - 1) - 1, s.length, true⟩
      else ⟨v, s.length, false⟩ := by
  obtain ⟨n, hn, hrest, rfl⟩ := scan_of_denotes h
  rw [strtol_of_scan hn, hrest, List.length_nil, Nat.sub_zero]

/-- **What `strtol` reads to the end** is a numeral of the grammar. -/
theorem denotes_of_strtol {w : Nat} {s : List UInt8} (h0 : (strtol w s).endptr ≠ 0)
    (hlen : (strtol w s).endptr = s.length) : ∃ v, Denotes s v := by
  cases hn : scan s with
  | none => exact absurd (by simp [strtol, hn]) h0
  | some n =>
    have hoff : (strtol w s).endptr = s.length - n.rest.length := by
      rw [strtol_of_scan hn]
      split
      · rfl
      · split <;> rfl
    have hle : n.rest.length ≤ s.length := by
      obtain ⟨ws, sign, hs, -⟩ := scan_eq_some hn
      rw [hs, List.length_append]
      omega
    refine ⟨n.value, denotes_of_scan hn (List.length_eq_zero_iff.mp ?_)⟩
    omega

end CStr
