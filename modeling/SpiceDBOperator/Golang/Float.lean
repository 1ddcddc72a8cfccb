import Mathlib.Algebra.Order.Field.Rat
import Mathlib.Algebra.Order.Field.Power
import Mathlib.Tactic.Linarith
import Mathlib.Tactic.NormNum
import Mathlib.Tactic.Positivity
import Mathlib.Tactic.Ring
import Mathlib.Tactic.FieldSimp
import Mathlib.Data.Nat.Factorization.Basic
import SpiceDBOperator.Golang.Any

/-!
# float64 and its shortest decimals

`Number` stands for a float64 by the decimal that prints it. Here that is made precise: `IsFloat64` are the finite
values, `ReadsAs` is rounding to the nearest of them, ties to even, and `Number.Shortest x f` says that `x` is the
decimal with the fewest digits that reads as `f`, the nearest among those.

An integer below a million is its own shortest decimal and is printed as such (`Number.Shortest.text_small`); from a
million on the text has an exponent (`Number.Shortest.text_big`) and `strconv.ParseInt` refuses it.
-/

namespace Golang

/-! ## Values -/

def IsFloat64 (f : ℚ) : Prop :=
  ∃ significand exponent : Int, |significand| < 2 ^ 53 ∧ -1074 ≤ exponent ∧ exponent ≤ 971 ∧
    f = significand * 2 ^ exponent

/-- The last bit of the significand is zero, where the significand has all its bits. -/
def EvenSignificand (f : ℚ) : Prop :=
  ∃ significand exponent : Int, |significand| < 2 ^ 53 ∧ (2 ^ 52 ≤ |significand| ∨ exponent = -1074) ∧
    f = significand * 2 ^ exponent ∧ Even significand

/-- The decimal `q` is read as `f`. -/
structure ReadsAs (q f : ℚ) : Prop where
  finite : IsFloat64 f
  nearest : ∀ g, IsFloat64 g → |q - f| ≤ |q - g|
  tie : ∀ g, IsFloat64 g → g ≠ f → |q - f| = |q - g| → EvenSignificand f

theorem isFloat64_int {n : Int} (h : |n| < 2 ^ 53) : IsFloat64 n := ⟨n, 0, h, by norm_num, by norm_num, by simp⟩

theorem ReadsAs.refl {f : ℚ} (h : IsFloat64 f) : ReadsAs f f where
  finite := h
  nearest g _ := by simp
  tie g _ hne heq := by
    have hzero : f - g = 0 := by simpa using heq.symm
    exact absurd (sub_eq_zero.1 hzero).symm hne

/-- Below a million the float64 are closer than `2 ^ -20`. -/
theorem ReadsAs.close {q : ℚ} {n : Int} (h : ReadsAs q n) (hn : |n| < 10 ^ 6) : |q - n| ≤ 1 / 2 ^ 21 := by
  have hstep : ∀ d : Int, |d| ≤ 1 → IsFloat64 (n + d / 2 ^ 20) := by
    intro d hd
    refine ⟨n * 2 ^ 20 + d, -20, ?_, by norm_num, by norm_num, ?_⟩
    · rw [abs_lt] at hn ⊢
      rw [abs_le] at hd
      omega
    · push_cast
      rw [zpow_neg]
      norm_num
      ring
  have hup := h.nearest _ (hstep 1 (by norm_num))
  have hdown := h.nearest _ (hstep (-1) (by norm_num))
  push_cast at hup hdown
  rw [abs_le]
  rcases abs_cases (q - n) with ⟨he, hs⟩ | ⟨he, hs⟩
  · rcases abs_cases (q - (n + 1 / 2 ^ 20)) with ⟨he', hs'⟩ | ⟨he', hs'⟩ <;> constructor <;> linarith
  · rcases abs_cases (q - (n + -1 / 2 ^ 20)) with ⟨he', hs'⟩ | ⟨he', hs'⟩ <;> constructor <;> linarith

/-! ## The text of an integer -/

theorem toString_int (n : Int) :
    toString n = (if n < 0 then "-" else "") ++ String.ofList (Nat.toDigits 10 n.natAbs) := by
  rw [Int.toString_eq_repr, Int.repr_eq_if]
  by_cases hneg : n < 0
  · rw [if_neg (not_le.2 hneg), if_pos hneg, Nat.repr_eq_ofList_toDigits, show (-n).toNat = n.natAbs by omega]
  · rw [if_pos (not_lt.1 hneg), if_neg hneg, String.empty_append, Nat.repr_eq_ofList_toDigits,
      show n.toNat = n.natAbs by omega]

theorem toString_int_ne (n : Int) : toString n ≠ "" := by
  intro hempty
  rw [toString_int] at hempty
  have hlist := congrArg String.toList hempty
  rw [String.toList_append, String.toList_ofList] at hlist
  exact Nat.toDigits_ne_nil (List.append_eq_nil_iff.1 hlist).2

theorem toDigits_mul_pow {d : Nat} (hd : 0 < d) (k : Nat) :
    Nat.toDigits 10 (d * 10 ^ k) = Nat.toDigits 10 d ++ List.replicate k '0' := by
  induction k with
  | zero => simp
  | succ k ih =>
    have hpos : 0 < d * 10 ^ k := Nat.mul_pos hd (by positivity)
    have hshift : d * 10 ^ (k + 1) = 10 * (d * 10 ^ k) + 0 := by rw [pow_succ]; ring
    rw [hshift, ← Nat.toDigits_append_toDigits (by decide) hpos (by decide), ih, Nat.toDigits_zero, List.append_assoc,
      List.replicate_succ']

/-! ## Decimals -/

namespace Number

def value (x : Number) : ℚ := (if x.negative then -1 else 1) * (x.digits * 10 ^ x.exponent)

/-- The number of digits. -/
def precision (x : Number) : Nat := if x.digits = 0 then 0 else (Nat.toDigits 10 x.digits).length

/-- `x` is how `f` is printed. -/
structure Shortest (x : Number) (f : ℚ) : Prop where
  reads : ReadsAs x.value f
  fewest : ∀ y : Number, ReadsAs y.value f → x.precision ≤ y.precision
  closest : ∀ y : Number, ReadsAs y.value f → y.precision = x.precision → |x.value - f| ≤ |y.value - f|
  sign : x.negative = decide (f < 0)

theorem precision_le_iff {x : Number} {k : Nat} (hk : 0 < k) : x.precision ≤ k ↔ x.digits < 10 ^ k := by
  unfold precision
  split_ifs with hzero
  · simp [hzero]
  · exact Nat.length_toDigits_le_iff (by decide) hk

/-- One digit is the shortest there is, zero apart. -/
theorem shortest_digit {x : Number} (hpos : 0 < x.digits) (hdigit : x.digits < 10) (hfinite : IsFloat64 x.value)
    (hsign : x.negative = decide (x.value < 0)) : x.Shortest x.value where
  reads := ReadsAs.refl hfinite
  fewest y hy := by
    refine ((precision_le_iff one_pos).2 hdigit).trans (Nat.one_le_iff_ne_zero.2 fun hnone => ?_)
    have hzero : y.digits = 0 := by
      by_contra hne
      rw [precision, if_neg hne] at hnone
      exact Nat.length_toDigits_pos.ne' hnone
    have hy0 : y.value = 0 := by simp [value, hzero]
    have hnearest := hy.nearest 0 (isFloat64_int (n := 0) (by norm_num))
    rw [hy0, sub_zero, abs_zero, zero_sub, abs_neg] at hnearest
    have hx0 : x.value = 0 := abs_nonpos_iff.1 hnearest
    have hdigits : (x.digits : ℚ) ≠ 0 := by exact_mod_cast hpos.ne'
    have hvalue : x.value ≠ 0 := by
      unfold value
      split_ifs <;> positivity
    exact hvalue hx0
  closest y _ _ := by simp
  sign := hsign

theorem abs_value (x : Number) : |x.value| = x.digits * 10 ^ x.exponent := by
  have hnonneg : (0 : ℚ) ≤ x.digits * 10 ^ x.exponent := by positivity
  unfold value
  split_ifs
  · rw [neg_one_mul, abs_neg, abs_of_nonneg hnonneg]
  · rw [one_mul, abs_of_nonneg hnonneg]

/-- Every integer is a decimal with no more digits than it has itself. -/
theorem exists_decimal (n : Int) : ∃ y : Number, y.value = n ∧ y.digits ≤ n.natAbs := by
  by_cases hn : n = 0
  · exact ⟨{ digits := 0, shortest := Or.inr ⟨rfl, rfl⟩ }, by simp [value, hn], Nat.zero_le _⟩
  obtain ⟨e, m, hm, habs⟩ := Nat.exists_eq_pow_mul_and_not_dvd (Int.natAbs_ne_zero.2 hn) 10 (by decide)
  have hmod : m % 10 ≠ 0 := fun h => hm (Nat.dvd_of_mod_eq_zero h)
  refine ⟨{ negative := decide (n < 0), digits := m, exponent := e, shortest := Or.inl hmod }, ?_, ?_⟩
  · have hcast : (n.natAbs : ℚ) = 10 ^ e * m := by exact_mod_cast habs
    have hmag : (m : ℚ) * 10 ^ (e : Int) = n.natAbs := by rw [zpow_natCast, hcast, mul_comm]
    simp only [value, hmag, decide_eq_true_eq, Nat.cast_natAbs, Int.cast_abs]
    split_ifs with hneg
    · rw [abs_of_neg (by exact_mod_cast hneg)]
      ring
    · rw [abs_of_nonneg (by exact_mod_cast not_lt.1 hneg), one_mul]
  · rw [habs]
    exact Nat.le_mul_of_pos_left _ (by positivity)

/-- An integer value has no digits after the point. -/
theorem exponent_nonneg {x : Number} {n : Int} (h : x.value = n) : 0 ≤ x.exponent := by
  by_contra hneg
  obtain ⟨k, hk⟩ : ∃ k : Nat, x.exponent = -(k + 1 : Nat) := ⟨(-x.exponent - 1).toNat, by omega⟩
  have hdigits : x.digits = n.natAbs * 10 ^ (k + 1) := by
    have habs := abs_value x
    rw [h, hk, zpow_neg, zpow_natCast] at habs
    have : (x.digits : ℚ) = n.natAbs * 10 ^ (k + 1) := by
      rw [Nat.cast_natAbs, Int.cast_abs, habs]
      field_simp
    exact_mod_cast this
  rcases x.shortest with hlast | ⟨-, hzero⟩
  · rw [hdigits, pow_succ, ← mul_assoc, Nat.mul_mod_left] at hlast
    exact hlast rfl
  · omega

/-- A decimal with digits after the point and no more than six of them is not within `2 ^ -21` of an integer. -/
theorem not_close {x : Number} {n : Int} (hn : n ≠ 0) (hdigits : x.digits < 10 ^ 6) (hneg : x.exponent < 0) :
    1 / 2 ^ 21 < |x.value - n| := by
  by_contra hclose
  rw [not_lt] at hclose
  obtain ⟨k, hk⟩ : ∃ k : Nat, x.exponent = -(k + 1 : Nat) := ⟨(-x.exponent - 1).toNat, by omega⟩
  have hpow : (0 : ℚ) < 10 ^ (k + 1) := by positivity
  -- the digits as an integer, which is no multiple of ten
  obtain ⟨d, hd, habs⟩ : ∃ d : Int, x.value * 10 ^ (k + 1) = d ∧ d.natAbs = x.digits := by
    refine ⟨if x.negative then -x.digits else x.digits, ?_, by split_ifs <;> simp⟩
    rw [value, hk, zpow_neg, zpow_natCast]
    split_ifs <;> push_cast <;> field_simp
  have hne : d - n * 10 ^ (k + 1) ≠ 0 := by
    intro hzero
    have hlast : x.digits % 10 ≠ 0 := x.shortest.resolve_right fun h => by omega
    have hmul : d = n * 10 ^ k * 10 := by rw [mul_assoc, ← pow_succ]; omega
    omega
  have hfar : 1 ≤ |x.value - n| * 10 ^ (k + 1) := by
    have hcast : (x.value - n) * 10 ^ (k + 1) = (d - n * 10 ^ (k + 1) : Int) := by
      push_cast
      rw [sub_mul, hd]
    rw [← abs_of_pos hpow, ← abs_mul, hcast]
    exact_mod_cast Int.one_le_abs hne
  have hlarge : (2 : ℚ) ^ 21 ≤ 10 ^ (k + 1) := by
    have := mul_le_mul_of_nonneg_right hclose hpow.le
    have htwo : (0 : ℚ) < 2 ^ 21 := by positivity
    rw [div_mul_eq_mul_div, one_mul] at this
    have := hfar.trans this
    rwa [le_div_iff₀ htwo, one_mul] at this
  -- so many digits are needed
  have hone : (1 : ℚ) ≤ |(n : ℚ)| := by exact_mod_cast Int.one_le_abs hn
  have hmag : 1 - 1 / 2 ^ 21 ≤ |x.value| := by
    have := abs_sub_abs_le_abs_sub (n : ℚ) x.value
    rw [abs_sub_comm] at this
    linarith
  have hcount : (x.digits : ℚ) = |x.value| * 10 ^ (k + 1) := by
    rw [← abs_of_pos hpow, ← abs_mul, hd, ← habs, Nat.cast_natAbs, Int.cast_abs]
  have hbound : (x.digits : ℚ) < 10 ^ 6 := by exact_mod_cast hdigits
  have : (1 - 1 / 2 ^ 21 : ℚ) * 2 ^ 21 ≤ |x.value| * 10 ^ (k + 1) :=
    mul_le_mul hmag hlarge (by positivity) (abs_nonneg _)
  rw [← hcount] at this
  norm_num at this hbound
  linarith

/-- Below a million an integer is its own shortest decimal. -/
theorem Shortest.value_eq {x : Number} {n : Int} (h : x.Shortest n) (hn : |n| < 10 ^ 6) : x.value = n := by
  have hclose := h.reads.close hn
  obtain ⟨y, hy, hle⟩ := exists_decimal n
  have hfewest := h.fewest y (hy.symm ▸ ReadsAs.refl h.reads.finite)
  by_cases hzero : n = 0
  · have hnone : x.digits = 0 := by
      have hy0 : y.precision = 0 := by simp [precision, show y.digits = 0 by simpa [hzero] using hle]
      rw [hy0, Nat.le_zero, precision] at hfewest
      by_contra hne
      rw [if_neg hne] at hfewest
      exact Nat.length_toDigits_pos.ne' hfewest
    simp [value, hnone, hzero]
  · have hdigits : x.digits < 10 ^ 6 := by
      refine (precision_le_iff (by decide)).1 (hfewest.trans ((precision_le_iff (by decide)).2 ?_))
      rw [abs_lt] at hn
      omega
    have hnonneg : 0 ≤ x.exponent := by
      by_contra hneg
      exact absurd hclose (not_le.2 (not_close hzero hdigits (not_le.1 hneg)))
    obtain ⟨z, hz⟩ : ∃ z : Int, x.value = z := by
      obtain ⟨e, he⟩ := Int.eq_ofNat_of_zero_le hnonneg
      refine ⟨(if x.negative then -1 else 1) * (x.digits * 10 ^ e), ?_⟩
      rw [value, he, zpow_natCast]
      push_cast
      rfl
    rw [hz] at hclose ⊢
    have hlt : |((z - n : Int) : ℚ)| < 1 := by
      push_cast
      exact hclose.trans_lt (by norm_num)
    have : |z - n| < 1 := by exact_mod_cast hlt
    rw [sub_eq_zero.1 (Int.abs_lt_one_iff.1 this)]

/-! ## Texts -/

theorem text_of_value {x : Number} {n : Int} (hvalue : x.value = n) (hsign : x.negative = decide (n < 0))
    (hn : |n| < 10 ^ 6) : x.text = toString n := by
  obtain ⟨k, hk⟩ := Int.eq_ofNat_of_zero_le (exponent_nonneg hvalue)
  have habs : n.natAbs = x.digits * 10 ^ k := by
    have := abs_value x
    rw [hvalue, hk, zpow_natCast, ← Int.cast_abs, ← Nat.cast_natAbs] at this
    exact_mod_cast this
  have hnat : n.natAbs < 10 ^ 6 := by
    rw [abs_lt] at hn
    omega
  have hstring : toString n = (if x.negative then "-" else "") ++ String.ofList (Nat.toDigits 10 n.natAbs) := by
    simp only [toString_int, hsign, decide_eq_true_eq]
  rw [hstring]
  by_cases hzero : x.digits = 0
  · simp [text, habs, hzero]
  · have hpos : 0 < x.digits := Nat.pos_of_ne_zero hzero
    have hlength : (Nat.toDigits 10 x.digits).length + k ≤ 6 := by
      have := (Nat.length_toDigits_le_iff (b := 10) (k := 6) (by decide) (by decide)).2 hnat
      rwa [habs, toDigits_mul_pow hpos, List.length_append, List.length_replicate] at this
    have hone := Nat.length_toDigits_pos (b := 10) (n := x.digits)
    have hplain : ¬ (((Nat.toDigits 10 x.digits).length : Int) + x.exponent - 1 < -4 ∨
        6 ≤ ((Nat.toDigits 10 x.digits).length : Int) + x.exponent - 1) := by omega
    have hpoint : ¬ ((Nat.toDigits 10 x.digits).length : Int) + x.exponent ≤ 0 := by omega
    have hwhole : ((Nat.toDigits 10 x.digits).length : Int) ≤ (Nat.toDigits 10 x.digits).length + x.exponent := by omega
    have hzeros :
        (((Nat.toDigits 10 x.digits).length : Int) + x.exponent - (Nat.toDigits 10 x.digits).length).toNat = k := by
      omega
    rw [text, if_neg hzero, if_neg hplain, if_neg hpoint, if_pos hwhole, hzeros, habs, toDigits_mul_pow hpos,
      String.ofList_append]
    rfl

/-- From a million on the text has an exponent. -/
theorem exponent_mem_text {x : Number} (hbig : 10 ^ 6 ≤ |x.value|) : 'e' ∈ x.text.toList := by
  have hzero : x.digits ≠ 0 := by
    intro hzero
    rw [abs_value, hzero] at hbig
    norm_num at hbig
  have hexp : 6 ≤ ((Nat.toDigits 10 x.digits).length : Int) + x.exponent - 1 := by
    have hdigits : (x.digits : ℚ) < 10 ^ (Nat.toDigits 10 x.digits).length := by
      exact_mod_cast (Nat.length_toDigits_le_iff (by decide) Nat.length_toDigits_pos).1 (le_refl _)
    have hlt : (10 : ℚ) ^ (6 : Int) < 10 ^ (((Nat.toDigits 10 x.digits).length : Int) + x.exponent) := by
      rw [zpow_add₀ (by norm_num), zpow_natCast]
      refine lt_of_le_of_lt ?_ (mul_lt_mul_of_pos_right hdigits (by positivity))
      rw [← abs_value]
      exact_mod_cast hbig
    have := (zpow_lt_zpow_iff_right₀ (by norm_num : (1 : ℚ) < 10)).1 hlt
    omega
  rw [text, if_neg hzero, if_pos (Or.inr hexp)]
  simp only [String.toList_append, List.mem_append]
  exact Or.inr (Or.inl (Or.inl (Or.inl (Or.inr (by decide)))))

/-- With one digit there is nothing between `900000` and a million. -/
theorem abs_value_le_of_digit {x : Number} (hdigits : x.digits < 10) (hsmall : |x.value| < 10 ^ 6) :
    |x.value| ≤ 900000 := by
  rw [abs_value] at hsmall ⊢
  have hle : (x.digits : ℚ) ≤ 9 := by exact_mod_cast Nat.le_of_lt_succ hdigits
  by_cases hzero : x.digits = 0
  · rw [hzero]
    norm_num
  by_cases hexp : x.exponent ≤ 5
  · have hpow : (10 : ℚ) ^ x.exponent ≤ 10 ^ (5 : Int) := zpow_le_zpow_right₀ (by norm_num) hexp
    calc (x.digits : ℚ) * 10 ^ x.exponent ≤ 9 * 10 ^ (5 : Int) := mul_le_mul hle hpow (by positivity) (by norm_num)
      _ = 900000 := by norm_num
  · have hpow : (10 : ℚ) ^ (6 : Int) ≤ 10 ^ x.exponent := zpow_le_zpow_right₀ (by norm_num) (by omega)
    have hone : (1 : ℚ) ≤ x.digits := by exact_mod_cast Nat.one_le_iff_ne_zero.2 hzero
    have : (1 : ℚ) * 10 ^ (6 : Int) ≤ x.digits * 10 ^ x.exponent := mul_le_mul hone hpow (by positivity) (by positivity)
    norm_num at this hsmall
    linarith

/-- The shortest decimal of a large integer is as large. -/
theorem Shortest.le_value {x : Number} {n : Int} (h : x.Shortest n) (hn : 10 ^ 6 ≤ |n|) : 10 ^ 6 ≤ |x.value| := by
  by_contra hsmall
  rw [not_le] at hsmall
  have hfloat : ∀ m : Int, |m| ≤ 10 ^ 6 → IsFloat64 m := fun m hm => isFloat64_int (hm.trans_lt (by norm_num))
  obtain ⟨hlow, hhigh⟩ := abs_lt.1 hsmall
  -- a million is nearer than anything beyond it
  have hends : n = 10 ^ 6 ∨ n = -10 ^ 6 := by
    have hup := h.reads.nearest _ (hfloat (10 ^ 6) (by norm_num))
    have hdown := h.reads.nearest _ (hfloat (-10 ^ 6) (by norm_num))
    push_cast at hup hdown
    rcases le_abs.1 hn with hpos | hneg
    · have hpos' : (10 ^ 6 : ℚ) ≤ n := by exact_mod_cast hpos
      rw [abs_of_neg (by linarith), abs_of_neg (by linarith)] at hup
      have hle : (n : ℚ) ≤ 10 ^ 6 := by linarith
      exact Or.inl (le_antisymm (by exact_mod_cast hle) hpos)
    · have hneg' : (10 ^ 6 : ℚ) ≤ -n := by exact_mod_cast hneg
      rw [abs_of_pos (by linarith), abs_of_pos (by linarith)] at hdown
      have hle : (-10 ^ 6 : ℚ) ≤ n := by linarith
      exact Or.inr (le_antisymm (by linarith) (by exact_mod_cast hle))
  -- and a million has one digit
  have hdigits : x.digits < 10 := by
    let y : Number := { negative := decide (n < 0), digits := 1, exponent := 6, shortest := Or.inl (by decide) }
    have hy : y.value = n := by rcases hends with rfl | rfl <;> norm_num [y, value]
    have hfewest := h.fewest y (hy.symm ▸ ReadsAs.refl h.reads.finite)
    exact (precision_le_iff one_pos).1 (hfewest.trans ((precision_le_iff one_pos).2 (by norm_num [y])))
  obtain ⟨hlow', hhigh'⟩ := abs_le.1 (abs_value_le_of_digit hdigits hsmall)
  rcases hends with rfl | rfl
  · have hnear := h.reads.nearest _ (hfloat 900000 (by norm_num))
    push_cast at hnear
    rw [abs_of_neg (by linarith), abs_of_nonpos (by linarith)] at hnear
    linarith
  · have hnear := h.reads.nearest _ (hfloat (-900000) (by norm_num))
    push_cast at hnear
    rw [abs_of_pos (by linarith), abs_of_nonneg (by linarith)] at hnear
    linarith

theorem Shortest.text_small {x : Number} {n : Int} (h : x.Shortest n) (hn : |n| < 10 ^ 6) : x.text = toString n := by
  refine text_of_value (h.value_eq hn) ?_ hn
  rw [h.sign]
  exact decide_eq_decide.2 (by exact_mod_cast Iff.rfl)

theorem Shortest.text_big {x : Number} {n : Int} (h : x.Shortest n) (hn : 10 ^ 6 ≤ |n|) : 'e' ∈ x.text.toList :=
  exponent_mem_text (h.le_value hn)

theorem Shortest.text_ne {x : Number} {n : Int} (h : x.Shortest n) (hn : 10 ^ 6 ≤ |n|) : x.text ≠ toString n := by
  intro heq
  have hmem := h.text_big hn
  rw [heq, toString_int, String.toList_append, String.toList_ofList, List.mem_append] at hmem
  rcases hmem with hmem | hmem
  · split_ifs at hmem
    · exact absurd hmem (by decide)
    · exact absurd hmem (by decide)
  · exact absurd (Nat.isDigit_of_mem_toDigits (by decide) (by decide) hmem) (by decide)

end Number

/-! ## Reading a text back -/

theorem parseDigits_append (cs cs' : List Char) (n : Nat) :
    parseDigits (cs ++ cs') n = parseDigits cs n >>= parseDigits cs' := by
  induction cs generalizing n with
  | nil => rfl
  | cons c rest ih =>
    simp only [List.cons_append, parseDigits]
    split_ifs
    · exact ih _
    · rfl
    · rfl

theorem parseDigits_toDigits {n : Nat} (hn : n < 2 ^ 32) : parseDigits (Nat.toDigits 10 n) 0 = .ok n := by
  have hlast : ∀ m d : Nat, d < 10 → 10 * m + d < 2 ^ 32 → parseDigits [d.digitChar] m = .ok (10 * m + d) := by
    intro m d hd hlt
    have hvalue : d.digitChar.toNat - '0'.toNat = d := Nat.toNat_digitChar_sub_48_of_lt_ten hd
    have hdigit : d.digitChar.isDigit = true := by rw [Nat.isDigit_digitChar, decide_eq_true hd]
    rw [parseDigits, if_neg (not_not.2 hdigit), hvalue, if_pos hlt, parseDigits]
  induction n using Nat.strongRecOn with
  | ind n ih =>
    rw [Nat.toDigits_eq_if (by decide)]
    split_ifs with hsmall
    · simpa using hlast 0 n hsmall (by omega)
    · rw [parseDigits_append, ih (n / 10) (by omega) (by omega)]
      refine (hlast (n / 10) (n % 10) (by omega) (by omega)).trans ?_
      rw [Nat.div_add_mod]

theorem isDigit_of_parseDigits {cs : List Char} {n m : Nat} (h : parseDigits cs n = .ok m) :
    ∀ c ∈ cs, c.isDigit = true := by
  induction cs generalizing n with
  | nil => exact fun c hc => absurd hc List.not_mem_nil
  | cons c rest ih =>
    simp only [parseDigits] at h
    split_ifs at h with hdigit
    intro c' hc'
    rcases List.mem_cons.1 hc' with rfl | hc'
    · exact hdigit
    · exact ih h c' hc'

/-- A number is written with digits and a sign. -/
theorem parseInt32_chars {s : String} {n : Int} (h : parseInt32 s = .ok n) :
    ∀ c ∈ s.toList, c.isDigit = true ∨ c = '-' ∨ c = '+' := by
  have hdigits : ∀ {ds : List Char} {m : Nat}, parseUint32 ds = .ok m → ∀ c ∈ ds, c.isDigit = true := by
    intro ds m hds
    unfold parseUint32 at hds
    split_ifs at hds
    exact isDigit_of_parseDigits hds
  unfold parseInt32 at h
  intro c hc
  split at h
  rename_i negative ds hsplit
  cases hparse : parseUint32 ds with
  | error err =>
    rw [hparse] at h
    cases h
  | ok m =>
    split at hsplit
    · rename_i heq
      cases hsplit
      rw [heq] at hc
      exact (List.mem_cons.1 hc).elim (fun h => Or.inr (Or.inl h)) fun hc => Or.inl (hdigits hparse c hc)
    · rename_i heq
      cases hsplit
      rw [heq] at hc
      exact (List.mem_cons.1 hc).elim (fun h => Or.inr (Or.inr h)) fun hc => Or.inl (hdigits hparse c hc)
    · cases hsplit
      exact Or.inl (hdigits hparse c hc)

theorem Number.Shortest.parseInt32_big {x : Number} {n : Int} (h : x.Shortest n) (hn : 10 ^ 6 ≤ |n|) :
    ∃ err, parseInt32 x.text = .error err := by
  cases hparse : parseInt32 x.text with
  | error err => exact ⟨err, rfl⟩
  | ok m => exact absurd (parseInt32_chars hparse 'e' (h.text_big hn)) (by decide)

theorem parseInt32_toString {n : Int} (hlow : -2 ^ 31 ≤ n) (hhigh : n < 2 ^ 31) : parseInt32 (toString n) = .ok n := by
  have huint : parseUint32 (Nat.toDigits 10 n.natAbs) = .ok n.natAbs := by
    rw [parseUint32, if_neg Nat.toDigits_ne_nil, parseDigits_toDigits (by omega)]
  by_cases hneg : n < 0
  · have hlist : (toString n).toList = '-' :: Nat.toDigits 10 n.natAbs := by
      rw [toString_int, if_pos hneg]
      simp
    simp only [parseInt32, hlist, huint]
    rw [if_pos trivial, if_pos (by omega), show -(n.natAbs : Int) = n by omega]
  · have hlist : (toString n).toList = Nat.toDigits 10 n.natAbs := by
      rw [toString_int, if_neg hneg]
      simp
    have hsigned : ∀ c ds, ¬ c.isDigit = true → Nat.toDigits 10 n.natAbs ≠ c :: ds := by
      intro c ds hc heq
      exact hc (Nat.isDigit_of_mem_toDigits (by decide) (by decide) (heq ▸ List.mem_cons_self ..))
    rw [parseInt32, hlist]
    split
    rename_i negative ds hsplit
    split at hsplit
    · rename_i heq
      exact absurd heq (hsigned _ _ (by decide))
    · rename_i heq
      exact absurd heq (hsigned _ _ (by decide))
    · cases hsplit
      rw [huint]
      simp only [Bool.false_eq_true, if_false]
      rw [if_pos (by omega), show (n.natAbs : Int) = n by omega]

end Golang
