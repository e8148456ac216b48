import Mathlib.Data.Rat.Floor
import Mathlib.Tactic.Linarith
import Mathlib.Tactic.NormNum

/-!
# The `math` package

A `float64` is a rational, an infinity or no number at all; the results of the arithmetic are exact, but
they overflow.  Where values are finite throughout, as in the ratings, they are rationals from the start.
The transcendental functions of `math` are the parameters `FloatMath`; its fields state what their
documentation promises of them and the scores rely on.
-/

namespace GeoDuels

/-- The functions of the `math` package that are no rational functions, at finite arguments. -/
structure FloatMath where
  sin : ℚ → ℚ
  cos : ℚ → ℚ
  atan2 : ℚ → ℚ → ℚ
  sqrt : ℚ → ℚ
  exp : ℚ → ℚ
  pow : ℚ → ℚ → ℚ
  exp_nonneg : ∀ x, 0 ≤ exp x
  exp_le_one : ∀ x, x ≤ 0 → exp x ≤ 1
  exp_le_of_le : ∀ x, x ≤ -13 → exp x ≤ 1 / 100000

/-- `math.Pi`, to the digits the constant is declared with. -/
def mathPi : ℚ :=
  314159265358979323846264338327950288419716939937510582097494459 / 10 ^ 62

/-- `math.Ln10`, to the digits the constant is declared with. -/
def mathLn10 : ℚ :=
  230258509299404568401799145468436420760110148862877297603332790 / 10 ^ 62

/-- `math.Round`: to the nearest integer, half away from zero. -/
def mathRound (x : ℚ) : ℤ := if 0 ≤ x then ⌊x + 1 / 2⌋ else -⌊-x + 1 / 2⌋

theorem mathRound_nonneg {x : ℚ} (h : 0 ≤ x) : 0 ≤ mathRound x := by
  rw [mathRound, if_pos h]
  exact Int.floor_nonneg.2 (by linarith)

theorem mathRound_zero : mathRound 0 = 0 := by
  rw [mathRound, if_pos le_rfl, Int.floor_eq_iff]
  norm_num

/-! ## Floating-point numbers -/

/-- A `float64`; zero has no sign. -/
inductive Float64 where
  | fin (x : ℚ)
  | inf (negative : Bool)
  | nan
  deriving DecidableEq

/-- `math.MaxFloat64`. -/
def maxFloat64 : ℚ := (2 ^ 53 - 1) * 2 ^ 971

/-- `math.MinInt64`. -/
def minInt64 : ℤ := -2 ^ 63

namespace Float64

instance : Coe ℚ Float64 := ⟨fin⟩

instance (n : ℕ) : OfNat Float64 n := ⟨fin n⟩

/-- A result, which can overflow. -/
def of (x : ℚ) : Float64 :=
  if maxFloat64 < x then inf false else if x < -maxFloat64 then inf true else fin x

def neg : Float64 → Float64
  | fin x => fin (-x)
  | inf s => inf !s
  | nan => nan

def add : Float64 → Float64 → Float64
  | nan, _ | _, nan => nan
  | fin x, fin y => of (x + y)
  | inf s, inf t => if s = t then inf s else nan
  | inf s, fin _ | fin _, inf s => inf s

def mul : Float64 → Float64 → Float64
  | nan, _ | _, nan => nan
  | fin x, fin y => of (x * y)
  | inf s, inf t => inf (s != t)
  | inf s, fin x | fin x, inf s => if x = 0 then nan else inf (s != decide (x < 0))

def div : Float64 → Float64 → Float64
  | nan, _ | _, nan => nan
  | fin x, fin y => if y ≠ 0 then of (x / y) else if x = 0 then nan else inf (x < 0)
  | inf _, inf _ => nan
  | inf s, fin y => inf (s != decide (y < 0))
  | fin _, inf _ => fin 0

instance : Neg Float64 := ⟨neg⟩
instance : Add Float64 := ⟨add⟩
instance : Sub Float64 := ⟨fun x y => x + -y⟩
instance : Mul Float64 := ⟨mul⟩
instance : Div Float64 := ⟨div⟩

/-- `x <= y`, which no comparison with a NaN is. -/
def le : Float64 → Float64 → Bool
  | nan, _ | _, nan => false
  | fin x, fin y => x ≤ y
  | inf true, _ | _, inf false => true
  | inf false, _ | _, inf true => false

instance : LE Float64 := ⟨fun x y => x.le y = true⟩
instance : LT Float64 := ⟨fun x y => x ≤ y ∧ ¬ y ≤ x⟩

instance (x y : Float64) : Decidable (x ≤ y) := inferInstanceAs (Decidable (x.le y = true))
instance (x y : Float64) : Decidable (x < y) := inferInstanceAs (Decidable (x ≤ y ∧ ¬ y ≤ x))

/-- The conversion to `int`; what is no `int64` becomes the smallest one, as on amd64. -/
def toInt : Float64 → ℤ
  | fin x =>
      let n := if 0 ≤ x then ⌊x⌋ else ⌈x⌉
      if minInt64 ≤ n ∧ n < -minInt64 then n else minInt64
  | inf _ | nan => minInt64

/-! ### Finite values -/

theorem of_eq {x : ℚ} (h : |x| ≤ 1000000) : of x = fin x := by
  obtain ⟨hlow, hhigh⟩ := abs_le.1 h
  have hmax : (1000000 : ℚ) ≤ maxFloat64 := by
    calc (1000000 : ℚ) ≤ 2 ^ 53 - 1 := by norm_num
      _ ≤ maxFloat64 := le_mul_of_one_le_right (by norm_num) (one_le_pow₀ (by norm_num))
  rw [of, if_neg (by linarith), if_neg (by linarith)]

@[simp] theorem fin_add_fin (x y : ℚ) : fin x + fin y = of (x + y) := rfl
@[simp] theorem fin_mul_fin (x y : ℚ) : fin x * fin y = of (x * y) := rfl
@[simp] theorem neg_fin (x : ℚ) : -fin x = fin (-x) := rfl
@[simp] theorem fin_le_fin {x y : ℚ} : fin x ≤ fin y ↔ x ≤ y := decide_eq_true_iff

theorem fin_div_fin (x : ℚ) {y : ℚ} (h : y ≠ 0) : fin x / fin y = of (x / y) := if_pos h

theorem fin_lt_fin {x y : ℚ} : fin x < fin y ↔ x < y := by
  show fin x ≤ fin y ∧ ¬ fin y ≤ fin x ↔ x < y
  rw [fin_le_fin, fin_le_fin]
  exact lt_iff_le_not_ge.symm

theorem toInt_floor {x : ℚ} (h0 : 0 ≤ x) (h1 : x < 2 ^ 63) : toInt (fin ⌊x⌋) = ⌊x⌋ := by
  have hlow : 0 ≤ ⌊x⌋ := Int.floor_nonneg.2 h0
  have hhigh : ⌊x⌋ < 2 ^ 63 := Int.floor_lt.2 (by exact_mod_cast h1)
  have hcast : (0 : ℚ) ≤ ((⌊x⌋ : ℤ) : ℚ) := by exact_mod_cast hlow
  unfold toInt minInt64
  dsimp only
  rw [if_pos hcast, Int.floor_intCast, if_pos ⟨by omega, by omega⟩]

theorem minInt64_le_toInt (x : Float64) : minInt64 ≤ x.toInt := by
  cases x with
  | fin x =>
      unfold toInt
      dsimp only
      generalize (if 0 ≤ x then ⌊x⌋ else ⌈x⌉) = n
      split_ifs with h
      · exact h.1
      · exact le_rfl
  | inf | nan => exact le_rfl

end Float64

/-! ## The functions at all arguments -/

section Functions

open Float64

variable (F : FloatMath)

def mathSin : Float64 → Float64
  | fin x => fin (F.sin x)
  | inf _ | nan => nan

def mathCos : Float64 → Float64
  | fin x => fin (F.cos x)
  | inf _ | nan => nan

def mathSqrt : Float64 → Float64
  | fin x => if x < 0 then nan else fin (F.sqrt x)
  | inf negative => if negative then nan else inf false
  | nan => nan

def mathAtan2 : Float64 → Float64 → Float64
  | nan, _ | _, nan => nan
  | fin y, fin x => fin (F.atan2 y x)
  | fin y, inf negative => if negative then fin (if y < 0 then -mathPi else mathPi) else fin 0
  | inf s, fin _ => fin (if s then -mathPi / 2 else mathPi / 2)
  | inf s, inf negative =>
      let angle := if negative then 3 * mathPi / 4 else mathPi / 4
      fin (if s then -angle else angle)

def mathExp : Float64 → Float64
  | fin x => of (F.exp x)
  | inf negative => if negative then fin 0 else inf false
  | nan => nan

def mathFloor : Float64 → Float64
  | fin x => fin ⌊x⌋
  | inf s => inf s
  | nan => nan

def mathMax (x y : Float64) : Float64 :=
  if x = inf false ∨ y = inf false then inf false
  else if x = nan ∨ y = nan then nan
  else if x > y then x else y

def mathMin (x y : Float64) : Float64 :=
  if x = inf true ∨ y = inf true then inf true
  else if x = nan ∨ y = nan then nan
  else if x < y then x else y

end Functions

theorem mathMax_fin (x y : ℚ) : mathMax (.fin x) (.fin y) = .fin (max x y) := by
  unfold mathMax
  simp only [reduceCtorEq, or_self, if_false, gt_iff_lt, Float64.fin_lt_fin]
  split_ifs with h
  · rw [max_eq_left h.le]
  · rw [max_eq_right (not_lt.1 h)]

theorem mathMin_fin (x y : ℚ) : mathMin (.fin x) (.fin y) = .fin (min x y) := by
  unfold mathMin
  simp only [reduceCtorEq, or_self, if_false, Float64.fin_lt_fin]
  split_ifs with h
  · rw [min_eq_left h.le]
  · rw [min_eq_right (not_lt.1 h)]

/-- A value that is cut off at `x`. -/
theorem mathMin_fin_right (d : Float64) (x : ℚ) :
    mathMin d (.fin x) = if d > .fin x then .fin x else d := by
  cases d with
  | fin y =>
      rw [mathMin_fin]
      by_cases h : x < y
      · rw [if_pos (Float64.fin_lt_fin.2 h), min_eq_right h.le]
      · rw [if_neg (mt Float64.fin_lt_fin.1 h), min_eq_left (not_lt.1 h)]
  | inf s => cases s <;> rfl
  | nan => rfl

/-- A `FloatMath` with the values of the real functions where the distance of two equal points and
the score of a missing guess need them, and constants elsewhere. -/
def FloatMath.coarse : FloatMath where
  sin x := if x = 0 then 0 else 1
  cos x := if x = 0 then 1 else 0
  atan2 y _ := if y = 0 then 0 else mathPi / 2
  sqrt x := x
  exp x := if x ≤ -13 then 1 / 100000 else 1
  pow _ _ := 1
  exp_nonneg x := by split_ifs <;> norm_num
  exp_le_one x _ := by split_ifs <;> norm_num
  exp_le_of_le x hx := by rw [if_pos hx]

end GeoDuels
