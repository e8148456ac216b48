import GeoDuels.GoMath

/-!
# Distances and scores

`pkg/gameplay`: the great-circle distance of two points and the score of a distance.  The distance can be
no number, as that of a point which is none or that of antipodes; its score is then the smallest `int`.
-/

namespace GeoDuels.Gameplay

def maxScore : ℤ := 5000
def earthRadiusKm : ℚ := 6371
def maxDistanceKm : ℚ := earthRadiusKm * mathPi
def perfectGuess : ℚ := 15 / 100
def scoreDecayKm : ℚ := 149452 / 100
def scoreFloor : ℚ := 33 / 1000

variable (F : FloatMath)

def haversineKm (lat1 lon1 lat2 lon2 : Float64) : Float64 :=
  let latRad1 := lat1 * mathPi / 180
  let latRad2 := lat2 * mathPi / 180
  let dLat := (lat2 - lat1) * mathPi / 180
  let dLon := (lon2 - lon1) * mathPi / 180
  let a := mathSin F (dLat / 2) * mathSin F (dLat / 2) +
    mathCos F latRad1 * mathCos F latRad2 * mathSin F (dLon / 2) * mathSin F (dLon / 2)
  let c := 2 * mathAtan2 F (mathSqrt F a) (mathSqrt F (1 - a))
  earthRadiusKm * c

def clampDistanceKm (distanceKm : Float64) : Float64 := mathMin maxDistanceKm (mathMax 0 distanceKm)

def roundScore (distanceKm : Float64) : ℤ :=
  let clamped := clampDistanceKm distanceKm
  if clamped ≤ perfectGuess then maxScore
  else (mathFloor ((maxScore : ℚ) * mathExp F (-(clamped / scoreDecayKm)) + scoreFloor)).toInt

theorem maxDistanceKm_nonneg : 0 ≤ maxDistanceKm := by
  norm_num [maxDistanceKm, earthRadiusKm, mathPi]

theorem maxDistanceKm_le : maxDistanceKm ≤ 20016 := by
  norm_num [maxDistanceKm, earthRadiusKm, mathPi]

/-- The distance of a number is clamped to a finite one. -/
theorem exists_clampDistanceKm {d : Float64} (h : d ≠ .nan) :
    ∃ x, 0 ≤ x ∧ x ≤ maxDistanceKm ∧ clampDistanceKm d = .fin x := by
  cases d with
  | fin x =>
      refine ⟨min maxDistanceKm (max 0 x), le_min maxDistanceKm_nonneg (le_max_left _ _), min_le_left _ _, ?_⟩
      show mathMin (.fin maxDistanceKm) (mathMax (.fin ((0 : ℕ) : ℚ)) (.fin x)) = _
      rw [mathMax_fin, mathMin_fin, Nat.cast_zero]
  | inf s =>
      cases s with
      | false => exact ⟨maxDistanceKm, maxDistanceKm_nonneg, le_rfl, rfl⟩
      | true =>
          refine ⟨0, le_rfl, maxDistanceKm_nonneg, ?_⟩
          show mathMin (.fin maxDistanceKm) (.fin ((0 : ℕ) : ℚ)) = _
          rw [mathMin_fin, Nat.cast_zero, min_eq_right maxDistanceKm_nonneg]
  | nan => exact absurd rfl h

/-- The score of a clamped distance. -/
theorem roundScore_eq {d : Float64} {x : ℚ} (h0 : 0 ≤ x) (h1 : x ≤ maxDistanceKm)
    (h : clampDistanceKm d = .fin x) : roundScore F d =
      if x ≤ perfectGuess then maxScore
      else ⌊(maxScore : ℚ) * F.exp (-(x / scoreDecayKm)) + scoreFloor⌋ := by
  have hdecay : 0 ≤ x / scoreDecayKm := div_nonneg h0 (by norm_num [scoreDecayKm])
  have hfar : x / scoreDecayKm ≤ 20016 :=
    (div_le_self h0 (by norm_num [scoreDecayKm])).trans (h1.trans maxDistanceKm_le)
  have hexp0 := F.exp_nonneg (-(x / scoreDecayKm))
  have hexp1 := F.exp_le_one _ (neg_nonpos.2 hdecay)
  have hscore0 : 0 ≤ (maxScore : ℚ) * F.exp (-(x / scoreDecayKm)) :=
    mul_nonneg (by norm_num [maxScore]) hexp0
  have hscore1 : (maxScore : ℚ) * F.exp (-(x / scoreDecayKm)) ≤ 5000 := by
    norm_num [maxScore]
    linarith
  have hfloor0 : (0 : ℚ) ≤ scoreFloor := by norm_num [scoreFloor]
  have hfloor1 : scoreFloor ≤ 1 := by norm_num [scoreFloor]
  unfold roundScore
  dsimp only
  rw [h]
  by_cases hperfect : x ≤ perfectGuess
  · rw [if_pos hperfect, if_pos (Float64.fin_le_fin.2 hperfect)]
  · rw [if_neg hperfect, if_neg (mt Float64.fin_le_fin.1 hperfect),
      Float64.fin_div_fin x (by norm_num [scoreDecayKm]),
      Float64.of_eq (by rw [abs_of_nonneg hdecay]; linarith), Float64.neg_fin]
    show (mathFloor (.fin (maxScore : ℚ) * Float64.of (F.exp (-(x / scoreDecayKm))) + .fin scoreFloor)).toInt = _
    rw [Float64.of_eq (by rw [abs_of_nonneg hexp0]; linarith), Float64.fin_mul_fin,
      Float64.of_eq (by rw [abs_of_nonneg hscore0]; linarith), Float64.fin_add_fin,
      Float64.of_eq (by rw [abs_of_nonneg (by linarith)]; linarith)]
    exact Float64.toInt_floor (by linarith) (by linarith)

theorem roundScore_nan : roundScore F .nan = minInt64 := rfl

theorem minInt64_le_roundScore (d : Float64) : minInt64 ≤ roundScore F d := by
  unfold roundScore
  dsimp only
  split_ifs
  · decide
  · exact Float64.minInt64_le_toInt _

/-- A distance that is a number, and no other, has a score that is not negative. -/
theorem roundScore_nonneg_iff (d : Float64) : 0 ≤ roundScore F d ↔ d ≠ .nan := by
  constructor
  · rintro h rfl
    rw [roundScore_nan] at h
    exact absurd h (by decide)
  · intro h
    obtain ⟨x, h0, h1, hx⟩ := exists_clampDistanceKm h
    rw [roundScore_eq F h0 h1 hx]
    split_ifs
    · decide
    · have hexp := F.exp_nonneg (-(x / scoreDecayKm))
      refine Int.floor_nonneg.2 ?_
      norm_num [maxScore, scoreFloor]
      linarith

/-- No score exceeds `maxScore`, whatever the distance. -/
theorem roundScore_le (d : Float64) : roundScore F d ≤ maxScore := by
  by_cases h : d = .nan
  · rw [h, roundScore_nan]
    decide
  · obtain ⟨x, h0, h1, hx⟩ := exists_clampDistanceKm h
    rw [roundScore_eq F h0 h1 hx]
    split_ifs
    · exact le_rfl
    · have hexp := F.exp_le_one (-(x / scoreDecayKm))
        (neg_nonpos.2 (div_nonneg h0 (by norm_num [scoreDecayKm])))
      rw [← Int.lt_add_one_iff, Int.floor_lt]
      norm_num [maxScore, scoreFloor]
      linarith

/-- A player without a guess scores nothing. -/
theorem roundScore_maxDistanceKm : roundScore F maxDistanceKm = 0 := by
  have hclamp : clampDistanceKm maxDistanceKm = .fin maxDistanceKm := by
    show mathMin (.fin maxDistanceKm) (mathMax (.fin ((0 : ℕ) : ℚ)) (.fin maxDistanceKm)) = _
    rw [mathMax_fin, mathMin_fin, Nat.cast_zero, max_eq_right maxDistanceKm_nonneg, min_self]
  have hfar : ¬ maxDistanceKm ≤ perfectGuess := by
    norm_num [maxDistanceKm, earthRadiusKm, mathPi, perfectGuess]
  have hexp : F.exp (-(maxDistanceKm / scoreDecayKm)) ≤ 1 / 100000 := by
    refine F.exp_le_of_le _ ?_
    norm_num [maxDistanceKm, earthRadiusKm, mathPi, scoreDecayKm]
  have hnonneg := F.exp_nonneg (-(maxDistanceKm / scoreDecayKm))
  rw [roundScore_eq F maxDistanceKm_nonneg le_rfl hclamp, if_neg hfar, Int.floor_eq_iff]
  norm_num [maxScore, scoreFloor]
  constructor <;> linarith

end GeoDuels.Gameplay
