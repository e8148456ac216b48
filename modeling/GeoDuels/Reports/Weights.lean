import GeoDuels.Reports.Store
import Mathlib.Algebra.BigOperators.Group.List.Basic
import Mathlib.Algebra.Order.Field.Basic
import Mathlib.Tactic.Linarith
import Mathlib.Tactic.NormNum
import Mathlib.Analysis.SpecialFunctions.Pow.Real

/-!
# The weight of a reporter

`CreateModerationReport` weighs a report with `moderationReporterWeight`;
`updateReporterReputationForCase` writes the weight again with the formula of
`moderationReporterWeightSQL`.  The formulas of the score of a case stand here as well.
-/

namespace GeoDuels.Reports

open Moderation (CaseID Outcome)

variable {K : Type*} [Field K] [LinearOrder K] (P : Power K)

/-- Twenty-four hours. -/
def day : ℕ := 24 * 60 * Time.minute

/-! ## `moderationReporterWeight` -/

structure ReporterReputation where
  confirmed : ℕ := 0
  dismissed : ℕ := 0
  inconclusive : ℕ := 0
  abusive : ℕ := 0

structure ReporterVolume where
  last24h : ℕ
  last7d : ℕ

def reporterReputationMultiplier (reputation : ReporterReputation) : K :=
  if reputation.abusive ≥ 3 then 1 / 10
  else if reputation.abusive > 0 then 1 / 4
  else
    let reviewed := reputation.confirmed + reputation.dismissed
    if reviewed < 5 then 1
    else
      let accuracy : K := reputation.confirmed / reviewed
      if reputation.confirmed ≥ 10 ∧ accuracy ≥ 85 / 100 then 5 / 4
      else if accuracy ≥ 65 / 100 then 1
      else if accuracy ≥ 4 / 10 then 1 / 2
      else 15 / 100

def smoothReportVolumeDecay (count softLimit power : K) : K :=
  if count ≤ 0 ∨ softLimit ≤ 0 ∨ power ≤ 0 then 1
  else 1 / (1 + P.pow (count / softLimit) power)

def reporterVolumeMultiplier (volume : ReporterVolume) : K :=
  let daily := smoothReportVolumeDecay P volume.last24h 6 (14 / 10)
  let weeklyAverage : K := volume.last7d / 7
  let weekly := smoothReportVolumeDecay P weeklyAverage 6 (14 / 10)
  if daily < weekly then daily else weekly

def ageWeight (now createdAt : ℕ) : K :=
  let age : ℤ := now - createdAt
  if age < day then 1 / 4
  else if age < (7 * day : ℕ) then 1 / 2
  else 1

def moderationReporterWeight (now createdAt : ℕ) (reputation : ReporterReputation)
    (volume : ReporterVolume) : K :=
  let weight := ageWeight now createdAt * reporterReputationMultiplier reputation
  let weight := weight * reporterVolumeMultiplier P volume
  if weight < 5 / 100 then 5 / 100
  else if weight > 3 / 2 then 3 / 2
  else weight

/-! ## `CreateModerationReport` -/

/-- `moderationReporterVolume`. -/
def DB.moderationReporterVolume (db : DB K) (now : ℕ) (reporterUserID : UserID) : ReporterVolume where
  last24h := (db.reports.filter fun r =>
    r.reporterUserID = reporterUserID ∧ (r.createdAt : ℤ) ≥ now - day).length
  last7d := (db.reports.filter fun r =>
    r.reporterUserID = reporterUserID ∧ (r.createdAt : ℤ) ≥ now - (7 * day : ℕ)).length

def DB.reporter? (db : DB K) (userID : UserID) : Option (ReporterRow K) :=
  db.reporters.find? (·.userID = userID)

/-- The reputation as `CreateModerationReport` reads it from the left join. -/
def reputationOf (rep : Option (ReporterRow K)) : ReporterReputation where
  confirmed := (rep.map (·.reportsConfirmed)).getD 0
  dismissed := (rep.map (·.reportsDismissed)).getD 0
  inconclusive := (rep.map (·.reportsInconclusive)).getD 0
  abusive := (rep.map (·.reportsAbusive)).getD 0

/-- Is `muted_until` set and after `now`? -/
def mutedAt (now : ℕ) (rep : Option (ReporterRow K)) : Bool :=
  ((rep.bind (·.mutedUntil)).map fun mutedUntil => decide (now < mutedUntil)).getD false

/-- `reporterWeight` of `CreateModerationReport`. -/
def DB.reporterWeight (db : DB K) (now : ℕ) (reporter : UserRow) : K :=
  let rep := db.reporter? reporter.id
  let weight := moderationReporterWeight P now reporter.createdAt (reputationOf rep)
    (db.moderationReporterVolume now reporter.id)
  if mutedAt now rep then 0 else weight

/-! ## `updateReporterReputationForCase` -/

/-- `moderationReporterWeightSQL`. -/
def moderationReporterWeightSQL (now createdAt : ℕ) (rep : ReporterRow K) : K :=
  let age : K :=
    if (createdAt : ℤ) > now - day then 1 / 4
    else if (createdAt : ℤ) > now - (7 * day : ℕ) then 1 / 2
    else 1
  let reviewed := rep.reportsConfirmed + rep.reportsDismissed
  let accuracy : K := rep.reportsConfirmed / (max 1 reviewed : ℕ)
  let reputation : K :=
    if rep.reportsAbusive ≥ 3 then 1 / 10
    else if rep.reportsAbusive > 0 then 1 / 4
    else if reviewed < 5 then 1
    else if rep.reportsConfirmed ≥ 10 ∧ accuracy ≥ 85 / 100 then 5 / 4
    else if accuracy ≥ 65 / 100 then 1
    else if accuracy ≥ 4 / 10 then 1 / 2
    else 15 / 100
  min (3 / 2) (max (5 / 100) (age * reputation))

/-- `outcome` counts `n` more of the reports of a reporter. -/
def ReporterRow.count (rep : ReporterRow K) (outcome : Outcome) (n : ℕ) : ReporterRow K :=
  match outcome with
  | .confirmed => { rep with reportsConfirmed := rep.reportsConfirmed + n }
  | .dismissed => { rep with reportsDismissed := rep.reportsDismissed + n }
  | .inconclusive => { rep with reportsInconclusive := rep.reportsInconclusive + n }
  | .abusive => { rep with reportsAbusive := rep.reportsAbusive + n }

/-- The reporters of a case, each once. -/
def DB.reportersOf (db : DB K) (caseID : CaseID) : List UserID :=
  ((db.reports.filter (·.caseID = caseID)).map (·.reporterUserID)).dedup

def DB.reportsBy (db : DB K) (caseID : CaseID) (userID : UserID) : ℕ :=
  (db.reports.filter fun r => r.caseID = caseID ∧ r.reporterUserID = userID).length

/-- The upsert of a reporter's counters; the column of the weight defaults to 1. -/
def DB.countOutcome (db : DB K) (caseID : CaseID) (outcome : Outcome) (userID : UserID) :
    DB K :=
  let n := db.reportsBy caseID userID
  match db.reporter? userID with
  | none =>
      { db with
        reporters := db.reporters ++ [({ userID, reportWeight := 1 } : ReporterRow K).count outcome n] }
  | some _ =>
      { db with
        reporters := db.reporters.map fun rep => if rep.userID = userID then rep.count outcome n else rep }

/-- The second statement: the weights of the reporters of the case are written again. -/
def DB.reweigh (db : DB K) (now : ℕ) (caseID : CaseID) : DB K :=
  { db with
    reporters := db.reporters.map fun rep =>
      match db.users.find? (·.id = rep.userID) with
      | some u =>
          if rep.userID ∈ db.reportersOf caseID then
            { rep with reportWeight := moderationReporterWeightSQL now u.createdAt rep }
          else rep
      | none => rep }

def DB.updateReporterReputationForCase (db : DB K) (now : ℕ) (caseID : CaseID)
    (outcome : Outcome) : DB K :=
  ((db.reportersOf caseID).foldl (fun db u => db.countOutcome caseID outcome u) db).reweigh now caseID

/-! ## `moderationRecentReportPressure`, `moderationGameplayEvidence` and the priority -/

structure RecentReportCounts where
  recentGames : ℕ
  reportedGames : ℕ
  deriving DecidableEq

def RecentReportCounts.pressure (counts : RecentReportCounts) : K :=
  if counts.recentGames ≤ 0 ∨ counts.reportedGames ≤ 0 then 0
  else
    let ratio : K := counts.reportedGames / counts.recentGames
    let confidence : K := counts.recentGames / 5
    let confidence := if confidence > 1 then 1 else confidence
    7 / 2 * P.pow ratio (16 / 10) * confidence

/-- `order by occurred_at desc, id desc`. -/
def GuessRow.Before (g g' : GuessRow K) : Prop :=
  g'.occurredAt < g.occurredAt ∨ g'.occurredAt = g.occurredAt ∧ g'.id ≤ g.id

instance : DecidableRel (GuessRow.Before (K := K)) := fun g g' =>
  inferInstanceAs (Decidable (g'.occurredAt < g.occurredAt ∨ g'.occurredAt = g.occurredAt ∧ g'.id ≤ g.id))

def DB.moderationGameplayEvidence (db : DB K) (targetUserID : UserID) : K :=
  let targetUserID := trimmed targetUserID
  if targetUserID = "" then 0
  else
    let recent := ((db.guesses.filter (·.userID = targetUserID)).insertionSort GuessRow.Before).take 20
    let evidence10 := ((recent.take 10).map (·.evidence)).sum
    let evidence20 := (recent.map (·.evidence)).sum
    let pressure := max (evidence10 / 6) (evidence20 / 10)
    if pressure > 6 then 6 else if pressure < 0 then 0 else pressure

/-- `reporter_score_by_match`: what a match adds is capped. -/
def matchScore (rows : List (ReportRow K)) (matchID : MatchID) : K :=
  min (5 / 4) ((rows.filter (·.matchID = matchID)).map (·.reporterWeight)).sum

def moderationPriority (score : K) : Priority :=
  if score ≥ 6 then .urgent
  else if score ≥ 3 then .high
  else if score ≥ 3 / 2 then .medium
  else .low

/-! ## The two formulas of the weight -/

section Formulas

theorem smoothReportVolumeDecay_zero (softLimit power : K) :
    smoothReportVolumeDecay P 0 softLimit power = 1 := if_pos (.inl le_rfl)

theorem reporterVolumeMultiplier_eq (volume : ReporterVolume) :
    reporterVolumeMultiplier P volume =
      min (smoothReportVolumeDecay P volume.last24h 6 (14 / 10))
        (smoothReportVolumeDecay P (volume.last7d / 7) 6 (14 / 10)) := by
  unfold reporterVolumeMultiplier
  dsimp only
  split_ifs with h
  · exact (min_eq_left h.le).symm
  · exact (min_eq_right (not_lt.1 h)).symm

variable [IsStrictOrderedRing K]

theorem ageWeight_pos (now createdAt : ℕ) : (0 : K) < ageWeight now createdAt := by
  unfold ageWeight
  dsimp only
  split_ifs <;> norm_num

theorem ageWeight_le_one (now createdAt : ℕ) : (ageWeight now createdAt : K) ≤ 1 := by
  unfold ageWeight
  dsimp only
  split_ifs <;> norm_num

theorem reporterReputationMultiplier_pos (reputation : ReporterReputation) :
    (0 : K) < reporterReputationMultiplier reputation := by
  unfold reporterReputationMultiplier
  dsimp only
  split_ifs <;> norm_num

theorem reporterReputationMultiplier_le (reputation : ReporterReputation) :
    (reporterReputationMultiplier reputation : K) ≤ 5 / 4 := by
  unfold reporterReputationMultiplier
  dsimp only
  split_ifs <;> norm_num

/-- The weight before the volume of the reports counts. -/
def standing (now createdAt : ℕ) (reputation : ReporterReputation) : K :=
  ageWeight now createdAt * reporterReputationMultiplier reputation

theorem standing_pos (now createdAt : ℕ) (reputation : ReporterReputation) :
    (0 : K) < standing now createdAt reputation :=
  mul_pos (ageWeight_pos _ _) (reporterReputationMultiplier_pos _)

theorem standing_le (now createdAt : ℕ) (reputation : ReporterReputation) :
    (standing now createdAt reputation : K) ≤ 5 / 4 := by
  calc (standing now createdAt reputation : K)
      ≤ 1 * (5 / 4) :=
        mul_le_mul (ageWeight_le_one _ _) (reporterReputationMultiplier_le _)
          (reporterReputationMultiplier_pos _).le zero_le_one
    _ = 5 / 4 := one_mul _

theorem smoothReportVolumeDecay_pos (count softLimit power : K) :
    0 < smoothReportVolumeDecay P count softLimit power := by
  unfold smoothReportVolumeDecay
  split_ifs with h
  · exact one_pos
  · push Not at h
    have hpow := P.pow_pos (count / softLimit) power (div_pos h.1 h.2.1)
    positivity

/-- Only a reporter without reports keeps the whole weight. -/
theorem smoothReportVolumeDecay_lt_one {count softLimit power : K} (hcount : 0 < count)
    (hlimit : 0 < softLimit) (hpower : 0 < power) :
    smoothReportVolumeDecay P count softLimit power < 1 := by
  have hpow := P.pow_pos (count / softLimit) power (div_pos hcount hlimit)
  rw [smoothReportVolumeDecay, if_neg (by
    rintro (h | h | h)
    · exact absurd hcount h.not_gt
    · exact absurd hlimit h.not_gt
    · exact absurd hpower h.not_gt), div_lt_one (by linarith)]
  linarith

theorem reporterVolumeMultiplier_pos (volume : ReporterVolume) :
    0 < reporterVolumeMultiplier P volume := by
  rw [reporterVolumeMultiplier_eq]
  exact lt_min (smoothReportVolumeDecay_pos P _ _ _) (smoothReportVolumeDecay_pos P _ _ _)

theorem reporterVolumeMultiplier_none : reporterVolumeMultiplier P ⟨0, 0⟩ = 1 := by
  rw [reporterVolumeMultiplier_eq]
  simp [smoothReportVolumeDecay_zero]

theorem reporterVolumeMultiplier_lt_one {volume : ReporterVolume} (h : volume ≠ ⟨0, 0⟩) :
    reporterVolumeMultiplier P volume < 1 := by
  obtain ⟨last24h, last7d⟩ := volume
  rw [reporterVolumeMultiplier_eq, min_lt_iff]
  rcases Nat.eq_zero_or_pos last24h with rfl | hdaily
  · have hweekly : 0 < last7d := Nat.pos_of_ne_zero fun h0 => h (by rw [h0])
    refine .inr (smoothReportVolumeDecay_lt_one P ?_ (by norm_num) (by norm_num))
    exact div_pos (by exact_mod_cast hweekly) (by norm_num)
  · refine .inl (smoothReportVolumeDecay_lt_one P ?_ (by norm_num) (by norm_num))
    exact_mod_cast hdaily

theorem moderationReporterWeight_eq (now createdAt : ℕ) (reputation : ReporterReputation)
    (volume : ReporterVolume) :
    moderationReporterWeight P now createdAt reputation volume =
      max (5 / 100) (standing now createdAt reputation * reporterVolumeMultiplier P volume) := by
  have hle : reporterVolumeMultiplier P volume ≤ 1 := by
    by_cases h : volume = ⟨0, 0⟩
    · rw [h, reporterVolumeMultiplier_none]
    · exact (reporterVolumeMultiplier_lt_one P h).le
  have hsmall : standing now createdAt reputation * reporterVolumeMultiplier P volume ≤ (3 / 2 : K) := by
    have hmul := mul_le_mul (standing_le (K := K) now createdAt reputation) hle
      (reporterVolumeMultiplier_pos P volume).le (by norm_num)
    linarith
  unfold moderationReporterWeight
  dsimp only
  rw [← standing]
  split_ifs with hlow hhigh
  · exact (max_eq_left hlow.le).symm
  · exact absurd hsmall (not_le.2 hhigh)
  · exact (max_eq_right (not_lt.1 hlow)).symm

/-- The two formulas agree on the age and on the reputation; the query knows no volume. -/
theorem moderationReporterWeightSQL_eq (now createdAt : ℕ) (rep : ReporterRow K) :
    moderationReporterWeightSQL now createdAt rep =
      max (5 / 100) (standing now createdAt (reputationOf (some rep))) := by
  have hage : (if (createdAt : ℤ) > now - day then 1 / 4
      else if (createdAt : ℤ) > now - (7 * day : ℕ) then 1 / 2 else 1 : K) =
        ageWeight now createdAt := by
    unfold ageWeight
    dsimp only
    congr 1
    · exact propext (by omega)
    · congr 1
      exact propext (by omega)
  have hreputation : (if rep.reportsAbusive ≥ 3 then 1 / 10
      else if rep.reportsAbusive > 0 then 1 / 4
      else if rep.reportsConfirmed + rep.reportsDismissed < 5 then 1
      else if rep.reportsConfirmed ≥ 10 ∧ (rep.reportsConfirmed : K) /
          (max 1 (rep.reportsConfirmed + rep.reportsDismissed) : ℕ) ≥ 85 / 100 then 5 / 4
      else if (rep.reportsConfirmed : K) /
          (max 1 (rep.reportsConfirmed + rep.reportsDismissed) : ℕ) ≥ 65 / 100 then 1
      else if (rep.reportsConfirmed : K) /
          (max 1 (rep.reportsConfirmed + rep.reportsDismissed) : ℕ) ≥ 4 / 10 then 1 / 2
      else 15 / 100 : K) = reporterReputationMultiplier (reputationOf (some rep)) := by
    unfold reporterReputationMultiplier reputationOf
    simp only [Option.map_some, Option.getD_some]
    by_cases hfew : rep.reportsConfirmed + rep.reportsDismissed < 5
    · simp only [if_pos hfew]
    · rw [max_eq_right (by omega)]
  have hmax : max (5 / 100) (standing now createdAt (reputationOf (some rep))) ≤ (3 / 2 : K) :=
    max_le (by norm_num) ((standing_le _ _ _).trans (by norm_num))
  unfold moderationReporterWeightSQL
  dsimp only
  rw [hage, hreputation, ← standing, min_eq_right hmax]

/-- When the volume is no factor, or the weight is at its floor without it. -/
theorem max_standing_eq_iff (now createdAt : ℕ) (reputation : ReporterReputation)
    (volume : ReporterVolume) :
    max (5 / 100) (standing now createdAt reputation) =
        max (5 / 100) (standing now createdAt reputation * reporterVolumeMultiplier P volume) ↔
      volume = ⟨0, 0⟩ ∨ (standing now createdAt reputation : K) ≤ 5 / 100 := by
  have hpos := standing_pos (K := K) now createdAt reputation
  by_cases hvolume : volume = ⟨0, 0⟩
  · rw [hvolume, reporterVolumeMultiplier_none, mul_one]
    exact iff_of_true rfl (.inl rfl)
  have hless : standing now createdAt reputation * reporterVolumeMultiplier P volume <
      standing now createdAt reputation :=
    mul_lt_of_lt_one_right hpos (reporterVolumeMultiplier_lt_one P hvolume)
  constructor
  · intro heq
    refine .inr (not_lt.1 fun hlt => ?_)
    have hdecayed : max (5 / 100) (standing now createdAt reputation * reporterVolumeMultiplier P volume) <
        standing now createdAt reputation := max_lt hlt hless
    rw [← heq] at hdecayed
    exact absurd hdecayed (le_max_right _ _).not_gt
  · rintro (h | h)
    · exact absurd h hvolume
    · rw [max_eq_left h, max_eq_left (hless.le.trans h)]

end Formulas

/-! ## The rows after the update -/

def ReporterReputation.count (reputation : ReporterReputation) (outcome : Outcome) (n : ℕ) :
    ReporterReputation :=
  match outcome with
  | .confirmed => { reputation with confirmed := reputation.confirmed + n }
  | .dismissed => { reputation with dismissed := reputation.dismissed + n }
  | .inconclusive => { reputation with inconclusive := reputation.inconclusive + n }
  | .abusive => { reputation with abusive := reputation.abusive + n }

/-- The row that the counters of a reporter are added to. -/
def DB.reporterRow (db : DB K) (userID : UserID) : ReporterRow K :=
  (db.reporter? userID).getD { userID, reportWeight := 1 }

section Rows

set_option linter.unusedSectionVars false

variable {db : DB K} {rep : ReporterRow K} {userID : UserID}

@[simp]
theorem ReporterRow.count_userID (rep : ReporterRow K) (outcome : Outcome) (n : ℕ) :
    (rep.count outcome n).userID = rep.userID := by cases outcome <;> rfl

theorem reputationOf_count (outcome : Outcome) (n : ℕ) :
    reputationOf (some (rep.count outcome n)) = (reputationOf (some rep)).count outcome n := by
  cases outcome <;> rfl

theorem mutedAt_count (now : ℕ) (outcome : Outcome) (n : ℕ) :
    mutedAt now (some (rep.count outcome n)) = mutedAt now (some rep) := by cases outcome <;> rfl

theorem reputationOf_reporterRow (db : DB K) (userID : UserID) :
    reputationOf (some (db.reporterRow userID)) = reputationOf (db.reporter? userID) := by
  unfold DB.reporterRow
  cases db.reporter? userID <;> rfl

theorem mutedAt_reporterRow (now : ℕ) (db : DB K) (userID : UserID) :
    mutedAt now (some (db.reporterRow userID)) = mutedAt now (db.reporter? userID) := by
  unfold DB.reporterRow
  cases db.reporter? userID <;> rfl

theorem userID_of_reporter? (h : db.reporter? userID = some rep) : rep.userID = userID := by
  simpa using List.find?_some h

theorem reporterRow_userID (db : DB K) (userID : UserID) : (db.reporterRow userID).userID = userID := by
  unfold DB.reporterRow
  cases h : db.reporter? userID with
  | none => rfl
  | some rep => exact userID_of_reporter? h

/-- A table whose rows are rewritten under their ids. -/
theorem find?_map_userID (rows : List (ReporterRow K)) {f : ReporterRow K → ReporterRow K}
    (hf : ∀ rep, (f rep).userID = rep.userID) (userID : UserID) :
    (rows.map f).find? (·.userID = userID) = (rows.find? (·.userID = userID)).map f := by
  rw [List.find?_map]
  congr 2
  funext rep
  simp [hf]

/-- One row of the upsert. -/
theorem reporter?_countOutcome (db : DB K) (caseID : CaseID) (outcome : Outcome) (v userID : UserID) :
    (db.countOutcome caseID outcome v).reporter? userID =
      if userID = v then some ((db.reporterRow userID).count outcome (db.reportsBy caseID userID))
      else db.reporter? userID := by
  unfold DB.countOutcome
  cases hv : db.reporter? v with
  | none =>
    simp only [DB.reporter?, List.find?_append]
    split_ifs with h
    · subst h
      unfold DB.reporterRow
      rw [hv]
      unfold DB.reporter? at hv
      rw [hv]
      simp
    · cases List.find? (fun x : ReporterRow K => decide (x.userID = userID)) db.reporters <;>
        simp [Ne.symm h]
  | some rep =>
    simp only [DB.reporter?]
    rw [find?_map_userID _ (fun rep => by split_ifs <;> simp)]
    split_ifs with h
    · subst h
      unfold DB.reporterRow
      unfold DB.reporter? at hv ⊢
      rw [hv]
      have hid : rep.userID = userID := userID_of_reporter? (show db.reporter? userID = some rep from hv)
      simp [hid]
    · cases hu : List.find? (fun x : ReporterRow K => decide (x.userID = userID)) db.reporters with
      | none => rfl
      | some row =>
        have hid : row.userID = userID := userID_of_reporter? (show db.reporter? userID = some row from hu)
        simp [hid, h]

/-- The upsert of a whole case counts the reports of each of its reporters once. -/
theorem reporter?_foldl_countOutcome (caseID : CaseID) (outcome : Outcome) (us : List UserID)
    (hus : us.Nodup) (db : DB K) (userID : UserID) :
    (us.foldl (fun db u => db.countOutcome caseID outcome u) db).reporter? userID =
      if userID ∈ us then some ((db.reporterRow userID).count outcome (db.reportsBy caseID userID))
      else db.reporter? userID := by
  induction us generalizing db with
  | nil => simp
  | cons v us ih =>
    obtain ⟨hv, hus⟩ := List.nodup_cons.1 hus
    have hreports : ∀ u, (db.countOutcome caseID outcome v).reportsBy caseID u = db.reportsBy caseID u := by
      intro u
      unfold DB.countOutcome
      split <;> rfl
    rw [List.foldl_cons, ih hus, hreports]
    by_cases heq : userID = v
    · subst heq
      rw [if_neg hv, if_pos (List.mem_cons_self ..), reporter?_countOutcome, if_pos rfl]
    · have hrow : (db.countOutcome caseID outcome v).reporterRow userID = db.reporterRow userID := by
        unfold DB.reporterRow
        rw [reporter?_countOutcome, if_neg heq]
      simp only [List.mem_cons, heq, false_or, hrow, reporter?_countOutcome, if_false]

/-- The tables that the reports are weighed with. -/
structure SameSources (db db' : DB K) : Prop where
  users : db'.users = db.users
  reports : db'.reports = db.reports

theorem SameSources.foldl_countOutcome (caseID : CaseID) (outcome : Outcome) (us : List UserID)
    (db : DB K) : SameSources db (us.foldl (fun db u => db.countOutcome caseID outcome u) db) := by
  induction us generalizing db with
  | nil => exact ⟨rfl, rfl⟩
  | cons v us ih =>
    obtain ⟨husers, hreports⟩ := ih (db.countOutcome caseID outcome v)
    rw [List.foldl_cons]
    constructor
    · rw [husers]
      unfold DB.countOutcome
      split <;> rfl
    · rw [hreports]
      unfold DB.countOutcome
      split <;> rfl

/-- The row of a reporter of the case, when both statements have run. -/
theorem reporter?_update {u : UserRow} (hu : db.users.find? (·.id = u.id) = some u) {caseID : CaseID}
    (hmem : u.id ∈ db.reportersOf caseID) (now : ℕ) (outcome : Outcome) :
    (db.updateReporterReputationForCase now caseID outcome).reporter? u.id =
      let rep := (db.reporterRow u.id).count outcome (db.reportsBy caseID u.id)
      some { rep with reportWeight := moderationReporterWeightSQL now u.createdAt rep } := by
  obtain ⟨husers, hreports⟩ := SameSources.foldl_countOutcome caseID outcome (db.reportersOf caseID) db
  have hrow := reporter?_foldl_countOutcome caseID outcome (db.reportersOf caseID) (List.nodup_dedup _) db
    u.id
  rw [if_pos hmem] at hrow
  unfold DB.updateReporterReputationForCase DB.reweigh
  generalize (db.reportersOf caseID).foldl (fun db u => db.countOutcome caseID outcome u) db = db₁ at *
  have hmem₁ : u.id ∈ db₁.reportersOf caseID := by
    unfold DB.reportersOf
    rwa [hreports]
  have hid : ((db.reporterRow u.id).count outcome (db.reportsBy caseID u.id)).userID = u.id := by
    rw [ReporterRow.count_userID, reporterRow_userID]
  unfold DB.reporter? at hrow ⊢
  dsimp only
  rw [find?_map_userID, hrow, Option.map_some, hid, husers, hu]
  · simp [hmem₁]
  · intro rep
    split
    · split_ifs <;> rfl
    · rfl

theorem moderationReporterVolume_update (db : DB K) (now t : ℕ) (caseID : CaseID) (outcome : Outcome)
    (userID : UserID) :
    (db.updateReporterReputationForCase now caseID outcome).moderationReporterVolume t userID =
      db.moderationReporterVolume t userID := by
  obtain ⟨-, hreports⟩ := SameSources.foldl_countOutcome caseID outcome (db.reportersOf caseID) db
  unfold DB.updateReporterReputationForCase DB.reweigh DB.moderationReporterVolume
  rw [hreports]

end Rows

/-! ## Agreement -/

/-- The weight that the update writes for a reporter of the case is the one that a new report would get. -/
def Reweighed (P : Power K) (db : DB K) (now : ℕ) (caseID : CaseID) (outcome : Outcome) (u : UserRow) : Prop :=
  let db' := db.updateReporterReputationForCase now caseID outcome
  (db'.reporter? u.id).map (·.reportWeight) = some (db'.reporterWeight P now u)

/-- The reputation with which the update leaves a reporter of the case. -/
def DB.countedReputation (db : DB K) (caseID : CaseID) (outcome : Outcome) (userID : UserID) :
    ReporterReputation :=
  (reputationOf (db.reporter? userID)).count outcome (db.reportsBy caseID userID)

theorem reweighed_eq [IsStrictOrderedRing K] {db : DB K} {u : UserRow}
    (hu : db.users.find? (·.id = u.id) = some u) {caseID : CaseID} (hmem : u.id ∈ db.reportersOf caseID)
    (now : ℕ) (outcome : Outcome) :
    Reweighed P db now caseID outcome u ↔
      max (5 / 100) (standing now u.createdAt (db.countedReputation caseID outcome u.id)) =
        if mutedAt now (db.reporter? u.id) then 0
        else max (5 / 100) (standing now u.createdAt (db.countedReputation caseID outcome u.id) *
          reporterVolumeMultiplier P (db.moderationReporterVolume now u.id)) := by
  have hrow := reporter?_update hu hmem now outcome
  dsimp only at hrow
  have hreputation : ∀ w : K, reputationOf (some { (db.reporterRow u.id).count outcome
      (db.reportsBy caseID u.id) with reportWeight := w }) = db.countedReputation caseID outcome u.id := by
    intro w
    rw [DB.countedReputation, ← reputationOf_reporterRow, ← reputationOf_count]
    rfl
  have hmuted : ∀ w : K, mutedAt now (some { (db.reporterRow u.id).count outcome
      (db.reportsBy caseID u.id) with reportWeight := w }) = mutedAt now (db.reporter? u.id) := by
    intro w
    refine Eq.trans (b := mutedAt now (some ((db.reporterRow u.id).count outcome
      (db.reportsBy caseID u.id)))) rfl ?_
    rw [mutedAt_count, mutedAt_reporterRow]
  have hcounted : reputationOf (some ((db.reporterRow u.id).count outcome (db.reportsBy caseID u.id))) =
      db.countedReputation caseID outcome u.id := by
    rw [DB.countedReputation, ← reputationOf_reporterRow, ← reputationOf_count]
  unfold Reweighed DB.reporterWeight
  dsimp only
  rw [hrow, Option.map_some, Option.some_inj, moderationReporterWeightSQL_eq, hcounted,
    moderationReporterVolume_update, hreputation, hmuted, moderationReporterWeight_eq]

theorem max_standing_pos [IsStrictOrderedRing K] (now createdAt : ℕ) (reputation : ReporterReputation) :
    (0 : K) < max (5 / 100) (standing now createdAt reputation) :=
  lt_max_of_lt_right (standing_pos _ _ _)

/-- Closing a case gives a reporter the weight of his next report exactly when he is not muted, and has
reported nobody for a week or has the least weight anyway. -/
theorem reweighed_iff [IsStrictOrderedRing K] (db : DB K) (now : ℕ) (caseID : CaseID) (outcome : Outcome)
    (u : UserRow) (hu : db.users.find? (·.id = u.id) = some u) (hmem : u.id ∈ db.reportersOf caseID) :
    Reweighed P db now caseID outcome u ↔
      mutedAt now (db.reporter? u.id) = false ∧
        (db.moderationReporterVolume now u.id = ⟨0, 0⟩ ∨
          (ageWeight now u.createdAt : K) *
            reporterReputationMultiplier (db.countedReputation caseID outcome u.id) ≤ 5 / 100) := by
  rw [reweighed_eq P hu hmem]
  cases mutedAt now (db.reporter? u.id) with
  | true =>
    rw [if_pos rfl]
    refine iff_of_false (max_standing_pos _ _ _).ne' ?_
    rintro ⟨h, -⟩
    exact Bool.noConfusion h
  | false =>
    rw [if_neg Bool.false_ne_true, max_standing_eq_iff, ← standing]
    exact (and_iff_right rfl).symm

/-- The real power function. -/
noncomputable def Power.real : Power ℝ where
  pow := fun x p => x ^ p
  pow_pos _ p hx := Real.rpow_pos_of_pos hx p
  pow_le_pow _ _ _ hx hxy hp := Real.rpow_le_rpow hx hxy hp.le

/-- A player whose only report, on the case 1, is of day 0; it is day 30. -/
def monthOldReport (mutedUntil : Option ℕ) : DB ℝ where
  users := [{ id := "reporter", createdAt := 0 }]
  reporters := [{ userID := "reporter", reportWeight := 0, mutedUntil }]
  reports := [⟨1, "match", "reporter", "target", "cheating", 1, 0⟩]

theorem reweighed_monthOldReport :
    Reweighed Power.real (monthOldReport none) (30 * day) 1 .confirmed ⟨"reporter", false, 0⟩ := by
  refine (reweighed_iff Power.real _ _ _ _ _ (by simp [monthOldReport])
    (by simp [monthOldReport, DB.reportersOf])).2 ⟨rfl, .inl ?_⟩
  simp [monthOldReport, DB.moderationReporterVolume, day, Time.minute, Time.second, Time.millisecond]

/-- Closing the case restores the weight of a muted reporter. -/
theorem not_reweighed_of_muted :
    ¬ ∀ (db : DB ℝ) (now : ℕ) (caseID : CaseID) (outcome : Outcome) (u : UserRow),
      db.users.find? (·.id = u.id) = some u → u.id ∈ db.reportersOf caseID →
        Reweighed Power.real db now caseID outcome u := by
  intro h
  have hmuted := h (monthOldReport (some (31 * day))) (30 * day) 1 .confirmed ⟨"reporter", false, 0⟩
    (by simp [monthOldReport]) (by simp [monthOldReport, DB.reportersOf])
  rw [reweighed_eq Power.real (by simp [monthOldReport]) (by simp [monthOldReport, DB.reportersOf]),
    if_pos (by decide +kernel)] at hmuted
  exact (max_standing_pos _ _ _).ne' hmuted

end GeoDuels.Reports
