import GeoDuels.Reports.Cases
import Mathlib.Algebra.Order.BigOperators.Group.Finset
import Mathlib.Algebra.Order.BigOperators.Group.List

/-!
# The score of a case under a new report

A new report adds to the capped sums of the matches and to the number of reported matches.  It also adds a
row to the left join behind the recent games, whenever another report is on the same match, and the ratio of
reported games then falls.
-/

namespace GeoDuels.Reports

open Moderation (CaseID)

variable {K : Type*} [Field K] [LinearOrder K]

/-! ## What the tables keep -/

/-- The report rows: each is on a case of the reported player, and its weight is not negative. -/
structure DB.Sound (db : DB K) : Prop where
  onTarget : ∀ r ∈ db.reports, ∃ row, db.cases.lookup r.caseID = some row ∧
    row.targetUserID = r.reportedUserID
  fresh : ∀ id ∈ db.cases, id < db.nextCaseID
  weight_nonneg : ∀ r ∈ db.reports, 0 ≤ r.reporterWeight

section Sound

set_option linter.unusedSectionVars false

variable {db db' : DB K} {now : ℕ}

theorem reporterWeight_nonneg [IsStrictOrderedRing K] (P : Power K) (db : DB K) (now : ℕ) (u : UserRow) :
    0 ≤ db.reporterWeight P now u := by
  unfold DB.reporterWeight
  dsimp only
  split_ifs
  · exact le_rfl
  · rw [moderationReporterWeight_eq]
    exact le_max_of_le_left (by norm_num)

theorem DB.Sound.insert_case (h : db.Sound) {id : CaseID} {row : CaseRow K}
    (htarget : ∀ old, db.cases.lookup id = some old → old.targetUserID = row.targetUserID)
    {next : CaseID} (hnext : id < next) (hle : db.nextCaseID ≤ next) :
    ({ db with cases := db.cases.insert id row, nextCaseID := next } : DB K).Sound where
  onTarget r hr := by
    obtain ⟨old, hold, ht⟩ := h.onTarget r hr
    by_cases hid : r.caseID = id
    · subst hid
      exact ⟨row, AList.lookup_insert _, (htarget old hold).symm.trans ht⟩
    · exact ⟨old, (AList.lookup_insert_ne hid).trans hold, ht⟩
  fresh c hc := by
    rcases AList.mem_insert _ |>.1 hc with rfl | hc
    · exact hnext
    · exact (h.fresh c hc).trans_le hle
  weight_nonneg := h.weight_nonneg

/-- The case that the upsert returns is the open case of the target. -/
theorem DB.Sound.upsertCase (h : db.Sound) (now : ℕ) (target : UserID) :
    (db.upsertCase now target).2.Sound ∧
      ∃ row, (db.upsertCase now target).2.cases.lookup (db.upsertCase now target).1 = some row ∧
        row.targetUserID = target := by
  unfold DB.upsertCase
  cases hopen : db.openCase? target with
  | none =>
    refine ⟨h.insert_case (fun old hold => ?_) (Nat.lt_succ_self _) (Nat.le_succ _),
      _, AList.lookup_insert _, rfl⟩
    exact absurd (h.fresh _ (AList.lookup_isSome.1 (by rw [hold]; rfl))) (lt_irrefl _)
  | some c =>
    obtain ⟨id, row⟩ := c
    have hmem : (⟨id, row⟩ : Sigma fun _ : CaseID => CaseRow K) ∈ db.cases.entries := List.mem_of_find?_eq_some hopen
    have hlookup : db.cases.lookup id = some row := AList.mem_lookup_iff.2 hmem
    have htarget : row.targetUserID = target := by
      have hfound := List.find?_some hopen
      exact (of_decide_eq_true hfound).1
    refine ⟨h.insert_case (fun old hold => ?_) (h.fresh id (AList.lookup_isSome.1 (by rw [hlookup]; rfl)))
      le_rfl, _, AList.lookup_insert _, htarget⟩
    rw [hlookup, Option.some_inj] at hold
    rw [← hold]

/-- What a new report adds to the tables. -/
theorem DB.insertReport_cases {r : ReportRow K} (h : db.insertReport r = some db') :
    db' = { db with reports := db.reports ++ [r] } := by
  unfold DB.insertReport at h
  split_ifs at h
  exact (Option.some_inj.1 h).symm

theorem DB.Sound.insertReport (h : db.Sound) {r : ReportRow K} {row : CaseRow K}
    (hrow : db.cases.lookup r.caseID = some row) (htarget : row.targetUserID = r.reportedUserID)
    (hweight : 0 ≤ r.reporterWeight) (hinsert : db.insertReport r = some db') : db'.Sound := by
  obtain rfl := DB.insertReport_cases hinsert
  constructor
  · intro r' hr'
    rcases List.mem_append.1 hr' with hr' | hr'
    · exact h.onTarget r' hr'
    · rw [List.mem_singleton.1 hr']
      exact ⟨row, hrow, htarget⟩
  · exact h.fresh
  · intro r' hr'
    rcases List.mem_append.1 hr' with hr' | hr'
    · exact h.weight_nonneg r' hr'
    · rw [List.mem_singleton.1 hr']
      exact hweight

theorem DB.Sound.countSubmitted (h : db.Sound) (reporter : UserID) (weight : K) :
    (db.countSubmitted reporter weight).Sound := by
  unfold DB.countSubmitted
  split
  · exact ⟨h.onTarget, h.fresh, h.weight_nonneg⟩
  · exact ⟨h.onTarget, h.fresh, h.weight_nonneg⟩

/-- Every report that `CreateModerationReport` stores is sound. -/
theorem DB.Sound.createModerationReport [IsStrictOrderedRing K] (P : Power K) (h : db.Sound)
    {params : CreateModerationReportParams} {id : CaseID} {status : ReportStatus}
    (hcreate : db.createModerationReport P now params = .ok (id, status, db')) : db'.Sound := by
  unfold DB.createModerationReport at hcreate
  dsimp only at hcreate
  split_ifs at hcreate
  split at hcreate
  · exact nomatch hcreate
  · obtain ⟨hsound, row, hrow, htarget⟩ := h.upsertCase now (trimmed params.reportedUserID)
    split at hcreate
    · cases hcreate
      exact hsound
    · rename_i hinsert
      cases hcreate
      exact (hsound.insertReport hrow htarget (reporterWeight_nonneg P _ _ _) hinsert).countSubmitted _ _

end Sound

/-! ## The capped sums -/

section Scores

def Priority.rank : Priority → ℕ
  | .low => 0
  | .medium => 1
  | .high => 2
  | .urgent => 3

theorem moderationPriority_mono {score score' : K} (h : score ≤ score') :
    (moderationPriority score).rank ≤ (moderationPriority score').rank := by
  unfold moderationPriority
  by_cases h6 : score ≥ 6
  · rw [if_pos h6, if_pos (le_trans h6 h)]
  by_cases h3 : score ≥ 3
  · rw [if_neg h6, if_pos h3, if_pos (le_trans h3 h)]
    split_ifs <;> decide
  by_cases h15 : score ≥ 3 / 2
  · rw [if_neg h6, if_neg h3, if_pos h15, if_pos (le_trans h15 h)]
    split_ifs <;> decide
  · rw [if_neg h6, if_neg h3, if_neg h15]
    exact Nat.zero_le _

variable [IsStrictOrderedRing K] {rows : List (ReportRow K)} {r : ReportRow K}

theorem sum_weights_nonneg (h : ∀ r ∈ rows, 0 ≤ r.reporterWeight) (matchID : MatchID) :
    0 ≤ ((rows.filter (·.matchID = matchID)).map (·.reporterWeight)).sum := by
  apply List.sum_nonneg
  intro w hw
  obtain ⟨r, hr, rfl⟩ := List.mem_map.1 hw
  exact h r (List.mem_filter.1 hr).1

theorem matchScore_nonneg (h : ∀ r ∈ rows, 0 ≤ r.reporterWeight) (matchID : MatchID) :
    0 ≤ matchScore rows matchID := le_min (by norm_num) (sum_weights_nonneg h matchID)

theorem matchScore_le_append (hr : 0 ≤ r.reporterWeight) (matchID : MatchID) :
    matchScore rows matchID ≤ matchScore (rows ++ [r]) matchID := by
  refine min_le_min le_rfl ?_
  rw [List.filter_append, List.map_append, List.sum_append]
  refine le_add_of_nonneg_right ?_
  by_cases h : r.matchID = matchID <;> simp [h, hr]

/-- A further report raises the sum of its match, or adds one of its own. -/
theorem reporterScore_le_append (h : ∀ r ∈ rows, 0 ≤ r.reporterWeight) (hr : 0 ≤ r.reporterWeight) :
    reporterScore rows ≤ reporterScore (rows ++ [r]) := by
  have happend : ∀ r' ∈ rows ++ [r], 0 ≤ r'.reporterWeight := by
    intro r' hr'
    rcases List.mem_append.1 hr' with hr' | hr'
    · exact h r' hr'
    · rwa [List.mem_singleton.1 hr']
  calc reporterScore rows
      ≤ ∑ matchID ∈ (rows.map (·.matchID)).toFinset, matchScore (rows ++ [r]) matchID :=
        Finset.sum_le_sum fun matchID _ => matchScore_le_append hr matchID
    _ ≤ reporterScore (rows ++ [r]) := by
        refine Finset.sum_le_sum_of_subset_of_nonneg ?_ fun _ _ _ => matchScore_nonneg happend _
        rw [List.map_append, List.toFinset_append]
        exact Finset.subset_union_left

theorem moderationGameplayEvidence_nonneg (db : DB K) (targetUserID : UserID) :
    0 ≤ db.moderationGameplayEvidence targetUserID := by
  unfold DB.moderationGameplayEvidence
  dsimp only
  split_ifs with _ _ hneg
  · exact le_rfl
  · norm_num
  · exact le_rfl
  · exact not_lt.1 hneg

end Scores

/-! ## The recent games -/

section RecentGames

set_option linter.unusedSectionVars false

theorem length_flatMap_eq_iff {α β : Type*} {rows : α → List β} (l : List α)
    (hrows : ∀ x, 1 ≤ (rows x).length) :
    (l.flatMap rows).length = l.length ↔ ∀ x ∈ l, (rows x).length = 1 := by
  have hle : ∀ l : List α, l.length ≤ (l.flatMap rows).length := by
    intro l
    induction l with
    | nil => exact le_rfl
    | cons x l ih =>
      have hx := hrows x
      rw [List.flatMap_cons, List.length_append, List.length_cons]
      omega
  induction l with
  | nil => simp
  | cons x l ih =>
    have hx := hrows x
    have hl := hle l
    rw [List.flatMap_cons, List.length_append, List.length_cons, List.forall_mem_cons]
    constructor
    · intro h
      exact ⟨by omega, ih.1 (by omega)⟩
    · rintro ⟨h1, htail⟩
      have hlen := ih.2 htail
      omega

variable (P : Power K) {db db' : DB K} {userID : UserID} {matchID : MatchID} {r : ReportRow K}

theorem length_joinedReports (db : DB K) (userID : UserID) (matchID : MatchID) :
    (db.joinedReports userID matchID).length = max 1 (db.reportsOn userID matchID).length := by
  unfold DB.joinedReports
  cases db.reportsOn userID matchID with
  | nil => rfl
  | cons r rows => simp

theorem mem_joinedReports :
    some r ∈ db.joinedReports userID matchID ↔ r ∈ db.reportsOn userID matchID := by
  unfold DB.joinedReports
  cases db.reportsOn userID matchID with
  | nil => simp
  | cons r' rows => simp

/-- The count is the number of recent games as long as none of them has two reports. -/
theorem recentGames_eq_iff (db : DB K) (userID : UserID) :
    (db.recentReportCounts userID).recentGames = (db.recentMatches userID).length ↔
      ∀ m ∈ db.recentMatches userID, (db.reportsOn userID m).length ≤ 1 := by
  have hpos : ∀ m, 1 ≤ (db.joinedReports userID m).length := by
    intro m
    rw [length_joinedReports]
    exact le_max_left _ _
  refine (length_flatMap_eq_iff _ hpos).trans (forall₂_congr fun m _ => ?_)
  rw [length_joinedReports]
  omega

/-- The matches that `count(distinct r.match_id)` counts. -/
theorem mem_reportedMatches {m : MatchID} :
    m ∈ (((db.recentMatches userID).flatMap (db.joinedReports userID)).filterMap id).map (·.matchID) ↔
      m ∈ db.recentMatches userID ∧ db.reportsOn userID m ≠ [] := by
  constructor
  · intro h
    obtain ⟨r, hr, rfl⟩ := List.mem_map.1 h
    obtain ⟨row, hrow, hsome⟩ := List.mem_filterMap.1 hr
    obtain ⟨m, hm, hjoined⟩ := List.mem_flatMap.1 hrow
    rw [show row = some r from hsome, mem_joinedReports] at hjoined
    obtain rfl : r.matchID = m := (of_decide_eq_true (List.mem_filter.1 hjoined).2).1
    exact ⟨hm, List.ne_nil_of_mem hjoined⟩
  · rintro ⟨hm, hne⟩
    obtain ⟨r, hr⟩ := List.exists_mem_of_ne_nil _ hne
    have hid : r.matchID = m := (of_decide_eq_true (List.mem_filter.1 hr).2).1
    exact List.mem_map.2 ⟨r, List.mem_filterMap.2 ⟨some r, List.mem_flatMap.2 ⟨m, hm,
      mem_joinedReports.2 hr⟩, rfl⟩, hid⟩

theorem reportedGames_le_recentGames (db : DB K) (userID : UserID) :
    (db.recentReportCounts userID).reportedGames ≤ (db.recentReportCounts userID).recentGames := by
  unfold DB.recentReportCounts
  dsimp only
  refine (List.dedup_sublist _).length_le.trans ?_
  rw [List.length_map]
  exact List.length_filterMap_le _ _

theorem recentMatches_append (db : DB K) (r : ReportRow K) (userID : UserID) :
    ({ db with reports := db.reports ++ [r] } : DB K).recentMatches userID = db.recentMatches userID := rfl

theorem reportsOn_append (db : DB K) (r : ReportRow K) (userID : UserID) (matchID : MatchID) :
    ({ db with reports := db.reports ++ [r] } : DB K).reportsOn userID matchID =
      db.reportsOn userID matchID ++
        [r].filter fun r => r.matchID = matchID ∧ r.reportedUserID = userID := by
  unfold DB.reportsOn
  rw [List.filter_append]

theorem reportedGames_le_append (db : DB K) (r : ReportRow K) (userID : UserID) :
    (db.recentReportCounts userID).reportedGames ≤
      (({ db with reports := db.reports ++ [r] } : DB K).recentReportCounts userID).reportedGames := by
  apply List.Subperm.length_le
  apply (List.nodup_dedup _).subperm
  intro m hm
  obtain ⟨hrecent, hne⟩ := mem_reportedMatches.1 (List.mem_dedup.1 hm)
  refine List.mem_dedup.2 (mem_reportedMatches.2 ⟨hrecent, ?_⟩)
  rw [reportsOn_append]
  exact fun hnil => hne (List.append_eq_nil_iff.1 hnil).1

variable [IsStrictOrderedRing K]

theorem pressure_nonneg (counts : RecentReportCounts) : 0 ≤ counts.pressure P := by
  unfold RecentReportCounts.pressure
  dsimp only
  split_ifs with h hconfidence
  · exact le_rfl
  all_goals
    push Not at h
    have hratio : (0 : K) < counts.reportedGames / counts.recentGames :=
      div_pos (by exact_mod_cast h.2) (by exact_mod_cast h.1)
    have hpow := P.pow_pos _ (16 / 10) hratio
    positivity

/-- More reported ones among the same recent games raise the pressure. -/
theorem pressure_mono {counts counts' : RecentReportCounts}
    (hrecent : counts'.recentGames = counts.recentGames)
    (hreported : counts.reportedGames ≤ counts'.reportedGames) : counts.pressure P ≤ counts'.pressure P := by
  by_cases h : counts.recentGames ≤ 0 ∨ counts.reportedGames ≤ 0
  · rw [RecentReportCounts.pressure, if_pos h]
    exact pressure_nonneg P _
  · unfold RecentReportCounts.pressure
    dsimp only
    have hsome : ¬ (counts.recentGames ≤ 0 ∨ counts'.reportedGames ≤ 0) := by omega
    rw [if_neg h, hrecent, if_neg hsome]
    push Not at h
    have hgames : (0 : K) < counts.recentGames := by exact_mod_cast h.1
    have hratio : (counts.reportedGames : K) / counts.recentGames ≤
        counts'.reportedGames / counts.recentGames :=
      div_le_div_of_nonneg_right (by exact_mod_cast hreported) hgames.le
    have hpow := P.pow_le_pow _ _ (16 / 10) (by positivity) hratio (by norm_num)
    have hconfidence : (0 : K) ≤
        if (counts.recentGames : K) / 5 > 1 then 1 else (counts.recentGames : K) / 5 := by
      split_ifs
      · exact zero_le_one
      · positivity
    exact mul_le_mul_of_nonneg_right (mul_le_mul_of_nonneg_left hpow (by norm_num)) hconfidence

end RecentGames

/-! ## A new report -/

section NewReport

set_option linter.unusedSectionVars false

variable [IsStrictOrderedRing K] (P : Power K) {db db' : DB K} {r : ReportRow K}

/-- The report neither lowers the score of its case nor its priority, and the recent games are still counted
once each. -/
structure NotLowered (db db' : DB K) (r : ReportRow K) : Prop where
  score : (db.projection P r.caseID).score ≤ (db'.projection P r.caseID).score
  priority : (db.projection P r.caseID).priority.rank ≤ (db'.projection P r.caseID).priority.rank
  recentGames : (db'.recentReportCounts (trimmed r.reportedUserID)).recentGames =
    (db'.recentMatches (trimmed r.reportedUserID)).length
  reportedGames : (db'.recentReportCounts (trimmed r.reportedUserID)).reportedGames ≤
    (db'.recentReportCounts (trimmed r.reportedUserID)).recentGames

/-- The target of a case whose reports are all against one player. -/
theorem reportedTarget_eq {rows : List (ReportRow K)} {target : UserID} (hne : rows ≠ [])
    (h : ∀ r ∈ rows, r.reportedUserID = target) : reportedTarget rows = target := by
  have hfix : ∀ rows : List (ReportRow K), (∀ r ∈ rows, r.reportedUserID = target) →
      rows.foldl (fun t r => if t < r.reportedUserID then r.reportedUserID else t) target = target := by
    intro rows hrows
    induction rows with
    | nil => rfl
    | cons r rows ih =>
      obtain ⟨hr, hrows⟩ := List.forall_mem_cons.1 hrows
      rw [List.foldl_cons, hr, ite_self, ih hrows]
  cases rows with
  | nil => exact absurd rfl hne
  | cons r rows =>
    obtain ⟨hr, hrows⟩ := List.forall_mem_cons.1 h
    have hfold := hfix rows hrows
    rwa [← hr] at hfold ⊢

theorem reportedTarget_or {rows : List (ReportRow K)} {target : UserID}
    (h : ∀ r ∈ rows, r.reportedUserID = target) :
    reportedTarget rows = "" ∨ reportedTarget rows = target := by
  rcases eq_or_ne rows [] with rfl | hne
  · exact .inl rfl
  · exact .inr (reportedTarget_eq hne h)

theorem trimmed_empty : trimmed "" = "" := by decide

/-- Nobody is the target of a case without reports. -/
theorem pressure_empty (db : DB K) : db.moderationRecentReportPressure P "" = 0 := by
  unfold DB.moderationRecentReportPressure
  dsimp only
  rw [if_pos trimmed_empty]

theorem evidence_empty (db : DB K) : db.moderationGameplayEvidence "" = 0 := by
  unfold DB.moderationGameplayEvidence
  dsimp only
  rw [if_pos trimmed_empty]

theorem moderationRecentReportPressure_nonneg (db : DB K) (targetUserID : UserID) :
    0 ≤ db.moderationRecentReportPressure P targetUserID := by
  unfold DB.moderationRecentReportPressure
  dsimp only
  split_ifs
  · exact le_rfl
  · exact pressure_nonneg P _

/-- With one report on a recent game at most, a further report on one of the others raises the pressure. -/
theorem moderationRecentReportPressure_le_append (db : DB K) (r : ReportRow K) (targetUserID : UserID)
    (honce : ∀ m ∈ db.recentMatches (trimmed targetUserID),
      (({ db with reports := db.reports ++ [r] } : DB K).reportsOn (trimmed targetUserID) m).length ≤ 1) :
    db.moderationRecentReportPressure P targetUserID ≤
      ({ db with reports := db.reports ++ [r] } : DB K).moderationRecentReportPressure P targetUserID := by
  have hbefore : ∀ m ∈ db.recentMatches (trimmed targetUserID),
      (db.reportsOn (trimmed targetUserID) m).length ≤ 1 := by
    intro m hm
    have h := honce m hm
    rw [reportsOn_append, List.length_append] at h
    omega
  have hrecent := (recentGames_eq_iff db _).2 hbefore
  have hrecent' := (recentGames_eq_iff ({ db with reports := db.reports ++ [r] } : DB K) _).2 honce
  unfold DB.moderationRecentReportPressure
  dsimp only
  split_ifs
  · exact le_rfl
  · refine pressure_mono P ?_ (reportedGames_le_append db r _)
    rw [hrecent', hrecent, recentMatches_append]

theorem projection_le_append (hsound : db.Sound) {row : CaseRow K}
    (hrow : db.cases.lookup r.caseID = some row) (htarget : row.targetUserID = r.reportedUserID)
    (hweight : 0 ≤ r.reporterWeight)
    (honce : ∀ m ∈ db.recentMatches (trimmed r.reportedUserID),
      (({ db with reports := db.reports ++ [r] } : DB K).reportsOn (trimmed r.reportedUserID) m).length ≤ 1) :
    (db.projection P r.caseID).score ≤
      (({ db with reports := db.reports ++ [r] } : DB K).projection P r.caseID).score := by
  have hcase : ∀ r' ∈ db.reportsOfCase r.caseID, r'.reportedUserID = r.reportedUserID := by
    intro r' hr'
    obtain ⟨hmem, hid⟩ := List.mem_filter.1 hr'
    obtain ⟨row', hrow', htarget'⟩ := hsound.onTarget r' hmem
    rw [of_decide_eq_true hid, hrow, Option.some_inj] at hrow'
    rw [← htarget', ← hrow', htarget]
  have hrows : ({ db with reports := db.reports ++ [r] } : DB K).reportsOfCase r.caseID =
      db.reportsOfCase r.caseID ++ [r] := by
    simp [DB.reportsOfCase, List.filter_append]
  have hnew : reportedTarget (db.reportsOfCase r.caseID ++ [r]) = r.reportedUserID := by
    refine reportedTarget_eq (by simp) fun r' hr' => ?_
    rcases List.mem_append.1 hr' with hr' | hr'
    · exact hcase r' hr'
    · rw [List.mem_singleton.1 hr']
  have hscore := reporterScore_le_append
    (fun r' hr' => hsound.weight_nonneg r' (List.mem_filter.1 hr').1 : ∀ r' ∈ db.reportsOfCase r.caseID, _)
    hweight
  have hpressure := moderationRecentReportPressure_le_append P db r r.reportedUserID honce
  unfold DB.projection
  dsimp only
  rw [hrows, hnew]
  rcases reportedTarget_or hcase with hold | hold
  · rw [hold, pressure_empty, evidence_empty]
    have hpos := moderationRecentReportPressure_nonneg P
      ({ db with reports := db.reports ++ [r] } : DB K) r.reportedUserID
    have hevidence := moderationGameplayEvidence_nonneg
      ({ db with reports := db.reports ++ [r] } : DB K) r.reportedUserID
    linarith
  · rw [hold]
    exact add_le_add (add_le_add hscore hpressure) le_rfl

/-- A new report lowers nothing exactly when it leaves at most one report on each recent game. -/
theorem notLowered_iff (hsound : db.Sound) {row : CaseRow K}
    (hrow : db.cases.lookup r.caseID = some row) (htarget : row.targetUserID = r.reportedUserID)
    (hweight : 0 ≤ r.reporterWeight) (hinsert : db.insertReport r = some db') :
    NotLowered P db db' r ↔
      ∀ m ∈ db.recentMatches (trimmed r.reportedUserID),
        (db'.reportsOn (trimmed r.reportedUserID) m).length ≤ 1 := by
  obtain rfl := DB.insertReport_cases hinsert
  have hiff := recentGames_eq_iff ({ db with reports := db.reports ++ [r] } : DB K)
    (trimmed r.reportedUserID)
  constructor
  · intro h
    exact hiff.1 h.recentGames
  · intro honce
    have hscore := projection_le_append P hsound hrow htarget hweight honce
    exact ⟨hscore, moderationPriority_mono hscore, hiff.2 honce, reportedGames_le_recentGames _ _⟩

end NewReport

/-! ## A second report on one match -/

/-- A match of three players, the first of whom is reported by the second. -/
noncomputable def reportedOnce (reports : List (ReportRow ℝ)) : DB ℝ where
  history := [⟨"match", 5⟩]
  players := [⟨"match", "target"⟩, ⟨"match", "first"⟩, ⟨"match", "second"⟩]
  reports := reports
  cases := AList.insert 1 { targetUserID := "target", score := 0, latestActivityAt := 6 } ∅
  nextCaseID := 2

noncomputable def firstReport : ReportRow ℝ := ⟨1, "match", "first", "target", "cheating", 1, 6⟩

/-- The report of a muted player. -/
noncomputable def secondReport : ReportRow ℝ := ⟨1, "match", "second", "target", "cheating", 0, 7⟩

theorem reportedOnce_sound {reports : List (ReportRow ℝ)}
    (h : ∀ r ∈ reports, r.caseID = 1 ∧ r.reportedUserID = "target" ∧ 0 ≤ r.reporterWeight) :
    (reportedOnce reports).Sound where
  onTarget r hr := by
    obtain ⟨hcase, htarget, -⟩ := h r hr
    rw [hcase, htarget]
    exact ⟨_, AList.lookup_insert _, rfl⟩
  fresh id hid := by
    rcases AList.mem_insert _ |>.1 hid with rfl | hid
    · exact Nat.lt_succ_self _
    · exact absurd hid (AList.notMem_empty _)
  weight_nonneg r hr := (h r hr).2.2

theorem notLowered_firstReport :
    NotLowered Power.real (reportedOnce []) (reportedOnce [firstReport]) firstReport := by
  refine (notLowered_iff Power.real (reportedOnce_sound (by simp)) (AList.lookup_insert _) rfl
    (by norm_num [firstReport]) rfl).2 ?_
  intro m _
  exact (List.length_filter_le _ _).trans le_rfl

theorem score_reportedOnce (reports : List (ReportRow ℝ))
    (htarget : reportedTarget (reports.filter (·.caseID = 1)) = "target") :
    ((reportedOnce reports).projection Power.real 1).score =
      reporterScore (reports.filter (·.caseID = 1)) +
        ((reportedOnce reports).recentReportCounts "target").pressure Power.real := by
  have htrim : trimmed "target" = "target" := by decide
  have hevidence : (reportedOnce reports).moderationGameplayEvidence "target" = 0 := by
    simp [DB.moderationGameplayEvidence, htrim, reportedOnce]
  have hpressure : (reportedOnce reports).moderationRecentReportPressure Power.real "target" =
      ((reportedOnce reports).recentReportCounts "target").pressure Power.real := by
    simp [DB.moderationRecentReportPressure, htrim]
  have hrows : (reportedOnce reports).reportsOfCase 1 = reports.filter (·.caseID = 1) := rfl
  unfold DB.projection
  dsimp only
  rw [hrows, htarget, hpressure, hevidence, add_zero]

/-- A second report on the match of the first one lowers the score: the recent games become two. -/
theorem not_notLowered_secondReport :
    ¬ ∀ (db db' : DB ℝ) (r : ReportRow ℝ) (row : CaseRow ℝ), db.Sound →
      db.cases.lookup r.caseID = some row → row.targetUserID = r.reportedUserID →
        0 ≤ r.reporterWeight → db.insertReport r = some db' → NotLowered Power.real db db' r := by
  intro h
  have hsound : (reportedOnce [firstReport]).Sound := reportedOnce_sound (by simp [firstReport])
  have hlow := (h (reportedOnce [firstReport]) (reportedOnce [firstReport, secondReport]) secondReport _ hsound
    (AList.lookup_insert _) rfl le_rfl (by
      unfold DB.insertReport
      rw [if_neg (by simp [reportedOnce, firstReport, secondReport])]
      rfl)).score
  have hcounts : (reportedOnce [firstReport]).recentReportCounts "target" = ⟨1, 1⟩ := by decide +kernel
  have hcounts' : (reportedOnce [firstReport, secondReport]).recentReportCounts "target" = ⟨2, 1⟩ := by
    decide +kernel
  have hpow : (1 / 2 : ℝ) ^ (16 / 10 : ℝ) < 1 / 2 := by
    calc (1 / 2 : ℝ) ^ (16 / 10 : ℝ) < (1 / 2 : ℝ) ^ (1 : ℝ) :=
          Real.rpow_lt_rpow_of_exponent_gt (by norm_num) (by norm_num) (by norm_num)
      _ = 1 / 2 := Real.rpow_one _
  rw [show secondReport.caseID = 1 from rfl, score_reportedOnce _ (by decide +kernel),
    score_reportedOnce _ (by decide +kernel), hcounts, hcounts'] at hlow
  norm_num [RecentReportCounts.pressure, Power.real, firstReport, secondReport, reporterScore, matchScore]
    at hlow hpow
  linarith

end GeoDuels.Reports
