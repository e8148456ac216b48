import GeoDuels.Reports.Cases

/-!
# Projection passes

A pass refreshes the open cases with the latest activity, and a refresh is itself activity.  So the cases of
the first pass stay in front of the others (`Leads`), and every later pass takes the same ones.
-/

namespace GeoDuels.Reports

open Moderation (CaseID)

/-! ## Prefixes of sorted lists -/

/-- In a list where `p` only holds of a prefix, that prefix is the first `countP p` elements. -/
theorem take_countP_eq_filter {α : Type*} {p : α → Bool} {l : List α}
    (h : l.Pairwise fun a b => p b = true → p a = true) : l.take (l.countP p) = l.filter p := by
  induction l with
  | nil => rfl
  | cons a l ih =>
    obtain ⟨ha, hl⟩ := List.pairwise_cons.1 h
    cases hp : p a with
    | true => rw [List.countP_cons_of_pos hp, List.take_succ_cons, ih hl, List.filter_cons_of_pos hp]
    | false =>
      have hnone : ∀ b ∈ a :: l, ¬ p b = true := by
        intro b hb hpb
        rcases List.mem_cons.1 hb with rfl | hb
        · exact absurd (hp.symm.trans hpb) Bool.false_ne_true
        · exact absurd (hp.symm.trans (ha b hb hpb)) Bool.false_ne_true
      rw [List.countP_eq_zero.2 hnone, List.take_zero, List.filter_eq_nil_iff.2 hnone]

variable {K : Type*} [Field K] [LinearOrder K] (P : Power K)

section Passes

set_option linter.unusedSectionVars false

variable {P} {db db' : DB K} {id : CaseID} {row : CaseRow K} {limit : ℤ}

/-! ## The order of the cases -/

theorem before_refl_or (c c' : Sigma fun _ : CaseID => CaseRow K) : CaseRow.Before c c' ∨ CaseRow.Before c' c := by
  rcases lt_trichotomy c.2.latestActivityAt c'.2.latestActivityAt with h | h | h
  · exact .inr (.inl h)
  · exact (le_total c.1 c'.1).imp (fun hid => .inr ⟨h.symm, hid⟩) fun hid => .inr ⟨h, hid⟩
  · exact .inl (.inl h)

theorem before_trans {c c' c'' : Sigma fun _ : CaseID => CaseRow K} (h : CaseRow.Before c c')
    (h' : CaseRow.Before c' c'') : CaseRow.Before c c'' := by
  rcases h with h | ⟨h, hid⟩ <;> rcases h' with h' | ⟨h', hid'⟩
  · exact .inl (h'.trans h)
  · exact .inl (h'.symm ▸ h)
  · exact .inl (h ▸ h')
  · exact .inr ⟨h'.trans h, hid.trans hid'⟩

theorem before_antisymm {c c' : Sigma fun _ : CaseID => CaseRow K} (h : CaseRow.Before c c')
    (h' : CaseRow.Before c' c) : c.1 = c'.1 := by
  rcases h with h | ⟨h, hid⟩ <;> rcases h' with h' | ⟨h', hid'⟩
  · exact absurd h h'.not_gt
  · exact absurd h'.symm h.ne
  · exact absurd h.symm h'.ne
  · exact le_antisymm hid hid'

instance : Std.Total (CaseRow.Before (K := K)) := ⟨before_refl_or⟩

instance : IsTrans _ (CaseRow.Before (K := K)) := ⟨fun _ _ _ => before_trans⟩

/-! ## The open cases -/

def DB.IsOpen (db : DB K) (id : CaseID) : Prop :=
  ∃ row, db.cases.lookup id = some row ∧ row.status.isOpen = true

theorem mem_openCases : (⟨id, row⟩ : Sigma fun _ : CaseID => CaseRow K) ∈ db.openCases ↔
    db.cases.lookup id = some row ∧ row.status.isOpen = true := by
  rw [DB.openCases, List.mem_filter, ← AList.mem_lookup_iff]
  rfl

def DB.openIDs (db : DB K) : List CaseID := db.openCases.map (·.1)

theorem mem_openIDs : id ∈ db.openIDs ↔ db.IsOpen id := by
  constructor
  · intro h
    obtain ⟨⟨_, row⟩, hc, rfl⟩ := List.mem_map.1 h
    exact ⟨row, mem_openCases.1 hc⟩
  · rintro ⟨row, hrow⟩
    exact List.mem_map.2 ⟨⟨id, row⟩, mem_openCases.2 hrow, rfl⟩

theorem nodup_openIDs (db : DB K) : db.openIDs.Nodup :=
  List.Nodup.sublist (List.filter_sublist.map _) db.cases.nodupKeys

def DB.sortedCases (db : DB K) : List (Sigma fun _ : CaseID => CaseRow K) :=
  db.openCases.insertionSort CaseRow.Before

theorem selectedCases_eq (db : DB K) (limit : ℤ) :
    db.selectedCases limit = (db.sortedCases.map (·.1)).take (projectionLimit limit) :=
  List.map_take.symm ▸ rfl

theorem sortedCases_ids_perm (db : DB K) : (db.sortedCases.map (·.1)).Perm db.openIDs :=
  (List.perm_insertionSort _ _).map _

theorem nodup_selectedCases (db : DB K) (limit : ℤ) : (db.selectedCases limit).Nodup := by
  rw [selectedCases_eq]
  exact ((sortedCases_ids_perm db).nodup_iff.2 (nodup_openIDs db)).sublist (List.take_sublist _ _)

theorem isOpen_of_mem_selectedCases (h : id ∈ db.selectedCases limit) : db.IsOpen id := by
  rw [selectedCases_eq] at h
  exact mem_openIDs.1 ((sortedCases_ids_perm db).mem_iff.1 (List.mem_of_mem_take h))

theorem length_selectedCases (db : DB K) (limit : ℤ) :
    (db.selectedCases limit).length = min (projectionLimit limit) db.openIDs.length := by
  rw [selectedCases_eq, List.length_take, (sortedCases_ids_perm db).length_eq]

/-- With room for all of them, a pass takes every open case. -/
theorem mem_selectedCases_of_le (h : db.openIDs.length ≤ projectionLimit limit) (hid : db.IsOpen id) :
    id ∈ db.selectedCases limit := by
  rw [selectedCases_eq, List.take_of_length_le (by rwa [(sortedCases_ids_perm db).length_eq])]
  exact (sortedCases_ids_perm db).mem_iff.2 (mem_openIDs.2 hid)

/-! ## One pass -/

/-- The tables that a projection is computed from. -/
structure SameEvidence (db db' : DB K) : Prop where
  history : db'.history = db.history
  players : db'.players = db.players
  guesses : db'.guesses = db.guesses
  reports : db'.reports = db.reports

theorem SameEvidence.refl (db : DB K) : SameEvidence db db := ⟨rfl, rfl, rfl, rfl⟩

theorem SameEvidence.trans {db'' : DB K} (h : SameEvidence db db') (h' : SameEvidence db' db'') :
    SameEvidence db db'' :=
  ⟨h'.history.trans h.history, h'.players.trans h.players, h'.guesses.trans h.guesses,
    h'.reports.trans h.reports⟩

theorem SameEvidence.projection (h : SameEvidence db db') (id : CaseID) :
    db'.projection P id = db.projection P id := by
  obtain ⟨hhistory, hplayers, hguesses, hreports⟩ := h
  have hjoined : db'.joinedReports = db.joinedReports := by
    funext userID matchID
    simp only [DB.joinedReports, DB.reportsOn, hreports]
  have hcounts : db'.recentReportCounts = db.recentReportCounts := by
    funext userID
    simp only [DB.recentReportCounts, DB.recentMatches, hjoined, hhistory, hplayers]
  have hpressure : db'.moderationRecentReportPressure P = db.moderationRecentReportPressure P := by
    funext userID
    simp only [DB.moderationRecentReportPressure, hcounts]
  have hevidence : db'.moderationGameplayEvidence = db.moderationGameplayEvidence := by
    funext userID
    simp only [DB.moderationGameplayEvidence, hguesses]
  simp only [DB.projection, DB.reportsOfCase, hpressure, hevidence, hreports]

/-- The row of a case after a refresh of it between the times `t` and `t'`. -/
structure Refreshed (P : Power K) (db : DB K) (t t' : ℕ) (id : CaseID) (row row' : CaseRow K) : Prop where
  status : row'.status = row.status
  after : t ≤ row'.latestActivityAt
  before : row'.latestActivityAt ≤ t'
  projection : row'.projection = db.projection P id

theorem refresh_spec (now : ℕ) (hrow : db.cases.lookup id = some row) :
    ∃ row' notify, db.refreshModerationCaseSummary P now id =
        some ({ db with cases := db.cases.insert id row' }, notify) ∧
      Refreshed P db now now id row row' := by
  unfold DB.refreshModerationCaseSummary
  rw [hrow]
  exact ⟨_, _, rfl, rfl, le_rfl, le_rfl, rfl⟩

theorem cases_enqueue (db : DB K) (key : String) :
    (db.enqueueNotificationOutbox key).cases = db.cases ∧
      SameEvidence db (db.enqueueNotificationOutbox key) := by
  unfold DB.enqueueNotificationOutbox
  split_ifs
  · exact ⟨rfl, .refl db⟩
  · exact ⟨rfl, rfl, rfl, rfl, rfl⟩

/-- What the loop leaves, from the `i`-th case on. -/
structure LoopSpec (P : Power K) (clk : Clock) (i : ℕ) (ids : List CaseID) (db : DB K) (r : PassResult K) :
    Prop where
  failed : r.failed = false
  recomputed : r.recomputed = i + ids.length
  evidence : SameEvidence db r.db
  mem : ∀ id ∈ ids, ∀ row, db.cases.lookup id = some row →
    ∃ row', r.db.cases.lookup id = some row' ∧ Refreshed P db clk.start clk.stop id row row'
  other : ∀ id ∉ ids, r.db.cases.lookup id = db.cases.lookup id

theorem recomputeFrom_spec (clk : Clock) (ids : List CaseID) (hids : ids.Nodup) (i : ℕ) (db : DB K)
    (hrows : ∀ id ∈ ids, ∃ row, db.cases.lookup id = some row) :
    LoopSpec P clk i ids db (DB.recomputeFrom P clk i ids db) := by
  induction ids generalizing i db with
  | nil => exact ⟨rfl, rfl, .refl db, fun _ h => absurd h List.not_mem_nil, fun _ _ => rfl⟩
  | cons id ids ih =>
    obtain ⟨hnot, hids⟩ := List.nodup_cons.1 hids
    obtain ⟨row, hrow⟩ := hrows id (List.mem_cons_self ..)
    obtain ⟨row', notify, hrefresh, hrefreshed⟩ := refresh_spec (P := P) (clk.read i) hrow
    rw [DB.recomputeFrom, hrefresh]
    dsimp only
    -- the notification changes neither the cases nor what they are computed from
    obtain ⟨db₁, hdb₁⟩ : ∃ db₁, db₁ = (if notify then
        ({ db with cases := db.cases.insert id row' } : DB K).enqueueNotificationOutbox (notificationKey id)
        else { db with cases := db.cases.insert id row' }) := ⟨_, rfl⟩
    rw [← hdb₁]
    have hcases : db₁.cases = db.cases.insert id row' ∧ SameEvidence db db₁ := by
      obtain ⟨hcases, hsame⟩ := cases_enqueue
        ({ db with cases := db.cases.insert id row' } : DB K) (notificationKey id)
      rw [hdb₁]
      split_ifs
      · exact ⟨hcases, hsame.history, hsame.players, hsame.guesses, hsame.reports⟩
      · exact ⟨rfl, rfl, rfl, rfl, rfl⟩
    obtain ⟨hcases, hsame⟩ := hcases
    have hlookup : ∀ c, c ≠ id → db₁.cases.lookup c = db.cases.lookup c := by
      intro c hc
      rw [hcases, AList.lookup_insert_ne hc]
    have hspec := ih hids (i + 1) db₁ fun c hc => by
      rw [hlookup c fun h => hnot (h ▸ hc)]
      exact hrows c (List.mem_cons_of_mem _ hc)
    constructor
    · exact hspec.failed
    · rw [hspec.recomputed, List.length_cons]
      omega
    · exact hsame.trans hspec.evidence
    · intro c hc row₀ hrow₀
      rcases List.mem_cons.1 hc with rfl | hc
      · obtain rfl : row = row₀ := Option.some_inj.1 (hrow.symm.trans hrow₀)
        refine ⟨row', ?_, hrefreshed.status, (clk.start_le_read i).trans hrefreshed.after,
          hrefreshed.before.trans (clk.le_stop i), hrefreshed.projection⟩
        rw [hspec.other _ hnot, hcases, AList.lookup_insert]
      · have hne : c ≠ id := fun h => hnot (h ▸ hc)
        obtain ⟨row'', hrow'', h⟩ := hspec.mem c hc row₀ (by rw [hlookup c hne, hrow₀])
        exact ⟨row'', hrow'', h.status, h.after, h.before, h.projection.trans (hsame.projection c)⟩
    · intro c hc
      obtain ⟨hne, hc⟩ := not_or.1 (mt List.mem_cons.2 hc)
      rw [hspec.other c hc, hlookup c hne]

/-- A pass by itself never fails, and refreshes exactly the cases that it has selected. -/
theorem recompute_spec (P : Power K) (db : DB K) (clk : Clock) (limit : ℤ) :
    LoopSpec P clk 0 (db.selectedCases limit) db (db.recomputeModerationProjections P clk limit) :=
  recomputeFrom_spec clk _ (nodup_selectedCases db limit) 0 db fun _ hid =>
    (isOpen_of_mem_selectedCases hid).imp fun _ h => h.1

theorem isOpen_recompute (P : Power K) (db : DB K) (clk : Clock) (limit : ℤ) (id : CaseID) :
    (db.recomputeModerationProjections P clk limit).db.IsOpen id ↔ db.IsOpen id := by
  have hspec := recompute_spec P db clk limit
  by_cases hid : id ∈ db.selectedCases limit
  · obtain ⟨row, hrow, hopen⟩ := isOpen_of_mem_selectedCases hid
    obtain ⟨row', hrow', h⟩ := hspec.mem id hid row hrow
    exact iff_of_true ⟨row', hrow', by rw [h.status, hopen]⟩ ⟨row, hrow, hopen⟩
  · unfold DB.IsOpen
    rw [hspec.other id hid]

/-! ## Passes in a row -/

/-- The cases in `S` are open, and each stands before every open case outside. -/
structure Leads (db : DB K) (S : List CaseID) : Prop where
  nodup : S.Nodup
  isOpen : ∀ id ∈ S, db.IsOpen id
  before : ∀ id ∈ S, ∀ row, db.cases.lookup id = some row → ∀ c ∉ S, ∀ row', db.cases.lookup c = some row' →
    row'.status.isOpen = true → CaseRow.Before ⟨id, row⟩ ⟨c, row'⟩

theorem pairwise_sortedCases (db : DB K) : db.sortedCases.Pairwise CaseRow.Before :=
  List.pairwise_insertionSort _ _

theorem mem_sortedCases {c : Sigma fun _ : CaseID => CaseRow K} :
    c ∈ db.sortedCases ↔ c ∈ db.openCases := (List.perm_insertionSort _ _).mem_iff

/-- A first selection leads. -/
theorem leads_selectedCases (db : DB K) (limit : ℤ) : Leads db (db.selectedCases limit) where
  nodup := nodup_selectedCases db limit
  isOpen _ h := isOpen_of_mem_selectedCases h
  before id hid row hrow c hc row' hrow' hopen := by
    have hsplit : db.sortedCases = db.sortedCases.take (projectionLimit limit) ++
        db.sortedCases.drop (projectionLimit limit) := (List.take_append_drop _ _).symm
    have hpair := pairwise_sortedCases db
    rw [hsplit, List.pairwise_append] at hpair
    obtain ⟨⟨_, row₁⟩, hmem, rfl⟩ := List.mem_map.1 hid
    have hin := (mem_openCases.1 (mem_sortedCases.1 (List.mem_of_mem_take hmem))).1
    obtain rfl : row₁ = row := Option.some_inj.1 (hin.symm.trans hrow)
    have hout : (⟨c, row'⟩ : Sigma fun _ : CaseID => CaseRow K) ∈ db.sortedCases :=
      mem_sortedCases.2 (mem_openCases.2 ⟨hrow', hopen⟩)
    rw [hsplit, List.mem_append] at hout
    rcases hout with hout | hout
    · exact absurd (List.mem_map.2 ⟨_, hout, rfl⟩) hc
    · exact hpair.2.2 _ hmem _ hout

/-- Where as many cases lead as a pass takes, it takes these. -/
theorem mem_selectedCases_of_leads {S : List CaseID} (h : Leads db S) (hlen : S.length = projectionLimit limit) :
    id ∈ db.selectedCases limit ↔ id ∈ S := by
  have hpair : db.sortedCases.Pairwise fun a b => decide (b.1 ∈ S) = true → decide (a.1 ∈ S) = true := by
    refine (pairwise_sortedCases db).imp_of_mem fun {a b} ha hb hab hS => ?_
    by_contra hnot
    obtain ⟨hrow, hopen⟩ := mem_openCases.1 (mem_sortedCases.1 ha)
    have hba := h.before b.1 (of_decide_eq_true hS) b.2 (mem_openCases.1 (mem_sortedCases.1 hb)).1 a.1
      (fun hmem => hnot (decide_eq_true hmem)) a.2 hrow hopen
    exact hnot (before_antisymm hab hba ▸ hS)
  have hcount : db.sortedCases.countP (fun c => decide (c.1 ∈ S)) = projectionLimit limit := by
    have hperm : ((db.sortedCases.map (·.1)).filter (· ∈ S)).Perm S := by
      rw [List.perm_ext_iff_of_nodup
        (((sortedCases_ids_perm db).nodup_iff.2 (nodup_openIDs db)).filter _) h.nodup]
      intro c
      rw [List.mem_filter, (sortedCases_ids_perm db).mem_iff, mem_openIDs, decide_eq_true_iff]
      exact and_iff_right_of_imp (h.isOpen c)
    rw [← hlen, ← hperm.length_eq, ← List.countP_eq_length_filter, List.countP_map]
    rfl
  have hselected : db.selectedCases limit =
      (db.sortedCases.filter fun c => decide (c.1 ∈ S)).map (·.1) := by
    rw [← take_countP_eq_filter hpair, hcount]
    rfl
  rw [hselected, List.mem_map]
  constructor
  · rintro ⟨c, hc, rfl⟩
    exact of_decide_eq_true (List.mem_filter.1 hc).2
  · intro hid
    obtain ⟨row, hrow⟩ := h.isOpen id hid
    exact ⟨⟨id, row⟩, List.mem_filter.2 ⟨mem_sortedCases.2 (mem_openCases.2 hrow), decide_eq_true hid⟩, rfl⟩

/-- No activity of a case is later than `t`. -/
def DB.Recorded (db : DB K) (t : ℕ) : Prop :=
  ∀ id row, db.cases.lookup id = some row → row.latestActivityAt ≤ t

theorem Leads.recompute {S : List CaseID} (h : Leads db S) (hlen : S.length = projectionLimit limit)
    {clk : Clock} (hrec : db.Recorded clk.start) :
    Leads (db.recomputeModerationProjections P clk limit).db S := by
  have hspec := recompute_spec P db clk limit
  have hmem : ∀ {c}, c ∈ db.selectedCases limit ↔ c ∈ S := mem_selectedCases_of_leads h hlen
  constructor
  · exact h.nodup
  · exact fun c hc => (isOpen_recompute P db clk limit c).2 (h.isOpen c hc)
  · intro c hc row hrow c' hc' row' hrow' hopen
    obtain ⟨old, hold, -⟩ := h.isOpen c hc
    obtain ⟨new, hnew, hrefreshed⟩ := hspec.mem c (hmem.2 hc) old hold
    obtain rfl : new = row := Option.some_inj.1 (hnew.symm.trans hrow)
    rw [hspec.other c' (mt hmem.1 hc')] at hrow'
    -- the case has moved up, the other one has not
    have hgrown : old.latestActivityAt ≤ new.latestActivityAt := (hrec c old hold).trans hrefreshed.after
    rcases h.before c hc old hold c' hc' row' hrow' hopen with hlt | ⟨heq, hid⟩
    · exact .inl (hlt.trans_le hgrown)
    · rcases hgrown.eq_or_lt with heq' | hlt
      · exact .inr ⟨heq.trans heq', hid⟩
      · exact .inl (heq ▸ hlt)

theorem recorded_recompute {clk : Clock} (hrec : db.Recorded clk.start) :
    (db.recomputeModerationProjections P clk limit).db.Recorded clk.stop := by
  have hspec := recompute_spec P db clk limit
  intro c row hrow
  by_cases hc : c ∈ db.selectedCases limit
  · obtain ⟨old, hold, -⟩ := isOpen_of_mem_selectedCases hc
    obtain ⟨new, hnew, h⟩ := hspec.mem c hc old hold
    rw [← Option.some_inj.1 (hnew.symm.trans hrow)]
    exact h.before
  · rw [hspec.other c hc] at hrow
    exact (hrec c row hrow).trans clk.start_le_stop

end Passes

/-- Successive passes. -/
def DB.afterPasses (limit : ℤ) : List Clock → DB K → DB K
  | [], db => db
  | clk :: clks, db => DB.afterPasses limit clks (db.recomputeModerationProjections P clk limit).db

/-- The cases that the passes refresh, in their order. -/
def DB.refreshedIn (limit : ℤ) : List Clock → DB K → List CaseID
  | [], _ => []
  | clk :: clks, db =>
      db.selectedCases limit ++
        DB.refreshedIn limit clks (db.recomputeModerationProjections P clk limit).db

/-- All calls succeed. -/
def DB.Succeed (limit : ℤ) : List Clock → DB K → Prop
  | [], _ => True
  | clk :: clks, db =>
      (db.recomputeModerationProjections P clk limit).failed = false ∧
        DB.Succeed limit clks (db.recomputeModerationProjections P clk limit).db

/-- Each pass is later than those before, and than what has been recorded before the first one. -/
def DB.InOrder (db : DB K) (clks : List Clock) : Prop :=
  (∀ clk ∈ clks, db.Recorded clk.start) ∧ clks.Pairwise fun clk clk' => clk.stop < clk'.start

/-- Every open case has been refreshed, and shows what is computed from its reports. -/
def AllReached (db : DB K) (limit : ℤ) (clks : List Clock) : Prop :=
  ∀ id, db.IsOpen id → id ∈ db.refreshedIn P limit clks ∧
    ((db.afterPasses P limit clks).cases.lookup id).map CaseRow.projection =
      some ((db.afterPasses P limit clks).projection P id)

section Runs

set_option linter.unusedSectionVars false

variable {P} {db : DB K} {id : CaseID} {limit : ℤ} {clk : Clock} {clks : List Clock}

theorem projectionLimit_eq (hpos : 1 ≤ limit) (hle : limit ≤ 500) : projectionLimit limit = limit.toNat := by
  unfold projectionLimit
  dsimp only
  rw [if_neg (by omega), if_neg (by omega)]

theorem DB.InOrder.tail (h : db.InOrder (clk :: clks)) :
    (db.recomputeModerationProjections P clk limit).db.InOrder clks := by
  obtain ⟨hrec, hlater⟩ := h
  obtain ⟨hclk, hlater⟩ := List.pairwise_cons.1 hlater
  refine ⟨fun clk' hclk' c row hrow => ?_, hlater⟩
  exact (recorded_recompute (hrec clk (List.mem_cons_self ..)) c row hrow).trans (hclk clk' hclk').le

theorem succeed (P : Power K) (limit : ℤ) (clks : List Clock) (db : DB K) : db.Succeed P limit clks := by
  induction clks generalizing db with
  | nil => trivial
  | cons clk clks ih => exact ⟨(recompute_spec P db clk limit).failed, ih _⟩

/-- Once some cases lead that fill a pass, no other one is ever refreshed. -/
theorem mem_of_mem_refreshedIn {S : List CaseID} (h : Leads db S) (hlen : S.length = projectionLimit limit)
    (horder : db.InOrder clks) (hid : id ∈ db.refreshedIn P limit clks) : id ∈ S := by
  induction clks generalizing db with
  | nil => exact absurd hid List.not_mem_nil
  | cons clk clks ih =>
    rcases List.mem_append.1 hid with hid | hid
    · exact (mem_selectedCases_of_leads h hlen).1 hid
    · exact ih (h.recompute hlen (horder.1 clk (List.mem_cons_self ..))) horder.tail hid

/-- The row of the case is the projection of its reports. -/
def DB.UpToDate (P : Power K) (db : DB K) (id : CaseID) : Prop :=
  (db.cases.lookup id).map CaseRow.projection = some (db.projection P id)

theorem upToDate_recompute (h : id ∈ db.selectedCases limit ∨ db.UpToDate P id) :
    (db.recomputeModerationProjections P clk limit).db.UpToDate P id := by
  have hspec := recompute_spec P db clk limit
  unfold DB.UpToDate
  rw [hspec.evidence.projection]
  by_cases hid : id ∈ db.selectedCases limit
  · obtain ⟨row, hrow, -⟩ := isOpen_of_mem_selectedCases hid
    obtain ⟨row', hrow', hrefreshed⟩ := hspec.mem id hid row hrow
    rw [hrow', Option.map_some, hrefreshed.projection]
  · rw [hspec.other id hid]
    exact h.resolve_left hid

theorem upToDate_afterPasses (h : db.UpToDate P id) : (db.afterPasses P limit clks).UpToDate P id := by
  induction clks generalizing db with
  | nil => exact h
  | cons clk clks ih => exact ih (upToDate_recompute (.inr h))

/-- The passes reach every open case exactly when one pass has room for all of them. -/
theorem allReached_iff (P : Power K) (db : DB K) (limit : ℤ) (hpos : 1 ≤ limit) (hle : limit ≤ 500)
    (clks : List Clock) (horder : db.InOrder clks)
    (hlen : clks.length = (db.openIDs.length + limit.toNat - 1) / limit.toNat) :
    db.Succeed P limit clks ∧ (AllReached P db limit clks ↔ db.openIDs.length ≤ limit.toNat) := by
  have hlimit := projectionLimit_eq hpos hle
  have hL : 0 < limit.toNat := by omega
  refine ⟨succeed P limit clks db, fun hall => ?_, fun hroom id hid => ?_⟩
  · by_contra hmore
    have hcount : (db.selectedCases limit).length = projectionLimit limit := by
      rw [length_selectedCases, hlimit]
      omega
    have hsub : db.openIDs ⊆ db.selectedCases limit := fun id hid =>
      mem_of_mem_refreshedIn (leads_selectedCases db limit) hcount horder (hall id (mem_openIDs.1 hid)).1
    have hfew := ((nodup_openIDs db).subperm hsub).length_le
    omega
  · have hsome : 0 < db.openIDs.length := List.length_pos_of_mem (mem_openIDs.2 hid)
    cases clks with
    | nil =>
      have hceil : 1 ≤ (db.openIDs.length + limit.toNat - 1) / limit.toNat :=
        (Nat.one_le_div_iff hL).2 (by omega)
      exact absurd hlen (by rw [List.length_nil]; omega)
    | cons clk clks =>
      have hsel := mem_selectedCases_of_le (hroom.trans hlimit.ge) hid
      have hfirst : (db.recomputeModerationProjections P clk limit).db.UpToDate P id :=
        upToDate_recompute (.inl hsel)
      have hlast : ((db.recomputeModerationProjections P clk limit).db.afterPasses P limit clks).UpToDate P id :=
        upToDate_afterPasses hfirst
      exact ⟨List.mem_append_left _ hsel, hlast⟩

end Runs

/-! ## Two cases, one at a time -/

/-- Two open cases that have never been refreshed. -/
def twoCases : DB ℝ where
  cases := AList.insert 2 { targetUserID := "second", score := 0, latestActivityAt := 2 }
    (AList.insert 1 { targetUserID := "first", score := 0, latestActivityAt := 1 } ∅)

theorem twoCases_inOrder : twoCases.InOrder [.still 5, .still 6] := by
  have hrec : ∀ t, 2 ≤ t → twoCases.Recorded t := by
    intro t ht id row hrow
    have hmem : (⟨id, row⟩ : Sigma fun _ : CaseID => CaseRow ℝ) ∈ twoCases.cases.entries :=
      AList.mem_lookup_iff.1 hrow
    rcases List.mem_cons.1 hmem with h | h
    · cases h
      exact ht
    · rcases List.mem_cons.1 h with h | h
      · cases h
        exact (by omega : 1 ≤ t)
      · exact absurd h List.not_mem_nil
  refine ⟨?_, by simp [Clock.still, Clock.start]⟩
  intro clk hclk
  rcases List.mem_cons.1 hclk with rfl | hclk
  · exact hrec 5 (by decide)
  · rw [List.mem_singleton.1 hclk]
    exact hrec 6 (by decide)

theorem twoCases_openIDs : twoCases.openIDs.length = 2 := by decide +kernel

theorem allReached_twoCases : AllReached Power.real twoCases 2 [.still 5] := by
  refine (allReached_iff Power.real twoCases 2 (by decide) (by decide) _ ⟨fun clk hclk => ?_,
    List.pairwise_singleton _ _⟩ (by rw [twoCases_openIDs]; rfl)).2.2 (by rw [twoCases_openIDs]; rfl)
  exact twoCases_inOrder.1 clk (List.mem_cons.2 (.inl (List.mem_singleton.1 hclk)))

/-- Two passes over one case each refresh the same case twice. -/
theorem not_allReached_twoCases :
    ¬ ∀ (db : DB ℝ) (limit : ℤ), 1 ≤ limit → limit ≤ 500 → ∀ clks : List Clock, db.InOrder clks →
      clks.length = (db.openIDs.length + limit.toNat - 1) / limit.toNat →
        AllReached Power.real db limit clks := by
  intro h
  have hall := h twoCases 1 (by decide) (by decide) [.still 5, .still 6] twoCases_inOrder
    (by rw [twoCases_openIDs]; rfl)
  have hone : (twoCases.selectedCases 1) = [2] := by decide +kernel
  have hopen : twoCases.IsOpen 1 := ⟨{ targetUserID := "first", score := 0, latestActivityAt := 1 }, rfl, rfl⟩
  have hmem := mem_of_mem_refreshedIn (leads_selectedCases twoCases 1) (by rw [hone]; rfl)
    twoCases_inOrder (hall 1 hopen).1
  rw [hone] at hmem
  exact absurd hmem (by decide)

end GeoDuels.Reports
