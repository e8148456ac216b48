import GeoDuels.Moderation.Store

/-!
# What reputations have counted

The counters of a reporter are those of the reports that they have counted (`Tallied`).  While no case is
opened again whose reports have been counted, the reports of an open case have not been counted, so a
transaction that finds its case open and closes it counts reports for the first time.
-/

namespace GeoDuels.Moderation

open ReadCommitted (view collect lookup_view_of_notMem)

/-! ## Counters -/

def Reputation.ofOutcome (rep : Reputation) : Outcome → ℕ
  | .confirmed => rep.confirmed
  | .dismissed => rep.dismissed
  | .inconclusive => rep.inconclusive
  | .abusive => rep.abusive

/-- The counters are those of the counted reports. -/
def Reputation.Tallied (rep : Reputation) : Prop :=
  ∀ o, rep.ofOutcome o = rep.counted.countP fun x => x.2 = o

/-- The reports that have been counted for a user. -/
def logOf (db : DB) (u : UserID) : List (Report × Outcome) :=
  ((db.lookup (.reputation u)).map fun rep : Reputation => rep.counted).getD []

def submittedOf (db : DB) (u : UserID) : ℕ :=
  ((db.lookup (.reputation u)).map fun rep : Reputation => rep.submitted).getD 0

def reportOfUser (u : UserID) : Sigma Row → List Report
  | ⟨.report r, _⟩ => if r.reporter = u then [r] else []
  | _ => []

def reportsBy (u : UserID) (db : DB) : List Report := collect (reportOfUser u) db

def countedOf : Sigma Row → List Report
  | ⟨.reputation _, rep⟩ => (rep : Reputation).counted.map Prod.fst
  | _ => []

/-- No report of the case has been counted. -/
def Uncounted (db : DB) (caseID : CaseID) : Prop :=
  ∀ r ∈ collect countedOf db, db.lookup (.report r) ≠ some caseID

instance (db : DB) (caseID : CaseID) : Decidable (Uncounted db caseID) :=
  inferInstanceAs (Decidable (∀ r ∈ collect countedOf db, db.lookup (.report r) ≠ some caseID))

def caseIsOpen (db : DB) (caseID : CaseID) : Bool :=
  ((db.lookup (.case caseID)).map fun row : CaseRow => row.status.isOpen).getD false

/-- Each report has been counted once at most, for its reporter, and the counters together are not more than
what the reporter has submitted. -/
def CountedOnce (db : DB) : Prop :=
  ∀ u rep, db.lookup (.reputation u) = some (rep : Reputation) →
    rep.Tallied ∧ (∀ x ∈ rep.counted, x.1.reporter = u) ∧ (rep.counted.map Prod.fst).Nodup ∧
      rep.confirmed + rep.dismissed + rep.inconclusive + rep.abusive ≤ rep.submitted

namespace Reputation

variable {rep : Reputation}

@[simp] theorem add_submitted (rep : Reputation) (o : Outcome) (rs : List Report) :
    (rep.add o rs).submitted = rep.submitted := by
  cases o <;> rfl

@[simp] theorem add_counted (rep : Reputation) (o : Outcome) (rs : List Report) :
    (rep.add o rs).counted = rep.counted ++ rs.map fun r => (r, o) := by
  cases o <;> rfl

theorem Tallied.add (h : rep.Tallied) (o : Outcome) (rs : List Report) : (rep.add o rs).Tallied := by
  intro o'
  have hcount : (rs.map fun r => (r, o)).countP (fun x => x.2 = o') = if o = o' then rs.length else 0 := by
    rw [List.countP_map]
    by_cases ho : o = o'
    · simp [ho, Function.comp_def]
    · simp [ho, Function.comp_def]
  have hbefore := h o'
  rw [add_counted, List.countP_append, hcount, ← hbefore]
  cases o <;> cases o' <;> simp [Reputation.add, ofOutcome]

theorem Tallied.sum (h : rep.Tallied) :
    rep.confirmed + rep.dismissed + rep.inconclusive + rep.abusive = rep.counted.length := by
  have hsum : ∀ xs : List (Report × Outcome),
      xs.countP (fun x => x.2 = .confirmed) + xs.countP (fun x => x.2 = .dismissed) +
        xs.countP (fun x => x.2 = .inconclusive) + xs.countP (fun x => x.2 = .abusive) = xs.length := by
    intro xs
    induction xs with
    | nil => rfl
    | cons x xs ih =>
        obtain ⟨r, o⟩ := x
        cases o <;> simp <;> omega
  have h₁ := h .confirmed
  have h₂ := h .dismissed
  have h₃ := h .inconclusive
  have h₄ := h .abusive
  simp only [ofOutcome] at h₁ h₂ h₃ h₄
  rw [h₁, h₂, h₃, h₄]
  exact hsum rep.counted

end Reputation

section Rows

variable {own db rows : DB} {u : UserID} {c : CaseID}

theorem logOf_of_lookup {rep : Reputation} (h : db.lookup (.reputation u) = some rep) :
    logOf db u = rep.counted := by
  simp [logOf, h]

theorem submittedOf_of_lookup {rep : Reputation} (h : db.lookup (.reputation u) = some rep) :
    submittedOf db u = rep.submitted := by
  simp [submittedOf, h]

theorem logOf_keep (h : RowKey.reputation u ∉ rows) (db : DB) : logOf (view rows db) u = logOf db u := by
  unfold logOf
  rw [lookup_view_of_notMem h]

theorem submittedOf_keep (h : RowKey.reputation u ∉ rows) (db : DB) :
    submittedOf (view rows db) u = submittedOf db u := by
  unfold submittedOf
  rw [lookup_view_of_notMem h]

theorem mem_collect_countedOf {r : Report} :
    r ∈ collect countedOf db ↔ ∃ u, ∃ x ∈ logOf db u, x.1 = r := by
  rw [ReadCommitted.mem_collect]
  constructor
  · rintro ⟨k, v, hv, hr⟩
    cases k with
    | reputation u =>
        obtain ⟨x, hx, rfl⟩ := List.mem_map.1 hr
        exact ⟨u, x, by rwa [logOf_of_lookup hv], rfl⟩
    | case | openCase | report => cases hr
  · rintro ⟨u, x, hx, rfl⟩
    cases hrep : db.lookup (.reputation u) with
    | none => simp [logOf, hrep] at hx
    | some rep =>
        rw [logOf_of_lookup hrep] at hx
        exact ⟨.reputation u, rep, hrep, List.mem_map_of_mem hx⟩

theorem uncounted_iff :
    Uncounted db c ↔ ∀ u, ∀ x ∈ logOf db u, db.lookup (.report x.1) ≠ some c := by
  constructor
  · intro h u x hx
    exact h x.1 (mem_collect_countedOf.2 ⟨u, x, hx, rfl⟩)
  · intro h r hr
    obtain ⟨u, x, hx, rfl⟩ := mem_collect_countedOf.1 hr
    exact h u x hx

theorem mem_reportsBy {r : Report} : r ∈ reportsBy u db ↔ r.reporter = u ∧ RowKey.report r ∈ db := by
  unfold reportsBy
  rw [ReadCommitted.mem_collect]
  constructor
  · rintro ⟨k, v, hv, hr⟩
    cases k with
    | report r' =>
        simp only [reportOfUser] at hr
        split_ifs at hr with hu
        · obtain rfl := List.mem_singleton.1 hr
          exact ⟨hu, AList.lookup_isSome.1 (by rw [hv]; rfl)⟩
        · cases hr
    | case | openCase | reputation => cases hr
  · rintro ⟨hu, hmem⟩
    obtain ⟨v, hv⟩ := Option.isSome_iff_exists.1 (AList.lookup_isSome.2 hmem)
    exact ⟨.report r, v, hv, by simp [reportOfUser, hu]⟩

theorem mem_reportsOf {r : Report} : r ∈ reportsOf db c ↔ db.lookup (.report r) = some c := by
  unfold reportsOf
  rw [ReadCommitted.mem_collect]
  constructor
  · rintro ⟨k, v, hv, hr⟩
    cases k with
    | report r' =>
        simp only [reportOfCase] at hr
        split_ifs at hr with hc
        · obtain rfl := List.mem_singleton.1 hr
          rw [hv, hc]
        · cases hr
    | case | openCase | reputation => cases hr
  · intro h
    exact ⟨.report r, c, h, by simp [reportOfCase]⟩

theorem nodup_reportsOf (db : DB) (c : CaseID) : (reportsOf db c).Nodup := by
  refine List.Nodup.of_map RowKey.report (ReadCommitted.nodup_collect ?_ db)
  rintro ⟨k, v⟩
  cases k with
  | report r => by_cases h : v = c <;> simp [reportOfCase, h]
  | case | openCase | reputation => exact List.nil_sublist _

/-- Rows that are no reports. -/
theorem reportsBy_keep (h : ∀ r, RowKey.report r ∉ rows) (u : UserID) (own : DB) :
    reportsBy u (view rows own) = reportsBy u own := by
  refine ReadCommitted.collect_view_of_nil (fun k hk v => ?_) own
  cases k with
  | report r => exact absurd hk (h r)
  | case | openCase | reputation => rfl

theorem reportsBy_insert {r : Report} (h : RowKey.report r ∉ own) (u : UserID) (c : CaseID) :
    reportsBy u (view (AList.insert (.report r) c ∅) own) =
      (if r.reporter = u then [r] else []) ++ reportsBy u own :=
  @ReadCommitted.collect_view_insert _ Row _ _ (reportOfUser u) own (.report r) c h

/-- The reports of a transaction are new. -/
theorem reportsBy_view (h : ∀ r, RowKey.report r ∈ own → .report r ∉ db) (u : UserID) :
    reportsBy u (view own db) = reportsBy u own ++ reportsBy u db := by
  refine ReadCommitted.collect_view fun k hk hdb v => ?_
  cases k with
  | report r => exact absurd hdb (h r hk)
  | case | openCase | reputation => rfl

end Rows

end GeoDuels.Moderation
