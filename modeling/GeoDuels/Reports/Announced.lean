import GeoDuels.Notifications.Attempts
import GeoDuels.Reports.Pressure

/-!
# Every urgent case is announced, and once

A projection pass holds an advisory lock, so there is one at a time.  It refreshes each case in a transaction
of its own: the queries of the score, a look at `notification_sent_at`, and the update, which comes with
the notification.  Reports, moderators and the workers that post the notifications come in between.  A
report and a moderator's update of a case are one step each, and what the rest of the program writes
(users, matches, guesses, reputations) may change at any time.
-/

namespace GeoDuels.Reports

open Moderation (CaseID CaseStatus)
open Notifications (NotificationID OutboxRow Outbox)

variable {K : Type*} [Field K] [LinearOrder K] (P : Power K) (decodes : String → Bool)

/-! ## The transaction of a refresh -/

/-- `notification_sent_at` is read, and compared with the priority that has been computed. -/
def DB.shouldNotify (db : DB K) (caseID : CaseID) (p : Projection K) : Option Bool :=
  (db.cases.lookup caseID).map fun row =>
    decide ((p.priority = .high ∨ p.priority = .urgent) ∧ row.notificationSentAt = none)

def DB.updateSummary (db : DB K) (now : ℕ) (caseID : CaseID) (p : Projection K) (shouldNotify : Bool) :
    Option (DB K) :=
  (db.cases.lookup caseID).map fun row =>
    { db with
      cases := db.cases.insert caseID
        { row with
          score := p.score
          reportCount := p.reportCount
          uniqueReporterCount := p.uniqueReporterCount
          categories := p.categories
          priority := p.priority
          notificationSentAt := if shouldNotify then some now else row.notificationSentAt
          latestActivityAt := now } }

/-- Without anybody in between, the steps are `refreshModerationCaseSummary`. -/
theorem refreshModerationCaseSummary_eq (db : DB K) (now : ℕ) (caseID : CaseID) :
    db.refreshModerationCaseSummary P now caseID =
      (db.shouldNotify caseID (db.projection P caseID)).bind fun shouldNotify =>
        (db.updateSummary now caseID (db.projection P caseID) shouldNotify).map (·, shouldNotify) := by
  unfold DB.refreshModerationCaseSummary DB.shouldNotify DB.updateSummary
  cases db.cases.lookup caseID <;> rfl

/-- The update of a case by `AddModerationCaseAction`, and of an open one by `BanPlayerForCheating`; a
player has one open case at most. -/
def DB.setCaseStatus (db : DB K) (now : ℕ) (caseID : CaseID) (status : CaseStatus) : Option (DB K) :=
  (db.cases.lookup caseID).bind fun row =>
    match db.openCase? row.targetUserID with
    | some c =>
        if status.isOpen = true ∧ c.1 ≠ caseID then none
        else some { db with cases := db.cases.insert caseID { row with status := status, latestActivityAt := now } }
    | none =>
        some { db with cases := db.cases.insert caseID { row with status := status, latestActivityAt := now } }

/-! ## The system -/

/-- How far the refresh of a case is. -/
inductive RefreshStage (K : Type*) where
  | begun
  | projected (p : Projection K)
  | checked (p : Projection K) (shouldNotify : Bool)

/-- The pass that holds the lock, with the cases that it has still to refresh. -/
structure Pass (K : Type*) where
  caseIDs : List CaseID
  stage : RefreshStage K := .begun

structure System (K : Type*) where
  db : DB K := {}
  pass : Option (Pass K) := none
  /-- The clock, `notification_outbox` and the workers that post what is in it. -/
  notifications : Notifications.World

inductive SystemAct (K : Type*) where
  | report (params : CreateModerationReportParams)
  | setCaseStatus (caseID : CaseID) (status : CaseStatus)
  | startPass (limit : ℤ)
  | project
  | check
  | update (payloadJSON : String)
  /-- The pass is done, or it fails, and the transaction that it is in is rolled back. -/
  | endPass
  | worker (a : Notifications.Act)
  /-- The rest of the program writes the tables that the moderation reads. -/
  | write (users : List UserRow) (history : List HistoryRow) (players : List PlayerRow)
      (guesses : List (GuessRow K)) (reporters : List (ReporterRow K))

namespace System

def now (s : System K) : ℕ := s.notifications.clock

/-- The pass has refreshed a case; the notification is put into the outbox by the same transaction. -/
def commit (s : System K) (caseID : CaseID) (caseIDs : List CaseID) (shouldNotify : Bool)
    (payloadJSON : String) (db : DB K) : System K where
  db := db
  pass := some ⟨caseIDs, .begun⟩
  notifications :=
    if shouldNotify then
      { s.notifications with
        db := s.notifications.db.enqueueNotificationOutbox s.now Notifications.reportNotificationType
          (notificationKey caseID) payloadJSON }
    else s.notifications

def step (s : System K) : SystemAct K → Option (System K)
  | .report params =>
      match s.db.createModerationReport P s.now params with
      | .ok (_, _, db) => some { s with db := db }
      | .error _ => none
  | .setCaseStatus caseID status =>
      (s.db.setCaseStatus s.now caseID status).map fun db => { s with db := db }
  | .startPass limit =>
      match s.pass with
      | some _ => none
      | none => some { s with pass := some ⟨s.db.selectedCases limit, .begun⟩ }
  | .project =>
      match s.pass with
      | some ⟨caseID :: caseIDs, .begun⟩ =>
          some { s with pass := some ⟨caseID :: caseIDs, .projected (s.db.projection P caseID)⟩ }
      | _ => none
  | .check =>
      match s.pass with
      | some ⟨caseID :: caseIDs, .projected p⟩ =>
          (s.db.shouldNotify caseID p).map fun shouldNotify =>
            { s with pass := some ⟨caseID :: caseIDs, .checked p shouldNotify⟩ }
      | _ => none
  | .update payloadJSON =>
      match s.pass with
      | some ⟨caseID :: caseIDs, .checked p shouldNotify⟩ =>
          (s.db.updateSummary s.now caseID p shouldNotify).map
            (s.commit caseID caseIDs shouldNotify payloadJSON)
      | _ => none
  | .endPass =>
      match s.pass with
      | some _ => some { s with pass := none }
      | none => none
  -- only a pass puts notifications into the outbox
  | .worker (.enqueue ..) => none
  | .worker a => (s.notifications.step decodes a).map fun w => { s with notifications := w }
  | .write users history players guesses reporters =>
      some { s with
        db := { s.db with
          users := users, history := history, players := players, guesses := guesses, reporters := reporters } }

/-- Before the first report, with no case and an empty outbox. -/
def start (db : DB K) (t : ℕ) : System K where
  db := { db with cases := ∅, reports := [], reporters := [] }
  notifications := .start {} t

/-- The notification of the case is in the outbox. -/
def Announced (s : System K) (caseID : CaseID) : Prop :=
  ∃ id row, s.notifications.db.rows.lookup id = some row ∧ row.dedupeKey = notificationKey caseID

end System

/-! ## What the writes keep of a case -/

section Writes

set_option linter.unusedSectionVars false

variable {P} {db db' : DB K} {now : ℕ} {id : CaseID} {row : CaseRow K}

/-- Cases keep their priority and their announcement; a new one has a low priority and none. -/
structure Kept (db db' : DB K) : Prop where
  old : ∀ id row, db.cases.lookup id = some row → ∃ row', db'.cases.lookup id = some row' ∧
    row'.priority = row.priority ∧ row'.notificationSentAt = row.notificationSentAt
  new : ∀ id row', db.cases.lookup id = none → db'.cases.lookup id = some row' →
    row'.priority = .low ∧ row'.notificationSentAt = none
  fresh : (∀ id ∈ db.cases, id < db.nextCaseID) → ∀ id ∈ db'.cases, id < db'.nextCaseID

theorem Kept.refl (db : DB K) : Kept db db :=
  ⟨fun _ row hrow => ⟨row, hrow, rfl, rfl⟩,
    fun _ row hnone hrow => absurd (hnone.symm.trans hrow) (Option.some_ne_none row).symm,
    fun hfresh => hfresh⟩

theorem Kept.of_cases {db'' : DB K} (h : Kept db db') (hcases : db''.cases = db'.cases)
    (hnext : db''.nextCaseID = db'.nextCaseID) : Kept db db'' := by
  refine ⟨?_, ?_, ?_⟩ <;> rw [hcases]
  · exact h.old
  · exact h.new
  · rw [hnext]
    exact h.fresh

/-- A write of a case that is there. -/
theorem kept_insert (hrow : db.cases.lookup id = some row) {row' : CaseRow K}
    (hpriority : row'.priority = row.priority)
    (hsent : row'.notificationSentAt = row.notificationSentAt) :
    Kept db { db with cases := db.cases.insert id row' } where
  old := by
    intro c old hold
    by_cases hc : c = id
    · subst hc
      obtain rfl := Option.some.inj (hrow.symm.trans hold)
      exact ⟨row', AList.lookup_insert _, hpriority, hsent⟩
    · exact ⟨old, (AList.lookup_insert_ne hc).trans hold, rfl, rfl⟩
  new := by
    intro c new hnone hnew
    rcases Assoc.of_lookup_insert hnew with ⟨rfl, -⟩ | ⟨-, hnew⟩
    · rw [hrow] at hnone
      cases hnone
    · rw [hnone] at hnew
      cases hnew
  fresh := by
    intro h c hc
    rcases (AList.mem_insert _).1 hc with rfl | hc
    · exact h c (Assoc.mem_iff_exists.2 ⟨row, hrow⟩)
    · exact h c hc

theorem kept_upsertCase (hfresh : ∀ id ∈ db.cases, id < db.nextCaseID) (now : ℕ) (target : UserID) :
    Kept db (db.upsertCase now target).2 := by
  unfold DB.upsertCase
  cases hopen : db.openCase? target with
  | some c =>
      obtain ⟨id, row⟩ := c
      have hmem : (⟨id, row⟩ : Sigma fun _ : CaseID => CaseRow K) ∈ db.cases.entries :=
        List.mem_of_find?_eq_some hopen
      exact kept_insert (AList.mem_lookup_iff.2 hmem) rfl rfl
  | none =>
      have hnone : db.cases.lookup db.nextCaseID = none := by
        by_contra hsome
        obtain ⟨old, hold⟩ := Option.ne_none_iff_exists'.1 hsome
        exact absurd (hfresh _ (Assoc.mem_iff_exists.2 ⟨old, hold⟩)) (lt_irrefl _)
      refine ⟨fun id row hrow => ⟨row, (AList.lookup_insert_ne ?_).trans hrow, rfl, rfl⟩,
        fun id row hid hrow => ?_, fun _ id hid => ?_⟩
      · rintro rfl
        rw [hnone] at hrow
        cases hrow
      · rcases Assoc.of_lookup_insert hrow with ⟨rfl, rfl⟩ | ⟨-, hold⟩
        · exact ⟨rfl, rfl⟩
        · rw [hid] at hold
          cases hold
      · rcases (AList.mem_insert _).1 hid with rfl | hid
        · exact Nat.lt_succ_self _
        · exact (hfresh id hid).trans (Nat.lt_succ_self _)

theorem cases_countSubmitted (db : DB K) (reporter : UserID) (weight : K) :
    (db.countSubmitted reporter weight).cases = db.cases ∧
      (db.countSubmitted reporter weight).nextCaseID = db.nextCaseID := by
  unfold DB.countSubmitted
  split <;> exact ⟨rfl, rfl⟩

/-- Only the upsert of a report writes a case. -/
theorem kept_createModerationReport (hfresh : ∀ id ∈ db.cases, id < db.nextCaseID)
    {params : CreateModerationReportParams} {caseID : CaseID} {status : ReportStatus}
    (h : db.createModerationReport P now params = .ok (caseID, status, db')) : Kept db db' := by
  unfold DB.createModerationReport at h
  dsimp only at h
  split_ifs at h
  split at h
  · cases h
  · have hkept := kept_upsertCase hfresh now (trimmed params.reportedUserID)
    split at h
    · cases h
      exact hkept
    · rename_i db₁ hinsert
      cases h
      obtain rfl := DB.insertReport_cases hinsert
      exact hkept.of_cases (cases_countSubmitted _ _ _).1 (cases_countSubmitted _ _ _).2

theorem kept_setCaseStatus {status : CaseStatus} (h : db.setCaseStatus now id status = some db') :
    Kept db db' := by
  unfold DB.setCaseStatus at h
  obtain ⟨row, hrow, h⟩ := Option.bind_eq_some_iff.1 h
  split at h
  · split_ifs at h
    obtain rfl := Option.some.inj h
    exact kept_insert hrow rfl rfl
  · obtain rfl := Option.some.inj h
    exact kept_insert hrow rfl rfl

end Writes

/-! ## The runs -/

theorem notificationKey_injective : Function.Injective notificationKey := by
  intro id id' h
  unfold notificationKey at h
  rw [String.append_left_inj, String.append_right_inj] at h
  have hdigits := congrArg String.toList h
  simp only [Nat.toString_eq_repr, Nat.toList_repr] at hdigits
  rw [← @Nat.ofDigitChars_ten_toDigits id, hdigits, Nat.ofDigitChars_ten_toDigits]

/-- Every case with a high or urgent priority has its notification in the outbox, every case has one at
most, and `notification_sent_at` says which ones have it. -/
structure System.Consistent (s : System K) : Prop where
  keys : ∀ id id' row row', s.notifications.db.rows.lookup id = some row →
    s.notifications.db.rows.lookup id' = some row' → row.dedupeKey = row'.dedupeKey → id = id'
  announced : ∀ caseID, s.Announced caseID ↔
    ∃ row, s.db.cases.lookup caseID = some row ∧ row.notificationSentAt ≠ none
  high : ∀ caseID row, s.db.cases.lookup caseID = some row → row.priority = .high ∨ row.priority = .urgent →
    row.notificationSentAt ≠ none

/-- The time of an announcement does not change any more. -/
def AnnouncementStays (s s' : System K) : Prop :=
  ∀ caseID row, s.db.cases.lookup caseID = some row → row.notificationSentAt ≠ none →
    ∃ row', s'.db.cases.lookup caseID = some row' ∧ row'.notificationSentAt = row.notificationSentAt

/-- What carries the consistency from step to step. -/
structure Tracked (s : System K) : Prop extends System.Consistent s where
  claims : Notifications.Claims s.notifications
  fresh : ∀ id ∈ s.db.cases, id < s.db.nextCaseID
  checked : ∀ caseID caseIDs p shouldNotify,
    s.pass = some ⟨caseID :: caseIDs, .checked p shouldNotify⟩ →
      s.db.shouldNotify caseID p = some shouldNotify

namespace Tracked

set_option linter.unusedSectionVars false

variable {P decodes} {s s' : System K} {db' : DB K}

theorem start (db : DB K) (t : ℕ) : Tracked (.start db t) where
  keys := by
    intro id id' row row' hrow
    cases hrow
  announced := fun caseID => by
    constructor
    · rintro ⟨id, row, hrow, -⟩
      cases hrow
    · rintro ⟨row, hrow, -⟩
      cases hrow
  high := by
    intro caseID row hrow
    cases hrow
  claims := .start (by intro id row hrow; cases hrow) t
  fresh := by
    intro id hid
    cases hid
  checked := by
    intro caseID caseIDs p shouldNotify hpass
    cases hpass

/-- A write that leaves the announcements alone. -/
theorem of_kept (h : Tracked s) (hkept : Kept s.db db') : Tracked { s with db := db' } where
  keys := h.keys
  announced := by
    intro caseID
    refine (h.announced caseID).trans ?_
    constructor
    · rintro ⟨row, hrow, hsent⟩
      obtain ⟨row', hrow', -, heq⟩ := hkept.old caseID row hrow
      exact ⟨row', hrow', heq ▸ hsent⟩
    · rintro ⟨row', hrow', hsent⟩
      cases hrow : s.db.cases.lookup caseID with
      | none => exact absurd (hkept.new caseID row' hrow hrow').2 hsent
      | some row =>
          obtain ⟨row'', hrow'', -, heq⟩ := hkept.old caseID row hrow
          obtain rfl := Option.some.inj (hrow'.symm.trans hrow'')
          exact ⟨row, rfl, heq ▸ hsent⟩
  high := by
    intro caseID row' hrow' hpriority
    cases hrow : s.db.cases.lookup caseID with
    | none =>
        rw [(hkept.new caseID row' hrow hrow').1] at hpriority
        rcases hpriority with hp | hp <;> cases hp
    | some row =>
        obtain ⟨row'', hrow'', hsame, heq⟩ := hkept.old caseID row hrow
        obtain rfl := Option.some.inj (hrow'.symm.trans hrow'')
        rw [heq]
        exact h.high caseID row hrow (hsame ▸ hpriority)
  claims := h.claims
  fresh := hkept.fresh h.fresh
  checked := by
    intro caseID caseIDs p shouldNotify hpass
    have hnotify := h.checked caseID caseIDs p shouldNotify hpass
    unfold DB.shouldNotify at hnotify ⊢
    obtain ⟨row, hrow, hnotify⟩ := Option.map_eq_some_iff.1 hnotify
    obtain ⟨row', hrow', -, heq⟩ := hkept.old caseID row hrow
    show (db'.cases.lookup caseID).map _ = _
    rw [hrow', ← hnotify, ← heq]
    rfl

/-- The pass goes on, without a write. -/
theorem of_pass (h : Tracked s) {pass : Option (Pass K)}
    (hpass : ∀ caseID caseIDs p shouldNotify,
      pass = some ⟨caseID :: caseIDs, .checked p shouldNotify⟩ →
        s.db.shouldNotify caseID p = some shouldNotify) : Tracked { s with pass := pass } where
  keys := h.keys
  announced := h.announced
  high := h.high
  claims := h.claims
  fresh := h.fresh
  checked := hpass

/-- The workers do not touch the keys of the notifications. -/
theorem worker (h : Tracked s) {a : Notifications.Act} {w : Notifications.World}
    (hne : ∀ dedupeKey payloadJSON, a ≠ .enqueue dedupeKey payloadJSON)
    (hs : s.notifications.step decodes a = some w) : Tracked { s with notifications := w } := by
  have hkeys := Notifications.lookup_dedupeKey h.claims (Notifications.stepped_of_step hs) hne
  have hback : ∀ id row, w.db.rows.lookup id = some row →
      ∃ old, s.notifications.db.rows.lookup id = some old ∧ old.dedupeKey = row.dedupeKey := by
    intro id row hrow
    have hkey := hkeys id
    rw [hrow] at hkey
    exact Option.map_eq_some_iff.1 hkey.symm
  constructor
  · constructor
    · intro id id' row row' hrow hrow' heq
      obtain ⟨old, hold, hkey⟩ := hback id row hrow
      obtain ⟨old', hold', hkey'⟩ := hback id' row' hrow'
      exact h.keys id id' old old' hold hold' (hkey.trans (heq.trans hkey'.symm))
    · intro caseID
      refine Iff.trans ?_ (h.announced caseID)
      constructor
      · rintro ⟨id, row, hrow, hkey⟩
        obtain ⟨old, hold, hsame⟩ := hback id row hrow
        exact ⟨id, old, hold, hsame.trans hkey⟩
      · rintro ⟨id, row, hrow, hkey⟩
        have hsame := hkeys id
        rw [hrow] at hsame
        obtain ⟨row', hrow', hkey'⟩ := Option.map_eq_some_iff.1 hsame
        exact ⟨id, row', hrow', hkey'.trans hkey⟩
    · exact h.high
  · exact h.claims.step (Notifications.stepped_of_step hs)
  · exact h.fresh
  · exact h.checked

/-- Without a notification, only the columns of the score are written. -/
theorem commit_silent (h : Tracked s) {caseID : CaseID} {caseIDs : List CaseID} {row row' : CaseRow K}
    (hrow : s.db.cases.lookup caseID = some row)
    (hsent : row'.notificationSentAt = row.notificationSentAt)
    (hhigh : row'.priority = .high ∨ row'.priority = .urgent → row.notificationSentAt ≠ none) :
    Tracked { s with
      db := { s.db with cases := s.db.cases.insert caseID row' }, pass := some ⟨caseIDs, .begun⟩ } where
  keys := h.keys
  announced := by
    intro c
    refine (h.announced c).trans ?_
    by_cases hc : c = caseID
    · subst hc
      constructor
      · rintro ⟨old, hold, hne⟩
        obtain rfl := Option.some.inj (hrow.symm.trans hold)
        exact ⟨row', AList.lookup_insert _, hsent ▸ hne⟩
      · rintro ⟨new, hnew, hne⟩
        obtain rfl := Option.some.inj ((AList.lookup_insert _).symm.trans hnew)
        exact ⟨row, hrow, hsent ▸ hne⟩
    · show _ ↔ ∃ new, (s.db.cases.insert caseID row').lookup c = some new ∧ _
      rw [AList.lookup_insert_ne hc]
  high := by
    intro c new hnew hpriority
    rcases Assoc.of_lookup_insert hnew with ⟨rfl, rfl⟩ | ⟨-, hold⟩
    · rw [hsent]
      exact hhigh hpriority
    · exact h.high c new hold hpriority
  claims := h.claims
  fresh := by
    intro c hc
    rcases (AList.mem_insert _).1 hc with rfl | hc
    · exact h.fresh c (Assoc.mem_iff_exists.2 ⟨row, hrow⟩)
    · exact h.fresh c hc
  checked := by
    intro c cs p shouldNotify hpass
    cases hpass

/-- The case gets its time and the outbox its notification. -/
theorem commit_notify (h : Tracked s) {caseID : CaseID} {caseIDs : List CaseID} {row row' : CaseRow K}
    (hrow : s.db.cases.lookup caseID = some row) (hunsent : row.notificationSentAt = none)
    (hsent : row'.notificationSentAt ≠ none) (payloadJSON : String) :
    Tracked (s.commit caseID caseIDs true payloadJSON
      { s.db with cases := s.db.cases.insert caseID row' }) := by
  have hnot : ¬ s.Announced caseID := fun hannounced => by
    obtain ⟨old, hold, hne⟩ := (h.announced caseID).1 hannounced
    obtain rfl := Option.some.inj (hrow.symm.trans hold)
    exact hne hunsent
  have hfree : ∀ id old, s.notifications.db.rows.lookup id = some old →
      old.dedupeKey ≠ notificationKey caseID := fun id old hold hkey => hnot ⟨id, old, hold, hkey⟩
  have hnext : s.notifications.db.rows.lookup s.notifications.db.nextID = none := by
    by_contra hsome
    obtain ⟨old, hold⟩ := Option.ne_none_iff_exists'.1 hsome
    exact absurd (h.claims.fresh _ _ hold) (lt_irrefl _)
  have hrows : (s.commit caseID caseIDs true payloadJSON
      { s.db with cases := s.db.cases.insert caseID row' }).notifications.db.rows =
      s.notifications.db.rows.insert s.notifications.db.nextID
        ⟨Notifications.reportNotificationType, notificationKey caseID, payloadJSON, 0, s.now, none⟩ :=
    Notifications.rows_enqueue hfree _ _ _
  constructor
  · constructor
    · intro id id' r r' hr hr' hkey
      rw [hrows] at hr hr'
      rcases Assoc.of_lookup_insert hr with ⟨rfl, rfl⟩ | ⟨-, hr⟩ <;>
        rcases Assoc.of_lookup_insert hr' with ⟨rfl, rfl⟩ | ⟨-, hr'⟩
      · rfl
      · exact absurd hkey.symm (hfree id' r' hr')
      · exact absurd hkey (hfree id r hr)
      · exact h.keys id id' r r' hr hr' hkey
    · intro c
      by_cases hc : c = caseID
      · subst hc
        refine iff_of_true ⟨s.notifications.db.nextID, ⟨Notifications.reportNotificationType,
          notificationKey c, payloadJSON, 0, s.now, none⟩, ?_, rfl⟩ ⟨row', AList.lookup_insert _, hsent⟩
        rw [hrows]
        exact AList.lookup_insert _
      · show _ ↔ ∃ new, (s.db.cases.insert caseID row').lookup c = some new ∧ _
        rw [AList.lookup_insert_ne hc, ← h.announced c]
        constructor
        · rintro ⟨id, r, hr, hkey⟩
          rw [hrows] at hr
          rcases Assoc.of_lookup_insert hr with ⟨-, rfl⟩ | ⟨-, hr⟩
          · exact absurd (notificationKey_injective hkey).symm hc
          · exact ⟨id, r, hr, hkey⟩
        · rintro ⟨id, r, hr, hkey⟩
          refine ⟨id, r, ?_, hkey⟩
          rw [hrows, AList.lookup_insert_ne]
          · exact hr
          · rintro rfl
            rw [hnext] at hr
            cases hr
    · intro c new hnew hpriority
      rcases Assoc.of_lookup_insert hnew with ⟨rfl, rfl⟩ | ⟨-, hold⟩
      · exact hsent
      · exact h.high c new hold hpriority
  · have hs : Notifications.Stepped (fun _ => true) s.notifications
        (.enqueue (notificationKey caseID) payloadJSON) _ := .enqueue _ _
    exact h.claims.step hs
  · intro c hc
    rcases (AList.mem_insert _).1 hc with rfl | hc
    · exact h.fresh c (Assoc.mem_iff_exists.2 ⟨row, hrow⟩)
    · exact h.fresh c hc
  · intro c cs p shouldNotify hpass
    cases hpass

/-- The update writes what the look at `notification_sent_at` has decided. -/
theorem update (h : Tracked s) {caseID : CaseID} {caseIDs : List CaseID} {p : Projection K}
    {shouldNotify : Bool} (hpass : s.pass = some ⟨caseID :: caseIDs, .checked p shouldNotify⟩)
    (hupdate : s.db.updateSummary s.now caseID p shouldNotify = some db') (payloadJSON : String) :
    Tracked (s.commit caseID caseIDs shouldNotify payloadJSON db') := by
  obtain ⟨row, hrow, rfl⟩ := Option.map_eq_some_iff.1 hupdate
  have hnotify := h.checked caseID caseIDs p shouldNotify hpass
  unfold DB.shouldNotify at hnotify
  rw [hrow, Option.map_some, Option.some.injEq] at hnotify
  cases shouldNotify with
  | true =>
      obtain ⟨-, hunsent⟩ := of_decide_eq_true hnotify
      exact h.commit_notify hrow hunsent (fun hnone => by cases hnone) payloadJSON
  | false =>
      refine h.commit_silent hrow rfl fun hhigh hunsent => ?_
      exact of_decide_eq_false hnotify ⟨hhigh, hunsent⟩

theorem step_worker {a : Notifications.Act}
    (hne : ∀ dedupeKey payloadJSON, a ≠ .enqueue dedupeKey payloadJSON) :
    s.step P decodes (.worker a) =
      (s.notifications.step decodes a).map fun w => { s with notifications := w } := by
  cases a with
  | enqueue dedupeKey payloadJSON => exact absurd rfl (hne dedupeKey payloadJSON)
  | claim | commit | rollback | prepare | post | mark | markError | crash | wait => rfl

theorem stays_of_kept (h : Kept s.db s'.db) : AnnouncementStays s s' := by
  intro caseID row hrow _
  obtain ⟨row', hrow', -, hsent⟩ := h.old caseID row hrow
  exact ⟨row', hrow', hsent⟩

/-- The update sets a time only where there is none. -/
theorem stays_update (h : Tracked s) {caseID : CaseID} {caseIDs : List CaseID} {p : Projection K}
    {shouldNotify : Bool} (hpass : s.pass = some ⟨caseID :: caseIDs, .checked p shouldNotify⟩)
    (hupdate : s.db.updateSummary s.now caseID p shouldNotify = some db') (payloadJSON : String) :
    AnnouncementStays s (s.commit caseID caseIDs shouldNotify payloadJSON db') := by
  obtain ⟨row, hrow, rfl⟩ := Option.map_eq_some_iff.1 hupdate
  have hnotify := h.checked caseID caseIDs p shouldNotify hpass
  unfold DB.shouldNotify at hnotify
  rw [hrow, Option.map_some, Option.some.injEq] at hnotify
  intro c old hold hsent
  by_cases hc : c = caseID
  · subst hc
    obtain rfl := Option.some.inj (hrow.symm.trans hold)
    refine ⟨_, AList.lookup_insert _, if_neg fun htrue => ?_⟩
    rw [htrue] at hnotify
    exact hsent (of_decide_eq_true hnotify).2
  · exact ⟨old, (AList.lookup_insert_ne hc).trans hold, rfl⟩

theorem step (h : Tracked s) {a : SystemAct K} (hs : s.step P decodes a = some s') :
    Tracked s' ∧ AnnouncementStays s s' := by
  cases a with
  | report params =>
      simp only [System.step] at hs
      split at hs
      · rename_i hreport
        obtain rfl := Option.some.inj hs
        have hkept := kept_createModerationReport h.fresh hreport
        exact ⟨h.of_kept hkept, stays_of_kept hkept⟩
      · cases hs
  | setCaseStatus caseID status =>
      obtain ⟨db', hdb', rfl⟩ := Option.map_eq_some_iff.1 hs
      exact ⟨h.of_kept (kept_setCaseStatus hdb'), stays_of_kept (kept_setCaseStatus hdb')⟩
  | startPass limit =>
      simp only [System.step] at hs
      split at hs
      · cases hs
      · obtain rfl := Option.some.inj hs
        exact ⟨h.of_pass (fun _ _ _ _ hpass => by simp at hpass), stays_of_kept (.refl _)⟩
  | project =>
      simp only [System.step] at hs
      split at hs
      · obtain rfl := Option.some.inj hs
        exact ⟨h.of_pass (fun _ _ _ _ hpass => by cases hpass), stays_of_kept (.refl _)⟩
      · cases hs
  | check =>
      simp only [System.step] at hs
      split at hs
      · obtain ⟨shouldNotify, hnotify, rfl⟩ := Option.map_eq_some_iff.1 hs
        refine ⟨h.of_pass fun _ _ _ _ hpass => ?_, stays_of_kept (.refl _)⟩
        cases hpass
        exact hnotify
      · cases hs
  | update payloadJSON =>
      simp only [System.step] at hs
      split at hs
      · rename_i hpass
        obtain ⟨db', hdb', rfl⟩ := Option.map_eq_some_iff.1 hs
        exact ⟨h.update hpass hdb' payloadJSON, h.stays_update hpass hdb' payloadJSON⟩
      · cases hs
  | endPass =>
      simp only [System.step] at hs
      split at hs
      · obtain rfl := Option.some.inj hs
        exact ⟨h.of_pass (fun _ _ _ _ hpass => by cases hpass), stays_of_kept (.refl _)⟩
      · cases hs
  | worker a =>
      by_cases henqueue : ∃ dedupeKey payloadJSON, a = .enqueue dedupeKey payloadJSON
      · obtain ⟨dedupeKey, payloadJSON, rfl⟩ := henqueue
        cases hs
      · have hne : ∀ dedupeKey payloadJSON, a ≠ .enqueue dedupeKey payloadJSON := fun k p heq =>
          henqueue ⟨k, p, heq⟩
        rw [step_worker hne] at hs
        obtain ⟨w, hw, rfl⟩ := Option.map_eq_some_iff.1 hs
        exact ⟨h.worker hne hw, stays_of_kept (.refl _)⟩
  | write users history players guesses reporters =>
      obtain rfl := Option.some.inj hs
      have hkept : Kept s.db { s.db with
          users := users, history := history, players := players, guesses := guesses,
          reporters := reporters } := (Kept.refl s.db).of_cases rfl rfl
      exact ⟨h.of_kept hkept, stays_of_kept hkept⟩

end Tracked

/-- In every run of reports, moderators, projection passes and workers: a case whose priority is high or
urgent has its notification in the outbox, no case has two, and the time of an announcement never
changes. -/
theorem announced_once (decodes : String → Bool) (db : DB K) (t : ℕ) (acts : List (SystemAct K)) :
    Run.Always (System.step P decodes) System.Consistent (.start db t) acts ∧
      Run.Along (System.step P decodes) (fun s _ s' => AnnouncementStays s s') (.start db t) acts := by
  have hstart := Tracked.start db t
  constructor
  · exact (Run.always_of_invariant (fun _ _ _ h _ hs => (h.step hs).1) hstart
      (Run.guarded_true _ _)).mono fun _ h => h.toConsistent
  · exact Run.along_of_invariant (fun _ _ _ (h : Tracked _) _ hs => h.step (P := P) hs) hstart
      (Run.guarded_true _ _)

end GeoDuels.Reports
