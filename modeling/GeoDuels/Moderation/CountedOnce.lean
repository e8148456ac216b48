import GeoDuels.Moderation.Ledger

/-!
# A report counts once

Whether an action counts the reports of its case is decided from a status that is read without a lock, and
a closed case can be opened again; so a report can be counted twice (`not_countedOnce_reopened`).  In a run
in which a case that is counted is still open when its status is written, and has not been opened again after
its reports had been counted, each report counts once (`countedOnce_of_orderly`).
-/

namespace GeoDuels.Moderation

open ReadCommitted (view update collect lookup_view_of_notMem notMem_view notMem_insert notMem_update
  mem_of_lookup)

/-! ## Committed rows -/

/-- The reports that have been counted are there, each counted once. -/
structure Sound (db : DB) : Prop where
  tallied : ∀ u rep, db.lookup (.reputation u) = some (rep : Reputation) → rep.Tallied
  owner : ∀ u, ∀ x ∈ logOf db u, x.1.reporter = u
  nodup : ∀ u, ((logOf db u).map Prod.fst).Nodup
  known : ∀ u, ∀ x ∈ logOf db u, ∃ c, db.lookup (.report x.1) = some c
  submitted : ∀ u, submittedOf db u = (reportsBy u db).length

theorem Sound.empty : Sound ∅ where
  tallied u rep h := by cases h
  owner u x hx := by cases hx
  nodup u := .nil
  known u x hx := by cases hx
  submitted u := rfl

variable {db own rows : DB} {u : UserID} {c : CaseID}

theorem Sound.countedOnce (h : Sound db) : CountedOnce db := by
  intro u rep hrep
  have hlog := logOf_of_lookup hrep
  have howner := h.owner u
  have hnodup := h.nodup u
  have hknown := h.known u
  rw [hlog] at howner hnodup hknown
  refine ⟨h.tallied u rep hrep, howner, hnodup, ?_⟩
  have hsub : rep.counted.map Prod.fst ⊆ reportsBy u db := by
    intro r hr
    obtain ⟨x, hx, rfl⟩ := List.mem_map.1 hr
    obtain ⟨c, hreport⟩ := hknown x hx
    exact mem_reportsBy.2 ⟨howner x hx, AList.lookup_isSome.1 (by rw [hreport]; rfl)⟩
  have hle := (List.subperm_of_subset hnodup hsub).length_le
  rw [List.length_map] at hle
  rw [(h.tallied u rep hrep).sum, ← submittedOf_of_lookup hrep, h.submitted u]
  exact hle

/-! ## Transactions -/

/-- A reputation as a transaction has written it: with the reports of its case that it counts, and with
those that it submits. -/
structure Entry (caseID : CaseID) (outcome : Option Outcome) (own db : DB) (u : UserID) (rep : Reputation) :
    Prop where
  log : ∃ xs, rep.counted = logOf db u ++ xs ∧ (xs.map Prod.fst).Nodup ∧
    ∀ x ∈ xs, x.1.reporter = u ∧ db.lookup (.report x.1) = some caseID ∧ outcome.isSome
  tallied : rep.Tallied
  submitted : rep.submitted = submittedOf db u + (reportsBy u own).length

structure Ledger (caseID : CaseID) (outcome : Option Outcome) (own db : DB) : Prop where
  fresh : ∀ r, RowKey.report r ∈ own → .report r ∉ db
  entries : ∀ u rep, own.lookup (.reputation u) = some rep → Entry caseID outcome own db u rep

/-- The transaction has written the case and holds it, and its reports have not been counted before. -/
def Holds (caseID : CaseID) (own db : DB) : Prop := .case caseID ∈ own ∧ Uncounted db caseID

def NoReputations (own : DB) : Prop := ∀ u, RowKey.reputation u ∉ own

def NoReports (own : DB) : Prop := ∀ r, RowKey.report r ∉ own

/-- What follows the counting. -/
inductive Rest : List Stmt → Prop
  | close (tail : List Stmt) (htail : tail = [] ∨ tail = [.findReporters]) :
      Rest (.setStatus .dismissed :: tail)
  | mute (tail : List Stmt) (htail : ∀ s ∈ tail, s = .findReporters ∨ ∃ u, s = .muteReporter u) :
      Rest tail

/-- The counting, each reporter once. -/
inductive Adds (own : DB) : List Stmt → Prop
  | rest (tail : List Stmt) (hrest : Rest tail) : Adds own tail
  | add (u : UserID) (rs : List Report) (o : Outcome) (tail : List Stmt) (hnew : RowKey.reputation u ∉ own)
      (honce : ∀ rs' o', .addOutcome u rs' o' ∉ tail) (h : Adds own tail) :
      Adds own (.addOutcome u rs o :: tail)

/-- The statements that can be left. -/
inductive Plan (own : DB) : List Stmt → Prop
  | read (action : CaseAction) (hown : own = ∅) : Plan own [.readCase action]
  | close (status : CaseStatus) (count : List Stmt) (hown : own = ∅)
      (hcount : count = [] ∨ ∃ o, count = [.findReports o]) : Plan own (.setStatus status :: count)
  | find (o : Outcome) (rest : List Stmt) (hrest : Rest rest) (hrep : NoReputations own)
      (hreport : NoReports own) : Plan own (.findReports o :: rest)
  | counting (todo : List Stmt) (h : Adds own todo) (hreport : NoReports own) : Plan own todo
  | reportMute (u : UserID) (muteUntil : Option ℕ) (hown : own = ∅) : Plan own [.reportMute u muteUntil]
  | upsert (r : Report) (hown : own = ∅) :
      Plan own [.upsertCase r.reported, .insertReport r, .submit r.reporter]
  | insert (r : Report) (hrep : NoReputations own) (hreport : NoReports own) :
      Plan own [.insertReport r, .submit r.reporter]
  | submit (r : Report) (hrep : NoReputations own)
      (hone : ∀ u, reportsBy u own = if r.reporter = u then [r] else []) : Plan own [.submit r.reporter]
  | closeOpen (target : UserID) (hown : own = ∅) : Plan own [.closeOpen target]
  | done (hdone : ∀ u, RowKey.reputation u ∉ own → reportsBy u own = []) : Plan own []

/-- What a statement has read when it is about to run. -/
def StmtFine (caseID : CaseID) (outcome : Option Outcome) (db : DB) : Stmt → Prop
  | .findReports _ => outcome.isSome
  | .addOutcome u rs _ => outcome.isSome ∧ rs.Nodup ∧
      ∀ r ∈ rs, r.reporter = u ∧ db.lookup (.report r) = some caseID
  | _ => True

structure Fine (t : ModerationTx) (db : DB) : Prop where
  plan : Plan t.own t.todo
  stmts : ∀ s ∈ t.todo, StmtFine t.caseID t.outcome db s
  ledger : Ledger t.caseID t.outcome t.own db
  writing : t.outcome.isSome → (∃ s, .setStatus s ∈ t.todo) ∨ Holds t.caseID t.own db

/-- A case whose reports are counted is still open when its status is written, and has not been opened again
after its reports had been counted. -/
def Orderly (t : ModerationTx) (db : DB) (_ : Moment) : Prop :=
  match t.todo with
  | .setStatus _ :: _ => t.outcome.isSome → caseIsOpen (view t.own db) t.caseID ∧ Uncounted db t.caseID
  | .closeOpen target :: _ => ∀ id ∈ openCaseOf db target, caseIsOpen db id → Uncounted db id
  | _ => True

/-! ## Rules -/

variable {caseID : CaseID} {outcome : Option Outcome} {rep : Reputation} {t t' : ModerationTx} {m : Moment}
  {rest : List Stmt}

theorem reportsBy_of_noReports (h : NoReports own) (u : UserID) : reportsBy u own = [] := by
  rw [List.eq_nil_iff_forall_not_mem]
  intro r hr
  exact h r (mem_reportsBy.1 hr).2

theorem Ledger.empty (caseID : CaseID) (outcome : Option Outcome) (db : DB) : Ledger caseID outcome ∅ db where
  fresh r hr := absurd hr (AList.notMem_empty _)
  entries u rep h := by cases h

/-- A reputation that the transaction has not written. -/
theorem seen_reputation (hG : Sound db) (hu : RowKey.reputation u ∉ own) :
    ∃ rep : Reputation, ((view own db).lookup (.reputation u)).getD ({} : Reputation) = rep ∧
      rep.counted = logOf db u ∧ rep.submitted = submittedOf db u ∧ rep.Tallied := by
  rw [lookup_view_of_notMem hu]
  cases hrep : db.lookup (.reputation u) with
  | none => exact ⟨{}, rfl, by simp [logOf, hrep], by simp [submittedOf, hrep], fun o => by cases o <;> rfl⟩
  | some rep =>
      exact ⟨rep, rfl, (logOf_of_lookup hrep).symm, (submittedOf_of_lookup hrep).symm, hG.tallied u rep hrep⟩

/-- A reputation as the transaction sees it. -/
theorem Ledger.seen (h : Ledger caseID outcome own db) (hG : Sound db)
    (hno : RowKey.reputation u ∉ own → reportsBy u own = []) :
    Entry caseID outcome own db u (((view own db).lookup (.reputation u)).getD ({} : Reputation)) := by
  by_cases hu : RowKey.reputation u ∈ own
  · obtain ⟨rep, hrep⟩ := Option.isSome_iff_exists.1 (AList.lookup_isSome.2 hu)
    rw [ReadCommitted.lookup_view, hrep, Option.some_or]
    exact h.entries u rep hrep
  · obtain ⟨rep, hseen, hlog, hsubmitted, htallied⟩ := seen_reputation hG hu
    rw [hseen]
    refine ⟨⟨[], ?_, .nil, fun x hx => by cases hx⟩, htallied, ?_⟩
    · rw [hlog, List.append_nil]
    · rw [hsubmitted, hno hu]
      rfl

theorem Entry.mute (h : Entry caseID outcome own db u rep) (muteUntil : Option ℕ) :
    Entry caseID outcome own db u { rep with mutedUntil := muteUntil } where
  log := h.log
  tallied o := by
    have ho := h.tallied o
    cases o <;> exact ho
  submitted := h.submitted

/-- Rows of cases. -/
theorem Ledger.keep (h : Ledger caseID outcome own db) (hrep : NoReputations rows) (hreport : NoReports rows) :
    Ledger caseID outcome (view rows own) db where
  fresh r hr := h.fresh r ((AList.mem_union.1 hr).resolve_left (hreport r))
  entries u rep hlookup := by
    rw [lookup_view_of_notMem (hrep u)] at hlookup
    have he := h.entries u rep hlookup
    exact ⟨he.log, he.tallied, by rw [reportsBy_keep hreport]; exact he.submitted⟩

theorem Ledger.write (h : Ledger caseID outcome own db) (he : Entry caseID outcome own db u rep) :
    Ledger caseID outcome (view (AList.insert (.reputation u) rep ∅) own) db := by
  have hreport : NoReports (AList.insert (.reputation u) rep ∅) := fun r => notMem_insert (by simp)
  refine ⟨fun r hr => h.fresh r ((AList.mem_union.1 hr).resolve_left (hreport r)), fun u' rep' hlookup => ?_⟩
  have he' : Entry caseID outcome own db u' rep' := by
    by_cases hu : u' = u
    · subst hu
      have hself := ReadCommitted.lookup_view_insert_self (.reputation u') rep own
      obtain rfl := Option.some.inj (hself.symm.trans hlookup)
      exact he
    · rw [lookup_view_of_notMem (notMem_insert (by simp [hu]))] at hlookup
      exact h.entries u' rep' hlookup
  exact ⟨he'.log, he'.tallied, by rw [reportsBy_keep hreport]; exact he'.submitted⟩

theorem Adds.head {s : Stmt} (h : Adds own (s :: rest)) :
    (∃ u rs o, s = .addOutcome u rs o) ∨ s = .setStatus .dismissed ∨ s = .findReporters ∨
      ∃ u, s = .muteReporter u := by
  cases h with
  | add u rs o => exact .inl ⟨u, rs, o, rfl⟩
  | rest _ hrest =>
      cases hrest with
      | close => exact .inr (.inl rfl)
      | mute _ htail => exact .inr (.inr (htail s List.mem_cons_self))

theorem Adds.write (h : Adds own rest) (honce : ∀ rs o, .addOutcome u rs o ∉ rest) (rep : Reputation) :
    Adds (view (AList.insert (.reputation u) rep ∅) own) rest := by
  induction h with
  | rest tail hrest => exact .rest tail hrest
  | add u' rs o tail hnew honce' h ih =>
      have hu : u' ≠ u := by
        rintro rfl
        exact honce rs o List.mem_cons_self
      refine .add u' rs o tail (notMem_view (notMem_insert (by simp [hu])) hnew) honce' (ih fun rs o hmem => ?_)
      exact honce rs o (List.mem_cons_of_mem _ hmem)

/-! ## Statements -/

/-- A transaction that still has to write its case has that before it. -/
theorem writing_tail {s : Stmt} (h : Fine t db) (htodo : t.todo = s :: rest)
    (hs : ∀ status, s ≠ .setStatus status) {own : DB}
    (hcase : ∀ c, RowKey.case c ∈ t.own → .case c ∈ own) (hout : t.outcome.isSome) :
    (∃ s, .setStatus s ∈ rest) ∨ Holds t.caseID own db := by
  rcases h.writing hout with ⟨status, hmem⟩ | ⟨hmem, huncounted⟩
  · rw [htodo] at hmem
    rcases List.mem_cons.1 hmem with heq | hmem
    · exact absurd heq.symm (hs status)
    · exact .inl ⟨status, hmem⟩
  · exact .inr ⟨hcase _ hmem, huncounted⟩

/-- A statement that writes a reputation, or nothing. -/
theorem fine_reputation {s : Stmt} (h : Fine t db) (htodo : t.todo = s :: rest)
    (hs : ∀ status, s ≠ .setStatus status) (hplan : Plan (view rows t.own) rest) (hledger : Ledger t.caseID t.outcome (view rows t.own) db) :
    Fine (t.goOn rest rows) db where
  plan := hplan
  stmts s' hs' := h.stmts s' (htodo ▸ List.mem_cons_of_mem _ hs')
  ledger := hledger
  writing := writing_tail h htodo hs fun _ hmem => AList.mem_union.2 (.inr hmem)

theorem fine_addOutcome {rs : List Report} {o : Outcome} (hG : Sound db) (h : Fine t db)
    (htodo : t.todo = .addOutcome u rs o :: rest) :
    Fine (t.goOn rest (upsertReputation (view t.own db) u fun rep => rep.add o rs)) db := by
  have hplan := h.plan
  obtain ⟨hout, hnodup, hrs⟩ := h.stmts _ (htodo ▸ List.mem_cons_self)
  rw [htodo] at hplan
  cases hplan with
  | counting _ hadds hreport =>
      cases hadds with
      | rest _ hrest =>
          cases hrest with
          | mute _ htail => rcases htail _ List.mem_cons_self with hs | ⟨_, hs⟩ <;> cases hs
      | add _ _ _ _ hnew honce hadds =>
          obtain ⟨rep, hseen, hlog, hsubmitted, htallied⟩ := seen_reputation hG hnew
          unfold upsertReputation
          rw [hseen]
          have hentry : Entry t.caseID t.outcome t.own db u (rep.add o rs) := by
            refine ⟨⟨rs.map fun r => (r, o), by rw [Reputation.add_counted, hlog], ?_, ?_⟩,
              htallied.add o rs, ?_⟩
            · simpa [List.map_map, Function.comp_def] using hnodup
            · intro x hx
              obtain ⟨r, hr, rfl⟩ := List.mem_map.1 hx
              exact ⟨(hrs r hr).1, (hrs r hr).2, hout⟩
            · rw [Reputation.add_submitted, hsubmitted, reportsBy_of_noReports hreport]
              rfl
          refine fine_reputation h htodo (fun _ hs => by cases hs) ?_ (h.ledger.write hentry)
          exact .counting rest (hadds.write honce _) fun r => notMem_view (notMem_insert (by simp)) (hreport r)

theorem Rest.not_addOutcome (h : Rest rest) (u : UserID) (rs : List Report) (o : Outcome) :
    .addOutcome u rs o ∉ rest := by
  intro hmem
  cases h with
  | close tail htail => rcases htail with rfl | rfl <;> simp at hmem
  | mute tail htail => rcases htail _ hmem with hs | ⟨_, hs⟩ <;> cases hs

/-- Each reporter is counted once. -/
theorem adds_of_reporters (hrest : Rest rest) (hrep : NoReputations own) (o : Outcome)
    (f : UserID → List Report) {us : List UserID} (hus : us.Nodup) :
    Adds own ((us.map fun u => Stmt.addOutcome u (f u) o) ++ rest) := by
  induction us with
  | nil => exact .rest rest hrest
  | cons u us ih =>
      obtain ⟨hu, hus⟩ := List.nodup_cons.1 hus
      refine .add u (f u) o _ (hrep u) (fun rs' o' hmem => ?_) (ih hus)
      rcases List.mem_append.1 hmem with hmem | hmem
      · obtain ⟨u', hu', heq⟩ := List.mem_map.1 hmem
        obtain ⟨rfl, -⟩ := Stmt.addOutcome.inj heq
        exact hu hu'
      · exact hrest.not_addOutcome u rs' o' hmem

theorem fine_findReports {o : Outcome} (h : Fine t db) (htodo : t.todo = .findReports o :: rest)
    (hstep : t.step (view t.own db) m (.findReports o) rest = some t') : Fine t' db := by
  have hplan := h.plan
  have hout : StmtFine t.caseID t.outcome db (.findReports o) := h.stmts _ (htodo ▸ List.mem_cons_self)
  rw [htodo] at hplan
  obtain ⟨hrest, hrep, hreport⟩ : Rest rest ∧ NoReputations t.own ∧ NoReports t.own := by
    cases hplan with
    | find _ _ hrest hrep hreport => exact ⟨hrest, hrep, hreport⟩
    | counting _ hadds _ => rcases hadds.head with ⟨_, _, _, hs⟩ | hs | hs | ⟨_, hs⟩ <;> cases hs
  obtain rfl := Option.some.inj hstep
  have hown : ∀ todo, (t.goOn todo ∅).own = t.own := fun _ => ReadCommitted.view_empty t.own
  refine ⟨?_, fun s hs => ?_, ?_, fun hout => ?_⟩
  · rw [hown]
    exact .counting _ (adds_of_reporters hrest hrep o _ (List.nodup_dedup _)) hreport
  · rcases List.mem_append.1 hs with hs | hs
    · obtain ⟨u, -, rfl⟩ := List.mem_map.1 hs
      refine ⟨hout, (nodup_reportsOf _ _).filter _, fun r hr => ?_⟩
      obtain ⟨hr, hu⟩ := List.mem_filter.1 hr
      rw [mem_reportsOf, lookup_view_of_notMem (hreport r)] at hr
      exact ⟨by simpa using hu, hr⟩
    · exact h.stmts s (htodo ▸ List.mem_cons_of_mem _ hs)
  · rw [hown]
    exact h.ledger
  · have hwriting := writing_tail h htodo (fun _ hs => by cases hs) (fun _ hmem => hmem) hout
    rw [hown]
    exact hwriting.imp_left fun ⟨status, hmem⟩ => ⟨status, List.mem_append.2 (.inr hmem)⟩

/-- The reporters that are muted have been counted. -/
theorem plan_mute {s : Stmt} (h : Plan own (s :: rest))
    (hs : s = .findReporters ∨ ∃ u, s = .muteReporter u) :
    NoReports own ∧ ∀ s' ∈ rest, s' = .findReporters ∨ ∃ u, s' = .muteReporter u := by
  cases h with
  | counting _ hadds hreport =>
      refine ⟨hreport, ?_⟩
      cases hadds with
      | rest _ hrest =>
          cases hrest with
          | close => rcases hs with hs | ⟨_, hs⟩ <;> cases hs
          | mute _ htail => exact fun s' hs' => htail s' (List.mem_cons_of_mem _ hs')
      | add => rcases hs with hs | ⟨_, hs⟩ <;> cases hs
  | read | close | find | reportMute | upsert | insert | submit | closeOpen =>
      rcases hs with hs | ⟨_, hs⟩ <;> cases hs

theorem fine_findReporters (h : Fine t db) (htodo : t.todo = .findReporters :: rest)
    (hstep : t.step (view t.own db) m .findReporters rest = some t') : Fine t' db := by
  obtain ⟨hreport, htail⟩ := plan_mute (htodo ▸ h.plan) (.inl rfl)
  obtain rfl := Option.some.inj hstep
  have hown : ∀ todo, (t.goOn todo ∅).own = t.own := fun _ => ReadCommitted.view_empty t.own
  have hmute : ∀ us : List UserID, ∀ s ∈ us.map Stmt.muteReporter ++ rest,
      s = .findReporters ∨ ∃ u, s = .muteReporter u := by
    intro us s hs
    rcases List.mem_append.1 hs with hs | hs
    · obtain ⟨u, -, rfl⟩ := List.mem_map.1 hs
      exact .inr ⟨u, rfl⟩
    · exact htail s hs
  refine ⟨?_, fun s hs => ?_, ?_, fun hout => ?_⟩
  · rw [hown]
    exact .counting _ (.rest _ (.mute _ (hmute _))) hreport
  · rcases hmute _ s hs with rfl | ⟨u, rfl⟩ <;> trivial
  · rw [hown]
    exact h.ledger
  · have hwriting := writing_tail h htodo (fun _ hs => by cases hs) (fun _ hmem => hmem) hout
    rw [hown]
    exact hwriting.imp_left fun ⟨status, hmem⟩ => ⟨status, List.mem_append.2 (.inr hmem)⟩

theorem fine_muteReporter (hG : Sound db) (h : Fine t db) (htodo : t.todo = .muteReporter u :: rest)
    (hstep : t.step (view t.own db) m (.muteReporter u) rest = some t') : Fine t' db := by
  obtain ⟨hreport, htail⟩ := plan_mute (htodo ▸ h.plan) (.inr ⟨u, rfl⟩)
  obtain rfl := Option.some.inj hstep
  refine fine_reputation h htodo (fun _ hs => by cases hs) ?_ ?_
  · exact .counting _ (.rest _ (.mute _ htail)) fun r => notMem_view (notMem_update (by simp)) (hreport r)
  · have hseen := h.ledger.seen (u := u) hG fun _ => reportsBy_of_noReports hreport u
    cases hrep : (view t.own db).lookup (.reputation u) with
    | none =>
        rw [ReadCommitted.update_of_none hrep, ReadCommitted.view_empty]
        exact h.ledger
    | some rep =>
        rw [hrep] at hseen
        have hupdate := ReadCommitted.update_of_lookup (f := fun rep : Reputation =>
          some { rep with mutedUntil := some (max (rep.mutedUntil.getD m.now) (m.now + ModerationTx.week)) })
          hrep rfl
        rw [hupdate]
        exact h.ledger.write (hseen.mute _)

theorem fine_reportMute {muteUntil : Option ℕ} (hG : Sound db) (h : Fine t db)
    (htodo : t.todo = .reportMute u muteUntil :: rest)
    (hstep : t.step (view t.own db) m (.reportMute u muteUntil) rest = some t') : Fine t' db := by
  have hplan := h.plan
  rw [htodo] at hplan
  obtain ⟨rfl, hown⟩ : rest = [] ∧ t.own = ∅ := by
    cases hplan with
    | reportMute _ _ hown => exact ⟨rfl, hown⟩
    | counting _ hadds _ => rcases hadds.head with ⟨_, _, _, hs⟩ | hs | hs | ⟨_, hs⟩ <;> cases hs
  obtain rfl := Option.some.inj hstep
  have hreport : NoReports t.own := fun r => hown ▸ AList.notMem_empty _
  refine fine_reputation h htodo (fun _ hs => by cases hs) ?_ ?_
  · refine .done fun u' _ => reportsBy_of_noReports (fun r => ?_) u'
    exact notMem_view (notMem_insert (by simp)) (hreport r)
  · exact h.ledger.write ((h.ledger.seen hG fun _ => reportsBy_of_noReports hreport u).mute _)

theorem fine_submit (hG : Sound db) (h : Fine t db) (htodo : t.todo = .submit u :: rest)
    (hstep : t.step (view t.own db) m (.submit u) rest = some t') : Fine t' db := by
  have hplan := h.plan
  rw [htodo] at hplan
  obtain ⟨r, rfl, rfl, hrep, hone⟩ : ∃ r : Report, rest = [] ∧ u = r.reporter ∧ NoReputations t.own ∧
      ∀ u, reportsBy u t.own = if r.reporter = u then [r] else [] := by
    cases hplan with
    | submit r hrep hone => exact ⟨r, rfl, rfl, hrep, hone⟩
    | counting _ hadds _ => rcases hadds.head with ⟨_, _, _, hs⟩ | hs | hs | ⟨_, hs⟩ <;> cases hs
  obtain rfl := Option.some.inj hstep
  obtain ⟨rep, hseen, hlog, hsubmitted, htallied⟩ := seen_reputation hG (hrep r.reporter)
  refine fine_reputation h htodo (fun _ hs => by cases hs) ?_ ?_
  · refine .done fun u hu => ?_
    have hne : ¬ r.reporter = u := by
      rintro rfl
      exact hu (AList.mem_union.2 (.inl ((AList.mem_insert _).2 (.inl rfl))))
    rw [upsertReputation, reportsBy_keep (fun r' => notMem_insert (by simp)), hone, if_neg hne]
  · unfold upsertReputation
    rw [hseen]
    refine h.ledger.write ⟨⟨[], by rw [List.append_nil]; exact hlog, .nil, fun x hx => by cases hx⟩, ?_, ?_⟩
    · intro o
      have ho := htallied o
      cases o <;> exact ho
    · show rep.submitted + 1 = _
      rw [hsubmitted, hone, if_pos rfl]
      rfl

theorem stmts_plan (action : CaseAction) (target : UserID) (outcome : Option Outcome) :
    Plan ∅ (action.stmts target outcome) := by
  have hrep : NoReputations ∅ := fun u => AList.notMem_empty _
  have hreport : NoReports ∅ := fun r => AList.notMem_empty _
  have hcount : (outcome.map Stmt.findReports).toList = [] ∨
      ∃ o, (outcome.map Stmt.findReports).toList = [.findReports o] := by
    cases outcome with
    | none => exact .inl rfl
    | some o => exact .inr ⟨o, rfl⟩
  cases action with
  | status s => exact .close s _ rfl hcount
  | dismiss s => exact .close _ _ rfl hcount
  | markInconclusive =>
      cases outcome with
      | none => exact .counting _ (.rest _ (.close [] (.inl rfl))) hreport
      | some o => exact .find o _ (.close [] (.inl rfl)) hrep hreport
  | abusiveReports =>
      cases outcome with
      | none => exact .counting _ (.rest _ (.close [] (.inl rfl))) hreport
      | some o => exact .find o _ (.close [.findReporters] (.inr rfl)) hrep hreport
  | assign => exact .close .reviewing [] rfl (.inl rfl)
  | reportMute user muteUntil => exact .reportMute _ _ rfl
  | other => exact .done fun u _ => rfl

theorem stmts_fine (action : CaseAction) (target : UserID) (caseID : CaseID) (outcome : Option Outcome)
    (db : DB) : ∀ s ∈ action.stmts target outcome, StmtFine caseID outcome db s := by
  intro s hs
  cases s with
  | findReports o =>
      cases outcome with
      | some o' => rfl
      | none => cases action <;> simp [CaseAction.stmts] at hs
  | addOutcome u rs o => cases outcome <;> cases action <;> simp [CaseAction.stmts] at hs
  | readCase | setStatus | findReporters | muteReporter | reportMute | upsertCase | insertReport | submit
  | closeOpen => trivial

/-- The case that an action counts is written. -/
theorem stmts_writing {action : CaseAction} (h : action.outcome.isSome) (target : UserID)
    (outcome : Option Outcome) : ∃ s, .setStatus s ∈ action.stmts target outcome := by
  cases action with
  | status | dismiss => exact ⟨_, List.mem_cons_self⟩
  | markInconclusive | abusiveReports => exact ⟨.dismissed, by simp [CaseAction.stmts]⟩
  | assign | reportMute | other => cases h

theorem fine_readCase {action : CaseAction} (h : Fine t db) (htodo : t.todo = .readCase action :: rest)
    (hstep : t.step (view t.own db) m (.readCase action) rest = some t') : Fine t' db := by
  have hplan := h.plan
  rw [htodo] at hplan
  obtain ⟨rfl, hown⟩ : rest = [] ∧ t.own = ∅ := by
    cases hplan with
    | read _ hown => exact ⟨rfl, hown⟩
    | counting _ hadds _ => rcases hadds.head with ⟨_, _, _, hs⟩ | hs | hs | ⟨_, hs⟩ <;> cases hs
  obtain ⟨row, hrow, rfl⟩ := Option.map_eq_some_iff.1 hstep
  have hown' : view ∅ t.own = ∅ := (ReadCommitted.view_empty _).trans hown
  have htodo' : ∀ o, action.stmts row.target o ++ [] = action.stmts row.target o := fun o => List.append_nil _
  refine ⟨?_, ?_, ?_, fun hout => .inl ?_⟩
  · show Plan (view ∅ t.own) (_ ++ [])
    rw [hown', htodo']
    exact stmts_plan action row.target _
  · show ∀ s ∈ _ ++ [], StmtFine t.caseID _ db s
    rw [htodo']
    exact stmts_fine action row.target t.caseID _ db
  · show Ledger t.caseID _ (view ∅ t.own) db
    rw [hown']
    exact .empty t.caseID _ db
  · have hcounts : action.outcome.isSome := by
      dsimp only at hout
      split_ifs at hout
      · exact hout
      · cases hout
    show ∃ s, Stmt.setStatus s ∈ _ ++ []
    rw [htodo']
    exact stmts_writing hcounts row.target _

/-- A statement that writes a case. -/
theorem fine_case {row : CaseRow} (hledger : Ledger t'.caseID t'.outcome own db)
    (hown : t'.own = view rows own) (hrows : ∀ k ∈ rows, k = .case t'.caseID ∨ ∃ target, k = .openCase target)
    (hrow : rows.lookup (.case t'.caseID) = some row) (hplan : Plan t'.own t'.todo)
    (hstmts : ∀ s ∈ t'.todo, StmtFine t'.caseID t'.outcome db s)
    (huncounted : t'.outcome.isSome → Uncounted db t'.caseID) : Fine t' db := by
  have hnorep : NoReputations rows := fun u hu => by rcases hrows _ hu with h | ⟨_, h⟩ <;> cases h
  have hnoreport : NoReports rows := fun r hr => by rcases hrows _ hr with h | ⟨_, h⟩ <;> cases h
  have hself : RowKey.case t'.caseID ∈ t'.own := by
    rw [hown]
    exact AList.mem_union.2 (.inl (mem_of_lookup hrow))
  exact ⟨hplan, hstmts, hown ▸ hledger.keep hnorep hnoreport, fun hout => .inr ⟨hself, huncounted hout⟩⟩

/-- The rows of a case: that of the case, and that of the index of the open cases. -/
theorem caseRows (target : UserID) (entry : Option CaseID) (c : CaseID) (row : CaseRow) :
    ∀ rows : DB, (rows = AList.insert (.case c) row ∅ ∨
        rows = AList.insert (.openCase target) entry (AList.insert (.case c) row ∅)) →
      (∀ k ∈ rows, k = .case c ∨ ∃ target, k = .openCase target) ∧ rows.lookup (.case c) = some row := by
  have hself : (AList.insert (.case c) row ∅ : DB).lookup (.case c) = some row := AList.lookup_insert _
  rintro rows (rfl | rfl)
  · refine ⟨fun k hk => .inl ?_, hself⟩
    exact ((AList.mem_insert _).1 hk).resolve_right (AList.notMem_empty k)
  · refine ⟨fun k hk => ?_, (AList.lookup_insert_ne (by simp)).trans hself⟩
    rcases (AList.mem_insert _).1 hk with rfl | hk
    · exact .inr ⟨target, rfl⟩
    · exact .inl (((AList.mem_insert _).1 hk).resolve_right (AList.notMem_empty k))

/-- A status is written into the row of the case. -/
theorem step_setStatus {status : CaseStatus} {seen : DB} (h : t.step seen m (.setStatus status) rest = some t') :
    ∃ (row : CaseRow) (rows : DB), t' = t.goOn rest rows ∧
      (∀ k ∈ rows, k = .case t.caseID ∨ ∃ target, k = .openCase target) ∧
      rows.lookup (.case t.caseID) = some row := by
  obtain ⟨row, -, h⟩ := Option.bind_eq_some_iff.1 h
  have hrows := fun (entry : Option CaseID) (rows : DB) =>
    caseRows row.target entry t.caseID ({ row with status := status } : CaseRow) rows
  dsimp only at h
  split at h
  · split_ifs at h
    obtain rfl := Option.some.inj h
    exact ⟨{ row with status := status }, _, rfl, hrows none _ (.inl rfl)⟩
  · obtain rfl := Option.some.inj h
    exact ⟨{ row with status := status }, _, rfl, hrows (some t.caseID) _ (.inr rfl)⟩
  · obtain rfl := Option.some.inj h
    refine ⟨{ row with status := status }, _, rfl, hrows none _ ?_⟩
    split_ifs
    · exact .inr rfl
    · exact .inl rfl
  · obtain rfl := Option.some.inj h
    exact ⟨{ row with status := status }, _, rfl, hrows none _ (.inl rfl)⟩

/-- The transaction counts after it has written the status, or it has counted before. -/
theorem plan_setStatus {status : CaseStatus} (h : Plan own (.setStatus status :: rest)) :
    (own = ∅ ∧ (rest = [] ∨ ∃ o, rest = [.findReports o])) ∨
      ((rest = [] ∨ rest = [.findReporters]) ∧ NoReports own) := by
  cases h with
  | close _ _ hown hcount => exact .inl ⟨hown, hcount⟩
  | counting _ hadds hreport =>
      cases hadds with
      | rest _ hrest =>
          cases hrest with
          | close _ htail => exact .inr ⟨htail, hreport⟩
          | mute _ htail => rcases htail _ List.mem_cons_self with hs | ⟨_, hs⟩ <;> cases hs

theorem fine_setStatus {status : CaseStatus} (h : Fine t db) (htodo : t.todo = .setStatus status :: rest)
    (hC : Orderly t db m) (hstep : t.step (view t.own db) m (.setStatus status) rest = some t') :
    Fine t' db := by
  obtain ⟨row, rows, rfl, hrows, hrow⟩ := step_setStatus hstep
  have hplan := plan_setStatus (htodo ▸ h.plan)
  simp only [Orderly, htodo] at hC
  have hreport : NoReports t.own := by
    rcases hplan with ⟨hown, -⟩ | ⟨-, hreport⟩
    · exact fun r => hown ▸ AList.notMem_empty _
    · exact hreport
  have hnoreport : NoReports (view rows t.own) := fun r =>
    notMem_view (fun hr => by rcases hrows _ hr with h | ⟨_, h⟩ <;> cases h) (hreport r)
  refine fine_case h.ledger rfl hrows hrow ?_ ?_ fun hout => (hC hout).2
  · rcases hplan with ⟨hown, rfl | ⟨o, rfl⟩⟩ | ⟨rfl | rfl, -⟩
    · exact .done fun u _ => reportsBy_of_noReports hnoreport u
    · refine .find o [] (.mute [] fun s hs => by cases hs) (fun u => ?_) hnoreport
      exact notMem_view (fun hu => by rcases hrows _ hu with h | ⟨_, h⟩ <;> cases h)
        (hown ▸ AList.notMem_empty _)
    · exact .done fun u _ => reportsBy_of_noReports hnoreport u
    · exact .counting _ (.rest _ (.mute _ fun s hs => .inl (List.mem_singleton.1 hs))) hnoreport
  · exact fun s hs => h.stmts s (htodo ▸ List.mem_cons_of_mem _ hs)

theorem caseIsOpen_of_lookup {row : CaseRow} (h : db.lookup (.case c) = some row) :
    caseIsOpen db c = row.status.isOpen := by
  simp [caseIsOpen, h]

/-- A transaction without rows has written no case, so it does not count yet. -/
theorem not_outcome (h : Fine t db) (hown : t.own = ∅) (hnot : ∀ s : CaseStatus, .setStatus s ∉ t.todo) :
    t.outcome = none := by
  by_contra hout
  rcases h.writing (Option.isSome_iff_ne_none.2 hout) with ⟨s, hmem⟩ | ⟨hmem, -⟩
  · exact hnot s hmem
  · rw [hown] at hmem
    exact AList.notMem_empty _ hmem

theorem fine_upsertCase {target : UserID} (h : Fine t db) (htodo : t.todo = .upsertCase target :: rest)
    (hstep : t.step (view t.own db) m (.upsertCase target) rest = some t') : Fine t' db := by
  have hplan := h.plan
  rw [htodo] at hplan
  obtain ⟨r, rfl, hown⟩ : ∃ r : Report, rest = [.insertReport r, .submit r.reporter] ∧ t.own = ∅ := by
    cases hplan with
    | upsert r hown => exact ⟨r, rfl, hown⟩
    | counting _ hadds _ => rcases hadds.head with ⟨_, _, _, hs⟩ | hs | hs | ⟨_, hs⟩ <;> cases hs
  have hout := not_outcome h hown fun s => by simp [htodo]
  have hmem : ∀ k, k ∉ t.own := fun k => hown ▸ AList.notMem_empty k
  have hstmts : ∀ c, ∀ s ∈ [Stmt.insertReport r, .submit r.reporter], StmtFine c t.outcome db s := by
    intro c s hs
    rcases List.mem_cons.1 hs with rfl | hs
    · trivial
    · obtain rfl := List.mem_singleton.1 hs
      trivial
  have hplan' : ∀ (rows : DB) (c : CaseID), (∀ k ∈ rows, k = .case c ∨ ∃ target, k = .openCase target) →
      Plan (view rows t.own) [.insertReport r, .submit r.reporter] := fun rows c hrows =>
    .insert r (fun u => notMem_view (fun hu => by rcases hrows _ hu with h | ⟨_, h⟩ <;> cases h) (hmem _))
      fun r => notMem_view (fun hr => by rcases hrows _ hr with h | ⟨_, h⟩ <;> cases h) (hmem _)
  have hledger : ∀ c, Ledger c t.outcome t.own db := fun c => hown ▸ Ledger.empty c t.outcome db
  simp only [ModerationTx.step, hown, ReadCommitted.view_empty] at hstep
  split at hstep
  · rename_i id hid
    obtain ⟨row, hrow, rfl⟩ := Option.map_eq_some_iff.1 hstep
    obtain ⟨hrows, hself⟩ := caseRows target none id row _ (.inl rfl)
    refine fine_case (hledger id) rfl hrows hself (hplan' _ id hrows) (hstmts id) fun hsome => ?_
    exact absurd hsome (by simp [ModerationTx.goOn, hout])
  · split_ifs at hstep with hnew
    obtain rfl := Option.some.inj hstep
    obtain ⟨hrows, hself⟩ := caseRows target (some m.newCase) m.newCase
      ({ target := target, status := .new } : CaseRow) _ (.inr rfl)
    refine fine_case (hledger m.newCase) rfl hrows hself (hplan' _ _ hrows) (hstmts _) fun hsome => ?_
    exact absurd hsome (by simp [ModerationTx.goOn, hout])

theorem fine_closeOpen {target : UserID} (h : Fine t db) (htodo : t.todo = .closeOpen target :: rest)
    (hC : Orderly t db m)
    (hstep : t.step (view t.own db) m (.closeOpen target) rest = some t') : Fine t' db := by
  have hplan := h.plan
  rw [htodo] at hplan
  obtain ⟨rfl, hown⟩ : rest = [] ∧ t.own = ∅ := by
    cases hplan with
    | closeOpen _ hown => exact ⟨rfl, hown⟩
    | counting _ hadds _ => rcases hadds.head with ⟨_, _, _, hs⟩ | hs | hs | ⟨_, hs⟩ <;> cases hs
  have hout := not_outcome h hown fun s => by simp [htodo]
  have hmem : ∀ k, k ∉ t.own := fun k => hown ▸ AList.notMem_empty k
  have hledger : ∀ c o, Ledger c o t.own db := fun c o => hown ▸ Ledger.empty c o db
  simp only [Orderly, htodo] at hC
  have hquiet : Fine (t.goOn [] ∅) db := by
    refine fine_reputation h htodo (fun _ hs => by cases hs) ?_ ?_
    · rw [ReadCommitted.view_empty, hown]
      exact .done fun u _ => rfl
    · rw [ReadCommitted.view_empty]
      exact h.ledger
  simp only [ModerationTx.step, hown, ReadCommitted.view_empty] at hstep
  split at hstep
  · obtain rfl := Option.some.inj hstep
    exact hquiet
  · rename_i id hid
    split at hstep
    · rename_i row hrow
      split_ifs at hstep with hopen
      · obtain rfl := Option.some.inj hstep
        obtain ⟨hrows, hself⟩ := caseRows target none id
          ({ row with status := .actioned } : CaseRow) _ (.inr rfl)
        refine fine_case (hledger id (some .confirmed)) rfl hrows hself ?_ ?_ fun _ => ?_
        · refine .find .confirmed [] (.mute [] fun s hs => by cases hs) (fun u => ?_) fun r => ?_
          · exact notMem_view (fun hu => by rcases hrows _ hu with h | ⟨_, h⟩ <;> cases h) (hmem _)
          · exact notMem_view (fun hr => by rcases hrows _ hr with h | ⟨_, h⟩ <;> cases h) (hmem _)
        · intro s hs
          obtain rfl := List.mem_singleton.1 hs
          rfl
        · exact hC id hid ((caseIsOpen_of_lookup hrow).trans hopen.2)
      · obtain rfl := Option.some.inj hstep
        exact hquiet
    · obtain rfl := Option.some.inj hstep
      exact hquiet

theorem fine_insertReport {r : Report} (h : Fine t db) (htodo : t.todo = .insertReport r :: rest)
    (hstep : t.step (view t.own db) m (.insertReport r) rest = some t') : Fine t' db := by
  have hplan := h.plan
  rw [htodo] at hplan
  obtain ⟨rfl, hrep, hreport⟩ : rest = [.submit r.reporter] ∧ NoReputations t.own ∧ NoReports t.own := by
    cases hplan with
    | insert _ hrep hreport => exact ⟨rfl, hrep, hreport⟩
    | counting _ hadds _ => rcases hadds.head with ⟨_, _, _, hs⟩ | hs | hs | ⟨_, hs⟩ <;> cases hs
  simp only [ModerationTx.step] at hstep
  split_ifs at hstep with hnew
  · obtain rfl := Option.some.inj hstep
    have hown : (t.goOn [] ∅).own = t.own := ReadCommitted.view_empty t.own
    refine ⟨?_, fun s hs => (by cases hs), ?_, fun hout => .inr ?_⟩
    · rw [hown]
      exact .done fun u _ => reportsBy_of_noReports hreport u
    · rw [hown]
      exact h.ledger
    · rw [hown]
      refine (writing_tail h htodo (fun _ hs => by cases hs) (fun _ hmem => hmem) hout).resolve_left ?_
      rintro ⟨s, hmem⟩
      simp at hmem
  · obtain rfl := Option.some.inj hstep
    have hrep' : NoReputations (view (AList.insert (.report r) t.caseID ∅) t.own) := fun u =>
      notMem_view (notMem_insert (by simp)) (hrep u)
    refine fine_reputation h htodo (fun _ hs => by cases hs) ?_ ⟨fun r' hr' => ?_, fun u rep hlookup => ?_⟩
    · refine .submit r hrep' fun u => ?_
      rw [reportsBy_insert (hreport r), reportsBy_of_noReports hreport, List.append_nil]
    · rcases AList.mem_union.1 hr' with hr' | hr'
      · obtain rfl := RowKey.report.inj (((AList.mem_insert _).1 hr').resolve_right (AList.notMem_empty _))
        exact fun hdb => hnew (AList.mem_union.2 (.inr hdb))
      · exact absurd hr' (hreport r')
    · exact absurd (mem_of_lookup hlookup) (hrep' u)

/-- Every statement. -/
theorem fine_step {s : Stmt} (hG : Sound db) (h : Fine t db) (htodo : t.todo = s :: rest)
    (hC : Orderly t db m) (hstep : t.step (view t.own db) m s rest = some t') : Fine t' db := by
  cases s with
  | readCase action => exact fine_readCase h htodo hstep
  | setStatus status => exact fine_setStatus h htodo hC hstep
  | findReports o => exact fine_findReports h htodo hstep
  | addOutcome u rs o =>
      obtain rfl := Option.some.inj hstep
      exact fine_addOutcome hG h htodo
  | findReporters => exact fine_findReporters h htodo hstep
  | muteReporter u => exact fine_muteReporter hG h htodo hstep
  | reportMute u muteUntil => exact fine_reportMute hG h htodo hstep
  | upsertCase target => exact fine_upsertCase h htodo hstep
  | insertReport r => exact fine_insertReport h htodo hstep
  | submit u => exact fine_submit hG h htodo hstep
  | closeOpen target => exact fine_closeOpen h htodo hC hstep

/-! ## Commits -/

/-- A report that is committed keeps its case. -/
theorem lookup_report (hfresh : ∀ r, RowKey.report r ∈ rows → .report r ∉ db) {r : Report}
    (h : db.lookup (.report r) = some c) : (view rows db).lookup (.report r) = some c := by
  rw [lookup_view_of_notMem fun hr => hfresh r hr (mem_of_lookup h)]
  exact h

/-- What a transaction that has come to its end has counted: reports of the case that it has written. -/
theorem mem_logOf_commit (h : Fine t db) (htodo : t.todo = []) {x : Report × Outcome}
    (hx : x ∈ logOf (view t.own db) u) :
    x ∈ logOf db u ∨ x.1.reporter = u ∧ db.lookup (.report x.1) = some t.caseID ∧ Holds t.caseID t.own db := by
  cases hrep : t.own.lookup (.reputation u) with
  | none =>
      rw [logOf_keep (AList.lookup_eq_none.1 hrep)] at hx
      exact .inl hx
  | some rep =>
      have hview : (view t.own db).lookup (.reputation u) = some rep := by
        rw [ReadCommitted.lookup_view, hrep, Option.some_or]
      obtain ⟨xs, hlog, -, hxs⟩ := (h.ledger.entries u rep hrep).log
      rw [logOf_of_lookup hview, hlog] at hx
      refine (List.mem_append.1 hx).imp_right fun hx => ?_
      obtain ⟨howner, hreport, hout⟩ := hxs x hx
      refine ⟨howner, hreport, (h.writing hout).resolve_left ?_⟩
      rintro ⟨s, hmem⟩
      rw [htodo] at hmem
      cases hmem

/-- Who commits does not count the reports of a case that he has not locked. -/
theorem uncounted_commit (hG : Sound db) (h : Fine t db) (htodo : t.todo = []) (hc : RowKey.case c ∉ t.own)
    (huncounted : Uncounted db c) : Uncounted (view t.own db) c := by
  rw [uncounted_iff] at huncounted ⊢
  intro u x hx hreport
  rcases mem_logOf_commit h htodo hx with hx | ⟨-, hreport', hmem, -⟩
  · obtain ⟨c', hreport'⟩ := hG.known u x hx
    have hc' := lookup_report h.ledger.fresh hreport'
    obtain rfl := Option.some.inj (hreport.symm.trans hc')
    exact huncounted u x hx hreport'
  · have hc' := lookup_report h.ledger.fresh hreport'
    obtain rfl := Option.some.inj (hreport.symm.trans hc')
    exact hc hmem

theorem plan_nil (h : Plan own []) (hu : RowKey.reputation u ∉ own) : reportsBy u own = [] := by
  cases h with
  | counting _ hadds hreport => exact reportsBy_of_noReports hreport u
  | done hdone => exact hdone u hu

theorem sound_commit (hG : Sound db) (h : Fine t db) (htodo : t.todo = []) : Sound (view t.own db) := by
  refine ⟨fun u rep hrep => ?_, fun u x hx => ?_, fun u => ?_, fun u x hx => ?_, fun u => ?_⟩
  · rw [ReadCommitted.lookup_view] at hrep
    cases hown : t.own.lookup (.reputation u) with
    | none =>
        rw [hown, Option.none_or] at hrep
        exact hG.tallied u rep hrep
    | some rep' =>
        rw [hown, Option.some_or] at hrep
        exact (h.ledger.entries u rep (hown.trans hrep)).tallied
  · rcases mem_logOf_commit h htodo hx with hx | ⟨howner, -⟩
    · exact hG.owner u x hx
    · exact howner
  · cases hrep : t.own.lookup (.reputation u) with
    | none =>
        rw [logOf_keep (AList.lookup_eq_none.1 hrep)]
        exact hG.nodup u
    | some rep =>
        have hview : (view t.own db).lookup (.reputation u) = some rep := by
          rw [ReadCommitted.lookup_view, hrep, Option.some_or]
        obtain ⟨xs, hlog, hnodup, hxs⟩ := (h.ledger.entries u rep hrep).log
        rw [logOf_of_lookup hview, hlog, List.map_append]
        refine List.Nodup.append (hG.nodup u) hnodup fun r hold hnew => ?_
        -- the report has been counted before, and the transaction counts it as one of its case
        obtain ⟨x, hx, rfl⟩ := List.mem_map.1 hold
        obtain ⟨y, hy, heq⟩ := List.mem_map.1 hnew
        obtain ⟨-, hreport, hout⟩ := hxs y hy
        rcases h.writing hout with ⟨s, hmem⟩ | ⟨-, huncounted⟩
        · rw [htodo] at hmem
          cases hmem
        · exact uncounted_iff.1 huncounted u x hx (heq ▸ hreport)
  · rcases mem_logOf_commit h htodo hx with hx | ⟨-, hreport, -⟩
    · obtain ⟨c, hreport⟩ := hG.known u x hx
      exact ⟨c, lookup_report h.ledger.fresh hreport⟩
    · exact ⟨t.caseID, lookup_report h.ledger.fresh hreport⟩
  · rw [reportsBy_view h.ledger.fresh, List.length_append, ← hG.submitted u]
    cases hrep : t.own.lookup (.reputation u) with
    | none =>
        have hu : RowKey.reputation u ∉ t.own := AList.lookup_eq_none.1 hrep
        rw [submittedOf_keep hu, plan_nil (htodo ▸ h.plan) hu]
        simp
    | some rep =>
        have hview : (view t.own db).lookup (.reputation u) = some rep := by
          rw [ReadCommitted.lookup_view, hrep, Option.some_or]
        rw [submittedOf_of_lookup hview, (h.ledger.entries u rep hrep).submitted]
        omega

/-- A transaction does not notice that another one commits. -/
theorem fine_frame {q : ModerationTx} (hG : Sound db) (h : Fine t db) (htodo : t.todo = []) (hq : Fine q db)
    (hfree : ∀ k ∈ t.own, k ∉ q.own) : Fine q (view t.own db) := by
  have hnot : ∀ {k}, k ∈ q.own → k ∉ t.own := fun hk hmem => hfree _ hmem hk
  refine ⟨hq.plan, fun s hs => ?_, ⟨fun r hr => notMem_view (hnot hr) (hq.ledger.fresh r hr), ?_⟩,
    fun hout => ?_⟩
  · have hfine := hq.stmts s hs
    cases s with
    | addOutcome u rs o =>
        obtain ⟨hout, hnodup, hrs⟩ := hfine
        exact ⟨hout, hnodup, fun r hr => ⟨(hrs r hr).1, lookup_report h.ledger.fresh (hrs r hr).2⟩⟩
    | findReports o => exact hfine
    | readCase | setStatus | findReporters | muteReporter | reportMute | upsertCase | insertReport | submit
    | closeOpen => trivial
  · intro u rep hrep
    obtain ⟨⟨xs, hlog, hnodup, hxs⟩, htallied, hsubmitted⟩ := hq.ledger.entries u rep hrep
    have hu := hnot (mem_of_lookup hrep)
    refine ⟨⟨xs, by rw [logOf_keep hu]; exact hlog, hnodup, fun x hx => ?_⟩, htallied, ?_⟩
    · exact ⟨(hxs x hx).1, lookup_report h.ledger.fresh (hxs x hx).2.1, (hxs x hx).2.2⟩
    · rw [submittedOf_keep hu]
      exact hsubmitted
  · refine (hq.writing hout).imp_right ?_
    rintro ⟨hmem, huncounted⟩
    exact ⟨hmem, uncounted_commit hG h htodo (hnot hmem) huncounted⟩

/-! ## Runs -/

theorem fine_begin (call : ModerationCall) (db : DB) : Fine call.begin db := by
  have hown : call.begin.own = ∅ := by cases call <;> rfl
  have hout : call.begin.outcome = none := by cases call <;> rfl
  refine ⟨?_, fun s hs => ?_, ?_, fun h => ?_⟩
  · cases call with
    | createReport r => exact .upsert r rfl
    | addCaseAction caseID action => exact .read action rfl
    | banPlayerForCheating userID => exact .closeOpen userID rfl
  · cases call with
    | createReport r =>
        simp only [ModerationCall.begin, List.mem_cons, List.not_mem_nil, or_false] at hs
        rcases hs with rfl | rfl | rfl <;> trivial
    | addCaseAction | banPlayerForCheating =>
        obtain rfl := List.mem_singleton.1 hs
        trivial
  · rw [hown]
    exact .empty _ _ db
  · rw [hout] at h
    cases h

/-- A statement commits nothing, or all that its transaction has written when nothing is left to do. -/
theorem run_cases (t : ModerationTx) (db : DB) (m : Moment) :
    (∃ s rest, t.todo = s :: rest ∧ t.run db m = (∅, t.step (view t.own db) m s rest)) ∨
      t.todo = [] ∧ t.run db m = (t.own, none) := by
  unfold ModerationTx.run
  cases htodo : t.todo with
  | nil => exact .inr ⟨rfl, rfl⟩
  | cons s rest => exact .inl ⟨s, rest, rfl, rfl⟩

theorem moderation_cooperates : ReadCommitted.World.CooperatesIf moderationProgram Orderly Sound Fine where
  begin call db _ := fine_begin call db
  run t db m t' hC hG h ht' := by
    show Fine t' (view (t.run db m).1 db)
    have hnext : (t.run db m).2 = some t' := ht'
    rcases run_cases t db m with ⟨s, rest, htodo, hrun⟩ | ⟨-, hrun⟩
    · rw [hrun] at hnext ⊢
      rw [ReadCommitted.view_empty]
      exact fine_step hG h htodo hC hnext
    · rw [hrun] at hnext
      cases hnext
  keeps t db m hC hG h := by
    show Sound (view (t.run db m).1 db)
    rcases run_cases t db m with ⟨s, rest, htodo, hrun⟩ | ⟨htodo, hrun⟩
    · rw [hrun, ReadCommitted.view_empty]
      exact hG
    · rw [hrun]
      exact sound_commit hG h htodo
  frame t q db m hC hG h hq hfree := by
    show Fine q (view (t.run db m).1 db)
    have hfree' : ∀ k ∈ (t.run db m).1, k ∉ q.own := hfree
    rcases run_cases t db m with ⟨s, rest, htodo, hrun⟩ | ⟨htodo, hrun⟩
    · rw [hrun, ReadCommitted.view_empty]
      exact hq
    · rw [hrun] at hfree' ⊢
      exact fine_frame hG h htodo hq hfree'

/-- In every run of orderly statements each report counts once. -/
theorem countedOnce_of_orderly (as : List ModerationAct)
    (hC : ReadCommitted.World.StatementsMeet Orderly (⟨∅, ∅⟩ : ModerationWorld) as) :
    Run.Always ReadCommitted.World.step (fun w => CountedOnce w.db) (⟨∅, ∅⟩ : ModerationWorld) as := by
  have hinit : ReadCommitted.World.Shared Sound Fine (⟨∅, ∅⟩ : ModerationWorld) :=
    ⟨ReadCommitted.World.Inv.init ∅, Sound.empty⟩
  exact (hinit.always moderation_cooperates hC).mono fun w h => h.shared.countedOnce

/-! ### A report is dismissed -/

instance Orderly.decidable (t : ModerationTx) (db : DB) (m : Moment) : Decidable (Orderly t db m) := by
  unfold Orderly
  split <;> infer_instance

def sampleReport : Report := ⟨"m", "a", "b"⟩

/-- A call that runs alone. -/
def alone (id : ℕ) (call : ModerationCall) (statements : ℕ) : List ModerationAct :=
  .start id call :: List.replicate (statements + 1) (.run id {})

def reportAndDismiss : List ModerationAct :=
  alone 0 (.createReport sampleReport) 3 ++ alone 1 (.addCaseAction 0 (.dismiss none)) 4

theorem countedOnce_reportAndDismiss :
    Run.Always ReadCommitted.World.step (fun w => CountedOnce w.db) (⟨∅, ∅⟩ : ModerationWorld)
      reportAndDismiss :=
  countedOnce_of_orderly reportAndDismiss (@of_decide_eq_true _
    (@ReadCommitted.World.StatementsMeet.decidable _ Row _ moderationProgram Orderly Orderly.decidable _ _)
    (by decide +kernel))

/-! ### A case is opened again -/

/-- The case is assigned to a moderator after it has been dismissed, and dismissed again. -/
def reopened : List ModerationAct :=
  reportAndDismiss ++ alone 2 (.addCaseAction 0 .assign) 2 ++ alone 3 (.addCaseAction 0 (.dismiss none)) 4

theorem not_countedOnce_reopened :
    ¬ Run.Always ReadCommitted.World.step (fun w => CountedOnce w.db) (⟨∅, ∅⟩ : ModerationWorld) reopened := by
  intro h
  have hrun : (Run.exec ReadCommitted.World.step (⟨∅, ∅⟩ : ModerationWorld) reopened).any fun w =>
      (w.db.lookup (.reputation "a")).any fun rep : Reputation =>
        rep.submitted < rep.confirmed + rep.dismissed + rep.inconclusive + rep.abusive := by
    decide +kernel
  obtain ⟨w, hw, hrep⟩ := (Option.any_eq_true _ _).1 hrun
  obtain ⟨rep, hrep, hlt⟩ := (Option.any_eq_true _ _).1 hrep
  have hle := (h.exec hw "a" rep hrep).2.2.2
  have hlt' := of_decide_eq_true hlt
  omega

end GeoDuels.Moderation
