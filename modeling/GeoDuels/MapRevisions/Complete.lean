import GeoDuels.MapRevisions.Processes

/-!
# The active revision

`ActivateMapRevision` trusts a revision that it finds, and no transaction looks at the locations again once
a worker has counted them.  The active revision is complete in every run whose transactions make up for this
when they commit (`activeComplete_of_guarded`): a worker that copies a dataset finds no committed locations
still, and `ActivateMapRevision` finds some when it has not inserted the revision itself.
-/

namespace GeoDuels.MapRevisions

open ReadCommitted (view update lookup_view lookup_view_of_notMem collect_view_of_nil mem_of_lookup
  view_empty World)

variable {S : Files} {own db rows : DB} {r : RevisionID} {key : MapKey} {contentHash : ContentHash}
  {t : RevisionTx} {e : Ids}

/-! ## What is committed -/

/-- How often the transaction of a process has copied the dataset. -/
def RevisionTx.copies (t : RevisionTx) : ℕ :=
  match t.at_ with
  | .commitRows => 1
  | .commitIn => if t.inserted then 1 else 0
  | _ => 0

/-- What the next statement of a process commits. -/
inductive Commits (S : Files) (t : RevisionTx) (db : DB) : DB → Prop
  | maps {rows : DB} (at_ : t.at_.commits = false) (only : OnlyMaps rows) : Commits S t db rows
  | inserts {rows : DB} (at_ : t.at_ = .insertRevision) (unaliased : ∀ key, .mapAlias key ∉ rows)
      (new : .revision (revisionID t.mapKey t.contentHash) ∉ db)
      (commit : Commit S rows db (revisionID t.mapKey t.contentHash) t.mapKey t.contentHash 0) :
      Commits S t db rows
  | transaction (at_ : t.at_.commits = true) (bound : Bound S t db)
      (commit : Commit S t.own db t.revisionID t.mapKey t.contentHash t.copies) : Commits S t db t.own

theorem Commits.none (hat : t.at_.commits = false) : Commits S t db ∅ := .maps hat .empty

theorem At.cases_of_commits {at_ : At} (h : at_.commits = true) :
    at_ = .commitRows ∨ at_ = .commitAlias ∨ at_ = .commitIn := by
  cases at_ <;> simp_all [At.commits]

theorem Bound.commit (h : Bound S t db) (hat : t.at_.commits = true) :
    Commit S t.own db t.revisionID t.mapKey t.contentHash t.copies := by
  have hat := At.cases_of_commits hat
  have hcopied : t.copied S = (List.replicate t.copies (S.rows t.contentHash)).flatten := by
    obtain hat | hat | hat := hat
    · simp [RevisionTx.copied, RevisionTx.copies, hat]
    · simp [RevisionTx.copied, RevisionTx.copies, hat]
    · cases hins : t.inserted <;> simp [RevisionTx.copied, RevisionTx.copies, hat, hins]
  refine h.writes.commit h.nonempty hcopied (fun row hrow => ?_) ?_
  · have hcount := h.rowCount row hrow
    obtain hat | hat | hat := hat
    · exact .inl (by simpa [hat, At.counted] using hcount)
    · exact .inr ⟨by simp [RevisionTx.copies, hat], by simpa [hat, At.counted] using hcount⟩
    · exact .inl (by simpa [hat, At.counted] using hcount)
  · obtain hat | hat | hat := hat
    · exact .inl (h.counted (by rw [hat]; rfl))
    · exact .inr (by simp [RevisionTx.copies, hat])
    · exact .inl (h.counted (by rw [hat]; rfl))

/-- A worker inserts a revision. -/
theorem commit_insertRevision (hne : S.rows contentHash ≠ [])
    (h : insertRevision db key contentHash = some rows) :
    Commit S rows db (revisionID key contentHash) key contentHash 0 := by
  have hseen : insertRevision (view ∅ db) key contentHash = some rows := by rwa [view_empty]
  have hwrites := OnlyMaps.empty.insertRevision hseen
  rw [show view rows ∅ = rows from AList.union_empty] at hwrites
  refine hwrites.commit hne rfl (fun row _ => .inr ⟨rfl, fun old hold => ?_⟩) (.inr rfl)
  exact absurd (mem_of_lookup hold) (hwrites.new rfl).2

theorem Fine.commits (h : Fine S t db) : Commits S t db (t.run S db e).1 := by
  have hran := ran_run S t db e
  generalize (t.run S db e).1 = rows, (t.run S db e).2 = next at hran ⊢
  cases hran with
  | fails _ hat => exact .none hat
  | insertMap hne => exact .maps rfl (.insertMap _ _)
  | insertRevision hw =>
      obtain ⟨hne, hown, -⟩ := h
      obtain rfl := hown
      rw [view_empty] at hw
      refine .inserts rfl (fun key' hmem => ?_) (insertRevision_spec hw).1 (commit_insertRevision hne hw)
      rcases (insertRevision_spec hw).2.2.2 _ hmem with heq | heq <;> cases heq
  | commitRows | commitAlias | commitIn => exact .transaction rfl h.2 (h.2.commit rfl)
  | found | notFound | empty | ingested | copied | copy | setRowCount | upsertAlias | setStatus | upsertMap |
      foundIn | notFoundIn | insertIn | copyIn | markActive | upsertAliasIn => exact .none rfl

section Maps

variable (h : OnlyMaps rows)
include h

theorem OnlyMaps.lookup_view {k : RowKey} (hk : ∀ key, k ≠ .map key) (db : DB) :
    (view rows db).lookup k = db.lookup k := lookup_view_of_notMem (h.notMem hk)

theorem OnlyMaps.locationsOf_view (db : DB) (r : RevisionID) :
    locationsOf (view rows db) r = locationsOf db r := by
  refine collect_view_of_nil (fun k hk v => ?_) db
  obtain ⟨key, rfl⟩ := h k hk
  rfl

theorem OnlyMaps.sound (hdb : Sound S db) : Sound S (view rows db) where
  content key contentHash r hr := by
    rw [h.lookup_view (by simp)] at hr
    rw [h.lookup_view (by simp)]
    exact hdb.content key contentHash r hr
  revision r row hrow := by
    rw [h.lookup_view (by simp)] at hrow
    obtain ⟨hne, n, hn, hcount⟩ := hdb.revision r row hrow
    refine ⟨hne, n, ?_, hcount⟩
    rw [Copies, h.locationsOf_view]
    exact hn
  orphans r hr := by
    rw [h.locationsOf_view]
    exact hdb.orphans r fun hmem => hr (AList.mem_union.2 (.inr hmem))

theorem OnlyMaps.copiedOnce (hdb : CopiedOnce S db) : CopiedOnce S (view rows db) := by
  intro r row hrow
  rw [h.lookup_view (by simp)] at hrow
  rw [h.locationsOf_view]
  exact hdb r row hrow

end Maps

theorem Commits.sound (h : Commits S t db rows) (hdb : Sound S db) : Sound S (view rows db) := by
  cases h with
  | maps _ only => exact only.sound hdb
  | inserts _ _ _ commit => exact hdb.commit commit
  | transaction _ _ commit => exact hdb.commit commit

theorem Has.commit {r' : RevisionID} {key' : MapKey} {contentHash' : ContentHash} {n : ℕ}
    (hhas : Has db r key contentHash) (h : Commit S rows db r' key' contentHash' n) :
    Has (view rows db) r key contentHash := by
  obtain ⟨row, hrow, hkey, hhash⟩ := hhas
  by_cases hr : r = r'
  · subst hr
    have hmem : RowKey.revision r ∈ view rows db := AList.mem_union.2 (.inr (mem_of_lookup hrow))
    obtain ⟨new, hnew⟩ := Option.isSome_iff_exists.1 (AList.lookup_isSome.2 hmem)
    obtain ⟨hkey', hhash'⟩ := h.lookup_self hnew
    obtain ⟨hold, hold'⟩ := h.old row hrow
    exact ⟨new, hnew, hkey'.trans (hold.symm.trans hkey), hhash'.trans (hold'.symm.trans hhash)⟩
  · exact ⟨row, (h.lookup_of_ne hr).trans hrow, hkey, hhash⟩

theorem Has.commits (hhas : Has db r key contentHash) (h : Commits S t db rows) :
    Has (view rows db) r key contentHash := by
  cases h with
  | maps _ only =>
      rw [Has, only.lookup_view (by simp)]
      exact hhas
  | inserts _ _ _ commit => exact hhas.commit commit
  | transaction _ _ commit => exact hhas.commit commit

/-! ## All processes -/

/-- What another process commits. -/
theorem Bound.frame {q : RevisionTx} (h : Bound S q db) (hrows : Commits S t db rows)
    (hfree : ∀ k ∈ rows, k ∉ q.own) : Bound S q (view rows db) where
  nonempty := h.nonempty
  writes :=
    { h.writes with
      fresh := fun id hid hmem => (AList.mem_union.1 hmem).elim (fun hk => hfree _ hk hid)
        (h.writes.fresh id hid)
      new := fun hins => ⟨(h.writes.new hins).1, fun hmem => (AList.mem_union.1 hmem).elim
        (fun hk => hfree _ hk (h.writes.new hins).1) (h.writes.new hins).2⟩
      old := fun hins => (h.writes.old hins).commits hrows }
  rowCount row hrow := by
    rw [lookup_view_of_notMem fun hk => hfree _ hk (mem_of_lookup hrow)]
    exact h.rowCount row hrow
  counted := h.counted
  active := h.active
  aliased := h.aliased

theorem Fine.frame {q : RevisionTx} (h : Fine S q db) (hrows : Commits S t db rows)
    (hfree : ∀ k ∈ rows, k ∉ q.own) : Fine S q (view rows db) := by
  obtain ⟨key, contentHash, at_, r, inserted, own⟩ := q
  cases at_ with
  | insertMap | upsertMap | find | insertRevision | findIn | insertIn => exact h
  | copyIn | markActive | upsertAliasIn | commitIn => exact ⟨h.1, h.2.frame hrows hfree⟩
  | count | copy | setRowCount | commitRows | upsertAlias | setStatus | commitAlias =>
      exact ⟨h.1, h.2.frame hrows hfree⟩

/-- The revision that a process finds. -/
theorem Sound.has (hdb : Sound S db) (hown : OnlyMaps own)
    (h : (view own db).lookup (.content key contentHash) = some r) : Has db r key contentHash := by
  rw [hown.lookup_view (by simp)] at h
  exact hdb.content key contentHash r h

/-- `ActivateMapRevision` has inserted its revision. -/
theorem Bound.of_inserted (hne : S.rows contentHash ≠ []) (hown : OnlyMaps own)
    (hw : insertRevision (view own db) key contentHash = some rows) :
    Bound S ⟨key, contentHash, .copyIn, revisionID key contentHash, true, view rows own⟩ db := by
  have hwrites := hown.insertRevision hw
  refine ⟨hne, hwrites, fun row _ old hold => ?_, nofun, fun key' a ha => ?_, nofun⟩
  · exact absurd (mem_of_lookup hold) (hwrites.new rfl).2
  · rcases AList.mem_union.1 (mem_of_lookup ha) with hmem | hmem
    · rcases (insertRevision_spec hw).2.2.2 _ hmem with heq | heq <;> cases heq
    · exact absurd hmem (hown.notMem (by simp))

theorem Fine.run {t' : RevisionTx} (h : Fine S t db) (hdb : Sound S db)
    (hrun : (t.run S db e).2 = some t') : Fine S t' (view (t.run S db e).1 db) := by
  have hran := ran_run S t db e
  rw [hrun] at hran
  generalize (t.run S db e).1 = rows at hran ⊢
  cases hran with
  | insertMap hne =>
      obtain ⟨hown, hins⟩ := h
      exact ⟨hne, hown, hins⟩
  | found id hid =>
      obtain ⟨hne, hown, hins⟩ := h
      obtain rfl := hown
      rw [view_empty]
      exact ⟨hins, .of_onlyMaps hne .empty (hdb.has .empty hid) rfl hins ⟨rfl, rfl⟩⟩
  | notFound => exact h
  | empty | ingested =>
      rw [view_empty]
      exact ⟨h.1, h.2.goto rfl rfl rfl⟩
  | @insertRevision key contentHash r inserted own _ hw =>
      obtain ⟨hne, hown, hins⟩ := h
      obtain rfl : own = ∅ := hown
      have hhas : Has (view rows db) (revisionID key contentHash) key contentHash := by
        refine ⟨{ mapKey := key, contentHash := contentHash }, ?_, rfl, rfl⟩
        rw [lookup_view, (insertRevision_spec hw).2.2.1, Option.some_or]
      exact ⟨hins, .of_onlyMaps hne .empty hhas rfl hins ⟨rfl, rfl⟩⟩
  | copied i hlen =>
      rw [view_empty]
      exact ⟨h.1, h.2.goto (List.take_of_length_le hlen).symm rfl rfl⟩
  | copy i ids hw =>
      rw [view_empty]
      exact ⟨h.1, h.2.copyFrom hw List.take_add rfl rfl⟩
  | setRowCount =>
      rw [view_empty]
      exact ⟨h.1, h.2.updateRevision (fun _ => rfl) (fun _ => rfl) (fun _ => rfl) rfl rfl⟩
  | commitRows =>
      obtain ⟨hins, hb⟩ := h
      exact ⟨hins, .of_onlyMaps hb.nonempty .empty hb.writes.has rfl hins ⟨rfl, rfl⟩⟩
  | upsertAlias =>
      rw [view_empty]
      exact ⟨h.1, h.2.upsertAlias _ rfl rfl rfl⟩
  | setStatus =>
      rw [view_empty]
      exact ⟨h.1, h.2.updateRevision (fun _ => rfl) (fun _ => rfl) (fun _ => ⟨rfl, rfl⟩) rfl rfl⟩
  | @upsertMap key contentHash r inserted own displayName hne =>
      obtain ⟨hown, hins⟩ := h
      obtain rfl : own = ∅ := hown
      refine ⟨hne, fun k hk => ?_, hins⟩
      exact OnlyMaps.insert key displayName k
        ((AList.mem_union.1 hk).resolve_right (AList.notMem_empty k))
  | foundIn id hid =>
      obtain ⟨hne, hown, hins⟩ := h
      rw [view_empty]
      refine ⟨nofun, .of_onlyMaps hne hown (hdb.has hown hid) ?_ hins ⟨rfl, rfl⟩⟩
      exact if_neg (by simpa using hins)
  | notFoundIn => exact h
  | insertIn hw =>
      obtain ⟨hne, hown, -⟩ := h
      rw [view_empty]
      exact ⟨fun _ => rfl, .of_inserted hne hown hw⟩
  | copyIn ids hw =>
      obtain ⟨hins, hb⟩ := h
      obtain rfl := hins rfl
      rw [view_empty]
      exact ⟨nofun, hb.copyFrom hw rfl rfl rfl⟩
  | markActive =>
      rw [view_empty]
      exact ⟨nofun, h.2.updateRevision (fun _ => rfl) (fun _ => rfl) (fun _ => rfl) rfl rfl⟩
  | upsertAliasIn =>
      rw [view_empty]
      exact ⟨nofun, h.2.upsertAlias _ rfl rfl rfl⟩

theorem fine_cooperates (S : Files) : World.Cooperates (revisionProgram S) (Sound S) (Fine S) where
  begin c db _ := by
    cases c with
    | ingest key contentHash => exact ⟨rfl, rfl⟩
    | activateMapRevision key displayName contentHash => exact ⟨rfl, rfl⟩
  run _ _ _ _ hdb h hrun := h.run hdb hrun
  keeps _ _ _ hdb h := h.commits.sound hdb
  frame _ _ _ _ _ h hq hfree := hq.frame h.commits hfree

/-! ## Commits that leave the active revision complete -/

/-- What the next statement finds when it commits: a worker that has copied the dataset finds no locations
still, and `ActivateMapRevision` has inserted its revision or finds locations of it. -/
def CommitsGuarded (t : RevisionTx) (db : DB) (_ : Ids) : Prop :=
  match t.at_ with
  | .commitRows => locationsOf db t.revisionID = []
  | .commitIn => t.inserted = true ∨ locationsOf db t.revisionID ≠ []
  | _ => True

instance CommitsGuarded.decidable (t : RevisionTx) (db : DB) (e : Ids) : Decidable (CommitsGuarded t db e) := by
  unfold CommitsGuarded
  split <;> infer_instance

instance (S : Files) (w : RevisionWorld S) (as : List (RevisionAct S)) :
    Decidable (World.StatementsMeet CommitsGuarded w as) :=
  @World.StatementsMeet.decidable _ Row _ (revisionProgram S) CommitsGuarded CommitsGuarded.decidable w as

/-- A worker that sets the alias has found locations or committed them. -/
def Ingested (t : RevisionTx) (db : DB) : Prop :=
  match t.at_ with
  | .upsertAlias | .setStatus | .commitAlias => locationsOf db t.revisionID ≠ []
  | _ => True

theorem Commits.locations_ne_nil (h : Commits S t db rows) (hr : locationsOf db r ≠ []) :
    locationsOf (view rows db) r ≠ [] := by
  cases h with
  | maps _ only =>
      rw [only.locationsOf_view]
      exact hr
  | inserts _ _ _ commit => exact commit.locations_ne_nil hr
  | transaction _ _ commit => exact commit.locations_ne_nil hr

theorem Ingested.frame {q : RevisionTx} (h : Ingested q db) (hrows : Commits S t db rows) :
    Ingested q (view rows db) := by
  unfold Ingested at h ⊢
  split at h
  · exact hrows.locations_ne_nil h
  · exact hrows.locations_ne_nil h
  · exact hrows.locations_ne_nil h
  · trivial

theorem Ingested.run {t' : RevisionTx} (hingested : Ingested t db) (h : Fine S t db)
    (hrun : (t.run S db e).2 = some t') : Ingested t' (view (t.run S db e).1 db) := by
  have hran := ran_run S t db e
  rw [hrun] at hran
  generalize (t.run S db e).1 = rows at hran ⊢
  cases hran with
  | ingested hne | upsertAlias | setStatus =>
      rw [view_empty]
      assumption
  | commitRows => exact (h.2.commit rfl).locations_of_copy
  | insertMap | found | notFound | empty | insertRevision | copied | copy | setRowCount | upsertMap |
      foundIn | notFoundIn | insertIn | copyIn | markActive | upsertAliasIn => trivial

/-- A copy that is committed is the first of its revision. -/
theorem Commits.copiedOnce (h : Commits S t db rows) (hC : CommitsGuarded t db e) (hdb : Sound S db)
    (honce : CopiedOnce S db) : CopiedOnce S (view rows db) := by
  cases h with
  | maps _ only => exact only.copiedOnce honce
  | inserts _ _ _ commit => exact honce.commit hdb commit (.inl rfl)
  | transaction hat hb commit =>
      refine honce.commit hdb commit ?_
      unfold CommitsGuarded at hC
      rcases At.cases_of_commits hat with hat | hat | hat
      · rw [hat] at hC
        exact .inr ⟨by simp [RevisionTx.copies, hat], hC⟩
      · exact .inl (by simp [RevisionTx.copies, hat])
      · cases hins : t.inserted with
        | false => exact .inl (by simp [RevisionTx.copies, hat, hins])
        | true =>
            exact .inr ⟨by simp [RevisionTx.copies, hat, hins], hdb.orphans _ (hb.writes.new hins).2⟩

/-- A revision that a transaction makes active has locations. -/
theorem Bound.locations_of_aliased (h : Bound S t db) (hingested : Ingested t db) (hC : CommitsGuarded t db e)
    (hat : t.at_.commits = true) (haliased : t.at_.aliased = true) :
    locationsOf (view t.own db) t.revisionID ≠ [] := by
  have commit := h.commit hat
  unfold CommitsGuarded at hC
  unfold Ingested at hingested
  rcases At.cases_of_commits hat with hat | hat | hat
  · rw [hat] at haliased
    cases haliased
  · rw [hat] at hingested
    exact commit.locations_ne_nil hingested
  · rw [hat] at hC
    obtain hins | hne := hC
    · rw [show t.copies = 1 by simp [RevisionTx.copies, hat, hins]] at commit
      exact commit.locations_of_copy
    · exact commit.locations_ne_nil hne

theorem Commits.activeCopied (h : Commits S t db rows) (hC : CommitsGuarded t db e)
    (hingested : Ingested t db) (hactive : ActiveCopied db) : ActiveCopied (view rows db) := by
  have hkept : ∀ r, .revision r ∈ db ∧ locationsOf db r ≠ [] →
      .revision r ∈ view rows db ∧ locationsOf (view rows db) r ≠ [] :=
    fun r hr => ⟨AList.mem_union.2 (.inr hr.1), h.locations_ne_nil hr.2⟩
  intro key a r ha hr
  rw [lookup_view] at ha
  rcases Option.or_eq_some_iff.1 ha with ha | ⟨-, ha⟩
  · cases h with
    | maps _ only => exact absurd (mem_of_lookup ha) (only.notMem (by simp))
    | inserts _ unaliased _ _ => exact absurd (mem_of_lookup ha) (unaliased key)
    | transaction hat hb commit =>
        obtain ⟨haliased, -, hself⟩ := hb.active key a ha
        obtain rfl : t.revisionID = r := Option.some.inj (hself.symm.trans hr)
        obtain ⟨row, hrow, -⟩ := hb.writes.has
        exact ⟨mem_of_lookup hrow, hb.locations_of_aliased hingested hC hat haliased⟩
  · exact hkept r (hactive key a r ha hr)

/-- The committed rows while all commits are guarded. -/
structure Guarded (S : Files) (db : DB) : Prop where
  sound : Sound S db
  once : CopiedOnce S db
  active : ActiveCopied db

theorem guarded_cooperates (S : Files) :
    World.CooperatesIf (revisionProgram S) CommitsGuarded (Guarded S)
      (fun t db => Fine S t db ∧ Ingested t db) where
  begin c db hdb := by
    refine ⟨(fine_cooperates S).begin c db hdb.sound, ?_⟩
    cases c with
    | ingest key contentHash => trivial
    | activateMapRevision key displayName contentHash => trivial
  run _ _ _ _ _ hdb h hrun := ⟨h.1.run hdb.sound hrun, h.2.run h.1 hrun⟩
  keeps _ _ _ hC hdb h :=
    ⟨h.1.commits.sound hdb.sound, h.1.commits.copiedOnce hC hdb.sound hdb.once,
      h.1.commits.activeCopied hC h.2 hdb.active⟩
  frame _ _ _ _ _ _ h hq hfree := ⟨hq.1.frame h.1.commits hfree, hq.2.frame h.1.commits⟩

/-- The active revisions are complete throughout every run in which a worker commits its copy of a dataset
only while the revision has no locations, and `ActivateMapRevision` commits only a revision that it has
inserted or that has locations. -/
theorem activeComplete_of_guarded (S : Files) (as : List (RevisionAct S))
    (h : World.StatementsMeet CommitsGuarded (⟨∅, ∅⟩ : RevisionWorld S) as) :
    Run.Always World.step (fun w : RevisionWorld S => ActiveComplete S w.db) ⟨∅, ∅⟩ as := by
  have hempty : Guarded S ∅ := ⟨.empty, nofun, nofun⟩
  have hall := World.Shared.always (guarded_cooperates S) ⟨.init ∅, hempty⟩ h
  exact hall.mono fun w hw => hw.shared.active.complete hw.shared.sound hw.shared.once

/-- A dataset with one location. -/
def oneLocation : Files where
  dataset _ := [{ lat := some 48, lng := some 2 }]
  stableRand _ _ := 0

/-- A worker ingests a dataset.  Before it sets the alias, `ActivateMapRevision` makes its revision active, and
a second worker, which has found the revision before it had locations, counts them. -/
def activatedMeanwhile : List (RevisionAct oneLocation) :=
  [.start 0 (.ingest "paris" "0f8c5b1e7a2d49"), .run 0 {}, .run 0 {}, .run 0 {},
    .start 1 (.ingest "paris" "0f8c5b1e7a2d49"), .run 1 {}, .run 1 {}, .run 0 { ids := [7] }, .run 0 {},
    .run 0 {}, .run 0 {}, .start 2 (.activateMapRevision "paris" "" "0f8c5b1e7a2d49"), .run 1 {}, .run 2 {},
    .run 2 {}, .run 2 {}, .run 2 {}, .run 2 {}, .run 0 {}, .run 0 {}, .run 0 {}, .run 1 {}, .run 1 {},
    .run 1 {}]

/-- All three have ended, and the active revision has its location. -/
theorem activeComplete_activatedMeanwhile :
    (Run.exec World.step (⟨∅, ∅⟩ : RevisionWorld oneLocation) activatedMeanwhile).map
        (fun w => (w.procs.keys, (w.db.lookup (.mapAlias "paris") : Option AliasRow).map (·.activeRevisionID),
          (locationsOf w.db "paris-0f8c5b1e7a2d").length)) =
          some ([], some (some "paris-0f8c5b1e7a2d"), 1) ∧
      Run.Always World.step (fun w : RevisionWorld oneLocation => ActiveComplete oneLocation w.db)
        ⟨∅, ∅⟩ activatedMeanwhile :=
  ⟨by decide +kernel, activeComplete_of_guarded oneLocation activatedMeanwhile (by decide +kernel)⟩

/-! ## A worker that stops -/

/-- A worker inserts a revision and stops, and `ActivateMapRevision` makes it active. -/
def stoppedThenActivated : List (RevisionAct oneLocation) :=
  [.start 0 (.ingest "paris" "0f8c5b1e7a2d49"), .run 0 {}, .run 0 {}, .run 0 {}, .stop 0,
    .start 1 (.activateMapRevision "paris" "" "0f8c5b1e7a2d49"), .run 1 {}, .run 1 {}, .run 1 {},
    .run 1 {}, .run 1 {}]

/-- The active revision has no locations, and a row count of one. -/
theorem stoppedThenActivated_incomplete :
    ¬ Run.Always World.step (fun w : RevisionWorld oneLocation => ActiveComplete oneLocation w.db)
      ⟨∅, ∅⟩ stoppedThenActivated := by
  intro h
  have hrun : (Run.exec World.step (⟨∅, ∅⟩ : RevisionWorld oneLocation) stoppedThenActivated).map
      (fun w => ((w.db.lookup (.mapAlias "paris") : Option AliasRow),
        locationsOf w.db "paris-0f8c5b1e7a2d")) =
      some (some { activeRevisionID := some "paris-0f8c5b1e7a2d" }, []) := by decide +kernel
  obtain ⟨w, hw, hend⟩ := Option.map_eq_some_iff.1 hrun
  obtain ⟨halias, hnone⟩ := Prod.mk.inj hend
  obtain ⟨row, -, hperm, -⟩ := h.exec hw "paris" _ _ halias rfl
  have hlen : (oneLocation.rows row.contentHash).length = 1 := by
    have hvalid : (oneLocation.parseRows [{ lat := some 48, lng := some 2 }]).length = 1 := by
      decide +kernel
    exact hvalid
  rw [hnone] at hperm
  rw [← hperm.length_eq] at hlen
  cases hlen

end GeoDuels.MapRevisions
