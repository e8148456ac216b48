import GeoDuels.MapRevisions.Complete

/-!
# The rollback revision

Complete activations of one map, one after the other: uploads through `ActivateMapRevision` and runs of the
worker.  Both write the alias with an upsert that moves the active revision into `rollback_revision_id`, also
when it is the one that is activated (`activate_spec`).  So the rollback revision is the one that was active
before, unless the active dataset is activated again (`rollback_iff`).
-/

namespace GeoDuels.MapRevisions

open ReadCommitted (view lookup_view lookup_view_of_notMem lookup_view_view mem_collect mem_of_lookup
  mem_update view_empty Program alone_induction exec_alone)

/-! ## Complete activations -/

inductive Upload where
  | ingest (contentHash : ContentHash)
  | activateMapRevision (displayName : String) (contentHash : ContentHash)
  deriving DecidableEq

def Upload.contentHash : Upload → ContentHash
  | .ingest contentHash | .activateMapRevision _ contentHash => contentHash

def Upload.call (key : MapKey) : Upload → RevisionCall
  | .ingest contentHash => .ingest key contentHash
  | .activateMapRevision displayName contentHash => .activateMapRevision key displayName contentHash

/-- An activation, with the ids that the sequence gives to each of its statements. -/
structure Activation where
  upload : Upload
  statements : List Ids

/-- The activation of a dataset runs on its own until it has committed the alias. -/
def activate (S : Files) (key : MapKey) (db : DB) (a : Activation) : Option DB :=
  ((revisionProgram S).alone (a.upload.call key).begin db a.statements).bind fun r =>
    if r.2.at_ = .commitAlias ∨ r.2.at_ = .commitIn then some r.1 else none

def activeRevision (db : DB) (key : MapKey) : Option RevisionID :=
  (db.lookup (.mapAlias key)).bind fun a : AliasRow => a.activeRevisionID

def rollbackRevision (db : DB) (key : MapKey) : Option RevisionID :=
  (db.lookup (.mapAlias key)).bind fun a : AliasRow => a.rollbackRevisionID

/-- The revision of a dataset: the one that has its content hash, or the one that will be inserted. -/
def revisionOf (db : DB) (key : MapKey) (contentHash : ContentHash) : RevisionID :=
  ((db.lookup (.content key contentHash) : Option RevisionID)).getD (revisionID key contentHash)

/-- The revision of the dataset is active already. -/
def AlreadyActive (key : MapKey) (db : DB) (a : Activation) : Prop :=
  activeRevision db key = some (revisionOf db key a.upload.contentHash)

instance (key : MapKey) (db : DB) (a : Activation) : Decidable (AlreadyActive key db a) :=
  inferInstanceAs (Decidable (_ = _))

/-! ## What an activation does -/

variable {S : Files} {db₀ db db' rows : DB} {t t' : RevisionTx} {e : Ids} {key : MapKey}
  {contentHash : ContentHash} {r : RevisionID} {a : Activation}

/-- The revision that a process has found, or has inserted. -/
def Target (db₀ : DB) (key : MapKey) (contentHash : ContentHash) (r : RevisionID) : Prop :=
  db₀.lookup (.content key contentHash) = some r ∨
    db₀.lookup (.content key contentHash) = none ∧ r = revisionID key contentHash ∧ .revision r ∉ db₀

theorem Target.eq (h : Target db₀ key contentHash r) : r = revisionOf db₀ key contentHash := by
  unfold revisionOf
  rcases h with h | ⟨h, rfl, -⟩
  · rw [h, Option.getD_some]
  · rw [h, Option.getD_none]

/-- The process copies locations next. -/
def At.copying : At → Bool
  | .copy _ | .copyIn => true
  | _ => false

/-- Only maps have been written since the process has begun. -/
def Searching (db₀ : DB) (t : RevisionTx) (db : DB) : Prop :=
  ∀ k, (∀ key, k ≠ .map key) → (view t.own db).lookup k = db₀.lookup k

/-- The process has its revision.  A revision that it has found with locations keeps them. -/
structure Chosen (db₀ : DB) (t : RevisionTx) (db : DB) : Prop where
  target : Target db₀ t.mapKey t.contentHash t.revisionID
  mapAlias : ∀ key, (view t.own db).lookup (.mapAlias key) =
    if t.at_.aliased = true ∧ key = t.mapKey then
      some ({ activeRevisionID := some t.revisionID
              rollbackRevisionID := activeRevision db₀ t.mapKey } : AliasRow)
    else db₀.lookup (.mapAlias key)
  copying : t.at_.copying = true → locationsOf db₀ t.revisionID = [] ∨
    db₀.lookup (.content t.mapKey t.contentHash) = none
  kept : db₀.lookup (.content t.mapKey t.contentHash) = some t.revisionID →
    locationsOf db₀ t.revisionID ≠ [] →
      ∀ id, (view t.own db).lookup (.location id) = db₀.lookup (.location id)

/-- What has happened to the rows `db₀` when the process is at its place. -/
def Progress (db₀ : DB) (t : RevisionTx) (db : DB) : Prop :=
  match t.at_ with
  | .insertMap | .find => t.own = ∅ ∧ Searching db₀ t db
  | .insertRevision =>
      t.own = ∅ ∧ Searching db₀ t db ∧ db₀.lookup (.content t.mapKey t.contentHash) = none
  | .count =>
      t.own = ∅ ∧ Searching db₀ t db ∧ db₀.lookup (.content t.mapKey t.contentHash) = some t.revisionID
  | .upsertMap _ | .findIn => Searching db₀ t db
  | .insertIn => Searching db₀ t db ∧ db₀.lookup (.content t.mapKey t.contentHash) = none
  | _ => Chosen db₀ t db

theorem locationsOf_eq_nil_iff (h : ∀ id, db.lookup (.location id) = db'.lookup (.location id)) :
    locationsOf db r = [] ↔ locationsOf db' r = [] := by
  have hsame : ∀ {db db' : DB}, (∀ id, db.lookup (.location id) = db'.lookup (.location id)) →
      locationsOf db r = [] → locationsOf db' r = [] := by
    intro db db' h hnil
    rw [List.eq_nil_iff_forall_not_mem] at hnil ⊢
    intro x hx
    obtain ⟨k, v, hv, hx⟩ := mem_collect.1 hx
    cases k with
    | location id => exact hnil x (mem_collect.2 ⟨.location id, v, (h id).trans hv, hx⟩)
    | map | revision | content | mapAlias => cases hx
  exact ⟨hsame h, hsame fun id => (h id).symm⟩

theorem Searching.begin (hown : t.own = ∅) : Searching db t db := by
  intro k _
  rw [hown, view_empty]

/-- A process that has found its revision, or inserted it without writing anything else. -/
theorem Searching.chosen (h : Searching db₀ t db) (htarget : Target db₀ t.mapKey t.contentHash t.revisionID)
    (haliased : t.at_.aliased = false) (hcopying : t.at_.copying = true → locationsOf db₀ t.revisionID = [] ∨
      db₀.lookup (.content t.mapKey t.contentHash) = none) : Chosen db₀ t db where
  target := htarget
  mapAlias key := by
    rw [if_neg (by simp [haliased])]
    exact h _ (by simp)
  copying := hcopying
  kept _ _ id := h _ (by simp)

section Statements

variable {own own' : DB} {at_ : At}

/-- A statement of a process that has its revision.  Locations are written while it copies only. -/
theorem Chosen.statement (h : Chosen db₀ t db) (haliased : at_.aliased = t.at_.aliased)
    (hcopying : at_.copying = false ∨ t.at_.copying = true)
    (hmapAlias : ∀ key, (view own' db').lookup (.mapAlias key) = (view t.own db).lookup (.mapAlias key))
    (hlocation : t.at_.copying = true ∨
      ∀ id, (view own' db').lookup (.location id) = (view t.own db).lookup (.location id)) :
    Chosen db₀ { t with at_ := at_, own := own' } db' where
  target := h.target
  mapAlias key := by
    dsimp only
    rw [hmapAlias, haliased]
    exact h.mapAlias key
  copying hat := h.copying (hcopying.resolve_left (ne_false_of_eq_true hat))
  kept hfound hlocations id := by
    rcases hlocation with hat | hlocation
    · rcases h.copying hat with hnil | hnone
      · exact absurd hnil hlocations
      · cases hnone.symm.trans hfound
    · exact (hlocation id).trans (h.kept hfound hlocations id)

theorem Chosen.goto (h : Chosen db₀ t db) (haliased : at_.aliased = t.at_.aliased)
    (hcopying : at_.copying = false ∨ t.at_.copying = true) : Chosen db₀ { t with at_ := at_ } (view ∅ db) :=
  h.statement haliased hcopying (fun _ => by rw [view_empty]) (.inr fun _ => by rw [view_empty])

theorem Chosen.writes (h : Chosen db₀ t db) (haliased : at_.aliased = t.at_.aliased)
    (hcopying : at_.copying = false ∨ t.at_.copying = true) (hmapAlias : ∀ key, .mapAlias key ∉ rows)
    (hlocation : t.at_.copying = true ∨ ∀ id, .location id ∉ rows) :
    Chosen db₀ { t with at_ := at_, own := view rows t.own } (view ∅ db) := by
  refine h.statement haliased hcopying (fun key => ?_) (hlocation.imp_right fun hlocation id => ?_)
  · rw [view_empty, lookup_view_view, lookup_view_of_notMem (hmapAlias key)]
  · rw [view_empty, lookup_view_view, lookup_view_of_notMem (hlocation id)]

theorem Chosen.copyFrom {ids : List ℕ} {block : List Location} (h : Chosen db₀ t db)
    (hat : t.at_.copying = true) (haliased : at_.aliased = t.at_.aliased)
    (hw : copyFrom (view t.own db) t.revisionID ids block = some rows) :
    Chosen db₀ { t with at_ := at_, own := view rows t.own } (view ∅ db) := by
  refine h.writes haliased (.inr hat) (fun key hmem => ?_) (.inl hat)
  obtain ⟨id, heq, -⟩ := copyFrom_fresh hw hmem
  cases heq

theorem Chosen.updateRevision (h : Chosen db₀ t db) (haliased : at_.aliased = t.at_.aliased)
    (hcopying : at_.copying = false ∨ t.at_.copying = true) (hrows : ∀ k ∈ rows, k = .revision t.revisionID) :
    Chosen db₀ { t with at_ := at_, own := view rows t.own } (view ∅ db) :=
  h.writes haliased hcopying (fun key hmem => by cases hrows _ hmem) (.inr fun id hmem => by cases hrows _ hmem)

/-- The active revision becomes the rollback revision. -/
theorem Chosen.upsertAlias (h : Chosen db₀ t db) (hat : t.at_.aliased = false) (haliased : at_.aliased = true)
    (hcopying : at_.copying = false) :
    Chosen db₀
      { t with at_ := at_, own := view (upsertAlias (view t.own db) t.mapKey t.revisionID) t.own }
      (view ∅ db) where
  target := h.target
  mapAlias key := by
    have hbefore : ∀ key, (view t.own db).lookup (.mapAlias key) = db₀.lookup (.mapAlias key) := by
      intro key
      rw [h.mapAlias, if_neg (by simp [hat])]
    dsimp only
    rw [view_empty, lookup_view_view]
    by_cases hkey : key = t.mapKey
    · subst hkey
      rw [if_pos ⟨haliased, rfl⟩, lookup_view, MapRevisions.upsertAlias, AList.lookup_insert, Option.some_or,
        hbefore]
      rfl
    · rw [if_neg fun hand => hkey hand.2, lookup_view_of_notMem, hbefore]
      intro hmem
      exact hkey (RowKey.mapAlias.inj (mem_upsertAlias hmem))
  copying hat := absurd (hcopying.symm.trans hat) (by simp)
  kept hfound hlocations id := by
    dsimp only
    rw [view_empty, lookup_view_view, lookup_view_of_notMem fun hmem => by cases mem_upsertAlias hmem]
    exact h.kept hfound hlocations id

/-- The revision has been inserted. -/
theorem Searching.inserted {inserted : Bool} (h : Searching db₀ t db)
    (hnone : db₀.lookup (.content t.mapKey t.contentHash) = none)
    (hw : insertRevision (view t.own db) t.mapKey t.contentHash = some rows)
    (hview : ∀ k, (view own db').lookup k = (view rows (view t.own db)).lookup k)
    (haliased : at_.aliased = false) :
    Chosen db₀
      { t with
        at_ := at_
        revisionID := MapRevisions.revisionID t.mapKey t.contentHash
        inserted := inserted
        own := own } db' where
  target := by
    refine .inr ⟨hnone, rfl, fun hmem => (insertRevision_spec hw).1 ?_⟩
    rw [← AList.lookup_isSome] at hmem ⊢
    rwa [h _ (by simp)]
  mapAlias key := by
    rw [if_neg (by simp [haliased]), ← h _ (by simp), hview, lookup_view_of_notMem]
    intro hmem
    rcases (insertRevision_spec hw).2.2.2 _ hmem with heq | heq <;> cases heq
  copying _ := .inr hnone
  kept hfound := by cases hnone.symm.trans hfound

theorem Searching.writes (h : Searching db₀ t db) (hrows : OnlyMaps rows)
    (hview : ∀ k, (view own db').lookup k = (view rows (view t.own db)).lookup k) :
    Searching db₀ { t with at_ := at_, own := own } db' := by
  intro k hk
  dsimp only
  rw [hview, hrows.lookup_view hk, h k hk]

end Statements

/-- What a statement does to the process and the rows. -/
theorem Progress.run (h : Progress db₀ t db) (hrun : (t.run S db e).2 = some t') :
    Progress db₀ t' (view (t.run S db e).1 db) ∧ t'.mapKey = t.mapKey ∧ t'.contentHash = t.contentHash := by
  have hran := ran_run S t db e
  rw [hrun] at hran
  generalize (t.run S db e).1 = rows at hran ⊢
  cases hran with
  | @insertMap key _ _ _ _ hne =>
      obtain ⟨hown, hsearching⟩ := h
      obtain rfl := hown
      exact ⟨⟨rfl, hsearching.writes (.insertMap db key) fun k => by simp only [view_empty]⟩, rfl, rfl⟩
  | @found key contentHash _ _ _ id hid =>
      obtain ⟨hown, hsearching⟩ := h
      have hcontent := hsearching (.content key contentHash) (by simp)
      rw [view_empty]
      exact ⟨⟨hown, hsearching, hcontent.symm.trans hid⟩, rfl, rfl⟩
  | @notFound key contentHash _ _ _ hnone =>
      obtain ⟨hown, hsearching⟩ := h
      have hcontent := hsearching (.content key contentHash) (by simp)
      rw [view_empty]
      exact ⟨⟨hown, hsearching, hcontent.symm.trans hnone⟩, rfl, rfl⟩
  | empty hnil =>
      obtain ⟨hown, hsearching, hfound⟩ := h
      obtain rfl := hown
      rw [view_empty]
      refine ⟨Searching.chosen hsearching (.inl hfound) rfl fun _ => .inl ?_, rfl, rfl⟩
      refine (locationsOf_eq_nil_iff fun id => ?_).1 hnil
      rw [← hsearching _ (by simp), view_empty]
  | ingested =>
      obtain ⟨hown, hsearching, hfound⟩ := h
      rw [view_empty]
      exact ⟨Searching.chosen hsearching (.inl hfound) rfl fun hat => Bool.noConfusion hat, rfl, rfl⟩
  | insertRevision hw =>
      obtain ⟨hown, hsearching, hnone⟩ := h
      obtain rfl := hown
      exact ⟨hsearching.inserted hnone hw (fun k => by simp only [view_empty]) rfl, rfl, rfl⟩
  | copied => exact ⟨Chosen.goto h rfl (.inl rfl), rfl, rfl⟩
  | copy i ids hw => exact ⟨Chosen.copyFrom h rfl rfl hw, rfl, rfl⟩
  | commitRows =>
      exact ⟨Chosen.statement h rfl (.inl rfl) (fun _ => by rw [view_empty])
        (.inr fun _ => by rw [view_empty]), rfl, rfl⟩
  | setRowCount | setStatus | markActive =>
      exact ⟨Chosen.updateRevision h rfl (.inl rfl) fun _ => mem_update, rfl, rfl⟩
  | upsertAlias | upsertAliasIn => exact ⟨Chosen.upsertAlias h rfl rfl rfl, rfl, rfl⟩
  | upsertMap displayName hne =>
      exact ⟨Searching.writes h (.insert _ displayName) fun k => by rw [view_empty, lookup_view_view], rfl, rfl⟩
  | @foundIn key contentHash _ _ _ id hid =>
      have hcontent := h (.content key contentHash) (by simp)
      rw [view_empty]
      exact ⟨Searching.chosen h (.inl (hcontent.symm.trans hid)) rfl fun hat => Bool.noConfusion hat, rfl, rfl⟩
  | @notFoundIn key contentHash _ _ _ hnone =>
      have hcontent := h (.content key contentHash) (by simp)
      rw [view_empty]
      exact ⟨⟨h, hcontent.symm.trans hnone⟩, rfl, rfl⟩
  | insertIn hw =>
      obtain ⟨hsearching, hnone⟩ := h
      exact ⟨hsearching.inserted hnone hw (fun k => by rw [view_empty, lookup_view_view]) rfl, rfl, rfl⟩
  | copyIn ids hw => exact ⟨Chosen.copyFrom h rfl rfl hw, rfl, rfl⟩

/-- The last statement of an activation commits its revision as the active one. -/
theorem activate_spec (h : activate S key db a = some db') :
    ∃ t last, Chosen db t last ∧ t.at_.aliased = true ∧ t.mapKey = key ∧
      t.contentHash = a.upload.contentHash ∧ db' = view t.own last := by
  obtain ⟨⟨end_, t⟩, halone, hend⟩ := Option.bind_eq_some_iff.1 h
  dsimp only at hend
  split_ifs at hend with hat
  obtain rfl := Option.some.inj hend
  have hbegin : Progress db (a.upload.call key).begin db ∧ (a.upload.call key).begin.mapKey = key ∧
      (a.upload.call key).begin.contentHash = a.upload.contentHash := by
    cases a.upload with
    | ingest contentHash => exact ⟨⟨rfl, Searching.begin rfl⟩, rfl, rfl⟩
    | activateMapRevision displayName contentHash => exact ⟨Searching.begin rfl, rfl, rfl⟩
  obtain ⟨last, e, ⟨hprogress, hkey, hhash⟩, -, rfl⟩ := alone_induction
    (M := revisionProgram S)
    (I := fun (t : RevisionTx) rows =>
      Progress db t rows ∧ t.mapKey = key ∧ t.contentHash = a.upload.contentHash)
    (fun t rows e t' ⟨hprogress, hkey, hhash⟩ hrun =>
      have hnext := hprogress.run hrun
      ⟨hnext.1, hnext.2.1.trans hkey, hnext.2.2.trans hhash⟩) hbegin halone
  refine ⟨t, last, ?_, ?_, hkey, hhash, ?_⟩
  · unfold Progress at hprogress
    rcases hat with hat | hat <;> simpa only [hat] using hprogress
  · rcases hat with hat | hat <;> rw [hat] <;> rfl
  · have hcommit : ((revisionProgram S).run t last e).1 = t.own := by
      rcases hat with hat | hat <;> simp only [revisionProgram, RevisionTx.run, hat, RevisionTx.commits]
    rw [hcommit]

theorem activeRevision_activate (h : activate S key db a = some db') :
    activeRevision db' key = some (revisionOf db key a.upload.contentHash) := by
  obtain ⟨t, last, hchosen, hat, rfl, hhash, rfl⟩ := activate_spec h
  rw [activeRevision, hchosen.mapAlias, if_pos ⟨hat, rfl⟩, Option.bind_some, hchosen.target.eq, hhash]

/-- Whatever dataset is activated, the revision that was active becomes the one to roll back to. -/
theorem rollbackRevision_activate (h : activate S key db a = some db') :
    rollbackRevision db' key = activeRevision db key := by
  obtain ⟨t, last, hchosen, hat, rfl, -, rfl⟩ := activate_spec h
  rw [rollbackRevision, hchosen.mapAlias, if_pos ⟨hat, rfl⟩, Option.bind_some]

/-- A revision that is active and complete stays so, with its locations, when its dataset is activated
again. -/
theorem activate_alreadyActive (h : activate S key db a = some db') (hdb : Sound S db)
    (hcomplete : ActiveComplete S db) (hactive : AlreadyActive key db a) :
    activeRevision db' key = activeRevision db key ∧
      ∀ id, db'.lookup (.location id) = db.lookup (.location id) := by
  refine ⟨(activeRevision_activate h).trans hactive.symm, ?_⟩
  obtain ⟨t, last, hchosen, hat, rfl, hhash, rfl⟩ := activate_spec h
  have hr := hchosen.target.eq
  rw [hhash] at hr
  obtain ⟨alias_, halias, hid⟩ := Option.bind_eq_some_iff.1 hactive
  obtain ⟨row, hrow, hlocations, -⟩ := hcomplete _ alias_ _ halias hid
  rw [← hr] at hrow hlocations
  refine hchosen.kept ?_ fun hnil => ?_
  · exact hchosen.target.resolve_right fun hnew => hnew.2.2 (mem_of_lookup hrow)
  · rw [hnil] at hlocations
    exact (hdb.revision _ row hrow).1 (List.nil_perm.1 hlocations)

/-- An activation is a run of the world that has no other process. -/
theorem exec_activate (h : activate S key db a = some db') :
    Run.exec ReadCommitted.World.step (⟨db, ∅⟩ : RevisionWorld S)
      (.start 0 (a.upload.call key) :: a.statements.map (.run 0)) = some ⟨db', ∅⟩ := by
  obtain ⟨⟨end_, t⟩, halone, hend⟩ := Option.bind_eq_some_iff.1 h
  dsimp only at hend
  split_ifs at hend
  obtain rfl := Option.some.inj hend
  exact exec_alone 0 halone

/-! ## Sequences -/

/-- The rows, and the revisions that have been active for the map, the newest first. -/
structure ActivatedMap where
  db : DB
  activated : List RevisionID := []

/-- One complete activation of the map after the other. -/
def ActivatedMap.step (S : Files) (key : MapKey) (s : ActivatedMap) (a : Activation) : Option ActivatedMap :=
  (activate S key s.db a).map fun db =>
    { db := db, activated := (activeRevision db key).toList ++ s.activated }

/-- The latest revision other than the current one. -/
def previousRevision : List RevisionID → Option RevisionID
  | [] => none
  | current :: older => older.find? (· ≠ current)

/-- To activate what is active changes neither the alias nor the locations. -/
def Idempotent (key : MapKey) (db : DB) (a : Activation) (db' : DB) : Prop :=
  AlreadyActive key db a →
    activeRevision db' key = activeRevision db key ∧ rollbackRevision db' key = rollbackRevision db key ∧
      ∀ id, db'.lookup (.location id) = db.lookup (.location id)

/-- The rollback revision is the one that was active before the current one. -/
def UsefulRollback (key : MapKey) (s : ActivatedMap) : Prop :=
  ∀ r, rollbackRevision s.db key = some r →
    previousRevision s.activated = some r ∧ activeRevision s.db key ≠ some r

variable {s s' : ActivatedMap}

/-- The newest of the activated revisions is the active one. -/
def ActivatedMap.Current (key : MapKey) (s : ActivatedMap) : Prop :=
  s.activated.head? = activeRevision s.db key

theorem ActivatedMap.Current.step (h : s.step S key a = some s') : s'.Current key := by
  obtain ⟨db', hdb, rfl⟩ := Option.map_eq_some_iff.1 h
  rw [Current, activeRevision_activate hdb]
  rfl

/-- An activation is idempotent and leaves a useful rollback revision exactly when it activates another
revision than the one that is active. -/
theorem rollback_step_iff (hcurrent : s.Current key) (h : s.step S key a = some s') :
    Idempotent key s.db a s'.db ∧ UsefulRollback key s' ↔ ¬ AlreadyActive key s.db a := by
  obtain ⟨db', hdb, rfl⟩ := Option.map_eq_some_iff.1 h
  have hactive := activeRevision_activate hdb
  have hrollback := rollbackRevision_activate hdb
  constructor
  · rintro ⟨-, huseful⟩ halready
    exact (huseful _ (hrollback.trans halready)).2 hactive
  · refine fun hother => ⟨fun halready => absurd halready hother, fun r hr => ?_⟩
    have hbefore : activeRevision s.db key = some r := hrollback.symm.trans hr
    have hne : r ≠ revisionOf s.db key a.upload.contentHash := by
      rintro rfl
      exact hother hbefore
    obtain ⟨older, holder⟩ := List.head?_eq_some_iff.1 (hcurrent.trans hbefore)
    dsimp only
    rw [hactive, holder]
    refine ⟨?_, fun heq => hne (Option.some.inj heq).symm⟩
    simp only [Option.toList_some, List.singleton_append, previousRevision]
    exact List.find?_cons_of_pos (decide_eq_true hne)

/-- In every sequence of complete activations of a map each is idempotent and leaves a useful rollback
revision exactly when none is of the dataset whose revision is active already. -/
theorem rollback_iff (S : Files) (key : MapKey) (db : DB) (h : .mapAlias key ∉ db) (as : List Activation) :
    Run.Along (ActivatedMap.step S key)
        (fun s a s' => Idempotent key s.db a s'.db ∧ UsefulRollback key s') ⟨db, []⟩ as ↔
      Run.Guarded (ActivatedMap.step S key) (fun s a => ¬ AlreadyActive key s.db a) ⟨db, []⟩ as := by
  have hcurrent : ActivatedMap.Current key ⟨db, []⟩ := by
    rw [ActivatedMap.Current, activeRevision, AList.lookup_eq_none.2 h]
    rfl
  refine Run.along_iff_guarded (fun s a s' _ hs => ?_) (fun s a s' hcurrent hs => ?_) hcurrent
  · exact ActivatedMap.Current.step hs
  · exact rollback_step_iff hcurrent hs

/-- An upload of a dataset. -/
def uploaded (contentHash : ContentHash) (ids : List ℕ) : Activation where
  upload := .activateMapRevision "World" contentHash
  statements := [{}, {}, {}, { ids := ids }, {}, {}, {}]

/-- Two datasets are uploaded, and one is the revision to roll back to. -/
theorem rollback_twoDatasets :
    (Run.exec (ActivatedMap.step oneLocation "world") ⟨∅, []⟩
      [uploaded "0f8c5b1e7a2d49" [0], uploaded "77ad01c2e93b5f" [1]]).map
      (fun s => (activeRevision s.db "world", rollbackRevision s.db "world")) =
        some (some "world-77ad01c2e93b", some "world-0f8c5b1e7a2d") ∧
    Run.Along (ActivatedMap.step oneLocation "world")
      (fun s a s' => Idempotent "world" s.db a s'.db ∧ UsefulRollback "world" s') ⟨∅, []⟩
      [uploaded "0f8c5b1e7a2d49" [0], uploaded "77ad01c2e93b5f" [1]] :=
  ⟨by decide +kernel,
    (rollback_iff oneLocation "world" ∅ (AList.notMem_empty _) _).2 (by decide +kernel)⟩

/-- A dataset is uploaded, and then the worker runs with it: the revision to roll back to is the active
one. -/
theorem not_rollback_ingestedAgain :
    ¬ Run.Along (ActivatedMap.step oneLocation "world")
      (fun s a s' => Idempotent "world" s.db a s'.db ∧ UsefulRollback "world" s') ⟨∅, []⟩
      [uploaded "0f8c5b1e7a2d49" [0], ⟨.ingest "0f8c5b1e7a2d49", [{}, {}, {}, {}, {}, {}]⟩] := by
  intro h
  have hrun : (Run.exec (ActivatedMap.step oneLocation "world") ⟨∅, []⟩
      [uploaded "0f8c5b1e7a2d49" [0], ⟨.ingest "0f8c5b1e7a2d49", [{}, {}, {}, {}, {}, {}]⟩]).map
      (fun s => (activeRevision s.db "world", rollbackRevision s.db "world")) =
        some (some "world-0f8c5b1e7a2d", some "world-0f8c5b1e7a2d") := by decide +kernel
  obtain ⟨s, hs, hend⟩ := Option.map_eq_some_iff.1 hrun
  obtain ⟨hactive, hrollback⟩ := Prod.mk.inj hend
  have huseful : Run.Always (ActivatedMap.step oneLocation "world") (UsefulRollback "world") ⟨∅, []⟩ _ :=
    ⟨fun r hr => (Option.some_ne_none r hr.symm).elim, h.mono fun _ _ _ hR => hR.2⟩
  exact (huseful.exec hs _ hrollback).2 hactive

end GeoDuels.MapRevisions
