import GeoDuels.MapRevisions.Commits

/-!
# What a process has written

A transaction of an ingest or an activation writes for one revision: its locations, its row, the entry of
the unique index when it inserts it, and the alias of its map (`Writes`, `Bound`).  `fine_cooperates` keeps
this for all processes at once, whatever the others commit.
-/

namespace GeoDuels.MapRevisions

open ReadCommitted (view update lookup_view lookup_view_of_notMem lookup_update_self collect
  collect_view collect_insert mem_collect mem_of_lookup mem_update view_empty)

/-! ## The statements of a process -/

/-- The next statement commits a transaction. -/
def At.commits : At → Bool
  | .commitRows | .commitAlias | .commitIn => true
  | _ => false

/-- What the next statement of a process commits, and the process after it. -/
inductive Ran (S : Files) (db : DB) : RevisionTx → DB → Option RevisionTx → Prop
  | fails (t : RevisionTx) (at_ : t.at_.commits = false) : Ran S db t ∅ none
  | insertMap {key contentHash r inserted own} (nonempty : S.rows contentHash ≠ []) :
      Ran S db ⟨key, contentHash, .insertMap, r, inserted, own⟩ (insertMap (view own db) key)
        (some ⟨key, contentHash, .find, r, inserted, own⟩)
  | found {key contentHash r inserted own} (id : RevisionID)
      (content : (view own db).lookup (.content key contentHash) = some id) :
      Ran S db ⟨key, contentHash, .find, r, inserted, own⟩ ∅
        (some ⟨key, contentHash, .count, id, inserted, own⟩)
  | notFound {key contentHash r inserted own}
      (content : (view own db).lookup (.content key contentHash) = none) :
      Ran S db ⟨key, contentHash, .find, r, inserted, own⟩ ∅
        (some ⟨key, contentHash, .insertRevision, r, inserted, own⟩)
  | empty {key contentHash r inserted own} (locations : locationsOf db r = []) :
      Ran S db ⟨key, contentHash, .count, r, inserted, own⟩ ∅
        (some ⟨key, contentHash, .copy 0, r, inserted, own⟩)
  | ingested {key contentHash r inserted own} (locations : locationsOf db r ≠ []) :
      Ran S db ⟨key, contentHash, .count, r, inserted, own⟩ ∅
        (some ⟨key, contentHash, .upsertAlias, r, inserted, own⟩)
  | insertRevision {key contentHash r inserted own written}
      (insert : insertRevision (view own db) key contentHash = some written) :
      Ran S db ⟨key, contentHash, .insertRevision, r, inserted, own⟩ written
        (some ⟨key, contentHash, .copy 0, revisionID key contentHash, inserted, own⟩)
  | copied {key contentHash r inserted own} (i : ℕ) (le : (S.rows contentHash).length ≤ i) :
      Ran S db ⟨key, contentHash, .copy i, r, inserted, own⟩ ∅
        (some ⟨key, contentHash, .setRowCount, r, inserted, own⟩)
  | copy {key contentHash r inserted own written} (i : ℕ) (ids : List ℕ)
      (copy : copyFrom (view own db) r ids (((S.rows contentHash).drop i).take batchSize) = some written) :
      Ran S db ⟨key, contentHash, .copy i, r, inserted, own⟩ ∅
        (some ⟨key, contentHash, .copy (i + batchSize), r, inserted, view written own⟩)
  | setRowCount {key contentHash r inserted own} :
      Ran S db ⟨key, contentHash, .setRowCount, r, inserted, own⟩ ∅
        (some ⟨key, contentHash, .commitRows, r, inserted,
          view (updateRevision (view own db) r ({ · with rowCount := (S.rows contentHash).length })) own⟩)
  | commitRows {key contentHash r inserted own} :
      Ran S db ⟨key, contentHash, .commitRows, r, inserted, own⟩ own
        (some ⟨key, contentHash, .upsertAlias, r, inserted, ∅⟩)
  | upsertAlias {key contentHash r inserted own} :
      Ran S db ⟨key, contentHash, .upsertAlias, r, inserted, own⟩ ∅
        (some ⟨key, contentHash, .setStatus, r, inserted, view (upsertAlias (view own db) key r) own⟩)
  | setStatus {key contentHash r inserted own} :
      Ran S db ⟨key, contentHash, .setStatus, r, inserted, own⟩ ∅
        (some ⟨key, contentHash, .commitAlias, r, inserted,
          view (updateRevision (view own db) r ({ · with status := .active })) own⟩)
  | commitAlias {key contentHash r inserted own} :
      Ran S db ⟨key, contentHash, .commitAlias, r, inserted, own⟩ own none
  | upsertMap {key contentHash r inserted own} (displayName : String)
      (nonempty : S.rows contentHash ≠ []) :
      Ran S db ⟨key, contentHash, .upsertMap displayName, r, inserted, own⟩ ∅
        (some ⟨key, contentHash, .findIn, r, inserted, view (AList.insert (.map key) displayName ∅) own⟩)
  | foundIn {key contentHash r inserted own} (id : RevisionID)
      (content : (view own db).lookup (.content key contentHash) = some id) :
      Ran S db ⟨key, contentHash, .findIn, r, inserted, own⟩ ∅
        (some ⟨key, contentHash, .markActive, id, inserted, own⟩)
  | notFoundIn {key contentHash r inserted own}
      (content : (view own db).lookup (.content key contentHash) = none) :
      Ran S db ⟨key, contentHash, .findIn, r, inserted, own⟩ ∅
        (some ⟨key, contentHash, .insertIn, r, inserted, own⟩)
  | insertIn {key contentHash r inserted own written}
      (insert : insertRevision (view own db) key contentHash = some written) :
      Ran S db ⟨key, contentHash, .insertIn, r, inserted, own⟩ ∅
        (some ⟨key, contentHash, .copyIn, revisionID key contentHash, true, view written own⟩)
  | copyIn {key contentHash r inserted own written} (ids : List ℕ)
      (copy : copyFrom (view own db) r ids (S.rows contentHash) = some written) :
      Ran S db ⟨key, contentHash, .copyIn, r, inserted, own⟩ ∅
        (some ⟨key, contentHash, .markActive, r, inserted, view written own⟩)
  | markActive {key contentHash r inserted own} :
      Ran S db ⟨key, contentHash, .markActive, r, inserted, own⟩ ∅
        (some ⟨key, contentHash, .upsertAliasIn, r, inserted,
          view (updateRevision (view own db) r
            ({ · with rowCount := (S.rows contentHash).length, status := .active })) own⟩)
  | upsertAliasIn {key contentHash r inserted own} :
      Ran S db ⟨key, contentHash, .upsertAliasIn, r, inserted, own⟩ ∅
        (some ⟨key, contentHash, .commitIn, r, inserted,
          view (upsertAlias (view own db) key r) own⟩)
  | commitIn {key contentHash r inserted own} :
      Ran S db ⟨key, contentHash, .commitIn, r, inserted, own⟩ own none

theorem ran_run (S : Files) (t : RevisionTx) (db : DB) (e : Ids) :
    Ran S db t (t.run S db e).1 (t.run S db e).2 := by
  obtain ⟨key, contentHash, at_, r, inserted, own⟩ := t
  cases at_ with
  | insertMap =>
      simp only [RevisionTx.run]
      split_ifs with hrows
      · exact .fails _ rfl
      · exact .insertMap hrows
  | find =>
      simp only [RevisionTx.run]
      split
      · next id hid => exact .found id hid
      · next hnone => exact .notFound hnone
  | count =>
      simp only [RevisionTx.run]
      split_ifs with hnil
      · exact .empty hnil
      · exact .ingested hnil
  | insertRevision =>
      simp only [RevisionTx.run]
      split
      · next written hw => exact .insertRevision hw
      · exact .fails _ rfl
  | copy i =>
      simp only [RevisionTx.run]
      split_ifs with hlen
      · exact .copied i hlen
      · split
        · next written hw => exact .copy i e.ids hw
        · exact .fails _ rfl
  | setRowCount => exact .setRowCount
  | commitRows => exact .commitRows
  | upsertAlias => exact .upsertAlias
  | setStatus => exact .setStatus
  | commitAlias => exact .commitAlias
  | upsertMap displayName =>
      simp only [RevisionTx.run]
      split_ifs with hvalid
      · exact .fails _ rfl
      · exact .upsertMap displayName (not_or.1 hvalid).2
  | findIn =>
      simp only [RevisionTx.run]
      split
      · next id hid => exact .foundIn id hid
      · next hnone => exact .notFoundIn hnone
  | insertIn =>
      simp only [RevisionTx.run]
      split
      · next written hw => exact .insertIn hw
      · exact .fails _ rfl
  | copyIn =>
      simp only [RevisionTx.run]
      split
      · next written hw => exact .copyIn e.ids hw
      · exact .fails _ rfl
  | markActive => exact .markActive
  | upsertAliasIn => exact .upsertAliasIn
  | commitIn => exact .commitIn

variable {S : Files} {own db rows : DB} {r : RevisionID} {key : MapKey} {contentHash : ContentHash}
  {locs : List Location} {inserted : Bool} {t : RevisionTx}

/-! ## The rows of a statement -/

theorem locationsOf_eq_nil (h : ∀ id, .location id ∉ rows) (r : RevisionID) : locationsOf rows r = [] := by
  rw [List.eq_nil_iff_forall_not_mem]
  intro x hx
  obtain ⟨k, v, hv, hx⟩ := mem_collect.1 hx
  cases k with
  | location id => exact h id (mem_of_lookup hv)
  | map | revision | content | mapAlias => cases hx

theorem mem_copyRows {ids : List ℕ} {block : List Location} {k : RowKey}
    (h : k ∈ copyRows r ids block) : ∃ id ∈ ids, k = .location id := by
  induction ids generalizing block with
  | nil => exact absurd h (AList.notMem_empty k)
  | cons id ids ih =>
      cases block with
      | nil => exact absurd h (AList.notMem_empty k)
      | cons row block =>
          rcases (AList.mem_insert _).1 h with rfl | h
          · exact ⟨id, List.mem_cons_self, rfl⟩
          · obtain ⟨id', hid, rfl⟩ := ih h
            exact ⟨id', List.mem_cons_of_mem id hid, rfl⟩

theorem locationsOf_copyRows {ids : List ℕ} {block : List Location} (hids : ids.Nodup)
    (hlen : ids.length = block.length) (r' : RevisionID) :
    locationsOf (copyRows r ids block) r' = if r' = r then block else [] := by
  induction ids generalizing block with
  | nil =>
      obtain rfl := List.length_eq_zero_iff.1 hlen.symm
      rw [ite_self]
      rfl
  | cons id ids ih =>
      obtain _ | ⟨row, block⟩ := block
      · cases hlen
      · obtain ⟨hid, hids⟩ := List.nodup_cons.1 hids
        have hnew : RowKey.location id ∉ copyRows r ids block := by
          intro hmem
          obtain ⟨id', hid', heq⟩ := mem_copyRows hmem
          cases heq
          exact hid hid'
        have hrest := ih hids (Nat.succ.inj hlen)
        rw [locationsOf] at hrest
        rw [copyRows, locationsOf, collect_insert _ hnew, hrest]
        by_cases hr : r' = r
        · subst hr
          simp [locationOf]
        · simp [locationOf, hr, Ne.symm hr]

section CopyFrom

variable {seen written : DB} {ids : List ℕ} {block : List Location}

theorem copyFrom_fresh (h : copyFrom seen r ids block = some written) {k : RowKey} (hk : k ∈ written) :
    ∃ id, k = .location id ∧ k ∉ seen := by
  unfold copyFrom at h
  split_ifs at h with hids
  obtain rfl := Option.some.inj h
  obtain ⟨id, hid, rfl⟩ := mem_copyRows hk
  exact ⟨id, rfl, hids.2.2 id hid⟩

theorem locationsOf_copyFrom (h : copyFrom seen r ids block = some written) (r' : RevisionID) :
    locationsOf written r' = if r' = r then block else [] := by
  unfold copyFrom at h
  split_ifs at h with hids
  obtain rfl := Option.some.inj h
  exact locationsOf_copyRows hids.2.1 hids.1 r'

/-- A revision that is inserted is new, and so is its entry of the unique index. -/
theorem insertRevision_spec (h : insertRevision seen key contentHash = some written) :
    .revision (revisionID key contentHash) ∉ seen ∧
      written.lookup (.content key contentHash) = some (revisionID key contentHash) ∧
      written.lookup (.revision (revisionID key contentHash)) =
        some ({ mapKey := key, contentHash := contentHash } : RevisionRow) ∧
      ∀ k ∈ written, k = .content key contentHash ∨ k = .revision (revisionID key contentHash) := by
  unfold insertRevision at h
  dsimp only at h
  split_ifs at h with hseen
  obtain rfl := Option.some.inj h
  refine ⟨fun hmem => hseen (.inl hmem), AList.lookup_insert _, ?_, fun k hk => ?_⟩
  · rw [AList.lookup_insert_ne (by simp), AList.lookup_insert]
  · rw [AList.mem_insert, AList.mem_insert] at hk
    simpa only [AList.notMem_empty, or_false] using hk

end CopyFrom

/-! ## Writes for a revision -/

/-- What a transaction has written for the revision `r` of a map and a dataset. -/
structure Writes (own db : DB) (r : RevisionID) (key : MapKey) (contentHash : ContentHash)
    (locs : List Location) (inserted : Bool) : Prop where
  fresh : ∀ id, .location id ∈ own → .location id ∉ db
  locations : ∀ r', (locationsOf own r').Perm (if r' = r then locs else [])
  revision : ∀ r' (row : RevisionRow), own.lookup (.revision r') = some row →
    r' = r ∧ row.mapKey = key ∧ row.contentHash = contentHash
  content : ∀ key' contentHash' (r' : RevisionID),
    own.lookup (.content key' contentHash') = some r' →
      key' = key ∧ contentHash' = contentHash ∧ r' = r ∧ inserted = true
  new : inserted = true → .revision r ∈ own ∧ .revision r ∉ db
  old : inserted = false → Has db r key contentHash

/-- A transaction that has written no more than the row of its map. -/
def OnlyMaps (own : DB) : Prop := ∀ k ∈ own, ∃ key, k = .map key

theorem OnlyMaps.notMem (h : OnlyMaps own) {k : RowKey} (hk : ∀ key, k ≠ .map key) : k ∉ own :=
  fun hmem => (h k hmem).elim fun key heq => hk key heq

theorem OnlyMaps.writes (h : OnlyMaps own) (hhas : Has db r key contentHash) :
    Writes own db r key contentHash [] false where
  fresh id hid := absurd hid (h.notMem nofun)
  locations r' := by
    rw [locationsOf_eq_nil (fun id => h.notMem nofun), ite_self]
  revision r' row hrow := absurd (mem_of_lookup hrow) (h.notMem nofun)
  content key' contentHash' r' hr := absurd (mem_of_lookup hr) (h.notMem nofun)
  new := nofun
  old _ := hhas

/-- A statement that writes rows of the revision. -/
theorem Writes.write {more : List Location} (h : Writes own db r key contentHash locs inserted)
    (hfresh : ∀ id, .location id ∈ rows → .location id ∉ view own db)
    (hloc : ∀ r', (locationsOf rows r').Perm (if r' = r then more else []))
    (hrev : ∀ r' (row : RevisionRow), rows.lookup (.revision r') = some row →
      r' = r ∧ row.mapKey = key ∧ row.contentHash = contentHash)
    (hcontent : ∀ key' contentHash', .content key' contentHash' ∉ rows) :
    Writes (view rows own) db r key contentHash (locs ++ more) inserted where
  fresh id hid := by
    rcases AList.mem_union.1 hid with hid | hid
    · exact fun hdb => hfresh id hid (AList.mem_union.2 (.inr hdb))
    · exact h.fresh id hid
  locations r' := by
    have happend : locationsOf (view rows own) r' = locationsOf rows r' ++ locationsOf own r' := by
      refine collect_view fun k hk hown v => ?_
      cases k with
      | location id => exact absurd (AList.mem_union.2 (.inl hown)) (hfresh id hk)
      | map | revision | content | mapAlias => rfl
    have hboth := ((hloc r').append (h.locations r')).trans List.perm_append_comm
    rw [happend]
    by_cases hr : r' = r
    · simpa only [if_pos hr] using hboth
    · simpa only [if_neg hr, List.append_nil] using hboth
  revision r' row hrow := by
    rw [lookup_view] at hrow
    rcases Option.or_eq_some_iff.1 hrow with hrow | ⟨-, hrow⟩
    · exact hrev r' row hrow
    · exact h.revision r' row hrow
  content key' contentHash' r' hr := by
    rw [lookup_view_of_notMem (hcontent key' contentHash')] at hr
    exact h.content key' contentHash' r' hr
  new hins := ⟨AList.mem_union.2 (.inr (h.new hins).1), (h.new hins).2⟩
  old := h.old

theorem Writes.copyFrom {ids : List ℕ} {block : List Location} {written : DB}
    (h : Writes own db r key contentHash locs inserted)
    (hw : copyFrom (view own db) r ids block = some written) :
    Writes (view written own) db r key contentHash (locs ++ block) inserted := by
  refine h.write (fun id hid => ?_) (fun r' => ?_) (fun r' row hrow => ?_) fun key' contentHash' hmem => ?_
  · exact (copyFrom_fresh hw hid).elim fun _ hfresh => hfresh.2
  · rw [locationsOf_copyFrom hw]
  · obtain ⟨id, heq, -⟩ := copyFrom_fresh hw (mem_of_lookup hrow)
    cases heq
  · obtain ⟨id, heq, -⟩ := copyFrom_fresh hw hmem
    cases heq

/-- The revision exists for the transaction. -/
theorem Writes.has (h : Writes own db r key contentHash locs inserted) :
    Has (view own db) r key contentHash := by
  have hmem : RowKey.revision r ∈ view own db := by
    cases hins : inserted with
    | true => exact AList.mem_union.2 (.inl (h.new hins).1)
    | false =>
        obtain ⟨row, hrow, -⟩ := h.old hins
        exact AList.mem_union.2 (.inr (mem_of_lookup hrow))
  obtain ⟨row, hrow⟩ := Option.isSome_iff_exists.1 (AList.lookup_isSome.2 hmem)
  refine ⟨row, hrow, ?_⟩
  rw [lookup_view] at hrow
  rcases Option.or_eq_some_iff.1 hrow with hrow | ⟨hnone, hrow⟩
  · exact (h.revision r row hrow).2
  · have hins : inserted = false := by
      by_contra hins
      exact AList.lookup_eq_none.1 hnone (h.new (Bool.eq_true_of_not_eq_false hins)).1
    obtain ⟨row', hrow', hkey, hhash⟩ := h.old hins
    rw [Option.some.inj (hrow.symm.trans hrow')]
    exact ⟨hkey, hhash⟩

/-- An update of the revision, and the row that it writes. -/
theorem Writes.updateRevision {set : RevisionRow → RevisionRow}
    (h : Writes own db r key contentHash locs inserted) (hkey : ∀ row, (set row).mapKey = row.mapKey)
    (hhash : ∀ row, (set row).contentHash = row.contentHash) :
    Writes (view (updateRevision (view own db) r set) own) db r key contentHash locs inserted ∧
      ∃ row : RevisionRow, (view own db).lookup (.revision r) = some row ∧
        (updateRevision (view own db) r set).lookup (.revision r) = some (set row) := by
  obtain ⟨row, hrow, hrowkey, hrowhash⟩ := h.has
  have hset : (MapRevisions.updateRevision (view own db) r set).lookup (.revision r) = some (set row) := by
    rw [MapRevisions.updateRevision, lookup_update_self, hrow, Option.bind_some]
  refine ⟨?_, row, hrow, hset⟩
  rw [← List.append_nil locs]
  refine h.write (fun id hid => ?_) (fun r' => ?_) (fun r' row' hrow' => ?_) fun key' contentHash' hmem => ?_
  · cases mem_update hid
  · rw [locationsOf_eq_nil (fun id hid => by cases mem_update hid), ite_self]
  · cases mem_update (mem_of_lookup hrow')
    rw [← Option.some.inj (hset.symm.trans hrow')]
    exact ⟨rfl, (hkey row).trans hrowkey, (hhash row).trans hrowhash⟩
  · cases mem_update hmem

theorem mem_upsertAlias {seen : DB} {k : RowKey} (h : k ∈ upsertAlias seen key r) : k = .mapAlias key :=
  ((AList.mem_insert _).1 h).resolve_right (AList.notMem_empty k)

theorem lookup_upsertAlias (seen : DB) (key : MapKey) (r : RevisionID) :
    ∃ a : AliasRow, (upsertAlias seen key r).lookup (.mapAlias key) = some a ∧
      a.activeRevisionID = some r := ⟨_, AList.lookup_insert _, rfl⟩

theorem Writes.upsertAlias (h : Writes own db r key contentHash locs inserted) (seen : DB) :
    Writes (view (upsertAlias seen key r) own) db r key contentHash locs inserted := by
  rw [← List.append_nil locs]
  refine h.write (fun id hid => ?_) (fun r' => ?_) (fun r' row hrow => ?_) fun key' contentHash' hmem => ?_
  · cases mem_upsertAlias hid
  · rw [locationsOf_eq_nil (fun id hid => by cases mem_upsertAlias hid), ite_self]
  · cases mem_upsertAlias (mem_of_lookup hrow)
  · cases mem_upsertAlias hmem

/-- The rows of `insertRevision` in a transaction. -/
theorem OnlyMaps.insertRevision {written : DB} (h : OnlyMaps own)
    (hw : insertRevision (view own db) key contentHash = some written) :
    Writes (view written own) db (revisionID key contentHash) key contentHash [] true := by
  obtain ⟨hnew, hcontent, hrevision, hkeys⟩ := insertRevision_spec hw
  have hmem : ∀ k ∈ view written own, (∀ key, k ≠ .map key) →
      k = .content key contentHash ∨ k = .revision (revisionID key contentHash) := by
    intro k hk hmap
    exact hkeys k ((AList.mem_union.1 hk).resolve_right (h.notMem hmap))
  have hlocation : ∀ id, RowKey.location id ∉ view written own := by
    intro id hid
    rcases hmem _ hid (by simp) with heq | heq <;> cases heq
  refine ⟨fun id hid => absurd hid (hlocation id), fun r' => ?_, fun r' row hrow => ?_,
    fun key' contentHash' r' hr => ?_,
    fun _ => ⟨?_, fun hdb => hnew (AList.mem_union.2 (.inr hdb))⟩, nofun⟩
  · rw [ite_self, locationsOf_eq_nil hlocation]
  · rcases hmem _ (mem_of_lookup hrow) (by simp) with heq | heq
    · cases heq
    · obtain rfl := RowKey.revision.inj heq
      rw [lookup_view, hrevision, Option.some_or] at hrow
      rw [← Option.some.inj hrow]
      exact ⟨rfl, rfl, rfl⟩
  · rcases hmem _ (mem_of_lookup hr) (by simp) with heq | heq
    · obtain ⟨rfl, rfl⟩ := RowKey.content.inj heq
      rw [lookup_view, hcontent, Option.some_or] at hr
      exact ⟨rfl, rfl, (Option.some.inj hr).symm, rfl⟩
    · cases heq
  · exact AList.mem_union.2 (.inl (mem_of_lookup hrevision))

/-- Writes of whole copies are those of a commit. -/
theorem Writes.commit {n : ℕ} (h : Writes own db r key contentHash locs inserted)
    (hne : S.rows contentHash ≠ []) (hcopied : locs = (List.replicate n (S.rows contentHash)).flatten)
    (hcount : ∀ row : RevisionRow, own.lookup (.revision r) = some row →
      row.rowCount = (S.rows contentHash).length ∨
        n = 0 ∧ ∀ old : RevisionRow, db.lookup (.revision r) = some old → row.rowCount = old.rowCount)
    (hcounted : .revision r ∈ own ∨ n = 0) : Commit S own db r key contentHash n where
  nonempty := hne
  fresh := h.fresh
  locations r' := by
    rw [← hcopied]
    exact h.locations r'
  revision r' row hrow := by
    obtain ⟨rfl, hkey, hhash⟩ := h.revision r' row hrow
    exact ⟨rfl, hkey, hhash, hcount row hrow⟩
  counted := hcounted
  old old hold := by
    cases hins : inserted with
    | true => exact absurd (mem_of_lookup hold) (h.new hins).2
    | false =>
        obtain ⟨row, hrow, hcolumns⟩ := h.old hins
        rwa [Option.some.inj (hold.symm.trans hrow)]
  content key' contentHash' r' hr := by
    obtain ⟨hkey, hhash, hr', hins⟩ := h.content key' contentHash' r' hr
    exact ⟨hkey, hhash, hr', (h.new hins).1⟩

/-! ## Places -/

/-- The row count has been written. -/
def At.counted : At → Bool
  | .commitRows | .upsertAliasIn | .commitIn => true
  | _ => false

/-- The alias has been written. -/
def At.aliased : At → Bool
  | .setStatus | .commitAlias | .commitIn => true
  | _ => false

/-- The locations that the transaction has copied. -/
def RevisionTx.copied (S : Files) (t : RevisionTx) : List Location :=
  match t.at_ with
  | .copy i => (S.rows t.contentHash).take i
  | .setRowCount | .commitRows => S.rows t.contentHash
  | .markActive | .upsertAliasIn | .commitIn => if t.inserted then S.rows t.contentHash else []
  | _ => []

/-- A process that has found or inserted its revision. -/
structure Bound (S : Files) (t : RevisionTx) (db : DB) : Prop where
  nonempty : S.rows t.contentHash ≠ []
  writes : Writes t.own db t.revisionID t.mapKey t.contentHash (t.copied S) t.inserted
  rowCount : ∀ row : RevisionRow, t.own.lookup (.revision t.revisionID) = some row →
    if t.at_.counted then row.rowCount = (S.rows t.contentHash).length
    else ∀ old : RevisionRow, db.lookup (.revision t.revisionID) = some old →
      row.rowCount = old.rowCount
  counted : t.at_.counted = true → .revision t.revisionID ∈ t.own
  active : ∀ key (a : AliasRow), t.own.lookup (.mapAlias key) = some a →
    t.at_.aliased = true ∧ key = t.mapKey ∧ a.activeRevisionID = some t.revisionID
  aliased : t.at_.aliased = true → .mapAlias t.mapKey ∈ t.own

/-- What holds of a process at its place. -/
def Fine (S : Files) (t : RevisionTx) (db : DB) : Prop :=
  match t.at_ with
  | .insertMap | .upsertMap _ => t.own = ∅ ∧ t.inserted = false
  | .find | .insertRevision => S.rows t.contentHash ≠ [] ∧ t.own = ∅ ∧ t.inserted = false
  | .findIn | .insertIn => S.rows t.contentHash ≠ [] ∧ OnlyMaps t.own ∧ t.inserted = false
  | .copyIn | .markActive | .upsertAliasIn | .commitIn =>
      (t.at_ = .copyIn → t.inserted = true) ∧ Bound S t db
  | _ => t.inserted = false ∧ Bound S t db

theorem OnlyMaps.empty : OnlyMaps ∅ := fun k hk => absurd hk (AList.notMem_empty k)

theorem OnlyMaps.insert (key : MapKey) (displayName : String) :
    OnlyMaps (AList.insert (.map key) displayName ∅) :=
  fun k hk => ⟨key, ((AList.mem_insert _).1 hk).resolve_right (AList.notMem_empty k)⟩

theorem OnlyMaps.insertMap (seen : DB) (key : MapKey) : OnlyMaps (insertMap seen key) := by
  unfold MapRevisions.insertMap
  split_ifs
  · exact .empty
  · exact .insert key key

/-- A process that starts to write for the revision. -/
theorem Bound.of_onlyMaps (hne : S.rows t.contentHash ≠ []) (hown : OnlyMaps t.own)
    (hhas : Has db t.revisionID t.mapKey t.contentHash) (hcopied : t.copied S = [])
    (hins : t.inserted = false) (hplace : t.at_.counted = false ∧ t.at_.aliased = false) :
    Bound S t db where
  nonempty := hne
  writes := by
    rw [hcopied, hins]
    exact hown.writes hhas
  rowCount row hrow := absurd (mem_of_lookup hrow) (hown.notMem (by simp))
  counted h := absurd (hplace.1.symm.trans h) (by simp)
  active key a ha := absurd (mem_of_lookup ha) (hown.notMem (by simp))
  aliased h := absurd (hplace.2.symm.trans h) (by simp)

/-- The next place after a statement that has written nothing. -/
theorem Bound.goto (h : Bound S t db) {at_ : At}
    (hcopied : ({ t with at_ := at_ } : RevisionTx).copied S = t.copied S)
    (hcounted : at_.counted = t.at_.counted) (haliased : at_.aliased = t.at_.aliased) :
    Bound S { t with at_ := at_ } db where
  nonempty := h.nonempty
  writes := by
    rw [hcopied]
    exact h.writes
  rowCount := by
    dsimp only
    rw [hcounted]
    exact h.rowCount
  counted := by
    dsimp only
    rw [hcounted]
    exact h.counted
  active := by
    dsimp only
    rw [haliased]
    exact h.active
  aliased := by
    dsimp only
    rw [haliased]
    exact h.aliased

/-- A block of locations has been copied. -/
theorem Bound.copyFrom (h : Bound S t db) {at_ : At} {ids : List ℕ} {block : List Location} {written : DB}
    (hw : copyFrom (view t.own db) t.revisionID ids block = some written)
    (hcopied : ({ t with at_ := at_ } : RevisionTx).copied S = t.copied S ++ block)
    (hcounted : at_.counted = t.at_.counted) (haliased : at_.aliased = t.at_.aliased) :
    Bound S { t with at_ := at_, own := view written t.own } db := by
  have hkeep : ∀ k : RowKey, (∀ id, k ≠ .location id) →
      (view written t.own).lookup k = t.own.lookup k := by
    intro k hk
    refine lookup_view_of_notMem fun hmem => ?_
    obtain ⟨id, heq, -⟩ := copyFrom_fresh hw hmem
    exact hk id heq
  refine ⟨h.nonempty, ?_, fun row hrow => ?_, fun hc => ?_, fun key a ha => ?_, fun ha => ?_⟩
  · rw [show ({ t with at_ := at_, own := view written t.own } : RevisionTx).copied S = _ from hcopied]
    exact h.writes.copyFrom hw
  · dsimp only at hrow ⊢
    rw [hkeep _ (by simp)] at hrow
    rw [hcounted]
    exact h.rowCount row hrow
  · exact AList.mem_union.2 (.inr (h.counted (hcounted ▸ hc)))
  · dsimp only at ha ⊢
    rw [hkeep _ (by simp)] at ha
    rw [haliased]
    exact h.active key a ha
  · exact AList.mem_union.2 (.inr (h.aliased (haliased ▸ ha)))

/-- The revision has been updated, with the row count when the place is one that has counted. -/
theorem Bound.updateRevision (h : Bound S t db) {at_ : At} {set : RevisionRow → RevisionRow}
    (hkey : ∀ row, (set row).mapKey = row.mapKey)
    (hhash : ∀ row, (set row).contentHash = row.contentHash)
    (hset : ∀ row, if at_.counted then (set row).rowCount = (S.rows t.contentHash).length
      else (set row).rowCount = row.rowCount ∧ t.at_.counted = false)
    (hcopied : ({ t with at_ := at_ } : RevisionTx).copied S = t.copied S)
    (haliased : at_.aliased = t.at_.aliased) :
    Bound S { t with
      at_ := at_, own := view (updateRevision (view t.own db) t.revisionID set) t.own } db := by
  obtain ⟨hwrites, seen, hseen, hrow⟩ := h.writes.updateRevision hkey hhash
  have hkeep : ∀ key : MapKey,
      (view (MapRevisions.updateRevision (view t.own db) t.revisionID set) t.own).lookup (.mapAlias key) =
        t.own.lookup (.mapAlias key) :=
    fun key => lookup_view_of_notMem fun hmem => by cases mem_update hmem
  refine ⟨h.nonempty, ?_, fun row hown => ?_, fun _ => ?_, fun key a ha => ?_, fun ha => ?_⟩
  · rw [← hcopied] at hwrites
    exact hwrites
  · dsimp only at hown ⊢
    rw [lookup_view, hrow, Option.some_or] at hown
    obtain rfl := Option.some.inj hown
    have hcount := hset seen
    split_ifs at hcount ⊢ with hc
    · exact hcount
    · intro old hold
      rw [hcount.1]
      rw [lookup_view] at hseen
      rcases Option.or_eq_some_iff.1 hseen with hseen | ⟨-, hseen⟩
      · have hkept := h.rowCount seen hseen
        rw [if_neg (by simp [hcount.2])] at hkept
        exact hkept old hold
      · rw [Option.some.inj (hseen.symm.trans hold)]
  · exact AList.mem_union.2 (.inl (mem_of_lookup hrow))
  · dsimp only at ha ⊢
    rw [hkeep] at ha
    rw [haliased]
    exact h.active key a ha
  · exact AList.mem_union.2 (.inr (h.aliased (haliased ▸ ha)))

/-- The alias has been set to the revision. -/
theorem Bound.upsertAlias (h : Bound S t db) {at_ : At} (seen : DB) (ha : at_.aliased = true)
    (hcopied : ({ t with at_ := at_ } : RevisionTx).copied S = t.copied S)
    (hcounted : at_.counted = t.at_.counted) :
    Bound S { t with at_ := at_, own := view (upsertAlias seen t.mapKey t.revisionID) t.own } db := by
  obtain ⟨active, hactive, hid⟩ := lookup_upsertAlias seen t.mapKey t.revisionID
  refine ⟨h.nonempty, ?_, fun row hrow => ?_, fun hc => ?_, fun key a hown => ?_, fun _ => ?_⟩
  · rw [show ({ t with
      at_ := at_, own := view (MapRevisions.upsertAlias seen t.mapKey t.revisionID) t.own } :
        RevisionTx).copied S = _ from hcopied]
    exact h.writes.upsertAlias seen
  · dsimp only at hrow ⊢
    rw [lookup_view_of_notMem fun hmem => by cases mem_upsertAlias hmem] at hrow
    rw [hcounted]
    exact h.rowCount row hrow
  · exact AList.mem_union.2 (.inr (h.counted (hcounted ▸ hc)))
  · dsimp only at hown ⊢
    refine ⟨ha, ?_⟩
    rw [lookup_view] at hown
    rcases Option.or_eq_some_iff.1 hown with hown | ⟨-, hown⟩
    · obtain rfl := RowKey.mapAlias.inj (mem_upsertAlias (mem_of_lookup hown))
      rw [← Option.some.inj (hactive.symm.trans hown)]
      exact ⟨rfl, hid⟩
    · exact (h.active key a hown).2
  · exact AList.mem_union.2 (.inl (mem_of_lookup hactive))

end GeoDuels.MapRevisions
