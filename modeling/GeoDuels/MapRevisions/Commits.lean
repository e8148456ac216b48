import GeoDuels.MapRevisions.Store

/-!
# What a commit does to the revisions

Every ingest copies the whole dataset in one transaction, so a revision always has its dataset some number
of times over (`Sound`): not at all when the worker that inserted it has stopped, and twice when two workers
have counted no locations.  `Commit` says what any transaction commits for its revision.  The active revision
is complete while no dataset is copied twice (`CopiedOnce`) and none is active without its locations.
-/

namespace GeoDuels.MapRevisions

open ReadCommitted (view update lookup_view lookup_view_of_notMem lookup_update_self collect
  collect_view collect_view_of_nil mem_collect mem_of_lookup mem_update notMem_view view_empty)

variable {S : Files} {db rows : DB} {r : RevisionID} {key : MapKey} {contentHash : ContentHash}

/-! ## How often a dataset has been copied -/

/-- The locations of the revision are those of the dataset, `n` times. -/
def Copies (S : Files) (db : DB) (r : RevisionID) (contentHash : ContentHash) (n : ℕ) : Prop :=
  (locationsOf db r).Perm (List.replicate n (S.rows contentHash)).flatten

/-- The committed rows: every revision of the unique index exists, and the locations of a revision are
copies of its dataset, which its row counts. -/
structure Sound (S : Files) (db : DB) : Prop where
  content : ∀ key contentHash (r : RevisionID), db.lookup (.content key contentHash) = some r →
    ∃ row : RevisionRow, db.lookup (.revision r) = some row ∧ row.mapKey = key ∧
      row.contentHash = contentHash
  revision : ∀ r (row : RevisionRow), db.lookup (.revision r) = some row →
    S.rows row.contentHash ≠ [] ∧ ∃ n, Copies S db r row.contentHash n ∧
      (0 < n → row.rowCount = (S.rows row.contentHash).length)
  orphans : ∀ r, .revision r ∉ db → locationsOf db r = []

theorem Sound.empty : Sound S ∅ where
  content := nofun
  revision := nofun
  orphans _ _ := rfl

/-- The revision has its dataset exactly once, and counts it. -/
def Complete (S : Files) (db : DB) (r : RevisionID) : Prop :=
  ∃ row : RevisionRow, db.lookup (.revision r) = some row ∧
    (locationsOf db r).Perm (S.rows row.contentHash) ∧
    row.rowCount = (S.rows row.contentHash).length

/-- The revision that is active for a map is complete. -/
def ActiveComplete (S : Files) (db : DB) : Prop :=
  ∀ key (a : AliasRow) r, db.lookup (.mapAlias key) = some a → a.activeRevisionID = some r →
    Complete S db r

/-- Every revision has no locations, or its dataset once. -/
def CopiedOnce (S : Files) (db : DB) : Prop :=
  ∀ r (row : RevisionRow), db.lookup (.revision r) = some row →
    locationsOf db r = [] ∨ (locationsOf db r).Perm (S.rows row.contentHash)

/-- The revisions that are active exist and have locations. -/
def ActiveCopied (db : DB) : Prop :=
  ∀ key (a : AliasRow) r, db.lookup (.mapAlias key) = some a → a.activeRevisionID = some r →
    .revision r ∈ db ∧ locationsOf db r ≠ []

theorem ActiveCopied.complete (h : ActiveCopied db) (hdb : Sound S db) (honce : CopiedOnce S db) :
    ActiveComplete S db := by
  intro key a r ha hr
  obtain ⟨hmem, hne⟩ := h key a r ha hr
  obtain ⟨row, hrow⟩ := Option.isSome_iff_exists.1 (AList.lookup_isSome.2 hmem)
  refine ⟨row, hrow, (honce r row hrow).resolve_left hne, ?_⟩
  obtain ⟨-, n, hn, hcount⟩ := hdb.revision r row hrow
  refine hcount (Nat.pos_of_ne_zero ?_)
  rintro rfl
  exact hne (List.perm_nil.1 hn)

/-! ## What a commit adds -/

/-- What is known of the revision `r` of a map and a dataset: a row of it has these columns. -/
def Has (db : DB) (r : RevisionID) (key : MapKey) (contentHash : ContentHash) : Prop :=
  ∃ row : RevisionRow, db.lookup (.revision r) = some row ∧ row.mapKey = key ∧
    row.contentHash = contentHash

/-- Rows that a commit writes for the revision `r`, whose dataset they hold `n` times. -/
structure Commit (S : Files) (rows db : DB) (r : RevisionID) (key : MapKey)
    (contentHash : ContentHash) (n : ℕ) : Prop where
  nonempty : S.rows contentHash ≠ []
  fresh : ∀ id, .location id ∈ rows → .location id ∉ db
  locations : ∀ r', (locationsOf rows r').Perm
    (if r' = r then (List.replicate n (S.rows contentHash)).flatten else [])
  revision : ∀ r' (row : RevisionRow), rows.lookup (.revision r') = some row →
    r' = r ∧ row.mapKey = key ∧ row.contentHash = contentHash ∧
      (row.rowCount = (S.rows contentHash).length ∨
        n = 0 ∧ ∀ old : RevisionRow, db.lookup (.revision r) = some old →
          row.rowCount = old.rowCount)
  counted : .revision r ∈ rows ∨ n = 0
  old : ∀ old : RevisionRow, db.lookup (.revision r) = some old →
    old.mapKey = key ∧ old.contentHash = contentHash
  content : ∀ key' contentHash' (r' : RevisionID),
    rows.lookup (.content key' contentHash') = some r' →
      key' = key ∧ contentHash' = contentHash ∧ r' = r ∧ .revision r ∈ rows

section Commit

variable {n : ℕ}

theorem Commit.locationsOf_view (h : Commit S rows db r key contentHash n) (r' : RevisionID) :
    locationsOf (view rows db) r' = locationsOf rows r' ++ locationsOf db r' := by
  refine collect_view fun k hk hdb v => ?_
  cases k with
  | location id => exact absurd hdb (h.fresh id hk)
  | map | revision | content | mapAlias => rfl

/-- The other revisions. -/
theorem Commit.locationsOf_of_ne (h : Commit S rows db r key contentHash n) {r' : RevisionID}
    (hr : r' ≠ r) : locationsOf (view rows db) r' = locationsOf db r' := by
  have hnone := h.locations r'
  rw [if_neg hr, List.perm_nil] at hnone
  rw [h.locationsOf_view, hnone, List.nil_append]

theorem Commit.lookup_of_ne (h : Commit S rows db r key contentHash n) {r' : RevisionID}
    (hr : r' ≠ r) : (view rows db).lookup (.revision r') = db.lookup (.revision r') := by
  refine lookup_view_of_notMem fun hmem => ?_
  obtain ⟨row, hrow⟩ := Option.isSome_iff_exists.1 (AList.lookup_isSome.2 hmem)
  exact hr (h.revision r' row hrow).1

/-- The row of the revision after the commit. -/
theorem Commit.lookup_self (h : Commit S rows db r key contentHash n) {row : RevisionRow}
    (hrow : (view rows db).lookup (.revision r) = some row) :
    row.mapKey = key ∧ row.contentHash = contentHash := by
  rw [lookup_view] at hrow
  cases hown : rows.lookup (.revision r) with
  | none =>
      rw [hown, Option.none_or] at hrow
      exact h.old row hrow
  | some row' =>
      rw [hown, Option.some_or] at hrow
      obtain rfl : row' = row := Option.some.inj hrow
      obtain ⟨-, hkey, hhash, -⟩ := h.revision r row' hown
      exact ⟨hkey, hhash⟩

/-- The copies that were committed before. -/
theorem Commit.copies_before (h : Commit S rows db r key contentHash n) (hdb : Sound S db) :
    ∃ m, Copies S db r contentHash m ∧
      (.revision r ∉ db → m = 0) ∧
      ∀ old : RevisionRow, db.lookup (.revision r) = some old → 0 < m →
        old.rowCount = (S.rows contentHash).length := by
  cases hold : (db.lookup (.revision r) : Option RevisionRow) with
  | none =>
      refine ⟨0, ?_, fun _ => rfl, fun _ hsome => by cases hsome⟩
      rw [Copies, hdb.orphans r (AList.lookup_eq_none.1 hold)]
      exact .refl _
  | some old =>
      obtain ⟨-, m, hm, hcount⟩ := hdb.revision r old hold
      rw [(h.old old hold).2] at hm hcount
      refine ⟨m, hm, fun hnot => absurd (mem_of_lookup hold) hnot, fun old' hold' => ?_⟩
      rw [← Option.some.inj hold']
      exact hcount

theorem Copies.commit {m : ℕ} (hm : Copies S db r contentHash m)
    (h : Commit S rows db r key contentHash n) : Copies S (view rows db) r contentHash (n + m) := by
  have hnew := h.locations r
  rw [if_pos rfl] at hnew
  rw [Copies, h.locationsOf_view, List.replicate_add, List.flatten_append]
  exact hnew.append hm

theorem Sound.commit (hdb : Sound S db) (h : Commit S rows db r key contentHash n) :
    Sound S (view rows db) := by
  obtain ⟨m, hm, hnew, hcounted⟩ := h.copies_before hdb
  refine ⟨fun key' contentHash' r' hr' => ?_, fun r' row hrow => ?_, fun r' hr' => ?_⟩
  · rw [lookup_view] at hr'
    cases hown : (rows.lookup (.content key' contentHash') : Option RevisionID) with
    | some r'' =>
        rw [hown, Option.some_or] at hr'
        obtain rfl : r'' = r' := Option.some.inj hr'
        obtain ⟨rfl, rfl, rfl, hmem⟩ := h.content key' contentHash' r'' hown
        obtain ⟨row, hrow⟩ := Option.isSome_iff_exists.1 (AList.lookup_isSome.2 hmem)
        obtain ⟨-, hkey, hhash, -⟩ := h.revision r'' row hrow
        exact ⟨row, by rw [lookup_view, hrow, Option.some_or], hkey, hhash⟩
    | none =>
        rw [hown, Option.none_or] at hr'
        obtain ⟨row, hrow, hkey, hhash⟩ := hdb.content key' contentHash' r' hr'
        by_cases hr : r' = r
        · subst hr
          obtain ⟨rfl, rfl⟩ := h.old row hrow
          have hmem : RowKey.revision r' ∈ view rows db :=
            AList.mem_union.2 (.inr (mem_of_lookup hrow))
          obtain ⟨row', hrow'⟩ := Option.isSome_iff_exists.1 (AList.lookup_isSome.2 hmem)
          obtain ⟨hkey', hhash'⟩ := h.lookup_self hrow'
          exact ⟨row', hrow', hkey'.trans hkey, hhash'.trans hhash⟩
        · exact ⟨row, (h.lookup_of_ne hr).trans hrow, hkey, hhash⟩
  · by_cases hr : r' = r
    · subst hr
      have hhash := (h.lookup_self hrow).2
      rw [hhash]
      refine ⟨h.nonempty, n + m, hm.commit h, fun hpos => ?_⟩
      rw [lookup_view] at hrow
      cases hown : (rows.lookup (.revision r') : Option RevisionRow) with
      | none =>
          rw [hown, Option.none_or] at hrow
          have hn : n = 0 := h.counted.resolve_left (AList.lookup_eq_none.1 hown)
          exact hcounted row hrow (by omega)
      | some row' =>
          rw [hown, Option.some_or] at hrow
          obtain rfl : row' = row := Option.some.inj hrow
          obtain ⟨-, -, -, hcount | ⟨hn, hkept⟩⟩ := h.revision r' row' hown
          · exact hcount
          · cases hold : (db.lookup (.revision r') : Option RevisionRow) with
            | none =>
                have hm0 := hnew (AList.lookup_eq_none.1 hold)
                omega
            | some old =>
                rw [hkept old hold]
                exact hcounted old hold (by omega)
    · rw [h.lookup_of_ne hr] at hrow
      obtain ⟨hne, k, hk, hcount⟩ := hdb.revision r' row hrow
      refine ⟨hne, k, ?_, hcount⟩
      rw [Copies, h.locationsOf_of_ne hr]
      exact hk
  · have hrows : RowKey.revision r' ∉ rows := fun hmem => hr' (AList.mem_union.2 (.inl hmem))
    have hnone := hdb.orphans r' fun hmem => hr' (AList.mem_union.2 (.inr hmem))
    by_cases hr : r' = r
    · subst hr
      have hown := h.locations r'
      rw [if_pos rfl, h.counted.resolve_left hrows] at hown
      rw [h.locationsOf_view, hnone, List.append_nil]
      exact List.perm_nil.1 hown
    · rw [h.locationsOf_of_ne hr, hnone]

/-- A revision that has locations keeps them. -/
theorem Commit.locations_ne_nil (h : Commit S rows db r key contentHash n) {r' : RevisionID}
    (hr : locationsOf db r' ≠ []) : locationsOf (view rows db) r' ≠ [] := by
  rw [h.locationsOf_view]
  exact List.append_ne_nil_of_right_ne_nil _ hr

/-- The revision has locations when its dataset is copied. -/
theorem Commit.locations_of_copy (h : Commit S rows db r key contentHash 1) :
    locationsOf (view rows db) r ≠ [] := by
  have hown := h.locations r
  rw [if_pos rfl, List.replicate_one, List.flatten_singleton] at hown
  rw [h.locationsOf_view]
  refine List.append_ne_nil_of_left_ne_nil ?_ _
  intro hnil
  rw [hnil] at hown
  exact h.nonempty (List.nil_perm.1 hown)

/-- A copy is the first of the revision, so it stays the only one. -/
theorem CopiedOnce.commit (honce : CopiedOnce S db) (hdb : Sound S db)
    (h : Commit S rows db r key contentHash n) (hn : n = 0 ∨ n = 1 ∧ locationsOf db r = []) :
    CopiedOnce S (view rows db) := by
  intro r' row hrow
  by_cases hr : r' = r
  · subst hr
    have hown := h.locations r'
    rw [if_pos rfl] at hown
    rw [(h.lookup_self hrow).2, h.locationsOf_view]
    obtain rfl | ⟨rfl, hnone⟩ := hn
    · rw [List.perm_nil.1 hown, List.nil_append]
      cases hold : (db.lookup (.revision r') : Option RevisionRow) with
      | none => exact .inl (hdb.orphans r' (AList.lookup_eq_none.1 hold))
      | some old =>
          rw [← (h.old old hold).2]
          exact honce r' old hold
    · rw [hnone, List.append_nil]
      exact .inr (by simpa using hown)
  · rw [h.lookup_of_ne hr] at hrow
    rw [h.locationsOf_of_ne hr]
    exact honce r' row hrow

end Commit

end GeoDuels.MapRevisions
