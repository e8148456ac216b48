import GeoDuels.Coordinator.Store
import GeoDuels.Lib.Collect
import Mathlib.Data.Rat.Defs
import Mathlib.Algebra.Order.Ring.Rat

/-!
# Map revisions

The runs of the location-ingest worker (`workers/location-ingest`) and `ActivateMapRevision`
(`pkg/persistence/store.go`), with one step for each SQL statement and each commit.  The worker inserts the
map and the revision by statements of their own, copies the locations in one transaction and activates
the revision in another; `ActivateMapRevision` does all of it in one transaction.  The unique index of the
revisions has a row for each map and content hash.  Left out are the time stamps and the schema, which
exists before.
-/

namespace GeoDuels.MapRevisions

open Coordinator (isBlank)
open ReadCommitted (view update collect)

abbrev MapKey := String
abbrev RevisionID := String
abbrev ContentHash := String

/-! ## Datasets -/

/-- An entry of a dataset; a field of another type counts as missing. -/
structure RawLocation where
  lat : Option ℚ := none
  lng : Option ℚ := none
  country : Option String := none
  panoID : Option String := none
  heading : Option ℚ := none
  pitch : Option ℚ := none

structure Location where
  lat : ℚ
  lng : ℚ
  country : String
  panoID : Option String
  heading : Option ℚ
  pitch : Option ℚ
  randKey : ℚ
  deriving DecidableEq

/-- The files by their content hash, and `stableRand`. -/
structure Files where
  dataset : ContentHash → List RawLocation
  stableRand : ℚ → ℚ → ℚ

namespace Files

variable (S : Files)

/-- What the loop of `parseRows` makes of an entry. -/
def parseRow (it : RawLocation) : Option Location := do
  let lat ← it.lat
  let lng ← it.lng
  if lat < -90 ∨ 90 < lat ∨ lng < -180 ∨ 180 < lng then none
  else
    some
      { lat := lat
        lng := lng
        country := it.country.getD ""
        panoID := it.panoID.filter (· ≠ "")
        heading := it.heading
        pitch := it.pitch
        randKey := S.stableRand lat lng }

def parseRows (raw : List RawLocation) : List Location := raw.filterMap S.parseRow

/-- The rows that are parsed from the dataset with the content hash. -/
def rows (contentHash : ContentHash) : List Location := S.parseRows (S.dataset contentHash)

end Files

/-! ## Rows -/

inductive RevisionStatus where
  | validated | active
  deriving DecidableEq

structure RevisionRow where
  mapKey : MapKey
  contentHash : ContentHash
  status : RevisionStatus := .validated
  rowCount : ℕ := 0
  deriving DecidableEq

structure AliasRow where
  activeRevisionID : Option RevisionID
  rollbackRevisionID : Option RevisionID := none
  deriving DecidableEq

structure LocationRow where
  mapRevisionID : RevisionID
  location : Location
  deriving DecidableEq

inductive RowKey where
  | map (key : MapKey)
  | revision (id : RevisionID)
  | content (key : MapKey) (contentHash : ContentHash)
  | mapAlias (key : MapKey)
  | location (id : ℕ)
  deriving DecidableEq

/-- A map has its display name, and the unique index the id of the revision. -/
@[reducible] def Row : RowKey → Type
  | .map _ => String
  | .revision _ => RevisionRow
  | .content _ _ => RevisionID
  | .mapAlias _ => AliasRow
  | .location _ => LocationRow

abbrev DB := AList Row

def locationOf (r : RevisionID) : Sigma Row → List Location
  | ⟨.location _, row⟩ => if row.mapRevisionID = r then [row.location] else []
  | _ => []

/-- The rows of `locations` with the revision. -/
def locationsOf (db : DB) (r : RevisionID) : List Location := collect (locationOf r) db

/-! ## Statements -/

/-- `mapKey + "-" + contentHash[:12]`. -/
def revisionID (key : MapKey) (contentHash : ContentHash) : RevisionID :=
  key ++ "-" ++ String.ofList (contentHash.toList.take 12)

/-- `insert into maps ... on conflict (map_key) do nothing`. -/
def insertMap (seen : DB) (key : MapKey) : DB :=
  if .map key ∈ seen then ∅ else AList.insert (.map key) key ∅

/-- `insert into map_revisions`, which fails on the primary key and on the unique index. -/
def insertRevision (seen : DB) (key : MapKey) (contentHash : ContentHash) : Option DB :=
  let id := revisionID key contentHash
  if .revision id ∈ seen ∨ .content key contentHash ∈ seen then none
  else
    some (AList.insert (.content key contentHash) id
      (AList.insert (.revision id)
        ({ mapKey := key, contentHash := contentHash } : RevisionRow) ∅))

/-- The rows of a block, with the ids that the sequence gives them. -/
def copyRows (r : RevisionID) : List ℕ → List Location → DB
  | id :: ids, row :: rows => (copyRows r ids rows).insert (.location id) ⟨r, row⟩
  | _, _ => ∅

/-- `CopyFrom`; the ids of the sequence are new. -/
def copyFrom (seen : DB) (r : RevisionID) (ids : List ℕ) (block : List Location) : Option DB :=
  if ids.length = block.length ∧ ids.Nodup ∧ ∀ id ∈ ids, .location id ∉ seen then
    some (copyRows r ids block)
  else none

/-- `insert into map_aliases ... on conflict (map_key) do update`. -/
def upsertAlias (seen : DB) (key : MapKey) (r : RevisionID) : DB :=
  let rollback := (seen.lookup (.mapAlias key)).bind fun a : AliasRow => a.activeRevisionID
  AList.insert (.mapAlias key)
    ({ activeRevisionID := some r, rollbackRevisionID := rollback } : AliasRow) ∅

def updateRevision (seen : DB) (r : RevisionID) (set : RevisionRow → RevisionRow) : DB :=
  update seen (.revision r) fun row : RevisionRow => some (set row)

/-! ## Calls -/

inductive RevisionCall where
  /-- A run of the worker. -/
  | ingest (key : MapKey) (contentHash : ContentHash)
  | activateMapRevision (key : MapKey) (displayName : String) (contentHash : ContentHash)

/-- Where a process is; `copy i` is the loop of `ingestRows`.  The places from `upsertMap` on are those of
`ActivateMapRevision`. -/
inductive At where
  | insertMap | find | count | insertRevision
  | copy (i : ℕ) | setRowCount | commitRows
  | upsertAlias | setStatus | commitAlias
  | upsertMap (displayName : String) | findIn | insertIn | copyIn | markActive | upsertAliasIn
  | commitIn
  deriving DecidableEq

structure RevisionTx where
  mapKey : MapKey
  contentHash : ContentHash
  at_ : At
  revisionID : RevisionID := ""
  /-- `ActivateMapRevision` has inserted the revision. -/
  inserted : Bool := false
  own : DB := ∅

def RevisionCall.begin : RevisionCall → RevisionTx
  | .ingest key contentHash => { mapKey := key, contentHash := contentHash, at_ := .insertMap }
  | .activateMapRevision key displayName contentHash =>
      { mapKey := key
        contentHash := contentHash
        at_ := .upsertMap (if isBlank displayName then key else displayName) }

/-- The new ids of the sequence. -/
structure Ids where
  ids : List ℕ := []

def batchSize : ℕ := 2000

namespace RevisionTx

variable (S : Files) (t : RevisionTx)

/-- The process goes on at `at_`. -/
def goto (at_ : At) : DB × Option RevisionTx := (∅, some { t with at_ := at_ })

/-- A statement of a transaction has written `rows`. -/
def writes (rows : DB) (at_ : At) : DB × Option RevisionTx :=
  (∅, some { t with at_ := at_, own := view rows t.own })

/-- The transaction is committed. -/
def commits (at_ : Option At) : DB × Option RevisionTx :=
  (t.own, at_.map fun at_ => { t with at_ := at_, own := ∅ })

/-- A statement fails, and the process ends. -/
def failed : DB × Option RevisionTx := (∅, none)

/-- The next statement of the process. -/
def run (db : DB) (e : Ids) : DB × Option RevisionTx :=
  let seen := view t.own db
  let rows := S.rows t.contentHash
  match t.at_ with
  | .insertMap =>
      if rows = [] then failed else (insertMap seen t.mapKey, some { t with at_ := .find })
  | .find =>
      match (seen.lookup (.content t.mapKey t.contentHash) : Option RevisionID) with
      | some id => { t with revisionID := id }.goto .count
      | none => t.goto .insertRevision
  | .count => t.goto (if locationsOf db t.revisionID = [] then .copy 0 else .upsertAlias)
  | .insertRevision =>
      match insertRevision seen t.mapKey t.contentHash with
      | some written =>
          (written, some
            { t with at_ := .copy 0, revisionID := MapRevisions.revisionID t.mapKey t.contentHash })
      | none => failed
  | .copy i =>
      if rows.length ≤ i then t.goto .setRowCount
      else
        match copyFrom seen t.revisionID e.ids ((rows.drop i).take batchSize) with
        | some written => t.writes written (.copy (i + batchSize))
        | none => failed
  | .setRowCount =>
      t.writes (updateRevision seen t.revisionID ({ · with rowCount := rows.length })) .commitRows
  | .commitRows => t.commits (some .upsertAlias)
  | .upsertAlias => t.writes (upsertAlias seen t.mapKey t.revisionID) .setStatus
  | .setStatus =>
      t.writes (updateRevision seen t.revisionID ({ · with status := .active })) .commitAlias
  | .commitAlias => t.commits none
  | .upsertMap displayName =>
      if isBlank t.mapKey ∨ rows = [] then failed
      else t.writes (AList.insert (.map t.mapKey) displayName ∅) .findIn
  | .findIn =>
      match (seen.lookup (.content t.mapKey t.contentHash) : Option RevisionID) with
      | some id => { t with revisionID := id }.goto .markActive
      | none => t.goto .insertIn
  | .insertIn =>
      match insertRevision seen t.mapKey t.contentHash with
      | some written =>
          { t with
            revisionID := MapRevisions.revisionID t.mapKey t.contentHash
            inserted := true }.writes written .copyIn
      | none => failed
  | .copyIn =>
      match copyFrom seen t.revisionID e.ids rows with
      | some written => t.writes written .markActive
      | none => failed
  | .markActive =>
      t.writes (updateRevision seen t.revisionID
        ({ · with rowCount := rows.length, status := .active })) .upsertAliasIn
  | .upsertAliasIn => t.writes (upsertAlias seen t.mapKey t.revisionID) .commitIn
  | .commitIn => t.commits none

end RevisionTx

def revisionProgram (S : Files) : ReadCommitted.Program Row where
  Call := RevisionCall
  Proc := RevisionTx
  Env := Ids
  begin := RevisionCall.begin
  own := RevisionTx.own
  own_begin := by rintro (⟨key, contentHash⟩ | ⟨key, displayName, contentHash⟩) <;> rfl
  run := RevisionTx.run S

abbrev RevisionWorld (S : Files) := ReadCommitted.World (revisionProgram S)

abbrev RevisionAct (S : Files) := ReadCommitted.Act (revisionProgram S)

end GeoDuels.MapRevisions
