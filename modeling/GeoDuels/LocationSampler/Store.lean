import GeoDuels.Contracts
import GeoDuels.MapRevisions.Rollback
import Mathlib.Data.List.Perm.Subperm

/-!
# The rows of a catalog

`FetchRows` of the location sampler (`pkg/locationsampler/store.go`) over the rows of the map revisions.  It
asks for the rows from a random key on and then, from the start, for those before it; so it returns as many
rows of the catalog as there are, up to the limit, and none of them twice (`fetchRows_spec`).
-/

namespace GeoDuels.LocationSampler

open MapRevisions (DB MapKey RevisionID Row RowKey Location LocationRow locationOf locationsOf)
open ReadCommitted (collect nodup_collect)
open scoped List

/-- A row of `locations` with its id. -/
structure LocationEntry where
  id : ℕ
  row : LocationRow
  deriving DecidableEq

def entryOf : Sigma Row → List LocationEntry
  | ⟨.location id, row⟩ => [⟨id, row⟩]
  | _ => []

/-- The table `locations`. -/
def locations (db : DB) : List LocationEntry := collect entryOf db

/-- The `row` of the sampler. -/
structure SampledRow where
  id : ℕ
  point : LocationPoint
  deriving DecidableEq

def scanRow (entry : LocationEntry) : SampledRow where
  id := entry.id
  point :=
    { lat := entry.row.location.lat
      lng := entry.row.location.lng
      country := entry.row.location.country
      panoID := entry.row.location.panoID
      heading := entry.row.location.heading
      pitch := entry.row.location.pitch }

def inCatalog (catalogID : RevisionID) (entry : LocationEntry) : Bool := entry.row.mapRevisionID = catalogID

/-- The rows of the catalog whose `rand_key` satisfies the condition, ordered by it and cut off.  Rows with
the same key come in the order in which the query meets them in the table. -/
def selectRows (table : List LocationEntry) (catalogID : RevisionID) (randKey : ℚ → Bool) (limit : ℕ) :
    List LocationEntry :=
  ((table.filter fun entry => inCatalog catalogID entry && randKey entry.row.location.randKey).insertionSort
    fun a b => a.row.location.randKey ≤ b.row.location.randKey).take limit

/-- `FetchRows`, with the orders in which its two queries meet the rows of the table. -/
def fetchRows (first second : List LocationEntry) (catalogID : RevisionID) (after : ℚ) (limit : ℕ) :
    List SampledRow :=
  let out := (selectRows first catalogID (after ≤ ·) limit).map scanRow
  if limit ≤ out.length then out
  else out ++ (selectRows second catalogID (· < after) (limit - out.length)).map scanRow

/-- All rows of a catalog. -/
def catalogRows (db : DB) (catalogID : RevisionID) : List SampledRow :=
  ((locations db).filter (inCatalog catalogID)).map scanRow

/-! ## What is fetched -/

variable {db : DB} {catalogID : RevisionID} {table first second : List LocationEntry} {p : ℚ → Bool}
  {after : ℚ} {limit : ℕ}

theorem nodup_catalogRows (db : DB) (catalogID : RevisionID) :
    ((catalogRows db catalogID).map SampledRow.id).Nodup := by
  have hkeys : ((locations db).map fun entry => RowKey.location entry.id).Nodup := by
    refine nodup_collect (fun e => ?_) db
    obtain ⟨k, v⟩ := e
    cases k with
    | location id => exact List.Sublist.refl _
    | map | revision | content | mapAlias => exact List.nil_sublist _
  have hids : ((locations db).map LocationEntry.id).Nodup := by
    refine List.Nodup.of_map RowKey.location ?_
    rwa [List.map_map]
  rw [catalogRows, List.map_map]
  exact (List.filter_sublist.map _).nodup hids

/-- The rows of a catalog are its locations. -/
theorem length_catalogRows (db : DB) (catalogID : RevisionID) :
    (catalogRows db catalogID).length = (locationsOf db catalogID).length := by
  have hlocations : locationsOf db catalogID =
      ((locations db).filter (inCatalog catalogID)).map fun entry => entry.row.location := by
    unfold locationsOf locations collect
    rw [List.filter_flatMap, List.map_flatMap]
    congr 1
    funext e
    obtain ⟨k, v⟩ := e
    cases k with
    | location id =>
        by_cases hr : v.mapRevisionID = catalogID <;> simp [locationOf, entryOf, inCatalog, hr]
    | map | revision | content | mapAlias => rfl
  rw [hlocations, catalogRows, List.length_map, List.length_map]

theorem where_eq (table : List LocationEntry) (catalogID : RevisionID) (p : ℚ → Bool) :
    (table.filter fun entry => inCatalog catalogID entry && p entry.row.location.randKey) =
      (table.filter (inCatalog catalogID)).filter fun entry => p entry.row.location.randKey := by
  rw [List.filter_filter]
  congr 1
  funext entry
  exact Bool.and_comm _ _

theorem length_selectRows (table : List LocationEntry) (catalogID : RevisionID) (p : ℚ → Bool) (limit : ℕ) :
    (selectRows table catalogID p limit).length = min limit
      ((table.filter (inCatalog catalogID)).filter fun entry => p entry.row.location.randKey).length := by
  rw [selectRows, where_eq, List.length_take, List.length_insertionSort]

theorem selectRows_subperm (table : List LocationEntry) (catalogID : RevisionID) (p : ℚ → Bool) (limit : ℕ) :
    selectRows table catalogID p limit <+~
      (table.filter (inCatalog catalogID)).filter fun entry => p entry.row.location.randKey := by
  rw [selectRows, where_eq]
  exact (List.take_sublist _ _).subperm.trans (List.perm_insertionSort _ _).subperm

/-- The two conditions on the key share out the rows. -/
theorem perm_wrapAround (entries : List LocationEntry) (after : ℚ) :
    (entries.filter fun entry => (after ≤ entry.row.location.randKey : Bool)) ++
      (entries.filter fun entry => (entry.row.location.randKey < after : Bool)) ~ entries := by
  have hnot : (fun entry : LocationEntry => (entry.row.location.randKey < after : Bool)) =
      fun entry => !(after ≤ entry.row.location.randKey : Bool) := by
    funext entry
    rw [← decide_not, decide_eq_decide, not_le]
  rw [hnot]
  exact List.filter_append_perm _ entries

/-- The entries that are scanned. -/
theorem fetchRows_entries (hfirst : first ~ table) (hsecond : second ~ table) (catalogID : RevisionID)
    (after : ℚ) (limit : ℕ) : ∃ entries, fetchRows first second catalogID after limit = entries.map scanRow ∧
      entries <+~ table.filter (inCatalog catalogID) ∧
      entries.length = min limit (table.filter (inCatalog catalogID)).length := by
  have hperm := perm_wrapAround (table.filter (inCatalog catalogID)) after
  have hout := length_selectRows first catalogID (after ≤ ·) limit
  have hsub := selectRows_subperm first catalogID (after ≤ ·) limit
  have hlen := hperm.length_eq
  rw [((hfirst.filter _).filter _).length_eq] at hout
  rw [((hfirst.filter _).filter _).subperm_left] at hsub
  rw [List.length_append] at hlen
  unfold fetchRows
  dsimp only
  rw [List.length_map]
  split_ifs with hfull
  · refine ⟨_, rfl, hsub.trans ((List.sublist_append_left _ _).subperm.trans hperm.subperm), ?_⟩
    omega
  · have hrest := length_selectRows second catalogID (· < after)
      (limit - (selectRows first catalogID (after ≤ ·) limit).length)
    have hsub' := selectRows_subperm second catalogID (· < after)
      (limit - (selectRows first catalogID (after ≤ ·) limit).length)
    rw [((hsecond.filter _).filter _).length_eq] at hrest
    rw [((hsecond.filter _).filter _).subperm_left] at hsub'
    refine ⟨_, List.map_append.symm, (List.Subperm.append hsub hsub').trans hperm.subperm, ?_⟩
    rw [List.length_append]
    omega

/-- `FetchRows` returns as many rows of the catalog as there are, up to the limit, and all of them differ. -/
theorem fetchRows_spec (hfirst : first ~ locations db) (hsecond : second ~ locations db)
    (catalogID : RevisionID) (after : ℚ) (limit : ℕ) :
    let rows := fetchRows first second catalogID after limit
    rows.length = min limit (catalogRows db catalogID).length ∧ (rows.map SampledRow.id).Nodup ∧
      ∀ row ∈ rows, row ∈ catalogRows db catalogID := by
  obtain ⟨entries, heq, hsub, hlen⟩ := fetchRows_entries hfirst hsecond catalogID after limit
  obtain ⟨fetched, hperm, hsublist⟩ := hsub
  dsimp only
  rw [heq, catalogRows, List.length_map, List.length_map]
  refine ⟨hlen, ?_, fun row hrow => ?_⟩
  · refine ((hperm.map scanRow).map SampledRow.id).nodup_iff.1 ?_
    exact ((hsublist.map scanRow).map SampledRow.id).nodup (nodup_catalogRows db catalogID)
  · exact (hsublist.map scanRow).subset ((hperm.map scanRow).mem_iff.2 hrow)

end GeoDuels.LocationSampler
