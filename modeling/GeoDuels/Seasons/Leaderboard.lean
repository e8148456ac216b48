import GeoDuels.Lib.Sorted
import GeoDuels.Seasons.Store

/-!
# The pages of the leaderboard

`ListLeaderboard` counts the rows on every page from the first row of the leaderboard, and
`GetLeaderboardOverview` counts them again for one player; both come to the same ranks.
-/

namespace GeoDuels.Seasons

open Badges (SeasonID)

variable {db : DB} {mode : String} {seasonID : SeasonID} {userID : UserID} {e e' : Entry}
variable {row row' : Entry × ℕ}

/-! ## The rows -/

theorem ranked_getElem? (i : ℕ) (h : (db.ranked mode seasonID)[i]? = some row) : row.2 = i + 1 := by
  unfold DB.ranked at h
  rw [List.getElem?_zipIdx, Option.map_eq_some_iff] at h
  obtain ⟨e, -, rfl⟩ := h
  exact Nat.add_comm 1 i

/-- A row stands at its rank. -/
theorem getElem?_of_mem_ranked (h : row ∈ db.ranked mode seasonID) :
    1 ≤ row.2 ∧ (db.ranked mode seasonID)[row.2 - 1]? = some row := by
  obtain ⟨i, hi⟩ := List.mem_iff_getElem?.1 h
  have hrank := ranked_getElem? i hi
  refine ⟨by omega, ?_⟩
  rw [hrank, Nat.add_sub_cancel]
  exact hi

/-- The ranks of a leaderboard count up from 1. -/
theorem map_snd_ranked (db : DB) (mode : String) (seasonID : SeasonID) :
    (db.ranked mode seasonID).map Prod.snd = List.range' 1 (db.ranked mode seasonID).length := by
  unfold DB.ranked
  rw [List.zipIdx_map_snd, List.length_zipIdx]

/-- Each player has one row in a season. -/
theorem nodup_users (db : DB) (p : Entry → Bool)
    (hp : ∀ e, p e = true → e.1.mode = mode ∧ e.1.seasonID = seasonID) :
    ((((db.ranks.entries.filter p).insertionSort Before).zipIdx 1).map fun row => row.1.1.userID).Nodup := by
  have hfst : (((db.ranks.entries.filter p).insertionSort Before).zipIdx 1).map (fun row => row.1.1.userID) =
      ((db.ranks.entries.filter p).insertionSort Before).map fun e => e.1.userID := by
    conv_rhs => rw [← List.zipIdx_map_fst 1 ((db.ranks.entries.filter p).insertionSort Before)]
    rw [List.map_map]
    rfl
  have hentries : db.ranks.entries.Nodup := List.NodupKeys.nodup db.ranks.nodupKeys
  rw [hfst, ((List.perm_insertionSort Before _).map _).nodup_iff]
  refine (hentries.filter p).map_on fun e he e' he' huser => ?_
  obtain ⟨he, hpe⟩ := List.mem_filter.1 he
  obtain ⟨he', hpe'⟩ := List.mem_filter.1 he'
  obtain ⟨⟨u, m, s⟩, state⟩ := e
  obtain ⟨⟨u', m', s'⟩, state'⟩ := e'
  obtain ⟨rfl, rfl⟩ := hp _ hpe
  obtain ⟨rfl, rfl⟩ := hp _ hpe'
  obtain rfl : u = u' := huser
  have hstate := Option.some.inj ((Assoc.mem_entries_iff.1 he).symm.trans (Assoc.mem_entries_iff.1 he'))
  exact congrArg (Sigma.mk _) hstate

theorem nodup_ranked_users (db : DB) (mode : String) (seasonID : SeasonID) :
    ((db.ranked mode seasonID).map fun row => row.1.1.userID).Nodup :=
  nodup_users db _ fun e he => by
    have he := of_decide_eq_true he
    exact ⟨he.1, he.2.1⟩

theorem nodup_ranked (db : DB) (mode : String) (seasonID : SeasonID) : (db.ranked mode seasonID).Nodup :=
  (nodup_ranked_users db mode seasonID).of_map _

/-- Two rows of one player are the same row. -/
theorem ranked_eq_of_userID (h : row ∈ db.ranked mode seasonID) (h' : row' ∈ db.ranked mode seasonID)
    (huser : row.1.1.userID = row'.1.1.userID) : row = row' :=
  List.inj_on_of_nodup_map (nodup_ranked_users db mode seasonID) h h' huser

/-! ## The rank of one player -/

/-- The rows of one player are his only one. -/
theorem filter_ranked (h : row ∈ db.ranked mode seasonID) :
    (db.ranked mode seasonID).filter (fun row' => row'.1.1.userID = row.1.1.userID) = [row] := by
  have hall : ∀ row' ∈ (db.ranked mode seasonID).filter (fun row' => row'.1.1.userID = row.1.1.userID),
      row' = row := by
    intro row' hrow'
    obtain ⟨hrow', huser'⟩ := List.mem_filter.1 hrow'
    exact ranked_eq_of_userID hrow' h (of_decide_eq_true huser')
  have hmem : row ∈ (db.ranked mode seasonID).filter (fun row' => row'.1.1.userID = row.1.1.userID) :=
    List.mem_filter.2 ⟨h, decide_eq_true rfl⟩
  have hnodup := (nodup_ranked db mode seasonID).filter fun row' => row'.1.1.userID = row.1.1.userID
  rw [List.eq_replicate_of_mem hall] at hnodup hmem ⊢
  have hle := List.nodup_replicate.1 hnodup
  have hpos := (List.mem_replicate.1 hmem).1
  rw [show ((db.ranked mode seasonID).filter fun row' => row'.1.1.userID = row.1.1.userID).length = 1 by
    omega]
  rfl

/-- `max(rank) filter (where user_id = $3)` is the rank of the player's row, and 0 without one. -/
theorem selfRank_eq (db : DB) (userID : UserID) (mode : String) (seasonID : SeasonID) (limit : ℤ) :
    (∀ row ∈ db.ranked (orDuel mode) (db.orActive seasonID), row.1.1.userID = userID →
        (db.getLeaderboardOverview userID mode seasonID limit).selfRank = row.2) ∧
      ((∀ row ∈ db.ranked (orDuel mode) (db.orActive seasonID), row.1.1.userID ≠ userID) →
        (db.getLeaderboardOverview userID mode seasonID limit).selfRank = 0) := by
  have hself : (db.getLeaderboardOverview userID mode seasonID limit).selfRank =
      (((db.ranked (orDuel mode) (db.orActive seasonID)).filter fun row =>
        row.1.1.userID = userID).map Prod.snd).foldl max 0 := rfl
  rw [hself]
  constructor
  · intro row hrow huser
    rw [← huser, filter_ranked hrow]
    exact Nat.max_eq_right (Nat.zero_le _)
  · intro hnone
    rw [List.filter_eq_nil_iff.2 fun row hrow => by simpa using hnone row hrow]
    rfl

/-! ## The pages -/

/-- A page with a size that the store allows. -/
theorem listLeaderboard_eq (db : DB) (mode : String) (seasonID : SeasonID) {size : ℕ} (hsize : 1 ≤ size)
    (hmax : size ≤ 200) (offset : ℕ) :
    db.listLeaderboard mode seasonID size offset =
      (((db.ranked (orDuel mode) (db.orActive seasonID)).drop offset).take size).map
        db.leaderboardEntry := by
  unfold DB.listLeaderboard
  have hpos : ¬ (size : ℤ) ≤ 0 := by omega
  have hle : ¬ (size : ℤ) > 200 := by omega
  have hoffset : ¬ (offset : ℤ) < 0 := by omega
  dsimp only
  rw [if_neg hpos, if_neg hle, if_neg hoffset, Int.toNat_natCast, Int.toNat_natCast]

/-- The pages of the leaderboard show the ranks from 1 on, each once and up to the number of players that
the overview counts; and the overview gives a player the rank that the pages show him with, or 0 if no page
shows him. -/
theorem overview_eq_pages (db : DB) (mode : String) (seasonID : SeasonID) (userID : UserID) (limit : ℤ)
    (size : ℕ) (hsize : 1 ≤ size) (hmax : size ≤ 200) :
    let overview := db.getLeaderboardOverview userID mode seasonID limit
    let pages := (List.range (overview.totalPlayers / size + 1)).flatMap fun i =>
      db.listLeaderboard mode seasonID size ↑(i * size)
    pages.map LeaderboardEntry.rank = List.range' 1 overview.totalPlayers ∧
      (pages.map LeaderboardEntry.userID).Nodup ∧
      (∀ entry ∈ pages, entry.userID = userID → entry.rank = overview.selfRank) ∧
      (overview.selfRank ≠ 0 → ∃ entry ∈ db.listLeaderboard mode seasonID size
        ↑((overview.selfRank - 1) / size * size), entry.userID = userID ∧ entry.rank = overview.selfRank) := by
  intro overview pages
  set rows := db.ranked (orDuel mode) (db.orActive seasonID) with hrows
  have htotal : overview.totalPlayers = rows.length := rfl
  have hpages : pages = rows.map db.leaderboardEntry := by
    have hmap : pages = ((List.range (rows.length / size + 1)).flatMap fun i =>
        (rows.drop (i * size)).take size).map db.leaderboardEntry := by
      rw [List.map_flatMap]
      exact List.flatMap_congr fun i _ => listLeaderboard_eq db mode seasonID hsize hmax (i * size)
    rw [hmap, Sorted.flatMap_pages, List.take_of_length_le]
    rw [Nat.succ_mul]
    exact (Nat.lt_div_mul_add hsize).le
  obtain ⟨hself, hnone⟩ := selfRank_eq db userID mode seasonID limit
  refine ⟨?_, ?_, ?_, fun hne => ?_⟩
  · rw [hpages, List.map_map, htotal]
    exact map_snd_ranked db _ _
  · rw [hpages, List.map_map]
    exact nodup_ranked_users db _ _
  · intro entry hentry huser
    rw [hpages] at hentry
    obtain ⟨row, hrow, rfl⟩ := List.mem_map.1 hentry
    exact (hself row hrow huser).symm
  · obtain ⟨row, hrow, huser⟩ : ∃ row ∈ rows, row.1.1.userID = userID := by
      by_contra hall
      push Not at hall
      exact hne (hnone hall)
    have hrank : overview.selfRank = row.2 := hself row hrow huser
    obtain ⟨-, hat⟩ := getElem?_of_mem_ranked hrow
    refine ⟨db.leaderboardEntry row, ?_, huser, hrank.symm⟩
    rw [listLeaderboard_eq db mode seasonID hsize hmax]
    refine List.mem_map_of_mem ?_
    rw [hrank]
    exact List.mem_of_getElem? ((Sorted.getElem?_page rows hsize).trans hat)

/-- Three players of the first season; two have the same rating, and one is banned. -/
def threePlayers : DB where
  users := (((∅ : Assoc UserID UserRow).insert "a" {}).insert "b" {}).insert "c" { bannedAt := some 4 }
  ranks := (((∅ : Assoc RankKey Rating.State).insert ⟨"a", "duel", "s2"⟩ ⟨700, 220, 3⟩).insert
    ⟨"b", "duel", "s2"⟩ ⟨700, 220, 2⟩).insert ⟨"c", "duel", "s2"⟩ ⟨900, 220, 1⟩

theorem overview_eq_pages_threePlayers :
    (threePlayers.getLeaderboardOverview "a" "" "" 10).selfRank = 2 ∧
      ∃ entry ∈ threePlayers.listLeaderboard "" "" 1 1, entry.userID = "a" ∧ entry.rank = 2 := by
  have hrank : (threePlayers.getLeaderboardOverview "a" "" "" 10).selfRank = 2 := by decide +kernel
  have hpage := (overview_eq_pages threePlayers "" "" "a" 10 1 (by decide) (by decide)).2.2.2
  rw [hrank] at hpage
  exact ⟨hrank, hpage (by decide)⟩

end GeoDuels.Seasons
