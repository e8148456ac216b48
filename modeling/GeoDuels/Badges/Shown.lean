import GeoDuels.Badges.Store
import GeoDuels.Lib.Sorted
import Mathlib.Data.List.Find

/-!
# The badge that is shown

The rows of a player come in the same order alone and in the query for a whole lobby, so both ways of
finding his badge take the same row.
-/

namespace GeoDuels.Badges

open Persistence (trim)

variable {badges : Table} {u userID : UserID} {id : String} {e e' e'' : Entry} {badge : PlayerBadge}
variable {selected : Assoc UserID String}
variable (toUpper : String → String)

/-! ## The orders -/

theorem newer_total (e e' : Entry) : Newer e e' ∨ Newer e' e := by
  unfold Newer
  rcases lt_trichotomy e.2.awardedAt e'.2.awardedAt with h | h | h
  · exact .inr (.inl h)
  · rcases lt_trichotomy e.1.code e'.1.code with hcode | hcode | hcode
    · exact .inl (.inr ⟨h.symm, .inl hcode⟩)
    · rcases le_total e.1.seasonID e'.1.seasonID with hseason | hseason
      · exact .inl (.inr ⟨h.symm, .inr ⟨hcode, hseason⟩⟩)
      · exact .inr (.inr ⟨h, .inr ⟨hcode.symm, hseason⟩⟩)
    · exact .inr (.inr ⟨h, .inl hcode⟩)
  · exact .inl (.inl h)

theorem newer_trans (h : Newer e e') (h' : Newer e' e'') : Newer e e'' := by
  rcases h with h | ⟨h, hcode | ⟨hcode, hseason⟩⟩ <;>
    rcases h' with h' | ⟨h', hcode' | ⟨hcode', hseason'⟩⟩
  · exact .inl (h'.trans h)
  · exact .inl (h'.trans_lt h)
  · exact .inl (h'.trans_lt h)
  · exact .inl (h'.trans_eq h)
  · exact .inr ⟨h'.trans h, .inl (hcode.trans hcode')⟩
  · exact .inr ⟨h'.trans h, .inl (hcode.trans_eq hcode')⟩
  · exact .inl (h'.trans_eq h)
  · exact .inr ⟨h'.trans h, .inl (hcode.trans_lt hcode')⟩
  · exact .inr ⟨h'.trans h, .inr ⟨hcode.trans hcode', hseason.trans hseason'⟩⟩

theorem newer_antisymm (h : Newer e e') (h' : Newer e' e) :
    e.1.code = e'.1.code ∧ e.1.seasonID = e'.1.seasonID := by
  rcases h with h | ⟨hat, hcode | ⟨hcode, hseason⟩⟩ <;>
    rcases h' with h' | ⟨hat', hcode' | ⟨hcode', hseason'⟩⟩
  · exact absurd h h'.not_gt
  · exact absurd hat' h.ne'
  · exact absurd hat' h.ne'
  · exact absurd hat h'.ne'
  · exact absurd hcode hcode'.not_gt
  · exact absurd hcode' hcode.ne'
  · exact absurd hat h'.ne'
  · exact absurd hcode hcode'.ne'
  · exact ⟨hcode, le_antisymm hseason hseason'⟩

instance : Std.Total Newer := ⟨newer_total⟩

instance : IsTrans Entry Newer := ⟨fun _ _ _ => newer_trans⟩

instance : Std.Total ByUser := ⟨fun e e' => by
  rcases lt_trichotomy e.1.userID e'.1.userID with h | h | h
  · exact .inl (.inl h)
  · exact (newer_total e e').imp (fun hn => .inr ⟨h, hn⟩) fun hn => .inr ⟨h.symm, hn⟩
  · exact .inr (.inl h)⟩

instance : IsTrans Entry ByUser := ⟨fun e e' e'' h h' => by
  rcases h with h | ⟨h, hn⟩ <;> rcases h' with h' | ⟨h', hn'⟩
  · exact .inl (h.trans h')
  · exact .inl (h' ▸ h)
  · exact .inl (h ▸ h')
  · exact .inr ⟨h.trans h', newer_trans hn hn'⟩⟩

/-- Two rows of a table that are neither newer are the same row. -/
theorem entry_eq (he : e ∈ badges.entries) (he' : e' ∈ badges.entries) (huser : e.1.userID = e'.1.userID)
    (h : Newer e e') (h' : Newer e' e) : e = e' := by
  obtain ⟨hcode, hseason⟩ := newer_antisymm h h'
  have hkey : e.1 = e'.1 := by
    cases hk : e.1
    cases hk' : e'.1
    simp_all
  obtain ⟨k, row⟩ := e
  obtain ⟨k', row'⟩ := e'
  obtain rfl : k = k' := hkey
  have hrow := Option.some.inj ((Assoc.mem_entries_iff.1 he).symm.trans (Assoc.mem_entries_iff.1 he'))
  exact congrArg (Sigma.mk k) hrow

/-- The rows of a player in the query for the lobby. -/
theorem filter_rows (userIDs : List UserID) (hu : u ∈ userIDs) :
    ((badges.entries.filter fun e => e.1.userID ∈ userIDs).insertionSort ByUser).filter
      (fun e => e.1.userID = u) = badges.rowsOf u := by
  rw [Sorted.filter_insertionSort (s := Newer), List.filter_filter]
  · unfold Table.rowsOf
    congr 2
    funext e
    by_cases he : e.1.userID = u <;> simp [he, hu]
  · intro e _ e' _ heu heu' h
    rcases h with h | ⟨-, h⟩
    · rw [of_decide_eq_true heu, of_decide_eq_true heu'] at h
      exact absurd h (lt_irrefl _)
    · exact h
  · intro e he e' he' heu heu' h h'
    exact entry_eq (List.mem_filter.1 he).1 (List.mem_filter.1 he').1
      ((of_decide_eq_true heu).trans (of_decide_eq_true heu').symm) h h'

/-! ## The loop over the rows of a lobby -/

/-- The badges that the rows have for a player. -/
def badgesOf (u : UserID) (rows : List Entry) : List PlayerBadge :=
  (rows.filter fun e => e.1.userID = u).filterMap (Entry.badge toUpper)

theorem lookup_foldl_add (selected : Assoc UserID String) (u : UserID) (rows : List Entry)
    (acc : LobbyBadges) :
    (rows.foldl (LobbyBadges.add toUpper selected) acc).fallback.lookup u =
        (acc.fallback.lookup u).or (badgesOf toUpper u rows).head? ∧
      (rows.foldl (LobbyBadges.add toUpper selected) acc).out.lookup u =
        (acc.out.lookup u).or
          ((badgesOf toUpper u rows).find? fun badge => badge.id = (selected.lookup u).getD "") := by
  induction rows generalizing acc with
  | nil => simp [badgesOf]
  | cons e rows ih =>
      rw [List.foldl_cons]
      obtain ⟨hfallback, hout⟩ := ih (acc.add toUpper selected e)
      rw [hfallback, hout]
      unfold LobbyBadges.add badgesOf
      cases hbadge : e.badge toUpper with
      | none =>
          by_cases hu : e.1.userID = u <;> simp [hu, hbadge]
      | some badge =>
          by_cases hu : e.1.userID = u
          · subst hu
            cases hf : acc.fallback.lookup e.1.userID <;> cases ho : acc.out.lookup e.1.userID <;>
              by_cases hid : badge.id = (selected.lookup e.1.userID).getD "" <;>
                simp [hbadge, hf, ho, hid]
          · have hu' : u ≠ e.1.userID := Ne.symm hu
            constructor
            · dsimp only
              split_ifs <;> simp [hu, AList.lookup_insert_ne hu']
            · dsimp only
              split_ifs <;> simp [hu, AList.lookup_insert_ne hu']

/-! ## The profile -/

/-- The badges that a player owns, in order. -/
def Table.ownedBadges (badges : Table) (u : UserID) : List PlayerBadge :=
  (badges.rowsOf u).filterMap (Entry.badge toUpper)

theorem owned_of_badge {toUpper : String → String} (h : e.badge toUpper = some badge) : badge.owned = true := by
  unfold Entry.badge badgeFromParts at h
  split_ifs at h <;> obtain rfl := Option.some.inj h <;> rfl

theorem owned_of_mem {toUpper : String → String} (h : badge ∈ badges.ownedBadges toUpper u) : badge.owned = true := by
  obtain ⟨e, -, he⟩ := List.mem_filterMap.1 h
  exact owned_of_badge he

/-- The selected badge is shown if it is owned, and the first one otherwise. -/
theorem profileBadges_snd (badges : Table) (u : UserID) (id : String) :
    (badges.profileBadges toUpper u id).2 =
      ((badges.ownedBadges toUpper u).find? fun badge => badge.id = id).or (badges.ownedBadges toUpper u).head? := by
  have hrest : ∀ rest : List PlayerBadge, (∀ badge ∈ rest, badge.owned = false) →
      ∀ p : PlayerBadge → Bool, (badges.ownedBadges toUpper u ++ rest).find? (fun badge => p badge && badge.owned) =
        (badges.ownedBadges toUpper u).find? p := by
    intro rest hrest p
    have hnone : rest.find? (fun badge => p badge && badge.owned) = none := by
      rw [List.find?_eq_none]
      intro badge hbadge
      simp [hrest badge hbadge]
    rw [List.find?_append, hnone, Option.or_none]
    refine List.find?_congr fun badge hbadge => ?_
    rw [owned_of_mem hbadge, Bool.and_true]
  obtain ⟨rest, hsnd, hunowned⟩ : ∃ rest : List PlayerBadge,
      (badges.profileBadges toUpper u id).1 = badges.ownedBadges toUpper u ++ rest ∧ ∀ badge ∈ rest, badge.owned = false := by
    refine ⟨_, List.append_assoc _ _ _, fun badge hbadge => ?_⟩
    rcases List.mem_append.1 hbadge with hbadge | hbadge
    · have htemplate := (List.mem_filter.1 hbadge).1
      simp only [seasonRankBadgeTemplates, List.mem_cons, List.not_mem_nil, or_false] at htemplate
      rcases htemplate with rfl | rfl <;> rfl
    · split_ifs at hbadge
      · cases hbadge
      · obtain rfl := List.mem_singleton.1 hbadge
        rfl
  have hselected : (badges.profileBadges toUpper u id).1.find? (fun badge => badge.id = id ∧ badge.owned = true) =
      (badges.ownedBadges toUpper u).find? fun badge => badge.id = id := by
    rw [hsnd, ← hrest rest hunowned]
    simp
  have hfirst : (badges.profileBadges toUpper u id).1.find? (·.owned) = (badges.ownedBadges toUpper u).head? := by
    have htrue := hrest rest hunowned fun _ => true
    simp only [Bool.true_and] at htrue
    rw [hsnd, htrue]
    cases badges.ownedBadges toUpper u <;> rfl
  show (if (badges.profileBadges toUpper u id).1.find? (fun badge => badge.id = id ∧ badge.owned = true) = none then
      (badges.profileBadges toUpper u id).1.find? (·.owned)
    else (badges.profileBadges toUpper u id).1.find? (fun badge => badge.id = id ∧ badge.owned = true)) = _
  rw [hselected, hfirst]
  cases (badges.ownedBadges toUpper u).find? fun badge => badge.id = id <;> rfl

/-- The members of a lobby are shown with the badges that their profiles show. -/
theorem selectedLobbyBadges_eq (badges : Table) (selected : Assoc UserID String) (u : UserID) (id : String)
    (hu : selected.lookup u = some id) (hname : trim u ≠ "") :
    (badges.selectedLobbyBadges toUpper selected).lookup u = (badges.profileBadges toUpper u id).2 := by
  have hmem : u ∈ selected.keys.filter fun userID => trim userID ≠ "" := by
    rw [List.mem_filter]
    exact ⟨AList.mem_keys.1 (Assoc.mem_iff_exists.2 ⟨id, hu⟩), decide_eq_true hname⟩
  obtain ⟨hfallback, hout⟩ := lookup_foldl_add toUpper selected u
    ((badges.entries.filter fun e =>
      e.1.userID ∈ selected.keys.filter fun userID => trim userID ≠ "").insertionSort ByUser) {}
  unfold badgesOf at hfallback hout
  rw [filter_rows _ hmem] at hfallback hout
  rw [hu] at hout
  rw [profileBadges_snd]
  refine (Assoc.lookup_union _ _ u).trans ?_
  rw [hfallback, hout]
  rfl

/-- A player with two badges, the older one selected, and one who has not selected his. -/
def twoMembers : Table :=
  (((∅ : Table).insert ⟨"a", badgeCodeDiscordMember, ""⟩ ⟨none, 1⟩).insert
    ⟨"a", badgeCodeSeasonRank, "s2"⟩ ⟨some 7, 2⟩).insert ⟨"b", badgeCodeGeoDuelsTeam, ""⟩ ⟨none, 3⟩

/-- Upper case as it is in ASCII. -/
def asciiUpper (s : String) : String := s.map Char.toUpper

theorem selectedLobbyBadges_eq_twoMembers :
    (twoMembers.selectedLobbyBadges asciiUpper (((∅ : Assoc UserID String).insert "a" "discord-member").insert "b" "")).lookup
      "a" = (twoMembers.profileBadges asciiUpper "a" "discord-member").2 :=
  selectedLobbyBadges_eq asciiUpper _ _ _ _ (by decide) (by decide)

end GeoDuels.Badges
