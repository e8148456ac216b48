import GeoDuels.Badges.Shown

/-!
# The badge that a player has chosen

`UpdateSelectedBadge` checks the badge in one statement and writes it in another, and meanwhile badges are
awarded and the badge of the team is taken away.  Still the profile shows what the player has chosen
last: the id survives its way through the columns, and but for the badge of the team what has been
awarded stays.
-/

namespace GeoDuels.Badges

open Persistence (trim)

abbrev RequestID := ℕ

/-- An `UpdateSelectedBadge` that has checked its badge. -/
structure Request where
  userID : UserID
  badgeID : String
  ref : BadgeRef

structure BadgeWorld where
  badges : Table := ∅
  /-- The columns of `users`. -/
  selected : Assoc UserID BadgeRef := ∅
  requests : Assoc RequestID Request := ∅
  clock : ℕ := 0
  /-- The badge that the player has chosen last, and that has not been cleared; no column. -/
  chosen : Assoc UserID String := ∅

inductive BadgeAct where
  /-- Discord is linked, a moderator is named, or a season ends. -/
  | award (key : BadgeKey) (rank : Option ℤ)
  /-- `removeGeoDuelsTeamBadgeTx`. -/
  | removeTeam (userID : UserID)
  | check (x : RequestID) (userID : UserID) (badgeID : String)
  | write (x : RequestID)
  | drop (x : RequestID)
  | wait (d : ℕ)

namespace BadgeWorld

variable (toUpper : String → String)

def clearTeam (userID : UserID) (w : BadgeWorld) : BadgeWorld :=
  if (w.selected.lookup userID).any fun ref => ref.code = badgeCodeGeoDuelsTeam then
    { w with selected := w.selected.insert userID {}, chosen := w.chosen.erase userID }
  else w

/-- The second statement of `UpdateSelectedBadge`. -/
def select (r : Request) (w : BadgeWorld) : BadgeWorld :=
  { w with
    selected := w.selected.insert r.userID r.ref
    chosen := if r.badgeID = "" then w.chosen.erase r.userID else w.chosen.insert r.userID r.badgeID }

def step (w : BadgeWorld) : BadgeAct → Option BadgeWorld
  | .award key rank => some { w with badges := w.badges.award w.clock key rank }
  | .removeTeam userID =>
      some { w.clearTeam userID with
        badges := w.badges.filter fun k _ => ¬ (k.userID = userID ∧ k.code = badgeCodeGeoDuelsTeam) }
  | .check x userID badgeID =>
      match w.requests.lookup x, w.badges.checkBadge toUpper userID badgeID with
      | none, .ok (userID, ref) =>
          some { w with requests := w.requests.insert x ⟨userID, trim badgeID, ref⟩ }
      | _, _ => none
  | .write x =>
      match w.requests.lookup x with
      | some r => some { w.select r with requests := w.requests.erase x }
      | none => none
  | .drop x =>
      match w.requests.lookup x with
      | some _ => some { w with requests := w.requests.erase x }
      | none => none
  | .wait d => some { w with clock := w.clock + d }

/-- `GetProfile` reads the columns, and finds the badge to show. -/
def shownBadge (w : BadgeWorld) (u : UserID) : Option PlayerBadge :=
  let ref := (w.selected.lookup u).getD {}
  (w.badges.profileBadges toUpper u (badgeIDFromParts ref.code ref.seasonID)).2

end BadgeWorld

variable {badges : Table} {u userID : UserID} {id badgeID : String} {e : Entry} {badge : PlayerBadge}
variable {toUpper : String → String} {w w' : BadgeWorld} {x : RequestID} {a : BadgeAct} {ref : BadgeRef}

/-! ## From the id to the columns and back -/

theorem trimPrefix_append (s t : String) : trimPrefix (s ++ t) s = t := by
  unfold trimPrefix
  rw [String.toList_append, if_pos (List.isPrefixOf_iff_prefix.2 (List.prefix_append _ _)),
    List.drop_left, String.ofList_toList]

theorem trimSuffix_append (s t : String) : trimSuffix (s ++ t) t = s := by
  unfold trimSuffix
  rw [String.toList_append, if_pos (List.isSuffixOf_iff_suffix.2 (List.suffix_append _ _)),
    List.length_append, Nat.add_sub_cancel, List.take_left, String.ofList_toList]

/-- The id of a season's badge names the season. -/
theorem badgeRefFromID_season {seasonID : SeasonID} (hseason : trim seasonID ≠ "")
    (hid : trim (seasonRankBadgeID seasonID) = seasonRankBadgeID seasonID) :
    badgeRefFromID (seasonRankBadgeID seasonID) =
      some { code := badgeCodeSeasonRank, seasonID := trim seasonID } := by
  have hhead : ∀ s : String, s.toList.head? ≠ some 's' → seasonRankBadgeID seasonID ≠ s := by
    rintro s hs rfl
    apply hs
    unfold seasonRankBadgeID
    rw [String.toList_append, String.toList_append]
    rfl
  unfold badgeRefFromID
  dsimp only
  rw [hid, if_neg (hhead "" (by decide)), if_neg (hhead "discord-member" (by decide)),
    if_neg (hhead "geoduels-team" (by decide)), if_pos]
  · have hseasonID : trimSuffix (trimPrefix (seasonRankBadgeID seasonID) "season-") "-top-100" =
        trim seasonID := by
      unfold seasonRankBadgeID
      rw [String.append_assoc, trimPrefix_append, trimSuffix_append]
    rw [hseasonID, Persistence.trim_trim, if_neg hseason]
  · unfold seasonRankBadgeID
    rw [Bool.and_eq_true, List.isPrefixOf_iff_prefix, List.isSuffixOf_iff_suffix, String.toList_append,
      String.toList_append]
    exact ⟨⟨_, (List.append_assoc _ _ _).symm⟩, List.suffix_append _ _⟩

/-- The columns that are written for a badge that is owned give its id back. -/
theorem badgeIDFromParts_of_owned (hbadge : e.badge toUpper = some badge) (hid : trim badge.id = badge.id) :
    ∃ ref, badgeRefFromID badge.id = some ref ∧ badgeIDFromParts ref.code ref.seasonID = badge.id := by
  unfold Entry.badge badgeFromParts at hbadge
  split_ifs at hbadge with hdiscord hteam hseason hrank hne hne
  · obtain rfl := Option.some.inj hbadge
    exact ⟨{ code := badgeCodeDiscordMember }, by decide, by decide⟩
  · obtain rfl := Option.some.inj hbadge
    exact ⟨{ code := badgeCodeGeoDuelsTeam }, by decide, by decide⟩
  all_goals
    have hid' : badge.id = seasonRankBadgeID e.1.seasonID := by
      obtain rfl := Option.some.inj hbadge
      rfl
    rw [hid'] at hid ⊢
    refine ⟨_, badgeRefFromID_season hne hid, ?_⟩
    unfold badgeIDFromParts
    have hdiscord : badgeCodeSeasonRank ≠ badgeCodeDiscordMember := by decide
    have hteam : badgeCodeSeasonRank ≠ badgeCodeGeoDuelsTeam := by decide
    rw [if_neg hdiscord, if_neg hteam, if_pos ⟨rfl, by rwa [Persistence.trim_trim]⟩]
    unfold seasonRankBadgeID
    rw [Persistence.trim_trim]

/-! ## The badges of a player over time -/

/-- The player has the badge with this id. -/
def Table.Owns (toUpper : String → String) (badges : Table) (u : UserID) (id : String) : Prop :=
  ∃ badge ∈ badges.ownedBadges toUpper u, badge.id = id

theorem owns_iff : badges.Owns toUpper u id ↔
    ∃ (key : BadgeKey) (row : BadgeRow) (badge : PlayerBadge), badges.lookup key = some row ∧
      key.userID = u ∧ Entry.badge toUpper ⟨key, row⟩ = some badge ∧ badge.id = id := by
  unfold Table.Owns Table.ownedBadges Table.rowsOf
  constructor
  · rintro ⟨badge, hbadge, hid⟩
    obtain ⟨⟨key, row⟩, hrow, hbadge⟩ := List.mem_filterMap.1 hbadge
    obtain ⟨hrow, hu⟩ := List.mem_filter.1 ((List.mem_insertionSort _).1 hrow)
    exact ⟨key, row, badge, Assoc.mem_entries_iff.1 hrow, of_decide_eq_true hu, hbadge, hid⟩
  · rintro ⟨key, row, badge, hrow, hu, hbadge, hid⟩
    refine ⟨badge, List.mem_filterMap.2 ⟨⟨key, row⟩, ?_, hbadge⟩, hid⟩
    rw [List.mem_insertionSort, List.mem_filter]
    exact ⟨Assoc.mem_entries_iff.2 hrow, decide_eq_true hu⟩

/-- An award leaves the badges that are there. -/
theorem owns_award (h : badges.Owns toUpper u id) (now : ℕ) (key : BadgeKey) (rank : Option ℤ) :
    (badges.award now key rank).Owns toUpper u id := by
  unfold Table.award
  split_ifs with hkey
  · exact h
  · obtain ⟨k, row, badge, hrow, hrest⟩ := owns_iff.1 h
    refine owns_iff.2 ⟨k, row, badge, (AList.lookup_insert_ne ?_).trans hrow, hrest⟩
    rintro rfl
    exact hkey (Assoc.mem_iff_exists.2 ⟨row, hrow⟩)

/-- What is deleted is the badge of the team. -/
theorem owns_removeTeam (h : badges.Owns toUpper u id) (hid : id ≠ "geoduels-team") (userID : UserID) :
    Table.Owns toUpper (badges.filter fun k _ => ¬ (k.userID = userID ∧ k.code = badgeCodeGeoDuelsTeam)) u id := by
  obtain ⟨k, row, badge, hrow, hu, hbadge, rfl⟩ := owns_iff.1 h
  refine owns_iff.2 ⟨k, row, badge, ?_, hu, hbadge, rfl⟩
  rw [Assoc.lookup_filter, hrow, Option.filter_some, if_pos]
  refine decide_eq_true fun hteam => hid ?_
  unfold Entry.badge badgeFromParts at hbadge
  dsimp only at hbadge
  rw [hteam.2, if_neg (by decide), if_pos rfl] at hbadge
  obtain rfl := Option.some.inj hbadge
  rfl

/-- A badge that passes the check is owned, and the columns will name it. -/
theorem checkBadge_spec (h : badges.checkBadge toUpper userID badgeID = .ok (u, ref)) (hne : trim badgeID ≠ "") :
    badgeIDFromParts ref.code ref.seasonID = trim badgeID ∧ badges.Owns toUpper u (trim badgeID) := by
  unfold Table.checkBadge at h
  dsimp only at h
  split_ifs at h with huser howned
  have howned' : (badges.profileBadges toUpper (trim userID) (trim badgeID)).1.any
      (fun badge => badge.id = trim badgeID ∧ badge.owned = true) = true := by
    by_contra hnot
    exact howned ⟨hne, hnot⟩
  obtain ⟨badge, hmem, hbadge⟩ := List.any_eq_true.1 howned'
  obtain ⟨hid, howns⟩ := of_decide_eq_true hbadge
  have hin : badge ∈ badges.ownedBadges toUpper (trim userID) := by
    rcases List.mem_append.1 hmem with hmem | hmem
    · rcases List.mem_append.1 hmem with hmem | hmem
      · exact hmem
      · have htemplate := (List.mem_filter.1 hmem).1
        simp only [seasonRankBadgeTemplates, List.mem_cons, List.not_mem_nil, or_false] at htemplate
        rcases htemplate with rfl | rfl <;> cases howns
    · split_ifs at hmem
      · cases hmem
      · obtain rfl := List.mem_singleton.1 hmem
        cases howns
  obtain ⟨e, -, he⟩ := List.mem_filterMap.1 hin
  obtain ⟨ref', href, hparts⟩ := badgeIDFromParts_of_owned he (by rw [hid, Persistence.trim_trim])
  rw [hid] at href hparts
  rw [href] at h
  obtain ⟨rfl, rfl⟩ := Prod.mk.inj (Except.ok.inj h)
  exact ⟨hparts, badge, hin, hid⟩

/-! ## The runs -/

/-- The badge that the player has chosen last is shown; the badge of the team, as long as he has it. -/
def BadgeWorld.ShowsChosen (toUpper : String → String) (w : BadgeWorld) : Prop :=
  ∀ u id, w.chosen.lookup u = some id → (id = "geoduels-team" → w.badges.Owns toUpper u id) →
    ∃ badge ∈ w.badges.ownedBadges toUpper u, badge.id = id ∧ w.shownBadge toUpper u = some badge

structure BadgeInv (toUpper : String → String) (w : BadgeWorld) : Prop where
  chosen : ∀ u id, w.chosen.lookup u = some id → (id ≠ "geoduels-team" → w.badges.Owns toUpper u id) ∧
    ∃ ref, w.selected.lookup u = some ref ∧ badgeIDFromParts ref.code ref.seasonID = id
  requests : ∀ x r, w.requests.lookup x = some r → r.badgeID ≠ "" →
    (r.badgeID ≠ "geoduels-team" → w.badges.Owns toUpper r.userID r.badgeID) ∧
      badgeIDFromParts r.ref.code r.ref.seasonID = r.badgeID

namespace BadgeInv

/-- The badges change, and no choice is lost but the badge of the team. -/
theorem of_badges (h : BadgeInv toUpper w) (badges : Table)
    (howns : ∀ u id, id ≠ "geoduels-team" → w.badges.Owns toUpper u id → badges.Owns toUpper u id) :
    BadgeInv toUpper { w with badges := badges } where
  chosen := fun u id hid => ⟨fun hne => howns u id hne ((h.chosen u id hid).1 hne), (h.chosen u id hid).2⟩
  requests := fun x r hr hne =>
    ⟨fun hteam => howns _ _ hteam ((h.requests x r hr hne).1 hteam), (h.requests x r hr hne).2⟩

theorem clearTeam (h : BadgeInv toUpper w) (userID : UserID) : BadgeInv toUpper (w.clearTeam userID) := by
  unfold BadgeWorld.clearTeam
  split_ifs
  · refine ⟨fun u id hid => ?_, h.requests⟩
    obtain ⟨hne, hid⟩ := Assoc.of_lookup_erase hid
    obtain ⟨howns, ref, href, hparts⟩ := h.chosen u id hid
    exact ⟨howns, ref, (AList.lookup_insert_ne hne).trans href, hparts⟩
  · exact h

theorem select (h : BadgeInv toUpper w) {r : Request} (hx : w.requests.lookup x = some r) :
    BadgeInv toUpper (w.select r) := by
  refine ⟨fun u id hid => ?_, h.requests⟩
  unfold BadgeWorld.select at hid ⊢
  dsimp only at hid ⊢
  by_cases hu : u = r.userID
  · subst hu
    split_ifs at hid with hempty
    · exact absurd rfl (Assoc.of_lookup_erase hid).1
    · obtain rfl := Option.some.inj ((AList.lookup_insert _).symm.trans hid)
      obtain ⟨howns, hparts⟩ := h.requests x r hx hempty
      exact ⟨howns, r.ref, AList.lookup_insert _, hparts⟩
  · have hid' : w.chosen.lookup u = some id := by
      split_ifs at hid
      · exact (Assoc.of_lookup_erase hid).2
      · rwa [AList.lookup_insert_ne hu] at hid
    obtain ⟨howns, ref, href, hparts⟩ := h.chosen u id hid'
    exact ⟨howns, ref, (AList.lookup_insert_ne hu).trans href, hparts⟩

theorem dropRequest (h : BadgeInv toUpper w) (x : RequestID) :
    BadgeInv toUpper { w with requests := w.requests.erase x } :=
  ⟨h.chosen, fun y r hy => h.requests y r (Assoc.of_lookup_erase hy).2⟩

theorem step (h : BadgeInv toUpper w) (hs : w.step toUpper a = some w') : BadgeInv toUpper w' := by
  cases a with
  | award key rank =>
      obtain rfl := Option.some.inj hs
      exact h.of_badges _ fun u id _ howns => owns_award howns _ _ _
  | removeTeam userID =>
      obtain rfl := Option.some.inj hs
      have hbadges : (w.clearTeam userID).badges = w.badges := by
        unfold BadgeWorld.clearTeam
        split_ifs <;> rfl
      refine (h.clearTeam userID).of_badges _ fun u id hne howns => ?_
      rw [hbadges] at howns
      exact owns_removeTeam howns hne userID
  | check x userID badgeID =>
      simp only [BadgeWorld.step] at hs
      split at hs
      · rename_i user ref hnone hcheck
        obtain rfl := Option.some.inj hs
        refine ⟨h.chosen, fun y r hy hne => ?_⟩
        rcases Assoc.of_lookup_insert hy with ⟨-, rfl⟩ | ⟨-, hy⟩
        · obtain ⟨hparts, howns⟩ := checkBadge_spec hcheck hne
          exact ⟨fun _ => howns, hparts⟩
        · exact h.requests y r hy hne
      · cases hs
  | write x =>
      simp only [BadgeWorld.step] at hs
      split at hs
      · rename_i r hx
        obtain rfl := Option.some.inj hs
        exact (h.select hx).dropRequest x
      · cases hs
  | drop x =>
      simp only [BadgeWorld.step] at hs
      split at hs
      · obtain rfl := Option.some.inj hs
        exact h.dropRequest x
      · cases hs
  | wait d =>
      obtain rfl := Option.some.inj hs
      exact ⟨h.chosen, h.requests⟩

theorem showsChosen (h : BadgeInv toUpper w) : w.ShowsChosen toUpper := by
  intro u id hid hteam
  obtain ⟨howns, ref, href, hparts⟩ := h.chosen u id hid
  obtain ⟨badge, hbadge, hbadgeID⟩ : w.badges.Owns toUpper u id := by
    by_cases hne : id = "geoduels-team"
    · exact hteam hne
    · exact howns hne
  unfold BadgeWorld.shownBadge
  rw [href, Option.getD_some]
  dsimp only
  rw [hparts, profileBadges_snd]
  cases hfind : (w.badges.ownedBadges toUpper u).find? fun badge => badge.id = id with
  | none => exact absurd hbadgeID (by simpa using List.find?_eq_none.1 hfind badge hbadge)
  | some shown =>
      exact ⟨shown, List.mem_of_find?_eq_some hfind, by simpa using List.find?_some hfind, rfl⟩

end BadgeInv

/-- In every run of awards, removals and overlapping `UpdateSelectedBadge` calls, the profile of a player
shows the badge that he has chosen last. -/
theorem shows_chosen (toUpper : String → String) (badges : Table) (selected : Assoc UserID BadgeRef)
    (acts : List BadgeAct) :
    Run.Always (BadgeWorld.step toUpper) (BadgeWorld.ShowsChosen toUpper)
      { badges := badges, selected := selected } acts := by
  have hstart : BadgeInv toUpper { badges := badges, selected := selected } := by
    constructor
    · intro u id hid
      cases hid
    · intro x r hx
      cases hx
  exact (Run.always_of_invariant (fun _ _ _ h _ hs => h.step hs) hstart
    (Run.guarded_true _ _)).mono fun _ h => h.showsChosen

end GeoDuels.Badges
