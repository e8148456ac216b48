import GeoDuels.MatchCoordinator.Places

/-!
# Stored matches

The matches under the match keys, of all pools and rulesets.  Every command of the queue removes them
at most (`Fewer`), but for the result pipeline of a pass, which stores the match that it records.
-/

namespace GeoDuels.MatchCoordinator

open MatchStore (QueuePool Proc allQueuePools allQueueRulesets)

theorem mem_stored {s : MatchStore.Store} {m : MatchFound} :
    m ∈ stored s ↔ ∃ pool, ∃ r ∈ allQueueRulesets, ∃ u, (s.queue pool r).matched.lookup u = some m := by
  unfold stored
  rw [List.mem_flatMap]
  constructor
  · rintro ⟨⟨pool, r⟩, hc, hm⟩
    obtain ⟨e, he, rfl⟩ := List.mem_map.1 hm
    exact ⟨pool, r, (List.pair_mem_product.1 hc).2, e.1, Assoc.mem_entries_iff.1 he⟩
  · rintro ⟨pool, r, hr, u, hm⟩
    have hpool : pool ∈ allQueuePools := by cases pool <;> decide
    exact ⟨(pool, r), List.pair_mem_product.2 ⟨hpool, hr⟩,
      List.mem_map.2 ⟨⟨u, m⟩, Assoc.mem_entries_iff.2 hm, rfl⟩⟩

theorem stored_update {s : MatchStore.Store} {pool : QueuePool} {r : GameRuleset}
    {f : MatchStore.Queue → MatchStore.Queue} {P : MatchFound → Prop}
    (h : ∀ u m, (f (s.queue pool r)).matched.lookup u = some m →
      (s.queue pool r).matched.lookup u = some m ∨ P m) {m : MatchFound}
    (hm : m ∈ stored (s.update pool r f)) : m ∈ stored s ∨ P m := by
  obtain ⟨pool', r', hr', u, hu⟩ := mem_stored.1 hm
  rw [MatchStore.Store.queue_update] at hu
  split_ifs at hu with heq
  · obtain ⟨rfl, hr⟩ := heq
    have hq : s.queue pool' r' = s.queue pool' r := congrArg (s.queues pool') hr
    rw [hq] at hu
    exact (h u m hu).imp_left fun hold => mem_stored.2 ⟨pool', r', hr', u, by rwa [hq]⟩
  · exact .inl (mem_stored.2 ⟨pool', r', hr', u, hu⟩)

/-- Every match that is stored now was stored before. -/
def Fewer (s s' : MatchStore.Store) : Prop := ∀ m ∈ stored s', m ∈ stored s

theorem Fewer.refl (s : MatchStore.Store) : Fewer s s := fun _ h => h

theorem Fewer.trans {s s' s'' : MatchStore.Store} (h : Fewer s s') (h' : Fewer s' s'') : Fewer s s'' :=
  fun m hm => h m (h' m hm)

theorem fewer_update {s : MatchStore.Store} {pool : QueuePool} {r : GameRuleset}
    {f : MatchStore.Queue → MatchStore.Queue}
    (h : ∀ u m, (f (s.queue pool r)).matched.lookup u = some m →
      (s.queue pool r).matched.lookup u = some m) : Fewer s (s.update pool r f) :=
  fun _ hm => (stored_update (P := fun _ => False) (fun u m hu => .inl (h u m hu)) hm).elim id
    False.elim

theorem fewer_foldl {α : Type} {f : MatchStore.Store → α → MatchStore.Store}
    (h : ∀ s a, Fewer s (f s a)) (as : List α) (s : MatchStore.Store) : Fewer s (as.foldl f s) := by
  induction as generalizing s with
  | nil => exact .refl s
  | cons a as ih => exact (h s a).trans (ih _)

theorem fewer_leave (s : MatchStore.Store) (pool : QueuePool) (rulesets : List GameRuleset)
    (u : UserID) : Fewer s (s.leave pool rulesets u) := by
  unfold MatchStore.Store.leave
  apply fewer_foldl
  intro s r
  apply fewer_update
  exact fun _ _ => MatchStore.Queue.lookup_of_lookup_erase

theorem fewer_join (s : MatchStore.Store) (pool : QueuePool) (r : GameRuleset)
    (req : MatchStore.QueueJoinRequest) (now : ℤ) : Fewer s (s.join pool r req now).2 := by
  have hleave : ∀ (s : MatchStore.Store) (c : QueuePool × GameRuleset),
      Fewer s (s.update c.1 c.2 (·.leave req.userID)) := fun s c =>
    fewer_update fun _ _ => MatchStore.Queue.lookup_of_lookup_erase
  unfold MatchStore.Store.join
  dsimp only
  refine (fewer_foldl hleave ((allQueuePools.filter (· ≠ pool)) ×ˢ allQueueRulesets) s).trans ?_
  apply fewer_update
  exact fun _ _ h => h

theorem fewer_clearQueuedMatch (s : MatchStore.Store) (players : List UserID) :
    Fewer s (clearQueuedMatch s players) := by
  unfold clearQueuedMatch
  apply fewer_foldl
  intro s c
  apply fewer_update
  exact fun _ _ => MatchStore.Queue.lookup_of_lookup_erase

theorem fewer_heartbeat (s : MatchStore.Store) (pool : QueuePool) (r : GameRuleset) (u : UserID) :
    Fewer s (s.update pool r fun _ => ((s.queue pool r).heartbeat u).2) := by
  apply fewer_update
  intro v m hm
  rwa [← ((s.queue pool r).heartbeat_shrinks u).matched]

theorem fewer_getDelMatch (s : MatchStore.Store) (pool : QueuePool) (r : GameRuleset) (u : UserID) :
    Fewer s (s.update pool r fun _ => ((s.queue pool r).getDelMatch u).2) := by
  apply fewer_update
  exact fun _ _ => MatchStore.Queue.lookup_of_lookup_erase

theorem mem_stored_of_getDelMatch {s : MatchStore.Store} {pool : QueuePool} {r : GameRuleset}
    {u : UserID} {m : MatchFound} (h : ((s.queue pool r).getDelMatch u).1 = some m) :
    m ∈ stored s := by
  have hq : s.queue pool (normalizeRuleset r) = s.queue pool r :=
    congrArg (s.queues pool) (MatchStore.normalizeRuleset_normalizeRuleset r)
  exact mem_stored.2 ⟨pool, normalizeRuleset r, MatchStore.normalizeRuleset_mem r, u, by rw [hq]; exact h⟩

/-! ## Passes -/

theorem takes_loop (r : GameRuleset) (limit : ℤ) (owner : String) (n : ℕ) (users : List UserID) :
    takes (.pass r limit owner (.loop limit n users)) = [] := by
  unfold MatchStore.PassAt.loop
  cases users with
  | nil => rfl
  | cons u users =>
      dsimp only
      split_ifs <;> rfl

theorem takes_of_made {p : Proc} {now : ℤ} {m : MatchFound} (h : made now p = some m) :
    m.players = takes p := by
  unfold made at h
  split at h
  · obtain rfl := Option.some.inj h
    rfl
  · cases h

theorem stored_recordMatch {s : MatchStore.Store} {pool : QueuePool} {r : GameRuleset}
    {u v : UserID} {m m' : MatchFound} (h : m' ∈ stored (s.recordMatch pool r u v m)) :
    m' ∈ stored s ∨ m' = m := by
  have hclear : ∀ (s : MatchStore.Store) (c : GameRuleset × UserID),
      Fewer s (s.update pool c.1 (·.clearMatched (c.1 ≠ r) c.2)) := by
    intro s c
    apply fewer_update
    intro w x hx
    unfold MatchStore.Queue.clearMatched at hx
    split_ifs at hx
    · exact MatchStore.Queue.lookup_of_lookup_erase hx
    · exact hx
  unfold MatchStore.Store.recordMatch at h
  refine stored_update (P := (· = m)) (fun w x hx => ?_) (fewer_foldl hclear _ _ m' h)
  dsimp only at hx
  rw [Assoc.lookup_insert, Assoc.lookup_insert] at hx
  split_ifs at hx
  · exact .inr (Option.some.inj hx).symm
  · exact .inr (Option.some.inj hx).symm
  · exact .inl hx

/-- A pass stores no match but with its result pipeline. -/
theorem stored_runPass {s : MatchStore.Store} {pool : QueuePool} {r : GameRuleset} {limit : ℤ}
    {owner : String} {now : ℤ} {at_ : MatchStore.PassAt} {m : MatchFound}
    (hm : m ∈ stored (MatchStore.runPass pool s r limit owner now at_).2) :
    m ∈ stored s ∨ made now (.pass r limit owner at_) = some m := by
  have hkeep : ∀ f : MatchStore.Queue → MatchStore.Queue,
      (f (s.queue pool r)).matched = (s.queue pool r).matched → Fewer s (s.update pool r f) :=
    fun f hf => fewer_update fun u m hu => by rwa [hf] at hu
  cases at_ with
  | record u self opponent users n =>
      exact (stored_recordMatch hm).imp_right fun h => congrArg some h.symm
  | list => exact .inl hm
  | lock =>
      unfold MatchStore.runPass at hm
      dsimp only at hm
      split at hm
      · exact .inl hm
      · dsimp only at hm
        exact .inl (hkeep _ (by exact rfl) m hm)
  | get u users n =>
      unfold MatchStore.runPass at hm
      dsimp only at hm
      split at hm <;> exact .inl hm
  | dropPool u users n | dropJoined u users n =>
      unfold MatchStore.runPass at hm
      dsimp only at hm
      exact .inl (hkeep _ (by exact rfl) m hm)
  | script u self users n =>
      have hmatched := ((s.queue pool r).atomicMatch_spec u self.mmr now).1.matched
      refine .inl (hkeep (fun _ => ((s.queue pool r).atomicMatch u self.mmr now).2) hmatched m ?_)
      unfold MatchStore.runPass at hm
      dsimp only at hm
      split at hm
      · exact hm
      · split_ifs at hm <;> exact hm
  | release n =>
      unfold MatchStore.runPass at hm
      dsimp only at hm
      refine .inl (hkeep _ ?_ m hm)
      split_ifs <;> rfl

/-- A command of a call stores no match but the one that it records. -/
theorem stored_run {s : MatchStore.Store} {pool : QueuePool} {p : Proc} {now : ℤ} {m : MatchFound}
    (hm : m ∈ stored (p.run pool s now).2) : m ∈ stored s ∨ made now p = some m := by
  cases p with
  | heartbeat u rulesets any =>
      refine .inl ?_
      cases rulesets with
      | nil => exact hm
      | cons r rulesets =>
          apply fewer_heartbeat s pool r u
          unfold Proc.run at hm
          dsimp only at hm
          split at hm <;> exact hm
  | poll u rulesets =>
      refine .inl ?_
      cases rulesets with
      | nil => exact hm
      | cons r rulesets =>
          apply fewer_getDelMatch s pool r u
          unfold Proc.run at hm
          dsimp only at hm
          split at hm <;> exact hm
  | pass r limit owner at_ => exact stored_runPass hm

theorem playable_of_made {p : Proc} {now : ℤ} {m : MatchFound} (h : made now p = some m) :
    Playable m := by
  unfold made at h
  split at h
  · obtain rfl := Option.some.inj h
    refine ⟨fun hid => ?_, rfl, fun hnil => by cases hnil⟩
    have hchars := congrArg String.toList hid
    simp [MatchStore.matchFromTickets] at hchars
  · cases h

/-- A pass that has recorded its match has taken nobody. -/
theorem takes_run {p : Proc} {now : ℤ} {m : MatchFound} (h : made now p = some m) (s : MatchStore.Store)
    (pool : QueuePool) {q : Proc} (hq : (p.run pool s now).1 = .inl q) : takes q = [] := by
  unfold made at h
  split at h
  · obtain rfl := Sum.inl.inj hq
    exact takes_loop ..
  · cases h

end GeoDuels.MatchCoordinator
