import GeoDuels.GameplayNode.Lifecycle

/-!
# How the matches of a node move

Calls and ticks leave the maps and the registry of a node alone, add no match and lose none, and
move each match on its own (`Node.Plays`).
-/

namespace GeoDuels.GameplayNode

variable {F : FloatMath}

theorem Runtime.call_mode (r : Runtime) (c : Call) : (r.call F c).2.mode = r.mode := by
  cases r <;> cases c <;> rfl

theorem Runtime.tick_mode (r : Runtime) (clk : TickClock MatchID) (provider : Duel.RoundProvider) :
    (r.tick F clk provider).2.mode = r.mode := by
  cases r <;> rfl

theorem Runtime.createMatch_mode {r r' : Runtime} {clk : Clock} {provider : Duel.RoundProvider}
    {found : MatchFound} (h : r.createMatch F clk provider found = .ok r') : r'.mode = r.mode := by
  cases r with
  | duel mode e =>
      obtain ⟨res, -, rfl⟩ := map_eq_ok h
      rfl
  | singleplayer e =>
      obtain ⟨res, -, rfl⟩ := map_eq_ok h
      rfl

namespace Node

/-- The node has gone on playing its matches. -/
structure Plays (n n' : Node) : Prop where
  configs_eq : n'.configs = n.configs
  users_eq : n'.matchUsers = n.matchUsers
  modes_eq : n'.matchModes = n.matchModes
  runtimes : ∀ mode r', n'.runtimes.lookup mode = some r' →
    ∃ r, n.runtimes.lookup mode = some r ∧ r'.mode = r.mode
  games : ∀ mode id, Option.Rel Game.Moves (n.find mode id) (n'.find mode id)

theorem find_insert (n : Node) (mode mode' : MatchMode) (r : Runtime) (id : MatchID) :
    ({ n with runtimes := n.runtimes.insert mode r } : Node).find mode' id =
      if mode' = mode then r.find id else n.find mode' id := by
  simp only [find, Assoc.lookup_insert]
  split_ifs <;> rfl

theorem Plays.refl (n : Node) : n.Plays n := by
  refine ⟨rfl, rfl, rfl, fun mode r hr => ⟨r, hr, rfl⟩, fun mode id => ?_⟩
  cases n.find mode id with
  | none => exact .none
  | some g => exact .some (.refl g)

theorem Plays.left {n n' : Node} (h : n.Plays n') {mode : MatchMode} {id : MatchID} {g : Game}
    (hg : n.find mode id = some g) : ∃ g', n'.find mode id = some g' ∧ g.Moves g' := by
  have hrel := h.games mode id
  rw [hg] at hrel
  cases hg' : n'.find mode id with
  | none => rw [hg'] at hrel; cases hrel
  | some g' => rw [hg'] at hrel; exact ⟨g', rfl, Option.rel_some_some.1 hrel⟩

theorem Plays.isSome {n n' : Node} (h : n.Plays n') (mode : MatchMode) (id : MatchID) :
    (n'.find mode id).isSome = (n.find mode id).isSome := by
  have hrel := h.games mode id
  cases hg : n.find mode id <;> cases hg' : n'.find mode id <;> rw [hg, hg'] at hrel <;>
    first | rfl | cases hrel

/-- A runtime in which every match moves. -/
theorem plays_insert {n : Node} {mode : MatchMode} {r r' : Runtime}
    (hr : n.runtimes.lookup mode = some r) (hmode : r'.mode = r.mode)
    (hmoves : ∀ id, Option.Rel Game.Moves (r.find id) (r'.find id)) :
    n.Plays { n with runtimes := n.runtimes.insert mode r' } := by
  refine ⟨rfl, rfl, rfl, fun mode' r₁ hr₁ => ?_, fun mode' id => ?_⟩
  · dsimp only at hr₁
    rw [Assoc.lookup_insert] at hr₁
    split_ifs at hr₁ with heq
    · cases hr₁
      exact ⟨r, heq ▸ hr, hmode⟩
    · exact ⟨r₁, hr₁, rfl⟩
  rw [find_insert]
  split_ifs with heq
  · subst heq
    simpa only [find, hr, Option.bind_some] using hmoves id
  · exact (Plays.refl n).games mode' id

theorem call_plays (n : Node) (c : Call) : n.Plays (n.call F c).2 := by
  unfold call
  cases hr : n.runtimeForMatch c.matchID with
  | none => exact .refl n
  | some r =>
      refine plays_insert hr (Runtime.call_mode r c) fun id => ?_
      rw [Runtime.find_call]
      cases r.find id with
      | none => exact .none
      | some g =>
          rw [Option.map_some]
          split_ifs
          · exact .some (g.moves_after c)
          · exact .some (.refl g)

theorem tick_plays {n : Node} {mode : MatchMode} {r : Runtime}
    (hr : n.runtimes.lookup mode = some r) (clk : TickClock MatchID)
    (provider : Duel.RoundProvider) :
    n.Plays { n with runtimes := n.runtimes.insert mode (r.tick F clk provider).2 } := by
  refine plays_insert hr (Runtime.tick_mode r clk provider) fun id => ?_
  rw [Runtime.find_tick]
  cases r.find id with
  | none => exact .none
  | some g => exact .some (g.moves_tick clk provider id)

/-- A successful call answers with a snapshot of the match that its runtime now has. -/
theorem snapshot_of_call {n : Node} {c : Call} {snap : MatchSnapshot}
    (h : (n.call F c).1 = some (.ok snap)) :
    ∃ g clk, (n.call F c).2.find (n.modeOf c.matchID) c.matchID = some g ∧
      snap = g.snapshot clk := by
  unfold call at h ⊢
  cases hr : n.runtimeForMatch c.matchID with
  | none => rw [hr] at h; cases h
  | some r =>
      rw [hr] at h
      dsimp only at h ⊢
      obtain ⟨_, g', clk, -, -, hg', hsnap⟩ := Runtime.snapshot_of_call (Option.some.inj h)
      rw [find_insert, if_pos rfl]
      exact ⟨g', clk, hg', hsnap⟩

/-- A creation adds its match to the runtime of its mode. -/
theorem find_create {n : Node} {mode : MatchMode} {r r' : Runtime}
    (hr : n.runtimes.lookup mode = some r) {clk : Clock} {provider : Duel.RoundProvider}
    {found : MatchFound} (hc : r.createMatch F clk provider found = .ok r') :
    n.find mode found.matchID = none ∧ ∃ g, g.state = .live ∧ g.mode = r.mode ∧
      ∀ mode' id, ({ n with runtimes := n.runtimes.insert mode r' } : Node).find mode' id =
        if mode' = mode ∧ id = found.matchID then some g else n.find mode' id := by
  obtain ⟨hnone, g, -, hlive, hmode, hfind⟩ := Runtime.find_create hc
  refine ⟨by rw [find, hr]; exact hnone, g, hlive, hmode, fun mode' id => ?_⟩
  rw [find_insert]
  by_cases hm : mode' = mode
  · subst hm
    simp only [if_true, hfind, true_and]
    split_ifs
    · rfl
    · rw [find, hr]
      rfl
  · rw [if_neg hm, if_neg fun h => hm h.1]

/-- The match of the mode has ended. -/
def Ended (mode : MatchMode) (id : MatchID) (n : Node) : Prop :=
  ∃ g, n.find mode id = some g ∧ g.state = .ended

theorem Plays.ended {n n' : Node} (h : n.Plays n') {mode : MatchMode} {id : MatchID}
    (he : n.Ended mode id) : n'.Ended mode id := by
  obtain ⟨g, hg, hended⟩ := he
  obtain ⟨g', hg', hmoves⟩ := h.left hg
  exact ⟨g', hg', (hmoves.kept hended).ended⟩

end Node

/-! ## What a caller of `terminalize` has seen -/

/-- The operation plays matches. -/
def Op.IsPlay : Op → Prop
  | .command .. | .mark .. | .tick .. | .visit .. | .terminate .. => True
  | _ => False

namespace World

/-- The operations that play matches and may find one ended. -/
inductive Played (w : World) : World → Prop
  | quiet {n : Node} {changed : List MatchID} (plays : w.node.Plays n) :
      Played w { w with node := n, changed := changed }
  | calls {n : Node} {changed : List MatchID} (k : String) (mode : MatchMode) (id : MatchID)
      (g : Game) (clk : Clock) (plays : w.node.Plays n) (fresh : k ∉ w.ends)
      (find : n.find mode id = some g) (ended : g.state = .ended) :
      Played w
        { w with
          node := n
          changed := changed
          ends := w.ends.insert k { matchID := id, snap := g.snapshot clk } }

theorem played_terminalize {w : World} {n : Node} (changed : List MatchID)
    (hplays : w.node.Plays n) {k : String} (hk : k ∉ w.ends) {mode : MatchMode} {id : MatchID}
    {g : Game} {clk : Clock} (hg : n.find mode id = some g) :
    w.Played (terminalize k id (g.snapshot clk) { w with node := n, changed := changed }) := by
  unfold terminalize
  split_ifs with hended
  · exact .calls k mode id g clk hplays hk hg (by simpa using hended)
  · exact .quiet hplays

theorem played_command {w : World} {k : String} (hk : k ∉ w.ends) (c : Call) :
    w.Played (w.command F k c) := by
  have hplays := Node.call_plays (F := F) w.node c
  unfold command
  dsimp only
  split
  · next snap hans =>
      obtain ⟨g, clk, hg, rfl⟩ := Node.snapshot_of_call hans
      exact played_terminalize w.changed hplays hk hg
  · exact .quiet hplays

theorem played_visit {w : World} {k : String} (hk : k ∉ w.ends) (clk : Clock) (id : MatchID) :
    w.Played (w.visit clk k id) := by
  have hrefl := Node.Plays.refl w.node
  unfold visit
  dsimp only
  split
  · exact .quiet hrefl
  · next r hr =>
      rw [Runtime.getSnapshot_eq]
      cases hg : r.find id with
      | none => exact .quiet hrefl
      | some g =>
          have hr' : w.node.runtimes.lookup (w.node.modeOf id) = some r := hr
          have hfind : w.node.find (w.node.modeOf id) id = some g := by rw [Node.find, hr']; exact hg
          exact played_terminalize _ hrefl hk hfind

theorem played_tick (w : World) (clk : TickClock MatchID) (provider : Duel.RoundProvider)
    (mode : MatchMode) : w.Played (w.tick F clk provider mode) := by
  unfold tick
  cases hr : w.node.runtimes.lookup mode with
  | none => exact .quiet (.refl _)
  | some r => exact .quiet (Node.tick_plays hr clk provider)

theorem played_terminate {w : World} {k : String} (hk : k ∉ w.ends) (clk : Clock)
    (order : List MatchMode) (id : MatchID) (u : UserID) :
    w.Played (w.terminate F clk order k id u) := by
  unfold terminate
  split
  · exact .quiet (.refl _)
  · split_ifs
    · exact .quiet (.refl _)
    · exact played_command hk _

theorem played_step {w w' : World} {op : Op} (hop : op.IsPlay) (hw : w.step F op = some w') :
    w.Played w' := by
  cases op with
  | command k c =>
      simp only [step] at hw
      split_ifs at hw with h
      cases hw
      exact played_command h.1 c
  | mark c =>
      simp only [step] at hw
      split_ifs at hw
      cases hw
      exact .quiet (Node.call_plays _ c)
  | tick clk provider mode =>
      cases hw
      exact played_tick w clk provider mode
  | visit clk k id =>
      simp only [step] at hw
      split_ifs at hw with h
      cases hw
      exact played_visit h.1 clk id
  | terminate clk order k id u =>
      simp only [step] at hw
      split_ifs at hw with h
      cases hw
      exact played_terminate h clk order id u
  | createMatch | configure | engineCreate | recordLive | register | enter | recordResult
  | recordEnded => exact hop.elim

end World

end GeoDuels.GameplayNode
