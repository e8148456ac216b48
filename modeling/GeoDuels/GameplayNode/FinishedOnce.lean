import GeoDuels.GameplayNode.Wired

/-!
# A match is finished once

`FinishedOnce` says that the result of a match is recorded at most once, that the recorded snapshot
is the final one, and that a match recorded as ended is neither recorded as live nor registered
again.  `terminalize` lets one caller per registration through, so all depends on the creations: one
that is on its way while the match ends registers it again (`Clean` excludes it).
-/

namespace GeoDuels.GameplayNode

variable {F : FloatMath}

/-! ## The property -/

/-- The event records a result of the match. -/
def Event.records (matchID : MatchID) : Event → Bool
  | .recordMatchResult id _ => id = matchID
  | _ => false

/-- The event records the match as live or registers it. -/
def Event.revives (matchID : MatchID) : Event → Bool
  | .recordRuntimeMatch id .live | .register id => id = matchID
  | _ => false

/-- The later event must not follow the earlier one. -/
def Event.Undoes (later : Event) : Event → Prop
  | .recordMatchResult id _ => later.records id
  | .recordRuntimeMatch id .ended => later.revives id
  | _ => False

instance (later : Event) : DecidablePred later.Undoes
  | .recordMatchResult id _ => inferInstanceAs (Decidable (later.records id = true))
  | .recordRuntimeMatch id .ended => inferInstanceAs (Decidable (later.revives id = true))
  | .recordRuntimeMatch _ .live | .recordRuntimeMatch _ .waiting | .created _ | .answered ..
  | .register _ | .unregister _ => .isFalse id

/-- The snapshot has the results and the scores of the duel as the engine has it. -/
def Node.Final (matchID : MatchID) (snap : MatchSnapshot) (n : Node) : Prop :=
  ∃ g, n.find .duel matchID = some g ∧ g.state = .ended ∧ g.roundResults = snap.roundResults ∧
    Assoc.Pointwise (fun _ => SameScores) snap.players g.players

structure FinishedOnce (w : World) : Prop where
  once : w.log.Pairwise fun later earlier => ¬ later.Undoes earlier
  final : ∀ matchID snap, .recordMatchResult matchID snap ∈ w.log →
    snap.state = .ended ∧ w.node.Final matchID snap

/-! ## The condition -/

def Event.isUnregister (matchID : MatchID) : Event → Bool
  | .unregister id => id = matchID
  | _ => false

/-- `terminalize` has taken the match out of the maps. -/
def World.Closed (w : World) (matchID : MatchID) : Prop := ∃ e ∈ w.log, e.isUnregister matchID

/-- No creation of a match meets its end: a request that comes after `terminalize` has taken the
match finds it in the engine of its mode, and `terminalize` takes a match while no creation of it is
on its way. -/
def Clean (w : World) : Op → Prop
  | .createMatch _ _ _ found =>
      w.Closed found.matchID → (w.node.find (requestMode found) found.matchID).isSome
  | .enter k =>
      ∀ e ∈ w.ends.lookup k, ∀ q r, w.creates.lookup q = some r → r.found.matchID ≠ e.matchID
  | _ => True

instance (w : World) : DecidablePred (Clean w)
  | .createMatch _ _ _ found =>
      inferInstanceAs (Decidable ((∃ e ∈ w.log, e.isUnregister found.matchID) →
        (w.node.find (requestMode found) found.matchID).isSome))
  | .enter k =>
      inferInstanceAs (Decidable (∀ e ∈ w.ends.lookup k, ∀ q r, w.creates.lookup q = some r →
        r.found.matchID ≠ e.matchID))
  | .configure .. | .engineCreate .. | .recordLive .. | .register .. | .command .. | .mark ..
  | .tick .. | .visit .. | .terminate .. | .recordResult .. | .recordEnded .. => .isTrue trivial

theorem closed_iff {w : World} {id : MatchID} : w.Closed id ↔ .unregister id ∈ w.log := by
  constructor
  · rintro ⟨e, he, hid⟩
    cases e with
    | unregister id' =>
        obtain rfl : id' = id := by simpa [Event.isUnregister] using hid
        exact he
    | _ => cases hid
  · exact fun he => ⟨_, he, by simp [Event.isUnregister]⟩

/-! ## The invariant -/

/-- Every match moves on, and new ones may be there. -/
def Node.Extends (n n' : Node) : Prop :=
  ∀ mode id g, n.find mode id = some g → ∃ g', n'.find mode id = some g' ∧ g.Moves g'

/-- Every runtime is stored under its mode and has matches of this mode. -/
structure Node.Moded (n : Node) : Prop where
  runtimes : ∀ mode r, n.runtimes.lookup mode = some r → r.mode = mode
  games : ∀ mode id g, n.find mode id = some g → g.mode = mode

theorem Node.Plays.extends {n n' : Node} (h : n.Plays n') : n.Extends n' :=
  fun _ _ _ hg => h.left hg

theorem Node.Extends.refl {n n' : Node} (h : n'.runtimes = n.runtimes) : n.Extends n' := by
  intro mode id g hg
  exact ⟨g, by rw [Node.find, h]; exact hg, .refl g⟩

theorem SameScores.trans {p p' p'' : PlayerState} (h : SameScores p p') (h' : SameScores p' p'') :
    SameScores p p'' := ⟨h'.1.trans h.1, h'.2.trans h.2⟩

theorem Node.Final.extends {n n' : Node} (h : n.Extends n') {id : MatchID} {snap : MatchSnapshot}
    (hf : n.Final id snap) : n'.Final id snap := by
  obtain ⟨g, hg, hended, hresults, hplayers⟩ := hf
  obtain ⟨g', hg', hmoves⟩ := h _ _ _ hg
  have hkept := hmoves.kept hended
  exact ⟨g', hg', hkept.ended, hkept.results.trans hresults,
    hplayers.trans hkept.players fun _ _ _ _ => SameScores.trans⟩

structure FinishedInv (w : World) : Prop extends FinishedOnce w where
  moded : w.node.Moded
  unregistered : ∀ id, w.Closed id → id ∉ w.node.matchUsers
  uncreated : ∀ id, w.Closed id → ∀ q r, w.creates.lookup q = some r → r.found.matchID ≠ id
  ended : ∀ k e, w.ends.lookup k = some e →
    e.snap.state = .ended ∧ (e.snap.mode = .duel → w.node.Final e.matchID e.snap)
  past : ∀ k e, w.ends.lookup k = some e → e.place ≠ .called → w.Closed e.matchID
  apart : ∀ k k' e e', w.ends.lookup k = some e → w.ends.lookup k' = some e' →
    e.place ≠ .called → e'.place ≠ .called → e.matchID = e'.matchID → k = k'
  unrecorded : ∀ k e snap, w.ends.lookup k = some e → e.place = .removed →
    .recordMatchResult e.matchID snap ∉ w.log
  recorded : ∀ id snap, .recordMatchResult id snap ∈ w.log → w.Closed id
  closed_of_ended : ∀ id, .recordRuntimeMatch id .ended ∈ w.log → w.Closed id

/-- An event that neither ends a match nor follows an end. -/
def Event.Harmless (w : World) : Event → Prop
  | .unregister _ | .recordMatchResult .. | .recordRuntimeMatch _ .ended => False
  | .recordRuntimeMatch id _ | .register id => ¬ w.Closed id
  | .created _ | .answered .. => True

theorem Event.Harmless.not_undoes {w : World} (h : FinishedInv w) {e e' : Event}
    (he : e.Harmless w) (he' : e' ∈ w.log) : ¬ e.Undoes e' := by
  intro hundoes
  cases e' with
  | recordMatchResult id snap =>
      cases e with
      | recordMatchResult => exact he
      | _ => cases hundoes
  | recordRuntimeMatch id state =>
      cases state with
      | ended =>
          have hrevives : e.revives id := hundoes
          cases e with
          | register id' =>
              obtain rfl : id' = id := by simpa [Event.revives] using hrevives
              exact he (h.closed_of_ended _ he')
          | recordRuntimeMatch id' state' =>
              cases state' with
              | live =>
                  obtain rfl : id' = id := by simpa [Event.revives] using hrevives
                  exact he (h.closed_of_ended _ he')
              | _ => cases hrevives
          | _ => cases hrevives
      | _ => exact hundoes
  | _ => exact hundoes

theorem Event.Harmless.not_undone {w : World} {e e' : Event} (he' : e'.Harmless w) :
    ¬ e.Undoes e' := by
  intro hundoes
  cases e' with
  | recordMatchResult id snap => exact he'
  | recordRuntimeMatch id state =>
      cases state with
      | ended => exact he'
      | _ => exact hundoes
  | _ => exact hundoes

/-- A step that ends no match. -/
theorem FinishedInv.frame {w w' : World} (h : FinishedInv w) (new : List Event)
    (hlog : w'.log = new ++ w.log) (hnew : ∀ e ∈ new, e.Harmless w)
    (hgames : w.node.Extends w'.node) (hmoded : w'.node.Moded)
    (husers : ∀ id ∈ w'.node.matchUsers, ¬ w.Closed id)
    (hcreates : ∀ q r, w'.creates.lookup q = some r → ¬ w.Closed r.found.matchID)
    (hends : ∀ k e, w'.ends.lookup k = some e → w.ends.lookup k = some e ∨ e.place = .called ∧
      e.snap.state = .ended ∧ (e.snap.mode = .duel → w'.node.Final e.matchID e.snap)) :
    FinishedInv w' := by
  have hold : ∀ e ∈ w'.log, ¬ e.Harmless w → e ∈ w.log := by
    intro e he hbad
    rw [hlog, List.mem_append] at he
    obtain he | he := he
    · exact absurd (hnew e he) hbad
    · exact he
  have hclosed : ∀ id, w'.Closed id ↔ w.Closed id := by
    intro id
    rw [closed_iff, closed_iff]
    constructor
    · exact fun he => hold _ he fun hbad => hbad
    · exact fun he => by rw [hlog]; exact List.mem_append_right _ he
  have hcalled : ∀ k e, w'.ends.lookup k = some e → e.place ≠ .called →
      w.ends.lookup k = some e := by
    intro k e hk hplace
    obtain hk | ⟨hcalled, -⟩ := hends k e hk
    · exact hk
    · exact absurd hcalled hplace
  refine
    { once := ?_
      final := fun id snap he => ?_
      moded := hmoded
      unregistered := fun id hc hid => husers id hid ((hclosed id).1 hc)
      uncreated := fun id hc q r hq hid => hcreates q r hq (hid ▸ (hclosed id).1 hc)
      ended := fun k e hk => ?_
      past := fun k e hk hplace => (hclosed _).2 (h.past k e (hcalled k e hk hplace) hplace)
      apart := fun k k' e e' hk hk' hp hp' => h.apart k k' e e' (hcalled k e hk hp)
        (hcalled k' e' hk' hp') hp hp'
      unrecorded := fun k e snap hk hplace he => ?_
      recorded := fun id snap he => (hclosed id).2 (h.recorded id snap (hold _ he fun hbad => hbad))
      closed_of_ended := fun id he => (hclosed id).2 (h.closed_of_ended id (hold _ he fun hbad => hbad)) }
  · rw [hlog, List.pairwise_append]
    refine ⟨List.pairwise_of_forall_mem_list fun e _ e' he' => (hnew e' he').not_undone, h.once,
      fun e he e' he' => (hnew e he).not_undoes h he'⟩
  · obtain ⟨hended, hfinal⟩ := h.final id snap (hold _ he fun hbad => hbad)
    exact ⟨hended, hfinal.extends hgames⟩
  · obtain hk | ⟨-, hevidence⟩ := hends k e hk
    · obtain ⟨hended, hfinal⟩ := h.ended k e hk
      exact ⟨hended, fun hmode => (hfinal hmode).extends hgames⟩
    · exact hevidence
  · have hne : e.place ≠ .called := by rw [hplace]; decide
    exact h.unrecorded k e snap (hcalled k e hk hne) hplace (hold _ he fun hbad => hbad)

theorem finishedInv_init : FinishedInv World.init := by
  have hlog : ∀ e, e ∉ World.init.log := by simp [World.init]
  have hclosed : ∀ id, ¬ World.init.Closed id := by simp [World.init, World.Closed]
  have hends : ∀ k e, World.init.ends.lookup k ≠ some e := by simp [World.init]
  have hfind : ∀ mode id g, World.init.node.find mode id ≠ some g := by
    intro mode id g
    simp only [World.init, Node.init, Node.find, Assoc.lookup_insert, AList.lookup_empty]
    split_ifs <;> exact fun hg => by cases hg
  have hmode : ∀ mode r, World.init.node.runtimes.lookup mode = some r → r.mode = mode := by
    intro mode r hr
    simp only [World.init, Node.init, Assoc.lookup_insert, AList.lookup_empty] at hr
    split_ifs at hr with h₁ h₂ h₃ h₄ <;> cases hr <;> simp [Runtime.mode, *]
  exact
    { once := List.Pairwise.nil
      final := fun _ _ he => absurd he (hlog _)
      moded := ⟨hmode, fun mode id g hg => absurd hg (hfind mode id g)⟩
      unregistered := fun id hc => absurd hc (hclosed id)
      uncreated := fun id hc => absurd hc (hclosed id)
      ended := fun k e hk => absurd hk (hends k e)
      past := fun k e hk => absurd hk (hends k e)
      apart := fun k _ e _ hk => absurd hk (hends k e)
      unrecorded := fun k e _ hk => absurd hk (hends k e)
      recorded := fun _ _ he => absurd he (hlog _)
      closed_of_ended := fun _ he => absurd he (hlog _) }

/-! ## The steps -/

theorem Node.Plays.moded {n n' : Node} (h : n.Plays n') (hm : n.Moded) : n'.Moded := by
  refine ⟨fun mode r' hr' => ?_, fun mode id g' hg' => ?_⟩
  · obtain ⟨r, hr, hmode⟩ := h.runtimes mode r' hr'
    exact hmode.trans (hm.runtimes mode r hr)
  · have hrel := h.games mode id
    rw [hg'] at hrel
    cases hg : n.find mode id with
    | none => rw [hg] at hrel; cases hrel
    | some g =>
        rw [hg, Option.rel_some_some] at hrel
        exact hrel.mode_eq.trans (hm.games mode id g hg)

/-- The snapshot of an ended duel is the final one. -/
theorem final_of_snapshot {n : Node} (hm : n.Moded) {mode : MatchMode} {id : MatchID} {g : Game}
    (hg : n.find mode id = some g) (hended : g.state = .ended) (clk : Clock) :
    (g.snapshot clk).state = .ended ∧
      ((g.snapshot clk).mode = .duel → n.Final id (g.snapshot clk)) := by
  refine ⟨by rw [Game.snapshot_state, hended], fun hduel => ?_⟩
  rw [Game.snapshot_mode, hm.games mode id g hg] at hduel
  subst hduel
  refine ⟨g, hg, hended, by rw [Game.snapshot_roundResults], ?_⟩
  rw [Game.snapshot_players]
  exact sameScores_refl _

theorem FinishedInv.played {w w' : World} (h : FinishedInv w) (hp : w.Played w') :
    FinishedInv w' := by
  cases hp with
  | @quiet n changed hplays =>
      refine h.frame [] rfl (by simp) hplays.extends (hplays.moded h.moded) (fun id hid hc => ?_)
        (fun q r hq hc => h.uncreated _ hc q r hq rfl) fun k e hk => .inl hk
      exact h.unregistered id hc (hplays.users_eq ▸ hid)
  | @calls n changed k mode id g clk hplays hfresh hg hended =>
      have hmoded := hplays.moded h.moded
      refine h.frame [] rfl (by simp) hplays.extends hmoded (fun id hid hc => ?_)
        (fun q r hq hc => h.uncreated _ hc q r hq rfl) fun k' e hk' => ?_
      · exact h.unregistered id hc (hplays.users_eq ▸ hid)
      · dsimp only at hk'
        rw [Assoc.lookup_insert] at hk'
        split_ifs at hk'
        · cases hk'
          exact .inr ⟨rfl, final_of_snapshot hmoded hg hended clk⟩
        · exact .inl hk'

/-- A step of a creation that leaves the maps of the node alone. -/
theorem FinishedInv.creates {w w' : World} (h : FinishedInv w) (new : List Event)
    (hlog : w'.log = new ++ w.log) (hnew : ∀ e ∈ new, e.Harmless w)
    (hgames : w.node.Extends w'.node) (hmoded : w'.node.Moded)
    (husers : w'.node.matchUsers = w.node.matchUsers) (hends : w'.ends = w.ends)
    (hcreates : ∀ q r, w'.creates.lookup q = some r → w.creates.lookup q = some r ∨
      ¬ w.Closed r.found.matchID) : FinishedInv w' := by
  refine h.frame new hlog hnew hgames hmoded (fun id hid hc => ?_) (fun q r hq => ?_)
    fun k e hk => .inl (by rwa [hends] at hk)
  · exact h.unregistered id hc (husers ▸ hid)
  · obtain hq | hopen := hcreates q r hq
    · exact fun hc => h.uncreated _ hc q r hq rfl
    · exact hopen

theorem FinishedInv.answer {w : World} (h : FinishedInv w) (q : String) (r : CreateRequest)
    (status : CreateStatus) (existed : Bool) : FinishedInv (w.answer q r status existed) := by
  refine h.creates [.answered _ _ _ _] rfl (by simp [Event.Harmless]) (.refl rfl) h.moded rfl rfl
    fun q' r' hq' => .inl ?_
  exact (Assoc.of_lookup_erase hq').2

/-- A request goes on. -/
theorem FinishedInv.goOn {w : World} (h : FinishedInv w) {q : String} {r : CreateRequest}
    (hq : w.creates.lookup q = some r) (place : CreatePlace) {n : Node}
    (hgames : w.node.Extends n) (hmoded : n.Moded) (husers : n.matchUsers = w.node.matchUsers)
    (new : List Event) (hnew : ∀ e ∈ new, e.Harmless w) :
    FinishedInv { w.goOn q r place n with log := new ++ w.log } := by
  refine h.creates new rfl hnew hgames hmoded husers rfl fun q' r₁ hq' => ?_
  obtain ⟨-, rfl⟩ | ⟨-, hold⟩ := Assoc.of_lookup_insert hq'
  · exact .inr fun hc => h.uncreated _ hc q r hq rfl
  · exact .inl hold

theorem FinishedInv.createMatch {w : World} (h : FinishedInv w) (clk : Clock) (accepted : Bool)
    (q : String) {found : MatchFound}
    (hclosed : w.Closed found.matchID → (w.node.find (requestMode found) found.matchID).isSome) :
    FinishedInv (w.createMatch clk accepted q found) := by
  unfold World.createMatch
  dsimp only
  split
  · exact h.answer ..
  · next runtime hr =>
      split_ifs
      · exact h.answer ..
      · rw [Runtime.getSnapshot_eq]
        cases hg : runtime.find found.matchID with
        | some g => exact h.answer ..
        | none =>
            refine h.creates [] rfl (by simp) (.refl rfl) h.moded rfl rfl fun q' r' hq' => ?_
            obtain ⟨-, rfl⟩ | ⟨-, hold⟩ := Assoc.of_lookup_insert hq'
            · refine .inr fun hc => ?_
              have hsome := hclosed hc
              rw [Node.find, hr, Option.bind_some, hg] at hsome
              cases hsome
            · exact .inl hold

theorem FinishedInv.configure {w : World} (h : FinishedInv w) {q : String} {r : CreateRequest}
    (hq : w.creates.lookup q = some r) : FinishedInv (w.configure q r) := by
  unfold World.configure
  split
  · exact h
  · refine h.goOn hq .configured ?_ ?_ ?_ [] (by simp)
    · exact .refl rfl
    · exact ⟨h.moded.runtimes, h.moded.games⟩
    · rfl

theorem FinishedInv.engineCreate {w : World} (h : FinishedInv w) {clk : Clock}
    {provider : Duel.RoundProvider} {q : String} {r : CreateRequest}
    (hq : w.creates.lookup q = some r) : FinishedInv (w.engineCreate F clk provider q r) := by
  unfold World.engineCreate
  cases hr : w.node.runtimes.lookup r.mode with
  | none => exact h
  | some runtime =>
      dsimp only
      split
      · next runtime' hc =>
          obtain ⟨hnone, g, -, hmode, hfind⟩ := Node.find_create hr hc
          refine h.goOn hq (.created false) ?_ ⟨?_, ?_⟩ ?_ [.created r.found]
            (by simp [Event.Harmless])
          · intro mode id g' hg'
            refine ⟨g', ?_, .refl g'⟩
            rw [hfind, if_neg]
            · exact hg'
            · rintro ⟨rfl, rfl⟩
              rw [hnone] at hg'
              cases hg'
          · intro mode r₁ hr₁
            obtain ⟨rfl, rfl⟩ | ⟨-, hold⟩ := Assoc.of_lookup_insert hr₁
            · exact (Runtime.createMatch_mode hc).trans (h.moded.runtimes _ _ hr)
            · exact h.moded.runtimes mode r₁ hold
          · intro mode id g' hg'
            rw [hfind] at hg'
            split_ifs at hg' with hboth
            · cases hg'
              rw [hmode, h.moded.runtimes _ _ hr, hboth.1]
            · exact h.moded.games mode id g' hg'
          · rfl
      · split_ifs
        · refine h.goOn hq (.created true) ?_ ?_ ?_ [] (by simp)
          · exact .refl rfl
          · exact h.moded
          · rfl
        · exact h.answer ..

theorem FinishedInv.recordLive {w : World} (h : FinishedInv w) (stored : Bool) {q : String}
    {r : CreateRequest} (existed : Bool) (hq : w.creates.lookup q = some r) :
    FinishedInv (w.recordLive stored q r existed) := by
  unfold World.recordLive
  split_ifs
  · refine h.goOn hq (.recorded existed) ?_ ?_ ?_ [.recordRuntimeMatch r.found.matchID .live] ?_
    · exact .refl rfl
    · exact h.moded
    · rfl
    simp only [List.mem_singleton, forall_eq, Event.Harmless]
    exact fun hc => h.uncreated _ hc q r hq rfl
  · exact h.answer ..

theorem FinishedInv.register {w : World} (h : FinishedInv w) {q : String} {r : CreateRequest}
    (existed : Bool) (hq : w.creates.lookup q = some r) :
    FinishedInv (w.register q r existed) := by
  have hopen : ¬ w.Closed r.found.matchID := fun hc => h.uncreated _ hc q r hq rfl
  refine h.frame [.answered _ _ _ _, .register r.found.matchID] rfl ?_ (.refl rfl)
    ⟨h.moded.runtimes, h.moded.games⟩ (fun id hid hc => ?_) (fun q' r' hq' hc => ?_)
    fun k e hk => .inl hk
  · simp [Event.Harmless, hopen]
  · obtain rfl | hold := (AList.mem_insert _).1 hid
    · exact hopen hc
    · exact h.unregistered id hc hold
  · exact h.uncreated _ hc q' r' (Assoc.of_lookup_erase hq').2 rfl

/-- An event that neither records a result nor revives a match may follow any other one. -/
theorem not_undoes_of {e : Event} (hrecords : ∀ id, e.records id = false)
    (hrevives : ∀ id, e.revives id = false) (e' : Event) : ¬ e.Undoes e' := by
  intro hundoes
  cases e' with
  | recordMatchResult id snap => exact absurd hundoes (by simp [Event.Undoes, hrecords])
  | recordRuntimeMatch id state =>
      cases state with
      | ended => exact absurd hundoes (by simp [Event.Undoes, hrevives])
      | _ => exact hundoes
  | _ => exact hundoes

/-- `terminalize` takes the match out of the maps: no other caller has, and no creation is on its
way. -/
theorem FinishedInv.enter {w : World} (h : FinishedInv w) {k : String} {e : EndCall}
    (hk : w.ends.lookup k = some e)
    (hcreates : ∀ q r, w.creates.lookup q = some r → r.found.matchID ≠ e.matchID) :
    FinishedInv (w.enter k e) := by
  unfold World.enter
  split_ifs with husers
  · have hopen : ¬ w.Closed e.matchID := fun hc => h.unregistered _ hc husers
    have hclosed : ∀ id, World.Closed
        { w with
          node :=
            { w.node with
              matchUsers := w.node.matchUsers.erase e.matchID
              matchModes := w.node.matchModes.erase e.matchID }
          ends := w.ends.insert k { e with place := .removed }
          log := .unregister e.matchID :: w.log } id ↔ id = e.matchID ∨ w.Closed id := by
      intro id
      simp [closed_iff]
    have hother : ∀ k' e', w.ends.lookup k' = some e' → e'.place ≠ .called →
        e'.matchID ≠ e.matchID :=
      fun k' e' hk' hp hid => hopen (hid ▸ h.past k' e' hk' hp)
    refine
      { once := ?_
        final := fun id snap he => h.final id snap (by simpa using he)
        moded := ⟨h.moded.runtimes, h.moded.games⟩
        unregistered := fun id hc hid => ?_
        uncreated := fun id hc q r hq hid => ?_
        ended := fun k' e' hk' => ?_
        past := fun k' e' hk' hp => ?_
        apart := fun k₁ k₂ e₁ e₂ h₁ h₂ hp₁ hp₂ hid => ?_
        unrecorded := fun k' e' snap hk' hp he => ?_
        recorded := fun id snap he => (hclosed id).2 (.inr (h.recorded id snap (by simpa using he)))
        closed_of_ended := fun id he => (hclosed id).2 (.inr (h.closed_of_ended id (by simpa using he))) }
    · refine List.pairwise_cons.2 ⟨fun e' _ => ?_, h.once⟩
      exact not_undoes_of (fun _ => rfl) (fun _ => rfl) e'
    · obtain rfl | hc := (hclosed id).1 hc
      · exact absurd rfl (AList.mem_erase.1 hid).1
      · exact h.unregistered id hc (AList.mem_erase.1 hid).2
    · obtain rfl | hc := (hclosed id).1 hc
      · exact hcreates q r hq hid
      · exact h.uncreated id hc q r hq hid
    · obtain ⟨-, rfl⟩ | ⟨-, hold⟩ := Assoc.of_lookup_insert hk'
      · exact h.ended k e hk
      · exact h.ended k' e' hold
    · obtain ⟨-, rfl⟩ | ⟨-, hold⟩ := Assoc.of_lookup_insert hk'
      · exact (hclosed _).2 (.inl rfl)
      · exact (hclosed _).2 (.inr (h.past k' e' hold hp))
    · obtain ⟨heq₁, rfl⟩ | ⟨-, hold₁⟩ := Assoc.of_lookup_insert h₁ <;>
        obtain ⟨heq₂, rfl⟩ | ⟨-, hold₂⟩ := Assoc.of_lookup_insert h₂
      · exact heq₁.trans heq₂.symm
      · exact absurd hid.symm (hother k₂ e₂ hold₂ hp₂)
      · exact absurd hid (hother k₁ e₁ hold₁ hp₁)
      · exact h.apart k₁ k₂ e₁ e₂ hold₁ hold₂ hp₁ hp₂ hid
    · obtain ⟨-, rfl⟩ | ⟨-, hold⟩ := Assoc.of_lookup_insert hk'
      · exact hopen (h.recorded _ snap (by simpa using he))
      · exact h.unrecorded k' e' snap hold hp (by simpa using he)
  · exact
      { h with
        ended := fun k' e' hk' => h.ended k' e' (Assoc.of_lookup_erase hk').2
        past := fun k' e' hk' => h.past k' e' (Assoc.of_lookup_erase hk').2
        apart := fun k₁ k₂ e₁ e₂ h₁ h₂ => h.apart k₁ k₂ e₁ e₂ (Assoc.of_lookup_erase h₁).2
          (Assoc.of_lookup_erase h₂).2
        unrecorded := fun k' e' snap hk' => h.unrecorded k' e' snap (Assoc.of_lookup_erase hk').2 }

theorem FinishedInv.recordResult {w : World} (h : FinishedInv w) {k : String} {e : EndCall}
    (hk : w.ends.lookup k = some e) (hplace : e.place = .removed) :
    FinishedInv (w.recordResult k e) := by
  have hpast : e.place ≠ .called := by rw [hplace]; decide
  have hclosed := h.past k e hk hpast
  have hlog : ∀ e', e' ∈ (w.recordResult k e).log → e' ∈ w.log ∨
      e.snap.mode = .duel ∧ e' = .recordMatchResult e.matchID e.snap := by
    intro e' he'
    unfold World.recordResult at he'
    dsimp only at he'
    split_ifs at he' with hduel
    · obtain rfl | he' := List.mem_cons.1 he'
      · exact .inr ⟨hduel, rfl⟩
      · exact .inl he'
    · exact .inl he'
  have hsub : ∀ id, (w.recordResult k e).Closed id ↔ w.Closed id := by
    intro id
    rw [closed_iff, closed_iff]
    constructor
    · intro he'
      obtain he' | ⟨-, heq⟩ := hlog _ he'
      · exact he'
      · cases heq
    · intro he'
      unfold World.recordResult
      dsimp only
      split_ifs
      · exact List.mem_cons_of_mem _ he'
      · exact he'
  refine
    { once := ?_
      final := fun id snap he => ?_
      moded := h.moded
      unregistered := fun id hc => h.unregistered id ((hsub id).1 hc)
      uncreated := fun id hc => h.uncreated id ((hsub id).1 hc)
      ended := fun k' e' hk' => ?_
      past := fun k' e' hk' hp => ?_
      apart := fun k₁ k₂ e₁ e₂ h₁ h₂ hp₁ hp₂ hid => ?_
      unrecorded := fun k' e' snap hk' hp he => ?_
      recorded := fun id snap he => ?_
      closed_of_ended := fun id he => ?_ }
  · unfold World.recordResult
    dsimp only
    split_ifs
    · refine List.pairwise_cons.2 ⟨fun e' he' hundoes => ?_, h.once⟩
      cases e' with
      | recordMatchResult id snap =>
          obtain rfl : e.matchID = id := by simpa [Event.Undoes, Event.records] using hundoes
          exact h.unrecorded k e snap hk hplace he'
      | recordRuntimeMatch id state => cases state <;> cases hundoes
      | _ => cases hundoes
    · exact h.once
  · obtain he | ⟨hduel, heq⟩ := hlog _ he
    · exact h.final id snap he
    · obtain ⟨rfl, rfl⟩ := Event.recordMatchResult.inj heq
      obtain ⟨hended, hfinal⟩ := h.ended k e hk
      exact ⟨hended, hfinal hduel⟩
  · obtain ⟨-, rfl⟩ | ⟨-, hold⟩ := Assoc.of_lookup_insert hk'
    · exact h.ended k e hk
    · exact h.ended k' e' hold
  · obtain ⟨-, rfl⟩ | ⟨-, hold⟩ := Assoc.of_lookup_insert hk'
    · exact (hsub _).2 hclosed
    · exact (hsub _).2 (h.past k' e' hold hp)
  · obtain ⟨rfl, rfl⟩ | ⟨-, hold₁⟩ := Assoc.of_lookup_insert h₁ <;>
      obtain ⟨rfl, rfl⟩ | ⟨-, hold₂⟩ := Assoc.of_lookup_insert h₂
    · rfl
    · exact h.apart _ k₂ e e₂ hk hold₂ hpast hp₂ hid
    · exact h.apart k₁ _ e₁ e hold₁ hk hp₁ hpast hid
    · exact h.apart k₁ k₂ e₁ e₂ hold₁ hold₂ hp₁ hp₂ hid
  · obtain ⟨-, rfl⟩ | ⟨hne, hold⟩ := Assoc.of_lookup_insert hk'
    · cases hp
    · obtain he | ⟨-, heq⟩ := hlog _ he
      · exact h.unrecorded k' e' snap hold hp he
      · have hp' : e'.place ≠ .called := by rw [hp]; decide
        exact hne (h.apart k' k e' e hold hk hp' hpast (Event.recordMatchResult.inj heq).1)
  · obtain he | ⟨-, heq⟩ := hlog _ he
    · exact (hsub id).2 (h.recorded id snap he)
    · rw [(Event.recordMatchResult.inj heq).1]
      exact (hsub _).2 hclosed
  · obtain he | ⟨-, heq⟩ := hlog _ he
    · exact (hsub id).2 (h.closed_of_ended id he)
    · cases heq

theorem FinishedInv.recordEnded {w : World} (h : FinishedInv w) (stored : Bool) {k : String}
    {e : EndCall} (hk : w.ends.lookup k = some e) (hplace : e.place = .resulted) :
    FinishedInv (w.recordEnded stored k e) := by
  have hclosed := h.past k e hk (by rw [hplace]; decide)
  have hdone : FinishedInv { w with ends := w.ends.erase k } :=
    { h with
      ended := fun k' e' hk' => h.ended k' e' (Assoc.of_lookup_erase hk').2
      past := fun k' e' hk' => h.past k' e' (Assoc.of_lookup_erase hk').2
      apart := fun k₁ k₂ e₁ e₂ h₁ h₂ => h.apart k₁ k₂ e₁ e₂ (Assoc.of_lookup_erase h₁).2
        (Assoc.of_lookup_erase h₂).2
      unrecorded := fun k' e' snap hk' => h.unrecorded k' e' snap (Assoc.of_lookup_erase hk').2 }
  unfold World.recordEnded
  split_ifs
  · have hsub : ∀ id, World.Closed
        { w with ends := w.ends.erase k, log := .recordRuntimeMatch e.matchID .ended :: w.log } id ↔
          w.Closed id := by
      intro id
      simp [closed_iff]
    exact
      { once := List.pairwise_cons.2
          ⟨fun e' _ => not_undoes_of (fun _ => rfl) (fun _ => rfl) e', h.once⟩
        final := fun id snap he => h.final id snap (by simpa using he)
        moded := h.moded
        unregistered := fun id hc => h.unregistered id ((hsub id).1 hc)
        uncreated := fun id hc => h.uncreated id ((hsub id).1 hc)
        ended := hdone.ended
        past := fun k' e' hk' hp => (hsub _).2 (hdone.past k' e' hk' hp)
        apart := hdone.apart
        unrecorded := fun k' e' snap hk' hp he => hdone.unrecorded k' e' snap hk' hp (by simpa using he)
        recorded := fun id snap he => (hsub id).2 (h.recorded id snap (by simpa using he))
        closed_of_ended := fun id he => (hsub id).2 (by
          obtain heq | he := List.mem_cons.1 he
          · rw [(Event.recordRuntimeMatch.inj heq).1]
            exact hclosed
          · exact h.closed_of_ended id he) }
  · exact hdone

theorem FinishedInv.step {w w' : World} {op : Op} (h : FinishedInv w) (hC : Clean w op)
    (hw : w.step F op = some w') : FinishedInv w' := by
  cases op with
  | createMatch clk accepted q found =>
      simp only [World.step] at hw
      split_ifs at hw
      cases hw
      exact h.createMatch clk accepted q hC
  | configure q =>
      simp only [World.step] at hw
      split at hw
      · next r hq =>
          split_ifs at hw
          cases hw
          exact h.configure hq
      · cases hw
  | engineCreate clk provider q =>
      simp only [World.step] at hw
      split at hw
      · next r hq =>
          split_ifs at hw
          cases hw
          exact h.engineCreate hq
      · cases hw
  | recordLive stored q =>
      simp only [World.step] at hw
      split at hw
      · next r hq =>
          split at hw
          · next existed hplace =>
              cases hw
              exact h.recordLive stored existed hq
          · cases hw
      · cases hw
  | register q =>
      simp only [World.step] at hw
      split at hw
      · next r hq =>
          split at hw
          · next existed hplace =>
              cases hw
              exact h.register existed hq
          · cases hw
      · cases hw
  | enter k =>
      simp only [World.step] at hw
      split at hw
      · next e hk =>
          split_ifs at hw
          cases hw
          exact h.enter hk (hC e hk)
      · cases hw
  | recordResult k =>
      simp only [World.step] at hw
      split at hw
      · next e hk =>
          split_ifs at hw with hplace
          cases hw
          exact h.recordResult hk hplace
      · cases hw
  | recordEnded stored k =>
      simp only [World.step] at hw
      split at hw
      · next e hk =>
          split_ifs at hw with hplace
          cases hw
          exact h.recordEnded stored hk hplace
      · cases hw
  | command | mark | tick | visit | terminate =>
      refine h.played (World.played_step ?_ hw)
      trivial

/-- In every run in which no creation of a match meets its end, a match is finished once. -/
theorem finishedOnce_of_clean (F : FloatMath) (ops : List Op)
    (hC : Run.Guarded (World.step F) Clean World.init ops) :
    Run.Always (World.step F) FinishedOnce World.init ops :=
  (Run.always_of_invariant (fun _ _ _ h hC hw => FinishedInv.step h hC hw) finishedInv_init hC).mono
    fun _ h => h.toFinishedOnce

theorem finishedOnce_orderlyRun :
    Run.Always (World.step .coarse) FinishedOnce World.init orderlyRun :=
  finishedOnce_of_clean .coarse orderlyRun (by decide +kernel)

/-- Two requests pass the existence check before the match is made; the second one goes on when the
match has ended, and a forfeit then ends it once more. -/
def twoRequestsRun : List Op :=
  [.createMatch (Duel.second 0) true "b" partyFound] ++ creation "a" true ++
    [.register "a", .command "end" (.forfeit (Duel.second 2) "m" "u1"), .enter "end",
      .recordResult "end", .recordEnded true "end", .configure "b",
      .engineCreate (Duel.second 3) Duel.originProvider "b", .recordLive true "b", .register "b",
      .command "again" (.forfeit (Duel.second 4) "m" "u1"), .enter "again", .recordResult "again"]

theorem not_finishedOnce_twoRequestsRun :
    ¬ Run.Always (World.step .coarse) FinishedOnce World.init twoRequestsRun := by
  have hrun : ∃ w ∈ Run.exec (World.step .coarse) World.init twoRequestsRun,
      ¬ w.log.Pairwise fun later earlier => ¬ later.Undoes earlier := by
    decide +kernel
  obtain ⟨w, hw, hbad⟩ := hrun
  exact fun h => hbad (h.exec hw).once

end GeoDuels.GameplayNode
