import GeoDuels.GameplayNode.Steps
import GeoDuels.Duel.Run

/-!
# A created match is wired to the node

`Wired` says that a match is registered with the mode and the players it was created with as soon as
a request has answered 200 and until it ends, and that a request that fails or finds the match has
changed nothing of it.  `createMatch` keeps this when its steps are alone for the match and nothing
fails behind the existence check (`Orderly`).
-/

namespace GeoDuels.GameplayNode

variable {F : FloatMath}

/-! ## The property -/

/-- A request for the match has answered 200. -/
def World.Accepted (w : World) (matchID : MatchID) : Prop :=
  ∃ status existed touched, .answered matchID status existed touched ∈ w.log ∧ status ≠ .failed

/-- The match is in the maps of the node as it was created, and `runtimeForMatch` finds its mode. -/
def Node.Registered (found : MatchFound) (n : Node) : Prop :=
  n.matchModes.lookup found.matchID = some (requestMode found) ∧
    n.matchUsers.lookup found.matchID = some found.players ∧
    n.modeOf found.matchID = requestMode found

structure Wired (w : World) : Prop where
  registered : ∀ found, .created found ∈ w.log → w.Accepted found.matchID →
    ¬ w.node.Ended (requestMode found) found.matchID → w.node.Registered found
  untouched : ∀ matchID status existed touched, .answered matchID status existed touched ∈ w.log →
    status ≠ .ok ∨ existed = true → touched = false

/-! ## The condition -/

/-- The creation passes the checks of the engine: the provider has a first round, and the players
are as many as the mode takes, in both teams of a team duel. -/
def Runtime.Creatable (provider : Duel.RoundProvider) (found : MatchFound) : Runtime → Prop
  | .duel mode engine =>
      let mode := Runtime.mode (.duel mode engine)
      let players := found.players.foldl
        (fun ps u => ps.insert u (Duel.newPlayer mode found.profiles found.teams u)) ∅
      (provider found.matchID 0).isOk ∧ Duel.checkMode mode found.players.length = .ok mode ∧
        (mode = .teamDuel →
          (Duel.buildTeams mode found.players players).1.keys.length = 2)
  | .singleplayer _ => (provider found.matchID 0).isOk ∧ found.players.length = 1

/-- The creations of a match are alone and do not fail: a request reaches the existence check while
no other creation of the match is on its way and no other mode has it, the engine can make the
match, and the write of the runtime state succeeds. -/
def Orderly (w : World) : Op → Prop
  | .createMatch _ _ _ found =>
      (∀ q r, w.creates.lookup q = some r → r.found.matchID ≠ found.matchID) ∧
        ∀ mode runtime, w.node.runtimes.lookup mode = some runtime →
          (runtime.find found.matchID).isSome → mode = requestMode found
  | .engineCreate _ provider q =>
      ∀ r ∈ w.creates.lookup q, ∀ runtime ∈ w.node.runtimes.lookup r.mode,
        runtime.Creatable provider r.found
  | .recordLive stored _ => stored = true
  | _ => True

instance (provider : Duel.RoundProvider) (found : MatchFound) :
    DecidablePred (Runtime.Creatable provider found)
  | .duel mode engine =>
      inferInstanceAs (Decidable ((provider found.matchID 0).isOk ∧
        Duel.checkMode (Runtime.mode (.duel mode engine)) found.players.length =
          .ok (Runtime.mode (.duel mode engine)) ∧ (_ → _)))
  | .singleplayer _ => inferInstanceAs (Decidable (_ ∧ _))

instance (w : World) : DecidablePred (Orderly w)
  | .createMatch _ _ _ found =>
      inferInstanceAs (Decidable ((∀ q r, w.creates.lookup q = some r →
        r.found.matchID ≠ found.matchID) ∧ ∀ mode runtime, w.node.runtimes.lookup mode =
          some runtime → (runtime.find found.matchID).isSome → mode = requestMode found))
  | .engineCreate _ provider q =>
      inferInstanceAs (Decidable (∀ r ∈ w.creates.lookup q,
        ∀ runtime ∈ w.node.runtimes.lookup r.mode, runtime.Creatable provider r.found))
  | .recordLive stored _ => inferInstanceAs (Decidable (stored = true))
  | .configure .. | .register .. | .command .. | .mark .. | .tick .. | .visit .. | .terminate ..
  | .enter .. | .recordResult .. | .recordEnded .. => .isTrue trivial

/-- An engine without the match makes one that passes its checks. -/
theorem createMatch_of_creatable {r : Runtime} {provider : Duel.RoundProvider} {found : MatchFound}
    (h : r.Creatable provider found) (hnone : r.find found.matchID = none) (clk : Clock)
    (config : MatchConfig) :
    ∃ r', r.createMatch F clk provider { found with config := config } = .ok r' := by
  cases r with
  | duel mode e =>
      obtain ⟨hround, hmode, hteams⟩ := h
      cases hprovider : provider found.matchID 0 with
      | error err => simp [hprovider, Except.isOk, Except.toBool] at hround
      | ok firstRound =>
          have hid : found.matchID ∉ e.allMatches := by
            simpa [Runtime.find, AList.lookup_eq_none] using hnone
          simp only [Runtime.createMatch, Duel.Engine.createMatchWithOptions, hmode, hprovider,
            if_neg hid]
          rw [if_neg fun hbad => hbad.2 (hteams hbad.1)]
          exact ⟨_, rfl⟩
  | singleplayer e =>
      obtain ⟨hround, hlength⟩ := h
      obtain ⟨playerID, hplayers⟩ := List.length_eq_one_iff.1 hlength
      cases hprovider : provider found.matchID 0 with
      | error err => simp [hprovider, Except.isOk, Except.toBool] at hround
      | ok firstRound =>
          have hid : found.matchID ∉ e.sessions := by
            simpa [Runtime.find, AList.lookup_eq_none] using hnone
          simp only [Runtime.createMatch, Singleplayer.Engine.createMatch, hplayers, hprovider,
            if_neg hid]
          exact ⟨_, rfl⟩

/-! ## The invariant -/

/-- The engine does not have the match yet. -/
def CreatePlace.Early : CreatePlace → Prop
  | .checked | .configured => True
  | .created _ | .recorded _ => False

structure WiredInv (w : World) : Prop where
  apart : ∀ q q' r r', w.creates.lookup q = some r → w.creates.lookup q' = some r' →
    r.found.matchID = r'.found.matchID → q = q'
  early : ∀ q r, w.creates.lookup q = some r → r.place.Early →
    ∀ mode, w.node.find mode r.found.matchID = none
  late : ∀ q r existed, w.creates.lookup q = some r →
    r.place = .created existed ∨ r.place = .recorded existed →
      existed = false ∧ .created r.found ∈ w.log
  unanswered : ∀ q r, w.creates.lookup q = some r → ¬ w.Accepted r.found.matchID
  accepted : ∀ matchID, w.Accepted matchID → ∃ found, .created found ∈ w.log ∧
    found.matchID = matchID
  unique : ∀ found, .created found ∈ w.log → ∀ mode,
    (w.node.find mode found.matchID).isSome ↔ mode = requestMode found
  once : ∀ found found', .created found ∈ w.log → .created found' ∈ w.log →
    found.matchID = found'.matchID → found = found'
  known : ∀ mode id, (w.node.find mode id).isSome → ∃ found, .created found ∈ w.log ∧
    found.matchID = id
  wired : ∀ found, .created found ∈ w.log →
    (∃ q r, w.creates.lookup q = some r ∧ r.found = found) ∨ w.node.Registered found ∨
      w.node.Ended (requestMode found) found.matchID
  ends : ∀ k e, w.ends.lookup k = some e → e.place = .called → ∃ mode, w.node.Ended mode e.matchID
  untouched : ∀ matchID status existed touched, .answered matchID status existed touched ∈ w.log →
    status ≠ .ok ∨ existed = true → touched = false

theorem WiredInv.isWired {w : World} (h : WiredInv w) : Wired w := by
  refine ⟨fun found hmade haccepted hlive => ?_, h.untouched⟩
  obtain ⟨q, r, hq, rfl⟩ | hregistered | hended := h.wired found hmade
  · exact absurd haccepted (h.unanswered q r hq)
  · exact hregistered
  · exact absurd hended hlive

theorem wiredInv_init : WiredInv World.init := by
  have hfind : ∀ mode id, World.init.node.find mode id = none := by
    intro mode id
    simp only [World.init, Node.init, Node.find, Assoc.lookup_insert, AList.lookup_empty]
    split_ifs <;> rfl
  have hcreates : ∀ q r, World.init.creates.lookup q ≠ some r := by simp [World.init]
  have hends : ∀ k e, World.init.ends.lookup k ≠ some e := by simp [World.init]
  have hlog : ∀ e, e ∉ World.init.log := by simp [World.init]
  exact
    { apart := fun q _ r _ hq => absurd hq (hcreates q r)
      early := fun q r hq => absurd hq (hcreates q r)
      late := fun q r _ hq => absurd hq (hcreates q r)
      unanswered := fun q r hq => absurd hq (hcreates q r)
      accepted := by
        rintro _ ⟨_, _, _, hmem, _⟩
        exact absurd hmem (hlog _)
      unique := fun _ hmem => absurd hmem (hlog _)
      once := fun _ _ hmem => absurd hmem (hlog _)
      known := fun mode id hg => by simp [hfind] at hg
      wired := fun _ hmem => absurd hmem (hlog _)
      ends := fun k e hk => absurd hk (hends k e)
      untouched := fun _ _ _ _ hmem => absurd hmem (hlog _) }

/-- The part of the request that a step forward keeps. -/
def GoesOn (r r' : CreateRequest) : Prop :=
  r'.found = r.found ∧ (r'.place.Early → r.place.Early) ∧
    ∀ existed, r'.place = .created existed ∨ r'.place = .recorded existed →
      r.place = .created existed ∨ r.place = .recorded existed

theorem GoesOn.refl (r : CreateRequest) : GoesOn r r := ⟨rfl, id, fun _ => id⟩

/-- A step that creates no match and answers no request. -/
theorem WiredInv.frame {w w' : World} (h : WiredInv w)
    (hcreates : Assoc.Pointwise (fun _ => GoesOn) w.creates w'.creates)
    (hlog : ∀ e ∈ w'.log, e ∈ w.log ∨ (∀ found, e ≠ .created found) ∧
      ∀ matchID status existed touched, e ≠ .answered matchID status existed touched)
    (hsub : ∀ e ∈ w.log, e ∈ w'.log)
    (hfind : ∀ mode id, (w'.node.find mode id).isSome = (w.node.find mode id).isSome)
    (hended : ∀ mode id, w.node.Ended mode id → w'.node.Ended mode id)
    (hregistered : ∀ found, .created found ∈ w.log → w.node.Registered found →
      w'.node.Registered found ∨ w'.node.Ended (requestMode found) found.matchID)
    (hends : ∀ k e, w'.ends.lookup k = some e → e.place = .called →
      w.ends.lookup k = some e ∨ ∃ mode, w'.node.Ended mode e.matchID) : WiredInv w' := by
  have hmade : ∀ found, .created found ∈ w'.log → .created found ∈ w.log := by
    intro found hmem
    obtain hmem | hother := hlog _ hmem
    · exact hmem
    · exact absurd rfl (hother.1 found)
  have hanswered : ∀ matchID status existed touched,
      .answered matchID status existed touched ∈ w'.log →
        .answered matchID status existed touched ∈ w.log := by
    intro matchID status existed touched hmem
    obtain hmem | hother := hlog _ hmem
    · exact hmem
    · exact absurd rfl (hother.2 matchID status existed touched)
  have haccepted : ∀ matchID, w'.Accepted matchID → w.Accepted matchID := by
    rintro matchID ⟨status, existed, touched, hmem, hok⟩
    exact ⟨status, existed, touched, hanswered _ _ _ _ hmem, hok⟩
  refine ⟨fun q q' r r' hq hq' hid => ?_, fun q r hq hearly mode => ?_,
    fun q r existed hq hlate => ?_, fun q r hq hacc => ?_, fun matchID hacc => ?_,
    fun found hm mode => ?_, fun found found' hm hm' => h.once found found' (hmade _ hm) (hmade _ hm'),
    fun mode id hg => ?_, fun found hm => ?_, fun k e hk hplace => ?_,
    fun matchID status existed touched hmem => h.untouched _ _ _ _ (hanswered _ _ _ _ hmem)⟩
  · obtain ⟨r₁, hr₁, heq₁, -⟩ := hcreates.right hq
    obtain ⟨r₂, hr₂, heq₂, -⟩ := hcreates.right hq'
    rw [heq₁, heq₂] at hid
    exact h.apart q q' r₁ r₂ hr₁ hr₂ hid
  · obtain ⟨r₁, hr₁, heq₁, he, -⟩ := hcreates.right hq
    have hnone := h.early q r₁ hr₁ (he hearly) mode
    rw [heq₁, ← Option.not_isSome_iff_eq_none, hfind, hnone]
    simp
  · obtain ⟨r₁, hr₁, heq₁, -, hl⟩ := hcreates.right hq
    obtain ⟨hexisted, hmem⟩ := h.late q r₁ existed hr₁ (hl existed hlate)
    rw [heq₁]
    exact ⟨hexisted, hsub _ hmem⟩
  · obtain ⟨r₁, hr₁, heq₁, -⟩ := hcreates.right hq
    rw [heq₁] at hacc
    exact h.unanswered q r₁ hr₁ (haccepted _ hacc)
  · obtain ⟨found, hm, hid⟩ := h.accepted matchID (haccepted _ hacc)
    exact ⟨found, hsub _ hm, hid⟩
  · rw [hfind]
    exact h.unique found (hmade _ hm) mode
  · rw [hfind] at hg
    obtain ⟨found, hm, hid⟩ := h.known mode id hg
    exact ⟨found, hsub _ hm, hid⟩
  · obtain ⟨q, r, hq, rfl⟩ | hreg | hend := h.wired found (hmade _ hm)
    · obtain ⟨r', hr', heq, -⟩ := hcreates.left hq
      exact .inl ⟨q, r', hr', heq⟩
    · exact .inr (hregistered found (hmade _ hm) hreg)
    · exact .inr (.inr (hended _ _ hend))
  · obtain hk | hend := hends k e hk hplace
    · obtain ⟨mode, hend⟩ := h.ends k e hk hplace
      exact ⟨mode, hended _ _ hend⟩
    · exact hend

/-! ## The steps -/

theorem goesOn_refl (creates : Assoc String CreateRequest) :
    Assoc.Pointwise (fun _ => GoesOn) creates creates := .refl (fun _ => .refl) _

theorem goesOn_insert {creates : Assoc String CreateRequest} {q : String} {r r' : CreateRequest}
    (hq : creates.lookup q = some r) (h : GoesOn r r') :
    Assoc.Pointwise (fun _ => GoesOn) creates (creates.insert q r') := by
  refine .of_lookup (fun q' r₁ hq' => ?_) fun q' hq' => ?_
  · by_cases hne : q' = q
    · subst hne
      rw [hq] at hq'
      cases hq'
      exact ⟨r', AList.lookup_insert _, h⟩
    · exact ⟨r₁, (AList.lookup_insert_ne hne).trans hq', .refl r₁⟩
  · rw [AList.lookup_insert_ne]
    · exact hq'
    · rintro rfl
      rw [hq] at hq'
      cases hq'

theorem modeOf_eq {n : Node} {id : MatchID} {mode : MatchMode} (hset : mode ≠ .unset)
    (h : n.matchModes.lookup id = some mode) : n.modeOf id = mode := by
  unfold Node.modeOf
  rw [h]
  split
  · next heq => cases heq
  · next heq => exact absurd (Option.some.inj heq) hset
  · next heq => exact (Option.some.inj heq).symm

theorem requestMode_ne_unset (found : MatchFound) : requestMode found ≠ .unset := by
  unfold requestMode
  split_ifs with h
  · decide
  · exact h

/-- Being registered depends on the maps of the node at the match. -/
theorem Node.Registered.of_lookup {n n' : Node} {found : MatchFound} (h : n.Registered found)
    (hmodes : n'.matchModes.lookup found.matchID = n.matchModes.lookup found.matchID)
    (husers : n'.matchUsers.lookup found.matchID = n.matchUsers.lookup found.matchID) :
    n'.Registered found := by
  refine ⟨hmodes.trans h.1, husers.trans h.2.1, ?_⟩
  exact modeOf_eq (requestMode_ne_unset found) (hmodes.trans h.1)

theorem WiredInv.played {w w' : World} (h : WiredInv w) (hp : w.Played w') : WiredInv w' := by
  have hframe : ∀ {n : Node} {changed : List MatchID} {ends : Assoc String EndCall},
      w.node.Plays n →
      (∀ k e, ends.lookup k = some e → e.place = .called →
        w.ends.lookup k = some e ∨ ∃ mode, n.Ended mode e.matchID) →
      WiredInv { w with node := n, changed := changed, ends := ends } := by
    intro n changed ends hplays hends
    refine h.frame (goesOn_refl _) (fun e he => .inl he) (fun e he => he)
      (fun mode id => hplays.isSome mode id) (fun mode id hend => hplays.ended hend)
      (fun found _ hreg => .inl (hreg.of_lookup ?_ ?_)) hends
    · exact congrArg (AList.lookup _) hplays.modes_eq
    · exact congrArg (AList.lookup _) hplays.users_eq
  cases hp with
  | quiet hplays => exact hframe hplays fun k e hk _ => .inl hk
  | calls k mode id g clk hplays hfresh hg hended =>
      refine hframe hplays fun k' e hk' _ => ?_
      rw [Assoc.lookup_insert] at hk'
      split_ifs at hk'
      · cases hk'
        exact .inr ⟨mode, g, hg, hended⟩
      · exact .inl hk'

/-- A request that is done before it has touched anything. -/
theorem WiredInv.refused {w : World} (h : WiredInv w) {q : String} (hq : q ∉ w.creates)
    (found : MatchFound) (status : CreateStatus) (existed : Bool)
    (hok : status ≠ .failed → (∃ mode, (w.node.find mode found.matchID).isSome) ∧
      ∀ q r, w.creates.lookup q = some r → r.found.matchID ≠ found.matchID) :
    WiredInv (w.answer q { found := found } status existed) := by
  have hcreates : w.creates.erase q = w.creates :=
    Assoc.erase_of_lookup_none (AList.lookup_eq_none.2 hq)
  unfold World.answer
  rw [hcreates]
  have hmade : ∀ found', .created found' ∈ Event.answered found.matchID status existed false :: w.log
      ↔ .created found' ∈ w.log := by simp
  refine
    { apart := h.apart
      early := h.early
      late := fun q r existed hq hl => ⟨(h.late q r existed hq hl).1,
        (hmade _).2 (h.late q r existed hq hl).2⟩
      unanswered := fun q r hq => ?_
      accepted := fun matchID => ?_
      unique := fun found hm => h.unique found ((hmade _).1 hm)
      once := fun found found' hm hm' => h.once found found' ((hmade _).1 hm) ((hmade _).1 hm')
      known := fun mode id hg => ?_
      wired := fun found hm => h.wired found ((hmade _).1 hm)
      ends := h.ends
      untouched := fun matchID status' existed' touched hmem hbad => ?_ }
  · rintro ⟨status', existed', touched, hmem, hok'⟩
    obtain heq | hmem := List.mem_cons.1 hmem
    · obtain ⟨hid, rfl, -, -⟩ := Event.answered.inj heq
      exact absurd hid ((hok hok').2 q r hq)
    · exact h.unanswered q r hq ⟨status', existed', touched, hmem, hok'⟩
  · rintro ⟨status', existed', touched, hmem, hok'⟩
    obtain heq | hmem := List.mem_cons.1 hmem
    · cases heq
      obtain ⟨mode, hmode⟩ := (hok hok').1
      obtain ⟨found', hm, hid⟩ := h.known mode _ hmode
      exact ⟨found', (hmade _).2 hm, hid⟩
    · obtain ⟨found', hm, hid⟩ := h.accepted matchID ⟨status', existed', touched, hmem, hok'⟩
      exact ⟨found', (hmade _).2 hm, hid⟩
  · obtain ⟨found', hm, hid⟩ := h.known mode id hg
    exact ⟨found', (hmade _).2 hm, hid⟩
  · obtain heq | hmem := List.mem_cons.1 hmem
    · cases heq
      rfl
    · exact h.untouched _ _ _ _ hmem hbad

theorem WiredInv.createMatch {w : World} (h : WiredInv w) {clk : Clock} {accepted : Bool}
    {q : String} {found : MatchFound} (hq : q ∉ w.creates)
    (halone : ∀ q r, w.creates.lookup q = some r → r.found.matchID ≠ found.matchID)
    (hmode : ∀ mode, (w.node.find mode found.matchID).isSome → mode = requestMode found) :
    WiredInv (w.createMatch clk accepted q found) := by
  unfold World.createMatch
  dsimp only
  split
  · exact h.refused hq found .failed false fun hok => absurd rfl hok
  · next runtime hr =>
      split_ifs with hbad
      · exact h.refused hq found .failed false fun hok => absurd rfl hok
      · rw [Runtime.getSnapshot_eq]
        have hfind : w.node.find (requestMode found) found.matchID = runtime.find found.matchID := by
          rw [Node.find, hr]
          rfl
        cases hg : runtime.find found.matchID with
        | some g =>
            refine h.refused hq found .exists_ true fun _ => ⟨⟨requestMode found, ?_⟩, halone⟩
            rw [hfind, hg]
            rfl
        | none =>
            have hnone : ∀ mode, w.node.find mode found.matchID = none := by
              intro mode
              by_contra hsome
              have heq := hmode mode (Option.isSome_iff_ne_none.2 hsome)
              rw [heq, hfind] at hsome
              exact hsome hg
            have hlookup : ∀ q' r, (w.creates.insert q { found := found }).lookup q' = some r →
                q' = q ∧ r = { found := found } ∨ w.creates.lookup q' = some r := by
              intro q' r hq'
              rw [Assoc.lookup_insert] at hq'
              split_ifs at hq' with heq
              · exact .inl ⟨heq, (Option.some.inj hq').symm⟩
              · exact .inr hq'
            dsimp only
            refine
              { apart := fun q₁ q₂ r₁ r₂ h₁ h₂ hid => ?_
                early := fun q₁ r₁ h₁ hearly => ?_
                late := fun q₁ r₁ existed h₁ hlate => ?_
                unanswered := fun q₁ r₁ h₁ hacc => ?_
                accepted := h.accepted
                unique := h.unique
                once := h.once
                known := h.known
                wired := fun found' hm => ?_
                ends := h.ends
                untouched := h.untouched }
            · obtain ⟨heq₁, rfl⟩ | hold₁ := hlookup q₁ r₁ h₁ <;>
                obtain ⟨heq₂, rfl⟩ | hold₂ := hlookup q₂ r₂ h₂
              · exact heq₁.trans heq₂.symm
              · exact absurd hid.symm (halone q₂ r₂ hold₂)
              · exact absurd hid (halone q₁ r₁ hold₁)
              · exact h.apart q₁ q₂ r₁ r₂ hold₁ hold₂ hid
            · obtain ⟨rfl, rfl⟩ | h₁ := hlookup q₁ r₁ h₁
              · exact hnone
              · exact h.early q₁ r₁ h₁ hearly
            · obtain ⟨rfl, rfl⟩ | h₁ := hlookup q₁ r₁ h₁
              · obtain hp | hp := hlate <;> cases hp
              · exact h.late q₁ r₁ existed h₁ hlate
            · obtain ⟨rfl, rfl⟩ | h₁ := hlookup q₁ r₁ h₁
              · obtain ⟨found', hm, hid⟩ := h.accepted _ hacc
                have hsome := (h.unique found' hm (requestMode found')).2 rfl
                rw [hid, hnone] at hsome
                cases hsome
              · exact h.unanswered q₁ r₁ h₁ hacc
            · obtain ⟨q', r, hq', heq⟩ | hrest := h.wired found' hm
              · refine .inl ⟨q', r, ?_, heq⟩
                rw [AList.lookup_insert_ne]
                · exact hq'
                · rintro rfl
                  exact hq (Assoc.mem_iff_exists.2 ⟨r, hq'⟩)
              · exact .inr hrest

theorem WiredInv.configure {w : World} (h : WiredInv w) {q : String} {r : CreateRequest}
    (hq : w.creates.lookup q = some r) (hplace : r.place = .checked) :
    WiredInv (w.configure q r) := by
  unfold World.configure
  split
  · exact h
  · refine h.frame (goesOn_insert hq ⟨rfl, fun _ => ?_, ?_⟩) (fun e he => .inl he) (fun e he => he)
      (fun _ _ => rfl) (fun _ _ hend => hend) (fun _ _ hreg => .inl (hreg.of_lookup rfl rfl))
      fun k e hk _ => .inl hk
    · rw [hplace]
      trivial
    · rintro existed (hp | hp) <;> cases hp

theorem WiredInv.recordLive {w : World} (h : WiredInv w) {q : String} {r : CreateRequest}
    {existed : Bool} (hq : w.creates.lookup q = some r) (hplace : r.place = .created existed) :
    WiredInv (w.recordLive true q r existed) := by
  unfold World.recordLive
  rw [if_pos rfl]
  refine h.frame (goesOn_insert hq ⟨rfl, False.elim, ?_⟩) ?_ (fun e he => List.mem_cons_of_mem _ he)
    (fun _ _ => rfl) (fun _ _ hend => hend) (fun _ _ hreg => .inl (hreg.of_lookup rfl rfl))
    fun k e hk _ => .inl hk
  · rintro existed' (hp | hp) <;> cases hp
    exact .inl hplace
  · intro e he
    obtain rfl | he := List.mem_cons.1 he
    · exact .inr ⟨fun _ => nofun, fun _ _ _ _ => nofun⟩
    · exact .inl he

/-- The engine has made the match of the request `q`. -/
theorem WiredInv.made {w : World} (h : WiredInv w) {q : String} {r r' : CreateRequest}
    {n : Node} {g : Game} (hq : w.creates.lookup q = some r) (hearly : r.place.Early)
    (hfound : r'.found = r.found) (hplace : r'.place = .created false)
    (hmaps : n.matchUsers = w.node.matchUsers ∧ n.matchModes = w.node.matchModes)
    (hfind : ∀ mode id, n.find mode id =
      if mode = r.mode ∧ id = r.found.matchID then some g else w.node.find mode id) :
    WiredInv
      { w with node := n, creates := w.creates.insert q r', log := .created r.found :: w.log } := by
  have hnone := h.early q r hq hearly
  -- a match made earlier has another identity
  have hother : ∀ mode id, (w.node.find mode id).isSome → id ≠ r.found.matchID := by
    rintro mode id hsome rfl
    rw [hnone mode] at hsome
    cases hsome
  have hkept : ∀ mode id, id ≠ r.found.matchID → n.find mode id = w.node.find mode id := by
    intro mode id hid
    rw [hfind, if_neg fun hboth => hid hboth.2]
  have hmade : ∀ found, .created found ∈ w.log → found.matchID ≠ r.found.matchID :=
    fun found hm => hother _ _ ((h.unique found hm (requestMode found)).2 rfl)
  have hended : ∀ mode id, w.node.Ended mode id → n.Ended mode id := by
    rintro mode id ⟨g', hg', hend⟩
    refine ⟨g', ?_, hend⟩
    rw [hkept mode id (hother mode id (by rw [hg']; rfl))]
    exact hg'
  have hlookup : ∀ {q' : String} {r₁ : CreateRequest}, (w.creates.insert q r').lookup q' = some r₁ →
      ∃ r₂, w.creates.lookup q' = some r₂ ∧ r₁.found = r₂.found ∧
        (q' = q ∧ r₁ = r' ∨ q' ≠ q ∧ r₁ = r₂) := by
    intro q' r₁ hq'
    rw [Assoc.lookup_insert] at hq'
    split_ifs at hq' with heq
    · subst heq
      cases hq'
      exact ⟨r, hq, hfound, .inl ⟨rfl, rfl⟩⟩
    · exact ⟨r₁, hq', rfl, .inr ⟨heq, rfl⟩⟩
  refine
    { apart := fun q₁ q₂ r₁ r₂ h₁ h₂ hid => ?_
      early := fun q₁ r₁ h₁ hearly mode => ?_
      late := fun q₁ r₁ existed h₁ hlate => ?_
      unanswered := fun q₁ r₁ h₁ hacc => ?_
      accepted := fun matchID hacc => ?_
      unique := fun found hm mode => ?_
      once := fun found found' hm hm' hid => ?_
      known := fun mode id hg => ?_
      wired := fun found hm => ?_
      ends := fun k e hk hp => ?_
      untouched := fun matchID status existed touched hmem =>
        h.untouched matchID status existed touched (by simpa using hmem) }
  · obtain ⟨r₁', hr₁, hf₁, -⟩ := hlookup h₁
    obtain ⟨r₂', hr₂, hf₂, -⟩ := hlookup h₂
    rw [hf₁, hf₂] at hid
    exact h.apart q₁ q₂ r₁' r₂' hr₁ hr₂ hid
  · obtain ⟨r₁', hr₁, -, ⟨-, rfl⟩ | ⟨hne, rfl⟩⟩ := hlookup h₁
    · rw [hplace] at hearly
      exact hearly.elim
    · dsimp only
      rw [hkept mode _ fun hid => hne (h.apart q₁ q r₁ r hr₁ hq hid)]
      exact h.early q₁ r₁ hr₁ hearly mode
  · obtain ⟨r₁', hr₁, -, ⟨-, rfl⟩ | ⟨-, rfl⟩⟩ := hlookup h₁
    · rw [hplace] at hlate
      obtain hp | hp := hlate <;> cases hp
      exact ⟨rfl, by rw [hfound]; exact List.mem_cons_self⟩
    · obtain ⟨hexisted, hm⟩ := h.late q₁ r₁ existed hr₁ hlate
      exact ⟨hexisted, List.mem_cons_of_mem _ hm⟩
  · obtain ⟨r₁', hr₁, hf, -⟩ := hlookup h₁
    obtain ⟨status, existed, touched, hmem, hok⟩ := hacc
    rw [hf] at hmem
    exact h.unanswered q₁ r₁' hr₁ ⟨status, existed, touched, by simpa using hmem, hok⟩
  · obtain ⟨status, existed, touched, hmem, hok⟩ := hacc
    obtain ⟨found, hm, hid⟩ := h.accepted matchID ⟨status, existed, touched, by simpa using hmem, hok⟩
    exact ⟨found, List.mem_cons_of_mem _ hm, hid⟩
  · dsimp only
    obtain heq | hm := List.mem_cons.1 hm
    · cases heq
      rw [hfind]
      by_cases hmode : mode = r.mode
      · simp [hmode, CreateRequest.mode]
      · rw [if_neg fun hboth => hmode hboth.1, hnone mode]
        simpa [CreateRequest.mode] using hmode
    · rw [hkept mode _ (hmade found hm)]
      exact h.unique found hm mode
  · obtain heq | hm := List.mem_cons.1 hm <;> obtain heq' | hm' := List.mem_cons.1 hm'
    · rw [Event.created.inj heq, Event.created.inj heq']
    · rw [Event.created.inj heq] at hid
      exact absurd hid.symm (hmade found' hm')
    · rw [Event.created.inj heq'] at hid
      exact absurd hid (hmade found hm)
    · exact h.once found found' hm hm' hid
  · by_cases hid : id = r.found.matchID
    · exact ⟨r.found, List.mem_cons_self, hid.symm⟩
    · dsimp only at hg
      rw [hkept mode id hid] at hg
      obtain ⟨found, hm, heq⟩ := h.known mode id hg
      exact ⟨found, List.mem_cons_of_mem _ hm, heq⟩
  · obtain heq | hold := List.mem_cons.1 hm
    · rw [Event.created.inj heq]
      exact .inl ⟨q, r', AList.lookup_insert _, hfound⟩
    · obtain ⟨q', r₁, hq', heq⟩ | hreg | hend := h.wired found hold
      · refine .inl ⟨q', r₁, ?_, heq⟩
        rw [AList.lookup_insert_ne]
        · exact hq'
        · rintro rfl
          rw [hq] at hq'
          cases hq'
          exact hmade found hold (congrArg MatchFound.matchID heq).symm
      · refine .inr (.inl (hreg.of_lookup ?_ ?_))
        · exact congrArg (AList.lookup _) hmaps.2
        · exact congrArg (AList.lookup _) hmaps.1
      · exact .inr (.inr (hended _ _ hend))
  · obtain ⟨mode, hend⟩ := h.ends k e hk hp
    exact ⟨mode, hended _ _ hend⟩

theorem WiredInv.engineCreate {w : World} (h : WiredInv w) {clk : Clock}
    {provider : Duel.RoundProvider} {q : String} {r : CreateRequest}
    (hq : w.creates.lookup q = some r) (hplace : r.place = .configured)
    (hcreatable : ∀ runtime, w.node.runtimes.lookup r.mode = some runtime →
      runtime.Creatable provider r.found) : WiredInv (w.engineCreate F clk provider q r) := by
  have hearly : r.place.Early := by rw [hplace]; trivial
  unfold World.engineCreate
  cases hr : w.node.runtimes.lookup r.mode with
  | none => exact h
  | some runtime =>
      have hmissing : runtime.find r.found.matchID = none := by
        have hfind := h.early q r hq hearly r.mode
        rwa [Node.find, hr] at hfind
      obtain ⟨runtime', hc⟩ := createMatch_of_creatable (F := F) (hcreatable runtime hr) hmissing clk
        (normalizeMatchConfig r.found.config)
      obtain ⟨-, g, -, -, hfind⟩ := Node.find_create hr hc
      dsimp only
      rw [hc]
      exact h.made hq hearly rfl rfl ⟨rfl, rfl⟩ hfind

/-- The request registers its match and answers. -/
theorem WiredInv.register {w : World} (h : WiredInv w) {q : String} {r : CreateRequest}
    {existed : Bool} (hq : w.creates.lookup q = some r) (hplace : r.place = .recorded existed) :
    WiredInv (w.register q r existed) := by
  obtain ⟨hexisted, hmade⟩ := h.late q r existed hq (.inr hplace)
  have hlookup : ∀ {q' r₁}, (w.creates.erase q).lookup q' = some r₁ →
      w.creates.lookup q' = some r₁ ∧ r₁.found.matchID ≠ r.found.matchID := by
    intro q' r₁ hq'
    rw [Assoc.lookup_erase] at hq'
    split_ifs at hq' with hne
    exact ⟨hq', fun hid => hne (h.apart q' q r₁ r hq' hq hid)⟩
  have haccepted : ∀ matchID, World.Accepted (w.register q r existed) matchID →
      matchID = r.found.matchID ∨ w.Accepted matchID := by
    rintro matchID ⟨status, existed', touched, hmem, hok⟩
    obtain heq | hmem := List.mem_cons.1 hmem
    · exact .inl (Event.answered.inj heq).1
    · exact .inr ⟨status, existed', touched, by simpa using hmem, hok⟩
  refine
    { apart := fun q₁ q₂ r₁ r₂ h₁ h₂ hid =>
        h.apart q₁ q₂ r₁ r₂ (hlookup h₁).1 (hlookup h₂).1 hid
      early := fun q₁ r₁ h₁ hearly => h.early q₁ r₁ (hlookup h₁).1 hearly
      late := fun q₁ r₁ existed' h₁ hlate => ?_
      unanswered := fun q₁ r₁ h₁ hacc => ?_
      accepted := fun matchID hacc => ?_
      unique := fun found hm => h.unique found (by simpa [World.register, World.answer] using hm)
      once := fun found found' hm hm' => h.once found found'
        (by simpa [World.register, World.answer] using hm)
        (by simpa [World.register, World.answer] using hm')
      known := fun mode id hg => ?_
      wired := fun found hm => ?_
      ends := h.ends
      untouched := fun matchID status existed' touched hmem hbad => ?_ }
  · obtain ⟨hex, hm⟩ := h.late q₁ r₁ existed' (hlookup h₁).1 hlate
    exact ⟨hex, by simpa [World.register, World.answer] using hm⟩
  · obtain heq | hacc := haccepted _ hacc
    · exact (hlookup h₁).2 heq
    · exact h.unanswered q₁ r₁ (hlookup h₁).1 hacc
  · obtain rfl | hacc := haccepted _ hacc
    · exact ⟨r.found, by simpa [World.register, World.answer] using hmade, rfl⟩
    · obtain ⟨found, hm, hid⟩ := h.accepted _ hacc
      exact ⟨found, by simpa [World.register, World.answer] using hm, hid⟩
  · obtain ⟨found, hm, hid⟩ := h.known mode id hg
    exact ⟨found, by simpa [World.register, World.answer] using hm, hid⟩
  · have hm' : .created found ∈ w.log := by simpa [World.register, World.answer] using hm
    by_cases hid : found.matchID = r.found.matchID
    · obtain rfl := h.once found r.found hm' hmade hid
      refine .inr (.inl ⟨AList.lookup_insert _, AList.lookup_insert _, ?_⟩)
      exact modeOf_eq (requestMode_ne_unset _) (AList.lookup_insert _)
    · obtain ⟨q', r₁, hq', heq⟩ | hreg | hend := h.wired found hm'
      · refine .inl ⟨q', r₁, ?_, heq⟩
        have hne : q' ≠ q := by
          rintro rfl
          rw [hq] at hq'
          cases hq'
          exact hid (congrArg MatchFound.matchID heq).symm
        exact (Assoc.lookup_erase _ _ _).trans (by rw [if_neg hne]; exact hq')
      · exact .inr (.inl (hreg.of_lookup (AList.lookup_insert_ne hid) (AList.lookup_insert_ne hid)))
      · exact .inr (.inr hend)
  · obtain heq | hmem := List.mem_cons.1 hmem
    · obtain ⟨-, rfl, rfl, -⟩ := Event.answered.inj heq
      rw [hexisted] at hbad
      simp at hbad
    · exact h.untouched _ _ _ _ (by simpa using hmem) hbad

theorem WiredInv.enter {w : World} (h : WiredInv w) {k : String} {e : EndCall}
    (hk : w.ends.lookup k = some e) (hplace : e.place = .called) : WiredInv (w.enter k e) := by
  unfold World.enter
  split_ifs
  · obtain ⟨mode, hend⟩ := h.ends k e hk hplace
    refine h.frame (goesOn_refl _) ?_ (fun e he => List.mem_cons_of_mem _ he) (fun _ _ => rfl)
      (fun _ _ he => he) (fun found hm hreg => ?_) fun k' e' hk' hp' => ?_
    · intro e' he'
      obtain rfl | he' := List.mem_cons.1 he'
      · exact .inr ⟨fun _ => nofun, fun _ _ _ _ => nofun⟩
      · exact .inl he'
    · by_cases hid : found.matchID = e.matchID
      · -- the match that leaves the maps has ended
        obtain ⟨g, hg, hended⟩ := hend
        rw [← hid] at hg
        have hmode := (h.unique found hm mode).1 (by rw [hg]; rfl)
        exact .inr ⟨g, by rw [← hmode]; exact hg, hended⟩
      · refine .inl (hreg.of_lookup ?_ ?_)
        · exact (Assoc.lookup_erase _ _ _).trans (if_neg hid)
        · exact (Assoc.lookup_erase _ _ _).trans (if_neg hid)
    · rw [Assoc.lookup_insert] at hk'
      split_ifs at hk'
      · cases hk'
        cases hp'
      · exact .inl hk'
  · refine h.frame (goesOn_refl _) (fun e he => .inl he) (fun e he => he) (fun _ _ => rfl)
      (fun _ _ he => he) (fun _ _ hreg => .inl (hreg.of_lookup rfl rfl)) fun k' e' hk' _ => ?_
    rw [Assoc.lookup_erase] at hk'
    split_ifs at hk'
    exact .inl hk'

/-- A store write of an end: the call goes on or is over, and the log may grow by the write. -/
theorem WiredInv.store {w : World} (h : WiredInv w) {ends : Assoc String EndCall}
    {log : List Event} (hends : ∀ k e, ends.lookup k = some e → e.place = .called →
      w.ends.lookup k = some e)
    (hlog : log = w.log ∨ (∃ id snap, log = .recordMatchResult id snap :: w.log) ∨
      ∃ id, log = .recordRuntimeMatch id .ended :: w.log) :
    WiredInv { w with ends := ends, log := log } := by
  refine h.frame (goesOn_refl _) (fun e he => ?_) (fun e he => ?_) (fun _ _ => rfl)
    (fun _ _ he => he) (fun _ _ hreg => .inl (hreg.of_lookup rfl rfl))
    fun k e hk hp => .inl (hends k e hk hp)
  · obtain rfl | ⟨id, snap, rfl⟩ | ⟨id, rfl⟩ := hlog
    · exact .inl he
    · obtain rfl | he := List.mem_cons.1 he
      · exact .inr ⟨fun _ => nofun, fun _ _ _ _ => nofun⟩
      · exact .inl he
    · obtain rfl | he := List.mem_cons.1 he
      · exact .inr ⟨fun _ => nofun, fun _ _ _ _ => nofun⟩
      · exact .inl he
  · obtain rfl | ⟨id, snap, rfl⟩ | ⟨id, rfl⟩ := hlog
    · exact he
    · exact List.mem_cons_of_mem _ he
    · exact List.mem_cons_of_mem _ he

theorem WiredInv.recordResult {w : World} (h : WiredInv w) (k : String) (e : EndCall) :
    WiredInv (w.recordResult k e) := by
  refine h.store (fun k' e' hk' hp' => ?_) ?_
  · rw [Assoc.lookup_insert] at hk'
    split_ifs at hk'
    · cases hk'
      cases hp'
    · exact hk'
  · split_ifs
    · exact .inr (.inl ⟨_, _, rfl⟩)
    · exact .inl rfl

theorem WiredInv.recordEnded {w : World} (h : WiredInv w) (stored : Bool) (k : String)
    (e : EndCall) : WiredInv (w.recordEnded stored k e) := by
  refine h.store (fun k' e' hk' _ => ?_) ?_
  · rw [Assoc.lookup_erase] at hk'
    split_ifs at hk'
    exact hk'
  · split_ifs
    · exact .inr (.inr ⟨_, rfl⟩)
    · exact .inl rfl

theorem WiredInv.step {w w' : World} {op : Op} (h : WiredInv w) (hC : Orderly w op)
    (hw : w.step F op = some w') : WiredInv w' := by
  cases op with
  | createMatch clk accepted q found =>
      simp only [World.step] at hw
      split_ifs at hw with hq
      cases hw
      refine h.createMatch hq hC.1 fun mode hsome => ?_
      obtain ⟨g, hg⟩ := Option.isSome_iff_exists.1 hsome
      obtain ⟨runtime, hr, hfind⟩ := Option.bind_eq_some_iff.1 hg
      exact hC.2 mode runtime hr (by rw [hfind]; rfl)
  | configure q =>
      simp only [World.step] at hw
      split at hw
      · next r hq =>
          split_ifs at hw with hplace
          cases hw
          exact h.configure hq hplace
      · cases hw
  | engineCreate clk provider q =>
      simp only [World.step] at hw
      split at hw
      · next r hq =>
          split_ifs at hw with hplace
          cases hw
          exact h.engineCreate hq hplace (hC r hq)
      · cases hw
  | recordLive stored q =>
      obtain rfl : stored = true := hC
      simp only [World.step] at hw
      split at hw
      · next r hq =>
          split at hw
          · next existed hplace =>
              cases hw
              exact h.recordLive hq hplace
          · cases hw
      · cases hw
  | register q =>
      simp only [World.step] at hw
      split at hw
      · next r hq =>
          split at hw
          · next existed hplace =>
              cases hw
              exact h.register hq hplace
          · cases hw
      · cases hw
  | enter k =>
      simp only [World.step] at hw
      split at hw
      · next e hk =>
          split_ifs at hw with hplace
          cases hw
          exact h.enter hk hplace
      · cases hw
  | recordResult k =>
      simp only [World.step] at hw
      split at hw
      · next e hk =>
          split_ifs at hw
          cases hw
          exact h.recordResult k e
      · cases hw
  | recordEnded stored k =>
      simp only [World.step] at hw
      split at hw
      · next e hk =>
          split_ifs at hw
          cases hw
          exact h.recordEnded stored k e
      · cases hw
  | command | mark | tick | visit | terminate =>
      refine h.played (World.played_step ?_ hw)
      trivial

/-- In every run in which the creations of a match are alone and do not fail, a created match is
wired to the node. -/
theorem wired_of_orderly (F : FloatMath) (ops : List Op)
    (hC : Run.Guarded (World.step F) Orderly World.init ops) :
    Run.Always (World.step F) Wired World.init ops :=
  (Run.always_of_invariant (fun _ _ _ h hC hw => WiredInv.step h hC hw) wiredInv_init hC).mono
    fun _ h => h.isWired

/-- The match `m` of `u1` and `u2`. -/
def partyFound : MatchFound := { matchID := "m", mode := .duel, players := ["u1", "u2"] }

/-- The steps of a creation under the name `q`. -/
def creation (q : String) (stored : Bool) : List Op :=
  [.createMatch (Duel.second 0) true q partyFound, .configure q,
    .engineCreate (Duel.second 0) Duel.originProvider q, .recordLive stored q]

/-- A match is created, a second request finds it, and a forfeit ends it. -/
def orderlyRun : List Op :=
  creation "a" true ++ [.register "a", .createMatch (Duel.second 1) true "b" partyFound,
    .command "end" (.forfeit (Duel.second 2) "m" "u1"), .enter "end", .recordResult "end",
    .recordEnded true "end"]

theorem wired_orderlyRun : Run.Always (World.step .coarse) Wired World.init orderlyRun :=
  wired_of_orderly .coarse orderlyRun (by decide +kernel)

/-- The write of the runtime state fails, and the retry finds the match in the engine. -/
def retriedRun : List Op :=
  creation "a" false ++ [.createMatch (Duel.second 1) true "b" partyFound]

def Event.isCreated (found : MatchFound) : Event → Bool
  | .created found' => found' = found
  | _ => false

def Event.isExists (matchID : MatchID) : Event → Bool
  | .answered matchID' status _ _ => matchID' = matchID ∧ status = .exists_
  | _ => false

theorem not_wired_retriedRun :
    ¬ Run.Always (World.step .coarse) Wired World.init retriedRun := by
  have hrun : ∃ w ∈ Run.exec (World.step .coarse) World.init retriedRun,
      (∃ e ∈ w.log, e.isCreated partyFound) ∧ (∃ e ∈ w.log, e.isExists "m") ∧
        (∀ g ∈ w.node.find .duel "m", g.state ≠ .ended) ∧ w.node.matchModes.lookup "m" = none := by
    decide +kernel
  obtain ⟨w, hw, ⟨e, he, hcreated⟩, ⟨e', he', hexists⟩, hlive, hmodes⟩ := hrun
  intro h
  cases e with
  | created found =>
      obtain rfl : found = partyFound := by simpa [Event.isCreated] using hcreated
      cases e' with
      | answered id status existed touched =>
          obtain ⟨rfl, rfl⟩ : id = "m" ∧ status = .exists_ := by simpa [Event.isExists] using hexists
          have hwired := (h.exec hw).registered partyFound he ⟨_, _, _, he', by decide⟩
            fun ⟨g, hg, hended⟩ => hlive g hg hended
          exact absurd (hwired.1.symm.trans hmodes) (by decide)
      | _ => cases hexists
  | _ => cases hcreated

end GeoDuels.GameplayNode
