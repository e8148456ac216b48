import GeoDuels.MatchPage.Route

/-!
# What the page of a match shows

The answers for earlier targets come late, but what the page shows has been answered to its last request
(`shows_answer`).  It waits in vain in one case only (`routeNeverStuck_iff`): a session refresh that an
earlier target has left behind comes to its end when the page has already got its answer, or the page is
started again after it was destroyed while it waited.
-/

namespace GeoDuels.MatchPage

namespace RoutePage

variable {p p' : RoutePage} {seq : ℕ} {r : Resolve} {e : RouteEvent}

/-! ## Runs of `resolve` -/

/-- The run of the request controller is the last one, for the target; all others are aborted. -/
structure Tracked (p : RoutePage) : Prop where
  bounded : ∀ seq r, p.resolves.lookup seq = some r → seq ≤ p.resolveSeq
  current : ∀ seq, p.requestController = some seq → seq = p.resolveSeq ∧
    ∃ r, p.resolves.lookup seq = some r ∧ r.aborted = false ∧ r.matchId = p.state.targetMatchId
  live : ∀ seq r, p.resolves.lookup seq = some r → r.aborted = false → p.requestController = some seq

theorem Tracked.isCurrent (h : Tracked p) (hr : p.resolves.lookup seq = some r) (hlive : r.aborted = false) :
    p.requestController = some seq ∧ p.IsCurrent seq r.matchId := by
  have hcontroller := h.live seq r hr hlive
  obtain ⟨hseq, r', hr', -, htarget⟩ := h.current seq hcontroller
  obtain rfl := Option.some.inj (hr.symm.trans hr')
  exact ⟨hcontroller, hseq, htarget.symm⟩

/-- A change of what is shown. -/
theorem Tracked.patchState (h : Tracked p) {patch : MatchRouteState → MatchRouteState}
    (hpatch : ∀ s, (patch s).targetMatchId = s.targetMatchId) : Tracked (p.patchState patch) where
  bounded := h.bounded
  current seq hc := by
    obtain ⟨hseq, r, hr, hlive, htarget⟩ := h.current seq hc
    exact ⟨hseq, r, hr, hlive, htarget.trans (hpatch p.state).symm⟩
  live := h.live

theorem Tracked.setStatus (h : Tracked p) (status : MatchRouteStatus) :
    Tracked (p.patchState fun s => { s with status := status }) := h.patchState fun _ => rfl

/-- The target changes while no request is in progress. -/
theorem Tracked.retarget (h : Tracked p) (hnone : p.requestController = none)
    (patch : MatchRouteState → MatchRouteState) : Tracked (p.patchState patch) where
  bounded := h.bounded
  current seq hc := by cases hnone.symm.trans hc
  live := h.live

/-- What is left of a run when its request may have been aborted. -/
theorem lookup_clearPendingWork (hr : p.clearPendingWork.resolves.lookup seq = some r) :
    ∃ r₀, p.resolves.lookup seq = some r₀ ∧ r.matchId = r₀.matchId ∧ r.phase = r₀.phase ∧
      (r.aborted = false → r₀.aborted = false ∧ p.requestController ≠ some seq) := by
  unfold clearPendingWork at hr
  cases hc : p.requestController with
  | none =>
      rw [hc] at hr
      exact ⟨r, hr, rfl, rfl, fun hlive => ⟨hlive, by simp⟩⟩
  | some seq' =>
      rw [hc] at hr
      dsimp only [Option.elim_some] at hr
      rw [Assoc.lookup_modify] at hr
      split_ifs at hr with hseq
      · obtain ⟨r₀, hr₀, rfl⟩ := Option.map_eq_some_iff.1 hr
        exact ⟨r₀, hr₀, rfl, rfl, fun hlive => by cases hlive⟩
      · exact ⟨r, hr, rfl, rfl, fun hlive => ⟨hlive, fun heq => hseq (Option.some.inj heq).symm⟩⟩

theorem Tracked.clearPendingWork (h : Tracked p) : Tracked p.clearPendingWork where
  bounded seq r hr := by
    obtain ⟨r₀, hr₀, -⟩ := lookup_clearPendingWork hr
    exact h.bounded seq r₀ hr₀
  current seq hc := by cases hc
  live seq r hr hlive := by
    obtain ⟨r₀, hr₀, -, -, haborted⟩ := lookup_clearPendingWork hr
    obtain ⟨hlive₀, hne⟩ := haborted hlive
    exact absurd (h.live seq r₀ hr₀ hlive₀) hne

theorem Tracked.resolve (h : Tracked p) (matchId : String) (htarget : p.state.targetMatchId = matchId) :
    Tracked (p.resolve matchId) := by
  have hclear := h.clearPendingWork
  refine ⟨fun seq r hr => ?_, fun seq hc => ?_, fun seq r hr hlive => ?_⟩
  · rcases Assoc.of_lookup_insert hr with ⟨rfl, -⟩ | ⟨-, hr⟩
    · exact le_rfl
    · exact Nat.le_succ_of_le (hclear.bounded seq r hr)
  · obtain rfl := Option.some.inj hc
    exact ⟨rfl, _, AList.lookup_insert _, rfl, htarget.symm⟩
  · rcases Assoc.of_lookup_insert hr with ⟨rfl, -⟩ | ⟨-, hr⟩
    · rfl
    · cases hclear.live seq r hr hlive

theorem Tracked.setTargetMatch (h : Tracked p) (nextMatchId : String) :
    Tracked (p.setTargetMatch nextMatchId) := by
  unfold RoutePage.setTargetMatch
  split_ifs
  · exact h.clearPendingWork.retarget rfl _
  · exact h
  · exact (h.clearPendingWork.retarget rfl _).resolve nextMatchId rfl

theorem Tracked.waitFor (h : Tracked p) (hr : p.resolves.lookup seq = some r) (phase : ResolvePhase) :
    Tracked (p.waitFor seq r phase) where
  bounded j r' hr' := by
    rcases Assoc.of_lookup_insert hr' with ⟨rfl, -⟩ | ⟨-, hr'⟩
    · exact h.bounded j r hr
    · exact h.bounded j r' hr'
  current j hc := by
    obtain ⟨hj, r', hr', hlive, htarget⟩ := h.current j hc
    by_cases heq : j = seq
    · subst heq
      obtain rfl := Option.some.inj (hr.symm.trans hr')
      exact ⟨hj, _, AList.lookup_insert _, hlive, htarget⟩
    · exact ⟨hj, r', (AList.lookup_insert_ne heq).trans hr', hlive, htarget⟩
  live j r' hr' hlive := by
    rcases Assoc.of_lookup_insert hr' with ⟨rfl, rfl⟩ | ⟨-, hr'⟩
    · exact h.live j r hr hlive
    · exact h.live j r' hr' hlive

theorem Tracked.finish (h : Tracked p) (seq : ℕ) : Tracked (p.finish seq) where
  bounded j r hr := h.bounded j r (Assoc.of_lookup_erase hr).2
  current j hc := by
    dsimp only [RoutePage.finish] at hc
    split_ifs at hc with hseq
    obtain ⟨hj, r, hr, hlive, htarget⟩ := h.current j hc
    have hne : j ≠ seq := fun heq => hseq (heq ▸ hc)
    exact ⟨hj, r, (AList.lookup_erase_ne hne).trans hr, hlive, htarget⟩
  live j r hr hlive := by
    obtain ⟨hne, hr⟩ := Assoc.of_lookup_erase hr
    have hcontroller := h.live j r hr hlive
    dsimp only [RoutePage.finish]
    rw [if_neg fun heq => hne (Option.some.inj (hcontroller.symm.trans heq))]
    exact hcontroller

theorem Tracked.conclude (h : Tracked p) (seq : ℕ) (matchId : String)
    {patch : MatchRouteState → MatchRouteState}
    (hpatch : ∀ s, (patch s).targetMatchId = s.targetMatchId) : Tracked (p.conclude seq matchId patch) := by
  unfold RoutePage.conclude
  split_ifs
  · exact (h.patchState hpatch).finish seq
  · exact h.finish seq

/-! ## Waiting -/

def Waits (p : RoutePage) : Prop := p.state.status = .resolving ∨ p.state.status = .bootstrappingAuth

instance (p : RoutePage) : Decidable p.Waits := inferInstanceAs (Decidable (_ ∨ _))

/-- The page waits for its match, and no request for it is in progress. -/
def Stuck (p : RoutePage) : Prop := p.started ∧ p.Waits ∧ p.requestController = none

instance (p : RoutePage) : Decidable p.Stuck := inferInstanceAs (Decidable (_ ∧ _))

/-- The page goes on after the event: it is not started while it waits for nothing, and a session refresh
does not end when the page has got its answer. -/
def GoesOn (p : RoutePage) : RouteEvent → Prop
  | .start => p.Waits → p.requestController ≠ none
  | .ensured _ session => session → p.started → p.requestController ≠ none
  | _ => True

/-- A run that is not the one that the page waits for ends. -/
theorem not_stuck_finish (hstuck : ¬ p.Stuck) (hne : p.requestController ≠ some seq) :
    ¬ (p.finish seq).Stuck := by
  rintro ⟨hstarted, hwaits, hnone⟩
  dsimp only [RoutePage.finish] at hnone
  rw [if_neg hne] at hnone
  exact hstuck ⟨hstarted, hwaits, hnone⟩

theorem Tracked.requestController_ne (h : Tracked p) (hr : p.resolves.lookup seq = some r)
    (hr' : r.aborted = true ∨ ¬ p.IsCurrent seq r.matchId) : p.requestController ≠ some seq := by
  intro hseq
  obtain ⟨-, r', hlookup, hlive, -⟩ := h.current seq hseq
  obtain rfl := Option.some.inj (hr.symm.trans hlookup)
  rcases hr' with haborted | hcurrent
  · cases hlive.symm.trans haborted
  · exact hcurrent (h.isCurrent hr hlive).2

/-- A run shows what it ends with. -/
theorem not_stuck_conclude (h : Tracked p) (hr : p.resolves.lookup seq = some r) (hstuck : ¬ p.Stuck)
    {patch : MatchRouteState → MatchRouteState}
    (hpatch : ∀ s, (patch s).status ≠ .resolving ∧ (patch s).status ≠ .bootstrappingAuth) :
    ¬ (p.conclude seq r.matchId patch).Stuck := by
  unfold RoutePage.conclude
  split_ifs with hcurrent
  · rintro ⟨-, hwaits | hwaits, -⟩
    · exact (hpatch _).1 hwaits
    · exact (hpatch _).2 hwaits
  · exact not_stuck_finish hstuck (h.requestController_ne hr (.inr hcurrent))

/-! ## Steps -/

/-- The page is as it should be after an event, and not stuck. -/
def Well (p : RoutePage) : Prop := Tracked p ∧ ¬ p.Stuck

theorem Well.conclude (h : Well p) (hr : p.resolves.lookup seq = some r)
    {patch : MatchRouteState → MatchRouteState} (htarget : ∀ s, (patch s).targetMatchId = s.targetMatchId)
    (hstatus : ∀ s, (patch s).status ≠ .resolving ∧ (patch s).status ≠ .bootstrappingAuth) :
    Well (p.conclude seq r.matchId patch) :=
  ⟨h.1.conclude seq r.matchId htarget, not_stuck_conclude h.1 hr h.2 hstatus⟩

theorem Well.handleResolvedMatch (h : Well p) (hr : p.resolves.lookup seq = some r)
    (resolved : RouteResponse) : Well (p.handleResolvedMatch seq r resolved) := by
  cases resolved with
  | liveConnectable assigned =>
      dsimp only [RoutePage.handleResolvedMatch]
      split_ifs with hcurrent
      · exact ⟨h.1.waitFor hr _, h.2⟩
      · exact ⟨h.1.finish seq, not_stuck_finish h.2 (h.1.requestController_ne hr (.inr hcurrent))⟩
  | history | replaced | liveAuthRequired | forbidden | missing =>
      exact h.conclude hr (fun _ => rfl) fun _ => by simp

/-- A request that has been answered is in progress. -/
theorem Tracked.waiting (h : Tracked p) (hr : p.pending seq = some r) (hphase : r.phase.isRequest = true) :
    p.resolves.lookup seq = some r ∧ p.requestController = some seq := by
  obtain ⟨hr, hpending⟩ := Option.filter_eq_some_iff.1 hr
  have hlive : r.aborted = false := by simpa [Resolve.isAbortError, hphase] using hpending
  exact ⟨hr, (h.isCurrent hr hlive).1⟩

theorem onRouted_of_ne {resolved : RouteResponse} (h : ∀ matchId, resolved ≠ .liveAuthRequired matchId)
    (seq : ℕ) (r : Resolve) (session : Bool) (p : RoutePage) :
    p.onRouted seq r resolved session = p.handleResolvedMatch seq r resolved := by
  cases resolved with
  | liveAuthRequired matchId => exact absurd rfl (h matchId)
  | liveConnectable | history | replaced | missing | forbidden => rfl

theorem Well.onRouted (h : Well p) (hr : p.pending seq = some r) (hphase : r.phase = .routing)
    (resolved : RouteResponse) (session : Bool) : Well (p.onRouted seq r resolved session) := by
  obtain ⟨hr, hcontroller⟩ := h.1.waiting hr (by rw [hphase]; rfl)
  cases resolved with
  | liveAuthRequired =>
      dsimp only [RoutePage.onRouted]
      split_ifs
      · exact ⟨h.1.waitFor hr _, h.2⟩
      · refine ⟨(h.1.setStatus .bootstrappingAuth).waitFor hr _, fun hstuck => ?_⟩
        cases hcontroller.symm.trans hstuck.2.2
  | liveConnectable | history | replaced | missing | forbidden =>
      rw [onRouted_of_ne (by simp)]
      exact h.handleResolvedMatch hr _

theorem Well.onMatchChange (h : Well p) (m : MatchState) : Well (p.onMatchChange m) := by
  unfold RoutePage.onMatchChange
  split_ifs
  · exact h
  · exact ⟨h.1.setStatus _, fun hstuck => by simp [Stuck, Waits, RoutePage.patchState] at hstuck⟩
  · exact ⟨h.1.setStatus _, fun hstuck => by simp [Stuck, Waits, RoutePage.patchState] at hstuck⟩
  · exact h

theorem step_spec (h : Well p) (hs : p.step e = some p') : Tracked p' ∧ (¬ p'.Stuck ↔ p.GoesOn e) := by
  have hgoes : Well p' → p.GoesOn e → Tracked p' ∧ (¬ p'.Stuck ↔ p.GoesOn e) :=
    fun h hgo => ⟨h.1, iff_of_true h.2 hgo⟩
  cases e with
  | start =>
      obtain rfl := Option.some.inj hs
      refine ⟨⟨h.1.bounded, h.1.current, h.1.live⟩, ?_⟩
      simp [Stuck, GoesOn, Waits]
  | destroy =>
      obtain rfl := Option.some.inj hs
      have hclear := h.1.clearPendingWork
      exact hgoes ⟨⟨hclear.bounded, hclear.current, hclear.live⟩, fun hstuck => by cases hstuck.1⟩ trivial
  | reset =>
      obtain rfl := Option.some.inj hs
      refine hgoes ⟨h.1.clearPendingWork.retarget rfl _, ?_⟩ trivial
      rintro ⟨-, hwaits | hwaits, -⟩ <;> cases hwaits
  | setTargetMatch nextMatchId =>
      obtain rfl := Option.some.inj hs
      refine hgoes ⟨h.1.setTargetMatch nextMatchId, ?_⟩ trivial
      unfold RoutePage.setTargetMatch
      split_ifs
      · rintro ⟨-, hwaits | hwaits, -⟩ <;> cases hwaits
      · exact h.2
      · rintro ⟨-, -, hnone⟩
        cases hnone
  | matchChanged m =>
      dsimp only [step] at hs
      split_ifs at hs
      obtain rfl := Option.some.inj hs
      exact hgoes (h.onMatchChange m) trivial
  | routed seq resolved session =>
      obtain ⟨r, hr, hs⟩ := Option.bind_eq_some_iff.1 hs
      split at hs
      · rename_i hphase
        obtain rfl := Option.some.inj hs
        exact hgoes (h.onRouted hr hphase resolved session) trivial
      · obtain rfl := Option.some.inj hs
        exact hgoes (h.handleResolvedMatch (Option.filter_eq_some_iff.1 hr).1 resolved) trivial
      · cases hs
  | bootstrapped seq bootstrapped =>
      obtain ⟨r, hr, hs⟩ := Option.bind_eq_some_iff.1 hs
      split_ifs at hs
      obtain rfl := Option.some.inj hs
      refine hgoes ?_ trivial
      have hr := (Option.filter_eq_some_iff.1 hr).1
      cases bootstrapped with
      | none => exact h.conclude hr (fun _ => rfl) fun _ => by simp
      | some resolved => exact h.handleResolvedMatch hr resolved
  | ensured seq session =>
      obtain ⟨r, hr, hs⟩ := Option.bind_eq_some_iff.1 hs
      split_ifs at hs
      obtain rfl := Option.some.inj hs
      have hr := (Option.filter_eq_some_iff.1 hr).1
      cases session with
      | false => exact hgoes (h.conclude hr (fun _ => rfl) fun _ => by simp) (by simp [GoesOn])
      | true =>
          refine ⟨(h.1.setStatus .resolving).waitFor hr _, ?_⟩
          simp [Stuck, GoesOn, Waits, onEnsured, RoutePage.waitFor, RoutePage.patchState]
  | resumed seq ok =>
      obtain ⟨r, hr, hs⟩ := Option.bind_eq_some_iff.1 hs
      split_ifs at hs
      obtain rfl := Option.some.inj hs
      refine hgoes (h.conclude (Option.filter_eq_some_iff.1 hr).1 (fun _ => rfl) fun s => ?_) trivial
      cases ok <;> simp
  | failed seq =>
      obtain ⟨r, hr, rfl⟩ := Option.map_eq_some_iff.1 hs
      refine hgoes ?_ trivial
      dsimp only [onFailed]
      split_ifs with haborted
      · have haborted : r.aborted = true := (Bool.and_eq_true_iff.1 haborted).2
        exact ⟨h.1.finish seq, not_stuck_finish h.2 (h.1.requestController_ne hr (.inl haborted))⟩
      · exact h.conclude hr (fun _ => rfl) fun _ => by simp

theorem well_init : Well {} where
  left :=
    { bounded := fun seq r hr => by cases hr
      current := fun seq hc => by cases hc
      live := fun seq r hr => by cases hr }
  right := by decide

/-- Whatever is called and answered, the started page never waits without a request in progress for its
match, exactly when it goes on after all events. -/
theorem routeNeverStuck_iff (es : List RouteEvent) :
    Run.Always step (fun p => ¬ p.Stuck) {} es ↔ Run.Guarded step GoesOn {} es := by
  refine Run.always_iff_guarded Well ?_ (fun _ h => h.2) ?_ well_init
  · intro p e p' h hgo hs
    obtain ⟨htracked, hiff⟩ := step_spec h hs
    exact ⟨htracked, hiff.2 hgo⟩
  · intro p e p' h hgo hs hn
    exact hgo ((step_spec h hs).2.1 hn)

/-! ## What is shown -/

/-- A request is made for a match, or answered. -/
inductive RouteLog where
  | asked (seq : ℕ) (matchId : String)
  | answered (seq : ℕ) (resolved : RouteResponse)

/-- The call of `setTargetMatch` makes a request. -/
def Asks (p : RoutePage) (nextMatchId : String) : Prop :=
  nextMatchId ≠ "" ∧ ¬ (p.state.targetMatchId = nextMatchId ∧ p.state.status ≠ .missing)

instance (p : RoutePage) (nextMatchId : String) : Decidable (p.Asks nextMatchId) :=
  inferInstanceAs (Decidable (_ ∧ _))

def log (p : RoutePage) : RouteEvent → List RouteLog
  | .setTargetMatch nextMatchId =>
      if p.Asks nextMatchId then [.asked (p.resolveSeq + 1) nextMatchId] else []
  | .routed seq resolved _ | .bootstrapped seq (some resolved) => [.answered seq resolved]
  | _ => []

/-- The last request has been made for the target, and has been answered with `resolved`. -/
def Answered (log : List RouteLog) (p : RoutePage) (resolved : RouteResponse) : Prop :=
  .asked p.resolveSeq p.state.targetMatchId ∈ log ∧ .answered p.resolveSeq resolved ∈ log

/-- What the page shows is an answer to its last request. -/
def Shown (log : List RouteLog) (p : RoutePage) : Prop :=
  match p.state.status with
  | .history => ∃ matchId snapshot replacementMatchId sourceLobby,
      let resolved := RouteResponse.history matchId snapshot replacementMatchId sourceLobby
      Answered log p resolved ∧ p.state.historySnapshot = snapshot ∧ p.state.replacement = some resolved
  | .replaced => ∃ matchId replacementMatchId replacement sourceLobby,
      let resolved := RouteResponse.replaced matchId replacementMatchId replacement sourceLobby
      Answered log p resolved ∧ p.state.replacement = some resolved
  | .awaitingFirstSnapshot => ∃ assigned, Answered log p (.liveConnectable assigned)
  | .forbidden => ∃ matchId, Answered log p (.forbidden matchId) ∨ Answered log p (.liveAuthRequired matchId)
  | .bootstrappingAuth => ∃ matchId, Answered log p (.liveAuthRequired matchId)
  | .idle | .resolving | .missing => True

/-- What has been answered to a run before it waits. -/
def Expects (log : List RouteLog) (seq : ℕ) : ResolvePhase → Prop
  | .routing => True
  | .bootstrapping | .ensuring | .routingAgain => ∃ matchId, .answered seq (.liveAuthRequired matchId) ∈ log
  | .resuming => ∃ assigned, .answered seq (.liveConnectable assigned) ∈ log

/-- Each run has asked for its match, under a number of its own. -/
structure Logged (log : List RouteLog) (p : RoutePage) : Prop where
  tracked : Tracked p
  bounded : ∀ seq matchId, .asked seq matchId ∈ log → seq ≤ p.resolveSeq
  unique : ∀ seq matchId matchId', .asked seq matchId ∈ log → .asked seq matchId' ∈ log → matchId = matchId'
  runs : ∀ seq r, p.resolves.lookup seq = some r → .asked seq r.matchId ∈ log ∧ Expects log seq r.phase
  shown : Shown log p

variable {log log' : List RouteLog}

theorem Answered.mono {resolved : RouteResponse} (h : Answered log p resolved) (hlog : log ⊆ log') :
    Answered log' p resolved :=
  ⟨hlog h.1, hlog h.2⟩

theorem Expects.mono {phase : ResolvePhase} (h : Expects log seq phase) (hlog : log ⊆ log') :
    Expects log' seq phase := by
  cases phase with
  | routing => trivial
  | bootstrapping | ensuring | routingAgain =>
      obtain ⟨matchId, h⟩ := h
      exact ⟨matchId, hlog h⟩
  | resuming =>
      obtain ⟨assigned, h⟩ := h
      exact ⟨assigned, hlog h⟩

theorem Shown.mono (h : Shown log p) (hlog : log ⊆ log') : Shown log' p := by
  unfold Shown at h ⊢
  cases hstatus : p.state.status <;> rw [hstatus] at h
  case idle | resolving | missing => trivial
  case history =>
    obtain ⟨matchId, snapshot, replacementMatchId, sourceLobby, hanswered, hshown⟩ := h
    exact ⟨matchId, snapshot, replacementMatchId, sourceLobby, hanswered.mono hlog, hshown⟩
  case replaced =>
    obtain ⟨matchId, replacementMatchId, replacement, sourceLobby, hanswered, hshown⟩ := h
    exact ⟨matchId, replacementMatchId, replacement, sourceLobby, hanswered.mono hlog, hshown⟩
  case awaitingFirstSnapshot =>
    obtain ⟨assigned, hanswered⟩ := h
    exact ⟨assigned, hanswered.mono hlog⟩
  case forbidden =>
    obtain ⟨matchId, hanswered⟩ := h
    exact ⟨matchId, hanswered.imp (·.mono hlog) (·.mono hlog)⟩
  case bootstrappingAuth =>
    obtain ⟨matchId, hanswered⟩ := h
    exact ⟨matchId, hanswered.mono hlog⟩

theorem Logged.answered (h : Logged log p) (seq : ℕ) (resolved : RouteResponse) :
    Logged (log ++ [.answered seq resolved]) p := by
  have hlog : log ⊆ log ++ [.answered seq resolved] := List.subset_append_left log _
  have hasked : ∀ j matchId, RouteLog.asked j matchId ∈ log ++ [.answered seq resolved] →
      .asked j matchId ∈ log := by
    intro j matchId hmem
    simpa using hmem
  exact
    { tracked := h.tracked
      bounded := fun j matchId hmem => h.bounded j matchId (hasked j matchId hmem)
      unique := fun j m m' hm hm' => h.unique j m m' (hasked j m hm) (hasked j m' hm')
      runs := fun j r hr => ⟨hlog (h.runs j r hr).1, (h.runs j r hr).2.mono hlog⟩
      shown := h.shown.mono hlog }

/-- A request under a new number. -/
theorem Logged.asked (h : Logged log p) (matchId : String) :
    (∀ j m, RouteLog.asked j m ∈ log ++ [.asked (p.resolveSeq + 1) matchId] → j ≤ p.resolveSeq + 1) ∧
    ∀ j m m', RouteLog.asked j m ∈ log ++ [.asked (p.resolveSeq + 1) matchId] →
      .asked j m' ∈ log ++ [.asked (p.resolveSeq + 1) matchId] → m = m' := by
  have hcases : ∀ j m, RouteLog.asked j m ∈ log ++ [.asked (p.resolveSeq + 1) matchId] →
      .asked j m ∈ log ∧ j ≤ p.resolveSeq ∨ j = p.resolveSeq + 1 ∧ m = matchId := by
    intro j m hmem
    rcases List.mem_append.1 hmem with hmem | hmem
    · exact .inl ⟨hmem, h.bounded j m hmem⟩
    · exact .inr (by simpa using hmem)
  refine ⟨fun j m hm => ?_, fun j m m' hm hm' => ?_⟩
  · rcases hcases j m hm with ⟨-, hj⟩ | ⟨hj, -⟩ <;> omega
  · rcases hcases j m hm with ⟨hm, hj⟩ | ⟨hj, rfl⟩ <;> rcases hcases j m' hm' with ⟨hm', hj'⟩ | ⟨hj', rfl⟩
    · exact h.unique j m m' hm hm'
    · omega
    · omega
    · rfl

theorem Logged.waitFor (h : Logged log p) (hr : p.resolves.lookup seq = some r) {phase : ResolvePhase}
    (hexpects : Expects log seq phase) : Logged log (p.waitFor seq r phase) where
  tracked := h.tracked.waitFor hr phase
  bounded := h.bounded
  unique := h.unique
  runs j r' hr' := by
    rcases Assoc.of_lookup_insert hr' with ⟨rfl, rfl⟩ | ⟨-, hr'⟩
    · exact ⟨(h.runs j r hr).1, hexpects⟩
    · exact h.runs j r' hr'
  shown := h.shown

theorem Logged.patchState (h : Logged log p) {patch : MatchRouteState → MatchRouteState}
    (htarget : ∀ s, (patch s).targetMatchId = s.targetMatchId) (hshown : Shown log (p.patchState patch)) :
    Logged log (p.patchState patch) where
  tracked := h.tracked.patchState htarget
  bounded := h.bounded
  unique := h.unique
  runs := h.runs
  shown := hshown

theorem Logged.finish (h : Logged log p) (seq : ℕ) : Logged log (p.finish seq) where
  tracked := h.tracked.finish seq
  bounded := h.bounded
  unique := h.unique
  runs j r hr := h.runs j r (Assoc.of_lookup_erase hr).2
  shown := h.shown

theorem Logged.conclude (h : Logged log p) (seq : ℕ) (matchId : String)
    {patch : MatchRouteState → MatchRouteState} (htarget : ∀ s, (patch s).targetMatchId = s.targetMatchId)
    (hshown : p.IsCurrent seq matchId → Shown log (p.patchState patch)) :
    Logged log (p.conclude seq matchId patch) := by
  unfold RoutePage.conclude
  split_ifs with hcurrent
  · exact (h.patchState htarget (hshown hcurrent)).finish seq
  · exact h.finish seq

/-- The answer to the run that the page waits for. -/
theorem Logged.answers (h : Logged log p) (hr : p.resolves.lookup seq = some r)
    (hcurrent : p.IsCurrent seq r.matchId) {resolved : RouteResponse} (hanswer : .answered seq resolved ∈ log) :
    Answered log p resolved := by
  obtain ⟨rfl, htarget⟩ := hcurrent
  refine ⟨?_, hanswer⟩
  rw [htarget]
  exact (h.runs p.resolveSeq r hr).1

theorem Logged.handleResolvedMatch (h : Logged log p) (hr : p.resolves.lookup seq = some r)
    {resolved : RouteResponse} (hanswer : .answered seq resolved ∈ log) :
    Logged log (p.handleResolvedMatch seq r resolved) := by
  cases resolved with
  | liveConnectable assigned =>
      dsimp only [RoutePage.handleResolvedMatch]
      split_ifs
      · exact h.waitFor hr ⟨assigned, hanswer⟩
      · exact h.finish seq
  | history matchId snapshot replacementMatchId sourceLobby =>
      exact h.conclude seq r.matchId (fun _ => rfl) fun hcurrent =>
        ⟨matchId, snapshot, replacementMatchId, sourceLobby, h.answers hr hcurrent hanswer, rfl, rfl⟩
  | replaced matchId replacementMatchId replacement sourceLobby =>
      exact h.conclude seq r.matchId (fun _ => rfl) fun hcurrent =>
        ⟨matchId, replacementMatchId, replacement, sourceLobby, h.answers hr hcurrent hanswer, rfl⟩
  | liveAuthRequired matchId =>
      exact h.conclude seq r.matchId (fun _ => rfl) fun hcurrent =>
        ⟨matchId, .inr (h.answers hr hcurrent hanswer)⟩
  | forbidden matchId =>
      exact h.conclude seq r.matchId (fun _ => rfl) fun hcurrent =>
        ⟨matchId, .inl (h.answers hr hcurrent hanswer)⟩
  | missing => exact h.conclude seq r.matchId (fun _ => rfl) fun _ => trivial

theorem Logged.onRouted (h : Logged log p) (hr : p.pending seq = some r) (hphase : r.phase = .routing)
    {resolved : RouteResponse} (hanswer : .answered seq resolved ∈ log) (session : Bool) :
    Logged log (p.onRouted seq r resolved session) := by
  obtain ⟨hr, hcontroller⟩ := h.tracked.waiting hr (by rw [hphase]; rfl)
  cases resolved with
  | liveAuthRequired matchId =>
      dsimp only [RoutePage.onRouted]
      split_ifs
      · exact h.waitFor hr ⟨matchId, hanswer⟩
      · have hcurrent : p.IsCurrent seq r.matchId := by
          obtain ⟨hseq, r', hr', -, htarget⟩ := h.tracked.current seq hcontroller
          obtain rfl := Option.some.inj (hr.symm.trans hr')
          exact ⟨hseq, htarget.symm⟩
        have hpatch : Logged log (p.patchState fun s => { s with status := .bootstrappingAuth }) :=
          h.patchState (fun _ => rfl) ⟨matchId, h.answers hr hcurrent hanswer⟩
        exact hpatch.waitFor hr ⟨matchId, hanswer⟩
  | liveConnectable | history | replaced | missing | forbidden =>
      rw [onRouted_of_ne (by simp)]
      exact h.handleResolvedMatch hr hanswer

theorem Logged.clearPendingWork (h : Logged log p) : Logged log p.clearPendingWork where
  tracked := h.tracked.clearPendingWork
  bounded := h.bounded
  unique := h.unique
  runs seq r hr := by
    obtain ⟨r₀, hr₀, hmatch, hphase, -⟩ := lookup_clearPendingWork hr
    rw [hmatch, hphase]
    exact h.runs seq r₀ hr₀
  shown := h.shown

/-- Another target, and nothing is shown of it yet. -/
theorem Logged.retarget (h : Logged log p) (targetMatchId : String) {status : MatchRouteStatus}
    (hstatus : status = .idle ∨ status = .missing) :
    Logged log (p.clearPendingWork.patchState fun _ =>
      { targetMatchId := targetMatchId, status := status }) where
  tracked := h.tracked.clearPendingWork.retarget rfl _
  bounded := h.bounded
  unique := h.unique
  runs := h.clearPendingWork.runs
  shown := by rcases hstatus with rfl | rfl <;> trivial

theorem Logged.resolve (h : Logged log p) {matchId : String} (htarget : p.state.targetMatchId = matchId) :
    Logged (log ++ [.asked (p.resolveSeq + 1) matchId]) (p.resolve matchId) where
  tracked := h.tracked.resolve matchId htarget
  bounded := (h.asked matchId).1
  unique := (h.asked matchId).2
  runs seq r hr := by
    rcases Assoc.of_lookup_insert hr with ⟨rfl, rfl⟩ | ⟨-, hr⟩
    · exact ⟨List.mem_append_right log (List.mem_singleton_self _), trivial⟩
    · obtain ⟨hasked, hexpects⟩ := h.clearPendingWork.runs seq r hr
      exact ⟨List.mem_append_left _ hasked, hexpects.mono (List.subset_append_left log _)⟩
  shown := trivial

theorem Logged.setTargetMatch (h : Logged log p) (nextMatchId : String) :
    Logged (log ++ p.log (.setTargetMatch nextMatchId)) (p.setTargetMatch nextMatchId) := by
  dsimp only [RoutePage.log]
  unfold RoutePage.setTargetMatch
  by_cases hasks : p.Asks nextMatchId
  · rw [if_pos hasks, if_neg hasks.1, if_neg hasks.2]
    exact (h.retarget nextMatchId (.inl rfl)).resolve rfl
  · rw [if_neg hasks, List.append_nil]
    split_ifs with hblank hsame
    · exact h.retarget "" (.inr rfl)
    · exact h
    · exact absurd ⟨hblank, hsame⟩ hasks

theorem Logged.onMatchChange (h : Logged log p) (m : MatchState) : Logged log (p.onMatchChange m) := by
  unfold RoutePage.onMatchChange
  split_ifs
  · exact h
  · exact h.patchState (fun _ => rfl) trivial
  · exact h.patchState (fun _ => rfl) trivial
  · exact h

/-- A run that has been told to authenticate ends without a session. -/
theorem Logged.forbidden (h : Logged log p) (hr : p.resolves.lookup seq = some r)
    (hexpects : ∃ matchId, .answered seq (.liveAuthRequired matchId) ∈ log) :
    Logged log (p.conclude seq r.matchId fun s => { s with status := .forbidden }) := by
  obtain ⟨matchId, hanswer⟩ := hexpects
  exact h.conclude seq r.matchId (fun _ => rfl) fun hcurrent =>
    ⟨matchId, .inr (h.answers hr hcurrent hanswer)⟩

theorem logged_step (h : Logged log p) (hs : p.step e = some p') : Logged (log ++ p.log e) p' := by
  have hquiet : p.log e = [] → Logged log p' → Logged (log ++ p.log e) p' := by
    intro hnone h
    rwa [hnone, List.append_nil]
  cases e with
  | start =>
      obtain rfl := Option.some.inj hs
      refine hquiet rfl ?_
      exact ⟨⟨h.tracked.bounded, h.tracked.current, h.tracked.live⟩, h.bounded, h.unique, h.runs, h.shown⟩
  | destroy =>
      obtain rfl := Option.some.inj hs
      refine hquiet rfl ?_
      have hclear := h.clearPendingWork
      exact ⟨⟨hclear.tracked.bounded, hclear.tracked.current, hclear.tracked.live⟩, hclear.bounded,
        hclear.unique, hclear.runs, hclear.shown⟩
  | reset =>
      obtain rfl := Option.some.inj hs
      refine hquiet rfl ?_
      exact h.retarget "" (.inl rfl)
  | setTargetMatch nextMatchId =>
      obtain rfl := Option.some.inj hs
      exact h.setTargetMatch nextMatchId
  | matchChanged m =>
      dsimp only [step] at hs
      split_ifs at hs
      obtain rfl := Option.some.inj hs
      refine hquiet rfl ?_
      exact h.onMatchChange m
  | routed seq resolved session =>
      have hanswer : RouteLog.answered seq resolved ∈ log ++ p.log (.routed seq resolved session) :=
        List.mem_append_right log (List.mem_singleton_self _)
      have hlog := h.answered seq resolved
      obtain ⟨r, hr, hs⟩ := Option.bind_eq_some_iff.1 hs
      split at hs
      · rename_i hphase
        obtain rfl := Option.some.inj hs
        exact hlog.onRouted hr hphase hanswer session
      · obtain rfl := Option.some.inj hs
        exact hlog.handleResolvedMatch (Option.filter_eq_some_iff.1 hr).1 hanswer
      · cases hs
  | bootstrapped seq bootstrapped =>
      obtain ⟨r, hr, hs⟩ := Option.bind_eq_some_iff.1 hs
      split_ifs at hs with hphase
      obtain rfl := Option.some.inj hs
      have hr := (Option.filter_eq_some_iff.1 hr).1
      cases bootstrapped with
      | none =>
          have hexpects := (h.runs seq r hr).2
          rw [hphase] at hexpects
          exact hquiet rfl (h.forbidden hr hexpects)
      | some resolved =>
          exact (h.answered seq resolved).handleResolvedMatch hr
            (List.mem_append_right log (List.mem_singleton_self _))
  | ensured seq session =>
      obtain ⟨r, hr, hs⟩ := Option.bind_eq_some_iff.1 hs
      split_ifs at hs with hphase
      obtain rfl := Option.some.inj hs
      have hr := (Option.filter_eq_some_iff.1 hr).1
      have hexpects := (h.runs seq r hr).2
      rw [hphase] at hexpects
      refine hquiet rfl ?_
      cases session with
      | false => exact h.forbidden hr hexpects
      | true =>
          have hpatch : Logged log (p.patchState fun s => { s with status := .resolving }) :=
            h.patchState (fun _ => rfl) trivial
          exact hpatch.waitFor hr hexpects
  | resumed seq ok =>
      obtain ⟨r, hr, hs⟩ := Option.bind_eq_some_iff.1 hs
      split_ifs at hs with hphase
      obtain rfl := Option.some.inj hs
      have hr := (Option.filter_eq_some_iff.1 hr).1
      obtain ⟨hasked, hexpects⟩ := h.runs seq r hr
      rw [hphase] at hexpects
      obtain ⟨assigned, hanswer⟩ := hexpects
      refine hquiet rfl ?_
      refine h.conclude seq r.matchId (fun _ => rfl) fun hcurrent => ?_
      cases ok with
      | false => trivial
      | true => exact ⟨assigned, h.answers hr hcurrent hanswer⟩
  | failed seq =>
      obtain ⟨r, hr, rfl⟩ := Option.map_eq_some_iff.1 hs
      refine hquiet rfl ?_
      dsimp only [onFailed]
      split_ifs
      · exact h.finish seq
      · exact h.conclude seq r.matchId (fun _ => rfl) fun _ => trivial

theorem logged_init : Logged [] {} where
  tracked := well_init.1
  bounded seq matchId h := by cases h
  unique seq matchId matchId' h := by cases h
  runs seq r hr := by cases hr
  shown := trivial

/-- Whatever is called and whenever the answers come, what the page shows of a match is the answer to its
last request, which is the only one under its number and has been made for the target. -/
theorem shows_answer (es : List RouteEvent) (p : RoutePage)
    (hp : Run.exec step ({} : RoutePage) es = some p) :
    let log := Run.trace step RoutePage.log ({} : RoutePage) es
    Shown log p ∧ ∀ seq matchId matchId', .asked seq matchId ∈ log → .asked seq matchId' ∈ log →
      matchId = matchId' := by
  intro log
  have hlogged := @Run.trace_induction _ _ step _ RoutePage.log (fun _ log p => Logged log p) {}
    logged_init (fun _ log p e p' h hs => logged_step h hs) es p hp
  exact ⟨hlogged.shown, hlogged.unique⟩

/-! ### An answer that comes late -/

def endedSnapshot : Snapshot where
  matchId := "m2"
  state := "ended"
  eventSequence := 9

/-- The player goes from a live match to one that has ended, while the session is refreshed. -/
def leftBehind : List RouteEvent :=
  [.start, .setTargetMatch "m1", .routed 1 (.liveAuthRequired "m1") true, .setTargetMatch "m2",
    .routed 2 (.history "m2" (some endedSnapshot) "" none) true]

theorem shows_answer_leftBehind :
    ∃ p, Run.exec step ({} : RoutePage) leftBehind = some p ∧
      let log := Run.trace step RoutePage.log ({} : RoutePage) leftBehind
      Shown log p ∧ ∀ seq matchId matchId', .asked seq matchId ∈ log → .asked seq matchId' ∈ log →
        matchId = matchId' :=
  ⟨_, rfl, shows_answer leftBehind _ rfl⟩

/-- Then the refreshed session makes the page wait, and there is nothing left to wait for. -/
example : ¬ Run.Always step (fun p => ¬ p.Stuck) {} (leftBehind ++ [.ensured 1 true, .failed 1]) := by
  decide +kernel

end RoutePage

end GeoDuels.MatchPage
