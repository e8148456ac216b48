import GeoDuels.MatchCoordinator.Abstraction

/-!
# What a handler's step is for the roster

`Moved` says that one handler went from one place to another.  Each lemma takes such a move, with what
the command did to the assignments, to a step of the roster.
-/

namespace GeoDuels.MatchCoordinator

open Coordinator (Assignment isBlank)
open Coordinator.Store (SameAssignments Saved Cleared)
open MatchLaunch (Call)
open Roster (Step Keeps)

/-- One handler went from the place `p` to the place `p'`; a handler that starts or ends is at the
place `{}` before or afterwards. -/
structure Moved (w w' : World) (p p' : Place) : Prop where
  pending : w'.abs.pending = w.abs.pending
  issued : w'.issued = w.issued
  before : p = {} ∨ p ∈ w.places
  after : p' = {} ∨ p' ∈ w'.places
  new : ∀ q ∈ w'.places, q = p' ∨ q ∈ w.places
  old : ∀ q ∈ w.places, q = p ∨ q ∈ w'.places

namespace Moved

variable {w w' : World} {p p' : Place}

theorem of_same (pending : w'.abs.pending = w.abs.pending) (issued : w'.issued = w.issued)
    (places : w'.places = w.places) : Moved w w' {} {} :=
  ⟨pending, issued, .inl rfl, .inl rfl, fun _ hq => .inr (places ▸ hq),
    fun _ hq => .inr (places ▸ hq)⟩

theorem abs_issued (h : Moved w w' p p') : w'.abs.issued = w.abs.issued := by
  simp only [World.abs, h.issued]

theorem abs_roster (h : Moved w w' p p') : w'.abs.roster = w.abs.roster := by
  simp only [World.abs, h.issued]

theorem mem_before (h : Moved w w' p p') {i : MatchID} (hi : p.saving = some i) : p ∈ w.places :=
  h.before.resolve_left fun hp => by rw [hp] at hi; cases hi

theorem mem_after (h : Moved w w' p p') {i : MatchID} (hi : p'.saving = some i) : p' ∈ w'.places :=
  h.after.resolve_left fun hp => by rw [hp] at hi; cases hi

theorem saving_eq (h : Moved w w' p p') (saving : p'.saving = p.saving) :
    w'.abs.saving = w.abs.saving := by
  ext i
  constructor
  · rintro ⟨q, hq, hi⟩
    rcases h.new q hq with rfl | hq
    · rw [saving] at hi
      exact ⟨p, h.mem_before hi, hi⟩
    · exact ⟨q, hq, hi⟩
  · rintro ⟨q, hq, hi⟩
    rcases h.old q hq with rfl | hq
    · rw [← saving] at hi
      exact ⟨p', h.mem_after hi, hi⟩
    · exact ⟨q, hq, hi⟩

/-- The matches that are open afterwards. -/
theorem opens_sub (h : Moved w w' p p') (queue : Fewer w.queue w'.queue) {e : MatchID × List UserID}
    (he : e ∈ w'.opens) : p'.opens = some e ∨ e ∈ w.opens := by
  rcases World.mem_opens.1 he with ⟨m, hm, rfl⟩ | ⟨q, hq, hopens⟩
  · exact .inr (World.mem_opens.2 (.inl ⟨m, queue m hm, rfl⟩))
  · rcases h.new q hq with rfl | hq
    · exact .inl hopens
    · exact .inr (World.mem_opens.2 (.inr ⟨q, hq, hopens⟩))

theorem sub_opens (h : Moved w w' p p') (queue : w'.queue = w.queue) {e : MatchID × List UserID}
    (he : e ∈ w.opens) : p.opens = some e ∨ e ∈ w'.opens := by
  rcases World.mem_opens.1 he with ⟨m, hm, rfl⟩ | ⟨q, hq, hopens⟩
  · exact .inr (World.mem_opens.2 (.inl ⟨m, by rwa [queue], rfl⟩))
  · rcases h.old q hq with rfl | hq
    · exact .inl hopens
    · exact .inr (World.mem_opens.2 (.inr ⟨q, hq, hopens⟩))

theorem mem_opens_after (h : Moved w w' p p') {e : MatchID × List UserID} (he : p'.opens = some e) :
    e ∈ w'.opens := by
  refine World.mem_opens.2 (.inr ⟨p', h.after.resolve_left fun hp => ?_, he⟩)
  rw [hp] at he
  cases he

theorem mem_opens_before (h : Moved w w' p p') {e : MatchID × List UserID} (he : p.opens = some e) :
    e ∈ w.opens := by
  refine World.mem_opens.2 (.inr ⟨p, h.before.resolve_left fun hp => ?_, he⟩)
  rw [hp] at he
  cases he

/-- The handler keeps its open match. -/
theorem named_eq (h : Moved w w' p p') (queue : w'.queue = w.queue) (opens : p'.opens = p.opens) :
    w'.abs.named = w.abs.named := by
  have hopens : ∀ e, e ∈ w'.opens ↔ e ∈ w.opens := by
    intro e
    constructor
    · intro he
      refine (h.opens_sub (queue ▸ .refl w.queue) he).elim (fun hp => ?_) id
      exact h.mem_opens_before (opens ▸ hp)
    · intro he
      refine (h.sub_opens queue he).elim (fun hp => ?_) id
      exact h.mem_opens_after (opens.trans hp)
  funext i
  simp only [World.abs, hopens]

/-! ## The steps -/

/-- No assignment changes, and no match is opened. -/
theorem quiet (h : Moved w w' p p') (hw' : w'.Wf) (queue : Fewer w.queue w'.queue)
    (same : SameAssignments w.coord w'.coord) (saving : p'.saving = p.saving)
    (opens : ∀ e, p'.opens = some e → e ∈ w.opens) (live : ∀ i ∈ w'.live, i ∈ w.live) :
    Step w.abs w'.abs := by
  have hsaving := h.saving_eq saving
  refine .quiet (World.keeps_of_same same) (fun id => ?_) h.abs_issued h.abs_roster (fun i u hu => ?_)
    hsaving (fun i hi => ?_) live
  · rw [h.pending]
  · obtain ⟨e, he, hei, hue⟩ := hu
    exact ⟨e, (h.opens_sub queue he).elim (opens e) id, hei, hue⟩
  · rw [← hsaving] at hi
    rw [← h.abs_roster]
    exact hw'.open_ hi

/-- A node has accepted the match that the handler launches. -/
theorem post (h : Moved w w' p p') {i : MatchID} {l : List UserID} (listed : w.issued.lookup i = some l)
    (opens : p.opens = some (i, l)) (opens' : p'.opens = some (i, l)) (saving : p.saving = none)
    (saving' : p'.saving = some i) (queue : w'.queue = w.queue)
    (same : SameAssignments w.coord w'.coord) (live : ∀ j ∈ w'.live, j = i ∨ j ∈ w.live) :
    Step w.abs w'.abs := by
  refine .post i (Assoc.mem_iff_exists.2 ⟨l, listed⟩) ?_ (World.keeps_of_same same) h.pending
    h.abs_issued h.abs_roster (h.named_eq queue (opens'.trans opens.symm)) ?_ live
  · rintro u ⟨l', hl', hu⟩
    obtain rfl : l = l' := Option.some.inj (listed.symm.trans hl')
    exact ⟨(i, l), h.mem_opens_before opens, rfl, hu⟩
  · ext j
    constructor
    · rintro ⟨q, hq, hj⟩
      rcases h.new q hq with rfl | hq
      · exact .inl (Option.some.inj (hj.symm.trans saving'))
      · exact .inr ⟨q, hq, hj⟩
    · rintro (rfl | ⟨q, hq, hj⟩)
      · exact ⟨p', h.mem_after saving', saving'⟩
      · rcases h.old q hq with rfl | hq
        · rw [saving] at hj
          cases hj
        · exact ⟨q, hq, hj⟩

/-- The handler saves the assignment of the match that it launches. -/
theorem save (h : Moved w w' p p') {a : Assignment} (hparty : isPrivateParty a)
    (listed : w.issued.lookup a.matchID = some a.players)
    (opens : p.opens = some (a.matchID, a.players)) (opens' : p'.opens = p.opens)
    (saving : p.saving = some a.matchID) (saving' : p'.saving = none) (queue : w'.queue = w.queue)
    (saved : Saved w.coord w'.coord a) (live : w'.live = w.live) : Step w.abs w'.abs := by
  have hrecord : ∀ u, u ∈ w'.abs.record a.matchID ↔ u ∈ a.players ∧ isBlank u = false := by
    intro u
    have hlookup := saved.byMatch a.matchID
    rw [if_pos rfl] at hlookup
    constructor
    · rintro ⟨b, hb, -, hu⟩
      obtain rfl : a = b := Option.some.inj (hlookup.symm.trans hb)
      exact hu
    · exact fun hu => ⟨a, hlookup, hparty, hu⟩
  refine .save a.matchID (Assoc.mem_iff_exists.2 ⟨_, listed⟩) ?_ (fun u hu => ?_) (fun j hj => ?_)
    (fun u hu => ?_) (fun u hu => ?_) h.pending h.abs_issued h.abs_roster
    (h.named_eq queue opens') (fun j hj => ?_) (fun j hj => ?_) ?_
  · rintro u ⟨l', hl', hu⟩
    obtain rfl : a.players = l' := Option.some.inj (listed.symm.trans hl')
    exact ⟨_, h.mem_opens_before opens, rfl, hu⟩
  · exact ⟨_, listed, ((hrecord u).1 hu).1⟩
  · simp only [World.abs, saved.byMatch, if_neg hj]
  · refine World.pointer_eq_some.2 ⟨a, ?_, hparty, rfl⟩
    rw [saved.byUser, if_pos ((hrecord u).1 hu)]
  · simp only [World.abs, saved.byUser, if_neg (mt (hrecord u).2 hu)]
  · obtain ⟨q, hq, hj⟩ := hj
    rcases h.new q hq with rfl | hq
    · rw [saving'] at hj
      cases hj
    · exact ⟨q, hq, hj⟩
  · obtain ⟨q, hq, hj⟩ := hj
    rcases h.old q hq with rfl | hq
    · exact .inl (Option.some.inj (hj.symm.trans saving))
    · exact .inr ⟨q, hq, hj⟩
  · simp only [World.abs, live]

/-- The handler clears an assignment. -/
theorem clear (h : Moved w w' p p') {a : Assignment} (owns : w.ClearsOwn a) (opens : p'.opens = p.opens)
    (saving : p'.saving = p.saving) (queue : w'.queue = w.queue)
    (cleared : Cleared w.coord w'.coord a) (live : w'.live = w.live) : Step w.abs w'.abs := by
  refine .clear a.matchID {u | u ∈ a.players ∧ isBlank u = false} (fun u hu j hj hne => ?_) ?_
    (fun j hj => ?_) (fun u hu => ?_) (fun u hu => ?_) h.pending h.abs_issued h.abs_roster
    (h.named_eq queue opens) (h.saving_eq saving) ?_
  · obtain ⟨b, hb, hparty, rfl⟩ := World.pointer_eq_some.1 hj
    exact owns u hu.1 hu.2 b hb hparty hne
  · simp [World.abs, cleared.byMatch]
  · simp only [World.abs, cleared.byMatch, if_neg hj]
  · show Option.map _ (Option.filter _ (w'.coord.getAssignmentByUser u)) = none
    rw [cleared.byUser, if_pos (by exact hu)]
    rfl
  · show Option.map _ (Option.filter _ (w'.coord.getAssignmentByUser u)) = _
    rw [cleared.byUser, if_neg (by exact hu)]
    rfl
  · simp only [World.abs, live]

/-- A lobby start has checked a player who has no assignment. -/
theorem check (h : Moved w w' p p') {i : MatchID} {u : UserID} {done rest : List UserID}
    (listed : w.issued.lookup i = some (done ++ u :: rest)) (opens : p.opens = some (i, done))
    (opens' : p'.opens = some (i, done ++ [u])) (saving : p'.saving = p.saving)
    (unassigned : w.coord.getAssignmentByUser u = none) (alone : w.Alone i u)
    (queue : w'.queue = w.queue) (same : SameAssignments w.coord w'.coord) (live : w'.live = w.live) :
    Step w.abs w'.abs := by
  refine .check i u (Assoc.mem_iff_exists.2 ⟨_, listed⟩) ⟨_, listed, by simp⟩ ?_ (fun j => ?_)
    (fun id hid => ?_) (fun v hv => ?_) (fun v hv => ?_) (fun j hj => ?_) h.pending
    (World.keeps_of_same same) h.abs_issued h.abs_roster (h.saving_eq saving) ?_
  · show Option.map _ (Option.filter _ (w.coord.getAssignmentByUser u)) = none
    rw [unassigned]
    rfl
  · by_contra hj
    obtain ⟨hmem, hne⟩ := not_or.1 hj
    obtain ⟨e, he, hei, hu⟩ := not_not.1 hmem
    exact hne (hei.symm.trans (alone.1 e he hu))
  · obtain ⟨q, hq, hu⟩ := hid
    exact alone.2 (World.mem_taken.2 ⟨id, q, hq, hu⟩)
  · obtain ⟨e, he, hei, hv⟩ := hv
    rcases h.opens_sub (queue ▸ .refl w.queue) he with hp | hold
    · obtain rfl := Option.some.inj (opens'.symm.trans hp)
      rcases List.mem_append.1 hv with hv | hv
      · exact .inr ⟨(i, done), h.mem_opens_before opens, rfl, hv⟩
      · exact .inl (List.mem_singleton.1 hv)
    · exact .inr ⟨e, hold, hei, hv⟩
  · obtain ⟨e, he, hei, hv⟩ := hv
    rcases h.sub_opens queue he with hp | hnew
    · obtain rfl := Option.some.inj (opens.symm.trans hp)
      exact ⟨_, h.mem_opens_after opens', rfl, List.mem_append_left _ hv⟩
    · exact ⟨e, hnew, hei, hv⟩
  · ext v
    constructor
    · rintro ⟨e, he, hei, hv⟩
      rcases h.opens_sub (queue ▸ .refl w.queue) he with hp | hold
      · obtain rfl := Option.some.inj (opens'.symm.trans hp)
        exact absurd hei.symm hj
      · exact ⟨e, hold, hei, hv⟩
    · rintro ⟨e, he, hei, hv⟩
      rcases h.sub_opens queue he with hp | hnew
      · obtain rfl := Option.some.inj (opens.symm.trans hp)
        exact absurd hei.symm hj
      · exact ⟨e, hnew, hei, hv⟩
  · simp only [World.abs, live]

end Moved

end GeoDuels.MatchCoordinator
