import GeoDuels.Identities.Spec

/-!
# Linking and unlinking at the same time

`LinkProviderIdentity` and `UnlinkProviderIdentity` with one step for each SQL statement.  Both run in a
transaction, but for the check whether the identity is banned.  The query that counts the identities
locks nothing, so two calls that unlink different identities can both find another one: an account keeps
a sign-in method exactly when each of its unlinking transactions commits while another identity is
linked (`always_linked_iff`).
-/

namespace GeoDuels.Identities

open Persistence (trim)
open ReadCommitted (view update updateAll rowsAffected lookup_view_of_notMem)

variable (lc : LowerCase)

/-! ## Calls -/

inductive IdentityCall where
  | linkProviderIdentity (args : LinkArgs) (now : ℕ)
  | unlinkProviderIdentity (userID : UserID) (provider : String) (now : ℕ)

/-- The next statement of `LinkProviderIdentity`. -/
inductive LinkAt where
  | banned | accountType
  | subject (guest : Bool)
  | email (guest : Bool)
  | upsertUser (guest : Bool)
  | upsertIdentity | history | commit
  deriving DecidableEq

inductive UnlinkAt where
  | count | delete | history | email | commit
  deriving DecidableEq

/-- A call and its next statement, with the rows that its transaction has written; `now` is the time at
which the transaction starts. -/
inductive IdentityProc where
  | link (r : LinkArgs) (now : ℕ) (at_ : LinkAt) (own : DB)
  | unlink (userID : UserID) (provider : Provider) (now : ℕ) (at_ : UnlinkAt) (own : DB)
  /-- The arguments of the call are not valid. -/
  | refused

def IdentityProc.own : IdentityProc → DB
  | .link _ _ _ own | .unlink _ _ _ _ own => own
  | .refused => ∅

def IdentityCall.begin : IdentityCall → IdentityProc
  | .linkProviderIdentity args now =>
      match args.normalize lc with
      | .error _ => .refused
      | .ok r => .link r now .banned ∅
  | .unlinkProviderIdentity userID provider now =>
      let userID := trim userID
      let provider := trim (lc.toLower provider)
      if userID = "" ∨ provider = "" then .refused else .unlink userID provider now .count ∅

/-! ## Statements -/

/-- The rows that a statement writes, and the next statement; `none` when the call fails. -/
def LinkAt.run (seen : DB) (r : LinkArgs) (m : Moment) : LinkAt → DB × Option LinkAt
  | .banned => (∅, if Banned seen (r.provider, r.providerUserID) then none else some .accountType)
  | .accountType => (∅, (userRow seen r.linkUserID).map fun row => .subject (row.accountType = .guest))
  | .subject guest =>
      (∅, if linkedToOther seen r then none
        else some (if checksEmail lc r then .email guest else .upsertUser guest))
  | .email guest => (∅, if emailOfOther lc seen r m.choice then none else some (.upsertUser guest))
  | .upsertUser guest =>
      match Identities.upsertUser lc seen r m guest with
      | none => (∅, none)
      | some rows => (rows, some .upsertIdentity)
  | .upsertIdentity =>
      match Identities.upsertIdentity seen r m with
      | none => (∅, none)
      | some rows => (rows, some .history)
  | .history => (recordUserIdentityHistory seen r m, some .commit)
  | .commit => (∅, none)

def UnlinkAt.run (seen : DB) (userID : UserID) (provider : Provider) (m : Moment) :
    UnlinkAt → DB × Option UnlinkAt
  | .count => (∅, if countIdentities seen userID ≤ 1 then none else some .delete)
  | .delete =>
      let deleted := deleteIdentity seen userID provider
      (deleted, if rowsAffected deleted = 0 then none else some .history)
  | .history =>
      (markDeleted seen m userID provider,
        some (if provider = identityProviderGoogle then .email else .commit))
  | .email => (clearEmail seen userID, some .commit)
  | .commit => (∅, none)

/-- The clock of a statement, where `now()` is the time of the transaction. -/
def Moment.at_ (m : Moment) (now : ℕ) : Moment := { m with now := fun i => if i = 0 then now else m.now i }

def IdentityProc.run : IdentityProc → DB → Moment → DB × Option IdentityProc
  | .link _ _ .commit own, _, _ => (own, none)
  | .link r now at_ own, db, m =>
      let s := at_.run lc (view own db) r (m.at_ now)
      (∅, s.2.map fun next => .link r now next (view s.1 own))
  | .unlink _ _ _ .commit own, _, _ => (own, none)
  | .unlink userID provider now at_ own, db, m =>
      let s := at_.run (view own db) userID provider (m.at_ now)
      (∅, s.2.map fun next => .unlink userID provider now next (view s.1 own))
  | .refused, _, _ => (∅, none)

def identityProgram : ReadCommitted.Program Row where
  Call := IdentityCall
  Proc := IdentityProc
  Env := Moment
  begin := IdentityCall.begin lc
  own := IdentityProc.own
  own_begin := by
    rintro (⟨args, now⟩ | ⟨userID, provider, now⟩)
    · cases h : args.normalize lc <;> simp [IdentityCall.begin, IdentityProc.own, h]
    · simp only [IdentityCall.begin]
      split_ifs <;> rfl
  run := IdentityProc.run lc

abbrev IdentityWorld := ReadCommitted.World (identityProgram lc)

abbrev IdentityAct := ReadCommitted.Act (identityProgram lc)

/-! ## The property -/

/-- The account has a row in `user_identities` for the provider. -/
def Linked (db : DB) (userID : UserID) (provider : Provider) : Prop := identityRow db userID provider ≠ none

/-- The account can sign in. -/
def HasMethod (userID : UserID) (db : DB) : Prop := ∃ provider, Linked db userID provider

/-- When a transaction that has unlinked an identity of the account commits, another one is linked. -/
def KeepsMethod (userID : UserID) : IdentityProc → DB → Moment → Prop
  | .unlink u provider _ .commit _, db, _ => u = userID → ∃ other, other ≠ provider ∧ Linked db userID other
  | _, _, _ => True

section

variable (db : DB) (userID : UserID)

instance (provider : Provider) : Decidable (Linked db userID provider) := inferInstanceAs (Decidable (_ ≠ _))

/-- The providers of the account. -/
def linkedProviders : List Provider :=
  db.keys.filterMap fun
    | .identity u provider => if u = userID ∧ Linked db userID provider then some provider else none
    | _ => none

theorem mem_linkedProviders {provider : Provider} :
    provider ∈ linkedProviders db userID ↔ Linked db userID provider := by
  unfold linkedProviders
  rw [List.mem_filterMap]
  constructor
  · rintro ⟨k, -, hk⟩
    cases k with
    | identity u p =>
        dsimp only at hk
        split_ifs at hk with h
        rw [← Option.some.inj hk]
        exact h.2
    | _ => cases hk
  · intro h
    refine ⟨.identity userID provider, ?_, by simp [h]⟩
    rw [← AList.mem_keys, ← AList.lookup_isSome]
    unfold Linked identityRow at h
    cases hrow : db.lookup (.identity userID provider) with
    | none => simp [hrow] at h
    | some row => rfl

instance : Decidable (HasMethod userID db) :=
  decidable_of_iff (∃ provider ∈ linkedProviders db userID, True) <| by
    simp [HasMethod, mem_linkedProviders]

instance KeepsMethod.decidable (p : IdentityProc) (m : Moment) : Decidable (KeepsMethod userID p db m) :=
  match p with
  | .unlink u provider _ .commit _ =>
      decidable_of_iff (u = userID → ∃ other ∈ linkedProviders db userID, other ≠ provider) <| by
        simp only [KeepsMethod, mem_linkedProviders, and_comm]
  | .unlink _ _ _ .count _ | .unlink _ _ _ .delete _ | .unlink _ _ _ .history _ | .unlink _ _ _ .email _
  | .link .. | .refused => .isTrue trivial

instance (w : IdentityWorld lc) (as : List (IdentityAct lc)) :
    Decidable (ReadCommitted.World.StatementsMeet (KeepsMethod userID) w as) :=
  @ReadCommitted.World.StatementsMeet.decidable _ Row _ (identityProgram lc) (KeepsMethod userID)
    (fun p db m => KeepsMethod.decidable db userID p m) w as

end

/-! ## The rows of a transaction -/

/-- A link writes its own identity, and an unlink that has come to its `delete` has written nothing else
of `user_identities`. -/
def Holds : IdentityProc → DB → Prop
  | .link _ _ _ own, _ => ∀ u p row, own.lookup (.identity u p) = some row → row ≠ none
  | .unlink userID provider _ at_ own, _ =>
      (∀ u p, own.lookup (.identity u p) =
        if u = userID ∧ p = provider ∧ at_ ≠ .count ∧ at_ ≠ .delete then some none else none)
  | .refused, _ => True

variable {lc} {db own : DB} {m : Moment} {r : LinkArgs} {userID : UserID} {provider : Provider}

/-- The statements of a link write no row of `user_identities` that is gone. -/
theorem LinkAt.run_identity (at_ : LinkAt) {u : UserID} {p : Provider} {row : Option IdentityRow}
    (h : (at_.run lc db r m).1.lookup (.identity u p) = some row) : row ≠ none := by
  cases at_ with
  | banned | accountType | commit => cases h
  | subject guest | email guest => cases h
  | upsertUser guest =>
      cases hrows : Identities.upsertUser lc db r m guest with
      | none => simp [LinkAt.run, hrows] at h
      | some rows =>
          simp only [LinkAt.run, hrows] at h
          rw [(only_upsertUser hrows).lookup (by simp)] at h
          cases h
  | upsertIdentity =>
      cases hrows : Identities.upsertIdentity db r m with
      | none => simp [LinkAt.run, hrows] at h
      | some rows =>
          simp only [LinkAt.run, hrows] at h
          obtain ⟨-, -, identity, rfl, -⟩ := lookup_upsertIdentity hrows h
          simp
  | history =>
      simp only [LinkAt.run] at h
      rw [(only_recordUserIdentityHistory db r m).lookup (by simp)] at h
      cases h

/-- The rows of `user_identities` that the statements of an unlink write, when the transaction goes on. -/
theorem UnlinkAt.run_identity (at_ next : UnlinkAt) (hnext : (at_.run db userID provider m).2 = some next)
    (u : UserID) (p : Provider) :
    (at_.run db userID provider m).1.lookup (.identity u p) =
        (if u = userID ∧ p = provider ∧ at_ = .delete then some none else none) ∧
      (next ≠ .count ∧ next ≠ .delete ↔ at_ ≠ .count) := by
  cases at_ with
  | count =>
      simp only [UnlinkAt.run] at hnext
      split_ifs at hnext
      obtain rfl := Option.some.inj hnext
      simp [UnlinkAt.run]
  | delete =>
      simp only [UnlinkAt.run] at hnext ⊢
      split_ifs at hnext with hrows
      obtain rfl := Option.some.inj hnext
      rw [rowsAffected_deleteIdentity] at hrows
      rw [lookup_deleteIdentity]
      simp [Option.isSome_iff_ne_none.2 hrows]
  | history =>
      simp only [UnlinkAt.run] at hnext ⊢
      rw [(only_markDeleted db m userID provider).lookup (by simp)]
      split_ifs at hnext <;> obtain rfl := Option.some.inj hnext <;> simp
  | email =>
      simp only [UnlinkAt.run] at hnext ⊢
      obtain rfl := Option.some.inj hnext
      rw [(only_clearEmail db userID).lookup (by simp)]
      simp
  | commit => cases hnext

theorem holds_run {p p' : IdentityProc} {db : DB} {m : Moment} (h : Holds p db)
    (hp' : (p.run lc db m).2 = some p') (db' : DB) : Holds p' db' := by
  cases p with
  | link r now at_ own =>
      by_cases hcommit : at_ = .commit
      · subst hcommit
        cases hp'
      · have hrun : (IdentityProc.link r now at_ own).run lc db m =
            (∅, (at_.run lc (view own db) r (m.at_ now)).2.map fun next =>
              .link r now next (view (at_.run lc (view own db) r (m.at_ now)).1 own)) := by
          cases at_ <;> first | rfl | exact absurd rfl hcommit
        rw [hrun] at hp'
        obtain ⟨next, -, rfl⟩ := Option.map_eq_some_iff.1 hp'
        intro u q row hrow
        rw [ReadCommitted.lookup_view] at hrow
        rcases Option.or_eq_some_iff.1 hrow with hnew | ⟨-, hold⟩
        · exact at_.run_identity hnew
        · exact h u q row hold
  | unlink userID provider now at_ own =>
      by_cases hcommit : at_ = .commit
      · subst hcommit
        cases hp'
      · have hrun : (IdentityProc.unlink userID provider now at_ own).run lc db m =
            (∅, (at_.run (view own db) userID provider (m.at_ now)).2.map fun next =>
              .unlink userID provider now next
                (view (at_.run (view own db) userID provider (m.at_ now)).1 own)) := by
          cases at_ <;> first | rfl | exact absurd rfl hcommit
        rw [hrun] at hp'
        obtain ⟨next, hnext, rfl⟩ := Option.map_eq_some_iff.1 hp'
        intro u q
        obtain ⟨hrows, hplace⟩ := at_.run_identity next hnext u q
        rw [ReadCommitted.lookup_view, hrows, h u q]
        by_cases huq : u = userID ∧ q = provider
        · by_cases hcount : at_ = .count
          · simp [huq, hcount, hplace]
          · by_cases hdelete : at_ = .delete <;> simp [huq, hcount, hdelete, hplace]
        · have hnot : ∀ Q : Prop, ¬ (u = userID ∧ q = provider ∧ Q) := fun Q hQ => huq ⟨hQ.1, hQ.2.1⟩
          simp only [if_neg (hnot _), Option.none_or]
  | refused => cases hp'

theorem identity_local : ReadCommitted.World.Local (identityProgram lc) Holds where
  begin c db := by
    cases c with
    | linkProviderIdentity args now =>
        dsimp only [identityProgram, IdentityCall.begin]
        cases args.normalize lc with
        | error err => trivial
        | ok r => exact fun u p row hrow => by cases hrow
    | unlinkProviderIdentity u provider now =>
        dsimp only [identityProgram, IdentityCall.begin]
        split
        · trivial
        · intro v p
          simp
  run p db e p' h hp' := holds_run h hp' _
  frame q db rows h _ := by cases q <;> exact h

/-! ## Commits -/

/-- What a statement commits. -/
theorem run_commits (p : IdentityProc) (db : DB) (m : Moment) :
    (p.run lc db m).1 = ∅ ∨ (∃ r now own, p = .link r now .commit own ∧ (p.run lc db m).1 = own) ∨
      ∃ userID provider now own, p = .unlink userID provider now .commit own ∧ (p.run lc db m).1 = own := by
  cases p with
  | link r now at_ own =>
      cases at_ with
      | commit => exact .inr (.inl ⟨r, now, own, rfl, rfl⟩)
      | _ => exact .inl rfl
  | unlink userID provider now at_ own =>
      cases at_ with
      | commit => exact .inr (.inr ⟨userID, provider, now, own, rfl, rfl⟩)
      | _ => exact .inl rfl
  | refused => exact .inl rfl

theorem linked_view_link {now : ℕ} {at_ : LinkAt} {p : Provider} (h : Holds (.link r now at_ own) db)
    (hlinked : Linked db userID p) : Linked (view own db) userID p := by
  unfold Linked identityRow at hlinked ⊢
  rw [ReadCommitted.lookup_view]
  cases hown : own.lookup (.identity userID p) with
  | none => rwa [Option.none_or]
  | some row =>
      rw [Option.some_or]
      exact h userID p row hown

theorem linked_view_unlink {u : UserID} {now : ℕ} {p : Provider}
    (h : Holds (.unlink u provider now .commit own) db) :
    Linked (view own db) userID p ↔ Linked db userID p ∧ ¬ (userID = u ∧ p = provider) := by
  unfold Linked identityRow
  rw [ReadCommitted.lookup_view, h userID p]
  by_cases heq : userID = u ∧ p = provider <;> simp [heq]

/-- The account always has a sign-in method among the committed rows exactly when every transaction that
unlinks one of its identities commits while another identity of it is linked. -/
theorem always_linked_iff (lc : LowerCase) (userID : UserID) (db : DB) (hdb : HasMethod userID db)
    (as : List (IdentityAct lc)) :
    Run.Always ReadCommitted.World.step (fun w : IdentityWorld lc => HasMethod userID w.db) ⟨db, ∅⟩ as ↔
      ReadCommitted.World.StatementsMeet (KeepsMethod userID) (⟨db, ∅⟩ : IdentityWorld lc) as := by
  refine ReadCommitted.World.always_iff_meet identity_local (fun p db e hp h hC => ?_)
    (fun p db e hp h hC => ?_) (ReadCommitted.World.Inv.init db) hdb as
  · dsimp only [identityProgram]
    rcases @run_commits lc p db e with hnone | ⟨r, now, own, rfl, hown⟩ |
      ⟨u, provider, now, own, rfl, hown⟩
    · rwa [hnone, ReadCommitted.view_empty]
    · rw [hown]
      obtain ⟨q, hq⟩ := h
      exact ⟨q, linked_view_link hp hq⟩
    · rw [hown]
      by_cases hu : u = userID
      · obtain ⟨other, hne, hother⟩ := hC hu
        exact ⟨other, (linked_view_unlink hp).2 ⟨hother, fun heq => hne heq.2⟩⟩
      · obtain ⟨q, hq⟩ := h
        exact ⟨q, (linked_view_unlink hp).2 ⟨hq, fun heq => hu heq.1.symm⟩⟩
  · dsimp only [identityProgram] at p ⊢
    cases p with
    | link | refused => exact absurd trivial hC
    | unlink u provider now at_ own =>
        cases at_ with
        | commit =>
            rintro ⟨q, hq⟩
            obtain ⟨hlinked, hne⟩ := (linked_view_unlink hp).1 hq
            refine hC fun hu => ⟨q, fun heq => hne ⟨hu.symm, heq⟩, ?_⟩
            rw [← hu] at hlinked ⊢
            exact hlinked
        | _ => exact absurd trivial hC

/-! ### Two providers -/

/-- An account with an identity at Google and one at Discord. -/
def twoMethods : DB :=
  let identity (providerUserID : ProviderUserID) : IdentityRow :=
    { providerUserID := providerUserID, email := "", providerName := "", avatarURL := none
      createdAt := 0, lastSeenAt := 0 }
  let history : HistoryRow :=
    { email := "", providerName := "", avatarURL := none, firstSeenAt := 0, lastSeenAt := 0
      deletedAt := none }
  [(⟨.user "a", ({ displayName := "A", accountType := .registered } : UserRow)⟩ : Sigma Row),
    ⟨.identity "a" "google", some (identity "x")⟩, ⟨.identity "a" "discord", some (identity "y")⟩,
    ⟨.subject "google" "x", some "a"⟩, ⟨.subject "discord" "y", some "a"⟩,
    ⟨.history "a" "google" "x", history⟩, ⟨.history "a" "discord" "y", history⟩].toAList

def unlinkBoth : List (IdentityAct lowerTexts) :=
  [.start 0 (.unlinkProviderIdentity "a" "google" 1), .start 1 (.unlinkProviderIdentity "a" "discord" 1)]

/-- One call after the other. -/
theorem always_linked_unlinkBoth :
    Run.Always ReadCommitted.World.step
      (fun w : IdentityWorld lowerTexts => HasMethod "a" w.db) ⟨twoMethods, ∅⟩
      (unlinkBoth ++ [0, 0, 0, 0, 0, 1].map fun id => .run id {}) :=
  (always_linked_iff lowerTexts "a" twoMethods (by decide +kernel) _).2 (by decide +kernel)

/-- Both calls count two identities, and each of them deletes one. -/
theorem not_linked_unlinkBoth :
    HasMethod "a" twoMethods ∧
      ∃ w, Run.exec ReadCommitted.World.step (⟨twoMethods, ∅⟩ : IdentityWorld lowerTexts)
          (unlinkBoth ++ [0, 1, 0, 0, 0, 0, 1, 1, 1].map fun id => .run id {}) = some w ∧
        ¬ HasMethod "a" w.db := by
  refine ⟨by decide +kernel, ?_⟩
  have hrun : ∃ w ∈ Run.exec ReadCommitted.World.step (⟨twoMethods, ∅⟩ : IdentityWorld lowerTexts)
      (unlinkBoth ++ [0, 1, 0, 0, 0, 0, 1, 1, 1].map fun id => .run id {}), ¬ HasMethod "a" w.db := by
    decide +kernel
  exact hrun

end GeoDuels.Identities
