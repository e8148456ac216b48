import GeoDuels.Api.ClientIP
import GeoDuels.Lib.FixedWindow
import GeoDuels.Lib.Run

/-!
# The rate limit of guest sign-ups

`guestLogin` of `services/api/auth_handlers.go` with `services/api/rate_limit.go`, on any number of
servers with one Redis.  The counter of an address is made and read by one script, so that the windows of
an address do not overlap: `signups_le` bounds the sign-ups of an address in any interval, and
`admitted_after_retry` says that `Retry-After` is long enough, up to the half second that it is rounded
down by.  The time is that of Redis, in milliseconds; a request for which the store fails counts as a
sign-up too.
-/

namespace GeoDuels.Api

open FixedWindow (Counter live hit potential admits)

/-! ## The limit -/

structure SignupConfig where
  guestSignupIPLimit : ℤ
  /-- In nanoseconds. -/
  guestSignupIPWindow : ℤ

def millisecond : ℤ := 1000000

def second : ℤ := 1000 * millisecond

def minute : ℤ := 60 * second

def guestSignupRateLimitKeyPrefix : String := "api:ratelimit:guest_signup:ip:"

def SignupConfig.window (cfg : SignupConfig) : ℤ :=
  if cfg.guestSignupIPWindow ≤ 0 then 10 * minute else cfg.guestSignupIPWindow

/-- `window.Milliseconds()`. -/
def SignupConfig.windowMillis (cfg : SignupConfig) : ℕ := (cfg.window / millisecond).toNat

/-- The keys of Redis with their expiry. -/
abbrev Counters := Assoc String Counter

/-- `INCR`, `PEXPIRE` when the count is 1 and `PTTL`; an expiry that is not ahead removes the key. -/
def guestSignupRateLimitScript (now : ℕ) (counters : Counters) (key : String) (millis : ℕ) :
    Counters × ℕ × ℤ :=
  match live now (counters.lookup key) with
  | some c =>
      (counters.insert key c.incr, c.count + 1, c.expiresAt - now)
  | none =>
      if millis = 0 then (counters.erase key, 1, -2)
      else (counters.insert key (.start (now + millis)), 1, millis)

/-- What becomes of the call of the script. -/
inductive ScriptCall where
  | answered
  /-- There is no client, or the call does not arrive. -/
  | failed
  /-- The script runs, and the answer does not arrive or is not understood. -/
  | lost
  deriving DecidableEq

/-- What a request is told that is refused, where `PTTL` is `ttl`. -/
def retryAfter (cfg : SignupConfig) (ttl : ℤ) : ℤ :=
  let retryAfter := ttl * millisecond
  if retryAfter ≤ 0 then cfg.window else retryAfter

/-- Whether the request is let through and for how long it is to wait otherwise; `none` is an error. -/
def checkGuestSignupRateLimit (cfg : SignupConfig) (now : ℕ) (counters : Counters) (key : String) :
    ScriptCall → Counters × Option (Bool × ℤ)
  | call =>
      if cfg.guestSignupIPLimit ≤ 0 then (counters, some (true, 0))
      else
        match call with
        | .failed => (counters, none)
        | .lost => ((guestSignupRateLimitScript now counters key cfg.windowMillis).1, none)
        | .answered =>
            let r := guestSignupRateLimitScript now counters key cfg.windowMillis
            if (r.2.1 : ℤ) ≤ cfg.guestSignupIPLimit then (r.1, some (true, 0))
            else (r.1, some (false, retryAfter cfg r.2.2))

/-- `Round(time.Second)` for a duration that is not negative. -/
def roundToSecond (d : ℤ) : ℤ :=
  let r := d % second
  if r + r < second then d - r else d + (second - r)

/-- The header `Retry-After` that `writeRateLimited` sets. -/
def retryAfterHeader (retryAfter : ℤ) : Option ℤ :=
  if 0 < retryAfter then
    let seconds := roundToSecond retryAfter / second
    some (if seconds < 1 then 1 else seconds)
  else none

/-! ## `guestLogin` -/

/-- What the calls of a request meet. -/
structure SignupEnv where
  /-- The cookie has a session. -/
  session : Bool := false
  /-- The answer of `IsSignupIPBanned`; `none` is an error. -/
  signupIPBanned : Option Bool := some false
  script : ScriptCall := .answered
  persisted : Bool := true
  issued : Bool := true
  deriving DecidableEq

inductive SignupResponse where
  | session
  /-- "signup unavailable". -/
  | unavailable (code : ℕ)
  | banned
  | tooMany (retryAfter : ℤ)
  | persistFailed | issueFailed | guest
  deriving DecidableEq

/-- `CreateGuestIdentity` is called. -/
def SignupResponse.admitted : SignupResponse → Bool
  | .persistFailed | .issueFailed | .guest => true
  | .session | .unavailable _ | .banned | .tooMany _ => false

/-- The end of `guestLogin`. -/
def SignupEnv.createGuest (env : SignupEnv) : SignupResponse :=
  if !env.persisted then .persistFailed
  else if !env.issued then .issueFailed
  else .guest

variable (N : NetPkg) (trustedProxyCIDRs : List N.IPNet) (cfg : SignupConfig)

def signupKey (r : Request) : String :=
  let ip := clientIP N trustedProxyCIDRs r
  guestSignupRateLimitKeyPrefix ++ if ip = "" then "unknown" else ip

def guestLogin (now : ℕ) (counters : Counters) (r : Request) (env : SignupEnv) : Counters × SignupResponse :=
  if env.session then (counters, .session)
  else
    match env.signupIPBanned with
    | none => (counters, .unavailable 101)
    | some true => (counters, .banned)
    | some false =>
        let key := signupKey N trustedProxyCIDRs r
        match checkGuestSignupRateLimit cfg now counters key env.script with
        | (counters, none) => (counters, .unavailable 103)
        | (counters, some (false, retryAfter)) => (counters, .tooMany retryAfter)
        | (counters, some (true, _)) => (counters, env.createGuest)

/-- A request with its key, its time and the response. -/
structure SignupEntry where
  key : String
  time : ℕ
  response : SignupResponse
  deriving DecidableEq

structure SignupWorld where
  now : ℕ
  counters : Counters := ∅
  log : List SignupEntry := []

inductive SignupAct where
  | tick (d : ℕ)
  | guestLogin (r : Request) (env : SignupEnv)
  deriving DecidableEq

def SignupWorld.step (w : SignupWorld) : SignupAct → Option SignupWorld
  | .tick d => some { w with now := w.now + d }
  | .guestLogin r env =>
      let s := Api.guestLogin N trustedProxyCIDRs cfg w.now w.counters r env
      some { w with counters := s.1, log := w.log ++ [⟨signupKey N trustedProxyCIDRs r, w.now, s.2⟩] }

/-! ## What a request does -/

variable {N trustedProxyCIDRs cfg} {now : ℕ} {counters : Counters} {r : Request} {env : SignupEnv}
  {key : String} {w w' : SignupWorld} {a b : ℕ}

theorem script_eq (hmillis : cfg.windowMillis ≠ 0) :
    guestSignupRateLimitScript now counters key cfg.windowMillis =
      (counters.insert key (hit cfg.windowMillis now (counters.lookup key)),
        (hit cfg.windowMillis now (counters.lookup key)).count,
        ((hit cfg.windowMillis now (counters.lookup key)).expiresAt : ℤ) - now) := by
  unfold guestSignupRateLimitScript hit
  cases live now (counters.lookup key) with
  | some c => rfl
  | none =>
      dsimp only
      rw [if_neg hmillis]
      simp [FixedWindow.Counter.start]

/-- What a request does to the counters, with the response: it does not come to the script, or it hits the
counter of its key. -/
inductive Logins (cfg : SignupConfig) (now : ℕ) (counters : Counters) (key : String) (env : SignupEnv) :
    Counters × SignupResponse → Prop
  | stopped {response : SignupResponse} (admitted : response.admitted = false)
      (asked : ∀ d, response ≠ .tooMany d) : Logins cfg now counters key env (counters, response)
  | lost : Logins cfg now counters key env
      (counters.insert key (hit cfg.windowMillis now (counters.lookup key)), .unavailable 103)
  | admitted
      (few : ((hit cfg.windowMillis now (counters.lookup key)).count : ℤ) ≤ cfg.guestSignupIPLimit) :
      Logins cfg now counters key env
        (counters.insert key (hit cfg.windowMillis now (counters.lookup key)), env.createGuest)
  | refused
      (many : cfg.guestSignupIPLimit < ((hit cfg.windowMillis now (counters.lookup key)).count : ℤ)) :
      Logins cfg now counters key env
        (counters.insert key (hit cfg.windowMillis now (counters.lookup key)),
          .tooMany (retryAfter cfg
            (((hit cfg.windowMillis now (counters.lookup key)).expiresAt : ℤ) - now)))

theorem admitted_createGuest : env.createGuest.admitted = true := by
  unfold SignupEnv.createGuest
  split_ifs <;> rfl

theorem checkGuestSignupRateLimit_answered (hlimit : 0 < cfg.guestSignupIPLimit)
    (hmillis : cfg.windowMillis ≠ 0) :
    checkGuestSignupRateLimit cfg now counters key .answered =
      (counters.insert key (hit cfg.windowMillis now (counters.lookup key)),
        some (if ((hit cfg.windowMillis now (counters.lookup key)).count : ℤ) ≤ cfg.guestSignupIPLimit then
          (true, 0)
        else (false, retryAfter cfg
          (((hit cfg.windowMillis now (counters.lookup key)).expiresAt : ℤ) - now)))) := by
  unfold checkGuestSignupRateLimit
  rw [if_neg (Int.not_le.2 hlimit)]
  simp only [script_eq hmillis]
  split_ifs <;> rfl

theorem logins_guestLogin (hlimit : 0 < cfg.guestSignupIPLimit) (hmillis : cfg.windowMillis ≠ 0) :
    Logins cfg now counters (signupKey N trustedProxyCIDRs r) env
      (guestLogin N trustedProxyCIDRs cfg now counters r env) := by
  unfold guestLogin
  cases env.session with
  | true => exact .stopped rfl fun d h => by cases h
  | false =>
      rw [if_neg Bool.false_ne_true]
      cases env.signupIPBanned with
      | none => exact .stopped rfl fun d h => by cases h
      | some banned =>
          cases banned with
          | true => exact .stopped rfl fun d h => by cases h
          | false =>
              dsimp only
              cases env.script with
              | failed =>
                  unfold checkGuestSignupRateLimit
                  rw [if_neg (Int.not_le.2 hlimit)]
                  exact .stopped rfl fun d h => by cases h
              | lost =>
                  unfold checkGuestSignupRateLimit
                  rw [if_neg (Int.not_le.2 hlimit)]
                  simp only [script_eq hmillis]
                  exact .lost
              | answered =>
                  rw [checkGuestSignupRateLimit_answered hlimit hmillis]
                  by_cases hcount : ((hit cfg.windowMillis now
                      (counters.lookup (signupKey N trustedProxyCIDRs r))).count : ℤ) ≤
                        cfg.guestSignupIPLimit
                  · rw [if_pos hcount]
                    exact .admitted hcount
                  · rw [if_neg hcount]
                    exact .refused (Int.not_le.1 hcount)

/-- A request that comes to the script while few have. -/
theorem guestLogin_admitted (hlimit : 0 < cfg.guestSignupIPLimit) (hmillis : cfg.windowMillis ≠ 0)
    (hsession : env.session = false) (hbanned : env.signupIPBanned = some false)
    (hscript : env.script = .answered)
    (hcount : ((hit cfg.windowMillis now
      (counters.lookup (signupKey N trustedProxyCIDRs r))).count : ℤ) ≤ cfg.guestSignupIPLimit) :
    (guestLogin N trustedProxyCIDRs cfg now counters r env).2.admitted = true := by
  unfold guestLogin
  rw [hsession, if_neg Bool.false_ne_true, hbanned]
  dsimp only
  rw [hscript, checkGuestSignupRateLimit_answered hlimit hmillis, if_pos hcount]
  exact admitted_createGuest

/-! ## How many are admitted -/

/-- The request was one of the key, and admitted at a time from `a` to `b`. -/
def SignupEntry.admittedIn (key : String) (a b : ℕ) (e : SignupEntry) : Bool :=
  decide (e.key = key ∧ a ≤ e.time ∧ e.time ≤ b) && e.response.admitted

/-- What has been admitted in the interval, and what still can be. -/
def Bounded (cfg : SignupConfig) (key : String) (a b bound : ℕ) (w : SignupWorld) : Prop :=
  w.log.countP (SignupEntry.admittedIn key a b) +
      potential cfg.guestSignupIPLimit.toNat cfg.windowMillis a b w.now (w.counters.lookup key) ≤ bound

/-- A request pays for itself. -/
theorem Logins.potential_le {s : Counters × SignupResponse} {key' : String}
    (h : Logins cfg now counters key' env s) (key : String) (a b : ℕ) :
    (if SignupEntry.admittedIn key a b ⟨key', now, s.2⟩ then 1 else 0) +
        potential cfg.guestSignupIPLimit.toNat cfg.windowMillis a b now (s.1.lookup key) ≤
      potential cfg.guestSignupIPLimit.toNat cfg.windowMillis a b now (counters.lookup key) := by
  have hnot : ∀ response : SignupResponse, response.admitted = false ∨ key' ≠ key →
      (if SignupEntry.admittedIn key a b ⟨key', now, response⟩ then 1 else 0) = 0 := by
    intro response h
    refine if_neg fun hadm => ?_
    obtain ⟨hkey, hadm⟩ := (Bool.and_eq_true _ _).mp hadm
    rcases h with h | h
    · exact Bool.false_ne_true (h.symm.trans hadm)
    · exact h (of_decide_eq_true hkey).1
  have hhit : ∀ response : SignupResponse,
      (response.admitted = true →
        ((hit cfg.windowMillis now (counters.lookup key')).count : ℤ) ≤ cfg.guestSignupIPLimit) →
      (if SignupEntry.admittedIn key a b ⟨key', now, response⟩ then 1 else 0) +
          potential cfg.guestSignupIPLimit.toNat cfg.windowMillis a b now
            ((counters.insert key' (hit cfg.windowMillis now (counters.lookup key'))).lookup key) ≤
        potential cfg.guestSignupIPLimit.toNat cfg.windowMillis a b now (counters.lookup key) := by
    intro response hfew
    rw [Assoc.lookup_insert]
    by_cases hkey : key = key'
    · subst hkey
      rw [if_pos rfl]
      have hpaid : potential cfg.guestSignupIPLimit.toNat cfg.windowMillis a b now
            (some (hit cfg.windowMillis now (counters.lookup key))) +
          (if admits cfg.guestSignupIPLimit.toNat cfg.windowMillis a b now (counters.lookup key) then 1 else 0) ≤
          potential cfg.guestSignupIPLimit.toNat cfg.windowMillis a b now (counters.lookup key) :=
        FixedWindow.potential_hit
      have hle : (if SignupEntry.admittedIn key a b ⟨key, now, response⟩ then 1 else 0) ≤
          if admits cfg.guestSignupIPLimit.toNat cfg.windowMillis a b now (counters.lookup key) then 1
          else 0 := by
        split_ifs with hadm hadmits
        · exact le_rfl
        · obtain ⟨htime, hadm⟩ := (Bool.and_eq_true _ _).mp hadm
          have hfew := hfew hadm
          exact absurd ⟨by omega, (of_decide_eq_true htime).2⟩ hadmits
        · exact Nat.zero_le _
        · exact le_rfl
      omega
    · rw [if_neg hkey, hnot response (.inr (Ne.symm hkey)), Nat.zero_add]
  cases h with
  | stopped hadmitted asked => rw [hnot _ (.inl hadmitted), Nat.zero_add]
  | lost => exact hhit _ fun h => by cases h
  | admitted few => exact hhit _ fun _ => few
  | refused many => exact hhit _ fun h => by cases h

theorem Bounded.step {bound : ℕ} {act : SignupAct} (hlimit : 0 < cfg.guestSignupIPLimit)
    (hmillis : cfg.windowMillis ≠ 0) (h : Bounded cfg key a b bound w)
    (hs : w.step N trustedProxyCIDRs cfg act = some w') : Bounded cfg key a b bound w' := by
  unfold Bounded at h ⊢
  cases act with
  | tick d =>
      obtain rfl := Option.some.inj hs
      exact (Nat.add_le_add_left (FixedWindow.potential_mono (Nat.le_add_right w.now d)) _).trans h
  | guestLogin r env =>
      obtain rfl := Option.some.inj hs
      dsimp only
      have hlogins : Logins cfg w.now w.counters (signupKey N trustedProxyCIDRs r) env
          (guestLogin N trustedProxyCIDRs cfg w.now w.counters r env) := logins_guestLogin hlimit hmillis
      have hpaid := hlogins.potential_le key a b
      rw [List.countP_append, List.countP_singleton]
      omega

/-- From one address no more guests are made in an interval than the limit for each window that it can
meet: two, and one more for each window that it is longer. -/
theorem signups_le (N : NetPkg) (trustedProxyCIDRs : List N.IPNet) (cfg : SignupConfig)
    (hlimit : 0 < cfg.guestSignupIPLimit) (hmillis : cfg.windowMillis ≠ 0) (now : ℕ) (counters : Counters)
    (as : List SignupAct) (w : SignupWorld)
    (hs : Run.exec (SignupWorld.step N trustedProxyCIDRs cfg) ⟨now, counters, []⟩ as = some w) (key : String)
    (a b : ℕ) :
    w.log.countP (SignupEntry.admittedIn key a b) ≤
      cfg.guestSignupIPLimit.toNat * ((b - a) / (cfg.windowMillis + 1) + 2) := by
  have hstart : Bounded cfg key a b
      (cfg.guestSignupIPLimit.toNat * ((b - a) / (cfg.windowMillis + 1) + 2)) ⟨now, counters, []⟩ := by
    unfold Bounded
    rw [List.countP_nil, Nat.zero_add]
    exact FixedWindow.potential_le
  have hend := (Run.always_of_invariant (C := fun _ _ => True)
    (fun _ _ _ h _ hs => Bounded.step hlimit hmillis h hs) hstart (Run.guarded_true _ as)).exec hs
  exact (Nat.le_add_right _ _).trans hend

/-! ### Three requests -/

def oneAddress : NetPkg where
  IP := Unit
  IPNet := Unit
  parseIP s := if s = "10.0.0.1" then some () else none
  string _ := "10.0.0.1"
  contains _ _ := false
  splitHostPort _ := none
  parseIP_empty := rfl
  parseIP_string _ := rfl

/-- One guest in a minute. -/
def onePerMinute : SignupConfig := ⟨1, minute⟩

def guestRequest : Request := ⟨"10.0.0.1", [], [], []⟩

/-- The second request of the minute is refused, and the third comes when the minute is over. -/
def threeRequests : List SignupAct :=
  [.guestLogin guestRequest {}, .tick 100, .guestLogin guestRequest {}, .tick 60000,
    .guestLogin guestRequest {}]

theorem signups_le_threeRequests :
    ∃ w, Run.exec (SignupWorld.step oneAddress [] onePerMinute) ⟨0, ∅, []⟩ threeRequests = some w ∧
      w.log.map SignupEntry.response = [.guest, .tooMany (59900 * millisecond), .guest] ∧
      w.log.countP (SignupEntry.admittedIn "api:ratelimit:guest_signup:ip:10.0.0.1" 0 60000) ≤ 2 := by
  have hrun : ∃ w ∈ Run.exec (SignupWorld.step oneAddress [] onePerMinute) ⟨0, ∅, []⟩ threeRequests,
      w.log.map SignupEntry.response = [.guest, .tooMany (59900 * millisecond), .guest] := by
    decide +kernel
  obtain ⟨w, hw, hlog⟩ := hrun
  exact ⟨w, hw, hlog, signups_le oneAddress [] onePerMinute (by decide) (by decide) 0 ∅ threeRequests w hw _ 0
    60000⟩

/-! ## How long to wait -/

/-- The requests of the key. -/
def SignupAct.asks (N : NetPkg) (trustedProxyCIDRs : List N.IPNet) (key : String) : SignupAct → Bool
  | .tick _ => false
  | .guestLogin r _ => signupKey N trustedProxyCIDRs r = key

/-- The rounding of the header leaves out less than half a second. -/
theorem lt_of_retryAfterHeader {ttl seconds : ℤ} (httl : 0 ≤ ttl)
    (h : retryAfterHeader (retryAfter cfg ttl) = some seconds) : ttl < 1000 * seconds + 500 := by
  unfold retryAfterHeader at h
  split_ifs at h with hpos
  have hseconds := Option.some.inj h
  unfold retryAfter at hseconds hpos
  dsimp only at hseconds hpos
  rcases eq_or_lt_of_le httl with rfl | hlt
  · split_ifs at hseconds <;> omega
  · have hlong : ¬ ttl * millisecond ≤ 0 := by
      simp only [millisecond]
      omega
    rw [if_neg hlong] at hseconds
    unfold roundToSecond at hseconds
    simp only [second, millisecond] at hseconds
    split_ifs at hseconds <;> omega

/-- The counter of the key goes with the one that has refused, or has met only the requests since then. -/
def Since (key : String) (expiresAt asked : ℕ) (counters : Counters) : Prop :=
  ∀ c, counters.lookup key = some c → c.expiresAt ≤ expiresAt ∨ c.count ≤ asked

theorem Since.hit {expiresAt asked : ℕ} (h : Since key expiresAt asked counters) (millis : ℕ) :
    Since key expiresAt (asked + 1) (counters.insert key (hit millis now (counters.lookup key))) := by
  intro c hc
  rw [Assoc.lookup_insert, if_pos rfl] at hc
  obtain rfl := Option.some.inj hc
  rcases FixedWindow.hit_cases millis now (counters.lookup key) with
    ⟨c', hc', -, hcount, hexpires⟩ | ⟨hcount, -⟩
  · rcases h c' hc' with hgone | hfew
    · exact .inl (hexpires.le.trans hgone)
    · exact .inr (by omega)
  · exact .inr (by omega)

theorem Since.step {expiresAt asked : ℕ} {act : SignupAct} (hlimit : 0 < cfg.guestSignupIPLimit)
    (hmillis : cfg.windowMillis ≠ 0) (h : Since key expiresAt asked w.counters)
    (hs : w.step N trustedProxyCIDRs cfg act = some w') :
    Since key expiresAt (asked + if act.asks N trustedProxyCIDRs key then 1 else 0) w'.counters := by
  cases act with
  | tick d =>
      obtain rfl := Option.some.inj hs
      exact h
  | guestLogin r env =>
      obtain rfl := Option.some.inj hs
      have hmono : ∀ n, Since key expiresAt (asked + n) w.counters :=
        fun n c hc => (h c hc).imp_right fun hle => hle.trans (Nat.le_add_right _ _)
      have hhit : Since key expiresAt
          (asked + if (SignupAct.guestLogin r env).asks N trustedProxyCIDRs key then 1 else 0)
          (w.counters.insert (signupKey N trustedProxyCIDRs r)
            (FixedWindow.hit cfg.windowMillis w.now
              (w.counters.lookup (signupKey N trustedProxyCIDRs r)))) := by
        by_cases hkey : signupKey N trustedProxyCIDRs r = key
        · have hasks : (SignupAct.guestLogin r env).asks N trustedProxyCIDRs key = true :=
            decide_eq_true hkey
          rw [hasks, if_pos rfl, hkey]
          exact h.hit cfg.windowMillis
        · intro c hc
          rw [Assoc.lookup_insert, if_neg (Ne.symm hkey)] at hc
          exact hmono _ c hc
      have hlogins : Logins cfg w.now w.counters (signupKey N trustedProxyCIDRs r) env
          (Api.guestLogin N trustedProxyCIDRs cfg w.now w.counters r env) := logins_guestLogin hlimit hmillis
      dsimp only
      generalize Api.guestLogin N trustedProxyCIDRs cfg w.now w.counters r env = s at hlogins
      cases hlogins with
      | stopped => exact hmono _
      | lost | admitted | refused => exact hhit

theorem Since.exec {expiresAt asked : ℕ} {as : List SignupAct} (hlimit : 0 < cfg.guestSignupIPLimit)
    (hmillis : cfg.windowMillis ≠ 0) (h : Since key expiresAt asked w.counters)
    (hs : Run.exec (SignupWorld.step N trustedProxyCIDRs cfg) w as = some w') :
    Since key expiresAt (asked + as.countP (SignupAct.asks N trustedProxyCIDRs key)) w'.counters := by
  induction as generalizing w asked with
  | nil =>
      obtain rfl : w = w' := by simpa [Run.exec] using hs
      exact h
  | cons act as ih =>
      obtain ⟨w₁, hw₁, hs⟩ := Option.bind_eq_some_iff.1 hs
      have hend := ih (h.step hlimit hmillis hw₁) hs
      rw [List.countP_cons]
      have hcount : ∀ m n, asked + m + n = asked + (n + m) := fun m n => by omega
      rwa [hcount] at hend

/-- Whoever is refused and waits for as long as the header says, and half a second, is admitted, unless as
many requests of the address as the limit allows have come meanwhile. -/
theorem admitted_after_retry (N : NetPkg) (trustedProxyCIDRs : List N.IPNet) (cfg : SignupConfig)
    (hlimit : 0 < cfg.guestSignupIPLimit) (hmillis : cfg.windowMillis ≠ 0) (w w₁ w₂ : SignupWorld)
    (r r' : Request) (env env' : SignupEnv) (d seconds : ℤ) (as : List SignupAct)
    (hrefused : (guestLogin N trustedProxyCIDRs cfg w.now w.counters r env).2 = .tooMany d)
    (hheader : retryAfterHeader d = some seconds)
    (hs : w.step N trustedProxyCIDRs cfg (.guestLogin r env) = some w₁)
    (hs' : Run.exec (SignupWorld.step N trustedProxyCIDRs cfg) w₁ as = some w₂)
    (hfew : (as.countP (SignupAct.asks N trustedProxyCIDRs (signupKey N trustedProxyCIDRs r)) : ℤ) <
      cfg.guestSignupIPLimit)
    (hwait : (w.now : ℤ) + 1000 * seconds + 500 ≤ w₂.now)
    (hkey : signupKey N trustedProxyCIDRs r' = signupKey N trustedProxyCIDRs r)
    (hsession : env'.session = false) (hbanned : env'.signupIPBanned = some false)
    (hscript : env'.script = .answered) :
    (guestLogin N trustedProxyCIDRs cfg w₂.now w₂.counters r' env').2.admitted = true := by
  obtain rfl := Option.some.inj hs
  have hlogins : Logins cfg w.now w.counters (signupKey N trustedProxyCIDRs r) env
      (guestLogin N trustedProxyCIDRs cfg w.now w.counters r env) := logins_guestLogin hlimit hmillis
  set c := hit cfg.windowMillis w.now (w.counters.lookup (signupKey N trustedProxyCIDRs r)) with hc
  -- the counter that refuses is there, and its end is what the header says
  have hhere : w.now ≤ c.expiresAt := (FixedWindow.live_eq_some.1 FixedWindow.live_hit).2
  obtain ⟨hcounters, hend⟩ : (guestLogin N trustedProxyCIDRs cfg w.now w.counters r env).1 =
      w.counters.insert (signupKey N trustedProxyCIDRs r) c ∧ c.expiresAt < w₂.now := by
    generalize guestLogin N trustedProxyCIDRs cfg w.now w.counters r env = s at hlogins hrefused
    cases hlogins with
    | stopped hadmitted asked => exact absurd hrefused (asked d)
    | lost => cases hrefused
    | admitted few =>
        have := congrArg SignupResponse.admitted hrefused
        rw [admitted_createGuest] at this
        cases this
    | refused many =>
        obtain rfl := SignupResponse.tooMany.inj hrefused
        rw [← hc] at hheader
        have hlt := lt_of_retryAfterHeader (by omega) hheader
        exact ⟨rfl, by omega⟩
  have hsince : Since (signupKey N trustedProxyCIDRs r) c.expiresAt
      (0 + as.countP (SignupAct.asks N trustedProxyCIDRs (signupKey N trustedProxyCIDRs r))) w₂.counters := by
    refine Since.exec hlimit hmillis (fun c' hc' => ?_) hs'
    dsimp only at hc'
    rw [hcounters, Assoc.lookup_insert, if_pos rfl] at hc'
    exact .inl (Option.some.inj hc' ▸ le_rfl)
  refine guestLogin_admitted hlimit hmillis hsession hbanned hscript ?_
  rw [hkey]
  rcases FixedWindow.hit_cases cfg.windowMillis w₂.now
    (w₂.counters.lookup (signupKey N trustedProxyCIDRs r)) with ⟨c', hc', hlive, hcount, -⟩ | ⟨hcount, -⟩
  · rcases hsince c' hc' with hgone | hcount'
    · omega
    · omega
  · omega

/-- The minute of the second request has 59.9 seconds left, and the header says 60. -/
theorem admitted_after_retry_threeRequests :
    ∃ w w₁ w₂, Run.exec (SignupWorld.step oneAddress [] onePerMinute) ⟨0, ∅, []⟩
        [.guestLogin guestRequest {}, .tick 100] = some w ∧
      w.step oneAddress [] onePerMinute (.guestLogin guestRequest {}) = some w₁ ∧
      Run.exec (SignupWorld.step oneAddress [] onePerMinute) w₁ [.tick 60500] = some w₂ ∧
      (guestLogin oneAddress [] onePerMinute w₂.now w₂.counters guestRequest {}).2.admitted = true := by
  refine ⟨_, _, _, rfl, rfl, rfl, ?_⟩
  exact admitted_after_retry oneAddress [] onePerMinute (by decide) (by decide) _ _ _ guestRequest guestRequest
    {} {} (59900 * millisecond) 60 [.tick 60500] (by decide +kernel) (by decide +kernel) rfl rfl
    (by decide +kernel) (by decide +kernel) rfl rfl rfl rfl

end GeoDuels.Api
