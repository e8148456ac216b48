import GeoDuels.Coordinator.Store
import Mathlib.Data.List.Basic

/-!
# The address of a client

`services/api/client_ip.go`.  A request that comes from a trusted proxy names the client in its headers,
and `X-Forwarded-For` is read from the right, as the entries left of the last untrusted hop are the
client's own.  `clientIP` reads the first header line only and passes over hops that are no addresses:
`clientIP_law` says for which requests the entries on the left have no say.
-/

namespace GeoDuels.Api

open Coordinator (trimSpace)

/-! ## Addresses and requests -/

/-- The `net` package: addresses with their textual form, and networks. -/
structure NetPkg where
  IP : Type
  IPNet : Type
  parseIP : String → Option IP
  string : IP → String
  contains : IPNet → IP → Bool
  /-- The host of `net.SplitHostPort`. -/
  splitHostPort : String → Option String
  parseIP_empty : parseIP "" = none
  parseIP_string : ∀ ip, parseIP (string ip) = some ip

/-- A request with the lines of the headers that `clientIP` reads. -/
structure Request where
  remoteAddr : String
  cfConnectingIP : List String
  xForwardedFor : List String
  xRealIP : List String
  deriving DecidableEq

/-- `Header.Get`: the first line, or the empty string. -/
def headerGet (values : List String) : String := values.headD ""

/-- `strings.Split(raw, ",")`. -/
def splitEntries (raw : String) : List String := (raw.toList.splitOn ',').map String.ofList

def trim (s : String) : String := String.ofList (trimSpace s)

variable (N : NetPkg) (trustedProxyCIDRs : List N.IPNet)

/-! ## `clientIP` -/

def trustsProxy (ipString : String) : Bool :=
  match N.parseIP ipString with
  | none => false
  | some ip => trustedProxyCIDRs.any (N.contains · ip)

def remoteAddrIP (remoteAddr : String) : String :=
  let host := (N.splitHostPort (trim remoteAddr)).getD (trim remoteAddr)
  match N.parseIP host with
  | none => ""
  | some ip => N.string ip

/-- What the loop of `forwardedForClientIP` returns at an entry; it goes on at the others. -/
def forwardedHop (entry : String) : Option String :=
  let part := trim entry
  if part = "" then none
  else
    match N.parseIP part with
    | none => none
    | some ip =>
        let ipString := N.string ip
        if trustsProxy N trustedProxyCIDRs ipString then none else some ipString

def forwardedForClientIP (raw : String) : String :=
  ((splitEntries raw).reverse.findSome? (forwardedHop N trustedProxyCIDRs)).getD ""

def clientIP (r : Request) : String :=
  let remoteIP := remoteAddrIP N r.remoteAddr
  if remoteIP = "" then ""
  else if !trustsProxy N trustedProxyCIDRs remoteIP then remoteIP
  else
    match N.parseIP (trim (headerGet r.cfConnectingIP)) with
    | some ip => N.string ip
    | none =>
        let ip := forwardedForClientIP N trustedProxyCIDRs (headerGet r.xForwardedFor)
        if ip ≠ "" then ip
        else
          match N.parseIP (trim (headerGet r.xRealIP)) with
          | some ip => N.string ip
          | none => remoteIP

/-! ## Entries -/

/-- The entries of a header: those of its lines joined with commas, in order. -/
def entries (lines : List String) : List String :=
  if lines = [] then []
  else splitEntries (String.ofList ([','].intercalate (lines.map String.toList)))

/-- The entry is an address inside the trusted networks. -/
def inside (entry : String) : Bool :=
  match N.parseIP (trim entry) with
  | none => false
  | some ip => trustedProxyCIDRs.any (N.contains · ip)

/-- The entries from the right end down to and including the first one that `p` does not hold of, with
the last entry first. -/
def upToFirst (p : String → Bool) : List String → List String
  | [] => []
  | e :: es => if p e then e :: upToFirst p es else [e]

/-- The requests agree on the entries that no client can write. -/
structure Agree (r r' : Request) : Prop where
  remoteAddr : r'.remoteAddr = r.remoteAddr
  cfConnectingIP : r'.cfConnectingIP = r.cfConnectingIP
  xRealIP : r'.xRealIP = r.xRealIP
  hops : upToFirst (inside N trustedProxyCIDRs) (entries r'.xForwardedFor).reverse =
    upToFirst (inside N trustedProxyCIDRs) (entries r.xForwardedFor).reverse

variable {N} {trustedProxyCIDRs}

theorem splitEntries_comma (xs ys : List Char) :
    splitEntries (String.ofList (xs ++ ',' :: ys)) =
      splitEntries (String.ofList xs) ++ splitEntries (String.ofList ys) := by
  simp [splitEntries, List.splitOn_append_cons_self]

theorem entries_cons (line : String) (lines : List String) :
    entries (line :: lines) = splitEntries line ++ lines.flatMap splitEntries := by
  induction lines generalizing line with
  | nil => simp [entries]
  | cons line' lines ih =>
      have hrest := ih line'
      unfold entries at hrest ⊢
      rw [if_neg (List.cons_ne_nil _ _)] at hrest ⊢
      rw [List.flatMap_cons, ← hrest, List.map_cons, List.map_cons, List.intercalate_cons_cons]
      rw [List.append_assoc, List.singleton_append, splitEntries_comma]
      simp

/-! ## The scan from the right -/

theorem upToFirst_append {p : String → Bool} {S : List String} (hS : ∀ s ∈ S, p s = true) {e : String}
    (he : p e = false) (P : List String) : upToFirst p (S ++ e :: P) = S ++ [e] := by
  induction S with
  | nil => simp [upToFirst, he]
  | cons s S ih =>
      rw [List.forall_mem_cons] at hS
      rw [List.cons_append, upToFirst, if_pos hS.1, ih hS.2]
      rfl

theorem upToFirst_of_forall {p : String → Bool} {S : List String} (hS : ∀ s ∈ S, p s = true) :
    upToFirst p S = S := by
  induction S with
  | nil => rfl
  | cons s S ih =>
      rw [List.forall_mem_cons] at hS
      rw [upToFirst, if_pos hS.1, ih hS.2]

/-- A list with some `x` that `q` holds of has a last one. -/
theorem exists_last {α : Type*} {q : α → Prop} {l : List α} (h : ∃ x ∈ l, q x) :
    ∃ A x B, l = A ++ x :: B ∧ q x ∧ ∀ y ∈ B, ¬ q y := by
  induction l with
  | nil => simp at h
  | cons a l ih =>
      by_cases hl : ∃ x ∈ l, q x
      · obtain ⟨A, x, B, rfl, hx, hB⟩ := ih hl
        exact ⟨a :: A, x, B, rfl, hx, hB⟩
      · push Not at hl
        obtain ⟨x, hx, hq⟩ := h
        rcases List.mem_cons.1 hx with rfl | hx
        · exact ⟨[], x, l, rfl, hq, hl⟩
        · exact absurd hq (hl x hx)

theorem trustsProxy_string (ip : N.IP) :
    trustsProxy N trustedProxyCIDRs (N.string ip) = trustedProxyCIDRs.any (N.contains · ip) := by
  rw [trustsProxy, N.parseIP_string]

theorem parseIP_trim_ne_empty {entry : String} {ip : N.IP} (h : N.parseIP (trim entry) = some ip) :
    trim entry ≠ "" := by
  intro hempty
  rw [hempty, N.parseIP_empty] at h
  cases h

theorem string_ne_empty (ip : N.IP) : N.string ip ≠ "" := by
  intro hempty
  have h := N.parseIP_string ip
  rw [hempty, N.parseIP_empty] at h
  cases h

theorem forwardedHop_of_inside {entry : String} (h : inside N trustedProxyCIDRs entry = true) :
    forwardedHop N trustedProxyCIDRs entry = none := by
  unfold inside at h
  unfold forwardedHop
  dsimp only
  split_ifs
  · rfl
  · cases hip : N.parseIP (trim entry) with
    | none => rfl
    | some ip =>
        rw [hip] at h
        dsimp only at h ⊢
        rw [trustsProxy_string, if_pos h]

theorem forwardedHop_of_outside {entry : String} (h : inside N trustedProxyCIDRs entry = false) :
    forwardedHop N trustedProxyCIDRs entry = (N.parseIP (trim entry)).map N.string := by
  unfold inside at h
  unfold forwardedHop
  dsimp only
  cases hip : N.parseIP (trim entry) with
  | none => simp
  | some ip =>
      rw [hip] at h
      dsimp only at h ⊢
      rw [if_neg (parseIP_trim_ne_empty hip), trustsProxy_string, h]
      simp

theorem findSome_inside {S : List String} (hS : ∀ s ∈ S, inside N trustedProxyCIDRs s = true) :
    S.findSome? (forwardedHop N trustedProxyCIDRs) = none :=
  List.findSome?_eq_none_iff.2 fun s hs => forwardedHop_of_inside (hS s hs)

/-- The loop stops at the last entry outside of the trusted networks, if that is an address. -/
theorem forwardedForClientIP_of_last {raw : String} {P S : List String} {e : String}
    (hraw : splitEntries raw = P ++ e :: S) (he : inside N trustedProxyCIDRs e = false)
    (hS : ∀ s ∈ S, inside N trustedProxyCIDRs s = true) {ip : N.IP}
    (hip : N.parseIP (trim e) = some ip) :
    forwardedForClientIP N trustedProxyCIDRs raw = N.string ip := by
  rw [forwardedForClientIP, hraw, List.reverse_append, List.reverse_cons, List.append_assoc,
    List.findSome?_append, findSome_inside (by simpa using hS), List.singleton_append,
    List.findSome?_cons, forwardedHop_of_outside he, hip]
  rfl

theorem forwardedForClientIP_of_inside {raw : String}
    (h : ∀ e ∈ splitEntries raw, inside N trustedProxyCIDRs e = true) :
    forwardedForClientIP N trustedProxyCIDRs raw = "" := by
  rw [forwardedForClientIP, findSome_inside (by simpa using h)]
  rfl

theorem forwardedForClientIP_empty : forwardedForClientIP N trustedProxyCIDRs "" = "" := by
  have hraw : (splitEntries "").reverse = [""] := rfl
  have htrim : trim "" = "" := rfl
  rw [forwardedForClientIP, hraw]
  simp [forwardedHop, htrim]

/-! ## Which requests are safe -/

variable (N trustedProxyCIDRs)

/-- A header in which the last entry outside of the trusted networks is `e`, in the line `line`. -/
structure LastHop (lines A : List String) (line : String) (B P : List String) (e : String)
    (S : List String) : Prop where
  lines : lines = A ++ line :: B
  entries : splitEntries line = P ++ e :: S
  outside : inside N trustedProxyCIDRs e = false
  right : ∀ s ∈ S, inside N trustedProxyCIDRs s = true
  below : ∀ l ∈ B, ∀ s ∈ splitEntries l, inside N trustedProxyCIDRs s = true

/-- The last entry outside of the trusted networks stands in the first line and is an address. -/
def Firm (lines : List String) : Prop :=
  ∀ A line B P e S, LastHop N trustedProxyCIDRs lines A line B P e S →
    A = [] ∧ (N.parseIP (trim e)).isSome = true

/-- The request `r'` is `r` with other entries on the left of the last one outside of the trusted
networks; the lines on the right of it are the same, and so is the number of those on the left. -/
def Varies (r r' : Request) : Prop :=
  r'.remoteAddr = r.remoteAddr ∧ r'.cfConnectingIP = r.cfConnectingIP ∧ r'.xRealIP = r.xRealIP ∧
    ∃ A line B P e S A' line' P', LastHop N trustedProxyCIDRs r.xForwardedFor A line B P e S ∧
      LastHop N trustedProxyCIDRs r'.xForwardedFor A' line' B P' e S ∧ A'.length = A.length

variable {N trustedProxyCIDRs}

theorem exists_lastHop {lines : List String}
    (h : ∃ line ∈ lines, ∃ e ∈ splitEntries line, inside N trustedProxyCIDRs e = false) :
    ∃ A line B P e S, LastHop N trustedProxyCIDRs lines A line B P e S := by
  obtain ⟨A, line, B, hlines, hline, hB⟩ := exists_last h
  obtain ⟨P, e, S, hentries, he, hS⟩ := exists_last hline
  refine ⟨A, line, B, P, e, S, hlines, hentries, he, fun s hs => by simpa using hS s hs, ?_⟩
  intro l hl s hs
  by_contra hout
  exact hB l hl ⟨s, hs, by simpa using hout⟩

namespace LastHop

variable {lines A B P S : List String} {line e : String}

theorem entries_eq (h : LastHop N trustedProxyCIDRs lines A line B P e S) :
    ∃ Q, Api.entries lines = Q ++ e :: (S ++ B.flatMap splitEntries) := by
  have hflat : ∀ A : List String, ∃ Q,
      Api.entries (A ++ line :: B) = Q ++ e :: (S ++ B.flatMap splitEntries) := by
    intro A
    cases A with
    | nil => exact ⟨P, by rw [List.nil_append, entries_cons, h.entries]; simp⟩
    | cons l A =>
        refine ⟨splitEntries l ++ A.flatMap splitEntries ++ P, ?_⟩
        rw [List.cons_append, entries_cons, List.flatMap_append, List.flatMap_cons, h.entries]
        simp
  rw [h.lines]
  exact hflat A

/-- What two headers with a last hop have to share in order to agree. -/
theorem upToFirst_eq (h : LastHop N trustedProxyCIDRs lines A line B P e S) :
    upToFirst (inside N trustedProxyCIDRs) (Api.entries lines).reverse =
      (S ++ B.flatMap splitEntries).reverse ++ [e] := by
  obtain ⟨Q, hQ⟩ := h.entries_eq
  rw [hQ, List.reverse_append, List.reverse_cons, List.append_assoc, List.singleton_append]
  refine upToFirst_append (fun s hs => ?_) h.outside _
  rw [List.mem_reverse, List.mem_append, List.mem_flatMap] at hs
  rcases hs with hs | ⟨l, hl, hs⟩
  · exact h.right s hs
  · exact h.below l hl s hs

theorem forwarded_of_nil (h : LastHop N trustedProxyCIDRs lines [] line B P e S) {ip : N.IP}
    (hip : N.parseIP (trim e) = some ip) :
    forwardedForClientIP N trustedProxyCIDRs (headerGet lines) = N.string ip := by
  rw [h.lines]
  exact forwardedForClientIP_of_last h.entries h.outside h.right hip

end LastHop

theorem Varies.agree {r r' : Request} (h : Varies N trustedProxyCIDRs r r') :
    Agree N trustedProxyCIDRs r r' := by
  obtain ⟨haddr, hcf, hreal, A, line, B, P, e, S, A', line', P', hlast, hlast', -⟩ := h
  refine ⟨haddr, hcf, hreal, ?_⟩
  rw [hlast'.upToFirst_eq, hlast.upToFirst_eq]

/-! ## The law -/

/-- The request comes from a trusted proxy that is not Cloudflare. -/
structure Proxied (N : NetPkg) (trustedProxyCIDRs : List N.IPNet) (r : Request) : Prop where
  addr : remoteAddrIP N r.remoteAddr ≠ ""
  trusted : trustsProxy N trustedProxyCIDRs (remoteAddrIP N r.remoteAddr) = true
  noCF : r.cfConnectingIP = []

/-- What `clientIP` falls back to without a forwarded address. -/
def fallbackIP (N : NetPkg) (r : Request) : String :=
  match N.parseIP (trim (headerGet r.xRealIP)) with
  | some ip => N.string ip
  | none => remoteAddrIP N r.remoteAddr

theorem clientIP_of_proxied {r : Request} (h : Proxied N trustedProxyCIDRs r) :
    clientIP N trustedProxyCIDRs r =
      if forwardedForClientIP N trustedProxyCIDRs (headerGet r.xForwardedFor) ≠ "" then
        forwardedForClientIP N trustedProxyCIDRs (headerGet r.xForwardedFor)
      else fallbackIP N r := by
  have hcf : N.parseIP (trim (headerGet r.cfConnectingIP)) = none := by
    rw [h.noCF]
    exact N.parseIP_empty
  unfold clientIP
  dsimp only
  rw [if_neg h.addr, h.trusted, hcf]
  rfl

theorem clientIP_of_untrusted {r : Request}
    (h : trustsProxy N trustedProxyCIDRs (remoteAddrIP N r.remoteAddr) = false) :
    clientIP N trustedProxyCIDRs r = remoteAddrIP N r.remoteAddr := by
  unfold clientIP
  dsimp only
  by_cases hempty : remoteAddrIP N r.remoteAddr = ""
  · rw [if_pos hempty, hempty]
  · rw [if_neg hempty, h]
    rfl

theorem Agree.clientIP_eq {r r' : Request} (h : Agree N trustedProxyCIDRs r r')
    (hr : Proxied N trustedProxyCIDRs r)
    (hforwarded : forwardedForClientIP N trustedProxyCIDRs (headerGet r'.xForwardedFor) =
      forwardedForClientIP N trustedProxyCIDRs (headerGet r.xForwardedFor)) :
    clientIP N trustedProxyCIDRs r' = clientIP N trustedProxyCIDRs r := by
  have hr' : Proxied N trustedProxyCIDRs r' :=
    ⟨by rw [h.remoteAddr]; exact hr.addr, by rw [h.remoteAddr]; exact hr.trusted,
      by rw [h.cfConnectingIP]; exact hr.noCF⟩
  rw [clientIP_of_proxied hr, clientIP_of_proxied hr', hforwarded, fallbackIP, fallbackIP, h.xRealIP,
    h.remoteAddr]

/-- What a firm header forwards is its last hop, or nothing. -/
theorem Firm.forwarded {lines : List String} (h : Firm N trustedProxyCIDRs lines) :
    (∃ e S ip, upToFirst (inside N trustedProxyCIDRs) (entries lines).reverse = S ++ [e] ∧
      inside N trustedProxyCIDRs e = false ∧ N.parseIP (trim e) = some ip ∧
      forwardedForClientIP N trustedProxyCIDRs (headerGet lines) = N.string ip) ∨
    (∀ e ∈ upToFirst (inside N trustedProxyCIDRs) (entries lines).reverse,
      inside N trustedProxyCIDRs e = true) ∧
      forwardedForClientIP N trustedProxyCIDRs (headerGet lines) = "" := by
  by_cases hout : ∃ line ∈ lines, ∃ e ∈ splitEntries line, inside N trustedProxyCIDRs e = false
  · obtain ⟨A, line, B, P, e, S, hlast⟩ := exists_lastHop hout
    obtain ⟨rfl, hparse⟩ := h A line B P e S hlast
    obtain ⟨ip, hip⟩ := Option.isSome_iff_exists.1 hparse
    exact .inl ⟨e, _, ip, hlast.upToFirst_eq, hlast.outside, hip, hlast.forwarded_of_nil hip⟩
  · push Not at hout
    have hin : ∀ line ∈ lines, ∀ e ∈ splitEntries line, inside N trustedProxyCIDRs e = true :=
      fun line hline e he => by simpa using hout line hline e he
    have hentries : ∀ e ∈ (entries lines).reverse, inside N trustedProxyCIDRs e = true := by
      intro e he
      rw [List.mem_reverse] at he
      cases lines with
      | nil => simp [entries] at he
      | cons line lines =>
          rw [entries_cons, List.mem_append, List.mem_flatMap] at he
          rcases he with he | ⟨l, hl, he⟩
          · exact hin line List.mem_cons_self e he
          · exact hin l (List.mem_cons_of_mem _ hl) e he
    refine .inr ⟨by rwa [upToFirst_of_forall hentries], ?_⟩
    cases lines with
    | nil => exact forwardedForClientIP_empty
    | cons line lines => exact forwardedForClientIP_of_inside (hin line List.mem_cons_self)

/-- Two firm headers that agree forward the same address. -/
theorem Firm.forwarded_eq {lines lines' : List String} (h : Firm N trustedProxyCIDRs lines)
    (h' : Firm N trustedProxyCIDRs lines')
    (hagree : upToFirst (inside N trustedProxyCIDRs) (entries lines').reverse =
      upToFirst (inside N trustedProxyCIDRs) (entries lines).reverse) :
    forwardedForClientIP N trustedProxyCIDRs (headerGet lines') =
      forwardedForClientIP N trustedProxyCIDRs (headerGet lines) := by
  rcases h.forwarded with ⟨e, S, ip, hup, hout, hip, hf⟩ | ⟨hin, hf⟩
  · rcases h'.forwarded with ⟨e', S', ip', hup', -, hip', hf'⟩ | ⟨hin', -⟩
    · have hlast : S' ++ [e'] = S ++ [e] := hup'.symm.trans (hagree.trans hup)
      obtain ⟨-, he⟩ := List.append_inj' hlast rfl
      rw [List.singleton_inj.1 he, hip, Option.some.injEq] at hip'
      rw [hf, hf', hip']
    · rw [hagree, hup] at hin'
      exact absurd (hout.symm.trans (hin' e (by simp))) (by decide)
  · rcases h'.forwarded with ⟨e', S', _, hup', hout', -⟩ | ⟨-, hf'⟩
    · rw [← hagree, hup'] at hin
      exact absurd (hout'.symm.trans (hin e' (by simp))) (by decide)
    · rw [hf, hf']

/-! ### Forging -/

theorem notMem_of_mem_splitOn {xs piece : List Char} (h : piece ∈ xs.splitOn ',') : ',' ∉ piece := by
  induction xs generalizing piece with
  | nil =>
      rw [List.splitOn_nil, List.mem_singleton] at h
      simp [h]
  | cons x xs ih =>
      rw [List.splitOn_cons_eq_if_modifyHead] at h
      split_ifs at h with hx
      · rcases List.mem_cons.1 h with rfl | h
        · simp
        · exact ih h
      · cases hsplit : xs.splitOn ',' with
        | nil => exact absurd hsplit (List.splitOn_ne_nil _ _)
        | cons head rest =>
            rw [hsplit, List.modifyHead_cons] at h
            rw [hsplit] at ih
            rcases List.mem_cons.1 h with rfl | h
            · have hhead := ih List.mem_cons_self
              have hne : ',' ≠ x := fun heq => hx (beq_iff_eq.2 heq.symm)
              simp [hhead, hne]
            · exact ih (List.mem_cons_of_mem _ h)

/-- The line with the given entries. -/
def joinEntries (es : List String) : String :=
  String.ofList ([','].intercalate (es.map String.toList))

theorem splitEntries_joinEntries {es : List String} (hne : es ≠ [])
    (hcomma : ∀ e ∈ es, ',' ∉ e.toList) : splitEntries (joinEntries es) = es := by
  unfold splitEntries joinEntries
  rw [String.toList_ofList, List.splitOn_intercalate ',' (by simpa using hcomma) (by simpa using hne)]
  simp

theorem splitEntries_of_notMem {s : String} (h : ',' ∉ s.toList) : splitEntries s = [s] := by
  unfold splitEntries
  rw [List.splitOn_eq_singleton h]
  simp

/-- A text that the loop takes for an address of a client. -/
structure Spoof (N : NetPkg) (trustedProxyCIDRs : List N.IPNet) (u : String) (ip : N.IP) : Prop where
  noComma : ',' ∉ u.toList
  parse : N.parseIP (trim u) = some ip
  outside : inside N trustedProxyCIDRs u = false

/-- A request whose last hop does not count can be made to name any address outside of the trusted
networks. -/
theorem exists_varies {r : Request} (hr : Proxied N trustedProxyCIDRs r)
    {A B P S : List String} {line e : String}
    (hlast : LastHop N trustedProxyCIDRs r.xForwardedFor A line B P e S)
    (hweak : A ≠ [] ∨ N.parseIP (trim e) = none) {u : String} {ip : N.IP}
    (hu : Spoof N trustedProxyCIDRs u ip) :
    ∃ r', Varies N trustedProxyCIDRs r r' ∧ clientIP N trustedProxyCIDRs r' = N.string ip := by
  have hcomma : ∀ s ∈ u :: e :: S, ',' ∉ s.toList := by
    have hentries : ∀ s ∈ P ++ e :: S, ',' ∉ s.toList := by
      intro s hs
      rw [← hlast.entries] at hs
      obtain ⟨piece, hpiece, rfl⟩ := List.mem_map.1 hs
      rw [String.toList_ofList]
      exact notMem_of_mem_splitOn hpiece
    intro s hs
    rcases List.mem_cons.1 hs with rfl | hs
    · exact hu.noComma
    · exact hentries s (List.mem_append_right _ hs)
  have hline := splitEntries_joinEntries (List.cons_ne_nil _ _) hcomma
  let r' : Request :=
    { r with xForwardedFor := A.map (fun _ => u) ++ joinEntries (u :: e :: S) :: B }
  have hlast' : LastHop N trustedProxyCIDRs r'.xForwardedFor (A.map fun _ => u)
      (joinEntries (u :: e :: S)) B [u] e S :=
    ⟨rfl, hline, hlast.outside, hlast.right, hlast.below⟩
  have hvaries : Varies N trustedProxyCIDRs r r' :=
    ⟨rfl, rfl, rfl, A, line, B, P, e, S, _, _, [u], hlast, hlast', by simp⟩
  have hforwarded : forwardedForClientIP N trustedProxyCIDRs (headerGet r'.xForwardedFor) =
      N.string ip := by
    cases A with
    | nil =>
        -- the loop passes over the last hop, which is no address
        have hparse := hweak.resolve_left (not_not.2 rfl)
        have hhop := forwardedHop_of_outside hlast.outside
        have hspoof := forwardedHop_of_outside hu.outside
        have hget : headerGet r'.xForwardedFor = joinEntries (u :: e :: S) := rfl
        rw [hget, forwardedForClientIP, hline, List.reverse_cons, List.reverse_cons,
          List.append_assoc, List.findSome?_append, findSome_inside (by simpa using hlast.right)]
        simp [hhop, hspoof, hparse, hu.parse]
    | cons a A =>
        have hget : headerGet r'.xForwardedFor = u := rfl
        rw [hget]
        exact forwardedForClientIP_of_last (P := []) (S := []) (splitEntries_of_notMem hu.noComma)
          hu.outside (by simp) hu.parse
  have hr' : Proxied N trustedProxyCIDRs r' := ⟨hr.addr, hr.trusted, hr.noCF⟩
  refine ⟨r', hvaries, ?_⟩
  rw [clientIP_of_proxied hr', hforwarded, if_pos (string_ne_empty ip)]

theorem Firm.of_varies {r r' : Request} (h : Firm N trustedProxyCIDRs r.xForwardedFor)
    (hvaries : Varies N trustedProxyCIDRs r r') :
    forwardedForClientIP N trustedProxyCIDRs (headerGet r'.xForwardedFor) =
      forwardedForClientIP N trustedProxyCIDRs (headerGet r.xForwardedFor) := by
  obtain ⟨-, -, -, A, line, B, P, e, S, A', line', P', hlast, hlast', hlen⟩ := hvaries
  obtain ⟨rfl, hparse⟩ := h A line B P e S hlast
  obtain ⟨ip, hip⟩ := Option.isSome_iff_exists.1 hparse
  obtain rfl : A' = [] := List.length_eq_zero_iff.1 hlen
  rw [hlast.forwarded_of_nil hip, hlast'.forwarded_of_nil hip]

/-- Two addresses lie outside of the trusted networks. -/
def TwoOutside (N : NetPkg) (trustedProxyCIDRs : List N.IPNet) : Prop :=
  ∃ u v a b, Spoof N trustedProxyCIDRs u a ∧ Spoof N trustedProxyCIDRs v b ∧ N.string a ≠ N.string b

/-- Two firm requests that agree on the entries no client can write name the same client, and the
requests that are not firm are just those that a client can vary.  Without a trusted proxy the result
depends on `RemoteAddr` only. -/
theorem clientIP_law (N : NetPkg) (trustedProxyCIDRs : List N.IPNet) (r : Request) :
    (Proxied N trustedProxyCIDRs r →
      (Firm N trustedProxyCIDRs r.xForwardedFor → ∀ r', Agree N trustedProxyCIDRs r r' →
        Firm N trustedProxyCIDRs r'.xForwardedFor →
          clientIP N trustedProxyCIDRs r' = clientIP N trustedProxyCIDRs r) ∧
      (TwoOutside N trustedProxyCIDRs →
        ((∀ r', Varies N trustedProxyCIDRs r r' →
          clientIP N trustedProxyCIDRs r' = clientIP N trustedProxyCIDRs r) ↔
        Firm N trustedProxyCIDRs r.xForwardedFor))) ∧
    (trustsProxy N trustedProxyCIDRs (remoteAddrIP N r.remoteAddr) = false →
      ∀ r', r'.remoteAddr = r.remoteAddr →
        clientIP N trustedProxyCIDRs r' = clientIP N trustedProxyCIDRs r) := by
  refine ⟨fun hr => ⟨fun h r' hagree h' => ?_, fun htwo => ⟨fun hsame => ?_, fun h r' hvaries => ?_⟩⟩,
    fun huntrusted r' haddr => ?_⟩
  · exact hagree.clientIP_eq hr (h.forwarded_eq h' hagree.hops)
  · intro A line B P e S hlast
    by_contra hnot
    have hweak : A ≠ [] ∨ N.parseIP (trim e) = none := by
      by_cases hA : A = []
      · exact .inr (by simpa [hA] using hnot)
      · exact .inl hA
    obtain ⟨u, v, a, b, hu, hv, hne⟩ := htwo
    obtain ⟨r₁, hvaries₁, h₁⟩ := exists_varies hr hlast hweak hu
    obtain ⟨r₂, hvaries₂, h₂⟩ := exists_varies hr hlast hweak hv
    exact hne (h₁.symm.trans ((hsame r₁ hvaries₁).trans ((hsame r₂ hvaries₂).symm.trans h₂)))
  · exact hvaries.agree.clientIP_eq hr (h.of_varies hvaries)
  · rw [clientIP_of_untrusted huntrusted, clientIP_of_untrusted (by rw [haddr]; exact huntrusted), haddr]

/-! ## Spoofed requests -/

/-- What the client of a trusted proxy cannot do, as the entries from the last hop on are not his. -/
def Unforgeable (N : NetPkg) (trustedProxyCIDRs : List N.IPNet) : Prop :=
  ∀ r r', Proxied N trustedProxyCIDRs r → Agree N trustedProxyCIDRs r r' →
    clientIP N trustedProxyCIDRs r' = clientIP N trustedProxyCIDRs r

def knownAddresses : List String := ["10.42.1.10", "198.51.100.20", "203.0.113.50", "192.0.2.222"]

/-- The `net` package on four addresses; a network is the list of its members. -/
def NetPkg.known : NetPkg where
  IP := { s // s ∈ knownAddresses }
  IPNet := List String
  parseIP s := if h : s ∈ knownAddresses then some ⟨s, h⟩ else none
  string := Subtype.val
  contains network ip := network.contains ip.1
  splitHostPort s := some (String.ofList (s.toList.takeWhile (· ≠ ':')))
  parseIP_empty := by decide
  parseIP_string ip := dif_pos ip.2

/-- A request of a client whose address the proxy `10.42.1.10` has appended in a header line of its
own. -/
def spoofed (spoof : String) : Request where
  remoteAddr := "10.42.1.10:12345"
  cfConnectingIP := []
  xForwardedFor := [spoof, "203.0.113.50"]
  xRealIP := []

theorem not_unforgeable : ¬ Unforgeable .known [["10.42.1.10"]] := by
  intro h
  have hproxied : Proxied .known [["10.42.1.10"]] (spoofed "192.0.2.222") :=
    ⟨by decide +kernel, by decide +kernel, rfl⟩
  have hagree : Agree .known [["10.42.1.10"]] (spoofed "192.0.2.222") (spoofed "198.51.100.20") :=
    ⟨rfl, rfl, rfl, by decide +kernel⟩
  have hne : clientIP .known [["10.42.1.10"]] (spoofed "198.51.100.20") ≠
      clientIP .known [["10.42.1.10"]] (spoofed "192.0.2.222") := by decide +kernel
  exact hne (h _ _ hproxied hagree)

/-- A hop that is no address lets the entry on its left through. -/
example : clientIP .known [["10.42.1.10"]]
    { spoofed "" with xForwardedFor := ["192.0.2.222, unknown, 10.42.1.10"] } = "192.0.2.222" := by
  decide +kernel

end GeoDuels.Api
