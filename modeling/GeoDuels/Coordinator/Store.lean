import GeoDuels.Contracts
import Mathlib.Data.List.Sort

/-!
# The coordinator's store

The Redis keys of `pkg/coordinator`: the registered gameplay nodes, the assignments of the active
matches, kept under the match and under each of its players, and the locks of the matches.  Each
function is one command or one `MULTI`/`EXEC` pipeline.  Keys do not expire here, so the lifetimes are
left out; `singleTTL` is the one that is also written into a record.
-/

namespace GeoDuels.Coordinator

/-! ## Text -/

/-- `unicode.IsSpace`. -/
def isSpace (c : Char) : Bool :=
  let n := c.toNat
  (9 ≤ n && n ≤ 13) || n == 32 || n == 0x85 || n == 0xA0 || n == 0x1680 ||
    (0x2000 ≤ n && n ≤ 0x200A) || n == 0x2028 || n == 0x2029 || n == 0x202F || n == 0x205F ||
    n == 0x3000

/-- `strings.TrimSpace`. -/
def trimSpace (s : String) : List Char :=
  ((s.toList.dropWhile isSpace).reverse.dropWhile isSpace).reverse

/-- `strings.TrimSpace(s) == ""`. -/
def isBlank (s : String) : Bool := trimSpace s == []

/-- `sessionpolicy.NormalizeMode`. -/
def normalizeMode (mode : MatchMode) (matchID : MatchID) : MatchMode :=
  if mode ≠ .unset then mode
  else if "solo-".toList.isPrefixOf (trimSpace matchID) then .singleplayer
  else .duel

/-! ## Records and keys -/

abbrev NodeID := String

structure NodeRecord where
  nodeID : NodeID
  ownerEpoch : ℤ := 0
  publicRoute : String := ""
  internalURL : String := ""
  activeMatches : ℤ := 0
  draining : Bool := false
  updatedAt : ℤ := 0
  deriving DecidableEq

structure Assignment where
  matchID : MatchID
  mode : MatchMode
  config : MatchConfig
  nodeID : NodeID
  nodeEpoch : ℤ
  publicRoute : String
  players : List UserID
  updatedAt : ℤ := 0
  recoverableUntil : ℤ := 0
  sourceLobbyID : String := ""
  sourceLobbyInviteCode : String := ""
  deriving DecidableEq

structure Store where
  /-- The members of `rt:nodes`, in the order in which they are listed. -/
  nodeIndex : List NodeID := []
  node : Assoc NodeID NodeRecord := ∅
  nodeRoute : Assoc String NodeRecord := ∅
  activeMatch : Assoc MatchID Assignment := ∅
  activeUser : Assoc UserID Assignment := ∅
  lock : Assoc MatchID String := ∅

namespace Store

/-! ### Nodes -/

/-- The record that `RegisterNode` writes. -/
def nodeRecord (rec : NodeRecord) (now : ℤ) : NodeRecord :=
  { rec with
    publicRoute := if rec.publicRoute = "" then rec.nodeID else rec.publicRoute
    updatedAt := now }

/-- The pipeline of `RegisterNode`, for the record `existing` that it has read before. -/
def registerNode (s : Store) (existing : Option NodeRecord) (rec : NodeRecord) (now : ℤ) : Store :=
  let written := nodeRecord rec now
  let nodeRoute :=
    match existing with
    | some old =>
        if old.publicRoute ≠ "" ∧ old.publicRoute ≠ written.publicRoute then
          s.nodeRoute.erase old.publicRoute
        else s.nodeRoute
    | none => s.nodeRoute
  { s with
    nodeIndex := if rec.nodeID ∈ s.nodeIndex then s.nodeIndex else s.nodeIndex ++ [rec.nodeID]
    node := s.node.insert rec.nodeID written
    nodeRoute := nodeRoute.insert written.publicRoute written }

/-- The pipeline of `RemoveNode`, for the record `existing` that it has read before. -/
def removeNode (s : Store) (nodeID : NodeID) (existing : Option NodeRecord) : Store :=
  { s with
    nodeIndex := s.nodeIndex.filter (· ≠ nodeID)
    node := s.node.erase nodeID
    nodeRoute :=
      match existing with
      | some rec =>
          if rec.publicRoute ≠ "" then s.nodeRoute.erase rec.publicRoute else s.nodeRoute
      | none => s.nodeRoute }

/-- A record without a node id counts as missing. -/
def getNode (z : Assoc String NodeRecord) (key : String) : Option NodeRecord :=
  (z.lookup key).filter (·.nodeID ≠ "")

def getNodeByID (s : Store) (nodeID : NodeID) : Option NodeRecord := getNode s.node nodeID

def getNodeByRoute (s : Store) (route : String) : Option NodeRecord :=
  if isBlank route then none
  else
    match getNode s.nodeRoute route with
    | some rec => some rec
    | none => getNode s.node route

/-- `SREM` of the stale members of the index. -/
def removeStale (s : Store) (stale : List NodeID) : Store :=
  { s with nodeIndex := s.nodeIndex.filter (· ∉ stale) }

/-! ### Locks -/

/-- `SETNX` of the match's lock: the store when the lock was free. -/
def tryLockMatch (s : Store) (matchID : MatchID) (holder : String) : Option Store :=
  if matchID ∈ s.lock then none else some { s with lock := s.lock.insert matchID holder }

/-- `unlockMatchScript`. -/
def unlockMatch (s : Store) (matchID : MatchID) (holder : String) : Store :=
  if s.lock.lookup matchID = some holder then { s with lock := s.lock.erase matchID } else s

/-! ### Assignments -/

/-- A record without a match id counts as missing. -/
def getAssignment {K : Type} [DecidableEq K] (z : Assoc K Assignment) (key : K) :
    Option Assignment :=
  (z.lookup key).filter (·.matchID ≠ "")

def getAssignmentByMatch (s : Store) (matchID : MatchID) : Option Assignment :=
  getAssignment s.activeMatch matchID

def getAssignmentByUser (s : Store) (userID : UserID) : Option Assignment :=
  getAssignment s.activeUser userID

/-- The record that `SaveAssignment` writes. -/
def savedAssignment (singleTTL : ℤ) (rec : Assignment) (now : ℤ) : Assignment :=
  { rec with
    publicRoute := if rec.publicRoute = "" then rec.nodeID else rec.publicRoute
    updatedAt := now
    recoverableUntil := if rec.mode = .singleplayer then now + singleTTL else rec.recoverableUntil }

/-- `SaveAssignment`: one pipeline, for the match and each player. -/
def saveAssignment (s : Store) (singleTTL : ℤ) (rec : Assignment) (now : ℤ) : Except String Store :=
  if rec.matchID = "" ∨ rec.nodeID = "" ∨ rec.players = [] then
    .error "matchID, nodeID, and players are required"
  else
    let saved := savedAssignment singleTTL rec now
    .ok { s with
      activeMatch := s.activeMatch.insert rec.matchID saved
      activeUser := (rec.players.filter (!isBlank ·)).foldl (fun z u => z.insert u saved)
        s.activeUser }

/-- `ClearAssignment`: one pipeline. -/
def clearAssignment (s : Store) (rec : Assignment) : Store :=
  if rec.matchID = "" then s
  else
    { s with
      activeMatch := s.activeMatch.erase rec.matchID
      activeUser := (rec.players.filter (!isBlank ·)).foldl (fun z u => z.erase u) s.activeUser }

end Store

end GeoDuels.Coordinator
