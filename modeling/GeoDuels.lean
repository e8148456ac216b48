import GeoDuels.Duel.Rounds
import GeoDuels.Duel.Guesses
import GeoDuels.Duel.Outcome
import GeoDuels.MatchStore.Pairs
import GeoDuels.MatchStore.Waiting
import GeoDuels.MatchStore.Failures
import GeoDuels.MatchStore.Maximal
import GeoDuels.MatchLaunch.DistinctIds
import GeoDuels.MatchLaunch.OneNode
import GeoDuels.MatchCoordinator.OneMatch
import GeoDuels.GameplayNode.Connections
import GeoDuels.GameplayNode.FinishedOnce
import GeoDuels.Persistence.OneOwner
import GeoDuels.Persistence.Interleaved
import GeoDuels.Persistence.Capacity
import GeoDuels.Persistence.OwnerPresent
import GeoDuels.Lib.OmitEmpty
import GeoDuels.Lib.Ordered
import GeoDuels.LobbySocket.Patch
import GeoDuels.LobbySocket.Reproduces
import GeoDuels.StartLobby.Requests
import GeoDuels.StartLobby.NoStray
import GeoDuels.StartLobby.MembersAssigned
import GeoDuels.AuthSessions.SingleUse
import GeoDuels.AuthSessions.CookieJar
import GeoDuels.Identities.Store
import GeoDuels.Identities.Spec
import GeoDuels.Identities.Bans
import GeoDuels.Identities.LastMethod
import GeoDuels.Lib.RowHistory
import GeoDuels.Ratings.Store
import GeoDuels.Ratings.Serial
import GeoDuels.Ratings.Refunds
import GeoDuels.Lib.Deadlock
import GeoDuels.Ratings.LockOrder
import GeoDuels.Lib.Collect
import GeoDuels.Moderation.Store
import GeoDuels.Moderation.Ledger
import GeoDuels.Moderation.CountedOnce
import GeoDuels.Duel.Veil
import GeoDuels.Duel.NoPeeking
import GeoDuels.Lib.LastWriter
import GeoDuels.LobbySocket.Cells
import GeoDuels.LobbySocket.Controller
import GeoDuels.LobbySocket.Converges
import GeoDuels.Assignments.Commands
import GeoDuels.Assignments.Requests
import GeoDuels.Assignments.PartyKept
import GeoDuels.Assignments.System
import GeoDuels.Assignments.ClearedAlone
import GeoDuels.Assignments.OwnKeys
import GeoDuels.MapRevisions.Store
import GeoDuels.MapRevisions.Commits
import GeoDuels.MapRevisions.Processes
import GeoDuels.MapRevisions.Complete
import GeoDuels.MatchPage.Controller
import GeoDuels.MatchPage.NeverStuck
import GeoDuels.Chat.Join
import GeoDuels.Chat.NoneLost
import GeoDuels.Singleplayer.Bookkeeping
import GeoDuels.MatchCoordinator.NewestQueued
import GeoDuels.Duel.Loops
import GeoDuels.Rating.Elo
import GeoDuels.Api.ClientIP
import GeoDuels.Moderation.CheatBan
import GeoDuels.Reports.Cases
import GeoDuels.Reports.Pressure
import GeoDuels.Reports.Projections
import GeoDuels.AuthSessions.FailedRefresh
import GeoDuels.AuthSessions.SessionController
import GeoDuels.MatchHistory.Winner
import GeoDuels.MatchStore.Reference
import GeoDuels.Duel.Accounts
import GeoDuels.Chat.History
import GeoDuels.Chat.RateLimit
import GeoDuels.LocationSampler.Sampler
import GeoDuels.Badges.Chosen
import GeoDuels.Duel.Schedule
import GeoDuels.Lib.Count
import GeoDuels.Notifications.Attempts
import GeoDuels.Notifications.Waiting
import GeoDuels.Reports.Announced
import GeoDuels.Seasons.Leaderboard
import GeoDuels.Seasons.Places
import GeoDuels.Api.GuestSignups
import GeoDuels.Identities.OAuth
import GeoDuels.Identities.OwnersOnly
import GeoDuels.MatchPage.Route
import GeoDuels.MatchPage.RouteShown
import GeoDuels.Ratings.Statistics
import GeoDuels.LocationSampler.DuelRounds
