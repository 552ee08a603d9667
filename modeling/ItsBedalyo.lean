import ItsBedalyo.Database.AccountDAO
import ItsBedalyo.Database.Accounts
import ItsBedalyo.Database.AddressSaving
import ItsBedalyo.Database.AuthDAO
import ItsBedalyo.Database.Columns
import ItsBedalyo.Database.ConnectionPool
import ItsBedalyo.Database.Dao
import ItsBedalyo.Database.DbManager
import ItsBedalyo.Database.DefaultAddress
import ItsBedalyo.Database.DefaultChange
import ItsBedalyo.Database.DeliveryAddress
import ItsBedalyo.Database.GapLocks
import ItsBedalyo.Database.OrderDAO
import ItsBedalyo.Database.Queries
import ItsBedalyo.Database.ReadOnly
import ItsBedalyo.Database.Readers
import ItsBedalyo.Database.ResultSets
import ItsBedalyo.Database.StoreReaders
import ItsBedalyo.Database.StoredTables
import ItsBedalyo.Database.Tables
import ItsBedalyo.Database.Transaction
import ItsBedalyo.Dto.ReplyDTO
import ItsBedalyo.Dto.RequestDTO
import ItsBedalyo.Dto.RoundTrip
import ItsBedalyo.Dto.StoreDTO
import ItsBedalyo.Dto.StoreDetailDTO
import ItsBedalyo.Handler.AcceptOnce
import ItsBedalyo.Handler.AccountPages
import ItsBedalyo.Handler.AnsweredOnce
import ItsBedalyo.Handler.AnsweredPages
import ItsBedalyo.Handler.AnsweredRequests
import ItsBedalyo.Handler.ArrivalEstimates
import ItsBedalyo.Handler.ChatAuthority
import ItsBedalyo.Handler.ChatExit
import ItsBedalyo.Handler.ChatHandler
import ItsBedalyo.Handler.ChatRequests
import ItsBedalyo.Handler.CheckedOrders
import ItsBedalyo.Handler.CheckoutFee
import ItsBedalyo.Handler.CleanConnections
import ItsBedalyo.Handler.CookTimeSet
import ItsBedalyo.Handler.DeliveryCall
import ItsBedalyo.Handler.DuplicateChecks
import ItsBedalyo.Handler.GradeCopies
import ItsBedalyo.Handler.HomePage
import ItsBedalyo.Handler.KeywordSearch
import ItsBedalyo.Handler.Ledger
import ItsBedalyo.Handler.LifeCycle
import ItsBedalyo.Handler.LinearPages
import ItsBedalyo.Handler.Logins
import ItsBedalyo.Handler.MenuBoard
import ItsBedalyo.Handler.MenuHandler
import ItsBedalyo.Handler.MenuOptions
import ItsBedalyo.Handler.Mutations
import ItsBedalyo.Handler.OperationRules
import ItsBedalyo.Handler.Operations
import ItsBedalyo.Handler.OrderAlone
import ItsBedalyo.Handler.OrderCreation
import ItsBedalyo.Handler.OrderEffects
import ItsBedalyo.Handler.OrderHandler
import ItsBedalyo.Handler.OrderIds
import ItsBedalyo.Handler.OrderPages
import ItsBedalyo.Handler.OrderReaders
import ItsBedalyo.Handler.OrderSystem
import ItsBedalyo.Handler.OrderTransactions
import ItsBedalyo.Handler.OwnerPushes
import ItsBedalyo.Handler.OwnerViews
import ItsBedalyo.Handler.Page
import ItsBedalyo.Handler.PageFaults
import ItsBedalyo.Handler.PageReplies
import ItsBedalyo.Handler.ReadBack
import ItsBedalyo.Handler.ReadPaths
import ItsBedalyo.Handler.Receipts
import ItsBedalyo.Handler.RequestOrder
import ItsBedalyo.Handler.ReviewBoard
import ItsBedalyo.Handler.ReviewLists
import ItsBedalyo.Handler.RiderHandler
import ItsBedalyo.Handler.Sales
import ItsBedalyo.Handler.SearchBindings
import ItsBedalyo.Handler.SearchHistory
import ItsBedalyo.Handler.SearchRequests
import ItsBedalyo.Handler.ServedRequests
import ItsBedalyo.Handler.SettingsSaved
import ItsBedalyo.Handler.SettingsShown
import ItsBedalyo.Handler.Signup
import ItsBedalyo.Handler.StatusPushes
import ItsBedalyo.Handler.StoreLists
import ItsBedalyo.Handler.StorePages
import ItsBedalyo.Handler.Tally
import ItsBedalyo.Handler.TruthfulReplies
import ItsBedalyo.Handler.UnsetMembers
import ItsBedalyo.Handler.UpdateBuilder
import ItsBedalyo.Handler.UpdatedColumns
import ItsBedalyo.Handler.UserHandler
import ItsBedalyo.Lib.Borrowing
import ItsBedalyo.Lib.Decimal
import ItsBedalyo.Lib.EdgeTriggered
import ItsBedalyo.Lib.Faults
import ItsBedalyo.Lib.Journal
import ItsBedalyo.Lib.Json
import ItsBedalyo.Lib.JsonMeaning
import ItsBedalyo.Lib.Keys
import ItsBedalyo.Lib.Like
import ItsBedalyo.Lib.Linearization
import ItsBedalyo.Lib.LockOrder
import ItsBedalyo.Lib.MaximalRuns
import ItsBedalyo.Lib.Memory
import ItsBedalyo.Lib.Outbox
import ItsBedalyo.Lib.Partitions
import ItsBedalyo.Lib.Prog
import ItsBedalyo.Lib.Relational
import ItsBedalyo.Lib.RowLocking
import ItsBedalyo.Lib.Runs
import ItsBedalyo.Lib.Settling
import ItsBedalyo.Lib.Since
import ItsBedalyo.Lib.Sql
import ItsBedalyo.Lib.SqlTables
import ItsBedalyo.Lib.StreamDecoder
import ItsBedalyo.Lib.Transition
import ItsBedalyo.Lib.Wrapping
import ItsBedalyo.Network.Confinement
import ItsBedalyo.Network.EventDelivery
import ItsBedalyo.Network.EventLoop
import ItsBedalyo.Network.FramerSafety
import ItsBedalyo.Network.Framing
import ItsBedalyo.Network.Notification
import ItsBedalyo.Network.PacketFramer
import ItsBedalyo.Network.Provenance
import ItsBedalyo.Network.Quiescence
import ItsBedalyo.Network.Segmentation
import ItsBedalyo.Network.Server
import ItsBedalyo.Protocol
import ItsBedalyo.Session.ChatRoomManager
import ItsBedalyo.Session.ClientSession
import ItsBedalyo.Session.MutexOrder
import ItsBedalyo.Session.RegistryCompleteness
import ItsBedalyo.Session.RegistrySoundness
import ItsBedalyo.Session.RoomHistory
import ItsBedalyo.Session.SendPacket
import ItsBedalyo.Session.SessionManager
import ItsBedalyo.Thread.PoolTasks
import ItsBedalyo.Thread.ThreadPool
