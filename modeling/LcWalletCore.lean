import LcWalletCore.Lib.Bytes
import LcWalletCore.Lib.Radix
import LcWalletCore.Lib.Ledger
import LcWalletCore.Lib.Lists
import LcWalletCore.Lib.Matching
import LcWalletCore.Lib.Json
import LcWalletCore.Lib.Serde
import LcWalletCore.Lib.Form
import LcWalletCore.Lib.Host
import LcWalletCore.Lib.Outbox
import LcWalletCore.Elements
import LcWalletCore.ShortId
import LcWalletCore.Identity
import LcWalletCore.Approval.Summary
import LcWalletCore.Approval.FundRules
import LcWalletCore.Approval.Issuance
import LcWalletCore.Connect.Core
import LcWalletCore.Connect.Steps
import LcWalletCore.Connect.Pending
import LcWalletCore.Connect.Delivery
import LcWalletCore.Connect.Liveness
import LcWalletCore.Connect.Signing
import LcWalletCore.Connect.Transport
import LcWalletCore.Connect.Screen
import LcWalletCore.Connect.Holdings
import LcWalletCore.Connect.Reconcile
import LcWalletCore.Connect.Binding
import LcWalletCore.Connect.Descriptor
import LcWalletCore.Connect.Actor
import LcWalletCore.Connect.ActorRuns
import LcWalletCore.Connect.ActorDelivery
import LcWalletCore.Connect.Marks
import LcWalletCore.Connect.WireJson
import LcWalletCore.Connect.WireFrames
import LcWalletCore.Lending.Covenant
import LcWalletCore.Lending.Verify
import LcWalletCore.Lending.Accepted
import LcWalletCore.Lending.Outflow
import LcWalletCore.Lending.Collection
import LcWalletCore.Lending.Receipt
import LcWalletCore.Lending.Terms
import LcWalletCore.Lending.Render
import LcWalletCore.Lending.Offers
import LcWalletCore.Lending.Dialog
import LcWalletCore.Lending.BuybackRight
import LcWalletCore.Lending.Memo
import LcWalletCore.Lending.MemoWriter
import LcWalletCore.Lending.MemoSchema
import LcWalletCore.Venue.Claims
import LcWalletCore.Venue.Unambiguous
import LcWalletCore.Venue.Keyspend
import LcWalletCore.Venue.Login
import LcWalletCore.Link
import LcWalletCore.Approval.Payjoin
import LcWalletCore.Ffi
import LcWalletCore.IdentityCalls
import LcWalletCore.Venue.ClearSign
import LcWalletCore.Venue.Signers
