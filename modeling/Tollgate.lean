import Tollgate.Cli.Options
import Tollgate.Cli.Startup
import Tollgate.Config.File
import Tollgate.Config.Node
import Tollgate.Config.Settings
import Tollgate.Config.Validation
import Tollgate.Decimal.Shortest
import Tollgate.Dns.Blocklist
import Tollgate.Dns.ClientSubnet
import Tollgate.Dns.Discovery
import Tollgate.Dns.Doh
import Tollgate.Dns.Dot
import Tollgate.Dns.Message
import Tollgate.Dns.Name
import Tollgate.Dns.Name.Text
import Tollgate.Dns.Resolver
import Tollgate.Dns.Wire.Reader
import Tollgate.Dns.Wire.Writer
import Tollgate.Gateway
import Tollgate.Gateway.Connection
import Tollgate.Http.Framing
import Tollgate.Http.Head
import Tollgate.Http.Message
import Tollgate.Http.Reply
import Tollgate.Http.Uri
import Tollgate.Json.Number
import Tollgate.Json.Quoted
import Tollgate.Json.Record
import Tollgate.Json.Scan
import Tollgate.Ledger.Ledger
import Tollgate.Ledger.Store
import Tollgate.Ledger.Ticket
import Tollgate.Main
import Tollgate.Metering.Counter
import Tollgate.Metering.Meter
import Tollgate.Metering.Pipe
import Tollgate.Net.Address
import Tollgate.Octets
import Tollgate.Proofs.Cli.Printing
import Tollgate.Proofs.Cli.Start
import Tollgate.Proofs.Config.RoundTrip
import Tollgate.Proofs.Dns.AdBlocking
import Tollgate.Proofs.Dns.BlockedDomains
import Tollgate.Proofs.Dns.BlocklistText
import Tollgate.Proofs.Dns.Call
import Tollgate.Proofs.Dns.ClientNetwork
import Tollgate.Proofs.Dns.Connection
import Tollgate.Proofs.Dns.ConnectionBilling
import Tollgate.Proofs.Dns.ConnectionCourse
import Tollgate.Proofs.Dns.ConnectionEnd
import Tollgate.Proofs.Dns.Discovery
import Tollgate.Proofs.Dns.Endpoints
import Tollgate.Proofs.Dns.Frames
import Tollgate.Proofs.Dns.GetAndPost
import Tollgate.Proofs.Dns.InOrder
import Tollgate.Proofs.Dns.Interleaving
import Tollgate.Proofs.Dns.LabelText
import Tollgate.Proofs.Dns.NextHop
import Tollgate.Proofs.Dns.Plan
import Tollgate.Proofs.Dns.Pricing
import Tollgate.Proofs.Dns.Resolution
import Tollgate.Proofs.Dns.Rewriting
import Tollgate.Proofs.Dns.TokenPath
import Tollgate.Proofs.Gateway.Cutoff
import Tollgate.Proofs.Gateway.Effects
import Tollgate.Proofs.Gateway.TokenCarriers
import Tollgate.Proofs.Ledger.Authorization
import Tollgate.Proofs.Ledger.BalanceWalk
import Tollgate.Proofs.Ledger.Conservation
import Tollgate.Proofs.Ledger.Cutoff
import Tollgate.Proofs.Ledger.Debit
import Tollgate.Proofs.Ledger.Distribution
import Tollgate.Proofs.Ledger.Expiry
import Tollgate.Proofs.Ledger.Isolation
import Tollgate.Proofs.Ledger.Lifecycle
import Tollgate.Proofs.Ledger.Register
import Tollgate.Proofs.Ledger.Renumbering
import Tollgate.Proofs.Ledger.RepeatedOrders
import Tollgate.Proofs.Ledger.Run
import Tollgate.Proofs.Ledger.ShortCut
import Tollgate.Proofs.Ledger.Validity
import Tollgate.Proofs.Metering.Meter
import Tollgate.Proofs.Net.AddressText
import Tollgate.Proofs.Net.Network
import Tollgate.Proofs.Octets
import Tollgate.Proofs.Text.Base64
import Tollgate.Proofs.Text.Case
import Tollgate.Proofs.Text.Decimal
import Tollgate.Proofs.Text.Form
import Tollgate.Proofs.Text.Idna
import Tollgate.Proofs.Text.Percent
import Tollgate.Proofs.Text.PercentEncoding
import Tollgate.Proofs.Text.Reader
import Tollgate.Proofs.Text.Split
import Tollgate.Proofs.Text.Trim
import Tollgate.Proofs.Tickets.Amount
import Tollgate.Proofs.Tickets.AmountText
import Tollgate.Proofs.Tickets.CreditLimit
import Tollgate.Proofs.Tickets.Crediting
import Tollgate.Proofs.Tickets.Dates
import Tollgate.Proofs.Tickets.Listing
import Tollgate.Proofs.Tickets.OrderNumber
import Tollgate.Proofs.Tickets.OrderedAmounts
import Tollgate.Proofs.Tickets.Purchase
import Tollgate.Proofs.Tickets.Sales
import Tollgate.Proofs.Tickets.Service
import Tollgate.Proofs.Time.Calendar
import Tollgate.Proofs.Toml.Document
import Tollgate.Proofs.Toml.Strings
import Tollgate.Proofs.Toml.Values
import Tollgate.Proofs.Tunnel.Capsules
import Tollgate.Proofs.Tunnel.ChunkReads
import Tollgate.Proofs.Tunnel.Credentials
import Tollgate.Proofs.Tunnel.Datagrams
import Tollgate.Proofs.Tunnel.ForeignCapsules
import Tollgate.Proofs.Tunnel.PayloadLength
import Tollgate.Proofs.Tunnel.RelaySession
import Tollgate.Proofs.Tunnel.Session
import Tollgate.Proofs.Tunnel.SessionBilling
import Tollgate.Proofs.Tunnel.ShortestEncoding
import Tollgate.Proofs.Tunnel.Target
import Tollgate.Proofs.Tunnel.Varint
import Tollgate.Proofs.Tunnel.VarintStream
import Tollgate.Text.Ascii
import Tollgate.Text.Base64
import Tollgate.Text.Blank
import Tollgate.Text.Decimal
import Tollgate.Text.Form
import Tollgate.Text.Idna
import Tollgate.Text.Idna.Scripts
import Tollgate.Text.Percent
import Tollgate.Text.Punycode
import Tollgate.Text.Reader
import Tollgate.Text.Split
import Tollgate.Text.Utf8
import Tollgate.Tickets.Amount
import Tollgate.Tickets.Order
import Tollgate.Tickets.Shop
import Tollgate.Time.Calendar
import Tollgate.Tls.Der
import Tollgate.Tls.Identity
import Tollgate.Tls.Pem
import Tollgate.Toml.Quoted
import Tollgate.Toml.Reader
import Tollgate.Toml.Scalar
import Tollgate.Toml.Table
import Tollgate.Tunnel.Billing
import Tollgate.Tunnel.Capsule
import Tollgate.Tunnel.ChunkReader
import Tollgate.Tunnel.Credentials
import Tollgate.Tunnel.Datagrams
import Tollgate.Tunnel.Dial
import Tollgate.Tunnel.Proxy
import Tollgate.Tunnel.Relay
import Tollgate.Tunnel.Session
import Tollgate.Tunnel.Target
import Tollgate.Tunnel.Varint
import Tollgate.Yaml.Place
import Tollgate.Yaml.Reader
import Tollgate.Yaml.Scalar
