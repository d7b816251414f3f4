import VapeCommerce.Lib.Outcome
import VapeCommerce.Lib.Table
import VapeCommerce.Lib.Runs
import VapeCommerce.Lib.Growth
import VapeCommerce.Lib.Forest
import VapeCommerce.Lib.Locking
import VapeCommerce.Lib.Ranking
import VapeCommerce.Lib.Numerals
import VapeCommerce.Lib.PercentEncoding
import VapeCommerce.Lib.Json
import VapeCommerce.Lib.DecimalText
import VapeCommerce.Lib.CanonicalJson
import VapeCommerce.Lib.Utf8
import VapeCommerce.Lib.Quoting
import VapeCommerce.Lib.Walk
import VapeCommerce.Lib.Paging
import VapeCommerce.Lib.Extremes
import VapeCommerce.Lib.ThreeValued
import VapeCommerce.Lib.ExpiringKeys
import VapeCommerce.Money
import VapeCommerce.Schema
import VapeCommerce.Config
import VapeCommerce.Database
import VapeCommerce.Checkout.Pricing
import VapeCommerce.Checkout.Policy
import VapeCommerce.Checkout.Catalogue
import VapeCommerce.Checkout.Fulfillment
import VapeCommerce.Checkout.Allocation
import VapeCommerce.Checkout.Allocator
import VapeCommerce.Checkout.Lines
import VapeCommerce.Checkout.Quote
import VapeCommerce.Checkout.Order
import VapeCommerce.Inventory.Admin
import VapeCommerce.Orders.StateMachine
import VapeCommerce.Orders.Reservations
import VapeCommerce.Orders.Admin
import VapeCommerce.Orders.Customer
import VapeCommerce.Worker.Expiry
import VapeCommerce.Cash.Calculations
import VapeCommerce.Delivery.Admin
import VapeCommerce.Delivery.Operations
import VapeCommerce.Cash.Admin
import VapeCommerce.System
import VapeCommerce.Checkout.Stock
import VapeCommerce.Checkout.Placement
import VapeCommerce.Checkout.Agreement
import VapeCommerce.Inventory.Safety
import VapeCommerce.Inventory.Ledger
import VapeCommerce.Inventory.Approvals
import VapeCommerce.Inventory.Requests
import VapeCommerce.Inventory.ExactlyOnce
import VapeCommerce.Orders.Case
import VapeCommerce.Cash.Accountable
import VapeCommerce.Orders.Progress
import VapeCommerce.Orders.Transactions
import VapeCommerce.Orders.Steps
import VapeCommerce.Delivery.Steps
import VapeCommerce.Orders.Onward
import VapeCommerce.Cash.Steps
import VapeCommerce.Cash.Remittances
import VapeCommerce.Cash.Settlement
import VapeCommerce.Cash.Operations
import VapeCommerce.Orders.Creation
import VapeCommerce.Frames
import VapeCommerce.Orders.Runs
import VapeCommerce.Delivery.Safety
import VapeCommerce.DeliveryConfig.Rates
import VapeCommerce.DeliveryConfig.Selection
import VapeCommerce.DeliveryConfig.Zones
import VapeCommerce.DeliveryConfig.Readiness
import VapeCommerce.Catalog.Tables
import VapeCommerce.Catalog.Taxonomy
import VapeCommerce.Catalog.Products
import VapeCommerce.Catalog.Variants
import VapeCommerce.Catalog.Import
import VapeCommerce.Catalog.Operations
import VapeCommerce.Catalog.Applied
import VapeCommerce.Catalog.Undo
import VapeCommerce.Catalog.Categories
import VapeCommerce.Catalog.Fidelity
import VapeCommerce.Catalog.Rewrites
import VapeCommerce.Catalog.Prices
import VapeCommerce.Catalog.Sellable
import VapeCommerce.Catalog.ImportCsv
import VapeCommerce.Worker.Outbox
import VapeCommerce.Worker.Processor
import VapeCommerce.Worker.Transactions
import VapeCommerce.Worker.Dispatch
import VapeCommerce.Worker.Consistency
import VapeCommerce.Notifications.OrderNotifications
import VapeCommerce.Worker.Attempts
import VapeCommerce.Worker.Leases
import VapeCommerce.Worker.Exclusivity
import VapeCommerce.Worker.Finality
import VapeCommerce.Worker.DeadLetters
import VapeCommerce.Delivery.Manifests
import VapeCommerce.Delivery.Couriers
import VapeCommerce.Delivery.Views
import VapeCommerce.Orders.DeadEnds
import VapeCommerce.Orders.Intake
import VapeCommerce.Lib.Journal
import VapeCommerce.Inventory.Bookings
import VapeCommerce.Inventory.Balance
import VapeCommerce.Inventory.Backing
import VapeCommerce.Inventory.Consumption
import VapeCommerce.Orders.History
import VapeCommerce.Delivery.Outstanding
import VapeCommerce.Delivery.Custody
import VapeCommerce.Delivery.Outcomes
import VapeCommerce.Delivery.Fulfilment
import VapeCommerce.Delivery.Csv
import VapeCommerce.Delivery.Imports
import VapeCommerce.Cash.Sessions
import VapeCommerce.Cash.Outside
import VapeCommerce.Orders.Origins
import VapeCommerce.Cash.Recordings
import VapeCommerce.Cash.Verified
import VapeCommerce.Cash.Exactness
import VapeCommerce.Cash.Disputes
import VapeCommerce.Cash.Standing
import VapeCommerce.Cash.FourEyes
import VapeCommerce.Recovery.Verification
import VapeCommerce.Recovery.ManifestAuthentication
import VapeCommerce.Media.Images
import VapeCommerce.Media.Gallery
import VapeCommerce.Media.Refinement
import VapeCommerce.Media.Upkeep
import VapeCommerce.Media.Containers
import VapeCommerce.Access.Users
import VapeCommerce.Access.Administrators
import VapeCommerce.Access.Customers
import VapeCommerce.Access.Anonymization
import VapeCommerce.Access.Addresses
import VapeCommerce.Access.AddressBook
import VapeCommerce.Access.IpAllowlist
import VapeCommerce.Access.Wishlists
import VapeCommerce.Catalog.MediaAddress
import VapeCommerce.Auth.GoogleOnboarding
import VapeCommerce.Auth.CustomerSessions
import VapeCommerce.Auth.Revocation
import VapeCommerce.Auth.AdminLogin
import VapeCommerce.Auth.SecondFactor
import VapeCommerce.Auth.Guesses
import VapeCommerce.Auth.SessionLifetime
import VapeCommerce.Checkout.RateChoice
import VapeCommerce.Checkout.LinePricing
import VapeCommerce.Checkout.Fingerprint
import VapeCommerce.Cash.Accounting
import VapeCommerce.Cash.AmountRanges
import VapeCommerce.Delivery.CsvExport
import VapeCommerce.Delivery.CourierWhatsapp
import VapeCommerce.Notifications.Movements
import VapeCommerce.Notifications.Keys
import VapeCommerce.Notifications.Dispatch
import VapeCommerce.Notifications.OncePerTransition
import VapeCommerce.Storefront.PriceFilter
import VapeCommerce.Storefront.Listing
import VapeCommerce.Storefront.Facets
import VapeCommerce.Storefront.CourierOffer
import VapeCommerce.Lib.Refusals
import VapeCommerce.Storefront.Cart
import VapeCommerce.Operations.Inventory
import VapeCommerce.Operations.InventoryRows
import VapeCommerce.Operations.InventoryTotals
import VapeCommerce.Lib.Tally
import VapeCommerce.Lib.Doubles
import VapeCommerce.Lib.Relational
import VapeCommerce.Lib.KeyedRequests
import VapeCommerce.Checkout.Issued
import VapeCommerce.Checkout.Desk
import VapeCommerce.Orders.Versions
import VapeCommerce.Storefront.CartEditing
import VapeCommerce.Checkout.CartOrders
