import PsCore.Capacity
import PsCore.Lifecycle
import PsCore.CapturedMoney
import PsCore.RefundDetour
import PsCore.RefundBounds
import PsCore.Collection
import PsCore.PaymentTruth
import PsCore.FullReturns
import PsCore.WebhookDuplicates
import PsCore.WebhookAcknowledgement
import PsCore.VerificationInterference
import PsCore.AdvanceOrders
import PsCore.StatusHistory
import PsCore.DoubleBooking
import PsCore.StaffedJobs
import PsCore.CheckoutOnce
import PsCore.Amounts
import PsCore.ConcurrentLeads
import PsCore.OtpProtocol
import PsCore.OtpGuesses
import PsCore.AdminMfa
import PsCore.DisabledAccounts
import PsCore.KeylessCheckouts
import PsCore.RefundAnswers
import PsCore.OwnJobs
import PsCore.SuperAdmins
import PsCore.ConvertRequests
import PsCore.RepeatedWebhooks
import PsCore.NotificationDelivery
import PsCore.BookingNumbers
import PsCore.Invoices
import PsCore.LeadJourneys
import PsCore.Library.RankedMax
import PsCore.LeadProgress
import PsCore.LeadOwners
import PsCore.Batches
import PsCore.CartPrices
import PsCore.ServicePrices
import PsCore.ServiceEdits
import PsCore.InvoiceAmounts
import PsCore.Library.Calendar
import PsCore.FinancialYears
import PsCore.LeadQuotes
import PsCore.LeadSlots
import PsCore.InvoiceAvailability
import PsCore.LeadRows
import PsCore.Instalments
import PsCore.EligibleTechnicians
import PsCore.SlotListings
import PsCore.ExactOverlaps
import PsCore.ServiceListings
import PsCore.MoneyReports
import PsCore.DeliveryAttempts
import PsCore.DeliveryCallbacks
import PsCore.DefaultAddresses
import PsCore.CartRows
import PsCore.PhoneNumbers
import PsCore.Library.LowerCase
import PsCore.Library.Redaction
import PsCore.RedactedRecords
import PsCore.StaffAccess
import PsCore.Library.KeyOrder
import PsCore.RequestTexts
import PsCore.ThrottleBuckets
import PsCore.Library.Outcomes
import PsCore.GeocoderAnswers
import PsCore.Library.OwnRows
import PsCore.Reviews
import PsCore.CustomerRequests
import PsCore.Library.Sweep
import PsCore.RefundSweeps
import PsCore.Library.AuditTrail
import PsCore.Library.ApartRows
import PsCore.TechnicianRecords
import PsCore.RosteredAssignments
import PsCore.LeadStatusTrail
import PsCore.Library.ForeignKeys
import PsCore.Catalogue
import PsCore.Library.Occurrences
import PsCore.Announcements
import PsCore.JobAnnouncements
import PsCore.Library.CachedQueries
import PsCore.AddressLookups
import PsCore.PaymentLinks
