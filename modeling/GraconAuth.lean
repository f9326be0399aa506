import GraconAuth.Program
import GraconAuth.Pool
import GraconAuth.Serial
import GraconAuth.Rows
import GraconAuth.Schema
import GraconAuth.UsersService
import GraconAuth.AuthService
import GraconAuth.PasswordReset
import GraconAuth.VerificationService
import GraconAuth.Server
import GraconAuth.Steps
import GraconAuth.Tables
import GraconAuth.Footprints
import GraconAuth.FullAccess
import GraconAuth.RevocationFinal
import GraconAuth.VerificationLinks
import GraconAuth.OneTimeLinks
import GraconAuth.OwnedEmail
import GraconAuth.Flights
import GraconAuth.SingleSuccessor
import GraconAuth.AttemptBudget
import GraconAuth.Rotations
import GraconAuth.TokenExchange
import GraconAuth.AttemptWindow
import GraconAuth.Seeding
import GraconAuth.SeedBatches
import GraconAuth.StatusGate
import GraconAuth.Enumeration
import GraconAuth.LimitedSessions
import GraconAuth.ResendLimit
import GraconAuth.DocumentMatch
import GraconAuth.Throttler
import GraconAuth.RouteLimits
import GraconAuth.SecurityLog
import GraconAuth.Histories
import GraconAuth.ResetMailbox
import GraconAuth.ParallelRefresh
import GraconAuth.Sessions
import GraconAuth.ReuseDetection
import GraconAuth.StaleSession
import GraconAuth.HonestDevices
import GraconAuth.Gathering
import GraconAuth.Preferences
import GraconAuth.CanonicalPreferences
import GraconAuth.Parallel
import GraconAuth.PreferencePatches
import GraconAuth.TemporaryImages
import GraconAuth.ProfileImage
import GraconAuth.ExceptionFilters
import GraconAuth.Lockstep
import GraconAuth.ChallengeModes
import GraconAuth.AttemptBooks
import GraconAuth.AtomicWrites
import GraconAuth.ActiveLinks
import GraconAuth.RefreshUpgrade
import GraconAuth.Encodings
import GraconAuth.Registration
import GraconAuth.Submission
import GraconAuth.StoredIdentity
import GraconAuth.IdentifierCiphers
import GraconAuth.DocsAuth
import GraconAuth.RegExps
import GraconAuth.PasswordPolicy
import GraconAuth.ChosenPasswords
import GraconAuth.Paging
import GraconAuth.Activity
import GraconAuth.Numerals
import GraconAuth.Doubles
import GraconAuth.CalendarDates
import GraconAuth.CitizenService
import GraconAuth.BirthDates
import GraconAuth.BirthDateTrips
import GraconAuth.RegistrationConflicts
import GraconAuth.Progress
import GraconAuth.RefreshProgress
import GraconAuth.Entitlement
import GraconAuth.Integrity
import GraconAuth.Isolation
import GraconAuth.SessionRoots
import GraconAuth.Disclosure
import GraconAuth.Credentials
import GraconAuth.IdentityCards
import GraconAuth.Guarantees
import GraconAuth.CalmRuns
import GraconAuth.Standing
import GraconAuth.Recovery
import GraconAuth.Promotion
import GraconAuth.Enrolment
import GraconAuth.KeptSessions
import GraconAuth.AccountChanges
import GraconAuth.Growth
import GraconAuth.LifeCycles
import GraconAuth.ExpiringCaches
import GraconAuth.CitizenLookups
import GraconAuth.AccountBooks
import GraconAuth.BookKeeping
import GraconAuth.RegistrationInputs
