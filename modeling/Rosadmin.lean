import Rosadmin.Assertions
import Rosadmin.Db.Audiences
import Rosadmin.Db.Audit
import Rosadmin.Db.Bans
import Rosadmin.Db.Desired
import Rosadmin.Db.Directory
import Rosadmin.Db.EmailStatus
import Rosadmin.Db.Links
import Rosadmin.Db.Migrate
import Rosadmin.Db.Mutations
import Rosadmin.Db.Schema
import Rosadmin.Db.SyncTarget
import Rosadmin.Foundation.Base64
import Rosadmin.Foundation.Calendar
import Rosadmin.Foundation.CaseTables
import Rosadmin.Foundation.Dict
import Rosadmin.Foundation.Encodings
import Rosadmin.Foundation.Fallible
import Rosadmin.Foundation.Folding
import Rosadmin.Foundation.Framing
import Rosadmin.Foundation.Grouping
import Rosadmin.Foundation.Json
import Rosadmin.Foundation.JsonText
import Rosadmin.Foundation.Ladders
import Rosadmin.Foundation.Lagging
import Rosadmin.Foundation.LetterTables
import Rosadmin.Foundation.Paging
import Rosadmin.Foundation.Percent
import Rosadmin.Foundation.Polling
import Rosadmin.Foundation.Retrying
import Rosadmin.Foundation.Rounds
import Rosadmin.Foundation.Runs
import Rosadmin.Foundation.SessionLock
import Rosadmin.Foundation.Slugs
import Rosadmin.Foundation.Snapshots
import Rosadmin.Foundation.Suffix
import Rosadmin.Foundation.Table
import Rosadmin.Foundation.Text
import Rosadmin.Foundation.Uri
import Rosadmin.Foundation.Windows
import Rosadmin.Foundation.Words
import Rosadmin.Frontend.GroupAdmin
import Rosadmin.Frontend.Screen
import Rosadmin.Frontend.Undo
import Rosadmin.GoogleGroup
import Rosadmin.GoogleListing
import Rosadmin.GooglePlainly
import Rosadmin.GooglePropagation
import Rosadmin.GoogleRetries
import Rosadmin.GoogleSettling
import Rosadmin.GoogleSync
import Rosadmin.GroupAddresses
import Rosadmin.GroupLadders
import Rosadmin.GroupNaming
import Rosadmin.GroupSync
import Rosadmin.JournalSend
import Rosadmin.Membership.Client
import Rosadmin.Membership.Decode
import Rosadmin.Membership.Pages
import Rosadmin.Membership.Requests
import Rosadmin.Membership.Shapes
import Rosadmin.Membership.Source
import Rosadmin.MockSt.Bodies
import Rosadmin.MockSt.Control
import Rosadmin.MockSt.Identities
import Rosadmin.MockSt.Leadership
import Rosadmin.MockSt.Personas
import Rosadmin.MockSt.Roster
import Rosadmin.MockSt.Serving
import Rosadmin.Roster.Adds
import Rosadmin.Roster.Again
import Rosadmin.Roster.Attached
import Rosadmin.Roster.Close
import Rosadmin.Roster.Columns
import Rosadmin.Roster.Concurrent
import Rosadmin.Roster.Cycles
import Rosadmin.Roster.Effect
import Rosadmin.Roster.Faults
import Rosadmin.Roster.Identity
import Rosadmin.Roster.Leaders
import Rosadmin.Roster.Meeting
import Rosadmin.Roster.Memberships
import Rosadmin.Roster.Moved
import Rosadmin.Roster.Pull
import Rosadmin.Roster.Refusal
import Rosadmin.Roster.Repeat
import Rosadmin.Roster.Rows
import Rosadmin.Roster.Settled
import Rosadmin.Roster.Store
import Rosadmin.Roster.Survival
import Rosadmin.Roster.Turns
import Rosadmin.Roster.Writers
import Rosadmin.Sso
import Rosadmin.Sweep.Abandon
import Rosadmin.Sweep.Acceptance
import Rosadmin.Sweep.Access
import Rosadmin.Sweep.Apply
import Rosadmin.Sweep.Blame
import Rosadmin.Sweep.Calls
import Rosadmin.Sweep.Cap
import Rosadmin.Sweep.CleanRun
import Rosadmin.Sweep.Converged
import Rosadmin.Sweep.Diff
import Rosadmin.Sweep.Discipline
import Rosadmin.Sweep.Exclusive
import Rosadmin.Sweep.Ledger
import Rosadmin.Sweep.Linking
import Rosadmin.Sweep.Minting
import Rosadmin.Sweep.Plan
import Rosadmin.Sweep.Planned
import Rosadmin.Sweep.Provision
import Rosadmin.Sweep.Reach
import Rosadmin.Sweep.Records
import Rosadmin.Sweep.Rehearsal
import Rosadmin.Sweep.Report
import Rosadmin.Sweep.Retries
import Rosadmin.Sweep.Run
import Rosadmin.Sweep.Steps
import Rosadmin.Sweep.Tally
import Rosadmin.Sweep.Whole
import Rosadmin.Sweep.Withheld
import Rosadmin.Sweep.Withholding
import Rosadmin.Sweep.Workspace
import Rosadmin.Web.Auth
import Rosadmin.Web.Authority
import Rosadmin.Web.Cookies
import Rosadmin.Web.EmailSearch
import Rosadmin.Web.Lapsed
import Rosadmin.Web.Login
import Rosadmin.Web.Mirrors
import Rosadmin.Web.Models
import Rosadmin.Web.OneKey
import Rosadmin.Web.RateLimit
import Rosadmin.Web.Records
import Rosadmin.Web.Relay
import Rosadmin.Web.Rosters
import Rosadmin.Web.Routes
import Rosadmin.Web.SessionStores
import Rosadmin.Web.Sessions
import Rosadmin.Web.Visits
