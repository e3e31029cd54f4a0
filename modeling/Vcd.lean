import Vcd.Authentication
import Vcd.Capabilities
import Vcd.ConfigFrame
import Vcd.RightsInvariant
import Vcd.Accounts
import Vcd.Housed
import Vcd.SanityCheck
import Vcd.HalfDone
import Vcd.Transactions
import Vcd.Passwords
import Vcd.Probing
import Vcd.RemoteExec
import Vcd.FreeXid
import Vcd.Addresses
import Vcd.Limits
import Vcd.DiskUsage
import Vcd.Reboots
import Vcd.Mounts
import Vcd.Members
import Vcd.Creations
import Vcd.GroupOwners
import Vcd.Cpusets
import Vcd.Listings
import Vcd.Schedules
import Vcd.ContextCaps
import Vcd.Formats
import Vcd.Retries
import Vcd.Initial
import Vcd.Labels
import Vcd.Locks
import Vcd.Records
import Vcd.Counters
