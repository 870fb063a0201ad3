import Heartbeat.Activity
import Heartbeat.Main
import Heartbeat.Proofs.Agreement
import Heartbeat.Proofs.LiveOwner
import Heartbeat.Proofs.Publication
import Heartbeat.Scratch
import Heartbeat.Proofs.Probes
import Heartbeat.Proofs.Verdict
import Heartbeat.Proofs.Budget
import Heartbeat.Proofs.Placement
import Heartbeat.Proofs.Recreation
import Heartbeat.Proofs.Beating
import Heartbeat.Proofs.Meeting
import Heartbeat.Proofs.Preflight
import Heartbeat.Proofs.Ending
import Heartbeat.Proofs.Attachment
import Heartbeat.Proofs.Observing
import Heartbeat.Proofs.PlainPaths
import Heartbeat.Proofs.Renewal
import Heartbeat.Proofs.Growing
import Heartbeat.Proofs.Isolation
import Heartbeat.Proofs.Lifetime
import Heartbeat.Proofs.Keeping
import Heartbeat.Proofs.Staleness
import Heartbeat.Proofs.Registers
import Heartbeat.Proofs.Overflow
import Heartbeat.Proofs.Rounds
import Heartbeat.Proofs.Ancestors
import Heartbeat.Proofs.FreshDirectory
import Heartbeat.Proofs.AgeRules
import Heartbeat.Proofs.FieldSafety
import Heartbeat.Proofs.Mappings
import Heartbeat.Proofs.VersionText
import Heartbeat.Proofs.Logging
import Heartbeat.Proofs.PayloadSlot
import Heartbeat.Proofs.WrittenLines
import Heartbeat.Proofs.Settings
import Heartbeat.Proofs.Compatibility
