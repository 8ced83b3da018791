import SessionPooling.Config.File
import SessionPooling.Proofs.Accounting
import SessionPooling.Proofs.Backoff
import SessionPooling.Proofs.BatchLimits
import SessionPooling.Proofs.Bursts
import SessionPooling.Proofs.CleanFailure
import SessionPooling.Proofs.CommitsOnce
import SessionPooling.Proofs.Deadline
import SessionPooling.Proofs.DueRounds
import SessionPooling.Proofs.Emptying
import SessionPooling.Proofs.ExactlyOnce
import SessionPooling.Proofs.FailedWork
import SessionPooling.Proofs.FirstComeFirstServed
import SessionPooling.Proofs.Flush
import SessionPooling.Proofs.ForeignCalls
import SessionPooling.Proofs.GivingBack
import SessionPooling.Proofs.KeepAlive
import SessionPooling.Proofs.LastComeFirstServed
import SessionPooling.Proofs.LiveSessions
import SessionPooling.Proofs.LongHints
import SessionPooling.Proofs.MissingSessions
import SessionPooling.Proofs.Nesting
import SessionPooling.Proofs.NeverOverfull
import SessionPooling.Proofs.NothingToReady
import SessionPooling.Proofs.Ownership
import SessionPooling.Proofs.Readiness
import SessionPooling.Proofs.Saturation
import SessionPooling.Proofs.SessionLife
import SessionPooling.Proofs.SettingsRoundTrip
import SessionPooling.Proofs.SinglePing
import SessionPooling.Proofs.Slots
import SessionPooling.Proofs.Starvation
import SessionPooling.Proofs.Tallies
import SessionPooling.Proofs.TransactionProtocol
import SessionPooling.Retry.Spread
import SessionPooling.Scenario.Run
