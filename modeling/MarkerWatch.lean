import MarkerWatch.Main
import MarkerWatch.Session.Machine
import MarkerWatch.Watch.Rehearsal
import MarkerWatch.Proofs.Marker
import MarkerWatch.Proofs.Name
import MarkerWatch.Proofs.Record
import MarkerWatch.Proofs.Service.Admission
import MarkerWatch.Proofs.Settings.Effective
import MarkerWatch.Proofs.Session.Firing
import MarkerWatch.Proofs.Session.Lifecycle
import MarkerWatch.Proofs.Session.Reopening
import MarkerWatch.Proofs.Session.Return
import MarkerWatch.Proofs.Session.Splitting
import MarkerWatch.Proofs.Watch.Interim
import MarkerWatch.Proofs.Watch.Ledger
import MarkerWatch.Proofs.Watch.Recovery
import MarkerWatch.Proofs.Watch.Repair
import MarkerWatch.Proofs.Watch.Safety
import MarkerWatch.Proofs.Watch.Departures
