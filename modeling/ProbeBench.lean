import ProbeBench.Main
import ProbeBench.Server.Scripted
import ProbeBench.Proofs.Frame.Chunking
import ProbeBench.Proofs.Frame.RoundTrip
import ProbeBench.Proofs.Session.Correlation
import ProbeBench.Proofs.Bench.Driving
import ProbeBench.Proofs.Frame.Junk
import ProbeBench.Proofs.Session.Ending
import ProbeBench.Proofs.Session.Orderly
import ProbeBench.Proofs.Session.Broken
import ProbeBench.Proofs.Session.Response
import ProbeBench.Proofs.Loop.Answer
import ProbeBench.Proofs.Bench.Measuring
import ProbeBench.Proofs.Probe.Pointing
import ProbeBench.Proofs.Bench.Completing
import ProbeBench.Proofs.Bench.Unseen
import ProbeBench.Proofs.Session.Reception
import ProbeBench.Proofs.Session.Shutdown
import ProbeBench.Proofs.Bench.Defining
import ProbeBench.Proofs.Bench.Aborting
import ProbeBench.Proofs.Probe.Scanning
import ProbeBench.Proofs.Session.Overdue
import ProbeBench.Proofs.Loop.Handshaking
import ProbeBench.Proofs.Bench.Releasing
import ProbeBench.Proofs.Frame.Limit
import ProbeBench.Proofs.Session.Foreign
import ProbeBench.Proofs.Bench.Record
import ProbeBench.Proofs.Config.Layers
import ProbeBench.Proofs.Config.TimeLimit
import ProbeBench.Proofs.Config.Loading
import ProbeBench.Proofs.Bench.Faults
import ProbeBench.Proofs.Text.Places
import ProbeBench.Proofs.Words.Occurrence
import ProbeBench.Proofs.Program.Stopping
import ProbeBench.Proofs.Text.Halving
