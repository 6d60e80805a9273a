import Clearance.Main
import Clearance.Manifest
import Clearance.Proofs.Audit.Comparison
import Clearance.Proofs.CommandLine.Discipline
import Clearance.Proofs.CommandLine.LookUp
import Clearance.Proofs.Expectation.Account
import Clearance.Proofs.Expectation.Asking
import Clearance.Proofs.Expectation.Coherence
import Clearance.Proofs.Expectation.Judgement
import Clearance.Proofs.Expectation.Objection
import Clearance.Proofs.Expectation.Opposite
import Clearance.Proofs.Helper.Rejection
import Clearance.Proofs.Session.Log
import Clearance.Proofs.Session.Truth
