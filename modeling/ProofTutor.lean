import ProofTutor.Main
import ProofTutor.Proofs.Attempt.CursorMoves
import ProofTutor.Proofs.Attempt.InitialStates
import ProofTutor.Proofs.Attempt.Labels
import ProofTutor.Proofs.Attempt.Zipping
import ProofTutor.Proofs.Course.Nesting
import ProofTutor.Proofs.Dump.Isolation
import ProofTutor.Proofs.Dump.LexicalGoals
import ProofTutor.Proofs.Goal.Differences
import ProofTutor.Proofs.Pattern.Converse
import ProofTutor.Proofs.Pattern.Variables
import ProofTutor.Proofs.Session.Following
import ProofTutor.Proofs.Session.Stopping
import ProofTutor.Proofs.Step.EitherOrder
import ProofTutor.Proofs.Step.FiredMessage
import ProofTutor.Proofs.Step.MintedNames
import ProofTutor.Proofs.Tactic.Instrumentation
import ProofTutor.Proofs.Tactic.Replay
import ProofTutor.Proofs.Term.CaptureFree
import ProofTutor.Proofs.Term.Escaping
import ProofTutor.Proofs.Term.Instantiation
import ProofTutor.Proofs.Term.Unambiguous
import ProofTutor.Serial.Rehearsal
import ProofTutor.Serial.Settings
import ProofTutor.Serial.Summary
