import JobControl.Main
import JobControl.Proofs.Quiet
import JobControl.Proofs.Survey
import JobControl.Proofs.Roster
import JobControl.Proofs.Operation
import JobControl.Proofs.Session
import JobControl.Proofs.Conservation
import JobControl.Proofs.Books
import JobControl.Proofs.Kernel
import JobControl.Proofs.Grammar
import JobControl.Proofs.Launch
import JobControl.Proofs.Ownership
import JobControl.Proofs.Wiring
import JobControl.Proofs.Opening
import JobControl.Proofs.Pipes
import JobControl.Proofs.Formation
import JobControl.Proofs.Quotation
import JobControl.Proofs.Arguments
import JobControl.Proofs.Preparing
import JobControl.Proofs.Tending
import JobControl.Proofs.Reports
import JobControl.Proofs.Turns
import JobControl.Proofs.Board
import JobControl.Proofs.Announcements
import JobControl.Proofs.ExitStatus
import JobControl.Proofs.Shortage
import JobControl.Proofs.Overwriting
import JobControl.Proofs.Hosting
import JobControl.Proofs.Effects
import JobControl.Proofs.Displacing
import JobControl.Proofs.Faults
import JobControl.Proofs.Resuming
import JobControl.Proofs.Leaving
import JobControl.Proofs.Reaping
import JobControl.Proofs.Encoding
import JobControl.Proofs.LineEnds
import JobControl.Proofs.Responses
import JobControl.Proofs.Drivers
import JobControl.Proofs.SearchPath
import JobControl.Proofs.Delivery
import JobControl.Proofs.Beginnings
import JobControl.Proofs.Possession
