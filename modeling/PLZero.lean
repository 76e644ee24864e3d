import PLZero.Main
import PLZero.Proofs.Classes
import PLZero.Proofs.Pull
import PLZero.Proofs.Place
import PLZero.Proofs.Session
import PLZero.Proofs.Tiling
import PLZero.Proofs.Written
import PLZero.Proofs.FaultPlaces
import PLZero.Proofs.LineTable
import PLZero.Proofs.Caret
import PLZero.Proofs.Schedule
import PLZero.Proofs.Cursor
import PLZero.Proofs.LineByLine
import PLZero.Proofs.Lookahead
import PLZero.Proofs.Isolation
import PLZero.Proofs.Dumps
import PLZero.Proofs.LeadingMark
import PLZero.Proofs.Agreement
import PLZero.Proofs.QuotedForms
import PLZero.Proofs.DumpLines
import PLZero.Proofs.Outcomes
import PLZero.Proofs.LogApart
import PLZero.Proofs.Scanner
import PLZero.Proofs.MaximalMunch
import PLZero.Proofs.Literals
import PLZero.Proofs.Progress
import PLZero.Proofs.PositionOrder
import PLZero.Proofs.Underline
import PLZero.Proofs.LinePieces
import PLZero.Proofs.ExtentRows
import PLZero.Proofs.ReaderResults
import PLZero.Proofs.DistinctKeys
import PLZero.Proofs.Schema
