import LuScan.Main
import LuScan.Proofs.Scan.Agreement
import LuScan.Proofs.Scan.Concatenation
import LuScan.Proofs.Scan.Failure
import LuScan.Proofs.Scan.Gaps
import LuScan.Proofs.Scan.Positions
import LuScan.Proofs.Scan.Printing
import LuScan.Proofs.Scan.RoundTrip
import LuScan.Proofs.Stream.Text
import LuScan.Proofs.Declaration.Source
import LuScan.Proofs.Lexicon.History
import LuScan.Proofs.Scan.Naming
import LuScan.Proofs.Stream.Whole
import LuScan.Proofs.Command.Modes
import LuScan.Proofs.Scan.Spelling
import LuScan.Proofs.Stream.Calls
import LuScan.Proofs.Stream.Normal
import LuScan.Proofs.Scan.Normal
import LuScan.Proofs.Scan.Protocol
import LuScan.Proofs.Scan.Separated
import LuScan.Proofs.Declaration.Calls
import LuScan.Proofs.Stream.Pushback
import LuScan.Proofs.Text.Quoted
import LuScan.Proofs.Token.Rendering
