import GrammarScan.Scanner.InPlace
import GrammarScan.Proofs.Scanner.Batches
import GrammarScan.Proofs.Scanner.Composition
import GrammarScan.Proofs.Scanner.Coverage
import GrammarScan.Proofs.Scanner.Elision
import GrammarScan.Proofs.Scanner.Failures
import GrammarScan.Proofs.Scanner.Findings
import GrammarScan.Proofs.Scanner.Lifecycle
import GrammarScan.Proofs.Scanner.Positions
import GrammarScan.Proofs.Scanner.RoundTrip
import GrammarScan.Proofs.Scanner.Safety
import GrammarScan.Proofs.Scanner.Sharing
import GrammarScan.Proofs.Scanner.Strategies
import GrammarScan.Proofs.Scanner.Tokens
import GrammarScan.Proofs.Construct.Comments
import GrammarScan.Proofs.Construct.Names
import GrammarScan.Proofs.Construct.Order
import GrammarScan.Proofs.Construct.Terminals
import GrammarScan.Proofs.Scanner.Traces
import GrammarScan.Proofs.Scanner.Expectations
import GrammarScan.Proofs.Cursor.Sessions
import GrammarScan.Proofs.Construct.Overflows
import GrammarScan.Log
import GrammarScan.Proofs.Scanner.Logs
import GrammarScan.Proofs.Token.Dump
