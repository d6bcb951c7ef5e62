import SyntaxTree.Main
import SyntaxTree.Proofs.Parsing.Compare
import SyntaxTree.Proofs.Parsing.LineEnding
import SyntaxTree.Proofs.Parsing.Merge
import SyntaxTree.Proofs.Parsing.Reader
import SyntaxTree.Proofs.Scan.Number
import SyntaxTree.Proofs.Scan.Quotation
import SyntaxTree.Proofs.Session.Invocation
import SyntaxTree.Proofs.Tree.Conservation
import SyntaxTree.Proofs.Tree.Copy
import SyntaxTree.Proofs.Tree.Nesting
import SyntaxTree.Proofs.Tree.Release
import SyntaxTree.Proofs.Tree.Splice
import SyntaxTree.Proofs.Tree.Statistics
import SyntaxTree.Proofs.Tree.Writing
import SyntaxTree.Proofs.Viewer.Ascent
import SyntaxTree.Proofs.Viewer.Descent
import SyntaxTree.Proofs.Viewer.Dump
import SyntaxTree.Proofs.Viewer.Hiding
import SyntaxTree.Proofs.Viewer.Invariant
import SyntaxTree.Proofs.Viewer.Scroll
import SyntaxTree.Tree.Summary
