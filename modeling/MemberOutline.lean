import MemberOutline.Host.Tree
import MemberOutline.Json.Reader
import MemberOutline.Literal.Step
import MemberOutline.Main
import MemberOutline.Proofs.CommandLine.Loading
import MemberOutline.Proofs.CommandLine.Outcome
import MemberOutline.Proofs.Json.Numerals
import MemberOutline.Proofs.Json.RoundTrip
import MemberOutline.Proofs.Json.Strings
import MemberOutline.Proofs.Literal.LineStrings
import MemberOutline.Proofs.Literal.Nesting
import MemberOutline.Proofs.Literal.Opening
import MemberOutline.Proofs.Literal.Reading
import MemberOutline.Proofs.Member.Body
import MemberOutline.Proofs.Member.KeptArguments
import MemberOutline.Proofs.Member.LastWord
import MemberOutline.Proofs.Member.OneLine
import MemberOutline.Proofs.Member.Operator
import MemberOutline.Proofs.Member.Outline
import MemberOutline.Proofs.Report.JsonForm
import MemberOutline.Proofs.Report.Members
import MemberOutline.Proofs.Report.TextForm
import MemberOutline.Proofs.Shape.ArgumentGrammar
import MemberOutline.Proofs.Shape.Buffers
import MemberOutline.Proofs.Shape.ClosedArguments
import MemberOutline.Proofs.Shape.Comparison
import MemberOutline.Proofs.Shape.Concatenation
import MemberOutline.Proofs.Shape.Deletion
import MemberOutline.Proofs.Shape.Identifiers
import MemberOutline.Proofs.Shape.OneLine
import MemberOutline.Proofs.Shape.Plain
import MemberOutline.Proofs.Shape.Positions
import MemberOutline.Proofs.Shape.Recognition
import MemberOutline.Proofs.Shape.Refinement
import MemberOutline.Proofs.Shape.Remains
import MemberOutline.Proofs.Shape.Showing
import MemberOutline.Proofs.Shape.Truncation
import MemberOutline.Proofs.Shape.Wording
