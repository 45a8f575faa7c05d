import PathQuery.Host.Native
import PathQuery.Main
import PathQuery.Proofs.Nesting
import PathQuery.Query.Equality
import PathQuery.Query.Rendering
import PathQuery.Walk.Evaluate
import PathQuery.Proofs.WordShape
import PathQuery.Proofs.Inspection
import PathQuery.Proofs.Recursion
import PathQuery.Proofs.WellFormed
import PathQuery.Proofs.NumberText
import PathQuery.Proofs.JsonFacts
import PathQuery.Proofs.CanonicalText
import PathQuery.Proofs.OperatorSearch
import PathQuery.Proofs.SegmentText
import PathQuery.Proofs.ConstantText
import PathQuery.Proofs.ExprText
import PathQuery.Proofs.RoundTrip
import PathQuery.Proofs.FieldFilter
import PathQuery.Proofs.Joining
import PathQuery.Proofs.Continuation
import PathQuery.Proofs.FaultCause
import PathQuery.Proofs.Origin
import PathQuery.Proofs.FilterNesting
import PathQuery.Proofs.FilterOutcome
import PathQuery.Proofs.PatternFilter
import PathQuery.Proofs.RootAnchored
import PathQuery.Proofs.Provenance
import PathQuery.Proofs.KeyOrder
import PathQuery.Proofs.ComputedSubscript
import PathQuery.Proofs.SegmentCut
import PathQuery.Proofs.FilterDepth
import PathQuery.Proofs.DocumentOrder
import PathQuery.Proofs.HostCopy
import PathQuery.Proofs.HostDepth
import PathQuery.Proofs.SlicePositions
import PathQuery.Proofs.OperatorChain
import PathQuery.Proofs.DecimalFacts
import PathQuery.Proofs.DecimalArithmetic
import PathQuery.Proofs.IntegerArithmetic
import PathQuery.Proofs.IntegerQuotient
import PathQuery.Proofs.Descent
import PathQuery.Proofs.UnionMembers
import PathQuery.Proofs.RedundantParentheses
import PathQuery.Proofs.PatternConjunction
import PathQuery.Proofs.MatchText
import PathQuery.Proofs.FieldDifference
import PathQuery.Proofs.CountFromEnd
import PathQuery.Proofs.IntegerPower
import PathQuery.Proofs.IntegerRemainder
import PathQuery.Proofs.StringCharacters
import PathQuery.Proofs.NeutralOperand
import PathQuery.Proofs.FloatOrder
import PathQuery.Proofs.LooseEquality
import PathQuery.Proofs.Comparison
import PathQuery.Proofs.LogicalChain
import PathQuery.Proofs.BracketSpacing
import PathQuery.Proofs.SlotFault
import PathQuery.Proofs.NumericString
import PathQuery.Proofs.BuildDepth
import PathQuery.Proofs.FiniteFloats
