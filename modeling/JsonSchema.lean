import JsonSchema.Checks
import JsonSchema.Json.Reader
import JsonSchema.Json.Text
import JsonSchema.Proofs.Compile.Grammar
import JsonSchema.Proofs.Visit.Compose
import JsonSchema.Validator
import JsonSchema.Proofs.Locations
import JsonSchema.Proofs.Visit.Leniency
import JsonSchema.Proofs.Visit.Union
import JsonSchema.Proofs.Visit.Shape
import JsonSchema.Proofs.Visit.Limit
import JsonSchema.Proofs.Visit.Truncation
import JsonSchema.Proofs.Visit.Stripped
import JsonSchema.Proofs.Compile.Context
import JsonSchema.Proofs.Number.Rounding
import JsonSchema.Proofs.Equality
import JsonSchema.Proofs.Keyword.Congruence
import JsonSchema.Proofs.Visit.Congruence
import JsonSchema.Proofs.Compile.Fragments
import JsonSchema.Proofs.Visit.Fragments
import JsonSchema.Proofs.Compile.Filling
import JsonSchema.Proofs.Visit.Substitution
import JsonSchema.Proofs.Compile.Form
import JsonSchema.Proofs.Compile.Rearranged
import JsonSchema.Proofs.Visit.Rearranged
import JsonSchema.Proofs.Compile.Congruence
import JsonSchema.Proofs.Meaning
import JsonSchema.Proofs.Keyword.Bounds
import JsonSchema.Proofs.Keyword.Multiples
import JsonSchema.Proofs.Compile.Disallow
import JsonSchema.Proofs.Visit.Disallow
import JsonSchema.Proofs.Compile.DefectOrder
import JsonSchema.Proofs.Visit.Gate
import JsonSchema.Proofs.Visit.Additional
import JsonSchema.Proofs.Keyword.Divisor
import JsonSchema.Proofs.Visit.Added
import JsonSchema.Proofs.Visit.Repeated
import JsonSchema.Proofs.Compile.Pruned
import JsonSchema.Proofs.Visit.Inert
import JsonSchema.Proofs.Options.Load
