import SchemaTypes.Main
import SchemaTypes.Query.Basic
import SchemaTypes.Proofs.Query.Normalization
import SchemaTypes.Proofs.Generation.Containment
import SchemaTypes.Proofs.Schema.Components
import SchemaTypes.Proofs.Schema.Embedding
import SchemaTypes.Proofs.Query.Decodability
import SchemaTypes.Proofs.Query.RoundTrip
import SchemaTypes.Proofs.Json.Insertion
import SchemaTypes.Proofs.Schema.Contributions
import SchemaTypes.Proofs.Schema.Flattening
import SchemaTypes.Proofs.Schema.DepthLimit
import SchemaTypes.Proofs.Generation.DepthLimit
import SchemaTypes.Proofs.Generation.Accounting
import SchemaTypes.Proofs.Generation.ModuleTree
import SchemaTypes.Proofs.Query.Mutation
import SchemaTypes.Proofs.Schema.Declaration
import SchemaTypes.Proofs.TypeUnit.Enumeration
import SchemaTypes.Proofs.Generation.Pointers
import SchemaTypes.Proofs.Query.Alternatives
import SchemaTypes.Proofs.Codec.Instant
import SchemaTypes.Proofs.Property.Names
import SchemaTypes.Proofs.Generation.Hooks
import SchemaTypes.Proofs.Generation.Ownership
import SchemaTypes.Proofs.TypeUnit.Members
import SchemaTypes.Proofs.Validation.Property
import SchemaTypes.Proofs.Generation.Shape
import SchemaTypes.Proofs.Code.Constant
import SchemaTypes.Proofs.Code.Decoding
import SchemaTypes.Proofs.Generation.Decoding
import SchemaTypes.Proofs.TypeUnit.Assignment
import SchemaTypes.Proofs.Schema.FixedPoint
import SchemaTypes.Proofs.Name.TypeName
import SchemaTypes.Proofs.Name.EnumCase
import SchemaTypes.Proofs.Name.Search
import SchemaTypes.Proofs.Generation.Shadowing
