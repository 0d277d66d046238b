import SchemaTypes.Name.Unique
import SchemaTypes.Property.Resolve
import SchemaTypes.Schema.Embedding
import SchemaTypes.TypeUnit.Basic

/-!
# Assembling units

Resolved properties become the fields of a struct, alternatives and branches the variants of a
union, and literals the cases of an enumeration.
-/

namespace SchemaTypes

variable [Spelling]

/-- A property of a struct in declaration order. -/
structure ResolvedField where
  key : String
  node : Json
  property : FieldProperty
deriving Repr, Inhabited

namespace FieldUnit

/-- Field names of keys, in order, numbered where they would collide. -/
def identifiers (keys : List String) : List String :=
  Name.ensureAllUnique [] (keys.map Name.moduleName)

/-- The field of a struct with everything that its code is put together from. -/
def ofField (field : ResolvedField) (ident : String) : FieldUnit :=
  let property := field.property
  let stored := Place.field ident
  let parameter := Place.variable ident
  let accessor := property.accessor stored
  { key := field.key
    ident
    docs := Resolve.documentation field.node
    typeLabel := property.typeLabel
    fieldShape := property.fieldShape
    mutatorShape := property.mutatorShape
    accessorShape := accessor.1
    accessorBody := accessor.2
    decode := property.inputMapping (property.rawInput (.word "object") field.key)
    encode := property.encodeStatement (.word "output") field.key (.borrowed stored)
    clone := (property.cloneExpression? (.place stored)).getD stored.code
    assertion := property.assertion? (.borrowed parameter) field.key
    assign := property.wrapping.code parameter.code
    absent := property.absentValue? }

end FieldUnit

namespace StructUnit

/-- The struct of a request whose schema is merged and whose properties are resolved. -/
def assemble (request : ClassRequest) (document : Json) (fields : List ResolvedField) :
    StructUnit where
  path := request.path
  docs := Resolve.documentation request.schema
  schema := Embedding.text request.schema document (request.pointer == Pointer.root)
  fields := fields.zipWith FieldUnit.ofField (FieldUnit.identifiers (fields.map (·.key)))

end StructUnit

namespace EnumUnit

/-- The enum of a target. -/
def assemble (target : EnumTarget) : EnumUnit where
  path := target.path
  docs := target.docs
  definition := target.definition

end EnumUnit

namespace VariantUnit

/-- A variant that holds values of a property, chosen by a condition on the input. -/
def ofProperty (ident : String) (property : Property) (condition : Code) : VariantUnit where
  ident
  storage := property.fieldShape
  condition
  decode := property.inputMapping (.word "input")
  encode := property.outputMapping .value

end VariantUnit

namespace UnionUnit

/-- The union of the alternatives of a property. -/
def assemble (path : TypePath) (docs : Documentation) (alternatives : List (Alternative Property)) :
    UnionUnit where
  path
  docs
  dispatch := .alternatives
  variants := alternatives.map fun alternative =>
    .ofProperty alternative.variant alternative.property
      (alternative.property.inputAssertion (.word "input"))
  fallback := none

/-- The entry type of a dynamic object. -/
def assembleEntry (path : TypePath) (branches : List (Branch Property)) : UnionUnit where
  path
  docs := .none
  dispatch := .entries
  variants := (Branch.patterned branches).map fun branch =>
    .ofProperty branch.variant branch.property <|
      (Code.support ["decode", "matches_pattern"]).call
        [.string (branch.pattern.getD ""), .word "key"]
  fallback := (Branch.catchAll? branches).map fun branch =>
    .ofProperty branch.variant branch.property (.word "true")

end UnionUnit

end SchemaTypes
