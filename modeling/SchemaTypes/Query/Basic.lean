import SchemaTypes.Query.Alternatives
import SchemaTypes.Query.Code

/-!
# Search queries

`Query` is a type as it is generated for a schema: fields that are required, have a default or may
be absent, decoding with and without validation, encoding, and functions that set or drop one
field.  Setting a field checks the new value against the schema of its property unless the type of
the field rules out a violation.

## Main definitions

* `Query.schema`, which queries are checked against.
* `Query.ofJson` and `Query.toJson`.
* `Query.withName` and the like set a field; `Query.withoutLimit` and the like drop one.
-/

namespace SchemaTypes

/-- A search query.  Fields that may be absent are options; a nickname has to be there and may be
`null`. -/
structure Query where
  name : String
  limit : Int
  tags : Option (List String)
  code : Option QueryCode
  value : Option QueryValue
  nick : Option String
  pick : Option QueryPick
deriving BEq, Repr, Inhabited

namespace Query

/-- The schema that queries are generated from. -/
def schema : Json :=
  .object [
    ("title", .string "Search query."),
    ("type", .string "object"),
    ("properties", .object [
      ("name", .object [("type", .string "string"), ("minLength", .number (.integer 1))]),
      ("limit", .object [
        ("type", .string "integer"),
        ("minimum", .number (.integer 1)),
        ("default", .number (.integer 10000))]),
      ("tags", .object [("type", .string "array"), ("items", textSchema)]),
      ("code", .object [
        ("enum", .array [.number (.integer 1), .string "2", .string "two", .null])]),
      ("value", .object [
        ("anyOf", .array [.object [("type", .string "integer")], textSchema])]),
      ("nick", .object [("type", .array [.string "string", .string "null"])]),
      ("pick", .object [("anyOf", .array [FooPick.schema, FooBarPick.schema])])]),
    ("required", .array [.string "name", .string "nick"])]

/-- The limit of a query without one. -/
def defaultLimit : Int := 10000

/-- A query of which only the required fields are given. -/
def new (name : String) (nick : Option String) : Query :=
  { name, limit := defaultLimit, tags := none, code := none, value := none, nick, pick := none }

/-! ## Fields as JSON -/

/-- Tags as an array of strings. -/
def encodeTags (tags : List String) : Json := Encode.list .string tags

/-- No nickname is `null`. -/
def encodeNick (nick : Option String) : Json := (nick.map Json.string).getD .null

/-- Tags from an array of strings. -/
def decodeTags (input : Json) : Decoded (List String) :=
  Decode.array input >>= (·.mapM Decode.string)

/-- A nickname from a string or `null`. -/
def decodeNick (input : Json) : Decoded (Option String) :=
  if input.isNull then return none else return some (← Decode.string input)

/-- No code and the code `null` are one. -/
def decodeCode (input : Json) : Decoded (Option QueryCode) :=
  if input.isNull then return none else return some (← QueryCode.ofJson input)

/-! ## Decoding and encoding -/

/-- Decodes the value under a key, when there is one. -/
def decodeOptional {α : Type} (members : Members) (key : String) (decode : Json → Decoded α) :
    Decoded (Option α) :=
  match members.get? key with
  | some input => (some <$> decode input).mapError (·.under key)
  | none => .ok none

/-- Decodes input, after checking it against the schema when `validating`. -/
def ofJson (input : Json) (validating : Bool) : Decoded Query := do
  if validating then validate schema input
  let members ← Decode.object input
  let name ← requiredText members "name"
  let limit ← decodeOptional members "limit" Decode.integer
  let tags ← decodeOptional members "tags" decodeTags
  let code ← decodeOptional members "code" decodeCode
  let value ← decodeOptional members "value" QueryValue.ofJson
  let nick ← (Decode.required members "nick" >>= decodeNick).mapError (·.under "nick")
  let pick ← decodeOptional members "pick" (QueryPick.ofJson · validating)
  return { name, limit := limit.getD defaultLimit, tags, code := code.join, value, nick, pick }

/-- The member of a field that may be absent. -/
def optionalMember {α : Type} (key : String) (encode : α → Json) (field : Option α) : Members :=
  (field.map fun value => (key, encode value)).toList

/-- Encodes a query.  Fields that are absent have no member; the limit always has one. -/
def toJson (query : Query) : Json :=
  .object <|
    [("name", .string query.name), ("limit", .number (.integer query.limit))] ++
    optionalMember "tags" encodeTags query.tags ++
    optionalMember "code" QueryCode.toJson query.code ++
    optionalMember "value" QueryValue.toJson query.value ++
    [("nick", encodeNick query.nick)] ++
    optionalMember "pick" QueryPick.toJson query.pick

/-! ## Setting and dropping fields -/

/-- Sets the name, which must not be empty. -/
def withName (query : Query) (name : String) : Decoded Query := do
  validateProperty schema "name" (.string name)
  return { query with name }

/-- Sets the limit, which has to be positive. -/
def withLimit (query : Query) (limit : Int) : Decoded Query := do
  validateProperty schema "limit" (.number (.integer limit))
  return { query with limit }

/-- The default takes the place of the limit. -/
def withoutLimit (query : Query) : Query := { query with limit := defaultLimit }

/-- Sets the tags. -/
def withTags (query : Query) (tags : List String) : Decoded Query := do
  validateProperty schema "tags" (encodeTags tags)
  return { query with tags := some tags }

/-- Drops the tags. -/
def withoutTags (query : Query) : Query := { query with tags := none }

/-- Sets the code.  Its type allows for valid codes only, so nothing is checked. -/
def withCode (query : Query) (code : QueryCode) : Query := { query with code := some code }

/-- Drops the code. -/
def withoutCode (query : Query) : Query := { query with code := none }

/-- Sets the value.  It may be one that no alternative accepts, for unions are not checked. -/
def withValue (query : Query) (value : QueryValue) : Query := { query with value := some value }

/-- Drops the value. -/
def withoutValue (query : Query) : Query := { query with value := none }

/-- Sets the nickname. -/
def withNick (query : Query) (nick : Option String) : Decoded Query := do
  validateProperty schema "nick" (encodeNick nick)
  return { query with nick }

/-- Sets the pick, without a check as for the value. -/
def withPick (query : Query) (pick : QueryPick) : Query := { query with pick := some pick }

/-- Drops the pick. -/
def withoutPick (query : Query) : Query := { query with pick := none }

end Query

end SchemaTypes
