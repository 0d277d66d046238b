import SchemaTypes.Name.Words
import SchemaTypes.Text.Transliteration

/-!
# How a session spells names

A session writes names in ASCII by a table, and separates words where a capital follows a small
letter.
-/

namespace SchemaTypes

instance : Spelling := ⟨Text.transliterate, Name.snakeCase⟩

end SchemaTypes
