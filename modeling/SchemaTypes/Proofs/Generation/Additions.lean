import SchemaTypes.Generation.Hook

/-!
# What hooks add

A hook looks at a unit and adds to one field of it: extensions to a type, items to a file.  The
hooks are applied in the order in which they are registered, each to what those before it have left.
So the field holds in the end what it held before, followed by the additions of the hooks in turn,
and the rest of the unit is as it was.

* `Hooks.additions`, `Hooks.fileAdditions`: what each hook adds to a type or a file.
* `Hooks.foldl_hooks`: the loop over the hooks, for any kind of unit.
* `Hooks.applyStruct_eq`, `Hooks.applyEnum_eq`, `Hooks.applyUnion_eq`, `Hooks.applyFile_eq`: units of
  each kind.
-/

namespace SchemaTypes

namespace Hooks

section

variable {α β : Type}

/-- What each hook adds to a unit, in the order in which they are registered.  Each of them sees
what those before it have added. -/
def additionsBy (extend : α → β → α) : (hooks : List (α → β)) → α → List β
  | [], _ => []
  | hook :: rest, unit => hook unit :: additionsBy extend rest (extend unit (hook unit))

/-- Hooks that add to one field of a unit change nothing but this field. -/
theorem foldl_hooks [Append β] (field : α → β) (put : α → β → α)
    (hfield : ∀ unit own, field (put unit own) = own)
    (hput : ∀ unit first second, put (put unit first) second = put unit second)
    (hself : ∀ unit, put unit (field unit) = unit) (hooks : List (α → β)) (unit : α) :
    hooks.foldl (fun unit hook => put unit (field unit ++ hook unit)) unit =
      put unit ((additionsBy (fun unit own => put unit (field unit ++ own)) hooks unit).foldl
        (· ++ ·) (field unit)) := by
  induction hooks generalizing unit with
  | nil => exact (hself unit).symm
  | cons hook rest ih => rw [List.foldl_cons, ih, hput, hfield, additionsBy, List.foldl_cons]

end

/-- What the hooks add to a type. -/
def additions (hooks : Hooks) : TypeUnit → List Extensions
  | .struct unit =>
    additionsBy (fun unit own => { unit with extensions := unit.extensions ++ own }) hooks.onStruct
      unit
  | .enumeration unit =>
    additionsBy (fun unit own => { unit with extensions := unit.extensions ++ own }) hooks.onEnum
      unit
  | .union unit =>
    additionsBy (fun unit own => { unit with extensions := unit.extensions ++ own }) hooks.onUnion
      unit

/-- What the hooks add at the end of a file. -/
def fileAdditions (hooks : Hooks) (file : FileUnit) : List (List Code) :=
  additionsBy (fun file own => { file with items := file.items ++ own }) hooks.onFile file

variable (hooks : Hooks)

theorem applyStruct_eq (unit : StructUnit) :
    hooks.applyStruct unit =
      { unit with
        extensions := (hooks.additions (.struct unit)).foldl (· ++ ·) unit.extensions } :=
  foldl_hooks StructUnit.extensions (fun unit extensions => { unit with extensions })
    (fun _ _ => rfl) (fun _ _ _ => rfl) (fun _ => rfl) hooks.onStruct unit

theorem applyEnum_eq (unit : EnumUnit) :
    hooks.applyEnum unit =
      { unit with
        extensions := (hooks.additions (.enumeration unit)).foldl (· ++ ·) unit.extensions } :=
  foldl_hooks EnumUnit.extensions (fun unit extensions => { unit with extensions })
    (fun _ _ => rfl) (fun _ _ _ => rfl) (fun _ => rfl) hooks.onEnum unit

theorem applyUnion_eq (unit : UnionUnit) :
    hooks.applyUnion unit =
      { unit with
        extensions := (hooks.additions (.union unit)).foldl (· ++ ·) unit.extensions } :=
  foldl_hooks UnionUnit.extensions (fun unit extensions => { unit with extensions })
    (fun _ _ => rfl) (fun _ _ _ => rfl) (fun _ => rfl) hooks.onUnion unit

theorem applyFile_eq (file : FileUnit) :
    hooks.applyFile file =
      { file with items := (hooks.fileAdditions file).foldl (· ++ ·) file.items } :=
  foldl_hooks FileUnit.items (fun file items => { file with items }) (fun _ _ => rfl)
    (fun _ _ _ => rfl) (fun _ => rfl) hooks.onFile file

end Hooks

end SchemaTypes
