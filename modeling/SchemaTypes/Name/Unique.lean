/-!
# Unique names

A name that is taken gets the least number from 2 on that makes it free.
-/

namespace SchemaTypes.Name

/-- Tries `base2`, `base3`, … from `number` on.  Among more candidates than names in use one is
free, so `attempts` need not exceed the number of names in use. -/
def numbered (base : String) (used : List String) : (attempts number : Nat) → String
  | 0, number => base ++ toString number
  | attempts + 1, number =>
    let candidate := base ++ toString number
    if used.contains candidate then numbered base used attempts (number + 1) else candidate

/-- The name itself when it is free, else the name with the least free number from 2 on. -/
def ensureUnique (base : String) (used : List String) : String :=
  if used.contains base then numbered base used used.length 2 else base

/-- Makes each name unique against those in use and those before it. -/
def ensureAllUnique (used : List String) : List String → List String
  | [] => []
  | name :: rest =>
    let unique := ensureUnique name used
    unique :: ensureAllUnique (unique :: used) rest

end SchemaTypes.Name
