/-!
# TOML values

The values of a configuration file, and the merging of one file over another: tables are merged key
by key, and anything else replaces what stood in its place.
-/

namespace CommitLint.Toml

/-- A TOML value. Of a floating-point number only its text is kept, and of a date or time its
normal form. -/
inductive Value where
  | text (s : String)
  | integer (n : Int)
  | float (digits : String)
  | boolean (b : Bool)
  | dateTime (s : String)
  | array (items : List Value)
  | table (entries : List (String × Value))
  deriving Repr, Inhabited

/-- The entries with `a` under `key`, in the place of an older entry or else at the end. -/
def putEntry {α : Type} (key : String) (a : α) : List (String × α) → List (String × α)
  | [] => [(key, a)]
  | (k, b) :: rest => if k = key then (key, a) :: rest else (k, b) :: putEntry key a rest

mutual

/-- One value over another. -/
def merge : Value → Value → Value
  | .table base, .table overlay => .table (mergeEntries base overlay)
  | _, overlay => overlay

/-- The entries of one table over those of another. -/
def mergeEntries (base : List (String × Value)) :
    List (String × Value) → List (String × Value)
  | [] => base
  | (key, value) :: rest =>
    mergeEntries
      (putEntry key
        (match base.lookup key with
          | some old => merge old value
          | none => value)
        base)
      rest

end

/-- The value at a path of keys. -/
def Value.at? : Value → List String → Option Value
  | v, [] => some v
  | .table entries, key :: path => (entries.lookup key).bind (·.at? path)
  | _, _ :: _ => none

end CommitLint.Toml
