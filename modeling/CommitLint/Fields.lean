/-!
# Named texts

The findings and the details of a rule carry named texts. They are kept in the order of their names
and hold each name once, so two collections with the same content are equal.
-/

namespace CommitLint

/-- Texts by name, in ascending order of the names, each name once. -/
structure Fields where
  entries : List (String × String)
  deriving DecidableEq, Repr, Inhabited

namespace Fields

/-- No texts. -/
def empty : Fields := ⟨[]⟩

/-- Put an entry into its place in an ascending list, over an older entry of that name. -/
def insertEntry (name value : String) : List (String × String) → List (String × String)
  | [] => [(name, value)]
  | (n, v) :: rest =>
    if name < n then (name, value) :: (n, v) :: rest
    else if name = n then (name, value) :: rest
    else (n, v) :: insertEntry name value rest

/-- The fields with `value` under `name`. -/
def insert (fields : Fields) (name value : String) : Fields :=
  ⟨insertEntry name value fields.entries⟩

/-- The text under a name. -/
def get? (fields : Fields) (name : String) : Option String := fields.entries.lookup name

/-- The fields of a list of entries; a later entry of a name replaces an earlier one. -/
def ofList (entries : List (String × String)) : Fields :=
  entries.foldl (fun fields (name, value) => fields.insert name value) empty

/-- Whether there are no texts. -/
def isEmpty (fields : Fields) : Bool := fields.entries.isEmpty

end Fields

end CommitLint
