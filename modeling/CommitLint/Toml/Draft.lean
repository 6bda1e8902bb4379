import CommitLint.Toml.Value

/-!
# Tables under construction

The lines of a document add to tables that may still grow. A draft remembers how a table came about,
because a table can be defined only once: by its own header, or by dotted keys.
-/

namespace CommitLint.Toml

/-- A part of a document that is being read. A table is implied as long as it has no header of its
own, and dotted if dotted keys made it. Of an array of tables only the last one can grow. -/
inductive Draft where
  | value (v : Value)
  | table (implied dotted : Bool) (entries : List (String × Draft))
  | tables (earlier : List Value) (last : List (String × Draft))
  deriving Inhabited

mutual

/-- The value that a draft has come to. -/
def Draft.finish : Draft → Value
  | .value v => v
  | .table _ _ entries => .table (Draft.finishEntries entries)
  | .tables earlier last => .array (earlier ++ [.table (Draft.finishEntries last)])

/-- The entries that the entries of a draft have come to. -/
def Draft.finishEntries : List (String × Draft) → List (String × Value)
  | [] => []
  | (key, draft) :: rest => (key, draft.finish) :: Draft.finishEntries rest

end

namespace Draft

/-- Add a value under dotted keys, the last of which is `key`. Only tables that dotted keys made can
be added to. -/
def insertDotted (key : String) (v : Value) :
    List String → List (String × Draft) → Option (List (String × Draft))
  | [], entries =>
    match entries.lookup key with
    | some _ => none
    | none => some (putEntry key (.value v) entries)
  | k :: path, entries =>
    match entries.lookup k with
    | none => do some (putEntry k (.table true true (← insertDotted key v path [])) entries)
    | some (.table implied dotted inner) =>
      if !implied || (path.isEmpty && !dotted) then none
      else do some (putEntry k (.table implied dotted (← insertDotted key v path inner)) entries)
    | some (.tables earlier last) =>
      if path.isEmpty then none
      else do some (putEntry k (.tables earlier (← insertDotted key v path last)) entries)
    | some (.value _) => none

/-- Change the table at a path of keys; tables on the way that are missing are implied. -/
def atPath (change : List (String × Draft) → Option (List (String × Draft))) :
    List String → List (String × Draft) → Option (List (String × Draft))
  | [], entries => change entries
  | k :: path, entries =>
    match entries.lookup k with
    | none => do some (putEntry k (.table true false (← atPath change path [])) entries)
    | some (.table implied dotted inner) =>
      do some (putEntry k (.table implied dotted (← atPath change path inner)) entries)
    | some (.tables earlier last) =>
      do some (putEntry k (.tables earlier (← atPath change path last)) entries)
    | some (.value _) => none

/-- Begin the table of a header. A table that was only implied so far becomes that table. -/
def openTable (key : String) (entries : List (String × Draft)) :
    Option (List (String × Draft)) :=
  match entries.lookup key with
  | none => some (putEntry key (.table false false []) entries)
  | some (.table true false inner) => some (putEntry key (.table false false inner) entries)
  | _ => none

/-- Begin the next table of an array of tables. -/
def openElement (key : String) (entries : List (String × Draft)) :
    Option (List (String × Draft)) :=
  match entries.lookup key with
  | none => some (putEntry key (.tables [] []) entries)
  | some (.tables earlier last) =>
    some (putEntry key (.tables (earlier ++ [.table (finishEntries last)]) []) entries)
  | _ => none

end Draft

end CommitLint.Toml
