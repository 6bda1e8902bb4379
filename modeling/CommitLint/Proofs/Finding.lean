import CommitLint.Finding
import CommitLint.Proofs.Text.Lacks

/-!
# What findings say

The texts of a finding that a reader sees are its message and its advice, and those of an outcome
are the texts of its findings and its details. A character that none of them holds is said to be
lacking (`Finding.Lacks`, `Outcome.Lacks`). The names of rules and codes, and the advice that
belongs to a code, lack all control characters.
-/

namespace CommitLint

open Text

variable {x : Char}

theorem Rule.lacks_name (hx : IsControl x) (rule : Rule) : Lacks x rule.name := by
  cases rule <;> exact hx.lacks rfl

theorem Code.lacks_name (hx : IsControl x) (code : Code) : Lacks x code.name := by
  cases code <;> exact hx.lacks rfl

theorem Code.lacks_help (hx : IsControl x) (code : Code) : Lacks x code.help := by
  cases code <;> exact hx.lacks rfl

namespace Fields

/-- Neither the names nor the texts under them hold a character. -/
def Lacks (x : Char) (fields : Fields) : Prop :=
  ∀ e ∈ fields.entries, Text.Lacks x e.1 ∧ Text.Lacks x e.2

instance (x : Char) (fields : Fields) : Decidable (fields.Lacks x) :=
  inferInstanceAs (Decidable (∀ e ∈ fields.entries, Text.Lacks x e.1 ∧ Text.Lacks x e.2))

theorem lacks_empty : empty.Lacks x := List.forall_mem_nil _

theorem forall_mem_insertEntry {p : String × String → Prop} {name value : String}
    {entries : List (String × String)} (hnew : p (name, value)) (h : ∀ e ∈ entries, p e) :
    ∀ e ∈ insertEntry name value entries, p e := by
  induction entries with
  | nil => exact List.forall_mem_singleton.mpr hnew
  | cons first rest ih =>
    obtain ⟨hfirst, hrest⟩ := List.forall_mem_cons.mp h
    rw [insertEntry]
    split_ifs
    · exact List.forall_mem_cons.mpr ⟨hnew, h⟩
    · exact List.forall_mem_cons.mpr ⟨hnew, hrest⟩
    · exact List.forall_mem_cons.mpr ⟨hfirst, ih hrest⟩

theorem Lacks.foldl_insert {fields : Fields} (h : fields.Lacks x)
    {entries : List (String × String)}
    (hentries : ∀ e ∈ entries, Text.Lacks x e.1 ∧ Text.Lacks x e.2) :
    (entries.foldl (fun fields (name, value) => fields.insert name value) fields).Lacks x := by
  induction entries generalizing fields with
  | nil => exact h
  | cons e entries ih =>
    obtain ⟨he, hrest⟩ := List.forall_mem_cons.mp hentries
    exact ih (forall_mem_insertEntry he h) hrest

/-- Fields hold the texts of the list that they are made of. -/
theorem lacks_ofList {entries : List (String × String)}
    (h : ∀ e ∈ entries, Text.Lacks x e.1 ∧ Text.Lacks x e.2) : (ofList entries).Lacks x :=
  lacks_empty.foldl_insert h

/-- A text under a name that is a fixed word. -/
theorem lacks_ofList_singleton (hx : IsControl x) {name : List Char}
    (hname : name.all (32 ≤ ·.toNat)) {value : String} (h : Text.Lacks x value) :
    (ofList [(.ofList name, value)]).Lacks x :=
  lacks_ofList (List.forall_mem_singleton.mpr ⟨hx.lacks hname, h⟩)

theorem lacks_ofList_pair (hx : IsControl x) {name name' : List Char}
    (hname : name.all (32 ≤ ·.toNat)) (hname' : name'.all (32 ≤ ·.toNat)) {value value' : String}
    (h : Text.Lacks x value) (h' : Text.Lacks x value') :
    (ofList [(.ofList name, value), (.ofList name', value')]).Lacks x :=
  lacks_ofList (List.forall_mem_cons.mpr
    ⟨⟨hx.lacks hname, h⟩, List.forall_mem_singleton.mpr ⟨hx.lacks hname', h'⟩⟩)

end Fields

/-- Neither the message nor the advice of a finding holds a character. -/
structure Finding.Lacks (x : Char) (f : Finding) : Prop where
  message : Text.Lacks x f.message
  help : Text.Lacks x f.help

/-- A finding with the advice that belongs to its code. -/
theorem Finding.lacks_advised (hx : IsControl x) {rule : Rule} {code : Code} {message : String}
    {context : Fields} (h : Text.Lacks x message) :
    Finding.Lacks x { rule, code, message, context } := ⟨h, code.lacks_help hx⟩

/-- The only finding, with the advice that belongs to its code. -/
theorem Finding.forall_lacks_advised (hx : IsControl x) {rule : Rule} {code : Code}
    {message : String} {context : Fields} (h : Text.Lacks x message) :
    ∀ f ∈ [({ rule, code, message, context } : Finding)], f.Lacks x :=
  List.forall_mem_singleton.mpr (lacks_advised hx h)

/-- Neither the findings of an outcome nor its details hold a character. -/
structure Outcome.Lacks (x : Char) (o : Outcome) : Prop where
  findings : ∀ f ∈ o.findings, f.Lacks x
  details : o.details.Lacks x

theorem Outcome.lacks_mk {rule : Rule} {findings : List Finding} {details : Fields}
    (hfindings : ∀ f ∈ findings, f.Lacks x) (hdetails : details.Lacks x) :
    Outcome.Lacks x { rule, findings, details } := ⟨hfindings, hdetails⟩

theorem Outcome.lacks_failure {f : Finding} (h : f.Lacks x) : (failure f).Lacks x where
  findings := List.forall_mem_singleton.mpr h
  details := Fields.lacks_empty

end CommitLint
