import CommitLint.Rule.Basic

/-!
# Which rules are active

A rule that is enabled by name is active, whatever else the lists say; one that is only disabled is
not; and a rule that neither list names is active unless it is off by default.
-/

namespace CommitLint.Rule

/-- The names of the rules that are off unless they are enabled. -/
def offByDefault : List (List Char) :=
  ["jirareference".toList, "commitbody".toList, "spell".toList]

/-- Whether a list names what a name means. -/
def isListed (name : List Char) (entries : List (List Char)) : Bool :=
  entries.any fun entry => cleanName entry == cleanName name

/-- Whether the rule of a name is active under a list of enabled and a list of disabled names. -/
def isActive (name : List Char) (enabled disabled : List (List Char)) : Bool :=
  isListed name enabled || (!isListed name disabled && !offByDefault.contains (cleanName name))

/-- The active rules, in the order of the names. -/
def active (enabled disabled : List String) : List Rule :=
  all.filter fun r =>
    isActive r.name.toList (enabled.map String.toList) (disabled.map String.toList)

end CommitLint.Rule
