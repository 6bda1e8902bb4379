import CommitLint.Repository.Stored

/-!
# Histories

The commits of a repository and who descends from whom. A commit is stored after its parents, so
there are no cycles, and every parent is there.

`History.Reaches` says which commits can be reached from another by going to parents. Two functions
compute it: `History.walk` visits commits as a log shows them, newest first, and `History.ancestors`
collects hashes in one pass over the store.
-/

namespace CommitLint

/-- Whether every commit of a list has its parents among the later ones, none of which shares its
hash. -/
def Grounded : List StoredCommit → Prop
  | [] => True
  | c :: older =>
    (∀ p ∈ c.parents, ∃ d ∈ older, d.hash = p) ∧ (∀ d ∈ older, d.hash ≠ c.hash) ∧ Grounded older

/-- The commits of a repository, the one stored last first. -/
structure History where
  commits : List StoredCommit := []
  grounded : Grounded commits := by trivial

namespace History

/-- The commit with a hash. -/
def find? (h : History) (hash : String) : Option StoredCommit :=
  h.commits.find? (·.hash == hash)

/-- Whether there is a commit with a hash. -/
def has (h : History) (hash : String) : Bool := h.commits.any (·.hash == hash)

theorem has_iff {h : History} {hash : String} :
    h.has hash = true ↔ ∃ c ∈ h.commits, c.hash = hash := by
  simp [has]

/-- The history with one more commit, unless the commit cannot be read, is there already, or has a
parent that is not. -/
def add (h : History) (c : StoredCommit) : History :=
  if ok : c.isReadable ∧ c.parents.all h.has ∧ h.has c.hash = false then
    { commits := c :: h.commits
      grounded := by
        obtain ⟨-, parents, fresh⟩ := ok
        refine ⟨fun p member => has_iff.1 (List.all_eq_true.1 parents p member), ?_, h.grounded⟩
        intro d member same
        have known : h.has c.hash = true := has_iff.2 ⟨d, member, same⟩
        simp [fresh] at known }
  else h

/-- The history of some commits, each of which comes after its parents. -/
def ofList (cs : List StoredCommit) : History := cs.foldl add {}

/-- A commit reaches itself, and the parents of every commit that it reaches. -/
inductive Reaches (h : History) (start : String) : String → Prop where
  | self : h.has start = true → Reaches h start start
  | parent {c : StoredCommit} {p : String} :
      c ∈ h.commits → Reaches h start c.hash → p ∈ c.parents → Reaches h start p

/-! ### Collecting ancestors

In one pass from the commit stored last to the first, the parents of each commit found so far are
found too: whoever has a commit for a parent is looked at before it. -/

/-- What is found once a commit has been looked at. -/
def collect (found : List String) (c : StoredCommit) : List String :=
  if found.contains c.hash then c.parents ++ found else found

/-- The hashes that can be reached from a hash. -/
def ancestors (h : History) (start : String) : List String := h.commits.foldl collect [start]

/-- The number of commits that can be reached from one hash and not from another. -/
def aheadCount (h : History) (tip base : String) : Nat :=
  let theirs := h.ancestors base
  let ours := h.ancestors tip
  h.commits.countP fun c => ours.contains c.hash && !theirs.contains c.hash

/-! ### Walking

The commits to be visited wait in a queue, the newest first; of two that are equally old, the one
that was seen first. A commit is seen once, when the first of its children is visited. -/

/-- A queue with one more commit. -/
def enqueue (c : StoredCommit) : List StoredCommit → List StoredCommit
  | [] => [c]
  | d :: queue => if d.time < c.time then c :: d :: queue else d :: enqueue c queue

theorem length_enqueue (c : StoredCommit) (queue : List StoredCommit) :
    (enqueue c queue).length = queue.length + 1 := by
  induction queue with
  | nil => rfl
  | cons d queue ih =>
    unfold enqueue
    split <;> simp [ih]

/-- What is left of a walk: the commits that wait, and those that have not been seen. -/
structure Frontier where
  queue : List StoredCommit
  unseen : List StoredCommit

/-- The number of commits that a walk may still visit. -/
def Frontier.size (f : Frontier) : Nat := f.queue.length + f.unseen.length

/-- The frontier after a hash was seen. -/
def Frontier.see (f : Frontier) (hash : String) : Frontier :=
  match f.unseen.find? (·.hash == hash) with
  | none => f
  | some c => ⟨enqueue c f.queue, f.unseen.filter (·.hash != hash)⟩

theorem Frontier.size_see_le (f : Frontier) (hash : String) : (f.see hash).size ≤ f.size := by
  unfold see
  split
  · exact Nat.le_refl _
  · next c found =>
    have kept : (f.unseen.filter (·.hash != hash)).length < f.unseen.length := by
      refine List.length_filter_lt_length_iff_exists.2
        ⟨c, List.mem_of_find?_eq_some found, ?_⟩
      have same := List.find?_some found
      simpa using same
    simp only [size, length_enqueue]
    omega

/-- The frontier after some hashes were seen, one after the other. -/
def Frontier.seeAll (f : Frontier) (hashes : List String) : Frontier := hashes.foldl see f

theorem Frontier.size_seeAll_le (f : Frontier) (hashes : List String) :
    (f.seeAll hashes).size ≤ f.size := by
  induction hashes generalizing f with
  | nil => exact Nat.le_refl _
  | cons hash hashes ih => exact Nat.le_trans (ih _) (f.size_see_le hash)

/-- The commits that a walk still visits, in order. -/
def walkFrom : Frontier → List StoredCommit
  | ⟨[], _⟩ => []
  | ⟨c :: queue, unseen⟩ => c :: walkFrom (Frontier.seeAll ⟨queue, unseen⟩ c.parents)
termination_by f => f.size
decreasing_by
  have bound := Frontier.size_seeAll_le ⟨queue, unseen⟩ c.parents
  simp only [Frontier.size, List.length_cons] at bound ⊢
  omega

/-- The commits that can be reached from one, newest first. -/
def walk (h : History) (tip : StoredCommit) : List StoredCommit :=
  walkFrom ⟨[tip], h.commits.filter (·.hash != tip.hash)⟩

/-- The commits that can be reached from one and not from another, newest first. -/
def between (h : History) (base tip : StoredCommit) : List StoredCommit :=
  let hidden := (h.walk base).map StoredCommit.hash
  (h.walk tip).filter fun c => !hidden.contains c.hash

end History

end CommitLint
