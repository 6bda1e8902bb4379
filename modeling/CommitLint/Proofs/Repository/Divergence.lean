import CommitLint.Check.Divergence
import CommitLint.Proofs.Repository.Branch

/-!
# Listing and counting what is ahead

`Repository.since` writes the range from a branch to the head down as a text and has it read again;
`Repository.ahead` counts between two commits. The two dots of the range are the first ones in the
text, because git allows no two dots in a row in the name of a branch, and none at its end
(`HasPlainDots.of_branchRevision?`). So both look up the same revision for the branch, and where
both succeed the number is that of the commits in the list.

They do not look up the head alike. In a range it is a name like others: as long as the branch that
is checked out has no commits, another reference may go by this name (`stray?`). Then there is
something to list and nothing to count (`not_forall_since_iff_ahead`), and this is the only way in
which one of the two succeeds and the other does not (`since_agrees_with_ahead`).
-/

namespace CommitLint

open Text

namespace Repository

/-! ### Dots in the names of branches -/

/-- A name has no two dots in a row, and does not end with one. -/
structure HasPlainDots (name : List Char) : Prop where
  dots : ¬['.', '.'] <:+: name
  last : ¬['.'] <:+ name

/-- Git gives no other names to branches. -/
def NamesBranchesPlainly (r : Repository) : Prop :=
  ∀ branch ∈ r.branches ++ r.remoteBranches, HasPlainDots branch.1.toList

/-- A name has plain dots if the name under which it is looked up has. -/
theorem HasPlainDots.of_branchName? {name : List Char} {n : String} (h : HasPlainDots n.toList)
    (hname : branchName? name = some n) : HasPlainDots name := by
  rw [branchName?] at hname
  split at hname
  · cases hname
  cases hname
  rw [String.toList_ofList] at h
  have hslash : '/' ∉ ['.', '.'] := by decide
  refine ⟨fun hdots => ?_, fun hlast => ?_⟩
  -- Two dots in a row belong to one component, which is no empty one.
  · obtain ⟨p, hp, hdots⟩ := exists_piece_of_infix hslash hdots
    refine h.dots (hdots.trans (infix_joinWith (List.mem_filter.mpr ⟨hp, ?_⟩)))
    cases p with
    | nil => simp at hdots
    | cons c p => rfl
  -- A dot at the end belongs to the last component, which stays the last one.
  · obtain ⟨start, hstart⟩ := hlast
    have hdot : name.getLast? = some '.' := List.getLast?_eq_some_iff.mpr ⟨start, hstart.symm⟩
    obtain ⟨ps, p, hps⟩ := exists_pieces_of_getLast? (by decide : '.' ≠ '/') hdot
    have hkept : [p ++ ['.']].filter (!·.isEmpty) = [p ++ ['.']] := by simp
    rw [hps, List.filter_append, hkept] at h
    exact h.last ((List.suffix_append p ['.']).trans (suffix_joinWith _ _))

theorem HasPlainDots.of_isBranch {branches : List (String × String)} {name : List Char}
    (hplain : ∀ branch ∈ branches, HasPlainDots branch.1.toList) (h : isBranch branches name) :
    HasPlainDots name := by
  rw [isBranch] at h
  cases hname : branchName? name with
  | none => simp [hname] at h
  | some n =>
    rw [hname] at h
    obtain ⟨hash, hlookup⟩ := Option.isSome_iff_exists.mp h
    exact (hplain (n, hash) (Entries.mem_of_lookup_eq_some hlookup)).of_branchName? hname

section

variable {r : Repository} {branch revision : List Char}

/-- A branch is known by a revision with plain dots. -/
theorem HasPlainDots.of_branchRevision? (hplain : r.NamesBranchesPlainly)
    (h : r.branchRevision? branch = some revision) : HasPlainDots revision := by
  obtain ⟨hlocal, hremote⟩ := List.forall_mem_append.mp hplain
  rw [branchRevision?] at h
  split_ifs at h with hbranch hbranch'
  · cases h
    exact .of_isBranch hlocal hbranch
  · cases h
    exact .of_isBranch hremote hbranch'

theorem branchRevision?_eq_none_iff : r.branchRevision? branch = none ↔
    isBranch r.branches branch = false ∧
      isBranch r.remoteBranches ("origin/".toList ++ branch) = false := by
  rw [branchRevision?]
  split_ifs with hbranch hbranch' <;> simp_all

/-! ### The head -/

/-- The commit that is checked out. -/
def headCommit? (r : Repository) : Option StoredCommit := r.headHash?.bind r.history.find?

/-- The hash of a reference that goes by the name of the head and is not the head. -/
def stray? (r : Repository) : Option String :=
  (fullNames (.ofList Revision.head)).tail.findSome? r.reference?

/-- The name of the head stands for the head if there is a commit on it, and else for a stray
reference. -/
theorem resolve?_headName (r : Repository) :
    r.resolve? Revision.head = (r.headHash?.or r.stray?).bind r.history.find? := by
  have hfirst : r.reference? (.ofList Revision.head) = r.headHash? := rfl
  have hshort : r.shortReference? (.ofList Revision.head) = r.headHash?.or r.stray? := by
    rw [shortReference?, stray?, fullNames, List.findSome?_cons, hfirst, List.tail_cons]
    cases r.headHash? <;> rfl
  have hdigits : r.abbreviated? Revision.head = none := if_neg (by decide)
  have hdescribed : describedHash? Revision.head = none := by decide
  rw [resolve?_eq_named? isBranchName_head, named?, if_neg (by decide), hshort, hdigits, hdescribed]
  cases r.headHash?.or r.stray? <;> rfl

/-! ### Both ways of counting -/

/-- The commit from which commits are counted for a branch. -/
def baseCommit? (r : Repository) (branch : List Char) : Option StoredCommit :=
  (r.branchRevision? branch).bind r.resolve?

theorem since_eq_ok_iff_resolve? (hplain : r.NamesBranchesPlainly) {commits : List Commit} :
    r.since branch = .ok commits ↔
      ∃ base top, r.baseCommit? branch = some base ∧ r.resolve? Revision.head = some top ∧
        commits = (r.history.between base top).map StoredCommit.load := by
  rw [since, baseCommit?]
  cases hrevision : r.branchRevision? branch with
  | none => simp
  | some revision =>
    have hdots := HasPlainDots.of_branchRevision? hplain hrevision
    simp only [range_eq_ok_iff, goesBetween_iff hdots.dots hdots.last, Option.bind_some, and_assoc]

theorem ahead_eq_ok_iff_baseCommit? {branch : String} {n : Nat} :
    r.ahead false false branch = .ok n ↔
      ∃ base top, r.baseCommit? branch.toList = some base ∧ r.headCommit? = some top ∧
        n = (r.history.between base top).length := by
  rw [ahead, if_neg Bool.false_ne_true, baseCommit?, headCommit?]
  cases hrevision : r.branchRevision? branch.toList with
  | none => simp
  | some revision =>
    simp only [Option.bind_some]
    cases hbase : r.resolve? revision with
    | none => simp
    | some base =>
      cases htop : r.headHash?.bind r.history.find? with
      | none => simp
      | some top =>
        obtain ⟨hash, -, hfind⟩ := Option.bind_eq_some_iff.mp htop
        have hlength := History.length_between (mem_of_resolve? hbase)
          (History.find?_eq_some_iff.mp hfind).1
        simp [hlength, eq_comm]

/-- Without a branch here or in the remote repository there is nothing to count from. -/
theorem of_branchRevision?_eq_none {branch : String}
    (h : r.branchRevision? branch.toList = none) :
    r.since branch.toList = .error (.invalidReference branch) ∧
      r.ahead false false branch = .error (.referenceNotFound branch) := by
  constructor
  · rw [since, h, String.ofList_toList]
  · rw [ahead, if_neg Bool.false_ne_true, h]

/-- Where commits are counted, the same commits can be listed. -/
theorem exists_since_of_ahead (hplain : r.NamesBranchesPlainly) {branch : String} {n : Nat}
    (h : r.ahead false false branch = .ok n) :
    ∃ commits base, r.since branch.toList = .ok commits ∧
      r.baseCommit? branch.toList = some base ∧ commits.length = n ∧
      IsListing (commits.map Commit.hash) (r.IsAheadOf base.hash) := by
  obtain ⟨base, top, hbase, htop, rfl⟩ := ahead_eq_ok_iff_baseCommit?.mp h
  obtain ⟨head, hhead, hfind⟩ := Option.bind_eq_some_iff.mp htop
  obtain ⟨revision, -, hresolve⟩ := Option.bind_eq_some_iff.mp hbase
  have hsince : r.since branch.toList =
      .ok ((r.history.between base top).map StoredCommit.load) :=
    (since_eq_ok_iff_resolve? hplain).mpr
      ⟨base, top, hbase, (resolve?_head hhead).trans hfind, rfl⟩
  refine ⟨_, base, hsince, hbase, List.length_map _, ?_⟩
  rw [List.map_map]
  exact isListing_between hhead
    (History.find?_eq_some_iff.mpr ⟨mem_of_resolve? hresolve, rfl⟩) hfind

/-- Where commits can be listed they can be counted, unless the head has no commit and a stray
reference takes its place. -/
theorem exists_since_iff_ahead_or_stray (hplain : r.NamesBranchesPlainly) {branch : String} :
    (∃ commits, r.since branch.toList = .ok commits) ↔
      (∃ n, r.ahead false false branch = .ok n) ∨
        r.headHash? = none ∧ (r.baseCommit? branch.toList).isSome ∧
          (r.stray?.bind r.history.find?).isSome := by
  constructor
  · rintro ⟨commits, h⟩
    obtain ⟨base, top, hbase, htop, -⟩ := (since_eq_ok_iff_resolve? hplain).mp h
    rw [resolve?_headName] at htop
    cases hhead : r.headHash? with
    | none =>
      rw [hhead, Option.none_or] at htop
      exact .inr ⟨rfl, by rw [hbase]; rfl, by rw [htop]; rfl⟩
    | some head =>
      rw [hhead, Option.some_or, ← hhead] at htop
      exact .inl ⟨_, ahead_eq_ok_iff_baseCommit?.mpr ⟨base, top, hbase, htop, rfl⟩⟩
  · rintro (⟨n, h⟩ | ⟨hhead, hbase, hstray⟩)
    · obtain ⟨commits, -, hsince, -⟩ := exists_since_of_ahead hplain h
      exact ⟨commits, hsince⟩
    · obtain ⟨base, hbase⟩ := Option.isSome_iff_exists.mp hbase
      obtain ⟨top, htop⟩ := Option.isSome_iff_exists.mp hstray
      have hname : r.resolve? Revision.head = some top := by
        rw [resolve?_headName, hhead, Option.none_or, htop]
      exact ⟨_, (since_eq_ok_iff_resolve? hplain).mpr ⟨base, top, hbase, hname, rfl⟩⟩

end

/-- Listing and counting agree: where commits are counted as ahead of a branch, just as many are
listed, each once, and these are what can be reached from the head and not from the commit that the
branch was looked up as. Where they are listed they are counted, unless the head has no commit and
a stray reference takes its place. Both fail, each in its way, if there is no such branch, and the
rule on commits ahead takes this for no distance. -/
theorem since_agrees_with_ahead (r : Repository) (hplain : r.NamesBranchesPlainly)
    (branch : String) :
    (∀ n, r.ahead false false branch = .ok n → ∃ commits base, r.since branch.toList = .ok commits ∧
        r.baseCommit? branch.toList = some base ∧ commits.length = n ∧
        IsListing (commits.map Commit.hash) (r.IsAheadOf base.hash)) ∧
      ((∃ commits, r.since branch.toList = .ok commits) ↔
        (∃ n, r.ahead false false branch = .ok n) ∨
          r.headHash? = none ∧ (r.baseCommit? branch.toList).isSome ∧
            (r.stray?.bind r.history.find?).isSome) ∧
      (isBranch r.branches branch.toList = false →
        isBranch r.remoteBranches ("origin/".toList ++ branch.toList) = false →
        r.since branch.toList = .error (.invalidReference branch) ∧
          r.ahead false false branch = .error (.referenceNotFound branch) ∧
          ∀ settings : Settings.Repository,
            Check.aheadReplyOutcome settings (r.ahead false false branch) =
              { rule := .commitsAhead
                details :=
                  .ofList [("ahead_count", "0"), ("reference", settings.referenceBranch)]
                findings := [] }) := by
  refine ⟨fun n => exists_since_of_ahead hplain, exists_since_iff_ahead_or_stray hplain,
    fun hlocal hremote => ?_⟩
  obtain ⟨hsince, hahead⟩ :=
    of_branchRevision?_eq_none (branchRevision?_eq_none_iff.mpr ⟨hlocal, hremote⟩)
  refine ⟨hsince, hahead, fun settings => ?_⟩
  rw [hahead, Check.aheadReplyOutcome, Check.aheadOutcome, if_pos (Nat.zero_le _)]
  rfl

theorem namesBranchesPlainly_row (tag : String) : (row tag).NamesBranchesPlainly := by
  intro branch hbranch
  have hnames : branch.1 = "main" ∨ branch.1 = "base" := by
    simp only [row, List.append_nil, List.mem_cons, List.not_mem_nil, or_false] at hbranch
    exact hbranch.imp (congrArg Prod.fst) (congrArg Prod.fst)
  rcases hnames with h | h
  · rw [h]
    exact ⟨by decide, by decide⟩
  · rw [h]
    exact ⟨by decide, by decide⟩

/-- Three commits are ahead of one branch, and there is no other one to count from. -/
theorem since_agrees_with_ahead_row :
    let r := row "v1"
    r.NamesBranchesPlainly ∧ r.ahead false false "base" = .ok 3 ∧
      (∃ commits, r.since "base".toList = .ok commits ∧ commits.length = 3) ∧
      isBranch r.branches "none".toList = false ∧
      isBranch r.remoteBranches "origin/none".toList = false ∧
      r.since "none".toList = .error (.invalidReference "none") ∧
      Check.aheadReplyOutcome { referenceBranch := "none" } (r.ahead false false "none") =
        { rule := .commitsAhead
          details := .ofList [("ahead_count", "0"), ("reference", "none")]
          findings := [] } := by
  intro r
  have hplain : r.NamesBranchesPlainly := namesBranchesPlainly_row "v1"
  have hahead : r.ahead false false "base" = .ok 3 := by decide +kernel
  have hlocal : isBranch r.branches "none".toList = false := by decide +kernel
  have hremote : isBranch r.remoteBranches ("origin/".toList ++ "none".toList) = false := by
    decide +kernel
  obtain ⟨hcount, -, -⟩ := since_agrees_with_ahead r hplain "base"
  obtain ⟨-, -, hnone⟩ := since_agrees_with_ahead r hplain "none"
  obtain ⟨commits, base, hsince, -, hlength, -⟩ := hcount 3 hahead
  obtain ⟨hfails, -, hzero⟩ := hnone hlocal hremote
  exact ⟨hplain, hahead, ⟨commits, hsince, hlength⟩, hlocal, hremote, hfails, hzero _⟩

/-- Four commits in a row, a new branch without commits, and a tag that has the name of the head:
what is tagged can be listed, and nothing be counted. -/
theorem not_forall_since_iff_ahead :
    ¬∀ (r : Repository) (branch : String), r.NamesBranchesPlainly →
      ((∃ commits, r.since branch.toList = .ok commits) ↔
        ∃ n, r.ahead false false branch = .ok n) := by
  intro hall
  let r : Repository := { row "HEAD" with head := .branch "new" }
  have hiff := hall r "base" (namesBranchesPlainly_row "HEAD")
  have hcommits : r.since "base".toList = .ok [⟨"", "c", "A", "a@x", some ⟨2, 0⟩, "", false⟩,
      ⟨"", "b", "A", "a@x", some ⟨1, 0⟩, "", false⟩] := by
    decide +kernel
  obtain ⟨n, hn⟩ := hiff.mp ⟨_, hcommits⟩
  have hfault : r.ahead false false "base" = .error r.headFault := by decide +kernel
  rw [hfault] at hn
  cases hn

end Repository

end CommitLint
