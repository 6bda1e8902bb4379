import CommitLint.Proofs.Entries
import CommitLint.Proofs.Repository.Revision
import CommitLint.Proofs.Text.Find

/-!
# The base of a branch

Commits are counted from a branch in two ways: `Repository.since` lists those on the head that are
not on the branch, and `Repository.ahead` gives their number. Both ask whether there is a branch of
the name and then look up the bare name as a revision. A revision may be a whole hash or a reference
of another kind, and these are tried before branches: `rival?` is what they give, and `baseHash` the
commit from which both ways count in the end (`countsFrom_baseHash`).

The branch itself is what counts only as far as nothing that the head reaches tells the two commits
apart. A tag of the same name is enough to break this (`not_forall_countsFrom`).
-/

namespace CommitLint

open Text

namespace Repository

/-! ### Names of branches -/

/-- What the rules of git ask of the name of a branch, as far as a revision that consists of the
name could otherwise be read as anything else. -/
structure IsBranchName (name : List Char) : Prop where
  components : ∀ p ∈ pieces '/' name, p ≠ []
  ne_at : name ≠ ['@']
  marks : ∀ c ∈ name, c ∉ ['^', '~', ':']
  braces : ¬['@', '{'] <:+: name
  dots : ¬['.', '.'] <:+: name
  last : ¬['.'] <:+ name

theorem IsBranchName.ne_nil {name : List Char} (h : IsBranchName name) : name ≠ [] := by
  rintro rfl
  exact h.components [] (by decide) rfl

/-- A branch is looked up by its name as it stands. -/
theorem branchName?_eq {name : List Char} (h : IsBranchName name) :
    branchName? name = some (.ofList name) := by
  have hlast : name.getLast? ≠ some '/' := by
    intro hlast
    obtain ⟨start, rfl⟩ := List.getLast?_eq_some_iff.mp hlast
    refine h.components [] ?_ rfl
    rw [pieces_append_cons]
    exact List.mem_append_right _ (by decide)
  have hfilter : (pieces '/' name).filter (!·.isEmpty) = pieces '/' name := by
    refine List.filter_eq_self.mpr fun p hp => ?_
    simpa using h.components p hp
  rw [branchName?, if_neg hlast, hfilter, joinWith_pieces]

theorem splitName_eq : ∀ {name : List Char}, (∀ c ∈ name, c ∉ ['^', '~', ':']) →
    ¬['@', '{'] <:+: name → Revision.splitName name = (name, []) := by
  intro name hmarks hbraces
  fun_induction Revision.splitName name with
  | case1 => rfl
  | case2 s => exact absurd ⟨[], s, rfl⟩ hbraces
  | case3 c s hbrace hmark =>
    exact absurd (List.contains_iff_mem.mp hmark) (hmarks c List.mem_cons_self)
  | case4 c s hbrace hmark ih =>
    rw [ih (fun d hd => hmarks d (List.mem_cons_of_mem c hd))
      fun hwithin => hbraces (hwithin.trans (List.suffix_cons c s).isInfix)]

/-- The name of a branch is a revision without steps. -/
theorem parse?_eq {name : List Char} (h : IsBranchName name) :
    Revision.parse? name = some ⟨.named name, []⟩ := by
  rw [Revision.parse?, if_neg h.ne_at, splitName_eq h.marks h.braces]
  dsimp only
  rw [if_neg (by simpa using h.ne_nil)]
  simp [Revision.steps?]

/-- The two dots of a range that begins at a branch are the first ones. -/
theorem cutAtText_range {name : List Char} (hdots : ¬['.', '.'] <:+: name)
    (hlast : ¬['.'] <:+ name) (tip : List Char) :
    cutAtText ['.', '.'] (name ++ '.' :: '.' :: tip) = some (name, tip) := by
  rw [cutAtText_eq_some_iff]
  refine ⟨by simp, fun b a heq => Nat.not_lt.mp fun hlt => ?_⟩
  rw [List.append_assoc] at heq
  rcases List.append_eq_append_iff.mp heq with ⟨x, rfl, -⟩ | ⟨x, rfl, hx⟩
  · rw [List.length_append] at hlt
    omega
  -- Earlier dots would lie within the name, or the first of them would be its end.
  · rcases x with _ | ⟨c, _ | ⟨d, x⟩⟩
    · simp at hlt
    · obtain ⟨rfl, -⟩ := List.cons_eq_cons.mp hx
      exact hlast ⟨b, rfl⟩
    · simp only [List.cons_append, List.nil_append, List.cons.injEq] at hx
      obtain ⟨rfl, rfl, -⟩ := hx
      exact hdots ⟨b, x, by simp⟩

/-! ### What a name stands for -/

variable {r : Repository} {name : String} {tip head : String}

/-- The full names that are tried before that of a branch. -/
def earlierNames (name : String) : List String := [name, "refs/" ++ name, "refs/tags/" ++ name]

/-- The hash that a name stands for before it is looked up among the branches: its own, if it is a
whole hash, or else that of a reference of this full name, or of a tag. -/
def rival? (r : Repository) (name : String) : Option String :=
  ((if name.toList.length = hashLength then r.abbreviated? name.toList else none).map
    StoredCommit.hash).or ((earlierNames name).findSome? r.reference?)

/-- The hash from which commits are counted for a branch with a given tip. -/
def baseHash (r : Repository) (name tip : String) : String := (r.rival? name).getD tip

theorem injective_append (start : String) : Function.Injective (start ++ ·) := by
  intro a b heq
  have htoList := congrArg String.toList heq
  simp only [String.toList_append, List.append_cancel_left_eq] at htoList
  exact String.toList_injective htoList

/-- A branch is a reference of its full name. -/
theorem reference?_of_lookup (hbranch : r.branches.lookup name = some tip) :
    r.reference? ("refs/heads/" ++ name) = some tip := by
  have hne : "refs/heads/" ++ name ≠ "HEAD" := by
    intro heq
    have htoList := congrArg String.toList heq
    rw [String.toList_append] at htoList
    simp at htoList
  rw [reference?, if_neg hne, references, List.append_assoc, List.lookup_append,
    Entries.lookup_map_key (injective_append "refs/heads/"), hbranch, Option.some_or]

theorem named?_of_lookup (hbranch : r.branches.lookup name = some tip) :
    r.named? name.toList = r.history.find? (r.baseHash name tip) := by
  have hshort : r.shortReference? name =
      some (((earlierNames name).findSome? r.reference?).getD tip) := by
    have hsplit : fullNames name = earlierNames name ++
        ("refs/heads/" ++ name) :: ["refs/remotes/" ++ name, "refs/remotes/" ++ name ++ "/HEAD"] :=
      rfl
    have hlater : (("refs/heads/" ++ name) :: ["refs/remotes/" ++ name,
        "refs/remotes/" ++ name ++ "/HEAD"]).findSome? r.reference? = some tip := by
      rw [List.findSome?_cons, reference?_of_lookup hbranch]
    rw [shortReference?, hsplit, List.findSome?_append, hlater]
    cases (earlierNames name).findSome? r.reference? <;> rfl
  rw [named?, baseHash, rival?, String.ofList_toList, hshort]
  cases hwhole : if name.toList.length = hashLength then r.abbreviated? name.toList else none with
  | none => rfl
  | some c =>
    have hc : c ∈ r.history.commits := by
      split_ifs at hwhole
      exact mem_of_abbreviated? hwhole
    exact (History.find?_eq_some_iff.mpr ⟨hc, rfl⟩).symm

/-- A revision without steps is a name. -/
theorem resolve?_eq_named? {name : List Char} (h : IsBranchName name) :
    r.resolve? name = r.named? name := by
  rw [resolve?, parse?_eq h]
  cases hnamed : r.named? name <;> simp [start?, hnamed]

theorem resolve?_of_lookup (hname : IsBranchName name.toList)
    (hbranch : r.branches.lookup name = some tip) :
    r.resolve? name.toList = r.history.find? (r.baseHash name tip) := by
  rw [resolve?_eq_named? hname, named?_of_lookup hbranch]

theorem isBranchName_head : IsBranchName Revision.head :=
  ⟨by decide, by decide, by simp [Revision.head], by decide, by decide, by decide⟩

theorem resolve?_head (hhead : r.headHash? = some head) :
    r.resolve? Revision.head = r.history.find? head := by
  have hshort : r.shortReference? (.ofList Revision.head) = some head := by
    have hfirst : r.reference? (.ofList Revision.head) = some head := hhead
    rw [shortReference?, fullNames, List.findSome?_cons, hfirst]
  rw [resolve?_eq_named? isBranchName_head, named?, if_neg (by decide), hshort]

theorem branchRevision?_of_lookup (hname : IsBranchName name.toList)
    (hbranch : r.branches.lookup name = some tip) :
    r.branchRevision? name.toList = some name.toList := by
  have hisBranch : isBranch r.branches name.toList = true := by
    rw [isBranch, branchName?_eq hname]
    simp [hbranch]
  rw [branchRevision?, if_pos hisBranch]

/-- The range from a branch to the head. -/
theorem goesBetween_iff {revision : List Char} (hdots : ¬['.', '.'] <:+: revision)
    (hlast : ¬['.'] <:+ revision) {base top : StoredCommit} :
    r.GoesBetween (revision ++ "..HEAD".toList) base top ↔
      r.resolve? revision = some base ∧ r.resolve? Revision.head = some top := by
  have hcut : cutAtText ['.', '.'] (revision ++ "..HEAD".toList) =
      some (revision, Revision.head) := cutAtText_range hdots hlast _
  constructor
  · rintro ⟨b, t, hcut', hbase, htop⟩
    rw [hcut] at hcut'
    cases hcut'
    exact ⟨hbase, htop⟩
  · rintro ⟨hbase, htop⟩
    exact ⟨revision, Revision.head, hcut, hbase, htop⟩

/-! ### Counting -/

section Count

variable (hname : IsBranchName name.toList) (hbranch : r.branches.lookup name = some tip)
  (hhead : r.headHash? = some head)
include hname hbranch hhead

theorem since_eq_ok_iff {commits : List Commit} :
    r.since name.toList = .ok commits ↔
      ∃ base top, r.history.find? (r.baseHash name tip) = some base ∧
        r.history.find? head = some top ∧
        commits = (r.history.between base top).map StoredCommit.load := by
  rw [since, branchRevision?_of_lookup hname hbranch]
  simp only [range_eq_ok_iff, goesBetween_iff hname.dots hname.last,
    resolve?_of_lookup hname hbranch, resolve?_head hhead, and_assoc]

theorem ahead_eq_ok_iff {cancelled cancelledLater : Bool} {n : Nat} :
    r.ahead cancelled cancelledLater name = .ok n ↔
      (cancelled = false ∧ cancelledLater = false) ∧
        ∃ base top, r.history.find? (r.baseHash name tip) = some base ∧
          r.history.find? head = some top ∧ n = (r.history.between base top).length := by
  rw [ahead]
  cases cancelled with
  | true => simp
  | false =>
    rw [if_neg Bool.false_ne_true, branchRevision?_of_lookup hname hbranch, hhead]
    simp only [resolve?_of_lookup hname hbranch, Option.bind_some]
    cases hbase : r.history.find? (r.baseHash name tip) with
    | none => simp
    | some base =>
      cases htop : r.history.find? head with
      | none => simp
      | some top =>
        have hlength := History.length_between (History.find?_eq_some_iff.mp hbase).1
          (History.find?_eq_some_iff.mp htop).1
        cases cancelledLater <;> simp [hlength, eq_comm]

end Count

/-- A list holds what satisfies a predicate, each once. -/
def IsListing (hashes : List String) (p : String → Prop) : Prop :=
  hashes.Nodup ∧ ∀ hash, hash ∈ hashes ↔ p hash

/-- A commit is on the head and not on the commit of a given hash. -/
def IsAheadOf (r : Repository) (base hash : String) : Prop :=
  (∃ head, r.headHash? = some head ∧ r.history.Reaches head hash) ∧ ¬r.history.Reaches base hash

/-- Commits are counted for a branch from the commit of a given hash: what is listed are the commits
ahead of it, each once, and what is counted is their number. -/
structure CountsFrom (r : Repository) (name base : String) : Prop where
  since : ∀ commits, r.since name.toList = .ok commits →
    IsListing (commits.map Commit.hash) (r.IsAheadOf base)
  ahead : ∀ cancelled cancelledLater n, r.ahead cancelled cancelledLater name = .ok n →
    ∃ hashes, IsListing hashes (r.IsAheadOf base) ∧ hashes.length = n

theorem IsListing.congr {hashes : List String} {p q : String → Prop} (h : IsListing hashes p)
    (hpq : ∀ hash, p hash ↔ q hash) : IsListing hashes q :=
  ⟨h.1, fun hash => (h.2 hash).trans (hpq hash)⟩

theorem CountsFrom.congr {base base' : String} (h : r.CountsFrom name base)
    (hbase : ∀ hash, r.IsAheadOf base hash ↔ r.IsAheadOf base' hash) :
    r.CountsFrom name base' := by
  refine ⟨fun commits hcommits => (h.since commits hcommits).congr hbase,
    fun cancelled cancelledLater n hn => ?_⟩
  obtain ⟨hashes, hhashes, hlength⟩ := h.ahead cancelled cancelledLater n hn
  exact ⟨hashes, hhashes.congr hbase, hlength⟩

theorem isAheadOf_iff (hhead : r.headHash? = some head) {base hash : String} :
    r.IsAheadOf base hash ↔ r.history.Reaches head hash ∧ ¬r.history.Reaches base hash := by
  simp [IsAheadOf, hhead]

theorem isListing_between (hhead : r.headHash? = some head) {base top : StoredCommit}
    {hash : String} (hbase : r.history.find? hash = some base)
    (htop : r.history.find? head = some top) :
    IsListing ((r.history.between base top).map StoredCommit.hash) (r.IsAheadOf hash) := by
  obtain ⟨hmemBase, rfl⟩ := History.find?_eq_some_iff.mp hbase
  obtain ⟨hmemTop, rfl⟩ := History.find?_eq_some_iff.mp htop
  refine ⟨History.nodup_hash_between hmemTop, fun hash => ?_⟩
  rw [History.mem_hash_between_iff hmemBase hmemTop, isAheadOf_iff hhead]

section Base

variable (hname : IsBranchName name.toList) (hbranch : r.branches.lookup name = some tip)
  (hhead : r.headHash? = some head)
include hname hbranch hhead

theorem countsFrom : r.CountsFrom name (r.baseHash name tip) := by
  refine ⟨fun commits hcommits => ?_, fun _ _ n hn => ?_⟩
  · obtain ⟨base, top, hbase, htop, rfl⟩ := (since_eq_ok_iff hname hbranch hhead).mp hcommits
    rw [List.map_map]
    exact isListing_between hhead hbase htop
  · obtain ⟨-, base, top, hbase, htop, rfl⟩ := (ahead_eq_ok_iff hname hbranch hhead).mp hn
    exact ⟨_, isListing_between hhead hbase htop, List.length_map _⟩

theorem exists_since_iff : (∃ commits, r.since name.toList = .ok commits) ↔
    r.history.has (r.baseHash name tip) ∧ r.history.has head := by
  simp only [since_eq_ok_iff hname hbranch hhead]
  exact History.exists_of_find?_iff fun base top =>
    (r.history.between base top).map StoredCommit.load

theorem exists_ahead_iff : (∃ n, r.ahead false false name = .ok n) ↔
    r.history.has (r.baseHash name tip) ∧ r.history.has head := by
  simp only [ahead_eq_ok_iff hname hbranch hhead, and_self, true_and]
  exact History.exists_of_find?_iff fun base top => (r.history.between base top).length

/-- Two commits from which the same commits are counted are ancestors of the same part of what the
head reaches. -/
theorem countsFrom_iff {hash : String} (hhas : r.history.has (r.baseHash name tip))
    (hhasHead : r.history.has head) :
    r.CountsFrom name hash ↔ ∀ x, r.history.Reaches head x →
      (r.history.Reaches (r.baseHash name tip) x ↔ r.history.Reaches hash x) := by
  have hcounts := countsFrom hname hbranch hhead
  constructor
  · intro hcounts' x hx
    obtain ⟨commits, hcommits⟩ := (exists_since_iff hname hbranch hhead).mpr ⟨hhas, hhasHead⟩
    -- The one list that comes out holds what is ahead of either commit.
    have hiff := ((hcounts.since commits hcommits).2 x).symm.trans
      ((hcounts'.since commits hcommits).2 x)
    rw [isAheadOf_iff hhead, isAheadOf_iff hhead, and_iff_right hx, and_iff_right hx] at hiff
    exact not_iff_not.mp hiff
  · intro hsame
    refine hcounts.congr fun x => ?_
    rw [isAheadOf_iff hhead, isAheadOf_iff hhead]
    exact and_congr_right fun hx => not_congr (hsame x hx)

end Base

/-- Commits are counted for a branch from whatever its bare name stands for as a revision, and both
ways of counting succeed exactly if that commit and the head are there. Without a rival for the name
they count from the branch itself, and with one exactly if nothing that the head reaches tells the
two commits apart. -/
theorem countsFrom_baseHash (hname : IsBranchName name.toList)
    (hbranch : r.branches.lookup name = some tip) (hhead : r.headHash? = some head) :
    r.CountsFrom name (r.baseHash name tip) ∧
      ((∃ commits, r.since name.toList = .ok commits) ↔
        r.history.has (r.baseHash name tip) ∧ r.history.has head) ∧
      ((∃ n, r.ahead false false name = .ok n) ↔
        r.history.has (r.baseHash name tip) ∧ r.history.has head) ∧
      (r.rival? name = none → r.CountsFrom name tip) ∧
      (r.history.has (r.baseHash name tip) → r.history.has head →
        (r.CountsFrom name tip ↔ ∀ hash, r.history.Reaches head hash →
          (r.history.Reaches (r.baseHash name tip) hash ↔ r.history.Reaches tip hash))) := by
  have hcounts := countsFrom hname hbranch hhead
  refine ⟨hcounts, exists_since_iff hname hbranch hhead, exists_ahead_iff hname hbranch hhead,
    fun hnone => ?_, countsFrom_iff hname hbranch hhead⟩
  rwa [baseHash, hnone, Option.getD_none] at hcounts

/-- Four commits in a row. The branch that is checked out is at the last of them, another branch at
the first, and a tag at the third. -/
def row (tag : String) : Repository where
  place := []
  history :=
    { commits :=
        [⟨"d", ["c"], "A <a@x>", 3, [], ""⟩, ⟨"c", ["b"], "A <a@x>", 2, [], ""⟩,
          ⟨"b", ["a"], "A <a@x>", 1, [], ""⟩, ⟨"a", [], "A <a@x>", 0, [], ""⟩]
      grounded := by simp [Grounded] }
  branches := [("main", "d"), ("base", "a")]
  tags := [(tag, "c")]

theorem isBranchName_base : IsBranchName "base".toList :=
  ⟨by decide, by decide, by simp, by decide, by decide, by decide⟩

theorem lookup_row (tag : String) : (row tag).branches.lookup "base" = some "a" := by
  simp [row, Entries.lookup_cons]

theorem headHash?_row (tag : String) : (row tag).headHash? = some "d" := by
  simp [row, headHash?]

/-- With another tag the branch counts, and with a tag of its name that tag. -/
theorem countsFrom_baseHash_row :
    (row "other").CountsFrom "base" "a" ∧ (row "base").CountsFrom "base" "c" ∧
      (row "other").ahead false false "base" = .ok 3 ∧
        (row "base").ahead false false "base" = .ok 1 := by
  have hother : (row "other").rival? "base" = none := by decide +kernel
  have hbase : (row "base").baseHash "base" "a" = "c" := by decide +kernel
  have hbranch :=
    countsFrom_baseHash isBranchName_base (lookup_row "other") (headHash?_row "other")
  have htag := countsFrom_baseHash isBranchName_base (lookup_row "base") (headHash?_row "base")
  exact ⟨hbranch.2.2.2.1 hother, hbase ▸ htag.1, by decide +kernel, by decide +kernel⟩

/-- A tag that has the name of a branch takes the place of the branch: of the three commits that are
ahead of the branch one is counted. -/
theorem not_forall_countsFrom :
    ¬∀ (r : Repository) (name tip : String), IsBranchName name.toList →
      r.branches.lookup name = some tip → r.CountsFrom name tip := by
  intro hall
  have hcounts := hall (row "base") "base" "a" isBranchName_base (lookup_row "base")
  obtain ⟨hashes, ⟨-, hmem⟩, hlength⟩ := hcounts.ahead false false 1 (by decide +kernel)
  have hreaches : ∀ start hash, (row "base").history.has start →
      ((row "base").history.Reaches start hash ↔
        hash ∈ (row "base").history.ancestors start) := fun start hash hstart =>
    (History.mem_ancestors_iff hstart).symm
  have hahead : ∀ hash, hash ∈ (row "base").history.ancestors "d" →
      hash ∉ (row "base").history.ancestors "a" → hash ∈ hashes := by
    intro hash hhead hbase
    rw [hmem, isAheadOf_iff (headHash?_row "base"), hreaches "d" hash (by decide +kernel),
      hreaches "a" hash (by decide +kernel)]
    exact ⟨hhead, hbase⟩
  have hb := hahead "b" (by decide +kernel) (by decide +kernel)
  have hc := hahead "c" (by decide +kernel) (by decide +kernel)
  obtain ⟨x, rfl⟩ := List.length_eq_one_iff.mp hlength
  rw [List.mem_singleton] at hb hc
  exact absurd (hb.trans hc.symm) (by decide)

end Repository

end CommitLint
