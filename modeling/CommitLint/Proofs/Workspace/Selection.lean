import CommitLint.Proofs.Repository.Revision
import CommitLint.Workspace

/-!
# What is validated

A validation has a source of commits, and an engine that goes with it. `Workspace.Selects` says what
both are for given settings and options, and `Workspace.selects_iff` that the job of a validation is
just this.

A message file gives one commit, which the rules on signatures do not look at. A repository offers
commits (`Repository.Offers`): those of a range, those since a branch, or the one of a revision,
from which a number of commits leads further back. Of these the first ones are taken, as many as the
options say, and after that merges are left out, so there may be fewer.
-/

namespace CommitLint

open Text

namespace ValidateOptions

/-- The revision that options start from, which is the head if they name nothing at all. -/
def revision? (o : ValidateOptions) : Option (List Char) :=
  match o.target with
  | none => some Revision.head
  | some (.revision revision) => some revision.toList
  | _ => none

/-- The beginning of a list that options ask for: all of it, or a number of elements. -/
def cut {α : Type} (o : ValidateOptions) (l : List α) : List α :=
  match o.count with
  | none => l
  | some n => l.take n

theorem take_getD {α : Type} (o : ValidateOptions) (l : List α) :
    l.take (o.count.getD l.length) = o.cut l := by
  rw [cut]
  cases o.count with
  | none => exact List.take_length
  | some n => rfl

theorem map_cut {α β : Type} (o : ValidateOptions) (f : α → β) (l : List α) :
    o.cut (l.map f) = (o.cut l).map f := by
  rw [cut, cut]
  cases o.count with
  | none => rfl
  | some n => exact List.map_take.symm

theorem cut_subset {α : Type} (o : ValidateOptions) (l : List α) : o.cut l ⊆ l := by
  rw [cut]
  cases o.count with
  | none => exact List.Subset.refl l
  | some n => exact List.take_subset n l

theorem cut_cut {α : Type} (o : ValidateOptions) (l : List α) : o.cut (o.cut l) = o.cut l := by
  rw [cut, cut]
  cases o.count with
  | none => rfl
  | some n =>
    dsimp only
    rw [List.take_take, Nat.min_self]

end ValidateOptions

/-! ### Commits of a repository -/

namespace Repository

/-- The commits that options ask for from a tip on: the tip alone, or with a number everything that
can be reached from it. -/
def backFrom (r : Repository) (o : ValidateOptions) (tip : StoredCommit) : List StoredCommit :=
  match o.count with
  | none => [tip]
  | some _ => r.history.walk tip

/-- The commits of a repository that options ask for, in order, before any are left out. -/
inductive Offers (r : Repository) (o : ValidateOptions) : List StoredCommit → Prop
  | range {written : String} {base top : StoredCommit} :
      o.target = some (.range written) → r.GoesBetween written.toList base top →
      r.Offers o (r.history.between base top)
  | since {branch : String} {revision : List Char} {base top : StoredCommit} :
      o.target = some (.since branch) → r.branchRevision? branch.toList = some revision →
      r.GoesBetween (revision ++ "..HEAD".toList) base top →
      r.Offers o (r.history.between base top)
  | back {revision : List Char} {tip : StoredCommit} :
      o.revision? = some revision → r.resolve? revision = some tip → r.Offers o (r.backFrom o tip)

variable {r : Repository} {o : ValidateOptions} {commits : List Commit}

theorem Offers.target_ne {offered : List StoredCommit} (h : r.Offers o offered) (path : String) :
    o.target ≠ some (.messageFile path) := by
  intro htarget
  cases h with
  | range htarget' _ => cases htarget.symm.trans htarget'
  | since htarget' _ _ => cases htarget.symm.trans htarget'
  | back hrevision _ => simp [ValidateOptions.revision?, htarget] at hrevision

theorem Offers.subset {offered : List StoredCommit} (h : r.Offers o offered) :
    offered ⊆ r.history.commits := by
  intro c hc
  cases h with
  | range _ hrange => exact mem_of_mem_between hrange.mem hc
  | since _ _ hrange => exact mem_of_mem_between hrange.mem hc
  | back _ htip =>
    have htip := mem_of_resolve? htip
    rw [backFrom] at hc
    split at hc
    · exact List.mem_singleton.mp hc ▸ htip
    · exact ((History.mem_walk_iff htip).mp hc).1

/-! Each source of commits loads what it offers. -/

theorem range_eq_ok_iff_offers {written : String} (htarget : o.target = some (.range written)) :
    r.range written.toList = .ok commits ↔
      ∃ offered, r.Offers o offered ∧ commits = offered.map StoredCommit.load := by
  rw [range_eq_ok_iff]
  constructor
  · rintro ⟨base, top, hrange, rfl⟩
    exact ⟨_, .range htarget hrange, rfl⟩
  · rintro ⟨offered, hoffered, rfl⟩
    cases hoffered with
    | range htarget' hrange =>
      cases htarget.symm.trans htarget'
      exact ⟨_, _, hrange, rfl⟩
    | since htarget' _ _ => cases htarget.symm.trans htarget'
    | back hrevision _ => simp [ValidateOptions.revision?, htarget] at hrevision

theorem since_eq_ok_iff_offers {branch : String} (htarget : o.target = some (.since branch)) :
    r.since branch.toList = .ok commits ↔
      ∃ offered, r.Offers o offered ∧ commits = offered.map StoredCommit.load := by
  have hsince : r.since branch.toList = .ok commits ↔
      ∃ revision, r.branchRevision? branch.toList = some revision ∧
        r.range (revision ++ "..HEAD".toList) = .ok commits := by
    rw [since]
    cases r.branchRevision? branch.toList <;> simp
  simp only [hsince, range_eq_ok_iff]
  constructor
  · rintro ⟨revision, hrevision, base, top, hrange, rfl⟩
    exact ⟨_, .since htarget hrevision hrange, rfl⟩
  · rintro ⟨offered, hoffered, rfl⟩
    cases hoffered with
    | range htarget' _ => cases htarget.symm.trans htarget'
    | since htarget' hrevision hrange =>
      cases htarget.symm.trans htarget'
      exact ⟨_, hrevision, _, _, hrange, rfl⟩
    | back hrevision _ => simp [ValidateOptions.revision?, htarget] at hrevision

/-- From a revision no more commits are loaded than there should be. -/
theorem walkFrom_eq_ok_iff_offers {revision : List Char} (hrevision : o.revision? = some revision) :
    Workspace.select.walkFrom r o revision = .ok commits ↔
      ∃ offered, r.Offers o offered ∧ commits = (o.cut offered).map StoredCommit.load := by
  have hwalk : Workspace.select.walkFrom r o revision = .ok commits ↔
      ∃ tip, r.resolve? revision = some tip ∧
        commits = (o.cut (r.backFrom o tip)).map StoredCommit.load := by
    -- Without a number there is nothing to cut, and with one the walk is cut before it is loaded.
    simp only [Workspace.select.walkFrom, backFrom, ValidateOptions.cut]
    cases o.count with
    | none =>
      simp only [map_eq_ok_iff, commit_eq_ok_iff]
      constructor
      · rintro ⟨c, ⟨tip, htip, rfl⟩, rfl⟩
        exact ⟨tip, htip, rfl⟩
      · rintro ⟨tip, htip, rfl⟩
        exact ⟨tip.load, ⟨tip, htip, rfl⟩, rfl⟩
    | some n => exact recent_eq_ok_iff
  rw [hwalk]
  constructor
  · rintro ⟨tip, htip, rfl⟩
    exact ⟨_, .back hrevision htip, rfl⟩
  · rintro ⟨offered, hoffered, rfl⟩
    cases hoffered with
    | range htarget _ => simp [ValidateOptions.revision?, htarget] at hrevision
    | since htarget _ _ => simp [ValidateOptions.revision?, htarget] at hrevision
    | back hrevision' htip =>
      cases hrevision.symm.trans hrevision'
      exact ⟨_, htip, rfl⟩

/-- Whatever is loaded is cut to the number of the options, if it has not been yet. -/
theorem cut_eq_ok_iff {source : Except Failure (List Commit)} {f : List StoredCommit → List Commit}
    (hcut : ∀ offered, o.cut (f offered) = (o.cut offered).map StoredCommit.load)
    (hsource : ∀ found, source = .ok found ↔ ∃ offered, r.Offers o offered ∧ found = f offered) :
    (source >>= fun found => pure (found.take (o.count.getD found.length))) = .ok commits ↔
      ∃ offered, r.Offers o offered ∧ commits = (o.cut offered).map StoredCommit.load := by
  simp only [bind_eq_ok_iff, pure_eq_ok_iff, hsource, o.take_getD]
  constructor
  · rintro ⟨_, ⟨offered, hoffered, rfl⟩, rfl⟩
    exact ⟨offered, hoffered, hcut offered⟩
  · rintro ⟨offered, hoffered, rfl⟩
    exact ⟨_, ⟨offered, hoffered, rfl⟩, (hcut offered).symm⟩

/-- What is selected is the beginning of what is offered. -/
theorem select_eq_ok_iff (hmessage : ∀ path, o.target ≠ some (.messageFile path)) :
    Workspace.select r o = .ok commits ↔
      ∃ offered, r.Offers o offered ∧ commits = (o.cut offered).map StoredCommit.load := by
  have hback : ∀ {revision}, o.revision? = some revision →
      ((Workspace.select.walkFrom r o revision >>= fun found =>
          pure (found.take (o.count.getD found.length))) = .ok commits ↔
        ∃ offered, r.Offers o offered ∧ commits = (o.cut offered).map StoredCommit.load) :=
    fun hrevision => cut_eq_ok_iff (fun offered => by rw [o.map_cut, o.cut_cut])
      fun found => walkFrom_eq_ok_iff_offers hrevision
  rw [Workspace.select]
  cases htarget : o.target with
  | none => exact hback (by rw [ValidateOptions.revision?, htarget])
  | some target =>
    cases target with
    | messageFile path => exact absurd htarget (hmessage path)
    | revision revision => exact hback (by rw [ValidateOptions.revision?, htarget])
    | range written =>
      exact cut_eq_ok_iff (o.map_cut _) fun found => range_eq_ok_iff_offers htarget
    | since branch =>
      exact cut_eq_ok_iff (o.map_cut _) fun found => since_eq_ok_iff_offers htarget

end Repository

/-! ### Commits and their engine -/

namespace Workspace

/-- The rules that are active under some settings and options. -/
def activeRules (s : Settings) (o : ValidateOptions) : List Rule :=
  Rule.active (s.rules.enabled ++ o.enable) (s.rules.disabled ++ o.disable)

/-- Whether a commit is validated: merges may be skipped. -/
def keeps (s : Settings) (o : ValidateOptions) (c : StoredCommit) : Bool :=
  !s.repository.skipMergeCommits || o.includeMerges || c.parents.length ≤ 1

/-- Settings that list the rules of some options behind their own. -/
def extended (s : Settings) (o : ValidateOptions) : Settings :=
  { s with rules := ⟨s.rules.enabled ++ o.enable, s.rules.disabled ++ o.disable⟩ }

/-- The engine for the message in a file. The commit has not been made yet, so there is no signature
to look at, and there may be no repository either. -/
def messageEngine (w : Workspace) (s : Settings) (o : ValidateOptions) (d : Deadline) : Engine where
  settings := extended s o
  rules := (activeRules s o).filter fun rule => rule ∉ [.signature, .signedIdentity]
  team :=
    { ahead := w.openRepository.toOption.map (w.count d)
      explain := w.explain }

/-- The engine for commits of a repository. -/
def repositoryEngine (w : Workspace) (s : Settings) (o : ValidateOptions) (r : Repository)
    (d : Deadline) : Engine where
  settings := extended s o
  rules := activeRules s o
  team :=
    { ahead := some (w.count d r)
      verify := some (w.verify d)
      explain := w.explain }

/-- What some settings and options select: commits, and an engine that validates them until a
deadline. -/
inductive Selects (w : Workspace) (s : Settings) (o : ValidateOptions) :
    List Commit → (Deadline → Engine) → Prop
  | message {path text : String} :
      o.target = some (.messageFile path) → w.files.read w.here path = .ok text →
      Selects w s o [.ofMessageFile text] (w.messageEngine s o)
  | stored {r : Repository} {offered : List StoredCommit} :
      w.openRepository = .ok r → r.Offers o offered →
      Selects w s o (((o.cut offered).filter (keeps s o)).map StoredCommit.load)
        (w.repositoryEngine s o r)

variable {w : Workspace} {s : Settings} {o : ValidateOptions}

/-- Merges are known by the number of their parents. -/
theorem checkedCommits_map_load (stored : List StoredCommit) :
    checkedCommits (withRules s o) o (stored.map StoredCommit.load) =
      (stored.filter (keeps s o)).map StoredCommit.load := by
  have hskip : (withRules s o).repository = s.repository := rfl
  rw [checkedCommits, hskip]
  split
  · rename_i h
    obtain ⟨hskip, hinclude⟩ := Bool.and_eq_true_iff.mp h
    have hinclude : o.includeMerges = false := by simpa using hinclude
    rw [List.filter_map]
    refine congrArg _ (List.filter_congr fun c _ => ?_)
    have hmerge : c.load.isMerge = decide (1 < c.parents.length) := rfl
    rw [Function.comp_apply, hmerge, keeps, hskip, hinclude, ← decide_not,
      Bool.not_true, Bool.false_or, Bool.false_or]
    exact decide_eq_decide.mpr Nat.not_lt
  · rename_i h
    refine congrArg _ (List.filter_eq_self.mpr fun c _ => ?_).symm
    rw [keeps]
    cases hskip : s.repository.skipMergeCommits with
    | false => rfl
    | true =>
      cases hinclude : o.includeMerges with
      | true => rfl
      | false => exact absurd (by rw [hskip, hinclude]; rfl) h

/-- There is no merge in a message file. -/
theorem checkedCommits_ofMessageFile (text : String) :
    checkedCommits (withRules s o) o [.ofMessageFile text] = [.ofMessageFile text] := by
  rw [checkedCommits]
  split <;> rfl

theorem filter_signatureRules (rules : List Rule) :
    rules.filter (!signatureRules.contains ·) =
      rules.filter fun rule => rule ∉ [.signature, .signedIdentity] :=
  List.filter_congr fun rule _ => by cases rule <;> rfl

theorem messageJob_of_read {path text : String} (h : w.files.read w.here path = .ok text) :
    w.messageJob (withRules s o) path = .ok ⟨[.ofMessageFile text], w.messageEngine s o⟩ := by
  rw [messageJob, h]
  refine congrArg (Except.ok ∘ Job.mk _) (funext fun d => ?_)
  rw [messageEngine, ← filter_signatureRules]
  cases w.openRepository <;> rfl

theorem messageJob_eq_ok_iff {path : String} {job : Job} :
    w.messageJob (withRules s o) path = .ok job ↔
      ∃ text, w.files.read w.here path = .ok text ∧
        job = ⟨[.ofMessageFile text], w.messageEngine s o⟩ := by
  constructor
  · intro h
    cases hread : w.files.read w.here path with
    | error fault =>
      rw [messageJob, hread] at h
      cases h
    | ok text => exact ⟨text, rfl, Except.ok.inj (h.symm.trans (messageJob_of_read hread))⟩
  · rintro ⟨text, hread, rfl⟩
    exact messageJob_of_read hread

theorem repositoryJob_eq_ok_iff {job : Job} :
    w.repositoryJob (withRules s o) o = .ok job ↔
      ∃ r, w.openRepository = .ok r ∧ ∃ commits, select r o = .ok commits ∧
        job = ⟨commits, w.repositoryEngine s o r⟩ := by
  simp only [repositoryJob, bind_eq_ok_iff, pure_eq_ok_iff]
  rfl

/-- A validation has the job to check what is selected. -/
theorem selects_iff {selected : List Commit} {engine : Deadline → Engine} :
    w.Selects s o selected engine ↔
      ∃ job, w.job (withRules s o) o = .ok job ∧
        checkedCommits (withRules s o) o job.commits = selected ∧ job.engine = engine := by
  have hmessage : ∀ {path}, o.target = some (.messageFile path) →
      w.job (withRules s o) o = w.messageJob (withRules s o) path := fun htarget => by
    rw [job, htarget]
  have hstored : (∀ path, o.target ≠ some (.messageFile path)) →
      w.job (withRules s o) o = w.repositoryJob (withRules s o) o := fun htarget => by
    rw [job]
    split
    · rename_i path hpath
      exact absurd hpath (htarget path)
    · rfl
  constructor
  · intro h
    cases h with
    | message htarget hread =>
      exact ⟨_, (hmessage htarget).trans (messageJob_eq_ok_iff.mpr ⟨_, hread, rfl⟩),
        checkedCommits_ofMessageFile _, rfl⟩
    | stored hopen hoffers =>
      have hselect := (Repository.select_eq_ok_iff hoffers.target_ne).mpr ⟨_, hoffers, rfl⟩
      exact ⟨_, (hstored hoffers.target_ne).trans
        (repositoryJob_eq_ok_iff.mpr ⟨_, hopen, _, hselect, rfl⟩), checkedCommits_map_load _, rfl⟩
  · rintro ⟨job, hjob, rfl, rfl⟩
    by_cases htarget : ∃ path, o.target = some (.messageFile path)
    · obtain ⟨path, htarget⟩ := htarget
      obtain ⟨text, hread, rfl⟩ := messageJob_eq_ok_iff.mp ((hmessage htarget).symm.trans hjob)
      rw [checkedCommits_ofMessageFile]
      exact .message htarget hread
    · have hnot : ∀ path, o.target ≠ some (.messageFile path) := fun path h => htarget ⟨path, h⟩
      obtain ⟨r, hopen, commits, hselect, rfl⟩ :=
        repositoryJob_eq_ok_iff.mp ((hstored hnot).symm.trans hjob)
      obtain ⟨offered, hoffers, rfl⟩ := (Repository.select_eq_ok_iff hnot).mp hselect
      rw [checkedCommits_map_load]
      exact .stored hopen hoffers

/-- Settings and options leave no choice. -/
theorem Selects.unique {selected selected' : List Commit} {engine engine' : Deadline → Engine}
    (h : w.Selects s o selected engine) (h' : w.Selects s o selected' engine') :
    selected' = selected ∧ engine' = engine := by
  obtain ⟨job, hjob, rfl, rfl⟩ := selects_iff.mp h
  obtain ⟨job', hjob', rfl, rfl⟩ := selects_iff.mp h'
  cases hjob.symm.trans hjob'
  exact ⟨rfl, rfl⟩

end Workspace

end CommitLint
