import CommitLint.Proofs.Repository.History
import CommitLint.Repository.Basic
import Mathlib.Tactic.SplitIfs

/-!
# What revisions stand for

Whatever a revision stands for is a commit of the history (`mem_of_resolve?`), so what can be walked
through from there is too. What is loaded of a walk is its beginning, as long as there may be more
(`loadWalk_some`), or all of it (`loadWalk_none`). A range is two revisions (`GoesBetween`), and its
commits are those of the history that lie between the two (`range_eq_ok_iff`).
-/

namespace CommitLint

open Text

/-! ### Chains of steps that may fail -/

theorem bind_eq_ok_iff {ε α β : Type} {x : Except ε α} {f : α → Except ε β} {b : β} :
    x >>= f = .ok b ↔ ∃ a, x = .ok a ∧ f a = .ok b := by
  cases x <;> simp [bind, Except.bind]

theorem pure_eq_ok_iff {ε α : Type} {a b : α} : (pure a : Except ε α) = .ok b ↔ b = a := by
  simp [pure, Except.pure, eq_comm]

theorem map_eq_ok_iff {ε α β : Type} {x : Except ε α} {f : α → β} {b : β} :
    x.map f = .ok b ↔ ∃ a, x = .ok a ∧ b = f a := by
  cases x <;> simp [Except.map, eq_comm]

namespace Repository

variable {r : Repository} {revision : List Char}

/-! ### Revisions -/

theorem mem_of_abbreviated? {digits : List Char} {c : StoredCommit}
    (h : r.abbreviated? digits = some c) : c ∈ r.history.commits := by
  rw [abbreviated?] at h
  split at h
  · split at h
    · rename_i d hfilter
      cases h
      exact List.mem_of_mem_filter (hfilter ▸ List.mem_cons_self)
    · cases h
  · cases h

theorem mem_of_named? {name : List Char} {c : StoredCommit} (h : r.named? name = some c) :
    c ∈ r.history.commits := by
  rw [named?] at h
  split at h
  · rename_i hwhole
    cases h
    split_ifs at hwhole
    exact mem_of_abbreviated? hwhole
  · split at h
    · exact (History.find?_eq_some_iff.mp h).1
    · rcases Option.or_eq_some_iff.mp h with h | ⟨-, h⟩
      · exact mem_of_abbreviated? h
      · obtain ⟨digits, -, h⟩ := Option.bind_eq_some_iff.mp h
        exact mem_of_abbreviated? h

theorem mem_of_start? {start : Revision.Start} {c : StoredCommit} (h : r.start? start = some c) :
    c ∈ r.history.commits := by
  cases start with
  | named name => exact mem_of_named? h
  | present reference =>
    obtain ⟨hash, -, h⟩ := Option.bind_eq_some_iff.mp h
    exact (History.find?_eq_some_iff.mp h).1

theorem mem_of_ancestor? {n : Nat} {c d : StoredCommit} (hc : c ∈ r.history.commits)
    (h : r.ancestor? c n = some d) : d ∈ r.history.commits := by
  induction n generalizing c with
  | zero =>
    cases h
    exact hc
  | succ n ih =>
    obtain ⟨hash, -, h⟩ := Option.bind_eq_some_iff.mp h
    obtain ⟨parent, hparent, h⟩ := Option.bind_eq_some_iff.mp h
    exact ih (History.find?_eq_some_iff.mp hparent).1 h

theorem mem_of_step? {step : Revision.Step} {c d : StoredCommit} (hc : c ∈ r.history.commits)
    (h : r.step? c step = some d) : d ∈ r.history.commits := by
  cases step with
  | ancestor n => exact mem_of_ancestor? hc h
  | parent n =>
    cases n with
    | zero =>
      cases h
      exact hc
    | succ n =>
      obtain ⟨hash, -, h⟩ := Option.bind_eq_some_iff.mp h
      exact (History.find?_eq_some_iff.mp h).1

theorem mem_of_foldlM_step? {steps : List Revision.Step} {c d : StoredCommit}
    (hc : c ∈ r.history.commits) (h : steps.foldlM r.step? c = some d) : d ∈ r.history.commits := by
  induction steps generalizing c with
  | nil =>
    cases h
    exact hc
  | cons step steps ih =>
    obtain ⟨next, hnext, h⟩ := Option.bind_eq_some_iff.mp h
    exact ih (mem_of_step? hc hnext) h

theorem mem_of_resolve? {c : StoredCommit} (h : r.resolve? revision = some c) :
    c ∈ r.history.commits := by
  obtain ⟨v, -, h⟩ := Option.bind_eq_some_iff.mp h
  obtain ⟨start, hstart, h⟩ := Option.bind_eq_some_iff.mp h
  exact mem_of_foldlM_step? (mem_of_start? hstart) h

theorem resolve_eq_ok_iff {c : StoredCommit} :
    r.resolve revision = .ok c ↔ r.resolve? revision = some c := by
  rw [resolve]
  cases r.resolve? revision <;> simp

/-! ### Loading a walk -/

theorem commit_eq_ok_iff {c : Commit} :
    r.commit revision = .ok c ↔ ∃ tip, r.resolve? revision = some tip ∧ c = tip.load := by
  simp only [commit, bind_eq_ok_iff, resolve_eq_ok_iff, pure_eq_ok_iff]

theorem loadWalk_none (loaded : List Commit) (walk : List StoredCommit) :
    loadWalk none loaded walk = loaded ++ walk.map StoredCommit.load := by
  induction walk generalizing loaded with
  | nil => exact (List.append_nil loaded).symm
  | cons c walk ih =>
    rw [loadWalk, if_neg (by simp), ih, List.append_assoc, List.singleton_append, List.map_cons]

/-- Behind the commits loaded so far come as many as are missing to the limit. -/
theorem loadWalk_some (limit : Nat) (loaded : List Commit) (walk : List StoredCommit) :
    loadWalk (some limit) loaded walk =
      loaded ++ (walk.take (limit - loaded.length)).map StoredCommit.load := by
  induction walk generalizing loaded with
  | nil => rw [loadWalk, List.take_nil, List.map_nil, List.append_nil]
  | cons c walk ih =>
    simp only [loadWalk, Option.any_some, decide_eq_true_eq]
    split_ifs with hfull
    · rw [Nat.sub_eq_zero_of_le hfull, List.take_zero, List.map_nil, List.append_nil]
    · have hmissing : limit - loaded.length = limit - (loaded ++ [c.load]).length + 1 := by
        rw [List.length_append, List.length_singleton]
        omega
      rw [ih, hmissing, List.take_succ_cons, List.map_cons, List.append_assoc,
        List.singleton_append]

theorem recent_eq_ok_iff {count : Nat} {commits : List Commit} :
    r.recent revision count = .ok commits ↔ ∃ tip, r.resolve? revision = some tip ∧
      commits = ((r.history.walk tip).take count).map StoredCommit.load := by
  simp only [recent, bind_eq_ok_iff, resolve_eq_ok_iff, pure_eq_ok_iff, loadWalk_some,
    List.nil_append, List.length_nil, Nat.sub_zero]

/-! ### Ranges -/

/-- A written range begins after one commit and ends with another. A tip that is left out is the
head. -/
def GoesBetween (r : Repository) (written : List Char) (base top : StoredCommit) : Prop :=
  ∃ b t, cutAtText ['.', '.'] written = some (b, t) ∧ r.resolve? b = some base ∧
    r.resolve? (if t.isEmpty then Revision.head else t) = some top

theorem range_eq_ok_iff {written : List Char} {commits : List Commit} :
    r.range written = .ok commits ↔ ∃ base top, r.GoesBetween written base top ∧
      commits = (r.history.between base top).map StoredCommit.load := by
  rw [range]
  cases hcut : cutAtText ['.', '.'] written with
  | none =>
    refine iff_of_false (by simp [throw, throwThe, MonadExceptOf.throw]) ?_
    rintro ⟨base, top, ⟨b, t, hcut', -⟩, -⟩
    rw [hcut] at hcut'
    cases hcut'
  | some cut =>
    obtain ⟨b, t⟩ := cut
    simp only [GoesBetween, hcut, Option.some.injEq, Prod.mk.injEq, bind_eq_ok_iff,
      resolve_eq_ok_iff, pure_eq_ok_iff, loadWalk_none, List.nil_append]
    constructor
    · rintro ⟨base, hbase, top, htop, rfl⟩
      exact ⟨base, top, ⟨b, t, ⟨rfl, rfl⟩, hbase, htop⟩, rfl⟩
    · rintro ⟨base, top, ⟨_, _, ⟨rfl, rfl⟩, hbase, htop⟩, rfl⟩
      exact ⟨base, hbase, top, htop, rfl⟩

theorem mem_of_mem_between {base top c : StoredCommit} (htop : top ∈ r.history.commits)
    (h : c ∈ r.history.between base top) : c ∈ r.history.commits :=
  ((History.mem_walk_iff htop).mp (List.mem_of_mem_filter h)).1

theorem GoesBetween.mem {written : List Char} {base top : StoredCommit}
    (h : r.GoesBetween written base top) : top ∈ r.history.commits := by
  obtain ⟨b, t, -, -, htop⟩ := h
  exact mem_of_resolve? htop

end Repository

end CommitLint
