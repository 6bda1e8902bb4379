import CommitLint.Proofs.Repository.Revision
import Mathlib.Data.Set.Card

/-!
# What is loaded

A repository loads commits in four ways (`Repository.Loads`), and whatever it loads is one of its
stored commits (`Loads.exists_stored`): it has the hash of that commit, and is a merge exactly if
that commit has more than one parent.

The last commits from a revision are the beginning of a walk. The walk has each commit that can be
reached once, so the number of commits that are loaded is known, and asking for more of them only
adds to the end (`Repository.recent_exact`).
-/

namespace CommitLint

namespace History

variable {h : History} {tip : StoredCommit}

/-- A walk is as long as there are commits to be reached. -/
theorem ncard_reaches (htip : tip ∈ h.commits) :
    {hash | h.Reaches tip.hash hash}.ncard = (h.walk tip).length := by
  have hset : {hash | h.Reaches tip.hash hash} =
      ((h.walk tip).map StoredCommit.hash).toFinset := by
    ext hash
    rw [Set.mem_ofPred_eq, Finset.mem_coe, List.mem_toFinset, mem_hash_walk_iff htip]
  rw [hset, Set.ncard_coe_finset, List.toFinset_card_of_nodup (nodup_hash_walk htip),
    List.length_map]

end History

namespace Repository

variable {r : Repository} {revision : List Char} {tip : StoredCommit}

/-- The commits that a repository loads: the one of a revision, the last ones from a revision, those
of a range, and those since a branch. -/
inductive Loads (r : Repository) (c : Commit) : Prop
  | commit {revision : List Char} : r.commit revision = .ok c → r.Loads c
  | recent {revision : List Char} {count : Nat} {commits : List Commit} :
      r.recent revision count = .ok commits → c ∈ commits → r.Loads c
  | range {written : List Char} {commits : List Commit} :
      r.range written = .ok commits → c ∈ commits → r.Loads c
  | since {branch : List Char} {commits : List Commit} :
      r.since branch = .ok commits → c ∈ commits → r.Loads c

theorem exists_range_of_since {branch : List Char} {commits : List Commit}
    (h : r.since branch = .ok commits) : ∃ written, r.range written = .ok commits := by
  rw [since] at h
  split at h
  · exact ⟨_, h⟩
  · cases h

theorem exists_stored_of_range {written : List Char} {commits : List Commit}
    (h : r.range written = .ok commits) {c : Commit} (hc : c ∈ commits) :
    ∃ stored ∈ r.history.commits, c = stored.load := by
  obtain ⟨base, top, hbetween, rfl⟩ := range_eq_ok_iff.mp h
  obtain ⟨stored, hstored, rfl⟩ := List.mem_map.mp hc
  exact ⟨stored, mem_of_mem_between hbetween.mem hstored, rfl⟩

/-- Whatever is loaded has been stored. -/
theorem Loads.exists_stored {c : Commit} (h : r.Loads c) :
    ∃ stored ∈ r.history.commits, c = stored.load := by
  cases h with
  | commit h =>
    obtain ⟨tip, htip, rfl⟩ := commit_eq_ok_iff.mp h
    exact ⟨tip, mem_of_resolve? htip, rfl⟩
  | recent h hc =>
    obtain ⟨tip, htip, rfl⟩ := recent_eq_ok_iff.mp h
    obtain ⟨stored, hstored, rfl⟩ := List.mem_map.mp hc
    have hwalk : stored ∈ r.history.walk tip := List.mem_of_mem_take hstored
    exact ⟨stored, ((History.mem_walk_iff (mem_of_resolve? htip)).mp hwalk).1, rfl⟩
  | range h hc => exact exists_stored_of_range h hc
  | since h hc =>
    obtain ⟨written, hwritten⟩ := exists_range_of_since h
    exact exists_stored_of_range hwritten hc

/-! ### Hashes -/

theorem utf8Size_of_isHexDigit {c : Char} (h : isHexDigit c) : c.utf8Size = 1 := by
  have hle : ∀ last : Char, last.val ≤ 127 → c ≤ last → c.utf8Size = 1 := fun last hlast hc =>
    Char.utf8Size_eq_one_iff.mpr (UInt32.le_trans hc hlast)
  simp only [isHexDigit, Char.isDigit, Bool.or_eq_true, Bool.and_eq_true, decide_eq_true_eq] at h
  rcases h with (⟨-, h⟩ | ⟨-, h⟩) | ⟨-, h⟩
  · exact hle '9' (by decide) h
  · exact hle 'f' (by decide) h
  · exact hle 'F' (by decide) h

/-- Whether the hashes of all commits are written in hexadecimal digits. -/
def HasHexHashes (r : Repository) : Prop :=
  ∀ c ∈ r.history.commits, ∀ d ∈ c.hash.toList, isHexDigit d

/-- The characters of a hash that is loaded take one byte each. -/
theorem Loads.utf8Size_of_mem_hash {c : Commit} (h : r.Loads c) (hhashes : r.HasHexHashes) :
    ∀ d ∈ c.hash.toList, d.utf8Size = 1 := by
  obtain ⟨stored, hstored, rfl⟩ := h.exists_stored
  exact fun d hd => utf8Size_of_isHexDigit (hhashes stored hstored d hd)

/-! ### The last commits -/

/-- The commits of a walk, as they are loaded. -/
theorem map_hash_load (stored : List StoredCommit) :
    (stored.map StoredCommit.load).map Commit.hash = stored.map StoredCommit.hash := by
  rw [List.map_map]
  rfl

/-- The last commits from a revision that can be resolved are as many as asked for, or all that can
be reached if there are fewer. They can all be reached, there is none twice, and whoever asks for
more gets the same ones first. Whatever a repository loads, here or otherwise, is a stored commit,
and a merge exactly if that one has more than one parent. -/
theorem recent_exact (htip : r.resolve? revision = some tip) {n m : Nat} (hle : n ≤ m) :
    ∃ loaded more, r.recent revision n = .ok loaded ∧ r.recent revision m = .ok more ∧
      loaded <+: more ∧
      loaded.length = min n {hash | r.history.Reaches tip.hash hash}.ncard ∧
      (loaded.map Commit.hash).Nodup ∧
      (∀ c ∈ loaded, r.history.Reaches tip.hash c.hash) ∧
      ({hash | r.history.Reaches tip.hash hash}.ncard ≤ n →
        ∀ hash, r.history.Reaches tip.hash hash → ∃ c ∈ loaded, c.hash = hash) ∧
      ∀ c, r.Loads c → ∃ stored ∈ r.history.commits, c.hash = stored.hash ∧
        (c.isMerge = true ↔ 1 < stored.parents.length) := by
  have hmem := mem_of_resolve? htip
  have hwalk : ∀ hash, hash ∈ (r.history.walk tip).map StoredCommit.hash ↔
      r.history.Reaches tip.hash hash := fun hash => History.mem_hash_walk_iff hmem
  refine ⟨_, _, recent_eq_ok_iff.mpr ⟨tip, htip, rfl⟩, recent_eq_ok_iff.mpr ⟨tip, htip, rfl⟩,
    ?begins, ?length, ?nodup, ?sound, ?complete, ?loads⟩
  case begins => exact (List.take_prefix_take_left hle).map StoredCommit.load
  case length => rw [List.length_map, List.length_take, History.ncard_reaches hmem]
  case nodup =>
    rw [map_hash_load]
    exact (History.nodup_hash_walk hmem).sublist ((List.take_sublist n _).map _)
  case sound =>
    refine List.forall_mem_map.mpr fun stored hstored => ?_
    exact (hwalk _).mp (List.mem_map_of_mem (List.mem_of_mem_take hstored))
  case complete =>
    intro hn hash hreaches
    rw [History.ncard_reaches hmem] at hn
    obtain ⟨stored, hstored, rfl⟩ := List.mem_map.mp ((hwalk hash).mpr hreaches)
    rw [List.take_of_length_le hn]
    exact ⟨stored.load, List.mem_map_of_mem hstored, rfl⟩
  case loads =>
    intro c hc
    obtain ⟨stored, hstored, rfl⟩ := hc.exists_stored
    exact ⟨stored, hstored, rfl, decide_eq_true_iff⟩

/-- Three of four commits, one of which can be reached from the merge on two ways. -/
theorem recent_exact_merge :
    let merge : StoredCommit := ⟨"d", ["c", "b"], "A <a@x>", 3, [], ""⟩
    let r : Repository :=
      { place := []
        history :=
          { commits := [merge, ⟨"c", ["a"], "A <a@x>", 2, [], ""⟩,
              ⟨"b", ["a"], "A <a@x>", 1, [], ""⟩, ⟨"a", [], "A <a@x>", 0, [], ""⟩]
            grounded := by simp [Grounded, merge] }
        branches := [("main", "d")] }
    r.resolve? "main".toList = some merge ∧ {hash | r.history.Reaches "d" hash}.ncard = 4 ∧
      ∃ loaded more, r.recent "main".toList 3 = .ok loaded ∧ r.recent "main".toList 9 = .ok more ∧
        loaded <+: more ∧ loaded.length = 3 := by
  intro merge r
  have htip : r.resolve? "main".toList = some merge := by decide +kernel
  have hcount : {hash | r.history.Reaches "d" hash}.ncard = 4 := by
    have hmem : merge ∈ r.history.commits := List.mem_cons_self
    rw [History.ncard_reaches hmem]
    decide +kernel
  obtain ⟨loaded, more, hloaded, hmore, hbegins, hlength, -⟩ :=
    recent_exact htip (by decide : 3 ≤ 9)
  exact ⟨htip, hcount, loaded, more, hloaded, hmore, hbegins, hlength.trans (hcount ▸ rfl)⟩

end Repository

end CommitLint
