import CommitLint.Repository.History
import Mathlib.Data.List.Perm.Subperm
import Mathlib.Data.List.Nodup

/-!
# What can be reached

`History.Reaches` is the relation that both functions on histories compute: `ancestors` collects
exactly the hashes that can be reached (`mem_ancestors_iff`), and `walk` visits exactly the commits
that can, each of them once (`mem_walk_iff`, `nodup_walk`).

That one pass is enough for `ancestors` is due to the order of the store: whatever is found after a
commit was looked at has an older commit for a child, so it is not that commit. For `walk` a
frontier is compared with the store. Seeing a hash only moves commits from those that have not been
seen to the queue (`Frontier.see_perm`), whatever waits in the queue is visited, and so is every
parent of a visited commit that the frontier holds.
-/

namespace CommitLint

open scoped List

namespace History

/-! ### The store -/

theorem grounded_of_append {newer older : List StoredCommit} :
    Grounded (newer ++ older) → Grounded older := by
  induction newer with
  | nil => exact id
  | cons c newer ih => exact fun h => ih h.2.2

theorem hash_ne_of_grounded {older : List StoredCommit} {c : StoredCommit}
    (h : Grounded (c :: older)) {d : StoredCommit} (hd : d ∈ older) : d.hash ≠ c.hash := h.2.1 d hd

/-- A parent is older than its child. -/
theorem exists_of_mem_parents {commits : List StoredCommit} (h : Grounded commits)
    {c : StoredCommit} (hc : c ∈ commits) {p : String} (hp : p ∈ c.parents) :
    ∃ d ∈ commits, d.hash = p := by
  induction commits with
  | nil => cases hc
  | cons b older ih =>
    rcases List.mem_cons.mp hc with rfl | hc
    · obtain ⟨d, hd, heq⟩ := h.1 p hp
      exact ⟨d, List.mem_cons_of_mem _ hd, heq⟩
    · obtain ⟨d, hd, heq⟩ := ih h.2.2 hc
      exact ⟨d, List.mem_cons_of_mem b hd, heq⟩

theorem nodup_hash_of_grounded {commits : List StoredCommit} (h : Grounded commits) :
    (commits.map StoredCommit.hash).Nodup := by
  induction commits with
  | nil => exact List.nodup_nil
  | cons c older ih =>
    rw [List.map_cons, List.nodup_cons]
    refine ⟨fun hmem => ?_, ih h.2.2⟩
    obtain ⟨d, hd, heq⟩ := List.mem_map.mp hmem
    exact hash_ne_of_grounded h hd heq

variable {h : History}

/-- The commits of a history are told apart by their hashes. -/
theorem eq_of_hash_eq {c d : StoredCommit} (hc : c ∈ h.commits) (hd : d ∈ h.commits)
    (heq : c.hash = d.hash) : c = d :=
  List.inj_on_of_nodup_map (nodup_hash_of_grounded h.grounded) hc hd heq

theorem nodup_commits : h.commits.Nodup := (nodup_hash_of_grounded h.grounded).of_map _

theorem find?_eq_some_iff {hash : String} {c : StoredCommit} :
    h.find? hash = some c ↔ c ∈ h.commits ∧ c.hash = hash := by
  rw [find?]
  constructor
  · intro hfind
    exact ⟨List.mem_of_find?_eq_some hfind, by simpa using List.find?_some hfind⟩
  · rintro ⟨hc, rfl⟩
    obtain ⟨d, hfind⟩ : ∃ d, h.commits.find? (·.hash == c.hash) = some d := by
      rw [← Option.isSome_iff_exists, List.find?_isSome]
      exact ⟨c, hc, beq_self_eq_true c.hash⟩
    have heq : d.hash = c.hash := by simpa using List.find?_some hfind
    rw [hfind, eq_of_hash_eq (List.mem_of_find?_eq_some hfind) hc heq]

theorem exists_find?_iff {hash : String} : (∃ c, h.find? hash = some c) ↔ h.has hash = true := by
  simp only [find?_eq_some_iff, has_iff]

/-- What is made of two commits is there exactly if both commits are. -/
theorem exists_of_find?_iff {α : Type} {a b : String} (g : StoredCommit → StoredCommit → α) :
    (∃ x c d, h.find? a = some c ∧ h.find? b = some d ∧ x = g c d) ↔
      h.has a = true ∧ h.has b = true := by
  rw [← exists_find?_iff, ← exists_find?_iff]
  constructor
  · rintro ⟨_, c, d, hc, hd, rfl⟩
    exact ⟨⟨c, hc⟩, d, hd⟩
  · rintro ⟨⟨c, hc⟩, d, hd⟩
    exact ⟨g c d, c, d, hc, hd, rfl⟩

/-- What can be reached is there. -/
theorem Reaches.has {start hash : String} (hreaches : h.Reaches start hash) :
    h.has hash = true := by
  cases hreaches with
  | self hstart => exact hstart
  | parent hc _ hp => exact has_iff.mpr (exists_of_mem_parents h.grounded hc hp)

/-! ### Collecting ancestors -/

theorem subset_foldl_collect (commits : List StoredCommit) (found : List String) :
    found ⊆ commits.foldl collect found := by
  induction commits generalizing found with
  | nil => exact fun _ hmem => hmem
  | cons c commits ih =>
    refine List.Subset.trans (fun x hx => ?_) (ih (collect found c))
    rw [collect]
    split
    · exact List.mem_append_right _ hx
    · exact hx

/-- Whatever is found has been found before or is a parent of a commit that was looked at. -/
theorem mem_of_mem_foldl_collect {commits : List StoredCommit} {found : List String} {x : String}
    (hx : x ∈ commits.foldl collect found) : x ∈ found ∨ ∃ c ∈ commits, x ∈ c.parents := by
  induction commits generalizing found with
  | nil => exact .inl hx
  | cons c commits ih =>
    rcases ih hx with hfound | ⟨d, hd, hp⟩
    · rw [collect] at hfound
      split at hfound
      · rcases List.mem_append.mp hfound with hp | hfound
        · exact .inr ⟨c, List.mem_cons_self, hp⟩
        · exact .inl hfound
      · exact .inl hfound
    · exact .inr ⟨d, List.mem_cons_of_mem c hd, hp⟩

/-- Only what can be reached is found. -/
theorem reaches_of_mem_foldl_collect {start : String} {commits : List StoredCommit}
    (hcommits : commits ⊆ h.commits) {found : List String}
    (hfound : ∀ x ∈ found, h.Reaches start x) :
    ∀ x ∈ commits.foldl collect found, h.Reaches start x := by
  induction commits generalizing found with
  | nil => exact hfound
  | cons c commits ih =>
    obtain ⟨hc, hcommits⟩ := List.cons_subset.mp hcommits
    refine ih hcommits fun x hx => ?_
    rw [collect] at hx
    split at hx
    · rename_i hmem
      rcases List.mem_append.mp hx with hp | hx
      · exact .parent hc (hfound c.hash (List.contains_iff_mem.mp hmem)) hp
      · exact hfound x hx
    · exact hfound x hx

/-- A commit whose hash is found at all is found before it is looked at, so its parents are found
as well. -/
theorem mem_ancestors_of_mem_parents {start : String} {c : StoredCommit} (hc : c ∈ h.commits)
    (hfound : c.hash ∈ h.ancestors start) {p : String} (hp : p ∈ c.parents) :
    p ∈ h.ancestors start := by
  have hgrounded := h.grounded
  rw [ancestors] at hfound ⊢
  obtain ⟨newer, older, hsplit⟩ := List.append_of_mem hc
  rw [hsplit] at hfound hgrounded ⊢
  rw [List.foldl_append] at hfound ⊢
  have holder : Grounded (c :: older) := grounded_of_append hgrounded
  have hbefore : c.hash ∈ newer.foldl collect [start] := by
    rcases mem_of_mem_foldl_collect hfound with hbefore | ⟨d, hd, hmem⟩
    · exact hbefore
    · -- A child of the commit would have to be newer than the commit itself.
      exfalso
      rcases List.mem_cons.mp hd with rfl | hd
      · obtain ⟨e, he, heq⟩ := holder.1 _ hmem
        exact hash_ne_of_grounded holder he heq
      · obtain ⟨e, he, heq⟩ := exists_of_mem_parents holder.2.2 hd hmem
        exact hash_ne_of_grounded holder he heq
  rw [List.foldl_cons]
  refine subset_foldl_collect older _ ?_
  rw [collect, if_pos (List.contains_iff_mem.mpr hbefore)]
  exact List.mem_append_left _ hp

/-- Collecting finds exactly what can be reached. -/
theorem mem_ancestors_iff {start hash : String} (hstart : h.has start = true) :
    hash ∈ h.ancestors start ↔ h.Reaches start hash := by
  constructor
  · refine reaches_of_mem_foldl_collect (List.Subset.refl _) (fun x hx => ?_) hash
    rw [List.mem_singleton.mp hx]
    exact .self hstart
  · intro hreaches
    induction hreaches with
    | self _ => exact subset_foldl_collect h.commits [start] List.mem_cons_self
    | parent hc _ hp ih => exact mem_ancestors_of_mem_parents hc ih hp

/-! ### Frontiers -/

theorem enqueue_perm (c : StoredCommit) (queue : List StoredCommit) :
    List.Perm (enqueue c queue) (c :: queue) := by
  induction queue with
  | nil => exact List.Perm.refl _
  | cons d queue ih =>
    rw [enqueue]
    split
    · exact List.Perm.refl _
    · exact (ih.cons d).trans (List.Perm.swap c d queue)

/-- A frontier holds commits of a history, each of them once. -/
structure Frontier.IsOf (h : History) (f : Frontier) : Prop where
  nodup : (f.queue ++ f.unseen).Nodup
  subset : f.queue ++ f.unseen ⊆ h.commits

variable {f : Frontier}

theorem Frontier.IsOf.of_perm {f' : Frontier} (hf : f.IsOf h)
    (hperm : List.Perm (f'.queue ++ f'.unseen) (f.queue ++ f.unseen)) : f'.IsOf h :=
  ⟨hperm.nodup_iff.mpr hf.nodup, List.Subset.trans hperm.subset hf.subset⟩

/-- Seeing a hash moves the commit of that hash, if it has not been seen, to the queue. -/
theorem Frontier.see_cases (hf : f.IsOf h) (hash : String) :
    (f.see hash = f ∧ ∀ c ∈ f.unseen, c.hash ≠ hash) ∨
      ∃ c, c.hash = hash ∧ List.Perm (f.see hash).queue (c :: f.queue) ∧
        List.Perm f.unseen (c :: (f.see hash).unseen) := by
  rw [see]
  cases hfind : f.unseen.find? (·.hash == hash) with
  | none =>
    refine .inl ⟨rfl, fun c hc heq => ?_⟩
    simpa [heq] using List.find?_eq_none.mp hfind c hc
  | some c =>
    have hmem : c ∈ f.unseen := List.mem_of_find?_eq_some hfind
    have hhash : c.hash = hash := by simpa using List.find?_some hfind
    refine .inr ⟨c, hhash, enqueue_perm c f.queue, ?_⟩
    -- No other commit has the hash, so the one is all that is taken away.
    have hnodup : f.unseen.Nodup := (List.nodup_append.mp hf.nodup).2.1
    have herase : f.unseen.filter (·.hash != hash) = f.unseen.erase c := by
      rw [hnodup.erase_eq_filter]
      refine List.filter_congr fun d hd => ?_
      have hiff : d.hash = hash ↔ d = c := by
        refine ⟨fun heq => ?_, fun heq => heq ▸ hhash⟩
        exact eq_of_hash_eq (hf.subset (List.mem_append_right _ hd))
          (hf.subset (List.mem_append_right _ hmem)) (heq.trans hhash.symm)
      simp only [bne, beq_eq_decide, hiff]
    rw [herase]
    exact List.perm_cons_erase hmem

/-- Seeing a hash loses nothing. -/
theorem Frontier.see_perm (hf : f.IsOf h) (hash : String) :
    (f.see hash).queue ++ (f.see hash).unseen ~ f.queue ++ f.unseen := by
  rcases see_cases hf hash with ⟨heq, -⟩ | ⟨c, -, hqueue, hunseen⟩
  · rw [heq]
  · calc (f.see hash).queue ++ (f.see hash).unseen
      _ ~ c :: f.queue ++ (f.see hash).unseen := hqueue.append_right _
      _ ~ f.queue ++ c :: (f.see hash).unseen := List.perm_middle.symm
      _ ~ f.queue ++ f.unseen := hunseen.symm.append_left _

theorem Frontier.mem_queue_see_iff (hf : f.IsOf h) {hash : String} {c : StoredCommit} :
    c ∈ (f.see hash).queue ↔ c ∈ f.queue ∨ c ∈ f.unseen ∧ c.hash = hash := by
  rcases see_cases hf hash with ⟨heq, hnone⟩ | ⟨d, hhash, hqueue, hunseen⟩
  · rw [heq]
    exact (or_iff_left fun ⟨hc, hc'⟩ => hnone c hc hc').symm
  · have hd : d ∈ f.unseen := hunseen.mem_iff.mpr List.mem_cons_self
    have hiff : c ∈ f.unseen ∧ c.hash = hash ↔ c = d := by
      refine ⟨fun ⟨hc, hc'⟩ => ?_, fun heq => heq ▸ ⟨hd, hhash⟩⟩
      exact eq_of_hash_eq (hf.subset (List.mem_append_right _ hc))
        (hf.subset (List.mem_append_right _ hd)) (hc'.trans hhash.symm)
    rw [hqueue.mem_iff, List.mem_cons, hiff, or_comm]

theorem Frontier.seeAll_perm (hf : f.IsOf h) (hashes : List String) :
    (f.seeAll hashes).queue ++ (f.seeAll hashes).unseen ~ f.queue ++ f.unseen := by
  induction hashes generalizing f with
  | nil => exact List.Perm.refl _
  | cons hash hashes ih =>
    have hsee := see_perm hf hash
    exact (ih (hf.of_perm hsee)).trans hsee

theorem Frontier.mem_queue_seeAll_iff (hf : f.IsOf h) {hashes : List String} {c : StoredCommit} :
    c ∈ (f.seeAll hashes).queue ↔ c ∈ f.queue ∨ c ∈ f.unseen ∧ c.hash ∈ hashes := by
  induction hashes generalizing f with
  | nil => simp [seeAll]
  | cons hash hashes ih =>
    have hsee := see_perm hf hash
    have hmem := hsee.mem_iff (a := c)
    rw [List.mem_append, List.mem_append, mem_queue_see_iff hf] at hmem
    rw [seeAll, List.foldl_cons, ← seeAll, ih (hf.of_perm hsee), mem_queue_see_iff hf,
      List.mem_cons]
    tauto

/-! ### Walking -/

theorem Frontier.IsOf.next {c : StoredCommit} {queue unseen : List StoredCommit}
    (hf : Frontier.IsOf h ⟨c :: queue, unseen⟩) : Frontier.IsOf h ⟨queue, unseen⟩ :=
  ⟨(List.nodup_cons.mp hf.nodup).2, (List.cons_subset.mp hf.subset).2⟩

/-- A walk visits commits of its frontier, each of them once at most. -/
theorem walkFrom_subperm (hf : f.IsOf h) : walkFrom f <+~ f.queue ++ f.unseen := by
  induction f using walkFrom.induct with
  | case1 unseen =>
    rw [walkFrom]
    exact List.nil_subperm
  | case2 c queue unseen ih =>
    have hperm := Frontier.seeAll_perm hf.next c.parents
    rw [walkFrom, List.cons_append, List.subperm_cons]
    exact (ih (hf.next.of_perm hperm)).trans hperm.subperm

/-- Whatever waits is visited. -/
theorem queue_subset_walkFrom (hf : f.IsOf h) : f.queue ⊆ walkFrom f := by
  induction f using walkFrom.induct with
  | case1 unseen => exact List.nil_subset _
  | case2 c queue unseen ih =>
    have hperm := Frontier.seeAll_perm hf.next c.parents
    rw [walkFrom]
    refine List.cons_subset_cons c fun d hd => ih (hf.next.of_perm hperm) ?_
    exact (Frontier.mem_queue_seeAll_iff hf.next).mpr (.inl hd)

/-- So is every parent of a visited commit that the frontier holds. -/
theorem mem_walkFrom_of_mem_parents (hf : f.IsOf h) {c d : StoredCommit} (hc : c ∈ walkFrom f)
    (hd : d ∈ f.queue ++ f.unseen) (hp : d.hash ∈ c.parents) : d ∈ walkFrom f := by
  induction f using walkFrom.induct with
  | case1 unseen =>
    rw [walkFrom] at hc
    cases hc
  | case2 b queue unseen ih =>
    have hperm := Frontier.seeAll_perm hf.next b.parents
    rw [walkFrom] at hc ⊢
    rcases List.mem_cons.mp hd with rfl | hd
    · exact List.mem_cons_self
    refine List.mem_cons_of_mem b ?_
    rcases List.mem_cons.mp hc with rfl | hc
    · refine queue_subset_walkFrom (hf.next.of_perm hperm) ?_
      rw [Frontier.mem_queue_seeAll_iff hf.next]
      exact (List.mem_append.mp hd).imp_right fun hunseen => ⟨hunseen, hp⟩
    · exact ih (hf.next.of_perm hperm) hc (hperm.mem_iff.mpr hd)

/-- Only what can be reached is visited, if only such commits wait. -/
theorem reaches_of_mem_walkFrom {start : String} (hf : f.IsOf h)
    (hqueue : ∀ c ∈ f.queue, h.Reaches start c.hash) :
    ∀ c ∈ walkFrom f, h.Reaches start c.hash := by
  induction f using walkFrom.induct with
  | case1 unseen =>
    rw [walkFrom]
    exact List.forall_mem_nil _
  | case2 c queue unseen ih =>
    have hperm := Frontier.seeAll_perm hf.next c.parents
    obtain ⟨hc, hqueue⟩ := List.forall_mem_cons.mp hqueue
    rw [walkFrom]
    refine List.forall_mem_cons.mpr ⟨hc, ih (hf.next.of_perm hperm) fun d hd => ?_⟩
    rcases (Frontier.mem_queue_seeAll_iff hf.next).mp hd with hd | ⟨-, hp⟩
    · exact hqueue d hd
    · exact .parent (hf.subset List.mem_cons_self) hc hp

variable {tip base : StoredCommit}

/-- The frontier of a whole walk holds the whole history. -/
theorem isOf_of_mem (htip : tip ∈ h.commits) :
    Frontier.IsOf h ⟨[tip], h.commits.filter (·.hash != tip.hash)⟩ := by
  refine ⟨?_, List.cons_subset.mpr ⟨htip, List.filter_subset_self _⟩⟩
  rw [List.singleton_append, List.nodup_cons]
  exact ⟨by simp, nodup_commits.filter _⟩

theorem mem_frontier (htip : tip ∈ h.commits) {c : StoredCommit} (hc : c ∈ h.commits) :
    c ∈ [tip] ++ h.commits.filter (·.hash != tip.hash) := by
  by_cases heq : c.hash = tip.hash
  · exact List.mem_cons.mpr (.inl (eq_of_hash_eq hc htip heq))
  · exact List.mem_cons_of_mem tip (List.mem_filter.mpr ⟨hc, by simpa using heq⟩)

theorem nodup_walk (htip : tip ∈ h.commits) : (h.walk tip).Nodup := by
  obtain ⟨visited, hperm, hsublist⟩ := walkFrom_subperm (isOf_of_mem htip)
  exact hperm.nodup_iff.mp ((isOf_of_mem htip).nodup.sublist hsublist)

/-- A walk visits exactly the commits that can be reached. -/
theorem mem_walk_iff (htip : tip ∈ h.commits) {c : StoredCommit} :
    c ∈ h.walk tip ↔ c ∈ h.commits ∧ h.Reaches tip.hash c.hash := by
  have hf := isOf_of_mem htip
  have hself : h.Reaches tip.hash tip.hash := .self (has_iff.mpr ⟨tip, htip, rfl⟩)
  have hsubset : h.walk tip ⊆ h.commits :=
    List.Subset.trans (walkFrom_subperm hf).subset hf.subset
  refine ⟨fun hc => ⟨hsubset hc, reaches_of_mem_walkFrom hf (by simpa using hself) c hc⟩, ?_⟩
  rintro ⟨hc, hreaches⟩
  have hvisited : ∀ {hash : String}, h.Reaches tip.hash hash →
      ∀ d ∈ h.commits, d.hash = hash → d ∈ h.walk tip := by
    intro hash hreaches
    induction hreaches with
    | self _ =>
      intro d hd heq
      rw [eq_of_hash_eq hd htip heq]
      exact queue_subset_walkFrom hf List.mem_cons_self
    | parent hb _ hp ih =>
      intro d hd heq
      exact mem_walkFrom_of_mem_parents hf (ih _ hb rfl) (mem_frontier htip hd) (heq ▸ hp)
  exact hvisited hreaches c hc rfl

theorem mem_hash_walk_iff (htip : tip ∈ h.commits) {hash : String} :
    hash ∈ (h.walk tip).map StoredCommit.hash ↔ h.Reaches tip.hash hash := by
  rw [List.mem_map]
  constructor
  · rintro ⟨c, hc, rfl⟩
    exact ((mem_walk_iff htip).mp hc).2
  · intro hreaches
    obtain ⟨c, hc, rfl⟩ := has_iff.mp hreaches.has
    exact ⟨c, (mem_walk_iff htip).mpr ⟨hc, hreaches⟩, rfl⟩

theorem nodup_hash_walk (htip : tip ∈ h.commits) :
    ((h.walk tip).map StoredCommit.hash).Nodup :=
  (nodup_walk htip).map_on fun _ hc _ hd heq =>
    eq_of_hash_eq ((mem_walk_iff htip).mp hc).1 ((mem_walk_iff htip).mp hd).1 heq

/-! ### Differences -/

theorem nodup_between (htip : tip ∈ h.commits) : (h.between base tip).Nodup :=
  (nodup_walk htip).filter _

/-- Between two commits lies what can be reached from one and not from the other. -/
theorem mem_between_iff (hbase : base ∈ h.commits) (htip : tip ∈ h.commits) {c : StoredCommit} :
    c ∈ h.between base tip ↔
      c ∈ h.commits ∧ h.Reaches tip.hash c.hash ∧ ¬h.Reaches base.hash c.hash := by
  rw [between, List.mem_filter, mem_walk_iff htip, and_assoc]
  refine and_congr_right fun _ => and_congr_right fun _ => ?_
  rw [Bool.not_eq_true', ← Bool.not_eq_true, List.contains_iff_mem, mem_hash_walk_iff hbase]

theorem nodup_hash_between (htip : tip ∈ h.commits) :
    ((h.between base tip).map StoredCommit.hash).Nodup :=
  (nodup_hash_walk htip).sublist (List.filter_sublist.map _)

theorem mem_hash_between_iff (hbase : base ∈ h.commits) (htip : tip ∈ h.commits) {hash : String} :
    hash ∈ (h.between base tip).map StoredCommit.hash ↔
      h.Reaches tip.hash hash ∧ ¬h.Reaches base.hash hash := by
  rw [List.mem_map]
  constructor
  · rintro ⟨c, hc, rfl⟩
    exact ((mem_between_iff hbase htip).mp hc).2
  · intro hreaches
    obtain ⟨c, hc, rfl⟩ := has_iff.mp hreaches.1.has
    exact ⟨c, (mem_between_iff hbase htip).mpr ⟨hc, hreaches⟩, rfl⟩

/-- Walking and collecting count the same commits. -/
theorem length_between (hbase : base ∈ h.commits) (htip : tip ∈ h.commits) :
    (h.between base tip).length = h.aheadCount tip.hash base.hash := by
  have hhas : ∀ {c}, c ∈ h.commits → h.has c.hash = true := fun hc => has_iff.mpr ⟨_, hc, rfl⟩
  have hperm : h.between base tip ~ h.commits.filter fun c =>
      (h.ancestors tip.hash).contains c.hash && !(h.ancestors base.hash).contains c.hash := by
    refine (List.perm_ext_iff_of_nodup (nodup_between htip) (nodup_commits.filter _)).mpr ?_
    intro c
    rw [mem_between_iff hbase htip, List.mem_filter, Bool.and_eq_true, Bool.not_eq_true',
      ← Bool.not_eq_true, List.contains_iff_mem, List.contains_iff_mem,
      mem_ancestors_iff (hhas htip), mem_ancestors_iff (hhas hbase)]
  rw [hperm.length_eq, aheadCount, List.countP_eq_length_filter]

end History

end CommitLint
