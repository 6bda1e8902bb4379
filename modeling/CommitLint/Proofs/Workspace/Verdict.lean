import CommitLint.Proofs.Engine.Slicing
import CommitLint.Proofs.Engine.Stateless
import CommitLint.Proofs.Repository.Loading
import CommitLint.Proofs.Summary
import CommitLint.Proofs.Workspace.Selection
import Mathlib

/-!
# The verdict of a validation

Validating commits that can be loaded ends in success, or in a failure that counts the commits some
rule finds something about (`Workspace.run?_validate`). One session goes through the whole run, and
the clock goes on while it does. But neither the repository nor the verifier remembers what it was
asked, so as long as the deadline is ahead each commit gets the result that it has on its own; and
once it has passed, the two rules that ask may find that work was cancelled, and nothing else
changes (`Workspace.Selects.followsUntil`).

The verdict does not depend on the report, because there is one in every format: hashes are
hexadecimal, and so every commit has a label, and a name in a log. The deadline is another matter. A
limit that the settings admit may be too long for the clock, and then nothing comes of the run
(`Workspace.not_forall_run?_validate`).
-/

namespace CommitLint

open Text

/-! ### Deadlines -/

namespace Settings.Repository

variable {settings : Settings.Repository} {now : Nat}

/-- Whether the clock has a reading for the deadline of a run that starts now. -/
def FitsClock (settings : Settings.Repository) (now : Nat) : Prop :=
  settings.timeoutSecs = 0 ∨ now + settings.timeoutSecs ≤ lastSecond

theorem FitsClock.exists_deadline? (h : settings.FitsClock now) :
    ∃ d, settings.deadline? now = some d := by
  rw [deadline?]
  split
  · exact ⟨_, rfl⟩
  · rename_i hlimit
    exact ⟨_, if_pos (h.resolve_left hlimit)⟩

theorem deadline?_eq_none (h : ¬settings.FitsClock now) : settings.deadline? now = none := by
  obtain ⟨hlimit, hlate⟩ := not_or.mp h
  rw [deadline?, if_neg hlimit, if_neg hlate]

end Settings.Repository

/-! ### Labels -/

namespace Workspace

/-- Whether the hashes of all commits are written in hexadecimal digits. -/
def HasHexHashes (w : Workspace) : Prop :=
  ∀ r ∈ w.repository, ∀ c ∈ r.history.commits, ∀ d ∈ c.hash.toList, Repository.isHexDigit d

variable {w : Workspace} {s : Settings} {o : ValidateOptions} {selected : List Commit}
  {engine : Deadline → Engine}

theorem repository_of_openRepository {r : Repository} (h : w.openRepository = .ok r) :
    w.repository = some r := by
  rw [openRepository] at h
  cases hr : w.repository with
  | none => rw [hr] at h; cases h
  | some r' =>
    rw [hr, Repository.discover] at h
    split at h
    · split at h
      · cases h
      · cases h
        rfl
    · cases h

/-- Every commit that is selected can be referred to. -/
theorem Selects.label?_isSome (h : w.Selects s o selected engine) (hhashes : w.HasHexHashes) :
    ∀ c ∈ selected, (Report.label? c).isSome := by
  cases h with
  | message _ _ => exact List.forall_mem_singleton.mpr rfl
  | @stored r offered hopen hoffers =>
    refine List.forall_mem_map.mpr fun c hc => Report.label?_isSome fun d hd => ?_
    have hc : c ∈ r.history.commits :=
      hoffers.subset (o.cut_subset offered (List.mem_of_mem_filter hc))
    exact Repository.utf8Size_of_isHexDigit
      (hhashes r (repository_of_openRepository hopen) c hc d hd)

/-! ### How results are reported -/

/-- Being verbose is no matter of where commits come from. -/
theorem offers_withVerbose {r : Repository} {offered : List StoredCommit}
    (h : r.Offers o offered) (verbose : Bool) :
    r.Offers { o with verbose := verbose } offered := by
  cases h with
  | range htarget hrange => exact .range htarget hrange
  | since htarget hrevision hrange => exact .since htarget hrevision hrange
  | back hrevision htip => exact .back hrevision htip

/-- How results are reported makes no difference to what is selected. -/
theorem Selects.withOutput (h : w.Selects s o selected engine) (output : Settings.Output)
    (verbose : Bool) :
    w.Selects { s with output := output } { o with verbose := verbose } selected
      fun d => (engine d).withOutput output := by
  cases h with
  | message htarget hread => exact .message htarget hread
  | stored hopen hoffers => exact .stored hopen (offers_withVerbose hoffers verbose)

/-! ### One run -/

/-- Some look at the clock in a run comes after a deadline. -/
def GetsLate (w : Workspace) (d : Deadline) : Prop := ∃ m, w.isLate d m

/-- The time that a run may take is over at some look at the clock. -/
def RunsOver (w : Workspace) (settings : Settings.Repository) : Prop :=
  0 < settings.timeoutSecs ∧ ∃ m, w.clock .start + settings.timeoutSecs ≤ w.clock m

theorem getsLate_iff {settings : Settings.Repository} {d : Deadline}
    (h : settings.deadline? (w.clock .start) = some d) : w.GetsLate d ↔ w.RunsOver settings := by
  rw [Settings.Repository.deadline?] at h
  split_ifs at h with hzero hfits
  · cases h
    exact iff_of_false (fun ⟨_, hm⟩ => Bool.false_ne_true hm) fun hover => hover.1.ne' hzero
  · cases h
    rw [RunsOver, and_iff_right (Nat.pos_of_ne_zero hzero)]
    exact exists_congr fun m => decide_eq_true_iff

/-- A count is the one without a deadline, or it was cancelled since it is late. -/
theorem count_eq_or (w : Workspace) (d : Deadline) (r : Repository) (asked asked' : Nat)
    (reference : String) :
    w.count d r asked reference = w.count .never r asked' reference ∨
      w.GetsLate d ∧ w.count d r asked reference = .error .cancelled := by
  have hnever : w.count .never r asked' reference = r.ahead false false reference := rfl
  rw [hnever, count]
  cases hcounting : w.isLate d (.counting asked) with
  | true => exact .inr ⟨⟨_, hcounting⟩, if_pos rfl⟩
  | false =>
    cases hwalking : w.isLate d (.walking asked) with
    | false => exact .inl rfl
    | true =>
      -- The second look comes only once both ends of the count are found.
      simp only [Repository.ahead, Bool.false_eq_true, if_false, if_true]
      split
      · exact .inl rfl
      · split
        · exact .inl rfl
        · split
          · exact .inl rfl
          · exact .inr ⟨⟨_, hwalking⟩, rfl⟩

/-- A verification is the one without a deadline, or it was cancelled since it is late. -/
theorem verify_eq_or (w : Workspace) (d : Deadline) (asked asked' : Nat) (c : Commit) :
    w.verify d asked c = w.verify .never asked' c ∨
      w.GetsLate d ∧ w.verify d asked c = .error .cancelled := by
  have hnever : w.verify .never asked' c = Verification.verify false (w.git c.hash) c := rfl
  rw [hnever, verify]
  cases hlate : w.isLate d (.verifying asked) with
  | true => exact .inr ⟨⟨_, hlate⟩, if_pos rfl⟩
  | false => exact .inl rfl

/-- Neither the repository nor the verifier remembers what it was asked, but they answer no more
after the deadline. -/
theorem Selects.followsUntil (h : w.Selects s o selected engine) (d : Deadline) :
    (engine d).team.FollowsUntil (w.GetsLate d) (engine .never).team := by
  cases h with
  | message _ _ =>
    refine ⟨?_, .none, rfl⟩
    rw [messageEngine, messageEngine]
    cases w.openRepository with
    | error failure => exact .none
    | ok r => exact .some (w.count_eq_or d r)
  | stored _ _ => exact ⟨.some (w.count_eq_or d _), .some (w.verify_eq_or d), rfl⟩

/-- A deadline matters to those who are asked only. -/
theorem Selects.engine_eq (h : w.Selects s o selected engine) (d : Deadline) :
    engine d = { engine .never with team := (engine d).team } := by
  cases h <;> rfl

/-- Without a deadline each commit has the result that it has alone. -/
theorem Selects.validate_never (h : w.Selects s o selected engine) (c : Commit) :
    ((engine .never).validate c {}).1 = (engine .never).alone c := by
  have hlate : ¬w.GetsLate .never := fun ⟨_, hm⟩ => Bool.false_ne_true hm
  exact ((engine .never).judgesUntil_validate (h.followsUntil .never) rfl c).eq_alone hlate

/-- What comes of validating some commits until a deadline. -/
def resultsUntil (engine : Deadline → Engine) (selected : List Commit) (d : Deadline) :
    List Result :=
  ((engine d).validateAll selected {}).1

theorem Selects.judgesUntil (h : w.Selects s o selected engine) (d : Deadline) :
    List.Forall₂ ((engine .never).JudgesUntil (w.GetsLate d)) selected
      (resultsUntil engine selected d) := by
  rw [resultsUntil, h.engine_eq d]
  exact (engine .never).judgesUntil_validateAll (h.followsUntil d) rfl selected

/-- The verdict on some results: a failure counts those with findings, and all of them. -/
def verdictOn (results : List Result) : Except Failure Unit :=
  let failed := results.countP fun r => !r.findings.isEmpty
  if failed = 0 then .ok () else .error (.commitsFailed failed results.length)

theorem verdict_ofResults (results : List Result) :
    verdict (.ofResults results) = verdictOn results := by
  have hfailed : (Summary.ofResults results).failed =
      results.countP fun r => !r.findings.isEmpty := Summary.failed_ofResults results
  have htotal : (Summary.ofResults results).total = results.length := rfl
  rw [verdict, Summary.allPassed, hfailed, htotal, verdictOn]
  simp only [beq_iff_eq]

/-- Where there is a deadline, the results until then are reported. -/
theorem Selects.exists_validate? (h : w.Selects s o selected engine) (hhashes : w.HasHexHashes)
    {d : Deadline} (hdeadline : s.repository.deadline? (w.clock .start) = some d)
    (line : CommandLine) :
    ∃ output,
      Report.render? (outputSettings s line o) (.ofResults (resultsUntil engine selected d)) =
        some output ∧
      w.validate? s line o =
        some ⟨output, w.files, verdictOn (resultsUntil engine selected d)⟩ := by
  have hnames := h.label?_isSome hhashes
  have hcommits : (resultsUntil engine selected d).map Result.commit = selected :=
    (engine d).commit_validateAll selected {}
  have hlabels : ∀ r ∈ resultsUntil engine selected d, (Report.label? r.commit).isSome :=
    List.forall_mem_map.mp (hcommits.symm ▸ hnames)
  have hrendered := (Report.render?_isSome_iff (outputSettings s line o)
    (.ofResults (resultsUntil engine selected d))).mpr (.inr hlabels)
  obtain ⟨output, houtput⟩ := Option.isSome_iff_exists.mp hrendered
  refine ⟨output, houtput, ?_⟩
  obtain ⟨job, hjob, rfl, rfl⟩ := selects_iff.mp h
  obtain ⟨log, hrun⟩ :=
    Engine.exists_validateAll?_eq hnames (job.engine d) (line.debug || w.logs) {}
  -- Only the lists of rules are changed by the options, not the deadline and not the report.
  have hdeadline : (withRules s o).repository.deadline? (w.clock .start) = some d := hdeadline
  have houtput : Report.render? (outputSettings (withRules s o) line o) _ = _ := houtput
  rw [validate?, ← verdict_ofResults]
  simp only [hjob, hdeadline, hrun, Option.bind_eq_bind, Option.bind_some]
  rw [← resultsUntil, houtput]
  rfl

theorem Selects.validate?_eq_none (h : w.Selects s o selected engine)
    (hfits : ¬s.repository.FitsClock (w.clock .start)) (line : CommandLine) :
    w.validate? s line o = none := by
  obtain ⟨job, hjob, -⟩ := selects_iff.mp h
  have hdeadline : (withRules s o).repository.deadline? (w.clock .start) = none :=
    Settings.Repository.deadline?_eq_none hfits
  rw [validate?]
  simp only [hjob, hdeadline]
  rfl

/-- How results are reported makes no difference to them. -/
theorem resultsUntil_withOutput (engine : Deadline → Engine) (output : Settings.Output)
    (selected : List Commit) (d : Deadline) :
    resultsUntil (fun d => (engine d).withOutput output) selected d =
      resultsUntil engine selected d := by
  rw [resultsUntil, resultsUntil, Engine.validateAll_withOutput]

theorem run?_eq_validate? {line : CommandLine} (hsettings : w.settings line = .ok s)
    (hcommand : line.effectiveCommand = .validate o) : w.run? line = w.validate? s line o := by
  rw [run?, hsettings]
  dsimp only
  rw [hcommand]

/-- Validating commits that can be loaded comes to nothing if the clock has no reading for the
deadline. Otherwise it ends in a failure exactly if a rule finds something about one of the commits
that are selected. The failure tells how many were selected and how many were rejected, and nothing
depends on how results are reported. Each commit is reported as if it were the only one, unless the
time for the run is over at some look at the clock: then the two rules that ask may find that work
was cancelled, and nothing else. -/
theorem run?_validate {line : CommandLine} {job : Job} (hhashes : w.HasHexHashes)
    (hsettings : w.settings line = .ok s) (hcommand : line.effectiveCommand = .validate o)
    (hjob : w.job (withRules s o) o = .ok job) :
    ∃ selected engine, w.Selects s o selected engine ∧
      (¬s.repository.FitsClock (w.clock .start) → w.run? line = none) ∧
      (s.repository.FitsClock (w.clock .start) → ∃ deadline results text,
        s.repository.deadline? (w.clock .start) = some deadline ∧
        results = ((engine deadline).validateAll selected {}).1 ∧
        List.Forall₂ ((engine .never).JudgesUntil (w.RunsOver s.repository)) selected results ∧
        (¬w.RunsOver s.repository →
          results = selected.map fun c => ((engine .never).validate c {}).1) ∧
        Report.render? (outputSettings s line o) (.ofResults results) = some text ∧
        let failed := results.countP fun r => !r.findings.isEmpty
        let verdict : Except Failure Unit :=
          if failed = 0 then .ok () else .error (.commitsFailed failed selected.length)
        w.run? line = some ⟨text, w.files, verdict⟩ ∧
        ∀ (output : Settings.Output) (verbose : Bool) (line' : CommandLine),
          (w.validate? { s with output := output } line' { o with verbose := verbose }).map
            Transcript.result = some verdict) := by
  obtain ⟨selected, engine, hselects⟩ :
      ∃ selected engine, w.Selects s o selected engine :=
    ⟨_, _, selects_iff.mpr ⟨job, hjob, rfl, rfl⟩⟩
  have hrun : w.run? line = w.validate? s line o := run?_eq_validate? hsettings hcommand
  refine ⟨selected, engine, hselects, fun hfits => ?_, fun hfits => ?_⟩
  · exact hrun.trans (hselects.validate?_eq_none hfits line)
  obtain ⟨deadline, hdeadline⟩ := hfits.exists_deadline?
  obtain ⟨text, htext, hends⟩ := hselects.exists_validate? hhashes hdeadline line
  have hjudges := hselects.judgesUntil deadline
  rw [getsLate_iff hdeadline] at hjudges
  have hlength : (resultsUntil engine selected deadline).length = selected.length :=
    hjudges.length_eq.symm
  refine ⟨deadline, resultsUntil engine selected deadline, text, hdeadline, rfl, hjudges,
    fun hearly => ?_, htext, ?_⟩
  · rw [Engine.eq_map_alone hjudges hearly]
    exact List.map_congr_left fun c _ => (hselects.validate_never c).symm
  · dsimp only
    rw [← hlength, hrun]
    refine ⟨hends, fun output verbose line' => ?_⟩
    -- Another report changes the engine in its settings for the report only.
    obtain ⟨_, -, hends'⟩ :=
      (hselects.withOutput output verbose).exists_validate? hhashes hdeadline line'
    rw [hends', resultsUntil_withOutput]
    rfl

/-- A repository with a merge on top of two commits, which are not on another branch. -/
def forked : Repository where
  place := []
  history :=
    { commits :=
        [⟨"d", ["c", "b"], "A <a@x>", 3, encode "Merge".toList, ""⟩,
          ⟨"c", ["a"], "A <a@x>", 2, encode "feat: add it".toList, ""⟩,
          ⟨"b", ["a"], "A <a@x>", 1, encode "Add it".toList, ""⟩,
          ⟨"a", [], "A <a@x>", 0, [], ""⟩]
      grounded := by simp [Grounded] }
  branches := [("main", "d"), ("base", "a")]

/-- Three commits are asked for, the merge among them is left out, and the others are not signed.
The clock goes on, but not beyond the time for the run. -/
theorem run?_validate_forked :
    let w : Workspace :=
      { files := {}
        here := []
        userFile := ["user"]
        repository := some forked
        clock := fun m => if m = .start then 1 else 30 }
    let line : CommandLine :=
      { command := some (.validate { target := some (.since "base"), count := some 3 }) }
    ∃ text, w.run? line = some ⟨text, {}, .error (.commitsFailed 2 2)⟩ := by
  intro w line
  let o : ValidateOptions := { target := some (.since "base"), count := some 3 }
  let commits : List Commit :=
    [⟨"Merge", "d", "A", "a@x", some ⟨3, 0⟩, "", true⟩,
      ⟨"feat: add it", "c", "A", "a@x", some ⟨2, 0⟩, "", false⟩,
      ⟨"Add it", "b", "A", "a@x", some ⟨1, 0⟩, "", false⟩]
  have hhex : forked.history.commits.all (·.hash.toList.all Repository.isHexDigit) := by
    decide +kernel
  have hhashes : w.HasHexHashes := by
    intro r hr c hc
    cases Option.some.inj hr
    exact List.all_eq_true.mp (List.all_eq_true.mp hhex c hc)
  have hsettings : w.settings line = .ok {} := rfl
  have hselect : select forked o = .ok commits := by decide +kernel
  have hjob : w.job (withRules {} o) o = .ok ⟨commits, w.repositoryEngine {} o forked⟩ :=
    repositoryJob_eq_ok_iff.mpr ⟨forked, rfl, commits, hselect, rfl⟩
  obtain ⟨selected, engine, hselects, -, hends⟩ := run?_validate hhashes hsettings rfl hjob
  obtain ⟨rfl, rfl⟩ := (selects_iff.mpr ⟨_, hjob, rfl, rfl⟩).unique hselects
  obtain ⟨deadline, results, text, -, -, -, halone, -, hrun, -⟩ := hends (.inr (by decide))
  have hclock : ∀ m, w.clock m ≤ 30 := fun m => by
    dsimp only [w]
    split <;> decide
  have hresults := halone fun ⟨_, m, hm⟩ => absurd (hm.trans (hclock m)) (by decide)
  have hunsigned : ∀ c ∈ checkedCommits (withRules {} o) o commits,
      (Check.signature w.explain {} c).findings ≠ [] := by decide +kernel
  have hrejected : ∀ c ∈ checkedCommits (withRules {} o) o commits,
      !((w.repositoryEngine {} o forked .never).validate c {}).1.findings.isEmpty := by
    intro c hc
    rw [hselects.validate_never, Bool.not_eq_true', List.isEmpty_eq_false_iff]
    intro hnil
    have hsigned := Engine.findings_alone_eq_nil_iff.mp hnil .signature
      (by decide +kernel : _ ∈ activeRules {} o)
    exact hunsigned c hc hsigned
  have hfailed : results.countP (fun r => !r.findings.isEmpty) = 2 := by
    rw [hresults, List.countP_map]
    exact List.countP_eq_length.mpr hrejected
  rw [hfailed] at hrun
  exact ⟨text, hrun⟩

/-- With the longest limit that can be written the settings are accepted and the message is there,
and yet nothing comes of the run. -/
theorem not_forall_run?_validate :
    ¬∀ (w : Workspace) (line : CommandLine) (s : Settings) (o : ValidateOptions) (job : Job),
      w.HasHexHashes → w.settings line = .ok s → line.effectiveCommand = .validate o →
        w.job (withRules s o) o = .ok job → ∃ transcript, w.run? line = some transcript := by
  intro hall
  let w : Workspace :=
    { files :=
        { files :=
            [(["cklint.toml"], "[repository]\ntimeout_secs = 9223372036854775807\n"),
              (["msg"], "feat: add it\n")] }
      here := []
      userFile := ["user"]
      repository := none
      clock := fun _ => 1 }
  let s : Settings := { repository := { timeoutSecs := lastSecond } }
  let o : ValidateOptions := { target := some (.messageFile "msg") }
  let line : CommandLine := { command := some (.validate o) }
  have hsettings : w.settings line = .ok s := by cbv
  have hselects : w.Selects s o _ _ := .message rfl rfl
  obtain ⟨job, hjob, -⟩ := selects_iff.mp hselects
  have hhashes : w.HasHexHashes := fun r hr => (Option.not_mem_none r hr).elim
  obtain ⟨transcript, hrun⟩ := hall w line s o job hhashes hsettings rfl hjob
  have hnone : w.run? line = none := by
    rw [run?_eq_validate? hsettings rfl]
    exact hselects.validate?_eq_none (not_or.mpr ⟨by decide, by decide⟩) line
  rw [hnone] at hrun
  cases hrun

end Workspace

end CommitLint
