import CommitLint.Proofs.Report.Terminal
import CommitLint.Proofs.Report.Workflow
import CommitLint.Proofs.Repository.Loading
import CommitLint.Report.Basic

/-!
# Which reports there are

A document does not refer to commits by labels, so it can always be written. The two other reports
need the labels of all commits, those included that there is nothing to say about, so there is one
exactly if all hashes are short or can be cut (`render?_exact`). The report for readers begins what
it says about a commit with a line that shows the label (`headText_eq`), and each command begins
what it says with the label.

A hash that a repository stores is written in digits, which have one byte each, and a message has no
hash. So whatever was loaded can be reported in every format.
-/

namespace CommitLint.Report

open Text

/-! ### Where a label stands -/

/-- The mark of a commit that passed, or of one that failed. -/
def mark (color passed : Bool) : String :=
  match color, passed with
  | false, true => "✓"
  | false, false => "✗"
  | true, true => "\x1b[32m\x1b[1m✓\x1b[0m"
  | true, false => "\x1b[31m\x1b[1m✗\x1b[0m"

/-- The first line about a commit of some label: a mark that tells whether it passed, the label, and
the subject. -/
def headline (color passed : Bool) (label subject : String) : String :=
  mark color passed ++ " " ++ (if color then "\x1b[36m" ++ label ++ "\x1b[0m" else label) ++
    s!" {subject}\n"

/-- Some lines begin with the one that shows the label of a commit. -/
def IsHeadedBy (color : Bool) (r : Result) (block : List Char) : Prop :=
  ∃ label rest, IsLabel r.commit.hash label ∧ EndsLine rest ∧
    block = (headline color r.passed label r.commit.subject).toList ++ rest

theorem markText_eq (color passed : Bool) : markText color passed = mark color passed := by
  cases color <;> cases passed <;> decide

theorem headText_eq (color : Bool) (label : String) (r : Result) :
    headText color label r = headline color r.passed label r.commit.subject := by
  have hlabel : styled color [.cyan] label =
      if color then "\x1b[36m" ++ label ++ "\x1b[0m" else label := by
    have hstart : String.join ([Style.cyan].map (escape ·.number)) = "\x1b[36m" := by decide
    have hend : escape "0" = "\x1b[0m" := by decide
    rw [styled, hstart, hend]
  delta headText headline
  rw [markText_eq, hlabel]

/-- The report for readers is cut into the lines about each commit, and the counts after them. -/
theorem exists_blocks_of_terminalText? {verbose color : Bool} {s : Summary} {text : String}
    (h : terminalText? verbose color s = some text) :
    ∃ blocks rest, text.toList = blocks.flatten ++ rest ∧
      List.Forall₂ (IsHeadedBy color) s.results blocks := by
  rw [terminalText?_eq_map] at h
  obtain ⟨parts, hparts, rfl⟩ := Option.map_eq_some_iff.mp h
  obtain ⟨hresults, hlabels⟩ := of_labelled? hparts
  refine ⟨parts.map fun p => (resultLines verbose color p).toList, (countsText color s).toList,
    ?_, ?_⟩
  · rw [String.toList_append, String.toList_join, List.flatMap_map, List.flatMap_def]
  -- What follows the first line about a commit is made of whole lines, one outcome after the other.
  · rw [← hresults, List.forall₂_map_left_iff, List.forall₂_map_right_iff, List.forall₂_same]
    intro p hp
    refine ⟨p.1, (String.join (p.2.outcomes.map (outcomeLines verbose color))).toList,
      label?_eq_some_iff.mp (hlabels p hp), ?_, ?_⟩
    · rw [String.toList_join, List.flatMap_map]
      exact .flatMap fun o _ => endsLine_outcomeLines verbose color o
    · rw [resultLines, headText_eq, String.toList_append]

/-- Whatever was loaded has a label. -/
theorem label?_isSome_of_loaded {r : Repository} (hhashes : r.HasHexHashes) {c : Commit}
    (h : r.Loads c ∨ ∃ file, c = .ofMessageFile file) : (label? c).isSome := by
  rcases h with hloads | ⟨file, rfl⟩
  · exact label?_isSome (hloads.utf8Size_of_mem_hash hhashes)
  · rfl

/-- A document about a run can always be written. There are the two other reports exactly if every
hash is short or can be cut after seven bytes; then each commit has one label, and the reports show
it: at the beginning of the lines about a commit, and of what each command says. A run on commits
from a repository or a message file can be reported in every format. -/
theorem render?_exact (output : Settings.Output) (s : Summary) :
    (output.format = .json → render? output s = some (documentText output.verbose s)) ∧
      (output.format ≠ .json →
        ((∃ text, render? output s = some text) ↔
          ∀ r ∈ s.results, r.commit.hash.utf8ByteSize ≤ 7 ∨
            (⟨7⟩ : String.Pos.Raw).IsValid r.commit.hash)) ∧
      (∀ text, output.format ≠ .json → render? output s = some text →
        ∀ r ∈ s.results, ∃! label, IsLabel r.commit.hash label) ∧
      (∀ text, output.format = .text → render? output s = some text →
        ∃ blocks rest, text.toList = blocks.flatten ++ rest ∧
          List.Forall₂ (IsHeadedBy output.color) s.results blocks) ∧
      (∀ text, output.format = .github → render? output s = some text →
        ∃ commands, pieces '\n' text.toList = commands ++ [s.text.toList, []] ∧
          List.Forall₂ Announces (reported s) commands) ∧
      ∀ r : Repository, r.HasHexHashes →
        (∀ result ∈ s.results,
          r.Loads result.commit ∨ ∃ file, result.commit = .ofMessageFile file) →
        ∃ text, render? output s = some text := by
  refine ⟨fun hjson => by rw [render?, hjson], fun hformat => ?_, fun text hformat htext r hr => ?_,
    fun text hformat htext => ?_, fun text hformat htext => ?_, fun r hhashes hloaded => ?_⟩
  · rw [← Option.isSome_iff_exists, render?_isSome_iff, or_iff_right hformat]
    simp only [label?_isSome_iff]
  · have hlabels := ((render?_isSome_iff output s).mp (htext ▸ rfl)).resolve_left hformat
    obtain ⟨label, hlabel⟩ := Option.isSome_iff_exists.mp (hlabels r hr)
    refine ⟨label, label?_eq_some_iff.mp hlabel, fun other hother => ?_⟩
    have hother : label? r.commit = some other := label?_eq_some_iff.mpr hother
    exact Option.some.inj (hother.symm.trans hlabel)
  · rw [render?, hformat] at htext
    exact exists_blocks_of_terminalText? htext
  · rw [render?, hformat] at htext
    exact exists_commands_of_workflowText? htext
  · rw [← Option.isSome_iff_exists, render?_isSome_iff]
    exact .inr fun result hresult => label?_isSome_of_loaded hhashes (hloaded result hresult)

/-- Two hashes in which a letter takes two bytes, the sixth and the seventh of one hash, the seventh
and the eighth of the other. Nothing was found in the commit that cannot be reported. The third hash
is one that a repository stores. -/
theorem render?_exact_accented :
    let kept : Result := { commit := { message := "feat: a", hash := "abcdeé123" }, outcomes := [] }
    let torn : Result := { commit := { message := "feat: b", hash := "abcdefé12" }, outcomes := [] }
    let stored : StoredCommit :=
      { hash := "4b5fa63702dd96796042e92787f464e28f09f17d", author := "A <a@x>", message := [] }
    let r : Repository :=
      { place := []
        history := { commits := [stored], grounded := by simp [Grounded, stored] }
        branches := [("main", stored.hash)] }
    (∃ text, render? { format := .github } (.ofResults [kept]) = some text) ∧
      (¬∃ text, render? { format := .github } (.ofResults [kept, torn]) = some text) ∧
      (∃ text, render? { format := .json } (.ofResults [kept, torn]) = some text) ∧
      r.commit "main".toList = .ok stored.load ∧
      ∃ text, render? {} (.ofResults [{ commit := stored.load, outcomes := [] }]) = some text := by
  intro kept torn stored r
  have hkept : (⟨7⟩ : String.Pos.Raw).IsValid kept.commit.hash :=
    isSome_splitBytes?_iff.mp (by decide : (splitBytes? 7 "abcdeé123".toList).isSome)
  have htorn : ¬(⟨7⟩ : String.Pos.Raw).IsValid torn.commit.hash :=
    mt isSome_splitBytes?_iff.mpr (by decide : ¬(splitBytes? 7 "abcdefé12".toList).isSome)
  have hone := (render?_exact { format := .github } (.ofResults [kept])).2.1 (by decide)
  have htwo := (render?_exact { format := .github } (.ofResults [kept, torn])).2.1 (by decide)
  have hdigits : stored.hash.toList.all Repository.isHexDigit := by decide
  have hhashes : r.HasHexHashes := List.forall_mem_singleton.mpr (List.all_eq_true.mp hdigits)
  have hcommit : r.commit "main".toList = .ok stored.load :=
    Repository.commit_eq_ok_iff.mpr ⟨stored, by decide +kernel, rfl⟩
  have hloads : r.Loads stored.load := .commit hcommit
  refine ⟨hone.mpr (List.forall_mem_singleton.mpr (.inr hkept)), fun h => ?_,
    ⟨_, (render?_exact { format := .json } (.ofResults [kept, torn])).1 rfl⟩, hcommit, ?_⟩
  · exact (htwo.mp h torn (by simp [Summary.ofResults])).elim (by decide) htorn
  · exact (render?_exact {} (.ofResults [{ commit := stored.load, outcomes := [] }])).2.2.2.2.2 r
      hhashes (List.forall_mem_singleton.mpr (.inl hloads))

end CommitLint.Report
