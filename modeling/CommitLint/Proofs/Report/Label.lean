import CommitLint.Proofs.Entries
import CommitLint.Proofs.Text.Bytes
import CommitLint.Report.Basic

/-!
# Runs that can be reported

A run can be written as a document whatever it holds. The other reports refer to commits by their
labels, so each commit needs one (`render?_isSome_iff`). What the label of a commit is depends on
its hash (`IsLabel`), and there is none only if the short hash would end within a character
(`label?_isSome_iff`), which takes a character of several bytes (`label?_isSome`).
-/

namespace CommitLint

namespace Text

theorem takeBytes?_isSome {s : List Char} (h : ∀ c ∈ s, c.utf8Size = 1) (n : Nat) :
    (takeBytes? n s).isSome := by
  induction s generalizing n with
  | nil => rfl
  | cons c s ih =>
    obtain ⟨hc, hs⟩ := List.forall_mem_cons.mp h
    rw [takeBytes?]
    split
    · rfl
    · rename_i hn
      rw [if_pos (by rw [hc]; exact Nat.one_le_iff_ne_zero.mpr hn), Option.isSome_map]
      exact ih hs _

end Text

namespace Report

open Text

/-! ### Labels -/

/-- A short hash is the longest beginning of a hash that has seven bytes at most. It ends after
seven bytes or where the hash does. -/
structure IsShortHash (hash short : String) : Prop where
  begins : short.toList <+: hash.toList
  le : short.utf8ByteSize ≤ 7
  ends : short.utf8ByteSize = 7 ∨ short = hash
  longest : ∀ other : String, other.toList <+: hash.toList → other.utf8ByteSize ≤ 7 →
    other.toList <+: short.toList

/-- What a commit with some hash is referred to by. -/
inductive IsLabel (hash : String) : String → Prop
  | message : hash = "" → IsLabel hash "<message>"
  | short {label : String} : hash ≠ "" → IsShortHash hash label → IsLabel hash label

theorem shortHash?_eq_some_iff {c : Commit} {short : String} :
    c.shortHash? = some short ↔ IsShortHash c.hash short := by
  have htake : c.shortHash? = some short ↔
      takeBytes? 7 c.hash.toList = some short.toList := by
    rw [Commit.shortHash?, Commit.shortHashBytes, Option.map_eq_some_iff]
    constructor
    · rintro ⟨start, hstart, rfl⟩
      rwa [String.toList_ofList]
    · exact fun h => ⟨_, h, String.ofList_toList⟩
  rw [htake, takeBytes?_eq_some_iff, ← utf8ByteSize_eq_byteLength, String.toList_inj]
  refine ⟨fun ⟨hbegins, hle, hends⟩ => ⟨hbegins, hle, hends, fun other hother hbytes => ?_⟩,
    fun h => ⟨h.begins, h.le, h.ends⟩⟩
  rcases hends with hfull | rfl
  · refine prefix_of_byteLength_le hbegins hother ?_
    rwa [← utf8ByteSize_eq_byteLength, ← utf8ByteSize_eq_byteLength, hfull]
  · exact hother

theorem label?_eq_some_iff {c : Commit} {label : String} :
    label? c = some label ↔ IsLabel c.hash label := by
  rw [label?]
  split
  · rename_i hempty
    have hempty : c.hash = "" := String.isEmpty_iff.mp hempty
    rw [Option.some.injEq]
    constructor
    · rintro rfl
      exact .message hempty
    · rintro (- | ⟨hne, -⟩)
      · rfl
      · exact absurd hempty hne
  · rename_i hempty
    have hne : c.hash ≠ "" := fun h => hempty (String.isEmpty_iff.mpr h)
    rw [shortHash?_eq_some_iff]
    refine ⟨.short hne, ?_⟩
    rintro (h | ⟨-, h⟩)
    · exact absurd h hne
    · exact h

/-- A commit has a label unless a character of its hash spans the place where a short hash ends. -/
theorem label?_isSome_iff {c : Commit} :
    (label? c).isSome ↔ c.hash.utf8ByteSize ≤ 7 ∨ (⟨7⟩ : String.Pos.Raw).IsValid c.hash := by
  rw [label?]
  split
  · rename_i hempty
    rw [String.isEmpty_iff.mp hempty]
    exact iff_of_true rfl (.inl (Nat.zero_le _))
  · rw [Commit.shortHash?, Option.isSome_map, isSome_takeBytes?_iff, String.ofList_toList,
      utf8ByteSize_eq_byteLength, Commit.shortHashBytes]

theorem label?_isSome {c : Commit} (h : ∀ d ∈ c.hash.toList, d.utf8Size = 1) :
    (label? c).isSome := by
  rw [label?]
  split
  · rfl
  · rw [Commit.shortHash?, Option.isSome_map]
    exact takeBytes?_isSome h Commit.shortHashBytes

/-! ### Reports -/

theorem resultText?_isSome (verbose color : Bool) (r : Result) :
    (resultText? verbose color r).isSome = (label? r.commit).isSome := by
  rw [resultText?]
  cases label? r.commit <;> rfl

theorem commands?_isSome (r : Result) : (commands? r).isSome = (label? r.commit).isSome := by
  rw [commands?]
  cases label? r.commit <;> rfl

/-- A run is reported to readers exactly if every commit has a label. -/
theorem terminalText?_isSome_iff (verbose color : Bool) (s : Summary) :
    (terminalText? verbose color s).isSome ↔ ∀ r ∈ s.results, (label? r.commit).isSome := by
  have hparts : (terminalText? verbose color s).isSome =
      (s.results.mapM (resultText? verbose color)).isSome := by
    rw [terminalText?]
    cases s.results.mapM (resultText? verbose color) <;> rfl
  simp only [hparts, Entries.isSome_mapM_iff, resultText?_isSome]

/-- A run is reported as commands exactly if every commit has a label. -/
theorem workflowText?_isSome_iff (s : Summary) :
    (workflowText? s).isSome ↔ ∀ r ∈ s.results, (label? r.commit).isSome := by
  have hparts : (workflowText? s).isSome = (s.results.mapM commands?).isSome := by
    rw [workflowText?]
    cases s.results.mapM commands? <;> rfl
  simp only [hparts, Entries.isSome_mapM_iff, commands?_isSome]

/-- Only a document can be written about commits that have no label. -/
theorem render?_isSome_iff (output : Settings.Output) (s : Summary) :
    (render? output s).isSome ↔
      output.format = .json ∨ ∀ r ∈ s.results, (label? r.commit).isSome := by
  rw [render?]
  cases output.format with
  | text => simp [terminalText?_isSome_iff]
  | json => simp
  | github => simp [workflowText?_isSome_iff]

end Report

end CommitLint
