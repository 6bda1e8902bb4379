import CommitLint.Hook
import CommitLint.Proofs.Text.Pieces
import CommitLint.Proofs.Text.Utf8

/-!
# What the actions on a hook do

Installing and removing the hook are sequences of file operations, any of which may fail. Taken
together they come to one of a few changes, or to none (`perform_install`, `perform_uninstall`);
everything about runs is read off these two equations. In particular a failure leaves the directory
as it was (`snd_perform_install_of_error`, `snd_perform_uninstall_of_error`): every check comes
before the first change, and where one change can be made, so can those after it.
-/

namespace CommitLint.Hook

open Text

/-! ### Procedures in pieces -/

theorem perform_bind {α β : Type} (d : Directory) (p : Procedure α) (q : α → Procedure β) :
    d.perform (p >>= q) =
      match d.perform p with
      | (.ok a, e) => e.perform (q a)
      | (.error failure, e) => (.error failure, e) := by
  simp only [Directory.perform, ExceptT.run_bind, StateT.run_bind, Id.run_bind]
  cases p.run.run d with
  | mk answer e => cases answer <;> rfl

theorem perform_get (d : Directory) : d.perform get = (.ok d, d) := rfl

theorem perform_operation (d : Directory) (failure : Failure) (f : Directory → Directory) :
    d.perform (operation failure f) =
      if d.isDirectory then (.ok (), f d) else (.error failure, d) := by
  rw [operation, perform_bind, perform_get]
  dsimp only
  split <;> rfl

theorem perform_status (d : Directory) : d.perform status = (d.status, d) := by
  rw [status, perform_bind, perform_get]
  dsimp only
  cases d.status <;> rfl

/-! ### The actions -/

/-- The hook that is installed. -/
def installedFile : File where
  content := scriptContent
  mode := 0o755

/-- Whatever was in the place of the hook, it holds the script afterwards. -/
theorem perform_writeScript_makeExecutable (d : Directory) :
    d.perform (do writeScript; makeExecutable) =
      if d.isDirectory then (.ok (), { d with hook := some installedFile })
      else (.error (.hookNotWritten name), d) := by
  rw [perform_bind, writeScript, perform_operation]
  by_cases h : d.isDirectory
  · rw [if_pos h, if_pos h]
    simp only
    rw [makeExecutable, perform_operation, if_pos h, Option.map_some, rewritten, installedFile]
  · rw [if_neg h, if_neg h]

theorem perform_install (d : Directory) (force : Bool) :
    d.perform (install force) =
      match d.status with
      | .error failure => (.error failure, d)
      | .ok .foreign =>
        if !force then (.error (.hookExists name), d)
        else if d.isDirectory then
          (.ok (), { d with hook := some installedFile, backup := d.hook })
        else (.error (.hookNotWritten name), d)
      | .ok _ =>
        if d.isDirectory then (.ok (), { d with hook := some installedFile })
        else (.error (.hookNotWritten name), d) := by
  rw [install, perform_bind, perform_status]
  cases d.status with
  | error failure => rfl
  | ok status =>
    cases status with
    | installed => exact perform_writeScript_makeExecutable d
    | missing => exact perform_writeScript_makeExecutable d
    | foreign =>
      cases force with
      | false => rfl
      | true =>
        -- Only here is there a step before the script is written.
        simp only [if_true, Bool.not_true, Bool.false_eq_true, if_false]
        rw [perform_bind, backUp, perform_operation]
        by_cases h : d.isDirectory
        · rw [if_pos h, if_pos h]
          exact (perform_writeScript_makeExecutable _).trans (if_pos h)
        · rw [if_neg h, if_neg h]

theorem perform_restore {d : Directory} (h : d.isDirectory) (hook : d.hook = none) :
    d.perform restore = (.ok (), { d with hook := d.backup, backup := none }) := by
  rw [restore, perform_bind, perform_get]
  obtain ⟨isDirectory, hook, backup⟩ := d
  cases backup with
  | none => cases hook; rfl
  | some file => exact (perform_operation _ _ _).trans (if_pos h)

theorem perform_uninstall (d : Directory) :
    d.perform uninstall =
      match d.status with
      | .error failure => (.error failure, d)
      | .ok .missing => (.ok false, d)
      | .ok .foreign => (.error (.hookNotRemoved name "Hook was not installed by cklint"), d)
      | .ok .installed =>
        if d.isDirectory then (.ok true, { d with hook := d.backup, backup := none })
        else (.error (.hookNotRemoved name "Failed to remove hook"), d) := by
  rw [uninstall, perform_bind, perform_status]
  cases d.status with
  | error failure => rfl
  | ok status =>
    cases status with
    | missing => rfl
    | foreign => rfl
    | installed =>
      -- Where the hook could be removed, the backup can be moved as well.
      simp only
      rw [perform_bind, remove, perform_operation]
      by_cases h : d.isDirectory
      · have hrestore := perform_restore (d := { d with hook := none }) h rfl
        rw [if_pos h, if_pos h]
        simp only
        rw [perform_bind, hrestore]
        rfl
      · rw [if_neg h, if_neg h]

/-! ### What may come of an action -/

/-- Installing changes nothing, or puts the script in the place of the hook, which may have been
moved to the backup before. -/
theorem perform_install_cases (d : Directory) (force : Bool) :
    (∃ failure, d.perform (install force) = (.error failure, d)) ∨
    (d.isDirectory ∧ (d.status = .ok .installed ∨ d.status = .ok .missing) ∧
      d.perform (install force) = (.ok (), { d with hook := some installedFile })) ∨
    (force ∧ d.isDirectory ∧ d.status = .ok .foreign ∧ d.perform (install force) =
      (.ok (), { d with hook := some installedFile, backup := d.hook })) := by
  rw [perform_install]
  cases d.status with
  | error failure => exact .inl ⟨failure, rfl⟩
  | ok status =>
    by_cases hdirectory : d.isDirectory
    · cases status with
      | installed => exact .inr (.inl ⟨hdirectory, .inl rfl, if_pos hdirectory⟩)
      | missing => exact .inr (.inl ⟨hdirectory, .inr rfl, if_pos hdirectory⟩)
      | foreign =>
        cases force with
        | false => exact .inl ⟨_, rfl⟩
        | true => exact .inr (.inr ⟨rfl, hdirectory, rfl, if_pos hdirectory⟩)
    · refine .inl ?_
      cases status with
      | installed => exact ⟨_, if_neg hdirectory⟩
      | missing => exact ⟨_, if_neg hdirectory⟩
      | foreign =>
        cases force with
        | false => exact ⟨_, rfl⟩
        | true => exact ⟨_, if_neg hdirectory⟩

/-- Removing changes nothing, or puts the backup in the place of the hook. -/
theorem perform_uninstall_cases (d : Directory) :
    (∃ failure, d.perform uninstall = (.error failure, d)) ∨
    d.perform uninstall = (.ok false, d) ∨
    (d.isDirectory ∧ d.status = .ok .installed ∧
      d.perform uninstall = (.ok true, { d with hook := d.backup, backup := none })) := by
  rw [perform_uninstall]
  cases d.status with
  | error failure => exact .inl ⟨failure, rfl⟩
  | ok status =>
    cases status with
    | missing => exact .inr (.inl rfl)
    | foreign => exact .inl ⟨_, rfl⟩
    | installed =>
      by_cases hdirectory : d.isDirectory
      · exact .inr (.inr ⟨hdirectory, rfl, if_pos hdirectory⟩)
      · exact .inl ⟨_, if_neg hdirectory⟩

/-- What an action may come to, apart from its answer. -/
theorem after_cases (d : Directory) (action : Action) :
    d.after action = d ∨
    (d.isDirectory ∧ (d.status = .ok .installed ∨ d.status = .ok .missing) ∧
      d.after action = { d with hook := some installedFile }) ∨
    (action = .install true ∧ d.isDirectory ∧ d.status = .ok .foreign ∧
      d.after action = { d with hook := some installedFile, backup := d.hook }) ∨
    (d.isDirectory ∧ d.status = .ok .installed ∧
      d.after action = { d with hook := d.backup, backup := none }) := by
  cases action with
  | install force =>
    rw [Directory.after]
    rcases perform_install_cases d force with ⟨_, h⟩ | ⟨hd, hs, h⟩ | ⟨hforce, hd, hs, h⟩
    · exact .inl (by rw [h])
    · exact .inr (.inl ⟨hd, hs, by rw [h]⟩)
    · exact .inr (.inr (.inl ⟨by rw [hforce], hd, hs, by rw [h]⟩))
  | uninstall =>
    rw [Directory.after]
    rcases perform_uninstall_cases d with ⟨_, h⟩ | h | ⟨hd, hs, h⟩
    · exact .inl (by rw [h])
    · exact .inl (by rw [h])
    · exact .inr (.inr (.inr ⟨hd, hs, by rw [h]⟩))
  | status => exact .inl (by rw [Directory.after, perform_status])

/-- Where the hook cannot be installed, nothing has changed. -/
theorem snd_perform_install_of_error {d : Directory} {force : Bool} {failure : Failure}
    (h : (d.perform (install force)).1 = .error failure) : (d.perform (install force)).2 = d := by
  rcases perform_install_cases d force with ⟨_, heq⟩ | ⟨-, -, heq⟩ | ⟨-, -, -, heq⟩
  · rw [heq]
  · rw [heq] at h
    cases h
  · rw [heq] at h
    cases h

/-- Where the hook cannot be removed, nothing has changed. -/
theorem snd_perform_uninstall_of_error {d : Directory} {failure : Failure}
    (h : (d.perform uninstall).1 = .error failure) : (d.perform uninstall).2 = d := by
  rcases perform_uninstall_cases d with ⟨_, heq⟩ | heq | ⟨-, -, heq⟩
  · rw [heq]
  · rw [heq]
  · rw [heq] at h
    cases h

theorem hook_of_perform_install {d : Directory} {force : Bool}
    (h : (d.perform (install force)).1 = .ok ()) :
    (d.perform (install force)).2.hook = some installedFile := by
  rcases perform_install_cases d force with ⟨_, heq⟩ | ⟨-, -, heq⟩ | ⟨-, -, -, heq⟩
  · rw [heq] at h
    cases h
  · rw [heq]
  · rw [heq]

/-- The hook can be installed wherever there is a directory, unless what is in its place is no text,
or foreign and nobody forces this. -/
theorem fst_perform_install_eq_ok_iff {d : Directory} {force : Bool} :
    (d.perform (install force)).1 = .ok () ↔
      d.isDirectory ∧ ∃ s, d.status = .ok s ∧ (s = .foreign → force) := by
  rw [perform_install]
  cases d.status with
  | error failure => simp
  | ok s => cases s <;> cases force <;> cases d.isDirectory <;> simp

/-- Removing the hook answers that there was one exactly if it was one of ours, and then the backup
has taken its place. -/
theorem perform_uninstall_eq_ok_true_iff {d e : Directory} :
    d.perform uninstall = (.ok true, e) ↔
      d.isDirectory ∧ d.status = .ok .installed ∧
        e = { d with hook := d.backup, backup := none } := by
  rw [perform_uninstall]
  cases d.status with
  | error failure => simp
  | ok s => cases s <;> cases d.isDirectory <;> simp [eq_comm]

/-! ### What is in the place of the hook -/

namespace File

/-- A script of ours. -/
def IsGenerated (f : File) : Prop := ∃ text, f.content = encode text ∧ isGenerated text

/-- A text of somebody else. -/
def IsForeign (f : File) : Prop := ∃ text, f.content = encode text ∧ ¬isGenerated text

/-- Bytes that no text is encoded as. -/
def IsBinary (f : File) : Prop := ∀ text, f.content ≠ encode text

end File

theorem exists_toList_script : ∃ rest, script.toList =
    "#!/bin/sh\n".toList ++ ("# Generated by cklint v1.0.0\n".toList ++ rest) := by
  delta script
  simp only [String.toList_append, List.append_assoc]
  exact ⟨_, rfl⟩

/-- The second line of the script is marked. -/
theorem isGenerated_script : isGenerated script.toList := by
  obtain ⟨rest, hscript⟩ := exists_toList_script
  have hlines : lines script.toList =
      "#!/bin/sh".toList :: "# Generated by cklint v1.0.0".toList :: lines rest := by
    rw [hscript]
    exact (lines_append (l := "#!/bin/sh".toList) (by decide) _).trans
      (congrArg _ (lines_append (l := "# Generated by cklint v1.0.0".toList) (by decide) rest))
  have hmarked : startsWith marker "# Generated by cklint v1.0.0".toList := by decide
  rw [isGenerated, hlines, List.any_cons, List.any_cons, hmarked, Bool.true_or, Bool.or_true]

theorem isGenerated_installedFile : installedFile.IsGenerated :=
  ⟨script.toList, by rw [installedFile, scriptContent], isGenerated_script⟩

theorem executable_installedFile : installedFile.executable := by decide

variable {d : Directory} {f : File}

theorem status_eq_missing (h : d.hook = none) : d.status = .ok .missing := by
  rw [Directory.status, h]

theorem status_of_isGenerated (h : d.hook = some f) (hf : f.IsGenerated) :
    d.status = .ok .installed := by
  obtain ⟨text, hcontent, hgenerated⟩ := hf
  rw [Directory.status, h]
  simp only
  rw [hcontent, decode?_encode]
  simp only [hgenerated, if_true]

theorem status_of_isForeign (h : d.hook = some f) (hf : f.IsForeign) :
    d.status = .ok .foreign := by
  obtain ⟨text, hcontent, hforeign⟩ := hf
  rw [Directory.status, h]
  simp only
  rw [hcontent, decode?_encode]
  simp only [hforeign]
  rfl

theorem status_of_isBinary (h : d.hook = some f) (hf : f.IsBinary) :
    d.status = .error .inputOutput := by
  rw [Directory.status, h]
  simp only
  rw [decode?_eq_none_iff.mpr hf]

theorem exists_isGenerated_of_status (h : d.status = .ok .installed) :
    ∃ f, d.hook = some f ∧ f.IsGenerated := by
  rw [Directory.status] at h
  split at h
  · cases h
  · rename_i f hf
    split at h
    · cases h
    · rename_i text htext
      split at h
      · rename_i hgenerated
        exact ⟨f, hf, text, decode?_eq_some_iff.mp htext, hgenerated⟩
      · cases h

theorem hook_eq_none_of_status (h : d.status = .ok .missing) : d.hook = none := by
  rw [Directory.status] at h
  split at h
  · assumption
  · split at h
    · cases h
    · split at h <;> cases h

end CommitLint.Hook
