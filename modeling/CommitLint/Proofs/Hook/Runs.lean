import CommitLint.Proofs.Hook.Actions
import Mathlib.Tactic.ByContra

/-!
# The hook over time

What becomes of the file that was in the place of the hook when nobody had touched the directory
yet. As long as only the hook is installed and removed, there are two directories at most to be in
(three, where the file was one of our scripts), and removing the hook leads back to the first
(`run_actions`). Each of these sets of directories is closed under every action, by `after_cases`.

Where other tools write the hook file as well, a foreign file may be lost: an action loses one
exactly if the hook is installed by force over a foreign file while the backup holds another one
(`after_loses_iff`). For this the hook file has to have been written since the backup was made.
-/

namespace CommitLint.Hook

open Text

/-! ### Actions only -/

theorem run_cons (d : Directory) (event : Event) (events : List Event) :
    d.run (event :: events) = (d.next event).run events := rfl

theorem run_nil (d : Directory) : d.run [] = d := rfl

/-- What every action preserves holds after any number of actions. -/
theorem run_actions_of_preserved {p : Directory → Prop}
    (hstep : ∀ d action, p d → p (d.after action)) (actions : List Action) {d : Directory}
    (h : p d) : p (d.run (actions.map .action)) := by
  induction actions generalizing d with
  | nil => exact h
  | cons action actions ih => exact ih (hstep d action h)

section Steps

variable (isDirectory : Bool) (backup : Option File) (action : Action)

theorem after_of_missing :
    (Directory.mk isDirectory none backup).after action = .mk isDirectory none backup ∨
      isDirectory ∧ (Directory.mk isDirectory none backup).after action =
        .mk isDirectory (some installedFile) backup := by
  have hstatus := status_eq_missing (d := .mk isDirectory none backup) rfl
  rcases after_cases (.mk isDirectory none backup) action with
    h | ⟨hd, -, h⟩ | ⟨-, -, hs, -⟩ | ⟨-, hs, -⟩
  · exact .inl h
  · exact .inr ⟨hd, h⟩
  · rw [hstatus] at hs
    cases hs
  · rw [hstatus] at hs
    cases hs

variable {f : File}

theorem after_of_isGenerated (hf : f.IsGenerated) :
    (Directory.mk isDirectory (some f) backup).after action = .mk isDirectory (some f) backup ∨
      (Directory.mk isDirectory (some f) backup).after action =
        .mk isDirectory (some installedFile) backup ∨
      isDirectory ∧ (Directory.mk isDirectory (some f) backup).after action =
        .mk isDirectory backup none := by
  have hstatus := status_of_isGenerated (d := .mk isDirectory (some f) backup) rfl hf
  rcases after_cases (.mk isDirectory (some f) backup) action with
    h | ⟨-, -, h⟩ | ⟨-, -, hs, -⟩ | ⟨hd, -, h⟩
  · exact .inl h
  · exact .inr (.inl h)
  · rw [hstatus] at hs
    cases hs
  · exact .inr (.inr ⟨hd, h⟩)

theorem after_of_isForeign (hf : f.IsForeign) :
    (Directory.mk isDirectory (some f) backup).after action = .mk isDirectory (some f) backup ∨
      isDirectory ∧ (Directory.mk isDirectory (some f) backup).after action =
        .mk isDirectory (some installedFile) (some f) := by
  have hstatus := status_of_isForeign (d := .mk isDirectory (some f) backup) rfl hf
  rcases after_cases (.mk isDirectory (some f) backup) action with
    h | ⟨-, hs, -⟩ | ⟨-, hd, -, h⟩ | ⟨-, hs, -⟩
  · exact .inl h
  · rw [hstatus] at hs
    rcases hs with hs | hs <;> cases hs
  · exact .inr ⟨hd, h⟩
  · rw [hstatus] at hs
    cases hs

theorem after_install_of_isForeign (hf : f.IsForeign) :
    (Directory.mk true (some f) backup).after (.install true) =
      .mk true (some installedFile) (some f) := by
  rw [Directory.after, perform_install, status_of_isForeign rfl hf]
  rfl

theorem after_of_isBinary (hf : f.IsBinary) :
    (Directory.mk isDirectory (some f) backup).after action =
      .mk isDirectory (some f) backup := by
  have hstatus := status_of_isBinary (d := .mk isDirectory (some f) backup) rfl hf
  rcases after_cases (.mk isDirectory (some f) backup) action with
    h | ⟨-, hs, -⟩ | ⟨-, -, hs, -⟩ | ⟨-, hs, -⟩
  · exact h
  · rw [hstatus] at hs
    rcases hs with hs | hs <;> cases hs
  · rw [hstatus] at hs
    cases hs
  · rw [hstatus] at hs
    cases hs

end Steps

section Actions

variable (isDirectory : Bool) {f : File} (actions : List Action)

/-- Where there was no hook, there is none or the script. -/
theorem run_actions_of_none :
    let d := (Directory.mk isDirectory none none).run (actions.map .action)
    d = .mk isDirectory none none ∨ d = .mk isDirectory (some installedFile) none := by
  refine run_actions_of_preserved
    (p := fun d => d = .mk isDirectory none none ∨ d = .mk isDirectory (some installedFile) none)
    ?_ actions (.inl rfl)
  rintro d action (rfl | rfl)
  · exact (after_of_missing isDirectory none action).imp_right And.right
  · rcases after_of_isGenerated isDirectory none action isGenerated_installedFile with
      h | h | ⟨-, h⟩
    · exact .inr h
    · exact .inr h
    · exact .inl h

/-- Where there was one of our scripts, there is that one, the script of today, or none. -/
theorem run_actions_of_isGenerated (hf : f.IsGenerated) :
    let d := (Directory.mk isDirectory (some f) none).run (actions.map .action)
    d = .mk isDirectory (some f) none ∨ d = .mk isDirectory (some installedFile) none ∨
      d = .mk isDirectory none none := by
  refine run_actions_of_preserved
    (p := fun d => d = .mk isDirectory (some f) none ∨
      d = .mk isDirectory (some installedFile) none ∨ d = .mk isDirectory none none)
    ?_ actions (.inl rfl)
  rintro d action (rfl | rfl | rfl)
  · exact (after_of_isGenerated isDirectory none action hf).imp_right (.imp_right And.right)
  · rcases after_of_isGenerated isDirectory none action isGenerated_installedFile with
      h | h | ⟨-, h⟩
    · exact .inr (.inl h)
    · exact .inr (.inl h)
    · exact .inr (.inr h)
  · rcases after_of_missing isDirectory none action with h | ⟨-, h⟩
    · exact .inr (.inr h)
    · exact .inr (.inl h)

/-- A foreign file is in the place of the hook, or in the backup while the script is in place. -/
theorem run_actions_of_isForeign (hf : f.IsForeign) :
    let d := (Directory.mk isDirectory (some f) none).run (actions.map .action)
    d = .mk isDirectory (some f) none ∨
      isDirectory ∧ d = .mk isDirectory (some installedFile) (some f) := by
  refine run_actions_of_preserved
    (p := fun d => d = .mk isDirectory (some f) none ∨
      isDirectory ∧ d = .mk isDirectory (some installedFile) (some f))
    ?_ actions (.inl rfl)
  rintro d action (rfl | ⟨hdirectory, rfl⟩)
  · exact after_of_isForeign isDirectory none action hf
  · -- The script counts as ours, so the backup is left alone until it takes its place again.
    rcases after_of_isGenerated isDirectory (some f) action isGenerated_installedFile with
      h | h | ⟨-, h⟩
    · exact .inr ⟨hdirectory, h⟩
    · exact .inr ⟨hdirectory, h⟩
    · exact .inl h

/-- What is no text stays. -/
theorem run_actions_of_isBinary (hf : f.IsBinary) :
    (Directory.mk isDirectory (some f) none).run (actions.map .action) =
      .mk isDirectory (some f) none := by
  refine run_actions_of_preserved (p := fun d => d = .mk isDirectory (some f) none) ?_ actions rfl
  rintro d action rfl
  exact after_of_isBinary isDirectory none action hf

end Actions

/-! ### Nothing is lost without other tools -/

/-- The actions in one directory, whatever it holds. -/
structure Directory.IsSafe (d : Directory) : Prop where
  /-- Where the hook is not installed, both files are as before. -/
  install_failed : ∀ force failure, (d.perform (install force)).1 = .error failure →
    (d.perform (install force)).2 = d
  /-- Where the hook is not removed, both files are as before. -/
  uninstall_failed : ∀ failure, (d.perform uninstall).1 = .error failure →
    (d.perform uninstall).2 = d
  /-- A foreign hook is refused, unless installing is forced. -/
  foreign_refused : d.status = .ok .foreign →
    (d.perform (install false)).1 = .error (.hookExists name) ∧
      (d.perform uninstall).1 =
        .error (.hookNotRemoved name "Hook was not installed by cklint")
  /-- A hook that cannot be read is refused in any case. -/
  unreadable_refused : ∀ failure, d.status = .error failure →
    (∀ force, (d.perform (install force)).1 = .error failure) ∧
      (d.perform uninstall).1 = .error failure
  /-- Nothing else keeps the hook from being installed where there is a directory. -/
  install_ok : ∀ force, (d.perform (install force)).1 = .ok () ↔
    d.isDirectory ∧ ∃ s, d.status = .ok s ∧ (s = .foreign → force)
  /-- After it has been installed, the hook is ours and everybody may execute it. -/
  installed : ∀ force, (d.perform (install force)).1 = .ok () →
    (d.perform (install force)).2.status = .ok .installed ∧
      ∃ f, (d.perform (install force)).2.hook = some f ∧ f.executable

theorem Directory.isSafe (d : Directory) : d.IsSafe where
  install_failed _ _ := snd_perform_install_of_error
  uninstall_failed _ := snd_perform_uninstall_of_error
  foreign_refused h := by
    rw [perform_install, perform_uninstall, h]
    exact ⟨rfl, rfl⟩
  unreadable_refused failure h := by
    refine ⟨fun force => ?_, ?_⟩
    · rw [perform_install, h]
    · rw [perform_uninstall, h]
  install_ok _ := fst_perform_install_eq_ok_iff
  installed _ h :=
    ⟨status_of_isGenerated (hook_of_perform_install h) isGenerated_installedFile,
      installedFile, hook_of_perform_install h, executable_installedFile⟩

/-- From a directory without a backup, installing and removing the hook leads to few directories,
and none of them has lost a foreign file: it is in the place of the hook or in the backup, and
removing the hook puts it back. In no directory whatever does a refusal change a file. -/
theorem run_actions (isDirectory : Bool) (original : Option File) (actions : List Action) :
    let start : Directory := ⟨isDirectory, original, none⟩
    let d := start.run (actions.map .action)
    (∀ f, original = some f → f.IsForeign →
      (d = start ∨ d = ⟨isDirectory, some installedFile, some f⟩) ∧
        (d ≠ start → d.perform uninstall = (.ok true, start)) ∧
        ∀ e, d.perform uninstall = (.ok true, e) → e = start) ∧
    (∀ f, original = some f → f.IsBinary → d = start) ∧
    (original = none → d = start ∨ d = ⟨isDirectory, some installedFile, none⟩) ∧
    (∀ f, original = some f → f.IsGenerated →
      d = start ∨ d = ⟨isDirectory, some installedFile, none⟩ ∨ d = ⟨isDirectory, none, none⟩) ∧
    ∀ e : Directory, e.IsSafe := by
  intro start d
  refine ⟨?_, ?_, ?_, ?_, Directory.isSafe⟩
  · rintro f rfl hf
    have hreached := run_actions_of_isForeign isDirectory actions hf
    have hback : d ≠ start → d.perform uninstall = (.ok true, start) := by
      intro hne
      obtain ⟨hdirectory, hd⟩ := hreached.resolve_left hne
      have hstatus : d.status = .ok .installed :=
        status_of_isGenerated (congrArg Directory.hook hd) isGenerated_installedFile
      refine perform_uninstall_eq_ok_true_iff.mpr ⟨?_, hstatus, ?_⟩
      · exact (congrArg Directory.isDirectory hd).trans hdirectory
      · rw [show d = _ from hd]
    refine ⟨hreached.imp_right And.right, hback, fun e he => ?_⟩
    by_cases hd : d = start
    · -- The foreign file itself is never removed, so there is no such `e`.
      have hstatus : d.status = .ok .foreign := status_of_isForeign (congrArg Directory.hook hd) hf
      have hinstalled := (perform_uninstall_eq_ok_true_iff.mp he).2.1
      rw [hstatus] at hinstalled
      cases hinstalled
    · rw [hback hd] at he
      exact (congrArg Prod.snd he).symm
  · rintro f rfl hf
    exact run_actions_of_isBinary isDirectory actions hf
  · rintro rfl
    exact run_actions_of_none isDirectory actions
  · rintro f rfl hf
    exact run_actions_of_isGenerated isDirectory actions hf

/-- A hook of somebody else is backed up, and put back. -/
theorem run_actions_restored :
    let f : File := { content := encode "exit 0".toList }
    let d := (Directory.mk true (some f) none).run ([.install true, .status].map .action)
    f.IsForeign ∧ d = ⟨true, some installedFile, some f⟩ ∧
      d.perform uninstall = (.ok true, ⟨true, some f, none⟩) := by
  intro f d
  have hf : f.IsForeign := ⟨"exit 0".toList, rfl, by decide⟩
  have hd : d = ⟨true, some installedFile, some f⟩ := by
    have hrun : d = ((Directory.mk true (some f) none).next (.action (.install true))).run
        [.action .status] := run_cons _ _ _
    rw [hrun, Directory.next, after_install_of_isForeign none hf, run_cons, run_nil,
      Directory.next, Directory.after, perform_status]
  have hne : d ≠ ⟨true, some f, none⟩ := by
    rw [hd]
    simp
  obtain ⟨-, hback, -⟩ := (run_actions true (some f) [.install true, .status]).1 f rfl hf
  exact ⟨hf, hd, hback hne⟩

/-! ### What other tools write -/

/-- The bytes of the two files. -/
def Directory.contents (d : Directory) : List (List UInt8) :=
  (d.hook.toList ++ d.backup.toList).map File.content

theorem mem_contents {d : Directory} {bytes : List UInt8} :
    bytes ∈ d.contents ↔
      (∃ f, d.hook = some f ∧ f.content = bytes) ∨ ∃ f, d.backup = some f ∧ f.content = bytes := by
  simp [Directory.contents]

/-- Bytes that are none of our scripts. -/
def IsForeignContent (bytes : List UInt8) : Prop := ∀ text, bytes = encode text → ¬isGenerated text

theorem IsForeignContent.not_isGenerated {bytes : List UInt8} (h : IsForeignContent bytes)
    {f : File} (hf : f.content = bytes) : ¬f.IsGenerated := by
  rintro ⟨text, hcontent, hgenerated⟩
  exact h text (hf.symm.trans hcontent) hgenerated

/-- An action loses foreign bytes exactly if it forces the hook over another foreign file while the
backup holds them. -/
theorem after_loses_iff {d : Directory} {action : Action} {bytes : List UInt8}
    (hforeign : IsForeignContent bytes) :
    (bytes ∈ d.contents ∧ bytes ∉ (d.after action).contents) ↔
      action = .install true ∧ d.isDirectory ∧ d.status = .ok .foreign ∧
        (∃ f, d.backup = some f ∧ f.content = bytes) ∧
        ∀ f, d.hook = some f → f.content ≠ bytes := by
  constructor
  · -- Apart from the forced install, an action overwrites or removes nothing but our own script.
    rintro ⟨hmem, hlost⟩
    rcases after_cases d action with h | ⟨-, hs, h⟩ | ⟨haction, hd, hs, h⟩ | ⟨-, hs, h⟩
    · rw [h] at hlost
      exact absurd hmem hlost
    · rw [h, mem_contents, not_or] at hlost
      obtain ⟨f, hf, hcontent⟩ := (mem_contents.mp hmem).resolve_right hlost.2
      exfalso
      rcases hs with hs | hs
      · obtain ⟨g, hg, hgenerated⟩ := exists_isGenerated_of_status hs
        rw [hf, Option.some.injEq] at hg
        exact hforeign.not_isGenerated hcontent (hg ▸ hgenerated)
      · rw [hook_eq_none_of_status hs] at hf
        cases hf
    · rw [h, mem_contents, not_or] at hlost
      have hhook : ¬∃ f, d.hook = some f ∧ f.content = bytes := hlost.2
      refine ⟨haction, hd, hs, (mem_contents.mp hmem).resolve_left hhook, ?_⟩
      exact fun f hf hcontent => hhook ⟨f, hf, hcontent⟩
    · rw [h, mem_contents, not_or] at hlost
      obtain ⟨f, hf, hcontent⟩ := (mem_contents.mp hmem).resolve_right hlost.1
      obtain ⟨g, hg, hgenerated⟩ := exists_isGenerated_of_status hs
      rw [hf, Option.some.injEq] at hg
      exact absurd (hg ▸ hgenerated) (hforeign.not_isGenerated hcontent)
  · rintro ⟨rfl, hd, hs, hbackup, hhook⟩
    refine ⟨mem_contents.mpr (.inr hbackup), ?_⟩
    have hafter : d.after (.install true) =
        { d with hook := some installedFile, backup := d.hook } := by
      rw [Directory.after, perform_install, hs]
      exact congrArg Prod.snd (if_pos hd)
    rw [hafter, mem_contents]
    rintro (⟨f, hf, hcontent⟩ | ⟨f, hf, hcontent⟩)
    · rw [← Option.some.inj hf] at hcontent
      exact hforeign.not_isGenerated hcontent isGenerated_installedFile
    · exact hhook f hf hcontent

theorem status_ne_foreign_of_hook {d : Directory} (h : d.hook = some installedFile) :
    d.status ≠ .ok .foreign := by
  rw [status_of_isGenerated h isGenerated_installedFile]
  simp

/-- As long as nobody else writes the hook file, a foreign one and a backup are never there
together. -/
theorem run_of_no_write {events : List Event} (hwrite : ∀ content, .write content ∉ events)
    {d : Directory} (h : d.backup = none ∨ d.status ≠ .ok .foreign) :
    (d.run events).backup = none ∨ (d.run events).status ≠ .ok .foreign := by
  induction events generalizing d with
  | nil => exact h
  | cons event events ih =>
    refine ih (fun content hmem => hwrite content (List.mem_cons_of_mem _ hmem)) ?_
    cases event with
    | write content => exact absurd List.mem_cons_self (hwrite content)
    | delete =>
      refine .inr ?_
      rw [Directory.next, status_eq_missing rfl]
      simp
    | action action =>
      rw [Directory.next]
      rcases after_cases d action with hd | ⟨-, -, hd⟩ | ⟨-, -, -, hd⟩ | ⟨-, -, hd⟩
      · rwa [hd]
      · exact .inr (status_ne_foreign_of_hook (by rw [hd]))
      · exact .inr (status_ne_foreign_of_hook (by rw [hd]))
      · exact .inl (by rw [hd])

theorem isForeign_of_not_isGenerated {text : List Char} (h : ¬isGenerated text) (mode : Nat) :
    File.IsForeign ⟨encode text, mode⟩ := ⟨text, rfl, h⟩

theorem isForeignContent_encode {text : List Char} (h : ¬isGenerated text) :
    IsForeignContent (encode text) := by
  intro other heq
  have htext : some text = some other := by rw [← decode?_encode, heq, decode?_encode]
  rwa [← Option.some.inj htext]

/-- One tool writes the hook file, it is backed up, and another tool writes the file. -/
def twoTools (a b : List Char) : List Event :=
  [.write (encode a), .action (.install true), .write (encode b)]

theorem run_twoTools {a b : List Char} (ha : ¬isGenerated a) :
    ({} : Directory).run (twoTools a b) =
      { hook := some ⟨encode b, 0o755⟩, backup := some { content := encode a } } := by
  have hfirst : ({} : Directory).next (.write (encode a)) = ⟨true, some ⟨encode a, 0o644⟩, none⟩ :=
    rfl
  have hsecond := after_install_of_isForeign none (isForeign_of_not_isGenerated ha 0o644)
  rw [twoTools, run_cons, hfirst, run_cons, Directory.next, hsecond, run_cons, run_nil,
    Directory.next, Directory.write, if_pos rfl]
  rfl

/-- Whatever the two tools write, what the first one wrote is lost when the hook is forced again. -/
theorem notMem_contents_twoTools {a b : List Char} (ha : ¬isGenerated a) (hb : ¬isGenerated b)
    (hne : encode b ≠ encode a) :
    encode a ∈ (({} : Directory).run (twoTools a b)).contents ∧
      encode a ∉ ((({} : Directory).run (twoTools a b)).after (.install true)).contents := by
  rw [after_loses_iff (isForeignContent_encode ha), run_twoTools ha]
  refine ⟨rfl, rfl, status_of_isForeign rfl (isForeign_of_not_isGenerated hb _), ⟨_, rfl, rfl⟩, ?_⟩
  rintro f hf
  rwa [← Option.some.inj hf]

/-- A step of a run loses foreign bytes exactly if it forces the hook over another foreign file
while the backup holds them; and never in a run that starts without a backup and in which nobody
else writes the hook file. -/
theorem run_loses_iff (start : Directory) (events : List Event) (action : Action)
    {bytes : List UInt8} (hforeign : IsForeignContent bytes) :
    let d := start.run events
    ((bytes ∈ d.contents ∧ bytes ∉ (d.after action).contents) ↔
      action = .install true ∧ d.isDirectory ∧ d.status = .ok .foreign ∧
        (∃ f, d.backup = some f ∧ f.content = bytes) ∧
        ∀ f, d.hook = some f → f.content ≠ bytes) ∧
    (start.backup = none → (∀ content, .write content ∉ events) → bytes ∈ d.contents →
      bytes ∈ (d.after action).contents) := by
  intro d
  refine ⟨after_loses_iff hforeign, fun hstart hwrite hmem => ?_⟩
  by_contra hlost
  obtain ⟨-, -, hs, ⟨f, hf, -⟩, -⟩ := (after_loses_iff hforeign).mp ⟨hmem, hlost⟩
  rcases run_of_no_write hwrite (.inl hstart) with hbackup | hstatus
  · rw [hbackup] at hf
    cases hf
  · exact hstatus hs

/-- A backup is lost when the hook is forced again over another tool, and is kept else. -/
theorem run_loses_iff_twoTools :
    let bytes := encode "exec a".toList
    let d := ({} : Directory).run (twoTools "exec a".toList "exec b".toList)
    let start : Directory := { hook := some { content := bytes } }
    IsForeignContent bytes ∧ bytes ∈ d.contents ∧ bytes ∉ (d.after (.install true)).contents ∧
      bytes ∈ ((start.run [.action (.install true)]).after .uninstall).contents := by
  intro bytes d start
  have hforeign : IsForeignContent bytes := isForeignContent_encode (by decide)
  have hd := run_twoTools (a := "exec a".toList) (b := "exec b".toList) (by decide)
  have hlost := (run_loses_iff {} (twoTools "exec a".toList "exec b".toList) (.install true)
    hforeign).1.mpr
  have hkept := (run_loses_iff start [.action (.install true)] .uninstall hforeign).2 rfl (by simp)
  obtain ⟨hmem, hlost⟩ := hlost (by
    rw [hd]
    refine ⟨rfl, rfl, status_of_isForeign rfl (isForeign_of_not_isGenerated (by decide) _),
      ⟨_, rfl, rfl⟩, ?_⟩
    rintro f hf
    rw [← Option.some.inj hf]
    decide)
  refine ⟨hforeign, hmem, hlost, hkept ?_⟩
  have hforced := after_install_of_isForeign none
    (isForeign_of_not_isGenerated (show ¬isGenerated "exec a".toList by decide) 0o644)
  rw [run_cons, run_nil, Directory.next, hforced]
  exact mem_contents.mpr (.inr ⟨_, rfl, rfl⟩)

/-- It is not so that no foreign file is ever lost. -/
theorem not_forall_mem_contents :
    ¬∀ (start : Directory) (events : List Event) (action : Action) (bytes : List UInt8),
      IsForeignContent bytes → bytes ∈ (start.run events).contents →
      bytes ∈ ((start.run events).after action).contents := by
  intro hkept
  obtain ⟨hmem, hlost⟩ := notMem_contents_twoTools (a := "exec a".toList) (b := "exec b".toList)
    (by decide) (by decide) (by decide)
  exact hlost (hkept {} _ (.install true) _ (isForeignContent_encode (by decide)) hmem)

end CommitLint.Hook
