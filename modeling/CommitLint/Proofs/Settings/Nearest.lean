import CommitLint.Settings.Locate
import Mathlib.Data.List.Infix
import Mathlib.Logic.Function.Iterate

/-!
# The nearest file of settings

The search for the settings of a project goes from a directory to the one above it, and in each of
them through the names that a file of settings may have. As a loop (`Search.step`) it keeps two
things: every directory that was left is bare (`Search.IsSound.step`), and what will be found in the
end stays the same (`Search.outcome_step`). It ends, for a path can be shortened only so many times
(`Search.turns_step_lt`).

What is found is therefore the first file of the nearest directory that has any (`IsNearest`).
-/

namespace CommitLint.Settings

variable {t : FileTree} {directory here file : Path}

/-! ### In one directory -/

/-- A directory without a file of settings. -/
def IsBare (t : FileTree) (directory : Path) : Prop :=
  ∀ name ∈ fileNames, t.exists? (directory ++ name) = false

/-- The file of settings in a directory, with no file of a preferred name beside it. -/
def IsFirstIn (t : FileTree) (directory file : Path) : Prop :=
  ∃ preferred name others, fileNames = preferred ++ name :: others ∧ file = directory ++ name ∧
    t.exists? file = true ∧ ∀ other ∈ preferred, t.exists? (directory ++ other) = false

theorem fileIn?_eq_none_iff : fileIn? t directory = none ↔ IsBare t directory := by
  rw [fileIn?, List.find?_eq_none, List.forall_mem_map]
  simp only [Bool.not_eq_true]
  rfl

theorem fileIn?_eq_some_iff : fileIn? t directory = some file ↔ IsFirstIn t directory file := by
  rw [fileIn?, List.find?_eq_some_iff_append]
  constructor
  · rintro ⟨hexists, before, after, heq, habsent⟩
    obtain ⟨preferred, rest, hnames, rfl, hrest⟩ := List.map_eq_append_iff.mp heq
    obtain ⟨name, others, rfl, rfl, -⟩ := List.map_eq_cons_iff.mp hrest
    refine ⟨preferred, name, others, hnames, rfl, hexists, fun other hother => ?_⟩
    exact Bool.not_eq_true' _ ▸ habsent _ (List.mem_map_of_mem hother)
  · rintro ⟨preferred, name, others, hnames, rfl, hexists, habsent⟩
    refine ⟨hexists, preferred.map (directory ++ ·), others.map (directory ++ ·), ?_, ?_⟩
    · rw [hnames, List.map_append, List.map_cons]
    · exact List.forall_mem_map.mpr fun other hother => by rw [habsent other hother]; rfl

theorem IsFirstIn.not_isBare (h : IsFirstIn t directory file) : ¬IsBare t directory := by
  intro hbare
  rw [← fileIn?_eq_none_iff, fileIn?_eq_some_iff.mpr h] at hbare
  cases hbare

/-! ### From directory to directory -/

theorem projectFile?_nil (t : FileTree) : projectFile? t [] = fileIn? t [] := by
  rw [projectFile?, List.reverse_nil, nearestFile?]

theorem projectFile?_concat (t : FileTree) (above : Path) (name : String) :
    projectFile? t (above ++ [name]) =
      (fileIn? t (above ++ [name])).or (projectFile? t above) := by
  rw [projectFile?, List.reverse_append, List.reverse_singleton, List.singleton_append,
    nearestFile?, List.reverse_cons, List.reverse_reverse]
  cases fileIn? t (above ++ [name]) <;> rfl

/-- The first file of settings in the nearest directory, of one and those above it, that has any. -/
def IsNearest (t : FileTree) (here file : Path) : Prop :=
  ∃ directory, directory <+: here ∧ IsFirstIn t directory file ∧
    ∀ nearer, nearer <+: here → directory.length < nearer.length → IsBare t nearer

theorem IsNearest.unique {file' : Path} (h : IsNearest t here file) (h' : IsNearest t here file') :
    file = file' := by
  obtain ⟨d, hd, hfirst, hbare⟩ := h
  obtain ⟨d', hd', hfirst', hbare'⟩ := h'
  have hle : d'.length ≤ d.length := not_lt.mp fun hlt => hfirst'.not_isBare (hbare d' hd' hlt)
  have hge : d.length ≤ d'.length := not_lt.mp fun hlt => hfirst.not_isBare (hbare' d hd hlt)
  obtain rfl := (List.prefix_of_prefix_length_le hd hd' hge).eq_of_length (le_antisymm hge hle)
  rw [← fileIn?_eq_some_iff] at hfirst hfirst'
  exact Option.some.inj (hfirst.symm.trans hfirst')

/-- A search that is about to look into a directory, or has ended. -/
inductive Search where
  | into (directory : Path)
  | ended (found : Option Path)

namespace Search

/-- One turn: look into the directory, and go to the one above it if nothing is there. -/
def step (t : FileTree) : Search → Search
  | into directory =>
    match fileIn? t directory with
    | some file => ended (some file)
    | none => if directory = [] then ended none else into directory.dropLast
  | ended found => ended found

/-- The turns that are left at most. -/
def turns : Search → Nat
  | into directory => directory.length + 1
  | ended _ => 0

theorem turns_step_lt (t : FileTree) {s : Search} (h : s.turns ≠ 0) :
    (s.step t).turns < s.turns := by
  cases s with
  | ended found => exact absurd rfl h
  | into directory =>
    rw [step]
    split
    · exact Nat.succ_pos _
    · split_ifs with hroot
      · exact Nat.succ_pos _
      · have hpos : 0 < directory.length := List.length_pos_of_ne_nil hroot
        simp only [turns, List.length_dropLast]
        omega

/-- After as many turns as were left, a search has ended. -/
theorem turns_iterate_step (t : FileTree) {s : Search} {n : Nat} (h : s.turns ≤ n) :
    ((step t)^[n] s).turns = 0 := by
  induction n generalizing s with
  | zero => exact Nat.le_zero.mp h
  | succ n ih =>
    rw [Function.iterate_succ_apply]
    apply ih
    by_cases hs : s.turns = 0
    · cases s with
      | ended found => exact Nat.zero_le n
      | into directory => cases hs
    · exact Nat.le_of_lt_succ (Nat.lt_of_lt_of_le (turns_step_lt t hs) h)

/-- What a search finds in the end. -/
def outcome (t : FileTree) : Search → Option Path
  | into directory => projectFile? t directory
  | ended found => found

theorem outcome_step (t : FileTree) (s : Search) : (s.step t).outcome t = s.outcome t := by
  cases s with
  | ended found => rfl
  | into directory =>
    rw [step]
    rcases List.eq_nil_or_concat' directory with rfl | ⟨above, name, rfl⟩
    · rw [outcome.eq_1 t [], projectFile?_nil]
      cases fileIn? t [] <;> rfl
    · rw [outcome.eq_1 t (above ++ [name]), projectFile?_concat]
      cases fileIn? t (above ++ [name]) with
      | some file => rfl
      | none =>
        simp only [List.append_eq_nil_iff, reduceCtorEq, and_false, if_false,
          List.dropLast_concat]
        rfl

theorem outcome_iterate_step (t : FileTree) (n : Nat) (s : Search) :
    ((step t)^[n] s).outcome t = s.outcome t := by
  induction n generalizing s with
  | zero => rfl
  | succ n ih => rw [Function.iterate_succ_apply, ih, outcome_step]

/-- What a search from a directory has seen: the directories that it left are bare, and what it
ended with is right. -/
def IsSound (t : FileTree) (here : Path) : Search → Prop
  | into directory =>
    directory <+: here ∧
      ∀ nearer, nearer <+: here → directory.length < nearer.length → IsBare t nearer
  | ended (some file) => IsNearest t here file
  | ended none => ∀ directory, directory <+: here → IsBare t directory

theorem isSound_into (t : FileTree) (here : Path) : (into here).IsSound t here :=
  ⟨List.prefix_rfl, fun _ hnearer hlt => absurd hnearer.length_le (not_le.mpr hlt)⟩

theorem IsSound.step {s : Search} (h : s.IsSound t here) : (s.step t).IsSound t here := by
  match s, h with
  | ended _, h => exact h
  | into directory, ⟨hdirectory, hbare⟩ =>
    rw [Search.step]
    split
    next file hfile => exact ⟨directory, hdirectory, fileIn?_eq_some_iff.mp hfile, hbare⟩
    next hnone =>
      -- The directory itself joins those that are bare.
      have hall : ∀ nearer, nearer <+: here → directory.length ≤ nearer.length →
          IsBare t nearer := by
        intro nearer hnearer hle
        rcases hle.lt_or_eq with hlt | heq
        · exact hbare nearer hnearer hlt
        · obtain rfl := (List.prefix_of_prefix_length_le hdirectory hnearer hle).eq_of_length heq
          exact fileIn?_eq_none_iff.mp hnone
      split_ifs with hroot
      · exact fun other hother => hall other hother (hroot ▸ Nat.zero_le _)
      · refine ⟨(List.dropLast_prefix directory).trans hdirectory, fun nearer hnearer hlt => ?_⟩
        rw [List.length_dropLast] at hlt
        exact hall nearer hnearer (by omega)

theorem IsSound.iterate_step {s : Search} (h : s.IsSound t here) (n : Nat) :
    ((Search.step t)^[n] s).IsSound t here := by
  induction n generalizing s with
  | zero => exact h
  | succ n ih =>
    rw [Function.iterate_succ_apply]
    exact ih h.step

/-- A search from a directory ends with the file for work in it. -/
theorem iterate_step_into (t : FileTree) {here : Path} {n : Nat} (h : here.length < n) :
    (step t)^[n] (into here) = ended (projectFile? t here) := by
  have hturns := turns_iterate_step t (s := into here) (n := n) h
  have houtcome := outcome_iterate_step t n (into here)
  cases hend : (step t)^[n] (into here) with
  | into directory =>
    rw [hend] at hturns
    cases hturns
  | ended found =>
    rw [hend] at houtcome
    exact congrArg ended houtcome

theorem isSound_ended (t : FileTree) (here : Path) :
    (ended (projectFile? t here)).IsSound t here :=
  iterate_step_into t (Nat.lt_succ_self here.length) ▸ (isSound_into t here).iterate_step _

end Search

/-! ### What is found -/

theorem isNearest_of_projectFile? (h : projectFile? t here = some file) :
    IsNearest t here file := by
  have hsound := Search.isSound_ended t here
  rwa [h] at hsound

theorem isBare_of_projectFile? (h : projectFile? t here = none) (hdirectory : directory <+: here) :
    IsBare t directory := by
  have hsound := Search.isSound_ended t here
  rw [h] at hsound
  exact hsound directory hdirectory

/-- The search ends within one turn for each directory on its way, with the first file of the
nearest directory that has any; it finds nothing exactly if no directory on its way has a file. -/
theorem projectFile?_exact (t : FileTree) (here : Path) :
    (∀ n, here.length < n →
      (Search.step t)^[n] (.into here) = .ended (projectFile? t here)) ∧
    (∀ file, projectFile? t here = some file ↔ IsNearest t here file) ∧
    (projectFile? t here = none ↔ ∀ directory, directory <+: here → IsBare t directory) := by
  refine ⟨fun n hn => Search.iterate_step_into t hn,
    fun file => ⟨isNearest_of_projectFile?, fun hnearest => ?_⟩,
    fun hnone directory hdirectory => isBare_of_projectFile? hnone hdirectory, fun hbare => ?_⟩
  · cases hfound : projectFile? t here with
    | some file' => rw [(isNearest_of_projectFile? hfound).unique hnearest]
    | none =>
      obtain ⟨directory, hdirectory, hfirst, -⟩ := hnearest
      exact absurd (isBare_of_projectFile? hfound hdirectory) hfirst.not_isBare
  · cases hfound : projectFile? t here with
    | none => rfl
    | some file =>
      obtain ⟨directory, hdirectory, hfirst, -⟩ := isNearest_of_projectFile? hfound
      exact absurd (hbare directory hdirectory) hfirst.not_isBare

/-- A hidden file nearby goes before a visible one further up. -/
theorem projectFile?_exact_hidden :
    let t : FileTree :=
      ⟨[(["cklint.toml"], ""), (["a", ".cklint.toml"], "")], [["a", "b"]], false⟩
    (Search.step t)^[3] (.into ["a", "b"]) = .ended (some ["a", ".cklint.toml"]) ∧
      IsNearest t ["a", "b"] ["a", ".cklint.toml"] := by
  intro t
  have hfile : projectFile? t ["a", "b"] = some ["a", ".cklint.toml"] := by decide
  obtain ⟨hturns, hnearest, -⟩ := projectFile?_exact t ["a", "b"]
  exact ⟨hfile ▸ hturns 3 (by decide), (hnearest _).mp hfile⟩

end CommitLint.Settings
