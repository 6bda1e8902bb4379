import CommitLint.Proofs.Text.Pieces

/-!
# Maximal runs

A character that separates parts the runs before it from those after it
(`runsWithout_append_cons`), and everything about runs follows from this. `MaximalRuns` says what
they are: the text is its runs, with separators between them and perhaps at its ends. A text has
runs in one way (`maximalRuns_iff`).
-/

namespace CommitLint.Text

section

variable {p : Char → Bool}

theorem runsWithout_append_cons {c : Char} (hc : p c) (s t : List Char) :
    runsWithout p (s ++ c :: t) = runsWithout p s ++ runsWithout p t := by
  simp only [runsWithout, piecesBy_eq_splitOnP]
  rw [List.splitOnP_append_cons s t hc, List.filter_append]

theorem runsWithout_of_forall {s : List Char} (h : ∀ c ∈ s, p c) : runsWithout p s = [] := by
  induction s with
  | nil => rfl
  | cons c s ih =>
    obtain ⟨hc, hs⟩ := List.forall_mem_cons.mp h
    have hparted := runsWithout_append_cons hc [] s
    rwa [List.nil_append, ih hs] at hparted

theorem runsWithout_of_plain {run : List Char} (hne : run ≠ []) (h : ∀ c ∈ run, p c = false) :
    runsWithout p run = [run] := by
  rw [runsWithout, piecesBy_eq_splitOnP, List.splitOnP_eq_singleton h]
  simp [hne]

/-- Separators at the end make no difference. -/
theorem runsWithout_append_of_forall {ending : List Char} (h : ∀ c ∈ ending, p c)
    (s : List Char) : runsWithout p (s ++ ending) = runsWithout p s := by
  cases ending with
  | nil => rw [List.append_nil]
  | cons c ending =>
    obtain ⟨hc, hending⟩ := List.forall_mem_cons.mp h
    rw [runsWithout_append_cons hc, runsWithout_of_forall hending, List.append_nil]

/-- Nor do separators at the beginning. -/
theorem runsWithout_append_of_forall_left {start : List Char} (h : ∀ c ∈ start, p c)
    (s : List Char) : runsWithout p (start ++ s) = runsWithout p s := by
  induction start with
  | nil => rfl
  | cons c start ih =>
    obtain ⟨hc, hstart⟩ := List.forall_mem_cons.mp h
    exact (runsWithout_append_cons hc [] (start ++ s)).trans (ih hstart)

/-- The runs of characters that do not separate, in a text: behind each of them the text ends or a
separator follows. -/
inductive MaximalRuns (p : Char → Bool) : List Char → List (List Char) → Prop
  | none {gap : List Char} : (∀ c ∈ gap, p c) → MaximalRuns p gap []
  | run {gap run rest : List Char} {more : List (List Char)} : (∀ c ∈ gap, p c) → run ≠ [] →
      (∀ c ∈ run, p c = false) → (∀ c ∈ rest.head?, p c) → MaximalRuns p rest more →
      MaximalRuns p (gap ++ run ++ rest) (run :: more)

theorem MaximalRuns.runsWithout_eq {s : List Char} {runs : List (List Char)}
    (h : MaximalRuns p s runs) : runsWithout p s = runs := by
  induction h with
  | none hgap => exact runsWithout_of_forall hgap
  | @run gap run rest more hgap hne hrun hrest _ ih =>
    rw [List.append_assoc, runsWithout_append_of_forall_left hgap, ← ih]
    cases rest with
    | nil =>
      rw [List.append_nil, runsWithout_of_plain hne hrun]
      rfl
    | cons c rest =>
      have hc : p c := hrest c rfl
      have hrest' : runsWithout p (c :: rest) = runsWithout p rest :=
        runsWithout_append_cons hc [] rest
      rw [runsWithout_append_cons hc, runsWithout_of_plain hne hrun, hrest', List.singleton_append]

theorem exists_maximalRuns (p : Char → Bool) (s : List Char) : ∃ runs, MaximalRuns p s runs := by
  induction s with
  | nil => exact ⟨[], .none (List.forall_mem_nil _)⟩
  | cons c s ih =>
    obtain ⟨runs, h⟩ := ih
    cases hc : p c with
    | true =>
      -- One more separator before the first run.
      cases h with
      | none hgap => exact ⟨[], .none (List.forall_mem_cons.mpr ⟨hc, hgap⟩)⟩
      | run hgap hne hrun hrest hmore =>
        exact ⟨_, .run (List.forall_mem_cons.mpr ⟨hc, hgap⟩) hne hrun hrest hmore⟩
    | false =>
      by_cases hhead : ∀ d ∈ s.head?, p d
      · exact ⟨_, @MaximalRuns.run p [] [c] s runs (List.forall_mem_nil _) (List.cons_ne_nil c [])
          (List.forall_mem_singleton.mpr hc) hhead h⟩
      -- The text begins with its first run, which the character makes longer.
      · cases h with
        | none hgap =>
          exact absurd (fun d hd => hgap d (List.mem_of_mem_head? hd)) hhead
        | @run gap run rest more hgap hne hrun hrest hmore =>
          cases gap with
          | nil =>
            exact ⟨_, @MaximalRuns.run p [] (c :: run) rest more (List.forall_mem_nil _)
              (List.cons_ne_nil c run) (List.forall_mem_cons.mpr ⟨hc, hrun⟩) hrest hmore⟩
          | cons d gap =>
            refine absurd (fun e he => hgap e ?_) hhead
            obtain rfl := Option.some_inj.mp he
            exact List.mem_cons_self

theorem maximalRuns_iff {s : List Char} {runs : List (List Char)} :
    MaximalRuns p s runs ↔ runsWithout p s = runs := by
  refine ⟨MaximalRuns.runsWithout_eq, ?_⟩
  rintro rfl
  obtain ⟨runs, h⟩ := exists_maximalRuns p s
  rwa [h.runsWithout_eq]

end

end CommitLint.Text
