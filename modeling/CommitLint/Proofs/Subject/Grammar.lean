import CommitLint.Proofs.Text.Pieces
import CommitLint.Proofs.Text.Trim
import CommitLint.Subject

/-!
# The grammar of conventional subjects

A `Layout` is a conventional line cut where the grammar cuts it: a word, perhaps a text in
parentheses, perhaps an exclamation mark, a colon, and the rest. Its fields carry what the grammar
asks of the parts, so a layout is well formed by itself and `Layout.text` only has to write it
down.

* **Completeness** (`parse?_text`): the text of a layout is read as exactly its parts.
* **Soundness** (`exists_layout_of_parse?`): what is read is the text of a layout.
* **Uniqueness** (`Layout.eq_of_text_eq`): reading is a function and gives away every part but the
  rest, and the rest follows by cancelling.

Plain scopes, written as `render` writes them, are read back unchanged (`parse?_render`): cutting
at commas undoes joining with commas, and there is nothing to trim.
-/

namespace CommitLint.Subject

open Text

/-! ### Layouts -/

/-- A type as the grammar has it: some ASCII letters, digits and underscores. -/
def IsWord (type : List Char) : Prop := type ≠ [] ∧ ∀ c ∈ type, isNameChar c

instance : DecidablePred IsWord := fun type =>
  decidable_of_decidable_of_iff (p := type ≠ [] ∧ type.all isNameChar)
    (by rw [IsWord, List.all_eq_true])

/-- A text in parentheses, if there is one. -/
def scopeText : Option (List Char) → List Char
  | none => []
  | some raw => '(' :: raw ++ [')']

/-- An exclamation mark, if a change is breaking. -/
def breakingText (breaking : Bool) : List Char := if breaking then ['!'] else []

/-- A conventional line, cut into the parts that its grammar names. -/
@[ext]
structure Layout where
  type : List Char
  rawScope : Option (List Char)
  breaking : Bool
  /-- What follows the colon. -/
  rest : List Char
  isWord_type : IsWord type
  scope_plain : ∀ raw ∈ rawScope, ∀ c ∈ raw, c ≠ '(' ∧ c ≠ ')' ∧ c ≠ ':' ∧ c ≠ '\r' ∧ c ≠ '\n'
  rest_spaced : rest = [] ∨ ∃ text, rest = ' ' :: text ∧ '\n' ∉ text

/-- What stands before the colon. -/
def Layout.head (l : Layout) : List Char :=
  l.type ++ scopeText l.rawScope ++ breakingText l.breaking

/-- The line that a layout cuts. -/
def Layout.text (l : Layout) : List Char := l.head ++ ':' :: l.rest

/-- What a layout says: its parts, without the spaces before the description. -/
def Layout.subject (l : Layout) : Subject :=
  ⟨l.type, l.rawScope, l.breaking, l.rest.dropWhile (· == ' ')⟩

/-! ### Reading the parts -/

theorem isScopeChar_iff {c : Char} :
    isScopeChar c ↔ c ≠ '(' ∧ c ≠ ')' ∧ c ≠ ':' ∧ c ≠ '\r' ∧ c ≠ '\n' := by
  simp [isScopeChar, and_assoc]

theorem isRest_iff {s : List Char} :
    isRest s ↔ s = [] ∨ ∃ text, s = ' ' :: text ∧ '\n' ∉ text := by
  cases s with
  | nil => simp [isRest]
  | cons c s =>
    simp only [isRest, Bool.and_eq_true, beq_iff_eq, List.all_eq_true, bne_iff_ne]
    constructor
    · rintro ⟨rfl, hs⟩
      exact Or.inr ⟨s, rfl, fun h => hs _ h rfl⟩
    · rintro (h | ⟨text, h, htext⟩)
      · cases h
      · rw [List.cons_eq_cons] at h
        obtain ⟨rfl, rfl⟩ := h
        exact ⟨rfl, fun c hc hline => htext (hline ▸ hc)⟩

/-- A text in parentheses ends at the first character that may not stand in it. -/
theorem readScope?_scopeText {rawScope : Option (List Char)} {s : List Char}
    (hraw : ∀ raw ∈ rawScope, ∀ c ∈ raw, isScopeChar c) (hs : s.head? ≠ some '(') :
    readScope? (scopeText rawScope ++ s) = some (rawScope, s) := by
  cases rawScope with
  | none =>
    rw [scopeText, List.nil_append, readScope?.eq_def]
    split
    · simp at hs
    · rfl
  | some raw =>
    have hclose : ¬ isScopeChar ')' := by decide
    have htake : (raw ++ ')' :: s).takeWhile isScopeChar = raw := by
      rw [List.takeWhile_append_of_pos (hraw raw rfl), List.takeWhile_cons_of_neg hclose,
        List.append_nil]
    have hdrop : (raw ++ ')' :: s).dropWhile isScopeChar = ')' :: s := by
      rw [List.dropWhile_append_of_pos (hraw raw rfl), List.dropWhile_cons_of_neg hclose]
    have htext : scopeText (some raw) ++ s = '(' :: (raw ++ ')' :: s) := by simp [scopeText]
    rw [htext, readScope?]
    simp only [hdrop, htake]

theorem eq_scopeText_of_readScope? {s after : List Char} {rawScope : Option (List Char)}
    (h : readScope? s = some (rawScope, after)) :
    s = scopeText rawScope ++ after ∧ ∀ raw ∈ rawScope, ∀ c ∈ raw, isScopeChar c := by
  rw [readScope?.eq_def] at h
  split at h
  · rename_i t
    split at h
    · rename_i u hdrop
      rw [Option.some.injEq, Prod.mk.injEq] at h
      obtain ⟨rfl, rfl⟩ := h
      refine ⟨?_, fun raw hraw c hc => ?_⟩
      · have ht : t = t.takeWhile isScopeChar ++ ')' :: u := by
          rw [← hdrop, List.takeWhile_append_dropWhile]
        simp [scopeText, ← ht]
      · rw [Option.mem_some] at hraw
        exact List.all_eq_true.mp List.all_takeWhile c (hraw ▸ hc)
    · cases h
  · rw [Option.some.injEq, Prod.mk.injEq] at h
    obtain ⟨rfl, rfl⟩ := h
    exact ⟨rfl, fun _ hraw => by cases hraw⟩

theorem readBreaking_breakingText {s : List Char} (breaking : Bool) (hs : s.head? ≠ some '!') :
    readBreaking (breakingText breaking ++ s) = (breaking, s) := by
  cases breaking with
  | true => rfl
  | false =>
    rw [breakingText, if_neg Bool.false_ne_true, List.nil_append, readBreaking.eq_def]
    split
    · simp at hs
    · rfl

theorem eq_breakingText_of_readBreaking {s after : List Char} {breaking : Bool}
    (h : readBreaking s = (breaking, after)) : s = breakingText breaking ++ after := by
  rw [readBreaking.eq_def] at h
  split at h <;> rw [Prod.mk.injEq] at h <;> obtain ⟨rfl, rfl⟩ := h <;> rfl

/-- What reading a line comes down to: the parts are read one after the other. -/
theorem parse?_eq_some_iff {line : List Char} {s : Subject} :
    parse? line = some s ↔
      ∃ after rest, s.type = line.takeWhile isNameChar ∧ s.type ≠ [] ∧
        readScope? (line.dropWhile isNameChar) = some (s.rawScope, after) ∧
        readBreaking after = (s.breaking, ':' :: rest) ∧ isRest rest ∧
        s.description = rest.dropWhile (· == ' ') := by
  obtain ⟨type, rawScope, breaking, description⟩ := s
  simp only [parse?, Option.bind_eq_bind]
  constructor
  · intro h
    split at h
    · cases h
    · rename_i htype
      obtain ⟨⟨scope, after⟩, hscope, h⟩ := Option.bind_eq_some_iff.mp h
      dsimp only at h
      split at h
      · rename_i mark rest hmark
        split at h
        · rename_i hrest
          rw [Option.some.injEq, Subject.mk.injEq] at h
          obtain ⟨rfl, rfl, rfl, rfl⟩ := h
          exact ⟨after, rest, rfl, by simpa using htype, hscope, hmark, hrest, rfl⟩
        · cases h
      · cases h
  · rintro ⟨after, rest, rfl, htype, hscope, hmark, hrest, rfl⟩
    rw [if_neg (by simpa using htype), hscope]
    simp only [Option.bind_some, hmark, hrest, if_true]

/-! ### Reading and layouts -/

/-- A word at the beginning ends where no character of words follows. -/
theorem IsWord.takeWhile_append {type marks : List Char} (h : IsWord type)
    (hmarks : marks.takeWhile isNameChar = []) :
    (type ++ marks).takeWhile isNameChar = type ∧ (type ++ marks).dropWhile isNameChar = marks := by
  constructor
  · rw [List.takeWhile_append_of_pos h.2, hmarks, List.append_nil]
  · rw [List.dropWhile_append_of_pos h.2]
    calc marks.dropWhile isNameChar
        = marks.takeWhile isNameChar ++ marks.dropWhile isNameChar := by
          rw [hmarks, List.nil_append]
      _ = marks := List.takeWhile_append_dropWhile

theorem takeWhile_marks (rawScope : Option (List Char)) (breaking : Bool) (tail : List Char)
    (htail : tail.takeWhile isNameChar = []) :
    (scopeText rawScope ++ (breakingText breaking ++ tail)).takeWhile isNameChar = [] := by
  cases rawScope <;> cases breaking <;> first | exact htail | rfl

/-- **Completeness.** The text of a layout is read as the parts of the layout. -/
theorem parse?_text (l : Layout) : parse? l.text = some l.subject := by
  have htext : l.text =
      l.type ++ (scopeText l.rawScope ++ (breakingText l.breaking ++ ':' :: l.rest)) := by
    simp [Layout.text, Layout.head]
  obtain ⟨htake, hdrop⟩ := l.isWord_type.takeWhile_append
    (takeWhile_marks l.rawScope l.breaking (':' :: l.rest) rfl)
  rw [← htext] at htake hdrop
  refine parse?_eq_some_iff.mpr
    ⟨breakingText l.breaking ++ ':' :: l.rest, l.rest, htake.symm, l.isWord_type.1, ?_, ?_, ?_, rfl⟩
  · rw [hdrop]
    refine readScope?_scopeText (fun raw hraw c hc => ?_) ?_
    · exact isScopeChar_iff.mpr (l.scope_plain raw hraw c hc)
    · cases l.breaking <;> simp [breakingText]
  · exact readBreaking_breakingText l.breaking (by simp)
  · exact isRest_iff.mpr l.rest_spaced

/-- **Soundness.** What is read is what a layout of the line says. -/
theorem exists_layout_of_parse? {line : List Char} {s : Subject} (h : parse? line = some s) :
    ∃ l : Layout, l.text = line ∧ l.subject = s := by
  obtain ⟨after, rest, htype, hne, hscope, hmark, hrest, hdescription⟩ := parse?_eq_some_iff.mp h
  obtain ⟨hafter, hraw⟩ := eq_scopeText_of_readScope? hscope
  have hname : ∀ c ∈ s.type, isNameChar c := by
    rw [htype]
    exact List.all_eq_true.mp List.all_takeWhile
  refine ⟨⟨s.type, s.rawScope, s.breaking, rest, ⟨hne, hname⟩,
    fun raw hmem c hc => isScopeChar_iff.mp (hraw raw hmem c hc), isRest_iff.mp hrest⟩, ?_, ?_⟩
  -- Each part was cut off where the one before it ends, so glued together they are the line.
  · calc s.type ++ scopeText s.rawScope ++ breakingText s.breaking ++ ':' :: rest
        = s.type ++ (scopeText s.rawScope ++ (breakingText s.breaking ++ ':' :: rest)) := by
          simp
      _ = line.takeWhile isNameChar ++ line.dropWhile isNameChar := by
          rw [← eq_breakingText_of_readBreaking hmark, ← hafter, htype]
      _ = line := List.takeWhile_append_dropWhile
  · rw [Layout.subject, ← hdescription]

theorem parse?_isSome_iff {line : List Char} :
    (parse? line).isSome ↔ ∃ l : Layout, l.text = line := by
  constructor
  · intro h
    obtain ⟨s, hs⟩ := Option.isSome_iff_exists.mp h
    obtain ⟨l, hl, -⟩ := exists_layout_of_parse? hs
    exact ⟨l, hl⟩
  · rintro ⟨l, rfl⟩
    rw [parse?_text, Option.isSome_some]

/-- **Uniqueness.** A line has one layout. -/
theorem Layout.eq_of_text_eq {l m : Layout} (h : l.text = m.text) : l = m := by
  have hsubject : l.subject = m.subject := by
    rw [← Option.some.injEq, ← parse?_text, ← parse?_text, h]
  simp only [Layout.subject, Subject.mk.injEq] at hsubject
  obtain ⟨htype, hscope, hbreaking, -⟩ := hsubject
  -- Reading forgets how many spaces follow the colon, so the rest is compared in the text.
  have hrest : l.rest = m.rest := by
    simp only [Layout.text, Layout.head, htype, hscope, hbreaking] at h
    exact List.cons_inj_right _ |>.mp (List.append_cancel_left h)
  exact Layout.ext htype hscope hbreaking hrest

theorem Layout.colon_notMem_head (l : Layout) : ':' ∉ l.head := by
  have htype : ':' ∉ l.type := fun h => by
    have hcolon := l.isWord_type.2 _ h
    exact absurd hcolon (by decide)
  have hscope : ':' ∉ scopeText l.rawScope := by
    cases h : l.rawScope with
    | none => simp [scopeText]
    | some raw =>
      have hraw : ':' ∉ raw := fun hmem => (l.scope_plain raw h _ hmem).2.2.1 rfl
      simp [scopeText, hraw]
  have hbreaking : ':' ∉ breakingText l.breaking := by cases l.breaking <;> simp [breakingText]
  simp [head, htype, hscope, hbreaking]

/-- The first colon of the text of a layout is the one of the grammar. -/
theorem Layout.cutAt_text (l : Layout) : cutAt ':' l.text = some (l.head, l.rest) :=
  cutAt_append l.colon_notMem_head l.rest

/-! ### Scopes -/

/-- A scope of word characters, slashes and hyphens. -/
def IsScopeName (scope : List Char) : Prop :=
  scope ≠ [] ∧ ∀ c ∈ scope, isWordChar c ∨ c = '/' ∨ c = '-'

instance : DecidablePred IsScopeName := fun scope =>
  decidable_of_decidable_of_iff
    (p := scope ≠ [] ∧ scope.all fun c => isWordChar c || c == '/' || c == '-')
    (by simp [IsScopeName, or_assoc])

/-- The scopes of a text are its pieces between commas, trimmed, as far as they hold something. -/
theorem scopesOf_joinWith {ps : List (List Char)} (hne : ps ≠ []) (hps : ∀ p ∈ ps, ',' ∉ p) :
    scopesOf (joinWith [','] ps) = (ps.map trim).filter (!·.isEmpty) := by
  rw [scopesOf, pieces_joinWith hne hps]

theorem IsScopeName.isScopeChar {scope : List Char} (h : IsScopeName scope) :
    ∀ c ∈ scope, c ≠ ',' ∧ isBlank c = false ∧ isScopeChar c := by
  intro c hc
  rcases h.2 c hc with hword | rfl | rfl
  -- The marks are no word characters, so a word character is none of them.
  · have hne : ∀ d : Char, isWordChar d = false → c ≠ d := fun d hd hcd => by
      rw [hcd, hd] at hword
      cases hword
    exact ⟨hne _ (by decide), isBlank_eq_false_of_isWordChar hword, isScopeChar_iff.mpr
      ⟨hne _ (by decide), hne _ (by decide), hne _ (by decide), hne _ (by decide),
        hne _ (by decide)⟩⟩
  · decide
  · decide

theorem comma_notMem_of_isScopeName {scopes : List (List Char)}
    (h : ∀ s ∈ scopes, IsScopeName s) : ∀ s ∈ scopes, ',' ∉ s :=
  fun s hs hc => ((h s hs).isScopeChar _ hc).1 rfl

/-- Scope names are read back from what they are joined to. -/
theorem scopesOf_joinWith_of_isScopeName {scopes : List (List Char)} (hne : scopes ≠ [])
    (h : ∀ s ∈ scopes, IsScopeName s) : scopesOf (joinWith [','] scopes) = scopes := by
  have htrim : scopes.map trim = scopes :=
    (List.map_congr_left fun s hs =>
      trim_eq_self fun c hc => ((h s hs).isScopeChar c hc).2.1).trans (List.map_id scopes)
  rw [scopesOf_joinWith hne (comma_notMem_of_isScopeName h), htrim]
  exact List.filter_eq_self.mpr fun s hs => by simpa using (h s hs).1

/-! ### Rendered lines -/

/-- The text between the parentheses of a rendered line, which has them if there are scopes. -/
def rawScopeOf (scopes : List (List Char)) : Option (List Char) :=
  if scopes.isEmpty then none else some (joinWith [','] scopes)

/-- The layout of a rendered line. -/
def Layout.ofParts (type : List Char) (scopes : List (List Char)) (breaking : Bool)
    (description : List Char) (htype : IsWord type) (hscopes : ∀ s ∈ scopes, IsScopeName s)
    (hline : '\n' ∉ description) : Layout where
  type := type
  rawScope := rawScopeOf scopes
  breaking := breaking
  rest := ' ' :: description
  isWord_type := htype
  scope_plain := by
    intro raw hraw c hc
    rw [rawScopeOf] at hraw
    split at hraw
    · cases hraw
    · rw [Option.mem_some] at hraw
      subst hraw
      refine isScopeChar_iff.mp ?_
      rcases mem_joinWith hc with hcomma | ⟨s, hs, hc⟩
      · rw [List.mem_singleton.mp hcomma]
        decide
      · exact ((hscopes s hs).isScopeChar c hc).2.2
  rest_spaced := Or.inr ⟨description, rfl, hline⟩

theorem Layout.text_ofParts {type : List Char} {scopes : List (List Char)} {breaking : Bool}
    {description : List Char} (htype : IsWord type) (hscopes : ∀ s ∈ scopes, IsScopeName s)
    (hline : '\n' ∉ description) :
    (Layout.ofParts type scopes breaking description htype hscopes hline).text =
      render type scopes breaking description := by
  cases scopes <;>
    simp [Layout.ofParts, Layout.text, Layout.head, render, rawScopeOf, scopeText, breakingText]

/-- Reading undoes rendering. -/
theorem parse?_render {type : List Char} {scopes : List (List Char)} {breaking : Bool}
    {description : List Char} (htype : IsWord type) (hscopes : ∀ s ∈ scopes, IsScopeName s)
    (hline : '\n' ∉ description) (hstart : description.head? ≠ some ' ') :
    parse? (render type scopes breaking description) =
      some ⟨type, rawScopeOf scopes, breaking, description⟩ := by
  rw [← Layout.text_ofParts htype hscopes hline, parse?_text]
  simp [Layout.ofParts, Layout.subject, List.dropWhile_beq_eq_self_of_head?_ne hstart]

/-- The text between the parentheses of a rendered line is cut into the scopes. -/
theorem pieces_of_mem_rawScopeOf {scopes : List (List Char)} (h : ∀ s ∈ scopes, IsScopeName s) :
    ∀ raw ∈ rawScopeOf scopes, pieces ',' raw = scopes := by
  intro raw hraw
  cases scopes with
  | nil => cases hraw
  | cons s ss =>
    rw [rawScopeOf, List.isEmpty_cons, if_neg Bool.false_ne_true, Option.mem_some] at hraw
    rw [← hraw, pieces_joinWith (by simp) (comma_notMem_of_isScopeName h)]

/-- The scopes of a rendered line are those that it was rendered from. -/
theorem scopes_eq_of_rawScope_eq {s : Subject} {names : List (List Char)}
    (h : ∀ n ∈ names, IsScopeName n) (hs : s.rawScope = rawScopeOf names) : s.scopes = names := by
  rw [scopes, hs]
  cases names with
  | nil => rfl
  | cons n ns => exact scopesOf_joinWith_of_isScopeName (by simp) h

theorem Layout.scopes_eq_pieces (l : Layout)
    (hraw : ∀ raw ∈ l.rawScope, ∀ p ∈ pieces ',' raw, IsScopeName p) :
    ∀ raw ∈ l.rawScope, l.subject.scopes = pieces ',' raw := by
  intro raw h
  have hjoin := scopesOf_joinWith_of_isScopeName (pieces_ne_nil ',' raw) (hraw raw h)
  rw [Option.mem_def] at h
  simpa [Layout.subject, scopes, h, joinWith_pieces] using hjoin

theorem Layout.isScopeName_of_mem_scopes (l : Layout)
    (hraw : ∀ raw ∈ l.rawScope, ∀ p ∈ pieces ',' raw, IsScopeName p) :
    ∀ s ∈ l.subject.scopes, IsScopeName s := by
  intro s hs
  cases h : l.rawScope with
  | none => simp [Layout.subject, scopes, h] at hs
  | some raw =>
    rw [l.scopes_eq_pieces hraw raw h] at hs
    exact hraw raw h s hs

/-- A layout with plain scopes and one space after the colon is that of a rendered line. -/
theorem Layout.text_eq_render (l : Layout)
    (hraw : ∀ raw ∈ l.rawScope, ∀ p ∈ pieces ',' raw, IsScopeName p)
    (hspaces : (l.rest.takeWhile (· == ' ')).length = 1) :
    l.text = render l.type l.subject.scopes l.breaking l.subject.description := by
  have hspace : l.rest.takeWhile (· == ' ') = [' '] := by
    obtain ⟨c, hc⟩ := List.length_eq_one_iff.mp hspaces
    have hall := List.all_takeWhile (p := (· == ' ')) (l := l.rest)
    rw [hc] at hall ⊢
    simpa using hall
  have hrest : l.rest = ' ' :: l.subject.description :=
    calc l.rest = l.rest.takeWhile (· == ' ') ++ l.rest.dropWhile (· == ' ') :=
          List.takeWhile_append_dropWhile.symm
      _ = ' ' :: l.subject.description := by rw [hspace]; rfl
  have hscope : scopeText l.rawScope =
      if l.subject.scopes.isEmpty then [] else '(' :: joinWith [','] l.subject.scopes ++ [')'] := by
    cases h : l.rawScope with
    | none => simp [Layout.subject, scopes, h, scopeText]
    | some raw =>
      rw [l.scopes_eq_pieces hraw raw h, joinWith_pieces, if_neg (by simp), scopeText]
  rw [Layout.text, Layout.head, hscope, hrest, render, breakingText]

theorem Layout.head?_description (l : Layout) : l.subject.description.head? ≠ some ' ' := by
  intro h
  have hstop := List.head?_dropWhile_not (· == ' ') l.rest
  rw [Layout.subject] at h
  rw [h] at hstop
  exact Bool.noConfusion hstop

/-- Reading is exact. A line is conventional exactly if it has a layout; the layout is then
unique, and the parts of the line are those of the layout, its scopes being the trimmed pieces of
the text in parentheses. Without a layout there are no parts. Rendered parts are read back. -/
theorem parse?_exact (line : List Char) :
    ((parse? line).isSome ↔ ∃ l : Layout, l.text = line) ∧
    (∀ l m : Layout, l.text = line → m.text = line → l = m) ∧
    (∀ l : Layout, l.text = line →
      parse? line = some (parts line) ∧
      (parts line).type = l.type ∧ (parts line).rawScope = l.rawScope ∧
      (parts line).breaking = l.breaking ∧
      (parts line).description = l.rest.dropWhile (· == ' ') ∧
      (l.rawScope = none → (parts line).scopes = []) ∧
      ∀ raw ∈ l.rawScope, ∃ ps, ps ≠ [] ∧ (∀ p ∈ ps, ',' ∉ p) ∧ joinWith [','] ps = raw ∧
        (parts line).scopes = (ps.map trim).filter (!·.isEmpty)) ∧
    ((¬ ∃ l : Layout, l.text = line) →
      parse? line = none ∧ parts line = ⟨[], none, false, []⟩ ∧ (parts line).scopes = []) ∧
    ∀ type scopes breaking description, IsWord type → (∀ s ∈ scopes, IsScopeName s) →
      '\n' ∉ description → description.head? ≠ some ' ' →
      line = render type scopes breaking description →
      ∃ s, parse? line = some s ∧ s.type = type ∧ s.scopes = scopes ∧ s.breaking = breaking ∧
        s.description = description := by
  refine ⟨parse?_isSome_iff, fun l m hl hm => Layout.eq_of_text_eq (hl.trans hm.symm), ?_, ?_, ?_⟩
  · rintro l rfl
    have hparts : parts l.text = l.subject := by rw [parts, parse?_text, Option.getD_some]
    rw [hparts]
    refine ⟨parse?_text l, rfl, rfl, rfl, rfl, fun hnone => ?_, fun raw hraw => ?_⟩
    · simp [Layout.subject, scopes, hnone]
    · refine ⟨pieces ',' raw, pieces_ne_nil ',' raw, fun p hp => notMem_of_mem_pieces hp,
        joinWith_pieces ',' raw, ?_⟩
      rw [Option.mem_def] at hraw
      simp [Layout.subject, scopes, hraw, scopesOf]
  · intro hnone
    have hparse : parse? line = none := by
      rw [← Option.not_isSome_iff_eq_none, parse?_isSome_iff]
      exact hnone
    have hparts : parts line = ⟨[], none, false, []⟩ := by rw [parts, hparse, Option.getD_none]
    exact ⟨hparse, hparts, by rw [hparts]; rfl⟩
  · rintro type scopes breaking description htype hscopes hline hstart rfl
    exact ⟨_, parse?_render htype hscopes hline hstart, rfl, scopes_eq_of_rawScope_eq hscopes rfl,
      rfl, rfl⟩

/-- A description may hold colons, and a list of scopes may be untidy. -/
theorem parse?_exact_untidy :
    (parts "feat(ui, api,,)!:  a: b".toList).rawScope = some "ui, api,,".toList ∧
    (parts "feat(ui, api,,)!:  a: b".toList).description = "a: b".toList ∧
    ∃ s, parse? "fix(a,y/z)!: a: b".toList = some s ∧ s.scopes = ["a".toList, "y/z".toList] := by
  let l : Layout :=
    { type := "feat".toList
      rawScope := some "ui, api,,".toList
      breaking := true
      rest := "  a: b".toList
      isWord_type := by decide
      scope_plain := by
        intro raw hraw c hc
        obtain rfl := Option.some_inj.mp hraw
        have hall : "ui, api,,".toList.all isScopeChar := by decide
        exact isScopeChar_iff.mp (List.all_eq_true.mp hall c hc)
      rest_spaced := Or.inr ⟨" a: b".toList, by decide, by decide⟩ }
  have hread := (parse?_exact "feat(ui, api,,)!:  a: b".toList).2.2.1 l rfl
  obtain ⟨s, hs, -, hscopes, -⟩ := (parse?_exact "fix(a,y/z)!: a: b".toList).2.2.2.2
    "fix".toList ["a".toList, "y/z".toList] true "a: b".toList (by decide) (by decide) (by decide)
    (by decide) rfl
  exact ⟨hread.2.2.1, hread.2.2.2.2.1, s, hs, hscopes⟩

end CommitLint.Subject
