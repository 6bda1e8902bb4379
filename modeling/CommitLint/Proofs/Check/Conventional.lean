import CommitLint.Check.Conventional
import CommitLint.Proofs.Message
import CommitLint.Proofs.Subject.Grammar

/-!
# Conforming subjects

A subject has no findings exactly if it is rendered from parts that the settings accept
(`findings_conventional_eq_nil_iff`). Each group of findings is empty under one condition on the
parts that were read; the layout of the line ties the conditions together:

* the scopes are well formed, so the text in parentheses is what they join to;
* the blanks after the colon are one space, so the rest is a space and the description.

The spacing check finds its own colon and its own head of the line (`looksLikeHead_iff`). On the
text of a layout both are those of the layout (`Layout.cutAt_text`, `looksLikeHead_head`).
-/

namespace CommitLint.Check

open Text Subject

/-! ### The single checks -/

theorem typeFindings_eq_nil_iff {settings : Settings.Conventional} {s : Subject} :
    typeFindings settings s = [] ↔
      String.ofList s.type ∈ if settings.types = [] then standardTypes else settings.types := by
  simp [typeFindings, allowedTypes]

theorem isScope_iff {s : List Char} : isScope s ↔ IsScopeName s := by
  simp [isScope, IsScopeName, or_assoc]

theorem scopeFormFindings_eq_nil_iff {s : Subject} :
    scopeFormFindings s = [] ↔ ∀ raw ∈ s.rawScope, ∀ p ∈ pieces ',' raw, IsScopeName p := by
  rw [scopeFormFindings]
  cases s.rawScope with
  | none => simp
  | some raw => simp [isScope_iff]

theorem scopeFindings_eq_nil_iff {settings : Settings.Conventional} {s : Subject} :
    scopeFindings settings s = [] ↔
      (∀ raw ∈ s.rawScope, ∀ p ∈ pieces ',' raw, IsScopeName p) ∧
      (settings.requireScope → s.scopes ≠ []) ∧
      (settings.scopes ≠ [] → ∀ scope ∈ s.scopes, String.ofList scope ∈ settings.scopes) := by
  rw [scopeFindings, List.append_eq_nil_iff, List.append_eq_nil_iff, scopeFormFindings_eq_nil_iff,
    and_assoc]
  refine and_congr_right fun _ => and_congr ?_ ?_
  · simp
  · by_cases h : settings.scopes = []
    · simp [h]
    · simp [h]

theorem breakingFindings_eq_nil_iff {settings : Settings.Conventional} {s : Subject} :
    breakingFindings settings s = [] ↔ (s.breaking → settings.allowBreaking) := by
  simp [breakingFindings]

theorem descriptionFindings_eq_nil_iff {settings : Settings.Conventional} {s : Subject} :
    descriptionFindings settings s = [] ↔
      isBlankText s.description = false ∧
        s.description.length ≤ settings.maxDescriptionLength := by
  rw [descriptionFindings]
  split
  · rename_i h
    simp [h]
  · rename_i h
    simp [h]

/-! ### The blanks after the colon -/

theorem takeWhile_space_eq_nil {s : List Char} (h : s.head? ≠ some ' ') :
    s.takeWhile (· == ' ') = [] := by
  rw [← List.head?_eq_none_iff, List.head?_takeWhile, Option.filter_eq_none_iff]
  intro c hc hspace
  exact h (by rw [hc, beq_iff_eq.mp hspace])

/-- A word, perhaps something in parentheses, perhaps an exclamation mark. -/
def IsHead (head : List Char) : Prop :=
  ∃ type inner breaking, head = type ++ scopeText inner ++ breakingText breaking ∧ IsWord type ∧
    ∀ raw ∈ inner, ∀ c ∈ raw, c ≠ '(' ∧ c ≠ ')'

theorem afterLooseScope_eq_iff {s tail : List Char} (htail : tail.head? ≠ some '(') :
    afterLooseScope s = tail ↔
      ∃ inner, s = scopeText inner ++ tail ∧ ∀ raw ∈ inner, ∀ c ∈ raw, c ≠ '(' ∧ c ≠ ')' := by
  have hplain : ∀ c : Char, (c != '(' && c != ')') = true ↔ c ≠ '(' ∧ c ≠ ')' := by simp
  constructor
  · intro h
    rw [afterLooseScope.eq_def] at h
    split at h
    · rename_i rest
      split at h
      · rename_i after hdrop
        refine ⟨some (rest.takeWhile fun c => c != '(' && c != ')'), ?_, fun raw hraw c hc => ?_⟩
        · have hrest :=
            List.takeWhile_append_dropWhile (p := fun c => c != '(' && c != ')') (l := rest)
          rw [hdrop, h] at hrest
          simp [scopeText, hrest]
        · obtain rfl := Option.some_inj.mp hraw
          have hc' := List.mem_takeWhile_imp hc
          exact (hplain c).mp hc'
      · exact absurd (congrArg List.head? h.symm) htail
    · exact ⟨none, h, fun _ hraw => by cases hraw⟩
  · rintro ⟨inner, rfl, hinner⟩
    cases inner with
    | none =>
      rw [scopeText, List.nil_append, afterLooseScope.eq_def]
      split
      · simp at htail
      · rfl
    | some raw =>
      have hraw : ∀ c ∈ raw, (c != '(' && c != ')') = true := fun c hc =>
        (hplain c).mpr (hinner raw rfl c hc)
      have htext : scopeText (some raw) ++ tail = '(' :: (raw ++ ')' :: tail) := by simp [scopeText]
      rw [htext, afterLooseScope]
      simp only [List.dropWhile_append_of_pos hraw]
      rfl

theorem looksLikeHead_iff {head : List Char} : looksLikeHead head = true ↔ IsHead head := by
  have htail : ∀ breaking, (breakingText breaking).head? ≠ some '(' := by decide
  rw [looksLikeHead, Bool.and_eq_true, Bool.not_eq_true', List.isEmpty_eq_false_iff]
  constructor
  · rintro ⟨htype, hmark⟩
    obtain ⟨breaking, hafter⟩ : ∃ breaking,
        afterLooseScope (head.dropWhile isNameChar) = breakingText breaking := by
      split at hmark
      · exact ⟨false, ‹_›⟩
      · exact ⟨true, ‹_›⟩
      · cases hmark
    obtain ⟨inner, hrest, hinner⟩ := (afterLooseScope_eq_iff (htail breaking)).mp hafter
    refine ⟨head.takeWhile isNameChar, inner, breaking, ?_, ⟨htype, fun c hc => ?_⟩, hinner⟩
    · rw [List.append_assoc, ← hrest, List.takeWhile_append_dropWhile]
    · exact List.mem_takeWhile_imp hc
  · rintro ⟨type, inner, breaking, rfl, htype, hinner⟩
    obtain ⟨htake, hdrop⟩ := htype.takeWhile_append (takeWhile_marks inner breaking [] rfl)
    rw [List.append_nil, ← List.append_assoc] at htake hdrop
    have hafter : afterLooseScope (scopeText inner ++ breakingText breaking) =
        breakingText breaking :=
      (afterLooseScope_eq_iff (htail breaking)).mpr ⟨inner, rfl, hinner⟩
    rw [htake, hdrop, hafter]
    refine ⟨htype.1, ?_⟩
    cases breaking <;> rfl

/-- The loose notion of a head covers the heads of the grammar. -/
theorem looksLikeHead_head (l : Layout) : looksLikeHead l.head := by
  refine looksLikeHead_iff.mpr ⟨_, _, _, rfl, l.isWord_type, fun raw hraw c hc => ?_⟩
  have hplain := l.scope_plain raw hraw c hc
  exact ⟨hplain.1, hplain.2.1⟩

theorem spacingFindings_text_eq_nil_iff (l : Layout) :
    spacingFindings l.text = [] ↔
      isBlankText l.rest ∨ (l.rest.takeWhile (· == ' ')).length = 1 := by
  by_cases h : isBlankText l.rest <;>
    simp [spacingFindings, l.cutAt_text, looksLikeHead_head, h]

/-- Spaces aside, the rest after the colon is blank as far as the description is. -/
theorem isBlankText_rest (l : Layout) : isBlankText l.rest = isBlankText l.subject.description :=
  (isBlankText_dropWhile (fun c hc => by rw [beq_iff_eq.mp hc]; decide) l.rest).symm

/-! ### Conforming parts -/

/-- Joining with a comma is the same for texts and for their characters. -/
theorem commaList_map_ofList (ps : List (List Char)) :
    commaList "," (ps.map String.ofList) = String.ofList (joinWith [','] ps) := by
  have hmap : (ps.map String.ofList).map String.toList = ps := by
    simp [Function.comp_def]
  rw [← String.toList_inj, commaList, String.toList_intercalate, hmap, joinWith_eq_intercalate]
  exact String.toList_ofList.symm

/-- What the settings ask of the parts that a subject is rendered from. -/
structure Conforms (settings : Settings.Conventional) (type : List Char)
    (scopes : List (List Char)) (breaking : Bool) (description : List Char) : Prop where
  isWord_type : IsWord type
  type_mem :
    String.ofList type ∈ if settings.types = [] then standardTypes else settings.types
  isScopeName : ∀ s ∈ scopes, IsScopeName s
  scope_mem : settings.scopes ≠ [] → ∀ s ∈ scopes, String.ofList s ∈ settings.scopes
  scopes_ne_nil : settings.requireScope → scopes ≠ []
  allowBreaking : breaking → settings.allowBreaking
  description_start : description.head? ≠ some ' '
  description_visible : ∃ c ∈ description, isBlank c = false
  description_length : description.length ≤ settings.maxDescriptionLength

/-- The checks of a subject that was read, as conditions on its parts. -/
theorem findings_conventional_eq_nil_iff_parse? {settings : Settings.Conventional} {c : Commit} :
    (conventional settings c).findings = [] ↔
      c.isEmpty = false ∧ ∃ s, parse? c.subject.toList = some s ∧
        typeFindings settings s = [] ∧ scopeFindings settings s = [] ∧
        breakingFindings settings s = [] ∧ descriptionFindings settings s = [] ∧
        spacingFindings c.subject.toList = [] := by
  rw [conventional]
  split
  · rename_i h
    simp [h, Outcome.failure]
  · rename_i h
    cases hs : parse? c.subject.toList with
    | none => simp [subjectOutcome, hs]
    | some s => simp [h, subjectOutcome, hs]

theorem details_conventional {settings : Settings.Conventional} {c : Commit} {s : Subject}
    (h : c.isEmpty = false) (hs : parse? c.subject.toList = some s) :
    (conventional settings c).details = subjectDetails s := by
  rw [conventional, h, if_neg Bool.false_ne_true, subjectOutcome, hs]

/-- Parts without findings conform, and the line is rendered from them. -/
theorem conforms_of_findings_eq_nil {settings : Settings.Conventional} {c : Commit}
    (h : (conventional settings c).findings = []) :
    ∃ type scopes breaking description, Conforms settings type scopes breaking description ∧
      c.subject.toList = render type scopes breaking description := by
  obtain ⟨-, s, hs, htype, hscopes, hbreaking, hdescription, hspacing⟩ :=
    findings_conventional_eq_nil_iff_parse?.mp h
  obtain ⟨l, hl, rfl⟩ := exists_layout_of_parse? hs
  obtain ⟨hraw, hrequired, hallowed⟩ := scopeFindings_eq_nil_iff.mp hscopes
  obtain ⟨hvisible, hlength⟩ := descriptionFindings_eq_nil_iff.mp hdescription
  -- Spacing is not looked at before a blank rest, which a visible description excludes.
  have hspaces : (l.rest.takeWhile (· == ' ')).length = 1 := by
    rw [← hl, spacingFindings_text_eq_nil_iff, isBlankText_rest, hvisible] at hspacing
    exact hspacing.resolve_left Bool.false_ne_true
  refine ⟨l.type, l.subject.scopes, l.breaking, l.subject.description, ?_, ?_⟩
  · exact
      { isWord_type := l.isWord_type
        type_mem := typeFindings_eq_nil_iff.mp htype
        isScopeName := l.isScopeName_of_mem_scopes hraw
        scope_mem := hallowed
        scopes_ne_nil := hrequired
        allowBreaking := breakingFindings_eq_nil_iff.mp hbreaking
        description_start := l.head?_description
        description_visible := by simpa [isBlankText] using hvisible
        description_length := hlength }
  · rw [← hl, l.text_eq_render hraw hspaces]

section

variable {settings : Settings.Conventional} {type : List Char} {scopes : List (List Char)}
  {breaking : Bool} {description : List Char} {c : Commit}

/-- A subject is one line, so the description that it is rendered from is. -/
theorem lineFeed_notMem_description
    (hc : c.subject.toList = render type scopes breaking description) : '\n' ∉ description := by
  intro hline
  refine c.lineFeed_notMem_subject ?_
  rw [hc]
  simp [render, hline]

/-- A subject that is rendered from conforming parts is read as these parts. -/
theorem Conforms.parse?_subject (h : Conforms settings type scopes breaking description)
    (hc : c.subject.toList = render type scopes breaking description) :
    parse? c.subject.toList = some ⟨type, rawScopeOf scopes, breaking, description⟩ := by
  rw [hc]
  exact parse?_render h.isWord_type h.isScopeName (lineFeed_notMem_description hc)
    h.description_start

theorem Conforms.isEmpty_eq_false (h : Conforms settings type scopes breaking description)
    (hc : c.subject.toList = render type scopes breaking description) : c.isEmpty = false := by
  obtain ⟨ch, hch, hvisible⟩ := h.description_visible
  refine Commit.isEmpty_eq_false (List.all_eq_false.mpr ⟨ch, ?_, by simp [hvisible]⟩)
  rw [hc]
  simp [render, hch]

theorem Conforms.spacingFindings_eq_nil (h : Conforms settings type scopes breaking description)
    (hc : c.subject.toList = render type scopes breaking description) :
    spacingFindings c.subject.toList = [] := by
  have hline := lineFeed_notMem_description hc
  rw [hc, ← Layout.text_ofParts h.isWord_type h.isScopeName hline,
    spacingFindings_text_eq_nil_iff]
  refine Or.inr ?_
  simp [Layout.ofParts, takeWhile_space_eq_nil h.description_start]

/-- Conforming parts have no findings. -/
theorem Conforms.findings_eq_nil (h : Conforms settings type scopes breaking description)
    (hc : c.subject.toList = render type scopes breaking description) :
    (conventional settings c).findings = [] := by
  have hscopes : (Subject.mk type (rawScopeOf scopes) breaking description).scopes = scopes :=
    scopes_eq_of_rawScope_eq h.isScopeName rfl
  -- Scopes hold no commas, so the pieces that are checked one by one are the scopes.
  have hraw : ∀ raw ∈ rawScopeOf scopes, ∀ p ∈ pieces ',' raw, IsScopeName p := by
    intro raw hraw p hp
    rw [pieces_of_mem_rawScopeOf h.isScopeName raw hraw] at hp
    exact h.isScopeName p hp
  refine findings_conventional_eq_nil_iff_parse?.mpr
    ⟨h.isEmpty_eq_false hc, _, h.parse?_subject hc, typeFindings_eq_nil_iff.mpr h.type_mem,
      scopeFindings_eq_nil_iff.mpr ⟨hraw, ?_, ?_⟩, breakingFindings_eq_nil_iff.mpr h.allowBreaking,
      descriptionFindings_eq_nil_iff.mpr ⟨?_, h.description_length⟩, h.spacingFindings_eq_nil hc⟩
  · rw [hscopes]
    exact h.scopes_ne_nil
  · rw [hscopes]
    exact h.scope_mem
  · simpa [isBlankText] using h.description_visible

/-- The details of a subject that is rendered from conforming parts are these parts. -/
theorem Conforms.details_eq (h : Conforms settings type scopes breaking description)
    (hc : c.subject.toList = render type scopes breaking description) :
    (conventional settings c).details.entries =
      [("breaking", toString breaking), ("description", .ofList description),
        ("scopes", .ofList (joinWith [','] scopes)), ("type", .ofList type)] := by
  rw [details_conventional (h.isEmpty_eq_false hc) (h.parse?_subject hc), subjectDetails,
    scopes_eq_of_rawScope_eq h.isScopeName rfl, commaList_map_ofList]
  rfl

/-- A subject is rendered from conforming parts in one way only. -/
theorem Conforms.unique (h : Conforms settings type scopes breaking description)
    (hc : c.subject.toList = render type scopes breaking description) {type' : List Char}
    {scopes' : List (List Char)} {breaking' : Bool} {description' : List Char}
    (h' : Conforms settings type' scopes' breaking' description')
    (hc' : c.subject.toList = render type' scopes' breaking' description') :
    type' = type ∧ scopes' = scopes ∧ breaking' = breaking ∧ description' = description := by
  have hsame := (h'.parse?_subject hc').symm.trans (h.parse?_subject hc)
  rw [Option.some.injEq] at hsame
  have hscopes : scopes' = scopes :=
    calc scopes' = (Subject.mk type' (rawScopeOf scopes') breaking' description').scopes :=
          (scopes_eq_of_rawScope_eq h'.isScopeName rfl).symm
      _ = scopes := by rw [hsame, scopes_eq_of_rawScope_eq h.isScopeName rfl]
  rw [Subject.mk.injEq] at hsame
  exact ⟨hsame.1, hscopes, hsame.2.2⟩

end

/-- A subject has no findings exactly if it is rendered from parts that conform to the settings.
Those parts are then unique, and the details are exactly these parts. -/
theorem findings_conventional_eq_nil_iff (settings : Settings.Conventional) (c : Commit) :
    ((conventional settings c).findings = [] ↔
      ∃ type scopes breaking description, Conforms settings type scopes breaking description ∧
        c.subject.toList = render type scopes breaking description) ∧
    ∀ type scopes breaking description, Conforms settings type scopes breaking description →
      c.subject.toList = render type scopes breaking description →
      (conventional settings c).details.entries =
        [("breaking", toString breaking), ("description", .ofList description),
          ("scopes", .ofList (joinWith [','] scopes)), ("type", .ofList type)] ∧
      ∀ type' scopes' breaking' description',
        Conforms settings type' scopes' breaking' description' →
        c.subject.toList = render type' scopes' breaking' description' →
        type' = type ∧ scopes' = scopes ∧ breaking' = breaking ∧ description' = description := by
  refine ⟨⟨conforms_of_findings_eq_nil, ?_⟩, ?_⟩
  · rintro ⟨type, scopes, breaking, description, h, hc⟩
    exact h.findings_eq_nil hc
  · intro type scopes breaking description h hc
    exact ⟨h.details_eq hc, fun _ _ _ _ h' hc' => h.unique hc h' hc'⟩

/-- Two allowed scopes, a breaking change and a description with a colon. -/
theorem findings_conventional_ui_api :
    let settings : Settings.Conventional :=
      { types := ["feat"], scopes := ["ui", "api"], maxDescriptionLength := 6
        requireScope := true }
    let c : Commit := { message := "feat(ui,api)!: a: b  \n\nBody" }
    (conventional settings c).findings = [] ∧
      (conventional settings c).details.entries =
        [("breaking", "true"), ("description", "a: b"), ("scopes", "ui,api"), ("type", "feat")] := by
  intro settings c
  have h : Conforms settings "feat".toList ["ui".toList, "api".toList] true "a: b".toList :=
    { isWord_type := by decide
      type_mem := by decide
      isScopeName := by decide
      scope_mem := by decide
      scopes_ne_nil := by decide
      allowBreaking := by decide
      description_start := by decide
      description_visible := ⟨'a', by decide, by decide⟩
      description_length := by decide }
  have hc : c.subject.toList = render "feat".toList ["ui".toList, "api".toList] true
    "a: b".toList := by decide
  obtain ⟨hiff, hparts⟩ := findings_conventional_eq_nil_iff settings c
  exact ⟨hiff.mpr ⟨_, _, _, _, h, hc⟩, (hparts _ _ _ _ h hc).1⟩

end CommitLint.Check
