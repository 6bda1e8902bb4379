import CommitLint.Proofs.Finding
import CommitLint.Proofs.Report.Label
import CommitLint.Proofs.Text.Insertion

/-!
# Color and details

The report for readers has two options, and neither hides or alters a finding. Color puts escape
sequences around pieces of the text: where no text of the run has an escape character, removing the
sequences gives the report without color. Details put whole lines between those of the short report
(`Weaves`).

Removing escape sequences goes through a text from left to right, so a relation between a text with
color and one without is to hold whatever follows the two (`Sheds`). Then it holds of a text that is
put together if it holds of the parts.
-/

namespace CommitLint

open Text

theorem Text.subset_of_takeBytes? {n : Nat} {s start : List Char}
    (h : takeBytes? n s = some start) : start ⊆ s := by
  induction s generalizing n start with
  | nil => exact Option.some.inj h ▸ List.Subset.refl []
  | cons c s ih =>
    rw [takeBytes?] at h
    split_ifs at h
    · exact Option.some.inj h ▸ List.nil_subset _
    · obtain ⟨start, hstart, rfl⟩ := Option.map_eq_some_iff.mp h
      exact List.cons_subset_cons c (ih hstart)

namespace Report

/-! ### Removing escape sequences -/

/-- A text without its escape sequences; `inside` tells whether the text starts within one. -/
def plainFrom (inside : Bool) : List Char → List Char
  | [] => []
  | c :: s =>
    if inside then plainFrom (c != 'm') s
    else if c = '\x1b' && s.head? == some '[' then plainFrom true s
    else c :: plainFrom false s

/-- A text without its escape sequences, each of which goes from the escape character to the next
`m`. -/
def plain (s : List Char) : List Char := plainFrom false s

theorem plain_cons {c : Char} (h : c ≠ '\x1b') (s : List Char) : plain (c :: s) = c :: plain s := by
  rw [plain, plainFrom, decide_eq_false h]
  rfl

theorem plain_append {s : List Char} (h : '\x1b' ∉ s) (rest : List Char) :
    plain (s ++ rest) = s ++ plain rest := by
  induction s with
  | nil => rfl
  | cons c s ih =>
    obtain ⟨hc, hs⟩ := not_or.mp (mt List.mem_cons.mpr h)
    rw [List.cons_append, plain_cons (Ne.symm hc), ih hs, List.cons_append]

/-- An escape sequence ends at the first `m`. -/
theorem plainFrom_append_cons {s : List Char} (h : 'm' ∉ s) (rest : List Char) :
    plainFrom true (s ++ 'm' :: rest) = plain rest := by
  induction s with
  | nil => rfl
  | cons c s ih =>
    obtain ⟨hc, hs⟩ := not_or.mp (mt List.mem_cons.mpr h)
    rw [List.cons_append, plainFrom, if_pos rfl, bne_iff_ne.mpr (Ne.symm hc), ih hs]

/-- One text comes to another when its escape sequences are removed, whatever follows it. -/
def Sheds (colored text : String) : Prop :=
  ∀ rest, plain (colored.toList ++ rest) = text.toList ++ plain rest

theorem Sheds.plain_eq {colored text : String} (h : Sheds colored text) :
    plain colored.toList = text.toList := by
  have hnil : plain (colored.toList ++ []) = text.toList ++ [] := h []
  rwa [List.append_nil, List.append_nil] at hnil

theorem Sheds.append {colored colored' text text' : String} (h : Sheds colored text)
    (h' : Sheds colored' text') : Sheds (colored ++ colored') (text ++ text') := by
  intro rest
  rw [String.toList_append, List.append_assoc, h, h', String.toList_append, List.append_assoc]

theorem Sheds.join_map {α : Type} {colored text : α → String} {l : List α}
    (h : ∀ a ∈ l, Sheds (colored a) (text a)) :
    Sheds (String.join (l.map colored)) (String.join (l.map text)) := by
  induction l with
  | nil => exact fun _ => rfl
  | cons a l ih =>
    obtain ⟨ha, hl⟩ := List.forall_mem_cons.mp h
    rw [List.map_cons, List.map_cons, String.join_cons, String.join_cons]
    exact ha.append (ih hl)

/-- A text without escape characters stays as it is. -/
theorem sheds_self {text : String} (h : Lacks '\x1b' text) : Sheds text text := plain_append h

theorem isControl_escape : IsControl '\x1b' := by decide

theorem toList_escape (number : String) :
    (escape number).toList = '\x1b' :: '[' :: (number.toList ++ ['m']) := by
  rw [escape, String.toList_append, String.toList_append]
  rfl

theorem sheds_escape {number : String} (h : Lacks 'm' number) : Sheds (escape number) "" := by
  intro rest
  rw [toList_escape, List.cons_append, List.cons_append, List.append_assoc]
  exact plainFrom_append_cons h rest

theorem Style.lacks_number (style : Style) : Lacks 'm' style.number := by
  cases style <;> decide

/-- Color adds nothing but escape sequences to a piece of text. -/
theorem sheds_styled (styles : List Style) {text : String} (h : Lacks '\x1b' text) :
    Sheds (styled true styles text) (styled false styles text) := by
  have hstyles : Sheds (String.join (styles.map (escape ·.number)))
      (String.join (styles.map fun _ => "")) :=
    .join_map fun style _ => sheds_escape style.lacks_number
  have hnone : String.join (styles.map fun _ => "") = "" := by
    rw [← String.toList_inj, String.toList_join, List.flatMap_map]
    exact List.flatMap_eq_nil_iff.mpr fun _ _ => rfl
  rw [hnone] at hstyles
  have hend : Sheds (escape "0") "" := sheds_escape (by decide)
  have hall := (hstyles.append (sheds_self h)).append hend
  rwa [String.empty_append, String.append_empty] at hall

theorem lacks_lineFeed : Lacks '\x1b' "\n" := by decide

/-- Fixed words stay as they are. -/
theorem sheds_words {s : List Char} (h : s.all (32 ≤ ·.toNat)) :
    Sheds (.ofList s) (.ofList s) := sheds_self (isControl_escape.lacks h)

/-- A styled text lacks whatever the text lacks, the escape characters of its styles aside. -/
theorem lacks_styled {x : Char} (hx : IsControl x) (hne : x ≠ '\x1b') (color : Bool)
    (styles : List Style) {text : String} (h : Lacks x text) :
    Lacks x (styled color styles text) := by
  have hescape : ∀ number : String, Lacks x number → Lacks x (escape number) := by
    intro number hnumber
    rw [Lacks, toList_escape, List.mem_cons, List.mem_cons, List.mem_append, List.mem_singleton]
    exact not_or.mpr ⟨hne, not_or.mpr ⟨hx.ne (by decide), not_or.mpr ⟨hnumber, hx.ne (by decide)⟩⟩⟩
  rw [styled]
  split
  · refine ((lacks_join.mpr (List.forall_mem_map.mpr fun style _ => hescape _ ?_)).append h).append
      (hescape _ (hx.lacks rfl))
    cases style <;> exact hx.lacks rfl
  · exact h

/-! ### Color -/

theorem lacks_label {x : Char} (hx : IsControl x) {c : Commit} {label : String}
    (hhash : Lacks x c.hash) (h : label? c = some label) : Lacks x label := by
  rw [label?] at h
  split at h
  · rw [← Option.some.inj h]
    exact hx.lacks rfl
  · obtain ⟨start, hstart, rfl⟩ := Option.map_eq_some_iff.mp h
    exact lacks_ofList.mpr fun hmem => hhash (subset_of_takeBytes? hstart hmem)

theorem lacks_text {x : Char} (hx : IsControl x) (s : Summary) : Lacks x s.text := by
  have words {w : List Char} (h : w.all (32 ≤ ·.toNat)) : Lacks x (.ofList w) := hx.lacks h
  have number (n : Nat) : Lacks x (toString n) := hx.lacks_toString n
  delta Summary.text
  split
  · exact (((number _).append (words rfl)).append (number _)).append (words rfl)
  · exact (((((number _).append (words rfl)).append (number _)).append (words rfl)).append
      (number _)).append (words rfl)

theorem sheds_findingText {f : Finding} (h : f.Lacks '\x1b') :
    Sheds (findingText true f) (findingText false f) := by
  have hmark : Sheds (styled true [.red] "✗") (styled false [.red] "✗") :=
    sheds_styled _ (isControl_escape.lacks rfl)
  have hname := sheds_styled [.bold] (f.rule.lacks_name isControl_escape)
  have hmessage : Sheds s!": {f.message} " s!": {f.message} " :=
    ((sheds_words rfl).append (sheds_self h.message)).append (sheds_words rfl)
  have hcode : Lacks '\x1b' s!"[{f.code.name}]" :=
    ((isControl_escape.lacks rfl).append (f.code.lacks_name isControl_escape)).append
      (isControl_escape.lacks rfl)
  delta findingText
  refine .append (.append (.append (.append (.append (.append (.append (sheds_words rfl) hmark)
    (sheds_words rfl)) hname) hmessage) (sheds_styled _ hcode)) (sheds_self lacks_lineFeed)) ?_
  split
  · exact sheds_words rfl
  · exact ((sheds_words rfl).append (sheds_styled _ (isControl_escape.lacks rfl))).append
      (((sheds_words rfl).append (sheds_self h.help)).append (sheds_self lacks_lineFeed))

/-- The details hold a control character exactly if some name or value does. -/
theorem lacks_details_iff {x : Char} (hx : IsControl x) {details : Fields} :
    Lacks x ("(" ++ ", ".intercalate
      (details.entries.map fun (name, value) => s!"{name}={value}") ++ ")") ↔ details.Lacks x := by
  have hentry (e : String × String) : Lacks x s!"{e.1}={e.2}" ↔ Lacks x e.1 ∧ Lacks x e.2 :=
    lacks_append.trans (and_congr_left' (lacks_append_right (hx.lacks rfl)))
  rw [lacks_append_right (hx.lacks rfl), lacks_append_left (hx.lacks rfl),
    lacks_intercalate (hx.lacks rfl), List.forall_mem_map]
  exact forall₂_congr fun e _ => hentry e

theorem sheds_detailsText {details : Fields} (h : details.Lacks '\x1b') :
    Sheds (detailsText true details) (detailsText false details) := by
  delta detailsText
  split
  · exact sheds_words rfl
  · exact (sheds_words rfl).append (sheds_styled _ ((lacks_details_iff isControl_escape).mpr h))

theorem sheds_outcomeText {o : Outcome} (h : o.details.Lacks '\x1b') :
    Sheds (outcomeText true o) (outcomeText false o) := by
  have hname := o.rule.lacks_name isControl_escape
  delta outcomeText
  split
  · exact ((((sheds_words rfl).append (sheds_styled _ (isControl_escape.lacks rfl))).append
      (sheds_words rfl)).append (sheds_self hname)).append (sheds_detailsText h) |>.append
        (sheds_self lacks_lineFeed)
  · split
    · exact sheds_words rfl
    · exact (((sheds_words rfl).append (sheds_styled _ hname)).append
        (sheds_detailsText h)).append (sheds_self lacks_lineFeed)

theorem sheds_outcomeLines (verbose : Bool) {o : Outcome} (h : o.Lacks '\x1b') :
    Sheds (outcomeLines verbose true o) (outcomeLines verbose false o) := by
  have hlines : Sheds (String.join (o.findings.map (findingText true)))
      (String.join (o.findings.map (findingText false))) :=
    .join_map fun f hf => sheds_findingText (h.findings f hf)
  refine hlines.append ?_
  split
  · exact sheds_outcomeText h.details
  · exact sheds_words rfl

theorem sheds_headText {label : String} {r : Result} (hlabel : Lacks '\x1b' label)
    (hsubject : Lacks '\x1b' r.commit.subject) :
    Sheds (headText true label r) (headText false label r) := by
  have hmark : Sheds (markText true r.passed) (markText false r.passed) := by
    delta markText
    split
    · exact sheds_styled _ (isControl_escape.lacks rfl)
    · exact sheds_styled _ (isControl_escape.lacks rfl)
  exact ((hmark.append (sheds_words rfl)).append (sheds_styled _ hlabel)).append
    (((sheds_words rfl).append (sheds_self hsubject)).append (sheds_self lacks_lineFeed))

/-- The lines about the rules hold no control characters but line feeds. -/
theorem lacks_ruleFailures {x : Char} (hx : IsControl x) (hfeed : Lacks x "\n") (s : Summary) :
    Lacks x (String.join
      (s.ruleFailures.map fun (rule, count) => s!"  {rule.name}: {count}\n")) := by
  refine lacks_join.mpr (List.forall_mem_map.mpr fun e _ => ?_)
  exact ((((hx.lacks rfl).append (e.1.lacks_name hx)).append (hx.lacks rfl)).append
    (hx.lacks_toString _)).append hfeed

theorem sheds_countsText (s : Summary) : Sheds (countsText true s) (countsText false s) := by
  have hcounts := lacks_ruleFailures isControl_escape lacks_lineFeed s
  delta countsText
  split
  · exact (((sheds_self lacks_lineFeed).append (sheds_styled _
      (lacks_text isControl_escape s))).append (sheds_self lacks_lineFeed)).append
        (sheds_self hcounts)
  · exact sheds_words rfl

/-! ### Details -/

theorem endsLine_findingText (color : Bool) (f : Finding) :
    EndsLine (findingText color f).toList := by
  delta findingText
  rw [String.toList_append]
  refine (endsLine_lineFeed _).append ?_
  split
  · exact .inl rfl
  · rw [← String.append_assoc]
    exact endsLine_lineFeed _

theorem endsLine_headText (color : Bool) (label : String) (r : Result) :
    EndsLine (headText color label r).toList := by
  delta headText
  rw [← String.append_assoc]
  exact endsLine_lineFeed _

theorem endsLine_countsText (color : Bool) (s : Summary) :
    EndsLine (countsText color s).toList := by
  delta countsText
  split
  · rw [String.toList_append, String.toList_join, List.flatMap_map]
    exact (endsLine_lineFeed _).append (.flatMap fun e _ => endsLine_lineFeed _)
  · exact .inl rfl

/-- Whether a verbose report has a line of its own about an outcome. -/
def hasNote (o : Outcome) : Bool := o.passed || !o.details.isEmpty

/-- What a verbose report adds about a result. -/
def notes (color : Bool) (r : Result) : List (List Char) :=
  (r.outcomes.filter (hasNote ·)).map fun o => (outcomeText color o).toList

theorem outcomeText_eq_empty {o : Outcome} (h : hasNote o = false) (color : Bool) :
    outcomeText color o = "" := by
  rw [hasNote, Bool.or_eq_false_iff, Bool.not_eq_false'] at h
  delta outcomeText
  rw [if_neg (Bool.not_eq_true _ ▸ h.1), if_pos h.2]

/-- A note is one line, unless its details hold line feeds. -/
theorem exists_outcomeText {o : Outcome} (h : hasNote o) (color : Bool) :
    ∃ line, outcomeText color o = line ++ "\n" ∧
      (o.details.Lacks '\n' → Lacks '\n' line) := by
  have hcontrol : IsControl '\n' := by decide
  have hdetails : o.details.Lacks '\n' → Lacks '\n' (detailsText color o.details) := by
    intro hentries
    delta detailsText
    split
    · exact lacks_empty
    · exact (hcontrol.lacks rfl).append
        (lacks_styled hcontrol (by decide) _ _ ((lacks_details_iff hcontrol).mpr hentries))
  delta outcomeText
  split
  · refine ⟨_, rfl, fun hentries => ?_⟩
    exact ((((hcontrol.lacks rfl).append (lacks_styled hcontrol (by decide) _ _
      (hcontrol.lacks rfl))).append (hcontrol.lacks rfl)).append
        (o.rule.lacks_name hcontrol)).append (hdetails hentries)
  · rename_i hpassed
    rw [hasNote, Bool.or_eq_true, or_iff_right hpassed, Bool.not_eq_true'] at h
    rw [if_neg (Bool.not_eq_true _ ▸ h)]
    refine ⟨_, rfl, fun hentries => ?_⟩
    exact ((hcontrol.lacks rfl).append (lacks_styled hcontrol (by decide) _ _
      (o.rule.lacks_name hcontrol))).append (hdetails hentries)

theorem endsLine_outcomeLines (verbose color : Bool) (o : Outcome) :
    EndsLine (outcomeLines verbose color o).toList := by
  delta outcomeLines
  rw [String.toList_append, String.toList_join, List.flatMap_map]
  refine EndsLine.append (.flatMap fun f _ => endsLine_findingText color f) ?_
  split
  · by_cases hnote : hasNote o = true
    · obtain ⟨line, htext, -⟩ := exists_outcomeText hnote color
      exact htext ▸ endsLine_lineFeed line
    · rw [outcomeText_eq_empty (Bool.not_eq_true _ ▸ hnote)]
      exact .inl rfl
  · exact .inl rfl

theorem weaves_outcomeLines (color : Bool) (o : Outcome) :
    Weaves (if hasNote o then [(outcomeText color o).toList] else [])
      (outcomeLines false color o).toList (outcomeLines true color o).toList := by
  have hfindings : EndsLine (String.join (o.findings.map (findingText color))).toList := by
    rw [String.toList_join, List.flatMap_map]
    exact .flatMap fun f _ => endsLine_findingText color f
  have hshort : (outcomeLines false color o).toList =
      (String.join (o.findings.map (findingText color))).toList ++ [] := String.toList_append
  have hfull : (outcomeLines true color o).toList =
      (String.join (o.findings.map (findingText color))).toList ++
        ((outcomeText color o).toList ++ []) := by
    rw [List.append_nil]
    exact String.toList_append
  rw [hshort, hfull]
  refine .keep hfindings ?_
  split
  · rename_i hnote
    obtain ⟨line, htext, -⟩ := exists_outcomeText hnote color
    exact .add (htext ▸ endsLine_lineFeed line) .nil
  · rename_i hnote
    rw [outcomeText_eq_empty (Bool.not_eq_true _ ▸ hnote)]
    exact .nil

/-! ### Whole reports -/

/-- The lines about a commit, with its label. -/
def resultLines (verbose color : Bool) (p : String × Result) : String :=
  headText color p.1 p.2 ++ String.join (p.2.outcomes.map (outcomeLines verbose color))

/-- The results of a run with the labels of the commits, if all have one. -/
def labelled? (s : Summary) : Option (List (String × Result)) :=
  s.results.mapM fun r => (label? r.commit).map (·, r)

/-- Neither option has to do with the labels. -/
theorem terminalText?_eq_map (verbose color : Bool) (s : Summary) :
    terminalText? verbose color s = (labelled? s).map fun parts =>
      String.join (parts.map (resultLines verbose color)) ++ countsText color s := by
  have hparts : s.results.mapM (resultText? verbose color) =
      (labelled? s).map (·.map (resultLines verbose color)) := by
    rw [labelled?]
    induction s.results with
    | nil => rfl
    | cons r results ih =>
      rw [List.mapM_cons, List.mapM_cons, ih, resultText?]
      cases label? r.commit with
      | none => rfl
      | some label => cases results.mapM fun r => (label? r.commit).map (·, r) <;> rfl
  rw [terminalText?, hparts]
  cases labelled? s <;> rfl

theorem of_labelled? {s : Summary} {parts : List (String × Result)} (h : labelled? s = some parts) :
    parts.map Prod.snd = s.results ∧ ∀ p ∈ parts, label? p.2.commit = some p.1 := by
  have hall := Entries.mapM_eq_some_iff.mp h
  clear h
  generalize s.results = results at hall
  induction hall with
  | nil => exact ⟨rfl, List.forall_mem_nil _⟩
  | cons hhead _ ih =>
    obtain ⟨label, hlabel, rfl⟩ := Option.map_eq_some_iff.mp hhead
    exact ⟨congrArg (_ :: ·) ih.1, List.forall_mem_cons.mpr ⟨hlabel, ih.2⟩⟩

/-- The texts that a report quotes about an outcome. -/
def outcomeTexts (verbose : Bool) (o : Outcome) : List String :=
  o.findings.flatMap (fun f => [f.message, f.help]) ++
    if verbose then o.details.entries.flatMap fun e => [e.1, e.2] else []

theorem forall_mem_outcomeTexts_iff {x : Char} {verbose : Bool} {o : Outcome} :
    (∀ t ∈ outcomeTexts verbose o, Lacks x t) ↔
      (∀ f ∈ o.findings, f.Lacks x) ∧ (verbose → o.details.Lacks x) := by
  have hpair (a b : String) : (∀ t ∈ [a, b], Lacks x t) ↔ Lacks x a ∧ Lacks x b := by
    rw [List.forall_mem_cons, List.forall_mem_singleton]
  have hfinding (f : Finding) : (∀ t ∈ [f.message, f.help], Lacks x t) ↔ f.Lacks x :=
    (hpair _ _).trans ⟨fun h => ⟨h.1, h.2⟩, fun h => ⟨h.message, h.help⟩⟩
  rw [outcomeTexts, List.forall_mem_append, List.forall_mem_flatMap]
  simp only [hfinding]
  cases verbose with
  | false => simp
  | true =>
    simp only [if_true, List.forall_mem_flatMap, hpair, true_implies]
    rfl

/-- The texts of a result that are not the program's own. -/
def userTexts (r : Result) : List String :=
  r.commit.hash :: r.commit.subject :: r.outcomes.flatMap (outcomeTexts true)

theorem sheds_resultLines (verbose : Bool) {label : String} {r : Result}
    (hlabel : label? r.commit = some label) (h : ∀ t ∈ userTexts r, Lacks '\x1b' t) :
    Sheds (resultLines verbose true (label, r)) (resultLines verbose false (label, r)) := by
  rw [userTexts, List.forall_mem_cons, List.forall_mem_cons, List.forall_mem_flatMap] at h
  obtain ⟨hhash, hsubject, houtcomes⟩ := h
  refine (sheds_headText (lacks_label isControl_escape hhash hlabel) hsubject).append ?_
  refine .join_map fun o ho => sheds_outcomeLines verbose ?_
  obtain ⟨hfindings, hdetails⟩ := forall_mem_outcomeTexts_iff.mp (houtcomes o ho)
  exact ⟨hfindings, hdetails rfl⟩

theorem weaves_resultLines (color : Bool) (p : String × Result) :
    Weaves (notes color p.2) (resultLines false color p).toList
      (resultLines true color p).toList := by
  have hnotes : notes color p.2 = p.2.outcomes.flatMap fun o =>
      if hasNote o then [(outcomeText color o).toList] else [] := by
    rw [notes]
    induction p.2.outcomes with
    | nil => rfl
    | cons o outcomes ih =>
      rw [List.filter_cons, List.flatMap_cons, ← ih]
      split <;> rfl
  rw [hnotes, resultLines, resultLines, String.toList_append, String.toList_append,
    String.toList_join, String.toList_join, List.flatMap_map, List.flatMap_map]
  exact (weaves_self (endsLine_headText color p.1 p.2)).append
    (.flatMap fun o _ => weaves_outcomeLines color o)

/-- Without escape sequences a report with color is the one without. -/
theorem terminalText?_plain (verbose : Bool) {s : Summary}
    (h : ∀ r ∈ s.results, ∀ t ∈ userTexts r, Lacks '\x1b' t) :
    (terminalText? verbose true s).map (plain ·.toList) =
      (terminalText? verbose false s).map String.toList := by
  rw [terminalText?_eq_map, terminalText?_eq_map]
  cases hparts : labelled? s with
  | none => rw [Option.map_none, Option.map_none, Option.map_none, Option.map_none]
  | some parts =>
    obtain ⟨hresults, hlabels⟩ := of_labelled? hparts
    have hlines : Sheds (String.join (parts.map (resultLines verbose true)))
        (String.join (parts.map (resultLines verbose false))) :=
      .join_map fun p hp => sheds_resultLines verbose (hlabels p hp)
        (h p.2 (hresults ▸ List.mem_map_of_mem hp))
    rw [Option.map_some, Option.map_some, Option.map_some, Option.map_some,
      (hlines.append (sheds_countsText s)).plain_eq]

/-- A verbose report is the short one with the notes about all outcomes written into it. -/
theorem weaves_terminalText? (color : Bool) (s : Summary) :
    Option.Rel (fun short full =>
        Weaves (s.results.flatMap (notes color)) short.toList full.toList ∧
          (lines short.toList).Sublist (lines full.toList))
      (terminalText? false color s) (terminalText? true color s) := by
  rw [terminalText?_eq_map, terminalText?_eq_map]
  cases hparts : labelled? s with
  | none => exact .none
  | some parts =>
    have hlines : Weaves (parts.flatMap fun p => notes color p.2)
        (parts.flatMap fun p => (resultLines false color p).toList)
        (parts.flatMap fun p => (resultLines true color p).toList) :=
      .flatMap fun p _ => weaves_resultLines color p
    have hall := hlines.append (weaves_self (endsLine_countsText color s))
    refine .some ((fun hweaves => ⟨hweaves, hweaves.sublist_lines⟩) ?_)
    rw [← (of_labelled? hparts).1, List.flatMap_map, String.toList_append, String.toList_append,
      String.toList_join, String.toList_join, List.flatMap_map, List.flatMap_map]
    rwa [List.append_nil] at hall

theorem exists_styled (color : Bool) (styles : List Style) (text : String) :
    ∃ before after : List Char,
      (styled color styles text).toList = before ++ text.toList ++ after := by
  rw [styled]
  split
  · exact ⟨_, _, by rw [String.toList_append, String.toList_append]⟩
  · exact ⟨[], [], (List.append_nil _).symm⟩

/-- A text shows a finding: in order the name of the rule, the message, the code and the advice. -/
def Shows (f : Finding) (text : List Char) : Prop :=
  ∃ a b c d e : List Char, text = a ++ f.rule.name.toList ++ b ++ f.message.toList ++ c ++
    f.code.name.toList ++ d ++ f.help.toList ++ e

theorem shows_findingText (color : Bool) (f : Finding) : Shows f (findingText color f).toList := by
  obtain ⟨rule, rule', hrule⟩ := exists_styled color [.bold] f.rule.name
  obtain ⟨code, code', hcode⟩ := exists_styled color [.dim] s!"[{f.code.name}]"
  have hbrackets : s!"[{f.code.name}]".toList = '[' :: (f.code.name.toList ++ [']']) := by
    rw [String.toList_append, String.toList_append]
    rfl
  have hmessage : s!": {f.message} ".toList = ": ".toList ++ f.message.toList ++ [' '] := by
    rw [String.toList_append, String.toList_append]
    rfl
  -- What stands around the help is nothing at all if there is none.
  obtain ⟨help, help', hhelp⟩ : ∃ before after : List Char,
      (if f.help.isEmpty then ""
        else "    " ++ styled color [.yellow] "help:" ++ s!" {f.help}\n").toList =
        before ++ f.help.toList ++ after := by
    split
    · rename_i hempty
      rw [String.isEmpty_iff.mp hempty]
      exact ⟨[], [], rfl⟩
    · rw [String.toList_append]
      have hadvice : s!" {f.help}\n".toList = [' '] ++ f.help.toList ++ ['\n'] := by
        rw [String.toList_append, String.toList_append]
        rfl
      rw [hadvice, ← List.append_assoc, ← List.append_assoc]
      exact ⟨_, _, rfl⟩
  refine ⟨("  " ++ styled color [.red] "✗" ++ " ").toList ++ rule, rule' ++ ": ".toList,
    ' ' :: (code ++ ['[']), ']' :: code' ++ '\n' :: help, help', ?_⟩
  delta findingText
  rw [String.toList_append, String.toList_append, String.toList_append, String.toList_append,
    String.toList_append, hrule, hmessage, hcode, hbrackets, hhelp]
  simp only [List.append_assoc, List.cons_append, List.nil_append]
  rfl

/-- All lines about a finding stand in every report, in the same words. -/
theorem findingText_isInfix {verbose color : Bool} {s : Summary} {text : String}
    (h : terminalText? verbose color s = some text) {r : Result} (hr : r ∈ s.results) {f : Finding}
    (hf : f ∈ r.findings) : (findingText color f).toList <:+: text.toList := by
  rw [terminalText?_eq_map] at h
  obtain ⟨parts, hparts, rfl⟩ := Option.map_eq_some_iff.mp h
  obtain ⟨p, hp, rfl⟩ := List.mem_map.mp ((of_labelled? hparts).1 ▸ hr)
  obtain ⟨o, ho, hfinding⟩ := List.mem_flatMap.mp hf
  have hjoin {texts : List String} {t : String} (ht : t ∈ texts) :
      t.toList <:+: (String.join texts).toList := by
    rw [String.toList_join, List.flatMap_def]
    exact List.infix_of_mem_flatten (List.mem_map_of_mem ht)
  have houtcome : (findingText color f).toList <:+: (outcomeLines verbose color o).toList := by
    rw [outcomeLines, String.toList_append]
    exact (hjoin (List.mem_map_of_mem hfinding)).trans (List.prefix_append _ _).isInfix
  have hresult : (findingText color f).toList <:+: (resultLines verbose color p).toList := by
    rw [resultLines, String.toList_append]
    exact (houtcome.trans (hjoin (List.mem_map_of_mem ho))).trans (List.suffix_append _ _).isInfix
  rw [String.toList_append]
  exact (hresult.trans (hjoin (List.mem_map_of_mem hp))).trans (List.prefix_append _ _).isInfix

/-- Two options, and neither of them hides or alters a finding. Where no text of a run holds an
escape character, the report with color comes to the one without when its escape sequences are
removed. Whatever the texts, a verbose report is the short one with notes written between its lines,
one for each outcome that passed or has details, and a note is one line unless its details hold line
feeds. So every line of the short report is there, and each finding is in all reports in the same
words, which show its rule, its message, its code and its advice. -/
theorem render?_text_options (s : Summary) :
    ((∀ r ∈ s.results, ∀ t ∈ userTexts r, Lacks '\x1b' t) → ∀ verbose,
      (render? { format := .text, verbose, color := true } s).map (plain ·.toList) =
        (render? { format := .text, verbose, color := false } s).map String.toList) ∧
      ∀ color,
        Option.Rel (fun short full => Weaves (s.results.flatMap (notes color)) short.toList
            full.toList ∧ (lines short.toList).Sublist (lines full.toList))
          (render? { format := .text, verbose := false, color } s)
          (render? { format := .text, verbose := true, color } s) ∧
        (∀ r ∈ s.results, ∀ o ∈ r.outcomes, hasNote o →
          ∃ line, (outcomeText color o).toList = line ++ ['\n'] ∧
            (o.details.Lacks '\n' → '\n' ∉ line)) ∧
        ∀ verbose text, render? { format := .text, verbose, color } s = some text →
          ∀ r ∈ s.results, ∀ f ∈ r.findings, (findingText color f).toList <:+: text.toList ∧
            Shows f (findingText color f).toList := by
  refine ⟨fun h verbose => terminalText?_plain verbose h, fun color => ⟨?_, ?_, ?_⟩⟩
  · exact weaves_terminalText? color s
  · intro r _ o _ hnote
    obtain ⟨line, hline, hlacks⟩ := exists_outcomeText hnote color
    refine ⟨line.toList, ?_, hlacks⟩
    rw [hline, String.toList_append]
    rfl
  · exact fun verbose text htext r hr f hf =>
      ⟨findingText_isInfix htext hr hf, shows_findingText color f⟩

/-- A run with two notes, one of them about a rule that has a finding. -/
def annotated : Summary :=
  .ofResults
    [⟨{ message := "a" }, [{ rule := .spell, details := .ofList [("k", "v")] }]⟩,
      ⟨{ message := "b" },
        [{ rule := .signOff, details := .ofList [("n", "0")],
           findings := [{ rule := .signOff, code := .missingSignoff, message := "m" }] }]⟩]

theorem render?_text_options_annotated :
    (∀ r ∈ annotated.results, ∀ t ∈ userTexts r, Lacks '\x1b' t) ∧
      (∀ r ∈ annotated.results, ∀ o ∈ r.outcomes, hasNote o ∧ o.details.Lacks '\n' ∧
        ∃ line, (outcomeText false o).toList = line ++ ['\n'] ∧ '\n' ∉ line) ∧
      ∃ short full, render? { verbose := false, color := false } annotated = some short ∧
        render? { verbose := true, color := false } annotated = some full ∧
        (render? { verbose := true, color := true } annotated).map (plain ·.toList) =
          some full.toList ∧
        Weaves (annotated.results.flatMap (notes false)) short.toList full.toList ∧
        (lines short.toList).Sublist (lines full.toList) ∧
        ∀ r ∈ annotated.results, ∀ f ∈ r.findings,
          (findingText false f).toList <:+: short.toList ∧
            Shows f (findingText false f).toList := by
  have hplain : ∀ r ∈ annotated.results, ∀ t ∈ userTexts r, Lacks '\x1b' t := by decide
  have hnotes : ∀ r ∈ annotated.results, ∀ o ∈ r.outcomes,
      hasNote o ∧ o.details.Lacks '\n' := by decide
  have hlabels : ∀ r ∈ annotated.results, (label? r.commit).isSome := by decide
  have hrendered (output : Settings.Output) : (render? output annotated).isSome :=
    (render?_isSome_iff output annotated).mpr (.inr hlabels)
  obtain ⟨short, hshort⟩ := Option.isSome_iff_exists.mp (hrendered ⟨.text, false, false⟩)
  obtain ⟨full, hfull⟩ := Option.isSome_iff_exists.mp (hrendered ⟨.text, true, false⟩)
  obtain ⟨hcolor, hoptions⟩ := render?_text_options annotated
  obtain ⟨hweaves, hlines, hfindings⟩ := hoptions false
  rw [hshort, hfull, Option.rel_some_some] at hweaves
  refine ⟨hplain, fun r hr o ho => ?_, short, full, hshort, hfull, ?_, hweaves.1, hweaves.2,
    hfindings false short hshort⟩
  · obtain ⟨hnote, hdetails⟩ := hnotes r hr o ho
    obtain ⟨line, hline, hlacks⟩ := hlines r hr o ho hnote
    exact ⟨hnote, hdetails, line, hline, hlacks hdetails⟩
  · rw [hcolor hplain true, hfull, Option.map_some]

end Report

end CommitLint
