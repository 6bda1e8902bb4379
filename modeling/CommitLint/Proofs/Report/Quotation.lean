import CommitLint.Proofs.Check.Wording
import CommitLint.Proofs.Report.Terminal

/-!
# What a report without color quotes

Without color the report for readers adds words, numbers and line feeds of its own, and quotes the
texts of a run as they stand. So a control character that is no line feed is in the report exactly
if one of the quoted texts holds it (`lacks_terminalText_iff`): the report brings no escape sequence
in, and takes none out. A commit whose subject holds one has it in the report
(`not_forall_escape_notMem`).

The texts that a report quotes come from the commits, the settings, the replies of collaborators and
the decoder of armored data (`Rule.lacks_check`), so there is no escape character in the report if
there is none in any of these.
-/

namespace CommitLint.Report

open Text

section Quoting

variable {x : Char} (hx : IsControl x) (hfeed : Lacks x "\n")

include hx hfeed

theorem lacks_findingText_iff {f : Finding} : Lacks x (findingText false f) ↔ f.Lacks x := by
  have hstart : Lacks x ("  " ++ styled false [.red] "✗" ++ " " ++
      styled false [.bold] f.rule.name) :=
    (((hx.lacks rfl).append (hx.lacks rfl)).append (hx.lacks rfl)).append (f.rule.lacks_name hx)
  have hcode : Lacks x (styled false [.dim] s!"[{f.code.name}]") :=
    ((hx.lacks rfl).append (f.code.lacks_name hx)).append (hx.lacks rfl)
  have hmessage : Lacks x s!": {f.message} " ↔ Lacks x f.message :=
    (lacks_append_right (hx.lacks rfl)).trans (lacks_append_left (hx.lacks rfl))
  have hhelp : Lacks x (if f.help.isEmpty then ""
      else "    " ++ styled false [.yellow] "help:" ++ s!" {f.help}\n") ↔ Lacks x f.help := by
    split
    · rename_i hempty
      rw [String.isEmpty_iff.mp hempty]
    · exact (lacks_append_left ((hx.lacks rfl).append (hx.lacks rfl))).trans
        ((lacks_append_right hfeed).trans (lacks_append_left (hx.lacks rfl)))
  delta findingText
  rw [lacks_append, lacks_append_right hfeed, lacks_append_right hcode, lacks_append_left hstart,
    hmessage, hhelp]
  exact ⟨fun h => ⟨h.1, h.2⟩, fun h => ⟨h.message, h.help⟩⟩

omit hfeed in
theorem lacks_detailsText_iff {details : Fields} :
    Lacks x (detailsText false details) ↔ details.Lacks x := by
  delta detailsText
  split
  · rename_i hempty
    rw [Fields.Lacks, List.isEmpty_iff.mp hempty]
    exact iff_of_true lacks_empty (List.forall_mem_nil _)
  · exact (lacks_append_left (hx.lacks rfl)).trans (lacks_details_iff hx)

theorem lacks_outcomeText_iff {o : Outcome} :
    Lacks x (outcomeText false o) ↔ o.details.Lacks x := by
  have hname := o.rule.lacks_name hx
  delta outcomeText
  split
  · exact (lacks_append_right hfeed).trans ((lacks_append_left
      ((((hx.lacks rfl).append (hx.lacks rfl)).append (hx.lacks rfl)).append hname)).trans
        (lacks_detailsText_iff hx))
  · split
    · rename_i hempty
      rw [Fields.Lacks, List.isEmpty_iff.mp hempty]
      exact iff_of_true lacks_empty (List.forall_mem_nil _)
    · exact (lacks_append_right hfeed).trans ((lacks_append_left
        ((hx.lacks rfl).append hname)).trans (lacks_detailsText_iff hx))

theorem lacks_outcomeLines_iff {verbose : Bool} {o : Outcome} :
    Lacks x (outcomeLines verbose false o) ↔ ∀ t ∈ outcomeTexts verbose o, Lacks x t := by
  rw [forall_mem_outcomeTexts_iff, outcomeLines, lacks_append, lacks_join, List.forall_mem_map]
  refine and_congr (forall₂_congr fun f _ => lacks_findingText_iff hx hfeed) ?_
  cases verbose with
  | false => exact iff_of_true lacks_empty (fun h => absurd h Bool.false_ne_true)
  | true => exact (lacks_outcomeText_iff hx hfeed).trans ⟨fun h _ => h, fun h => h rfl⟩

theorem lacks_headText_iff {label : String} {r : Result} :
    Lacks x (headText false label r) ↔ Lacks x label ∧ Lacks x r.commit.subject := by
  have hmark : Lacks x (markText false r.passed) := by
    delta markText
    split <;> exact hx.lacks rfl
  exact lacks_append.trans (and_congr (lacks_append_left (hmark.append (hx.lacks rfl)))
    ((lacks_append_right hfeed).trans (lacks_append_left (hx.lacks rfl))))

theorem lacks_countsText (s : Summary) : Lacks x (countsText false s) := by
  delta countsText
  split
  · exact ((hfeed.append (lacks_text hx s)).append hfeed).append (lacks_ruleFailures hx hfeed s)
  · exact lacks_empty

end Quoting

/-- The texts that a report quotes about a result. -/
def quoted (verbose : Bool) (r : Result) : List String :=
  (label? r.commit).toList ++ r.commit.subject :: r.outcomes.flatMap (outcomeTexts verbose)

theorem lacks_resultLines_iff {x : Char} (hx : IsControl x) (hfeed : Lacks x "\n") {verbose : Bool}
    {p : String × Result} (hlabel : label? p.2.commit = some p.1) :
    Lacks x (resultLines verbose false p) ↔ ∀ t ∈ quoted verbose p.2, Lacks x t := by
  rw [resultLines, lacks_append, lacks_join, lacks_headText_iff hx hfeed, quoted, hlabel,
    Option.toList_some, List.singleton_append, List.forall_mem_cons, List.forall_mem_cons,
    List.forall_mem_flatMap, List.forall_mem_map, and_assoc]
  exact and_congr_right' (and_congr_right'
    (forall₂_congr fun o _ => lacks_outcomeLines_iff hx hfeed))

/-- Without color a report adds no control character but line feeds, and leaves none out. -/
theorem lacks_terminalText_iff {x : Char} (hx : IsControl x) (hfeed : Lacks x "\n") {verbose : Bool}
    {s : Summary} {text : String} (h : terminalText? verbose false s = some text) :
    Lacks x text ↔ ∀ r ∈ s.results, ∀ t ∈ quoted verbose r, Lacks x t := by
  rw [terminalText?_eq_map] at h
  obtain ⟨parts, hparts, rfl⟩ := Option.map_eq_some_iff.mp h
  obtain ⟨hresults, hlabels⟩ := of_labelled? hparts
  rw [lacks_append_right (lacks_countsText hx hfeed s), lacks_join, List.forall_mem_map,
    ← hresults, List.forall_mem_map]
  exact forall₂_congr fun p hp => lacks_resultLines_iff hx hfeed (hlabels p hp)

/-- A report on a run of an engine shows what it quotes, and nothing else, where color is off: it is
written exactly if every commit has a label, and it holds an escape character exactly if one of the
quoted texts does. No text that comes from the rules themselves holds one, so there is none in the
report if the subjects, hashes and signatures of the commits, the settings and the replies of
collaborators have none, as long as what the decoder says about a block brings in none that the
block does not have. -/
theorem render?_text_quotes (e : Engine) (commits : List Commit) (s : Session) (verbose : Bool) :
    let results := (e.validateAll commits s).1
    let report := render? { format := .text, verbose, color := false } (.ofResults results)
    (report.isSome ↔ ∀ c ∈ commits, (label? c).isSome) ∧
      ∀ text, report = some text →
        ('\x1b' ∈ text.toList ↔ ∃ r ∈ results, ∃ t ∈ quoted verbose r, '\x1b' ∈ t.toList) ∧
        (e.settings.Lacks '\x1b' → e.team.Lacks '\x1b' → (∀ c ∈ commits, c.Lacks '\x1b') →
          '\x1b' ∉ text.toList) := by
  intro results report
  have hcommits : results.map Result.commit = commits := e.commit_validateAll commits s
  refine ⟨?_, fun text htext => ?_⟩
  · rw [render?_isSome_iff, ← hcommits, List.forall_mem_map]
    exact or_iff_right ReportFormat.noConfusion
  · have hquotes := lacks_terminalText_iff isControl_escape lacks_lineFeed htext
    refine ⟨?_, fun hsettings hteam hlacks => hquotes.mpr fun r hr t ht => ?_⟩
    · rw [← not_iff_not, not_exists]
      refine hquotes.trans (forall_congr' fun r => ?_)
      rw [not_and, not_exists]
      exact imp_congr_right fun _ => forall_congr' fun t => not_and.symm
    · have hcommit : r.commit.Lacks '\x1b' :=
        hlacks _ (hcommits ▸ List.mem_map_of_mem hr)
      have houtcomes := Engine.lacks_validateAll isControl_escape hsettings hteam hlacks s r hr
      rw [quoted, List.mem_append, List.mem_cons, Option.mem_toList] at ht
      rcases ht with hlabel | rfl | houtcome
      · exact lacks_label isControl_escape hcommit.hash hlabel
      · exact hcommit.subject
      · obtain ⟨o, ho, ht⟩ := List.mem_flatMap.mp houtcome
        exact forall_mem_outcomeTexts_iff.mpr
          ⟨(houtcomes o ho).findings, fun _ => (houtcomes o ho).details⟩ t ht

/-- An engine with a repository that does not answer. -/
def unanswered : Engine where
  settings := {}
  rules := [.commitsAhead, .imperativeVerb]
  team := { ahead := some fun _ _ => .error (.other "no answer") }

theorem render?_text_quotes_unanswered :
    let c : Commit := { message := "Added it", hash := "0123456789" }
    unanswered.settings.Lacks '\x1b' ∧ unanswered.team.Lacks '\x1b' ∧ c.Lacks '\x1b' ∧
      ∃ text, render? { format := .text, verbose := true, color := false }
          (.ofResults (unanswered.validateAll [c] {}).1) = some text ∧
        '\x1b' ∉ text.toList := by
  intro c
  have hsettings : unanswered.settings.Lacks '\x1b' :=
    ⟨List.forall_mem_nil _, List.forall_mem_nil _, List.forall_mem_nil _, by decide⟩
  have hteam : unanswered.team.Lacks '\x1b' := by
    refine ⟨?_, fun _ h => (Option.not_mem_none _ h).elim,
      fun _ h => (Option.not_mem_none _ h).elim, fun _ _ => lacks_empty⟩
    rintro _ ⟨⟩ _ _ _ ⟨⟩
    decide
  have hc : c.Lacks '\x1b' := ⟨by decide, by decide, by decide⟩
  have hcommits : ∀ d ∈ [c], d.Lacks '\x1b' := List.forall_mem_singleton.mpr hc
  have hlabels : ∀ d ∈ [c], (label? d).isSome := by decide
  obtain ⟨hrendered, hquotes⟩ := render?_text_quotes unanswered [c] {} true
  obtain ⟨text, htext⟩ := Option.isSome_iff_exists.mp (hrendered.mpr hlabels)
  exact ⟨hsettings, hteam, hc, text, htext, (hquotes text htext).2 hsettings hteam hcommits⟩

/-- A commit with an escape sequence in its subject. -/
def escaping : Commit := { message := "feat: \x1b[31mred" }

/-- A subject is quoted as it stands, and there may be escape characters in it. -/
theorem not_forall_escape_notMem :
    ¬∀ (e : Engine) (commits : List Commit) (s : Session) (verbose : Bool) (text : String),
      render? { format := .text, verbose, color := false }
        (.ofResults (e.validateAll commits s).1) = some text → '\x1b' ∉ text.toList := by
  intro h
  let e : Engine := { settings := {}, rules := [.subjectLength], team := {} }
  let s : Summary := .ofResults (e.validateAll [escaping] {}).1
  have hlabels : ∀ r ∈ s.results, (label? r.commit).isSome :=
    List.forall_mem_singleton.mpr (by decide)
  obtain ⟨text, htext⟩ := Option.isSome_iff_exists.mp
    ((terminalText?_isSome_iff false false s).mpr hlabels)
  have hquotes := (lacks_terminalText_iff isControl_escape lacks_lineFeed htext).mp
    (h e [escaping] {} false text htext)
  have hsubject : escaping.subject ∈ quoted false (e.validate escaping {}).1 :=
    List.mem_append_right _ List.mem_cons_self
  have hescape : ¬Lacks '\x1b' escaping.subject := by decide
  exact hescape (hquotes _ List.mem_cons_self _ hsubject)

end CommitLint.Report
