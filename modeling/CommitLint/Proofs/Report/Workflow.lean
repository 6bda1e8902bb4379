import CommitLint.Proofs.Report.Label
import CommitLint.Proofs.Rule
import CommitLint.Proofs.Text.Lacks
import CommitLint.Proofs.Text.Pieces
import Mathlib.Data.List.Forall2

/-!
# Workflow commands stay apart

The report as workflow commands is cut at its line feeds into one command for each finding, the
summary, and nothing after it (`render?_github_lines`). Whatever a commit holds, it can neither end
a command early nor begin one: no line ends are left in an encoded message (`ne_of_mem_encode`), and
the summary, which begins with a number, is no command (`startsCommand_text`).

Three replacements one after the other encode a message. They come to one pass over its characters
(`toList_encodeMessage`), since no replacement brings in a character that a later one replaces; and
reading the codes from left to right undoes the pass (`decodeMessage_encode`), since all percent
signs in an encoded message belong to codes.
-/

namespace CommitLint.Report

open Text

/-! ### Encoding in one pass -/

/-- How a character of a message is written. -/
def encodeChar (c : Char) : List Char :=
  if c = '%' then "%25".toList
  else if c = '\r' then "%0D".toList
  else if c = '\n' then "%0A".toList
  else [c]

/-- The three replacements for one character. -/
theorem replaceChar_singleton (c : Char) :
    replaceChar '\n' "%0A".toList (replaceChar '\r' "%0D".toList
      (replaceChar '%' "%25".toList [c])) = encodeChar c := by
  -- Percent signs go first, so the ones that the other two codes bring in stay.
  rw [encodeChar]
  by_cases hpercent : c = '%'
  · rw [hpercent]
    rfl
  by_cases hreturn : c = '\r'
  · rw [hreturn]
    rfl
  by_cases hfeed : c = '\n'
  · rw [hfeed]
    rfl
  simp [replaceChar, hpercent, hreturn, hfeed]

/-- Three replacements come to one pass. -/
theorem toList_encodeMessage (s : String) :
    (encodeMessage s).toList = s.toList.flatMap encodeChar := by
  rw [encodeMessage, String.toList_ofList]
  induction s.toList with
  | nil => rfl
  | cons c s ih =>
    rw [← List.singleton_append, replaceChar_append, replaceChar_append, replaceChar_append,
      replaceChar_singleton, ih, List.singleton_append, List.flatMap_cons]

/-- The text that an encoded message stands for, read from left to right. -/
def decodeMessage : List Char → List Char
  | '%' :: '2' :: '5' :: s => '%' :: decodeMessage s
  | '%' :: '0' :: 'D' :: s => '\r' :: decodeMessage s
  | '%' :: '0' :: 'A' :: s => '\n' :: decodeMessage s
  | c :: s => c :: decodeMessage s
  | [] => []

theorem decodeMessage_cons {c : Char} (h : c ≠ '%') (s : List Char) :
    decodeMessage (c :: s) = c :: decodeMessage s := by
  rw [decodeMessage]
  all_goals exact fun _ hc _ => h hc

/-- Reading the codes undoes the encoding. -/
theorem decodeMessage_encode (s : List Char) : decodeMessage (s.flatMap encodeChar) = s := by
  induction s with
  | nil => rfl
  | cons c s ih =>
    rw [List.flatMap_cons, encodeChar]
    split_ifs with hpercent hreturn hfeed
    · rw [hpercent]
      exact congrArg ('%' :: ·) ih
    · rw [hreturn]
      exact congrArg ('\r' :: ·) ih
    · rw [hfeed]
      exact congrArg ('\n' :: ·) ih
    · rw [List.singleton_append, decodeMessage_cons hpercent, ih]

/-- No line ends are left in an encoded message. -/
theorem ne_of_mem_encode {s : List Char} {c : Char} (h : c ∈ s.flatMap encodeChar) :
    c ≠ '\n' ∧ c ≠ '\r' := by
  obtain ⟨d, -, hc⟩ := List.mem_flatMap.mp h
  have hcode : ∀ code : List Char, code.all (fun c => c ≠ '\n' ∧ c ≠ '\r') → c ∈ code →
      c ≠ '\n' ∧ c ≠ '\r' := by
    intro code hall hmem
    exact of_decide_eq_true (List.all_eq_true.mp hall c hmem)
  rw [encodeChar] at hc
  split_ifs at hc with hpercent hreturn hfeed
  · exact hcode _ rfl hc
  · exact hcode _ rfl hc
  · exact hcode _ rfl hc
  · rw [List.mem_singleton.mp hc]
    exact ⟨hfeed, hreturn⟩

/-- A property without any of the characters that have codes stays as it is. -/
theorem encodeProperty_eq_self {s : String} (h : ∀ c ∈ s.toList, c ∉ "%\r\n:,".toList) :
    encodeProperty s = s := by
  have hnot : ∀ c ∈ "%\r\n:,".toList, c ∉ s.toList := fun c hc hs => h c hs hc
  have hmessage : encodeMessage s = s := by
    rw [encodeMessage, replaceChar_of_notMem (hnot '%' (by decide)),
      replaceChar_of_notMem (hnot '\r' (by decide)), replaceChar_of_notMem (hnot '\n' (by decide)),
      String.ofList_toList]
  rw [encodeProperty, hmessage, replaceChar_of_notMem (hnot ':' (by decide)),
    replaceChar_of_notMem (hnot ',' (by decide)), String.ofList_toList]

/-! ### The line about a finding -/

theorem colon_notMem_name (rule : Rule) : ':' ∉ rule.name.toList := by
  intro h
  exact absurd (rule.isLower_of_mem_name ':' h) (by decide)

/-- Whether a line is taken for a command. -/
def startsCommand (line : List Char) : Bool := "::".toList.isPrefixOf line

/-- What a command about a rule begins with. -/
def commandStart (rule : Rule) : List Char :=
  "::error title=cklint ".toList ++ rule.name.toList ++ "::".toList

theorem toList_encodeProperty_title (rule : Rule) :
    (encodeProperty s!"cklint {rule.name}").toList = "cklint ".toList ++ rule.name.toList := by
  have htitle : s!"cklint {rule.name}".toList = "cklint ".toList ++ rule.name.toList :=
    String.toList_append
  have hplain : "%\r\n:,".toList.all fun c => c ∉ "cklint ".toList ∧ c.isLower = false := rfl
  rw [encodeProperty_eq_self, htitle]
  intro c hc hcode
  have hc' := of_decide_eq_true (List.all_eq_true.mp hplain c hcode)
  rw [htitle, List.mem_append] at hc
  rcases hc with hc | hc
  · exact hc'.1 hc
  · exact Bool.false_ne_true (hc'.2.symm.trans (rule.isLower_of_mem_name c hc))

/-- The line that a finding has in the report, without the line feed. -/
def commandLine (label subject : String) (f : Finding) : List Char :=
  commandStart f.rule ++ (commandMessage label subject f).toList.flatMap encodeChar

theorem toList_command (label subject : String) (f : Finding) :
    (command label subject f).toList = commandLine label subject f ++ ['\n'] := by
  have hend : "\n".toList = ['\n'] := by decide
  have hwords : "::error title=".toList ++ "cklint ".toList = "::error title=cklint ".toList := by
    decide
  have hstart : "::error title=".toList ++ ("cklint ".toList ++ f.rule.name.toList) ++ "::".toList =
      commandStart f.rule := by
    rw [← List.append_assoc]
    exact congrArg (· ++ f.rule.name.toList ++ "::".toList) hwords
  -- Not `rw [command]`: the equation of a definition with literals like these takes seconds.
  delta command
  rw [String.toList_append, String.toList_append, String.toList_append, String.toList_append,
    toList_encodeProperty_title, toList_encodeMessage]
  exact congrArg₂ (· ++ ·) (congrArg (· ++ _) hstart) hend

theorem commandStart_append (rule : Rule) (s : List Char) :
    commandStart rule ++ s =
      "::error title=cklint ".toList ++ (rule.name.toList ++ ':' :: ':' :: s) := by
  have hcolons : "::".toList = [':', ':'] := by decide
  delta commandStart
  rw [List.append_assoc, List.append_assoc]
  exact congrArg (fun colons => _ ++ (_ ++ (colons ++ s))) hcolons

/-- Rules are told apart by what their commands begin with. -/
theorem eq_of_commandStart_append {p q : Rule} {s t : List Char}
    (h : commandStart p ++ s = commandStart q ++ t) : p = q ∧ s = t := by
  have hcut : ∀ (rule : Rule) (s : List Char),
      cutAt ':' (rule.name.toList ++ ':' :: ':' :: s) = some (rule.name.toList, ':' :: s) :=
    fun rule s => cutAt_append (colon_notMem_name rule) (':' :: s)
  rw [commandStart_append, commandStart_append] at h
  have hpair := hcut p s
  rw [List.append_cancel_left h, hcut q t, Option.some.injEq, Prod.mk.injEq,
    List.cons.injEq] at hpair
  exact ⟨Rule.name_injective (String.toList_inj.mp hpair.1.symm), hpair.2.2.symm⟩

theorem lineEnds_notMem_commandStart (rule : Rule) :
    '\n' ∉ commandStart rule ∧ '\r' ∉ commandStart rule := by
  cases rule <;> decide

theorem startsCommand_commandStart_append (rule : Rule) (s : List Char) :
    startsCommand (commandStart rule ++ s) := by
  cases rule <;> rfl

/-! ### The summary -/

theorem lineFeed_notMem_toString (n : Nat) : '\n' ∉ (toString n).toList := by
  intro h
  exact absurd (isDigit_of_mem_toString h) (by decide)

theorem startsCommand_toString_append (n : Nat) (s : List Char) :
    startsCommand ((toString n).toList ++ s) = false := by
  have hne : (toString n).toList ≠ [] := by
    rw [Nat.toString_eq_ofList_toDigits, String.toList_ofList]
    exact Nat.toDigits_ne_nil
  obtain ⟨c, t, ht⟩ := List.exists_cons_of_ne_nil hne
  have hdigit : c.isDigit := isDigit_of_mem_toString (ht ▸ List.mem_cons_self)
  have hcolon : ':' ≠ c := by
    rintro rfl
    exact absurd hdigit (by decide)
  rw [ht, startsCommand, List.cons_append]
  change (':' == c && [':'].isPrefixOf (t ++ s)) = false
  rw [beq_eq_false_iff_ne.mpr hcolon, Bool.false_and]

/-- The summary begins with a number and has no line feeds after it. -/
theorem toList_text (s : Summary) :
    ∃ (n : Nat) (rest : List Char), s.text.toList = (toString n).toList ++ rest ∧
      '\n' ∉ rest := by
  delta Summary.text
  split
  · refine ⟨s.passed, " of ".toList ++ ((toString s.total).toList ++ " commits passed".toList),
      ?_, ?_⟩
    · simp only [String.toList_append, List.append_assoc]
      rfl
    · rw [List.mem_append, List.mem_append, not_or, not_or]
      exact ⟨by decide, lineFeed_notMem_toString _, by decide⟩
  · refine ⟨s.failed, " of ".toList ++ ((toString s.total).toList ++ (" commits failed (".toList ++
      ((toString s.findingCount).toList ++ " errors)".toList))), ?_, ?_⟩
    · simp only [String.toList_append, List.append_assoc]
      rfl
    · rw [List.mem_append, List.mem_append, List.mem_append, List.mem_append, not_or, not_or,
        not_or, not_or]
      exact ⟨by decide, lineFeed_notMem_toString _, by decide, lineFeed_notMem_toString _,
        by decide⟩

theorem lineFeed_notMem_text (s : Summary) : '\n' ∉ s.text.toList := by
  obtain ⟨n, rest, htext, hrest⟩ := toList_text s
  rw [htext, List.mem_append, not_or]
  exact ⟨lineFeed_notMem_toString n, hrest⟩

/-- The summary is not taken for a command. -/
theorem startsCommand_text (s : Summary) : startsCommand s.text.toList = false := by
  obtain ⟨n, rest, htext, -⟩ := toList_text s
  rw [htext, startsCommand_toString_append]

/-! ### The whole report -/

/-- The findings of a run, each with its commit, in the order of the report. -/
def reported (s : Summary) : List (Commit × Finding) :=
  s.results.flatMap fun r => r.findings.map (r.commit, ·)

/-- What there is to say about a finding in a commit: the label and the subject of the commit, the
message of the finding, and its code. -/
def IsAnnouncement (p : Commit × Finding) (text : String) : Prop :=
  ∃ label, IsLabel p.1.hash label ∧
    text = label ++ " " ++ p.1.subject ++ ": " ++ p.2.message ++ " (" ++ p.2.code.name ++ ")"

/-- Whether a line is the command for a finding in a commit: it begins with the name of the rule,
decodes to what there is to say after that, and does not hold line ends. -/
def Announces (p : Commit × Finding) (line : List Char) : Prop :=
  ∃ text rest, IsAnnouncement p text ∧ line = commandStart p.2.rule ++ rest ∧
    decodeMessage rest = text.toList ∧ '\r' ∉ line ∧ '\n' ∉ line

theorem isAnnouncement_commandMessage {c : Commit} {label : String} (h : label? c = some label)
    (f : Finding) : IsAnnouncement (c, f) (commandMessage label c.subject f) := by
  exact ⟨label, label?_eq_some_iff.mp h, rfl⟩

theorem announces_commandLine {c : Commit} {label : String} (h : label? c = some label)
    (f : Finding) : Announces (c, f) (commandLine label c.subject f) := by
  have hrest : ∀ d, d ∈ (commandMessage label c.subject f).toList.flatMap encodeChar →
      d ≠ '\n' ∧ d ≠ '\r' := fun d hd => ne_of_mem_encode hd
  obtain ⟨hfeed, hreturn⟩ := lineEnds_notMem_commandStart f.rule
  refine ⟨commandMessage label c.subject f, _, isAnnouncement_commandMessage h f, rfl,
    decodeMessage_encode _, ?_, ?_⟩
  · rw [commandLine, List.mem_append, not_or]
    exact ⟨hreturn, fun hd => (hrest '\r' hd).2 rfl⟩
  · rw [commandLine, List.mem_append, not_or]
    exact ⟨hfeed, fun hd => (hrest '\n' hd).1 rfl⟩

theorem Announces.startsCommand {p : Commit × Finding} {line : List Char} (h : Announces p line) :
    startsCommand line := by
  obtain ⟨text, rest, -, hline, -⟩ := h
  rw [hline]
  exact startsCommand_commandStart_append p.2.rule rest

theorem Announces.lineFeed_notMem {p : Commit × Finding} {line : List Char}
    (h : Announces p line) : '\n' ∉ line := by
  obtain ⟨text, rest, -, -, -, -, hfeed⟩ := h
  exact hfeed

/-- A line tells what it says. -/
theorem Announces.eq_of_line {p q : Commit × Finding} {line : List Char} (hp : Announces p line)
    (hq : Announces q line) :
    p.2.rule = q.2.rule ∧ ∃ text, IsAnnouncement p text ∧ IsAnnouncement q text := by
  obtain ⟨text, rest, htext, hline, hdecode, -⟩ := hp
  obtain ⟨text', rest', htext', hline', hdecode', -⟩ := hq
  obtain ⟨hrule, hrest⟩ := eq_of_commandStart_append (hline.symm.trans hline')
  have hsame : text = text' := String.toList_inj.mp (hdecode.symm.trans (hrest ▸ hdecode'))
  exact ⟨hrule, text, htext, hsame ▸ htext'⟩

/-- The lines of a result, if its commit has a label. -/
theorem toList_commands? {r : Result} {part : String} (h : commands? r = some part) :
    ∃ lines, part.toList = lines.flatMap (· ++ ['\n']) ∧
      List.Forall₂ Announces (r.findings.map (r.commit, ·)) lines := by
  obtain ⟨label, hlabel, hpart⟩ := Option.bind_eq_some_iff.mp h
  refine ⟨r.findings.map (commandLine label r.commit.subject), ?_, ?_⟩
  · rw [← Option.some.inj hpart, String.toList_join, List.flatMap_map, List.flatMap_map]
    simp only [toList_command]
  · rw [List.forall₂_map_left_iff, List.forall₂_map_right_iff, List.forall₂_same]
    exact fun f _ => announces_commandLine hlabel f

/-- The lines of some results, one after the other. -/
theorem toList_mapM_commands? {results : List Result} {parts : List String}
    (h : results.mapM commands? = some parts) :
    ∃ lines, (String.join parts).toList = lines.flatMap (· ++ ['\n']) ∧
      List.Forall₂ Announces (results.flatMap fun r => r.findings.map (r.commit, ·)) lines := by
  induction results generalizing parts with
  | nil =>
    rw [List.mapM_nil] at h
    refine ⟨[], ?_, .nil⟩
    rw [← Option.some.inj h]
    rfl
  | cons r results ih =>
    rw [List.mapM_cons] at h
    obtain ⟨part, hpart, h⟩ := Option.bind_eq_some_iff.mp h
    obtain ⟨parts', hparts, h⟩ := Option.bind_eq_some_iff.mp h
    obtain ⟨lines, htext, hlines⟩ := toList_commands? hpart
    obtain ⟨lines', htext', hlines'⟩ := ih hparts
    refine ⟨lines ++ lines', ?_, List.rel_append hlines hlines'⟩
    rw [← Option.some.inj h, String.toList_join, List.flatMap_cons, ← String.toList_join, htext,
      htext', List.flatMap_append]

theorem forall_mem_of_forall₂ {α β : Type} {R : α → β → Prop} {P : β → Prop} {as : List α}
    {bs : List β} (h : List.Forall₂ R as bs) (himp : ∀ {a b}, R a b → P b) : ∀ b ∈ bs, P b := by
  induction h with
  | nil => exact List.forall_mem_nil P
  | cons hab _ ih => exact List.forall_mem_cons.mpr ⟨himp hab, ih⟩

/-- The report is cut at its line feeds into the commands, the summary, and nothing after it. -/
theorem exists_commands_of_workflowText? {s : Summary} {text : String}
    (h : workflowText? s = some text) :
    ∃ commands : List (List Char), pieces '\n' text.toList = commands ++ [s.text.toList, []] ∧
      List.Forall₂ Announces (reported s) commands := by
  obtain ⟨parts, hparts, htext⟩ := Option.bind_eq_some_iff.mp h
  obtain ⟨commands, hjoin, hcommands⟩ := toList_mapM_commands? hparts
  have hlines : ∀ line ∈ commands, '\n' ∉ line :=
    forall_mem_of_forall₂ hcommands Announces.lineFeed_notMem
  have hsummary : pieces '\n' (s.text.toList ++ ['\n']) = [s.text.toList, []] :=
    pieces_append (lineFeed_notMem_text s) []
  refine ⟨commands, ?_, hcommands⟩
  rw [← Option.some.inj htext, String.toList_append, String.toList_append, hjoin,
    List.append_assoc]
  exact (pieces_flatMap hlines _).trans (congrArg (commands ++ ·) hsummary)

/-- Where a run is reported as commands, each finding has a line, the summary is the last line, and
no text that the run holds adds a command, ends one early or hides one: the lines that are taken for
commands are those of the findings, in order. Findings with the same line are of one rule, and there
is the same to say about them. -/
theorem render?_github_lines {output : Settings.Output} {s : Summary} {text : String}
    (hgithub : output.format = .github) (h : render? output s = some text) :
    ∃ commands : List (List Char),
      pieces '\n' text.toList = commands ++ [s.text.toList, []] ∧
        commands.length = (s.results.flatMap Result.findings).length ∧
        List.Forall₂ Announces (reported s) commands ∧
        (pieces '\n' text.toList).filter (startsCommand ·) = commands ∧
        ∀ p ∈ (reported s).zip commands, ∀ q ∈ (reported s).zip commands, p.2 = q.2 →
          p.1.2.rule = q.1.2.rule ∧
            ∃ text, IsAnnouncement p.1 text ∧ IsAnnouncement q.1 text := by
  rw [render?, hgithub] at h
  obtain ⟨commands, hpieces, hcommands⟩ := exists_commands_of_workflowText? h
  refine ⟨commands, hpieces, ?_, hcommands, ?_, ?_⟩
  · rw [← hcommands.length_eq, reported, List.length_flatMap, List.length_flatMap]
    simp only [List.length_map]
  · have hnone : [s.text.toList, []].filter (startsCommand ·) = [] := by
      rw [List.filter_cons, startsCommand_text]
      rfl
    rw [hpieces, List.filter_append, hnone, List.append_nil, List.filter_eq_self]
    exact forall_mem_of_forall₂ hcommands Announces.startsCommand
  · rintro ⟨p, line⟩ hp ⟨q, line'⟩ hq (heq : line = line')
    have hannounces : Announces q line' := List.forall₂_zip hcommands hq
    exact (List.forall₂_zip hcommands hp).eq_of_line (heq ▸ hannounces)

/-- A run whose texts look like commands and like codes for line ends. -/
def forged : Summary :=
  .ofResults
    [⟨{ message := "::error::100%0A done\n", hash := "%0D::notice" },
      [{ rule := .spell,
         findings :=
          [{ rule := .spell, code := .misspelling, message := "x\r\n::error::%0A" },
            { rule := .spell, code := .misspelling, message := "x%0D%0A::error::\n" }] }]⟩]

theorem render?_github_lines_forged :
    ∃ text, render? { format := .github } forged = some text ∧
      ∃ commands, pieces '\n' text.toList = commands ++ [forged.text.toList, []] ∧
        commands.length = 2 ∧ List.Forall₂ Announces (reported forged) commands ∧
        (pieces '\n' text.toList).filter (startsCommand ·) = commands := by
  have hlabels : ∀ r ∈ forged.results, (label? r.commit).isSome := by decide
  have hrendered := (workflowText?_isSome_iff forged).mpr hlabels
  obtain ⟨text, htext⟩ := Option.isSome_iff_exists.mp hrendered
  have htext : render? { format := .github } forged = some text := htext
  obtain ⟨commands, hpieces, hlength, hannounces, hfilter, -⟩ := render?_github_lines rfl htext
  exact ⟨text, htext, commands, hpieces, hlength, hannounces, hfilter⟩

end CommitLint.Report
