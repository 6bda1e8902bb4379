import CommitLint.Proofs.Date
import CommitLint.Proofs.Json.Render
import CommitLint.Proofs.Rule
import CommitLint.Report.Basic

/-!
# The document tells the whole run

The report as a document is a JSON text of one value, and from that value the whole run can be told
again (`render?_json`): the counts, and for each commit what is known of it, its date included, and
every finding with all of its texts. `account?` does the telling. It looks members up by their
names, so it does not depend on the order in which the report writes them.

Texts come back as they were since the JSON text is read back as the value that it was made of. What
is left to show is how the report packs rules, codes, dates and texts that may be empty into a
value. A verbose report shows the details of a rule once, those of the last outcome of the rule that
has any (`mem_detailsOf`).
-/

namespace CommitLint

namespace Code

theorem mem_all (code : Code) : code ∈ all := by cases code <;> decide

/-- Codes are told apart by their names. -/
theorem ofName?_name (code : Code) : ofName? code.name = some code := by
  have hall : ∀ code ∈ all, ofName? code.name = some code := by decide +kernel
  exact hall code (mem_all code)

end Code

namespace Report

open Json

/-! ### Looking things up in a value -/

/-- The member of an object under a name. -/
def member? (name : String) : Value → Option Value
  | .object members => members.lookup name
  | _ => none

/-- The text that a value is. -/
def text? : Value → Option String
  | .text s => some s
  | _ => none

/-- The number that a value is. -/
def number? : Value → Option Nat
  | .number n => some n
  | _ => none

/-- The truth value that a value is. -/
def bool? : Value → Option Bool
  | .bool b => some b
  | _ => none

/-- What a value is that may be null. -/
def orNull? {α : Type} (read? : Value → Option α) : Value → Option (Option α)
  | .null => some none
  | v => (read? v).map some

/-- What the items of an array are. -/
def items? {α : Type} (read? : Value → Option α) : Value → Option (List α)
  | .array items => items.mapM read?
  | _ => none

/-- What the members of an object are, with their names. -/
def members? {κ α : Type} (name? : String → Option κ) (read? : Value → Option α) :
    Value → Option (List (κ × α))
  | .object members => members.mapM fun (name, v) => do return (← name? name, ← read? v)
  | _ => none

/-- The rule of a name. -/
def rule? (name : String) : Option Rule := Rule.all.find? (·.name == name)

/-- The named texts that an object is. -/
def fields? (v : Value) : Option Fields := (members? some text? v).map Fields.mk

/-- The finding that an object is. -/
def finding? (v : Value) : Option Finding := do
  return {
    rule := ← (member? "rule" v).bind text? |>.bind rule?
    code := ← (member? "code" v).bind text? |>.bind Code.ofName?
    message := ← (member? "message" v).bind text?
    help := ← (member? "help" v).bind text?
    context := ← (member? "context" v).bind fields? }

/-- The point in time that a text is. -/
def date? (v : Value) : Option Date.Instant := (text? v).bind (Date.ofText? ·.toList)

/-- What a document says about a commit. -/
structure Entry where
  commit : Option String
  subject : String
  author : Option String
  date : Option Date.Instant
  valid : Bool
  findings : List Finding
  details : Option (List (Rule × Fields))
  deriving DecidableEq, Repr

/-- What an object says about a commit. The details may be missing. -/
def entryOf? (v : Value) : Option Entry := do
  return {
    commit := ← (member? "commit" v).bind (orNull? text?)
    subject := ← (member? "subject" v).bind text?
    author := ← (member? "author" v).bind (orNull? text?)
    date := ← (member? "date" v).bind (orNull? date?)
    valid := ← (member? "valid" v).bind bool?
    findings := ← (member? "errors" v).bind (items? finding?)
    details := ← match member? "details" v with
      | none => some none
      | some v => (members? rule? fields? v).map some }

/-- What a document says about a run. -/
structure Account where
  valid : Bool
  total : Nat
  passed : Nat
  failed : Nat
  ruleFailures : List (Rule × Nat)
  results : List Entry
  deriving DecidableEq, Repr

/-- What an object says about a run. -/
def account? (v : Value) : Option Account := do
  return {
    valid := ← (member? "valid" v).bind bool?
    total := ← (member? "total" v).bind number?
    passed := ← (member? "passed" v).bind number?
    failed := ← (member? "failed" v).bind number?
    ruleFailures := ← (member? "rule_failures" v).bind (members? rule? number?)
    results := ← (member? "results" v).bind (items? entryOf?) }

/-! ### Findings are read back -/

theorem rule?_name (rule : Rule) : rule? rule.name = some rule := by
  cases rule <;> rfl

/-- Items that are each read as something are read as all that. -/
theorem mapM_map_eq_some {α β γ : Type} {f : α → β} {g : β → Option γ} {h : α → γ}
    (hg : ∀ a, g (f a) = some (h a)) (l : List α) : (l.map f).mapM g = some (l.map h) := by
  rw [List.mapM_map]
  exact (congrArg (l.mapM ·) (funext hg)).trans List.mapM_pure

theorem members?_object {α β κ : Type} {name? : String → Option κ} {read? : Value → Option β}
    {name : α → String} {value : α → Value} {key : α → κ} {content : α → β}
    (hname : ∀ a, name? (name a) = some (key a)) (hread : ∀ a, read? (value a) = some (content a))
    (l : List α) :
    members? name? read? (.object (l.map fun a => (name a, value a))) =
      some (l.map fun a => (key a, content a)) := by
  refine mapM_map_eq_some (fun a => ?_) l
  simp only [hname, hread, Option.bind_eq_bind, Option.bind_some, Option.pure_def]

theorem fields?_fieldsValue (fields : Fields) : fields? (fieldsValue fields) = some fields := by
  have hname : ∀ entry : String × String, some entry.1 = some entry.1 := fun _ => rfl
  have hread : ∀ entry : String × String, text? (.text entry.2) = some entry.2 := fun _ => rfl
  have hentries : members? some text? (fieldsValue fields) =
      some (fields.entries.map fun entry => (entry.1, entry.2)) :=
    members?_object hname hread fields.entries
  rw [fields?, hentries, Option.map_some, List.map_id']

theorem finding?_findingValue (f : Finding) : finding? (findingValue f) = some f := by
  have hrule : (member? "rule" (findingValue f)).bind text? = some f.rule.name := rfl
  have hcode : (member? "code" (findingValue f)).bind text? = some f.code.name := rfl
  have hmessage : (member? "message" (findingValue f)).bind text? = some f.message := rfl
  have hhelp : (member? "help" (findingValue f)).bind text? = some f.help := rfl
  have hcontext : (member? "context" (findingValue f)).bind fields? =
      fields? (fieldsValue f.context) := rfl
  rw [finding?, hrule, hcode, hmessage, hhelp, hcontext, fields?_fieldsValue, Option.bind_some,
    Option.bind_some, rule?_name, Code.ofName?_name]
  rfl

/-! ### Commits are read back -/

theorem orNull?_textOrNull (s : String) :
    orNull? text? (textOrNull s) = some (if s = "" then none else some s) := by
  rw [textOrNull]
  by_cases hempty : s = ""
  · rw [if_pos hempty, hempty]
    rfl
  · rw [if_neg hempty, if_neg (by simpa using hempty)]
    rfl

/-- Whether some texts are the details of the last outcome of a rule that has any. -/
def AreLastDetails (outcomes : List Outcome) (rule : Rule) (details : Fields) : Prop :=
  ∃ before o after, outcomes = before ++ o :: after ∧ o.rule = rule ∧ o.details = details ∧
    details.isEmpty = false ∧ ∀ p ∈ after, p.rule = rule → p.details.isEmpty

/-- The last of the items that satisfy a condition. -/
theorem getLast?_filter_eq_some_iff {α : Type} {p : α → Bool} {l : List α} {a : α} :
    (l.filter p).getLast? = some a ↔
      ∃ before after, l = before ++ a :: after ∧ p a ∧ ∀ b ∈ after, p b = false := by
  -- The last one is the first one from behind, which the library finds.
  rw [← List.head?_reverse, ← List.filter_reverse, List.head?_filter,
    List.find?_eq_some_iff_append]
  constructor
  · rintro ⟨ha, after, before, hl, hafter⟩
    refine ⟨before.reverse, after.reverse, ?_, ha, ?_⟩
    · rw [← List.reverse_reverse l, hl, List.reverse_append, List.reverse_cons, List.append_assoc,
        List.singleton_append]
    · intro b hb
      simpa using hafter b (List.mem_reverse.mp hb)
  · rintro ⟨before, after, rfl, ha, hafter⟩
    refine ⟨ha, after.reverse, before.reverse, ?_, ?_⟩
    · rw [List.reverse_append, List.reverse_cons, List.append_assoc, List.singleton_append]
    · intro b hb
      simpa using hafter b (List.mem_reverse.mp hb)

theorem lastDetails?_eq_some_iff {outcomes : List Outcome} {rule : Rule} {details : Fields} :
    lastDetails? outcomes rule = some details ↔ AreLastDetails outcomes rule details := by
  rw [lastDetails?, Option.map_eq_some_iff]
  constructor
  · rintro ⟨o, ho, rfl⟩
    obtain ⟨before, after, houtcomes, hshown, hafter⟩ := getLast?_filter_eq_some_iff.mp ho
    rw [Bool.and_eq_true, beq_iff_eq, Bool.not_eq_true'] at hshown
    refine ⟨before, o, after, houtcomes, hshown.1, rfl, hshown.2, fun p hp hrule => ?_⟩
    simpa [hrule] using hafter p hp
  · rintro ⟨before, o, after, houtcomes, hrule, rfl, hdetails, hafter⟩
    refine ⟨o, getLast?_filter_eq_some_iff.mpr ⟨before, after, houtcomes, ?_, fun p hp => ?_⟩, rfl⟩
    · rw [hrule, hdetails, beq_self_eq_true]
      rfl
    · by_cases hp' : p.rule = rule
      · simp [hafter p hp hp']
      · simp [hp']

/-- The details that a document shows. -/
def detailsOf (outcomes : List Outcome) : List (Rule × Fields) :=
  Rule.all.filterMap fun rule => (lastDetails? outcomes rule).map (rule, ·)

theorem mem_detailsOf {outcomes : List Outcome} {rule : Rule} {details : Fields} :
    (rule, details) ∈ detailsOf outcomes ↔ AreLastDetails outcomes rule details := by
  rw [← lastDetails?_eq_some_iff, detailsOf, List.mem_filterMap]
  constructor
  · rintro ⟨rule', -, h⟩
    obtain ⟨details', hdetails, h⟩ := Option.map_eq_some_iff.mp h
    obtain ⟨rfl, rfl⟩ := Prod.mk.inj h
    exact hdetails
  · intro h
    exact ⟨rule, rule.mem_all, by rw [h, Option.map_some]⟩

/-- No rule has its details shown twice. -/
theorem nodup_detailsOf (outcomes : List Outcome) :
    ((detailsOf outcomes).map Prod.fst).Nodup := by
  have hsublist : ∀ rules : List Rule,
      ((rules.filterMap fun rule => (lastDetails? outcomes rule).map (rule, ·)).map
        Prod.fst).Sublist rules := by
    intro rules
    induction rules with
    | nil => simp
    | cons rule rules ih =>
      cases h : lastDetails? outcomes rule with
      | none =>
        rw [List.filterMap_cons_none (by rw [h, Option.map_none])]
        exact ih.cons rule
      | some details =>
        rw [List.filterMap_cons_some (by rw [h, Option.map_some]), List.map_cons]
        exact ih.cons_cons rule
  exact (hsublist Rule.all).nodup Rule.nodup_all

theorem members?_detailsValue (outcomes : List Outcome) :
    members? rule? fields? (detailsValue outcomes) = some (detailsOf outcomes) := by
  have hvalue : detailsValue outcomes =
      .object ((detailsOf outcomes).map fun shown => (shown.1.name, fieldsValue shown.2)) := by
    rw [detailsValue, detailsOf, List.map_filterMap]
    congr 2
    funext rule
    rw [Option.map_map]
    rfl
  have hdetails : members? rule? fields? (detailsValue outcomes) =
      some ((detailsOf outcomes).map fun shown => (shown.1, shown.2)) := by
    rw [hvalue]
    exact members?_object (fun shown : Rule × Fields => rule?_name shown.1)
      (fun shown : Rule × Fields => fields?_fieldsValue shown.2) _
  rw [hdetails, List.map_id']

/-- Whether an entry tells what is known of a commit and what was found. A verbose one tells the
details too. -/
structure Entry.Tells (verbose : Bool) (r : Result) (e : Entry) : Prop where
  commit : e.commit = if r.commit.hash = "" then none else some r.commit.hash
  subject : e.subject = r.commit.subject
  author : e.author = if r.commit.author = "" then none else some r.commit.author
  date : e.date = r.commit.date
  valid : e.valid ↔ ∀ o ∈ r.outcomes, o.findings = []
  findings : e.findings = r.outcomes.flatMap Outcome.findings
  quiet : verbose = false → e.details = none
  details : verbose → ∃ details, e.details = some details ∧ (details.map Prod.fst).Nodup ∧
    ∀ rule fields, (rule, fields) ∈ details ↔ AreLastDetails r.outcomes rule fields

theorem date?_rfc3339 (t : Date.Instant) : date? (.text (Date.rfc3339 t)) = some t :=
  Date.ofText?_rfc3339 t

theorem passed_iff (r : Result) : r.passed ↔ ∀ o ∈ r.outcomes, o.findings = [] := by
  rw [Result.passed, List.all_eq_true]
  exact forall₂_congr fun o _ => List.isEmpty_iff

theorem exists_entryOf? (verbose : Bool) (r : Result) :
    ∃ e, entryOf? (resultValue verbose r) = some e ∧ e.Tells verbose r := by
  -- A member is found under its name by computation, since all of the names are known.
  have hcommit : (member? "commit" (resultValue verbose r)).bind (orNull? text?) =
      orNull? text? (textOrNull r.commit.hash) := rfl
  have hsubject : (member? "subject" (resultValue verbose r)).bind text? =
      some r.commit.subject := rfl
  have hauthor : (member? "author" (resultValue verbose r)).bind (orNull? text?) =
      orNull? text? (textOrNull r.commit.author) := rfl
  have hdate : (member? "date" (resultValue verbose r)).bind (orNull? date?) =
      some r.commit.date := by
    change orNull? date? ((r.commit.date.map fun d => Value.text (Date.rfc3339 d)).getD .null) = _
    cases r.commit.date with
    | none => rfl
    | some t => exact congrArg (Option.map some) (date?_rfc3339 t)
  have hvalid : (member? "valid" (resultValue verbose r)).bind bool? = some r.passed := rfl
  have hfindings : (member? "errors" (resultValue verbose r)).bind (items? finding?) =
      some r.findings := by
    change (r.findings.map findingValue).mapM finding? = some r.findings
    rw [mapM_map_eq_some (h := id) finding?_findingValue, List.map_id]
  rw [entryOf?, hcommit, hsubject, hauthor, hdate, hvalid, hfindings, orNull?_textOrNull,
    orNull?_textOrNull]
  cases verbose with
  | false =>
    exact ⟨_, rfl, rfl, rfl, rfl, rfl, passed_iff r, rfl, fun _ => rfl, by simp⟩
  | true =>
    have hdetails : member? "details" (resultValue true r) = some (detailsValue r.outcomes) := rfl
    rw [hdetails]
    simp only [members?_detailsValue]
    exact ⟨_, rfl, rfl, rfl, rfl, rfl, passed_iff r, rfl, by simp, fun _ =>
      ⟨_, rfl, nodup_detailsOf r.outcomes, fun rule fields => mem_detailsOf⟩⟩

/-! ### Runs are read back -/

/-- The findings of a run, counted for each rule that has some. -/
theorem mem_countByRule {findings : List Finding} {rule : Rule} {n : Nat} :
    (rule, n) ∈ Summary.countByRule findings ↔ 0 < n ∧ n = findings.countP (·.rule == rule) := by
  rw [Summary.countByRule, List.mem_filter, List.mem_map]
  constructor
  · rintro ⟨⟨rule', -, h⟩, hn⟩
    obtain ⟨rfl, rfl⟩ := Prod.mk.inj h
    exact ⟨Nat.pos_of_ne_zero (by simpa using hn), rfl⟩
  · rintro ⟨hn, rfl⟩
    exact ⟨⟨rule, rule.mem_all, rfl⟩, by simpa using Nat.ne_of_gt hn⟩

theorem nodup_countByRule (findings : List Finding) :
    ((Summary.countByRule findings).map Prod.fst).Nodup := by
  have hrules : (Rule.all.map fun rule => (rule, findings.countP (·.rule == rule))).map Prod.fst =
      Rule.all := by
    rw [List.map_map]
    exact List.map_id Rule.all
  exact (List.filter_sublist.map Prod.fst).nodup (hrules.symm ▸ Rule.nodup_all)

/-- Whether an account tells all that a summary counts, and each result in its place. -/
structure Account.Tells (verbose : Bool) (s : Summary) (a : Account) : Prop where
  valid : a.valid = s.allPassed
  total : a.total = s.total
  passed : a.passed = s.passed
  failed : a.failed = s.failed
  ruleFailures : a.ruleFailures = s.ruleFailures
  results : List.Forall₂ (Entry.Tells verbose) s.results a.results

theorem exists_entries? (verbose : Bool) (results : List Result) :
    ∃ entries, (results.map (resultValue verbose)).mapM entryOf? = some entries ∧
      List.Forall₂ (Entry.Tells verbose) results entries := by
  induction results with
  | nil => exact ⟨[], rfl, .nil⟩
  | cons r results ih =>
    obtain ⟨entries, hentries, htells⟩ := ih
    obtain ⟨e, he, hr⟩ := exists_entryOf? verbose r
    refine ⟨e :: entries, ?_, .cons hr htells⟩
    rw [List.map_cons, List.mapM_cons, he, hentries]
    rfl

theorem exists_account? (verbose : Bool) (s : Summary) :
    ∃ a, account? (summaryValue verbose s) = some a ∧ a.Tells verbose s := by
  obtain ⟨entries, hentries, htells⟩ := exists_entries? verbose s.results
  have hvalid : (member? "valid" (summaryValue verbose s)).bind bool? = some s.allPassed := rfl
  have htotal : (member? "total" (summaryValue verbose s)).bind number? = some s.total := rfl
  have hpassed : (member? "passed" (summaryValue verbose s)).bind number? = some s.passed := rfl
  have hfailed : (member? "failed" (summaryValue verbose s)).bind number? = some s.failed := rfl
  have hfailures : (member? "rule_failures" (summaryValue verbose s)).bind
      (members? rule? number?) = some s.ruleFailures := by
    have hmembers := members?_object (fun entry : Rule × Nat => rule?_name entry.1)
      (fun entry : Rule × Nat => (rfl : number? (.number entry.2) = some entry.2)) s.ruleFailures
    rw [List.map_id'] at hmembers
    exact hmembers
  have hresults : (member? "results" (summaryValue verbose s)).bind (items? entryOf?) =
      some entries := hentries
  rw [account?, hvalid, htotal, hpassed, hfailed, hfailures, hresults]
  exact ⟨_, rfl, rfl, rfl, rfl, rfl, rfl, htells⟩

/-- The document about a run is a JSON text, and reading it gives the whole run back: the counts,
and for each commit, in order, what is known of it and every finding. The failures that are counted
for some results are those of the rules with findings, each rule once. -/
theorem render?_json (output : Settings.Output) (s : Summary) :
    ∃ text v a, render? { output with format := .json } s = some text ∧
      (∀ w, Spells w text.toList ↔ w = v) ∧ read? text.toList = some v ∧ account? v = some a ∧
      a.Tells output.verbose s ∧
      ∀ results, s = .ofResults results → (a.ruleFailures.map Prod.fst).Nodup ∧
        ∀ rule n, (rule, n) ∈ a.ruleFailures ↔
          0 < n ∧ n = (results.flatMap Result.findings).countP (·.rule == rule) := by
  obtain ⟨a, ha, htells⟩ := exists_account? output.verbose s
  have hread : read? (documentText output.verbose s).toList =
      some (summaryValue output.verbose s) :=
    read?_document _
  refine ⟨_, _, a, rfl, fun w => ?_, hread, ha, htells, ?_⟩
  · rw [← read?_eq_some_iff, hread, Option.some.injEq, eq_comm]
  · rintro results rfl
    rw [htells.ruleFailures]
    exact ⟨nodup_countByRule _, fun rule n => mem_countByRule⟩

/-- A run with texts that have to be escaped, and a rule that has outcomes with details twice. -/
def untidy : Summary :=
  .ofResults
    [⟨{ message := "fix: \"\\\x07\x7f\"", date := some ⟨-1, ⟨500000000, by decide⟩⟩ },
      [{ rule := .spell,
         findings := [{ rule := .spell, code := .misspelling, message := "teh\r\n\t\u2028" }],
         details := .ofList [("words", "1")] },
        { rule := .spell,
          findings := [{ rule := .spell, code := .misspelling, message := "" }],
          details := .ofList [("words", "2"), ("\"", "\\u0041")] }]⟩]

theorem render?_json_untidy :
    ∃ text v a, render? { format := .json, verbose := true } untidy = some text ∧
      read? text.toList = some v ∧ account? v = some a ∧ a.Tells true untidy ∧
      (Rule.spell, 2) ∈ a.ruleFailures := by
  obtain ⟨text, v, a, htext, -, hread, ha, htells, hcounted⟩ :=
    render?_json { verbose := true } untidy
  have hspell := ((hcounted _ rfl).2 .spell 2).mpr (by decide)
  exact ⟨text, v, a, htext, hread, ha, htells, hspell⟩

end Report

end CommitLint
