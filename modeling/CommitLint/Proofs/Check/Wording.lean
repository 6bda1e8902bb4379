import CommitLint.Proofs.Check.Spelling
import CommitLint.Proofs.Engine.Independence
import CommitLint.Proofs.Envelope.Pgp
import CommitLint.Proofs.Envelope.Ssh
import CommitLint.Proofs.Finding
import CommitLint.Proofs.IssueKey
import CommitLint.Proofs.Subject.Grammar

/-!
# Where the words of a rule come from

A rule words its findings and details in fixed words, in numbers, and in texts from elsewhere. None
of the first two holds a control character. From a commit come its subject and parts of it, and the
type of the block in its signature; a word that is misspelled or in the wrong mood and an issue key
consist of word characters. From the settings come the lists of conventional types and scopes, the
custom corrections and the reference branch, and from collaborators what they reply. What is said
about a block that cannot be decoded comes from the decoder.

So where none of these holds a control character, and the decoder brings none in that the block does
not have, no rule brings one in (`Rule.lacks_check`).
-/

namespace CommitLint

open Text

variable {x : Char}

/-! ### The texts that rules look at -/

/-- The texts of a commit that rules quote from lack a character. -/
structure Commit.Lacks (x : Char) (c : Commit) : Prop where
  subject : Text.Lacks x c.subject
  hash : Text.Lacks x c.hash
  signature : Text.Lacks x c.signature

/-- The texts of the settings that rules quote lack a character. -/
structure Settings.Lacks (x : Char) (settings : Settings) : Prop where
  types : ∀ t ∈ settings.conventional.types, Text.Lacks x t
  scopes : ∀ t ∈ settings.conventional.scopes, Text.Lacks x t
  corrections : ∀ e ∈ settings.spell.customWords.entries, Text.Lacks x e.2
  reference : Text.Lacks x settings.repository.referenceBranch

/-- The replies of collaborators lack a character. -/
structure Collaborators.Lacks (x : Char) (team : Collaborators) : Prop where
  ahead : ∀ ahead ∈ team.ahead, ∀ asked reference message,
    ahead asked reference = .error (.other message) → Text.Lacks x message
  fault : ∀ verify ∈ team.verify, ∀ asked c fault,
    verify asked c = .error fault → Text.Lacks x fault.message
  signer : ∀ verify ∈ team.verify, ∀ asked c signer,
    verify asked c = .ok signer → Text.Lacks x signer.text ∧ ∀ key ∈ signer.keyId, Text.Lacks x key
  /-- What the decoder of armored data says about a block brings in nothing that is not there. -/
  explain : ∀ block, Text.Lacks x block → Text.Lacks x (team.explain block)

theorem Text.IsControl.isWordChar_eq_false (hx : IsControl x) : isWordChar x = false := by
  have hascii : isAscii x = true := decide_eq_true (Nat.lt_trans hx (by decide))
  have hleast {c d : Char} (h : c ≤ d) : c.toNat ≤ d.toNat := UInt32.le_iff_toNat_le.mp h
  rw [isWordChar, if_pos hascii]
  refine Bool.eq_false_iff.mpr fun hname => ?_
  simp only [isNameChar, isCapitalAscii, isSmallAscii, isDigitAscii, Bool.or_eq_true,
    Bool.and_eq_true, decide_eq_true_eq, beq_iff_eq] at hname
  rcases hname with ((h | h) | h) | h
  · exact hx.ne (Nat.le_trans (by decide) (hleast h.1)) rfl
  · exact hx.ne (Nat.le_trans (by decide) (hleast h.1)) rfl
  · exact hx.ne (Nat.le_trans (by decide) (hleast h.1)) rfl
  · exact hx.ne (h ▸ by decide) rfl

theorem Text.IsControl.notMem_of_isWordChar (hx : IsControl x) {s : List Char}
    (h : ∀ c ∈ s, isWordChar c) : x ∉ s := fun hmem =>
  Bool.false_ne_true (hx.isWordChar_eq_false.symm.trans (h x hmem))

/-! #### Parts of a subject -/

namespace Subject

theorem subset_of_parse? {line : List Char} {s : Subject} (h : parse? line = some s) :
    s.type ⊆ line ∧ (∀ raw ∈ s.rawScope, raw ⊆ line) ∧ s.description ⊆ line := by
  obtain ⟨l, rfl, rfl⟩ := exists_layout_of_parse? h
  refine ⟨fun c hc => ?_, fun raw hraw c hc => ?_, fun c hc => ?_⟩
  · exact List.mem_append_left _ (List.mem_append_left _ (List.mem_append_left _ hc))
  · have hraw : l.rawScope = some raw := hraw
    have hscope : c ∈ scopeText l.rawScope := by
      rw [hraw, scopeText]
      exact List.mem_cons_of_mem _ (List.mem_append_left _ hc)
    exact List.mem_append_left _ (List.mem_append_left _ (List.mem_append_right _ hscope))
  · exact List.mem_append_right _ (List.mem_cons_of_mem _ ((List.dropWhile_subset _) hc))

theorem notMem_of_mem_scopes {s : Subject} (h : ∀ raw ∈ s.rawScope, x ∉ raw)
    {scope : List Char} (hscope : scope ∈ s.scopes) : x ∉ scope := by
  rw [scopes] at hscope
  split at hscope
  · cases hscope
  · rename_i raw hraw
    obtain ⟨p, hp, rfl⟩ := List.mem_map.mp (List.mem_filter.mp hscope).1
    exact fun hmem => h raw hraw (subset_of_mem_pieces hp (trimBoth_subset _ p hmem))

theorem statement_subset (line : List Char) : statement line ⊆ line := by
  rw [statement]
  split
  · rename_i s hs
    exact (subset_of_parse? hs).2.2
  · exact List.Subset.refl _

end Subject

namespace Check

variable (hx : IsControl x)

include hx

/-! ### Length, case and ending -/

theorem lacks_subjectLength (settings : Settings.SubjectLine) (c : Commit) :
    (subjectLength settings c).Lacks x where
  findings := by
    delta subjectLength
    dsimp only
    split
    · exact List.forall_mem_nil _
    · refine List.forall_mem_singleton.mpr ⟨?_, ?_⟩
      · exact hx.lacks_among rfl rfl rfl (hx.lacks_toString _) (hx.lacks_toString _)
      · exact hx.lacks_between rfl rfl (hx.lacks_toString _)
  details := Fields.lacks_ofList_pair hx rfl rfl (hx.lacks_toString _) (hx.lacks_toString _)

theorem lacks_emptySubject (rule : Rule) : (emptySubject rule).Lacks x :=
  Finding.lacks_advised hx (hx.lacks rfl)

theorem lacks_emptyMessage (rule : Rule) : (emptyMessage rule).Lacks x :=
  Finding.lacks_advised hx (hx.lacks rfl)

theorem lacks_expectedCase (case : LetterCase) : Lacks x (expectedCase case) := by
  cases case <;> exact hx.lacks rfl

theorem lacks_subjectCase (settings : Settings.SubjectLine) {c : Commit}
    (h : Lacks x c.subject) : (subjectCase settings c).Lacks x := by
  have hcase := lacks_expectedCase hx settings.letterCase
  delta subjectCase
  dsimp only
  split
  · exact Outcome.lacks_failure (lacks_emptySubject hx _)
  · split
    · exact ⟨List.forall_mem_nil _, Fields.lacks_empty⟩
    · rename_i first rest hstatement
      have hfirst : x ≠ first := by
        rintro rfl
        exact h (Subject.statement_subset _ (hstatement ▸ List.mem_cons_self))
      refine ⟨?_, Fields.lacks_ofList_singleton hx rfl hcase⟩
      dsimp only
      split
      · refine List.forall_mem_singleton.mpr ⟨?_, ?_⟩
        · exact hx.lacks_among rfl rfl rfl hcase (lacks_toString_iff.mpr hfirst)
        · exact hx.lacks_between rfl rfl hcase
      · exact List.forall_mem_nil _

theorem lacks_subjectSuffix (settings : Settings.SubjectLine) {c : Commit}
    (h : Lacks x c.subject) : (subjectSuffix settings c).Lacks x := by
  delta subjectSuffix
  split
  · exact Outcome.lacks_failure (lacks_emptySubject hx _)
  · rename_i last hlast
    have hne : x ≠ last := by
      rintro rfl
      exact h (trimEnd_subset _ (List.mem_of_getLast? hlast))
    split
    · exact Outcome.lacks_failure (Finding.lacks_advised hx (hx.lacks rfl))
    · split
      · refine Outcome.lacks_failure ⟨?_, ?_⟩
        · exact hx.lacks_between rfl rfl (lacks_toString_iff.mpr hne)
        · exact hx.lacks_between rfl rfl (lacks_toString_iff.mpr hne)
      · exact ⟨List.forall_mem_nil _, Fields.lacks_empty⟩

/-! ### Bodies and sign-offs -/

theorem lacks_requiredFindings (settings : Settings.Body) (body : List Char) :
    ∀ f ∈ requiredFindings settings body, f.Lacks x := by
  delta requiredFindings
  dsimp only
  split
  · exact Finding.forall_lacks_advised hx (hx.lacks rfl)
  · split
    · exact Finding.forall_lacks_advised hx (hx.lacks rfl)
    · split
      · refine Finding.forall_lacks_advised hx ?_
        exact hx.lacks_among rfl rfl rfl (hx.lacks_toString _) (hx.lacks_toString _)
      · exact List.forall_mem_nil _

theorem lacks_afterSignOffFindings (body : List Char) :
    ∀ f ∈ afterSignOffFindings body, f.Lacks x := by
  delta afterSignOffFindings
  split
  · exact List.forall_mem_nil _
  · exact Finding.forall_lacks_advised hx (hx.lacks rfl)

theorem lacks_blankLineFindings (message : List Char) :
    ∀ f ∈ blankLineFindings message, f.Lacks x := by
  delta blankLineFindings
  split
  · exact List.forall_mem_nil _
  · split
    · exact List.forall_mem_nil _
    · exact Finding.forall_lacks_advised hx (hx.lacks rfl)

theorem lacks_body (settings : Settings.Body) (c : Commit) : (body settings c).Lacks x := by
  delta body
  dsimp only
  split
  · exact Outcome.lacks_failure (lacks_emptyMessage hx _)
  · refine ⟨?_, Fields.lacks_ofList
      (List.forall_mem_singleton.mpr ⟨hx.lacks rfl, hx.lacks_toString _⟩)⟩
    refine List.forall_mem_append.mpr ⟨List.forall_mem_append.mpr
      ⟨lacks_blankLineFindings hx _, ?_⟩, lacks_afterSignOffFindings hx _⟩
    split
    · exact lacks_requiredFindings hx settings _
    · exact List.forall_mem_nil _

theorem lacks_signOffFindings (settings : Settings.SignOff) (body : List Char) :
    ∀ f ∈ signOffFindings settings body, f.Lacks x := by
  delta signOffFindings
  dsimp only
  split
  · split
    · exact Finding.forall_lacks_advised hx (hx.lacks rfl)
    · exact Finding.forall_lacks_advised hx (hx.lacks rfl)
  · split
    · refine Finding.forall_lacks_advised hx ?_
      exact hx.lacks_between rfl rfl (hx.lacks_toString _)
    · exact List.forall_mem_nil _

theorem lacks_signOff (settings : Settings.SignOff) (c : Commit) :
    (signOff settings c).Lacks x := by
  delta signOff
  exact Outcome.lacks_mk (lacks_signOffFindings hx settings _)
    (Fields.lacks_ofList_singleton hx rfl (hx.lacks_toString _))

/-! ### Conventional subjects -/

theorem lacks_commaList {sep : List Char} (hsep : sep.all (32 ≤ ·.toNat)) {texts : List String}
    (h : ∀ t ∈ texts, Lacks x t) : Lacks x (commaList (.ofList sep) texts) :=
  (lacks_intercalate (hx.lacks hsep)).mpr h

theorem lacks_standardTypes : ∀ t ∈ Subject.standardTypes, Lacks x t := by
  delta Subject.standardTypes
  repeat refine List.forall_mem_cons.mpr ⟨hx.lacks rfl, ?_⟩
  exact List.forall_mem_nil _

theorem lacks_typeFindings {settings : Settings.Conventional}
    (hallowed : ∀ t ∈ settings.types, Lacks x t) {s : Subject} (h : x ∉ s.type) :
    ∀ f ∈ typeFindings settings s, f.Lacks x := by
  have hlist : ∀ t ∈ allowedTypes settings, Lacks x t := by
    rw [allowedTypes]
    split
    · exact lacks_standardTypes hx
    · exact hallowed
  delta typeFindings
  dsimp only
  split
  · exact List.forall_mem_nil _
  · refine List.forall_mem_singleton.mpr ⟨?_, ?_⟩
    · exact hx.lacks_between rfl rfl (lacks_ofList.mpr h)
    · exact (hx.lacks rfl).append (lacks_commaList hx rfl hlist)

theorem lacks_scopeFindings {settings : Settings.Conventional}
    (hallowed : ∀ t ∈ settings.scopes, Lacks x t) {s : Subject} (h : ∀ raw ∈ s.rawScope, x ∉ raw) :
    ∀ f ∈ scopeFindings settings s, f.Lacks x := by
  have hform : ∀ f ∈ scopeFormFindings s, f.Lacks x := by
    delta scopeFormFindings
    split
    · exact List.forall_mem_nil _
    · rename_i raw hraw
      split
      · exact List.forall_mem_nil _
      · refine Finding.forall_lacks_advised hx ?_
        exact hx.lacks_between rfl rfl (lacks_ofList.mpr (h raw hraw))
  delta scopeFindings
  refine List.forall_mem_append.mpr ⟨List.forall_mem_append.mpr ⟨hform, ?_⟩, ?_⟩
  · split
    · exact Finding.forall_lacks_advised hx (hx.lacks rfl)
    · exact List.forall_mem_nil _
  · split
    · exact List.forall_mem_nil _
    · refine List.forall_mem_map.mpr fun text htext => ⟨?_, ?_⟩
      · obtain ⟨scope, hmem, rfl⟩ := List.mem_map.mp (List.mem_filter.mp htext).1
        exact hx.lacks_between rfl rfl (lacks_ofList.mpr (Subject.notMem_of_mem_scopes h hmem))
      · exact (hx.lacks rfl).append (lacks_commaList hx rfl hallowed)

theorem lacks_breakingFindings (settings : Settings.Conventional) (s : Subject) :
    ∀ f ∈ breakingFindings settings s, f.Lacks x := by
  delta breakingFindings
  split
  · exact Finding.forall_lacks_advised hx (hx.lacks rfl)
  · exact List.forall_mem_nil _

theorem lacks_descriptionFindings (settings : Settings.Conventional) (s : Subject) :
    ∀ f ∈ descriptionFindings settings s, f.Lacks x := by
  delta descriptionFindings
  dsimp only
  split
  · exact Finding.forall_lacks_advised hx (hx.lacks rfl)
  · split
    · exact List.forall_mem_nil _
    · refine Finding.forall_lacks_advised hx ?_
      exact hx.lacks_among rfl rfl rfl (hx.lacks_toString _) (hx.lacks_toString _)

theorem lacks_spacingFindings (line : List Char) : ∀ f ∈ spacingFindings line, f.Lacks x := by
  delta spacingFindings
  split
  · exact List.forall_mem_nil _
  · dsimp only
    split
    · exact List.forall_mem_nil _
    · exact Finding.forall_lacks_advised hx ((hx.lacks rfl).append (hx.lacks_toString _))

theorem lacks_subjectDetails {s : Subject} (htype : x ∉ s.type)
    (hscope : ∀ raw ∈ s.rawScope, x ∉ raw) (hdescription : x ∉ s.description) :
    (subjectDetails s).Lacks x := by
  have hscopes : Lacks x (commaList "," (s.scopes.map String.ofList)) :=
    lacks_commaList hx rfl (List.forall_mem_map.mpr fun scope hmem =>
      lacks_ofList.mpr (Subject.notMem_of_mem_scopes hscope hmem))
  have hbreaking : Lacks x (toString s.breaking) := by
    cases s.breaking <;> exact hx.lacks rfl
  delta subjectDetails
  refine Fields.lacks_ofList ?_
  simp only [List.forall_mem_cons, List.not_mem_nil, false_implies, implies_true, and_true]
  exact ⟨⟨hx.lacks rfl, lacks_ofList.mpr htype⟩, ⟨hx.lacks rfl, hscopes⟩,
    ⟨hx.lacks rfl, hbreaking⟩, hx.lacks rfl, lacks_ofList.mpr hdescription⟩

theorem lacks_conventional {settings : Settings.Conventional}
    (htypes : ∀ t ∈ settings.types, Lacks x t) (hscopes : ∀ t ∈ settings.scopes, Lacks x t)
    {c : Commit} (h : Lacks x c.subject) : (conventional settings c).Lacks x := by
  delta conventional
  split
  · exact Outcome.lacks_failure (lacks_emptyMessage hx _)
  · delta subjectOutcome
    split
    · rename_i s hs
      obtain ⟨htype, hraw, hdescription⟩ := Subject.subset_of_parse? hs
      have htype : x ∉ s.type := fun hmem => h (htype hmem)
      have hraw : ∀ raw ∈ s.rawScope, x ∉ raw := fun raw hmem hx => h (hraw raw hmem hx)
      have hdescription : x ∉ s.description := fun hmem => h (hdescription hmem)
      refine Outcome.lacks_mk ?_ (lacks_subjectDetails hx htype hraw hdescription)
      simp only [List.forall_mem_append]
      exact ⟨⟨⟨⟨lacks_typeFindings hx htypes htype, lacks_scopeFindings hx hscopes hraw⟩,
        lacks_breakingFindings hx settings s⟩, lacks_descriptionFindings hx settings s⟩,
        lacks_spacingFindings hx _⟩
    · exact Outcome.lacks_mk (List.forall_mem_cons.mpr
        ⟨Finding.lacks_advised hx (hx.lacks rfl), lacks_spacingFindings hx _⟩) Fields.lacks_empty

/-! ### Mood and spelling -/

theorem lacks_moodFault? {settings : Settings.Imperative} {word : List Char} {code : Code}
    {problem : String} (h : moodFault? settings word = some (code, problem)) :
    Lacks x problem := by
  rw [moodFault?] at h
  split_ifs at h <;> cases h <;> exact hx.lacks rfl

theorem notMem_of_firstWord? {text word : List Char} (h : firstWord? text = some word) :
    x ∉ word := by
  have hletters : ∀ c ∈ word, isAlphabetic c := by
    rw [firstWord?.eq_def] at h
    split at h
    · cases h
    · dsimp only at h
      split_ifs at h with hnone
      rw [Bool.or_eq_true, not_or, Bool.not_eq_true', Bool.not_eq_false] at hnone
      exact Option.some.inj h ▸ List.all_eq_true.mp hnone.2
  exact hx.notMem_of_isWordChar fun c hc => isWordChar_of_isAlphabetic (hletters c hc)

theorem lacks_mood (settings : Settings.Imperative) (c : Commit) : (mood settings c).Lacks x := by
  delta mood
  dsimp only
  split
  · exact Outcome.lacks_failure (lacks_emptySubject hx _)
  · split
    · exact Outcome.lacks_mk (List.forall_mem_nil _) Fields.lacks_empty
    · rename_i word hword
      have hlacks : Lacks x (.ofList word) := lacks_ofList.mpr (notMem_of_firstWord? hx hword)
      refine Outcome.lacks_mk ?_ (Fields.lacks_ofList_singleton hx rfl hlacks)
      split
      · exact List.forall_mem_nil _
      · rename_i code problem hfault
        refine Finding.forall_lacks_advised hx ?_
        exact hx.lacks_among rfl rfl rfl hlacks (lacks_moodFault? hx hfault)

theorem lacks_misspellings : ∀ e ∈ misspellings, Lacks x e.2 := by
  delta misspellings
  repeat refine List.forall_mem_cons.mpr ⟨hx.lacks rfl, ?_⟩
  exact List.forall_mem_nil _

theorem lacks_britishSpellings : ∀ e ∈ britishSpellings, Lacks x e.2 := by
  delta britishSpellings
  repeat refine List.forall_mem_cons.mpr ⟨hx.lacks rfl, ?_⟩
  exact List.forall_mem_nil _

theorem lacks_corrections {settings : Settings.Spelling}
    (h : ∀ e ∈ settings.customWords.entries, Lacks x e.2) :
    ∀ e ∈ corrections settings, Lacks x e.2 := by
  rw [corrections]
  refine List.forall_mem_append.mpr
    ⟨List.forall_mem_append.mpr ⟨?_, ?_⟩, lacks_misspellings hx⟩
  · intro e he
    obtain ⟨custom, hcustom, rfl⟩ := List.mem_map.mp (List.mem_reverse.mp he)
    exact h custom hcustom
  · cases settings.locale with
    | us => exact List.forall_mem_nil _
    | uk => exact lacks_britishSpellings hx

/-- Only letters and apostrophes separate no words. -/
theorem lacks_of_mem_wordsOfLine {line : List Char} {word : String} (h : word ∈ wordsOfLine line) :
    Lacks x word := by
  obtain ⟨letters, hletters, rfl⟩ := List.mem_map.mp h
  obtain ⟨piece, hpiece, rfl⟩ := List.mem_map.mp (List.mem_filter.mp hletters).1
  refine lacks_ofList.mpr fun hmem => ?_
  have hplain := eq_false_of_mem_piecesBy hpiece x (trimBoth_subset _ piece hmem)
  rw [separatesWords, Bool.not_eq_false', Bool.or_eq_true, beq_iff_eq] at hplain
  rcases hplain with hletter | hapostrophe
  · exact Bool.false_ne_true
      (hx.isWordChar_eq_false.symm.trans (isWordChar_of_isAlphabetic hletter))
  · exact hx.ne (by decide) hapostrophe

theorem lacks_spellFindings {table : List (String × String)} (htable : ∀ e ∈ table, Lacks x e.2)
    {words : List String} (hwords : ∀ w ∈ words, Lacks x w) (skipped : List String) :
    ∀ f ∈ spellFindings table skipped words, f.Lacks x := by
  induction words generalizing skipped with
  | nil => exact List.forall_mem_nil _
  | cons word more ih =>
    obtain ⟨hword, hmore⟩ := List.forall_mem_cons.mp hwords
    rw [spellFindings]
    split
    · exact ih hmore skipped
    · rename_i correction hlookup
      have hcorrection : Lacks x correction := by
        split at hlookup
        · cases hlookup
        · exact htable _ (Entries.mem_of_lookup_eq_some hlookup)
      refine List.forall_mem_cons.mpr ⟨⟨?_, ?_⟩, ih hmore _⟩
      · exact hx.lacks_among rfl rfl rfl hword hcorrection
      · exact hx.lacks_among rfl rfl rfl hword hcorrection

theorem lacks_spelling {settings : Settings.Spelling}
    (h : ∀ e ∈ settings.customWords.entries, Lacks x e.2) (c : Commit) :
    (spelling settings c).Lacks x := by
  have hwords : ∀ w ∈ checkedWords c, Lacks x w := by
    intro w hw
    obtain ⟨line, -, hline⟩ := List.mem_flatMap.mp hw
    exact lacks_of_mem_wordsOfLine hx hline
  delta spelling
  exact Outcome.lacks_mk (lacks_spellFindings hx (lacks_corrections hx h) hwords _)
    (Fields.lacks_ofList_singleton hx rfl (hx.lacks_toString _))

/-! ### Issue keys -/

theorem notMem_of_isKeyText {key : List Char} (h : IssueKey.IsKeyText key) : x ∉ key := by
  obtain ⟨letters, digits, rfl, -, hletters, -, hdigits⟩ := h
  rw [List.mem_append, List.mem_cons, not_or, not_or]
  refine ⟨hx.notMem_of_isWordChar fun c hc => ?_, hx.ne (by decide),
    hx.notMem_of_isWordChar fun c hc => ?_⟩
  · exact IssueKey.isWordChar_of_isCapitalAscii (hletters c hc)
  · exact IssueKey.isWordChar_of_isDecimal (hdigits c hc)

theorem lacks_subjectKeys (subject : List Char) :
    (∀ key ∈ (subjectKeys subject).1, x ∉ key) ∧ ∀ f ∈ (subjectKeys subject).2, f.Lacks x := by
  delta subjectKeys
  split
  · exact ⟨List.forall_mem_nil _,
      Finding.forall_lacks_advised hx (hx.lacks rfl)⟩
  · rename_i first more hfind
    dsimp only
    refine ⟨fun key hkey => ?_, ?_⟩
    · exact notMem_of_isKeyText hx (IssueKey.isKeyText_of_mem_find (hfind ▸ hkey))
    · split
      · exact Finding.forall_lacks_advised hx (hx.lacks rfl)
      · exact List.forall_mem_nil _

theorem lacks_bodyKeys (body : List Char) :
    (∀ key ∈ (bodyKeys body).1, x ∉ key) ∧ ∀ f ∈ (bodyKeys body).2, f.Lacks x := by
  delta bodyKeys
  dsimp only
  split
  · exact ⟨List.forall_mem_nil _,
      Finding.forall_lacks_advised hx (hx.lacks rfl)⟩
  · delta refsKeys
    dsimp only
    refine ⟨fun key hkey => ?_, List.forall_mem_append.mpr ⟨?_, ?_⟩⟩
    · exact notMem_of_isKeyText hx (IssueKey.isKey_iff.mp (List.mem_filter.mp hkey).2)
    · split
      · exact Finding.forall_lacks_advised hx (hx.lacks rfl)
      · exact List.forall_mem_nil _
    · split
      · exact List.forall_mem_nil _
      · exact Finding.forall_lacks_advised hx (hx.lacks rfl)

theorem lacks_projectFindings (allowed : List (List Char)) {keys : List (List Char)}
    (h : ∀ key ∈ keys, x ∉ key) : ∀ f ∈ projectFindings allowed keys, f.Lacks x := by
  delta projectFindings
  split
  · exact List.forall_mem_nil _
  · refine List.forall_mem_map.mpr fun key hkey => Finding.lacks_advised hx ?_
    have hproject : x ∉ IssueKey.project key := fun hmem =>
      h key (List.mem_filter.mp hkey).1 ((List.takeWhile_subset _) hmem)
    exact hx.lacks_between rfl rfl (lacks_ofList.mpr hproject)

theorem lacks_issue (settings : Settings.Jira) (c : Commit) : (issue settings c).Lacks x := by
  have hfound (found : List (List Char) × List Finding)
      (h : found = if settings.checkBody then bodyKeys c.body.toList
        else subjectKeys c.subject.toList) :
      (∀ key ∈ found.1, x ∉ key) ∧ ∀ f ∈ found.2, f.Lacks x := by
    rw [h]
    split
    · exact lacks_bodyKeys hx _
    · exact lacks_subjectKeys hx _
  delta issue
  split
  · exact Outcome.lacks_failure (lacks_emptyMessage hx _)
  · split
    rename_i keys findings hkeys
    obtain ⟨hkeys, hfindings⟩ := hfound (keys, findings) hkeys.symm
    have hmode : Lacks x (if settings.checkBody then "body" else "subject") := by
      split <;> exact hx.lacks rfl
    refine Outcome.lacks_mk
      (List.forall_mem_append.mpr ⟨hfindings, lacks_projectFindings hx _ hkeys⟩)
      (Fields.lacks_ofList_pair hx rfl rfl hmode ?_)
    exact lacks_commaList hx rfl
      (List.forall_mem_map.mpr fun key hkey => lacks_ofList.mpr (hkeys key hkey))

end Check

/-! ### Signatures and signers -/

namespace Envelope

/-- What a fault has from a signature: the type of a block, or a block that cannot be read. -/
def Fault.excerpt? : Fault → Option String
  | .badArmor (.endMismatch blockType) => some blockType
  | .badArmor (.undecodable block) => some block
  | .wrongBlockType blockType => some blockType
  | _ => none

theorem lacks_hexByte (hx : IsControl x) (b : UInt8) : Lacks x (hexByte b) := by
  have hdigits : "0123456789abcdef".toList.all (32 ≤ ·.toNat) := rfl
  have hdigit (n : Nat) : x ≠ hexDigit n := by
    refine hx.ne ?_
    rw [hexDigit, List.getD_eq_getElem?_getD]
    cases hget : "0123456789abcdef".toList[n]? with
    | none => decide
    | some c =>
      exact of_decide_eq_true (List.all_eq_true.mp hdigits c (List.mem_of_getElem? hget))
  exact lacks_ofList.mpr (by simp [hdigit])

theorem lacks_base64Message (hx : IsControl x) (fault : Base64.Fault) : Lacks x fault.message := by
  cases fault with
  | invalidSymbol byte offset | invalidLastSymbol byte offset =>
    exact hx.lacks_among rfl rfl rfl (hx.lacks_toString _) (hx.lacks_toString _)
  | invalidLength length => exact (hx.lacks rfl).append (hx.lacks_toString _)
  | invalidPadding => exact hx.lacks rfl

theorem Fault.lacks_help (hx : IsControl x) (fault : Fault) : Lacks x fault.help := by
  cases fault with
  | badArmor fault => cases fault <;> exact hx.lacks rfl
  | _ => exact hx.lacks rfl

theorem Fault.lacks_message (hx : IsControl x) {explain : String → String}
    (hexplain : ∀ block, Lacks x block → Lacks x (explain block)) {fault : Fault}
    (h : ∀ t ∈ fault.excerpt?, Lacks x t) : Lacks x (fault.message explain) := by
  cases fault with
  | badArmor fault =>
    cases fault with
    | endMismatch blockType =>
      exact hx.lacks_between rfl rfl (h blockType rfl)
    | undecodable block => exact (hx.lacks rfl).append (hexplain block (h block rfl))
    | _ => exact hx.lacks rfl
  | wrongBlockType blockType =>
    exact hx.lacks_between rfl rfl (h blockType rfl)
  | noPacket fault =>
    refine (hx.lacks rfl).append ?_
    cases fault with
    | notATag byte => exact hx.lacks_between rfl rfl (lacks_hexByte hx byte)
    | _ => exact hx.lacks rfl
  | badBlob fault =>
    refine (hx.lacks rfl).append ?_
    cases fault with
    | notBase64 fault => exact lacks_base64Message hx fault
    | _ => exact hx.lacks rfl
  | tooShort length => exact hx.lacks_between rfl rfl (hx.lacks_toString _)
  | _ => exact hx.lacks rfl

/-- A block type that a fault quotes stands in the signature. -/
theorem subset_of_namesType {text rest blockType : List Char} (hopened : Armor.IsOpened text rest)
    (hnames : Armor.NamesType rest blockType) : blockType ⊆ text := by
  obtain ⟨before, after, hcut, rfl⟩ := hopened
  intro c hc
  have hline : c ∈ trim (Armor.firstLine (Armor.beginStart ++ after)) := by
    rw [show trim _ = _ from hnames, Armor.beginLine]
    exact List.mem_append_left _ (List.mem_append_right _ hc)
  have hrest := List.takeWhile_subset _ (trimBoth_subset _ _ hline)
  rw [hcut.eq, List.append_assoc]
  exact List.mem_append_right _ hrest

/-- A block stands in the signature. -/
theorem subset_of_isFirstBlock {text blockType block : List Char}
    (h : Armor.IsFirstBlock text blockType block) : block ⊆ text := by
  obtain ⟨rest, before, after, hopened, -, hend, rfl⟩ := h
  obtain ⟨before', after', hbegin, rfl⟩ := hopened
  rw [hbegin.eq, List.append_assoc]
  refine List.subset_append_of_subset_right _ ?_
  rw [hend.eq]
  exact List.subset_append_left _ _

/-- The decoder is asked about a block that cannot be read. -/
theorem excerpt?_of_dearmor {block : List Char} {fault : Armor.Fault}
    (h : Armor.dearmor block = .error fault) :
    ∀ t ∈ (Fault.badArmor fault).excerpt?, t = .ofList block := by
  rw [Armor.dearmor] at h
  split at h
  · cases h
    rintro _ ⟨⟩
    rfl
  · split at h
    · cases h
      exact fun t ht => (Option.not_mem_none t ht).elim
    · cases h

theorem RefusesPgp.subset {text : List Char} {fault : Fault} (h : RefusesPgp text fault) :
    ∀ t ∈ fault.excerpt?, t.toList ⊆ text := by
  have hnone {fault : Fault} (h : fault.excerpt? = none) :
      ∀ t ∈ fault.excerpt?, t.toList ⊆ text := by
    intro t ht
    rw [h] at ht
    cases ht
  cases h with
  | lacksBlock hlacks =>
    cases hlacks with
    | endMismatch hopened hnames =>
      rintro _ ⟨⟩
      exact String.toList_ofList ▸ subset_of_namesType hopened hnames
    | _ => exact hnone rfl
  | undecodable hblock hdearmor =>
    intro t ht
    rw [excerpt?_of_dearmor hdearmor t ht, String.toList_ofList]
    exact subset_of_isFirstBlock hblock
  | wrongBlockType hblock =>
    obtain ⟨rest, before, after, hopened, hnames, -⟩ := hblock
    rintro _ ⟨⟩
    exact String.toList_ofList ▸ subset_of_namesType hopened hnames
  | _ => exact hnone rfl

theorem Refuses.excerpt?_eq_none {text : List Char} {kind : Kind} {fault : Fault}
    (h : Refuses text kind fault) : fault.excerpt? = none := by
  cases h with
  | armored _ _ hblob => cases hblob <;> rfl
  | shorthand _ _ hblob => cases hblob <;> rfl
  | _ => rfl

theorem subset_of_judge {text : List Char} {fault : Fault} (h : (judge text).fault = some fault) :
    ∀ t ∈ fault.excerpt?, t.toList ⊆ text := by
  by_cases hpgp : pgpBegin <:+: text
  · have hjudge : judge text = ⟨(judge text).kind, some fault⟩ := by rw [← h]
    exact (((judge_iff_of_pgpBegin hpgp).2 _ fault).mp hjudge).2.subset
  · rcases isSound_or_refuses text with hsound | ⟨kind, reason, hrefuses⟩
    · rw [judge_of_isSound hpgp hsound] at h
      cases h
    · rw [judge_of_refuses hpgp hrefuses] at h
      cases h
      exact fun t ht => by simp [hrefuses.excerpt?_eq_none] at ht

theorem Kind.lacks_name (hx : IsControl x) (kind : Kind) : Lacks x kind.name := by
  cases kind <;> exact hx.lacks rfl

end Envelope

namespace Check

variable (hx : IsControl x)

include hx

theorem lacks_checkEnvelope {explain : String → String}
    (hexplain : ∀ block, Lacks x block → Lacks x (explain block)) {rule : Rule} {c : Commit}
    {f : Finding} (hc : Lacks x c.signature) (h : checkEnvelope explain rule c = .error f) :
    f.Lacks x := by
  by_cases hblank : isBlankText c.signature.toList
  · rw [checkEnvelope_of_isBlankText hblank] at h
    cases h
    exact Finding.lacks_advised hx (hx.lacks rfl)
  · cases hfault : (verdict c).fault with
    | none =>
      rw [checkEnvelope_of_accepted hfault] at h
      cases h
    | some fault =>
      rw [checkEnvelope_of_refused hblank hfault] at h
      cases h
      have hmessage : Lacks x (fault.message explain) :=
        Envelope.Fault.lacks_message hx hexplain fun t ht hmem =>
          hc (Envelope.subset_of_judge hfault t ht hmem)
      exact ⟨(hx.lacks_between rfl rfl (Envelope.Kind.lacks_name hx _)).append hmessage,
        Envelope.Fault.lacks_help hx fault⟩

theorem lacks_signature {explain : String → String}
    (hexplain : ∀ block, Lacks x block → Lacks x (explain block)) (settings : Settings.Signature)
    {c : Commit} (hc : Lacks x c.signature) : (signature explain settings c).Lacks x := by
  have hupper (kind : Envelope.Kind) : Lacks x (.ofList (upper kind.name.toList)) := by
    cases kind <;> exact hx.lacks rfl
  delta signature signatureOutcome
  dsimp only
  split
  · rename_i f hf
    exact Outcome.lacks_mk
      (List.forall_mem_singleton.mpr (lacks_checkEnvelope hx hexplain hc hf))
      (Fields.lacks_ofList_singleton hx rfl (Envelope.Kind.lacks_name hx _))
  · rename_i kind hkind
    refine Outcome.lacks_mk ?_
      (Fields.lacks_ofList_singleton hx rfl (Envelope.Kind.lacks_name hx _))
    split
    · exact List.forall_mem_nil _
    · exact Finding.forall_lacks_advised hx ((hupper kind).append (hx.lacks rfl))

theorem lacks_verificationCancelled : verificationCancelled.Lacks x :=
  Outcome.lacks_failure (Finding.lacks_advised hx (hx.lacks rfl))

theorem lacks_signerOutcome (settings : Settings.Identity) {reply : VerifyReply}
    (hfault : ∀ fault, reply = .error fault → Lacks x fault.message)
    (hsigner : ∀ signer, reply = .ok signer →
      Lacks x signer.text ∧ ∀ key ∈ signer.keyId, Lacks x key) :
    (signerOutcome settings reply).Lacks x := by
  delta signerOutcome
  split
  · exact lacks_verificationCancelled hx
  · rename_i fault _
    exact Outcome.lacks_failure
      (Finding.lacks_advised hx ((hx.lacks rfl).append (hfault fault rfl)))
  · rename_i signer
    obtain ⟨htext, hkey⟩ := hsigner signer rfl
    refine Outcome.lacks_mk ?_ (Fields.lacks_ofList ?_)
    · delta signerFindings
      split
      · exact List.forall_mem_nil _
      · exact Finding.forall_lacks_advised hx (hx.lacks_between rfl rfl htext)
    · refine List.forall_mem_append.mpr ⟨List.forall_mem_cons.mpr ⟨⟨hx.lacks rfl, hx.lacks rfl⟩,
        List.forall_mem_singleton.mpr ⟨hx.lacks rfl, htext⟩⟩, ?_⟩
      cases hid : signer.keyId with
      | none => exact List.forall_mem_nil _
      | some key => exact List.forall_mem_singleton.mpr ⟨hx.lacks rfl, hkey key hid⟩

theorem lacks_signedIdentity (settings : Settings.Identity) {team : Collaborators}
    (hteam : team.Lacks x) {c : Commit} (hc : Lacks x c.signature) (s : Session) :
    (signedIdentity settings team c s).1.Lacks x := by
  delta signedIdentity identityOutcome
  dsimp only
  split
  · rename_i f hf
    exact Outcome.lacks_failure (lacks_checkEnvelope hx hteam.explain hc hf)
  · split
    · exact Outcome.lacks_mk (List.forall_mem_nil _)
        (Fields.lacks_ofList_singleton hx rfl (hx.lacks rfl))
    · rename_i verify hverify
      split
      · exact lacks_verificationCancelled hx
      · exact lacks_signerOutcome hx settings
          (hteam.fault verify hverify _ c) (hteam.signer verify hverify _ c)

/-! ### How far the branch is ahead -/

theorem lacks_aheadOutcome {settings : Settings.Repository}
    (h : Lacks x settings.referenceBranch) (ahead : Nat) :
    (aheadOutcome settings ahead).Lacks x := by
  delta aheadOutcome
  dsimp only
  refine Outcome.lacks_mk ?_ (Fields.lacks_ofList_pair hx rfl rfl (hx.lacks_toString _) h)
  split
  · exact List.forall_mem_nil _
  · refine Finding.forall_lacks_advised hx ?_
    refine Lacks.append (Lacks.append ?_ (hx.lacks_toString _)) (hx.lacks rfl)
    exact hx.lacks_among rfl rfl rfl (hx.lacks_toString _) h

theorem lacks_aheadReplyOutcome {settings : Settings.Repository}
    (h : Lacks x settings.referenceBranch) {reply : AheadReply}
    (hreply : ∀ message, reply = .error (.other message) → Lacks x message) :
    (aheadReplyOutcome settings reply).Lacks x := by
  delta aheadReplyOutcome
  split
  · exact lacks_aheadOutcome hx h _
  · exact lacks_aheadOutcome hx h 0
  · exact Outcome.lacks_failure (Finding.lacks_advised hx (hx.lacks rfl))
  · rename_i message
    exact Outcome.lacks_failure (Finding.lacks_advised hx
      ((hx.lacks_between rfl rfl h).append (hreply message rfl)))

theorem lacks_commitsAhead {settings : Settings.Repository}
    (h : Lacks x settings.referenceBranch) {team : Collaborators} (hteam : team.Lacks x)
    (s : Session) : (commitsAhead settings team s).1.Lacks x := by
  delta commitsAhead
  split
  · exact Outcome.lacks_mk (List.forall_mem_nil _)
      (Fields.lacks_ofList_singleton hx rfl (hx.lacks rfl))
  · rename_i ahead hahead
    split
    · exact Outcome.lacks_failure (Finding.lacks_advised hx (hx.lacks rfl))
    · exact lacks_aheadReplyOutcome hx h (hteam.ahead ahead hahead _ _)

end Check

/-- What a rule says of a commit holds a control character only if the commit does, or the settings
or a reply. -/
theorem Rule.lacks_check (hx : IsControl x) {settings : Settings} (hsettings : settings.Lacks x)
    {team : Collaborators} (hteam : team.Lacks x) {c : Commit} (hc : c.Lacks x) (rule : Rule)
    (s : Session) : (rule.check settings team c s).1.Lacks x := by
  delta check
  cases rule <;> dsimp only
  case commitBody => exact Check.lacks_body hx settings.body c
  case commitsAhead => exact Check.lacks_commitsAhead hx hsettings.reference hteam s
  case conventionalCommit =>
    exact Check.lacks_conventional hx hsettings.types hsettings.scopes hc.subject
  case imperativeVerb => exact Check.lacks_mood hx settings.imperative c
  case jiraReference => exact Check.lacks_issue hx settings.jira c
  case signature =>
    exact Check.lacks_signature hx hteam.explain settings.signature hc.signature
  case signedIdentity => exact Check.lacks_signedIdentity hx settings.identity hteam hc.signature s
  case signOff => exact Check.lacks_signOff hx settings.signoff c
  case spell => exact Check.lacks_spelling hx hsettings.corrections c
  case subjectCase => exact Check.lacks_subjectCase hx settings.subject hc.subject
  case subjectLength => exact Check.lacks_subjectLength hx settings.subject c
  case subjectSuffix => exact Check.lacks_subjectSuffix hx settings.subject hc.subject

namespace Engine

variable (hx : IsControl x) {e : Engine} (hsettings : e.settings.Lacks x) (hteam : e.team.Lacks x)

include hx hsettings hteam

theorem lacks_runRules {c : Commit} (hc : c.Lacks x) (rules : List Rule) (s : Session) :
    ∀ o ∈ (e.runRules c rules s).1, o.Lacks x := by
  induction rules generalizing s with
  | nil => exact List.forall_mem_nil _
  | cons rule rules ih =>
    rw [runRules]
    exact List.forall_mem_cons.mpr ⟨rule.lacks_check hx hsettings hteam hc s, ih _⟩

/-- The same holds of a run over some commits. -/
theorem lacks_validateAll {commits : List Commit} (hcommits : ∀ c ∈ commits, c.Lacks x)
    (s : Session) : ∀ r ∈ (e.validateAll commits s).1, ∀ o ∈ r.outcomes, o.Lacks x := by
  intro r hr o ho
  have hmem : r.commit ∈ commits := e.commit_validateAll commits s ▸ List.mem_map_of_mem hr
  obtain ⟨c, t, rfl⟩ := exists_of_mem_validateAll hr
  rw [validate_eq] at ho
  exact lacks_runRules hx hsettings hteam (hcommits _ hmem) e.rules t o (List.mem_mergeSort.mp ho)

end Engine

end CommitLint
