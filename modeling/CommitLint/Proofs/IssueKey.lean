import CommitLint.IssueKey
import CommitLint.Proofs.Text.Trim

/-!
# Keys in running text

A key in a text is a key that begins and ends at word boundaries (`KeyIn`). Its first character is a
capital and its last one a digit, both of them word characters, so what counts is that no word
character stands right before it or right after it (`KeyIn.before_plain`, `KeyIn.after_plain`). Two
keys in a text never overlap (`KeyIn.eq_or_isBefore`): the second would have to begin at a capital,
and what precedes a capital in a key is capitals only.

So the search from left to right, which goes on where a key ends, finds every key once and in order
(`find_exact`).
-/

namespace CommitLint.IssueKey

open Text

/-! ### Keys -/

/-- A text is a key. -/
def IsKeyText (s : List Char) : Prop :=
  ∃ letters digits, s = letters ++ '-' :: digits ∧
    letters ≠ [] ∧ (∀ c ∈ letters, isCapitalAscii c) ∧ digits ≠ [] ∧ ∀ c ∈ digits, isDecimal c

theorem isCapitalAscii_iff {c : Char} : isCapitalAscii c ↔ 65 ≤ c.toNat ∧ c.toNat ≤ 90 := by
  rw [isCapitalAscii, Bool.and_eq_true, decide_eq_true_eq, decide_eq_true_eq, Char.le_def,
    Char.le_def, UInt32.le_iff_toNat_le, UInt32.le_iff_toNat_le]
  rfl

theorem isAscii_of_isCapitalAscii {c : Char} (h : isCapitalAscii c) : isAscii c := by
  rw [isCapitalAscii_iff] at h
  rw [isAscii, decide_eq_true_eq]
  omega

theorem isWordChar_of_isCapitalAscii {c : Char} (h : isCapitalAscii c) : isWordChar c := by
  rw [isWordChar, if_pos (isAscii_of_isCapitalAscii h), isNameChar, h]
  rfl

theorem isWordChar_of_isDecimal {c : Char} (h : isDecimal c) : isWordChar c := by
  rw [isDecimal] at h
  rw [isWordChar]
  split
  · rename_i hascii
    rw [if_pos hascii] at h
    simp [isNameChar, h]
  · rename_i hascii
    rw [if_neg hascii] at h
    simp [h]

theorem isDecimal_eq_false_of_isCapitalAscii {c : Char} (h : isCapitalAscii c) :
    isDecimal c = false := by
  have hdigit : isDigitAscii c → c.toNat ≤ 57 := by
    rw [isDigitAscii, Bool.and_eq_true, decide_eq_true_eq, decide_eq_true_eq, Char.le_def,
      Char.le_def, UInt32.le_iff_toNat_le, UInt32.le_iff_toNat_le]
    exact And.right
  rw [isDecimal, if_pos (isAscii_of_isCapitalAscii h)]
  refine Bool.eq_false_iff.mpr fun hc => ?_
  have hle := hdigit hc
  have hcapital := isCapitalAscii_iff.mp h
  omega

section

variable {letters : List Char} (h : ∀ c ∈ letters, isCapitalAscii c) (rest : List Char)

include h

theorem takeWhile_letters :
    (letters ++ '-' :: rest).takeWhile isCapitalAscii = letters := by
  rw [List.takeWhile_append_of_pos h, List.takeWhile_cons_of_neg (by decide), List.append_nil]

theorem dropWhile_letters :
    (letters ++ '-' :: rest).dropWhile isCapitalAscii = '-' :: rest := by
  rw [List.dropWhile_append_of_pos h, List.dropWhile_cons_of_neg (by decide)]

end

theorem isKey_iff {s : List Char} : isKey s = true ↔ IsKeyText s := by
  rw [isKey, Bool.and_eq_true, Bool.not_eq_true', List.isEmpty_eq_false_iff]
  constructor
  · rintro ⟨hletters, hrest⟩
    split at hrest
    · rename_i digits hdrop
      rw [Bool.and_eq_true, Bool.not_eq_true', List.isEmpty_eq_false_iff, List.all_eq_true] at hrest
      refine ⟨s.takeWhile isCapitalAscii, digits, ?_, hletters,
        fun c hc => List.mem_takeWhile_imp hc, hrest⟩
      rw [← hdrop, List.takeWhile_append_dropWhile]
    · cases hrest
  · rintro ⟨letters, digits, rfl, hne, hletters, hdigits⟩
    rw [takeWhile_letters hletters, dropWhile_letters hletters]
    simpa [hne] using hdigits

/-- What is found at the start of a text is a key, up to where no word character follows. -/
theorem keyAtStart?_eq_some_iff {s key : List Char} :
    keyAtStart? s = some key ↔
      IsKeyText key ∧ ∃ after, s = key ++ after ∧ after.head?.any isWordChar = false := by
  rw [keyAtStart?]
  constructor
  · intro h
    dsimp only at h
    split at h
    · rename_i rest hdrop
      split_ifs at h with hbad
      cases h
      simp only [Bool.or_eq_true, not_or, Bool.not_eq_true, List.isEmpty_eq_false_iff, atWordEnd,
        Bool.not_not] at hbad
      obtain ⟨⟨hletters, hdigits⟩, hafter⟩ := hbad
      refine ⟨⟨_, _, rfl, hletters, fun c hc => List.mem_takeWhile_imp hc, hdigits,
        fun c hc => List.mem_takeWhile_imp hc⟩, rest.dropWhile isDecimal, ?_, hafter⟩
      rw [List.append_assoc, List.cons_append, List.takeWhile_append_dropWhile, ← hdrop,
        List.takeWhile_append_dropWhile]
    · cases h
  · rintro ⟨⟨letters, digits, rfl, hne, hletters, hdigitsNe, hdigits⟩, after, rfl, hafter⟩
    -- The digits end where no word character follows, as that is no digit either.
    have hstop : after.takeWhile isDecimal = [] ∧ after.dropWhile isDecimal = after := by
      cases after with
      | nil => exact ⟨rfl, rfl⟩
      | cons c more =>
        have hc : ¬isDecimal c := fun hdecimal => by
          simp [isWordChar_of_isDecimal hdecimal] at hafter
        exact ⟨List.takeWhile_cons_of_neg hc, List.dropWhile_cons_of_neg hc⟩
    have htake : (digits ++ after).takeWhile isDecimal = digits := by
      rw [List.takeWhile_append_of_pos hdigits, hstop.1, List.append_nil]
    have hdrop : (digits ++ after).dropWhile isDecimal = after := by
      rw [List.dropWhile_append_of_pos hdigits, hstop.2]
    rw [List.append_assoc, List.cons_append, takeWhile_letters hletters, dropWhile_letters hletters]
    simp only [htake, hdrop]
    rw [if_neg (by simp [hne, hdigitsNe, atWordEnd, hafter])]

theorem IsKeyText.exists_cons {key : List Char} (h : IsKeyText key) :
    ∃ c more, key = c :: more ∧ isCapitalAscii c := by
  obtain ⟨letters, digits, rfl, hne, hletters, -⟩ := h
  obtain ⟨c, letters, rfl⟩ := List.exists_cons_of_ne_nil hne
  exact ⟨c, _, rfl, hletters c List.mem_cons_self⟩

theorem IsKeyText.exists_append_singleton {key : List Char} (h : IsKeyText key) :
    ∃ more c, key = more ++ [c] ∧ isDecimal c := by
  obtain ⟨letters, digits, rfl, -, -, hne, hdigits⟩ := h
  obtain ⟨digits, c, rfl⟩ := (List.eq_nil_or_concat digits).resolve_left hne
  exact ⟨letters ++ '-' :: digits, c, by simp, hdigits c (by simp)⟩

/-- Before a capital of a key there are only capitals. -/
theorem IsKeyText.isCapitalAscii_of_mem {before after : List Char} {c a : Char}
    (h : IsKeyText (before ++ c :: after)) (hc : isCapitalAscii c) (ha : a ∈ before) :
    isCapitalAscii a := by
  obtain ⟨letters, digits, heq, -, hletters, -, hdigits⟩ := h
  rcases List.append_eq_append_iff.mp heq with ⟨more, rfl, -⟩ | ⟨more, rfl, hmore⟩
  · exact hletters a (List.mem_append_left _ ha)
  · -- A capital is neither the hyphen nor one of the digits.
    have hmem : c ∈ '-' :: digits := hmore ▸ List.mem_append_right _ List.mem_cons_self
    rcases List.mem_cons.mp hmem with rfl | hdigit
    · exact absurd hc (by decide)
    · have hdecimal := hdigits c hdigit
      rw [isDecimal_eq_false_of_isCapitalAscii hc] at hdecimal
      cases hdecimal

theorem cons_take_of_keyAtStart? {c : Char} {rest key : List Char}
    (h : keyAtStart? (c :: rest) = some key) : c :: rest.take (key.length - 1) = key := by
  obtain ⟨hkey, after, heq, -⟩ := keyAtStart?_eq_some_iff.mp h
  obtain ⟨first, more, rfl, -⟩ := hkey.exists_cons
  rw [List.cons_append, List.cons.injEq] at heq
  simp [heq.1, heq.2]

/-- The project of a key is what stands before its only hyphen. -/
theorem IsKeyText.project_mem_iff {key : List Char} (h : IsKeyText key)
    {projects : List (List Char)} :
    project key ∈ projects ↔
      ∃ letters digits, key = letters ++ '-' :: digits ∧ '-' ∉ letters ∧ letters ∈ projects := by
  have hproject : ∀ letters digits : List Char, '-' ∉ letters →
      project (letters ++ '-' :: digits) = letters := by
    intro letters digits hplain
    have hletters : ∀ c ∈ letters, c != '-' := fun c hc => by
      simpa using ne_of_mem_of_not_mem hc hplain
    rw [project, List.takeWhile_append_of_pos hletters, List.takeWhile_cons_of_neg (by simp),
      List.append_nil]
  constructor
  · intro hmem
    obtain ⟨letters, digits, rfl, -, hletters, -⟩ := h
    have hplain : '-' ∉ letters := fun hhyphen => absurd (hletters _ hhyphen) (by decide)
    exact ⟨letters, digits, rfl, hplain, hproject letters digits hplain ▸ hmem⟩
  · rintro ⟨letters, digits, rfl, hplain, hmem⟩
    rwa [hproject letters digits hplain]

/-! ### Keys in a text -/

/-- A word begins or ends between two texts: one of the characters that meet there is a word
character and the other one, or the end of a text, is not. -/
def IsBoundary (before after : List Char) : Prop :=
  before.getLast?.any isWordChar ≠ after.head?.any isWordChar

/-- A key in a text, delimited by word boundaries. -/
structure KeyIn (s : List Char) where
  before : List Char
  key : List Char
  after : List Char
  eq : s = before ++ key ++ after
  isKeyText : IsKeyText key
  starts : IsBoundary before (key ++ after)
  ends : IsBoundary (before ++ key) after

namespace KeyIn

/-- A key in a text ends before another one begins. -/
def IsBefore {s : List Char} (o p : KeyIn s) : Prop := o.before ++ o.key <+: p.before

theorem isBoundary_start_iff {before key after : List Char} (h : IsKeyText key) :
    IsBoundary before (key ++ after) ↔ before.getLast?.any isWordChar = false := by
  obtain ⟨c, more, rfl, hc⟩ := h.exists_cons
  rw [IsBoundary]
  simp [isWordChar_of_isCapitalAscii hc]

theorem isBoundary_end_iff {before key after : List Char} (h : IsKeyText key) :
    IsBoundary (before ++ key) after ↔ after.head?.any isWordChar = false := by
  obtain ⟨more, c, rfl, hc⟩ := h.exists_append_singleton
  rw [IsBoundary]
  simp [isWordChar_of_isDecimal hc]

section

variable {s : List Char} (o p : KeyIn s)

theorem before_plain : o.before.getLast?.any isWordChar = false :=
  (isBoundary_start_iff o.isKeyText).mp o.starts

theorem after_plain : o.after.head?.any isWordChar = false :=
  (isBoundary_end_iff o.isKeyText).mp o.ends

/-- A key in a text is what is found where it begins. -/
theorem keyAtStart?_eq {rest : List Char} (h : s = o.before ++ rest) :
    keyAtStart? rest = some o.key := by
  refine keyAtStart?_eq_some_iff.mpr ⟨o.isKeyText, o.after, ?_, o.after_plain⟩
  have heq := h.symm.trans o.eq
  rwa [List.append_assoc, List.append_cancel_left_eq] at heq

variable {o p}

/-- A key that a text goes on with where no word ends. -/
def ofStart {before rest key : List Char} (hs : s = before ++ rest)
    (hbefore : before.getLast?.any isWordChar = false) (hkey : keyAtStart? rest = some key) :
    KeyIn s where
  before := before
  key := key
  after := rest.drop key.length
  eq := by
    obtain ⟨-, after, rfl, -⟩ := keyAtStart?_eq_some_iff.mp hkey
    simp [hs]
  isKeyText := (keyAtStart?_eq_some_iff.mp hkey).1
  starts := (isBoundary_start_iff (keyAtStart?_eq_some_iff.mp hkey).1).mpr hbefore
  ends := by
    obtain ⟨hkeyText, after, rfl, hafter⟩ := keyAtStart?_eq_some_iff.mp hkey
    rw [List.drop_left]
    exact (isBoundary_end_iff hkeyText).mpr hafter

theorem ext_before (h : o.before = p.before) : o = p := by
  have hp : s = o.before ++ (p.key ++ p.after) := by
    rw [h, ← List.append_assoc]
    exact p.eq
  have hkey : o.key = p.key :=
    Option.some.inj ((o.keyAtStart?_eq hp).symm.trans
      (p.keyAtStart?_eq (p.eq.trans (List.append_assoc _ _ _))))
  have hafter : o.after = p.after := by
    have heq := o.eq.symm.trans p.eq
    rwa [h, hkey, List.append_cancel_left_eq] at heq
  cases o
  cases p
  simp only at h hkey hafter
  subst h hkey hafter
  rfl

/-- Of two keys in a text, one that begins no earlier is the same or begins after the other one. -/
theorem eq_or_isBefore (h : o.before <+: p.before) : o = p ∨ o.IsBefore p := by
  obtain ⟨between, hbetween⟩ := h
  have hrest : o.key ++ o.after = between ++ (p.key ++ p.after) := by
    have heq := o.eq.symm.trans p.eq
    rwa [← hbetween, List.append_assoc, List.append_assoc, List.append_assoc,
      List.append_cancel_left_eq] at heq
  rcases List.append_eq_append_iff.mp hrest with ⟨more, hmore, -⟩ | ⟨more, hkey, hmore⟩
  · exact .inr ⟨more, by rw [List.append_assoc, ← hmore, hbetween]⟩
  · cases more with
    | nil => exact .inr ⟨[], by rw [hkey, List.append_nil, List.append_nil, hbetween]⟩
    | cons c more =>
      obtain ⟨first, rest, hp, hcapital⟩ := p.isKeyText.exists_cons
      rw [hp, List.cons_append, List.cons_append, List.cons.injEq] at hmore
      -- The second key would begin at a capital of the first one, and follow another capital.
      rcases List.eq_nil_or_concat between with rfl | ⟨start, last, rfl⟩
      · exact .inl (ext_before (by rw [← hbetween, List.append_nil]))
      · have hlast : isCapitalAscii last :=
          IsKeyText.isCapitalAscii_of_mem (hkey ▸ o.isKeyText) (hmore.1 ▸ hcapital) (by simp)
        have hplain := p.before_plain
        simp [← hbetween, isWordChar_of_isCapitalAscii hlast] at hplain

end

end KeyIn

/-! ### The search -/

/-- What is found are the keys in a text that begin no earlier than at the end of some start of it,
from left to right. -/
def Finds (s start : List Char) (found : List (List Char)) : Prop :=
  ∃ keys : List (KeyIn s),
    found = keys.map KeyIn.key ∧ (∀ o, o ∈ keys ↔ start <+: o.before) ∧ keys.Pairwise KeyIn.IsBefore

namespace Finds

variable {s : List Char} {found : List (List Char)}

theorem nil (s : List Char) : Finds s s [] := by
  refine ⟨[], rfl, fun o => iff_of_false List.not_mem_nil fun h => ?_, .nil⟩
  obtain ⟨c, more, hkey, -⟩ := o.isKeyText.exists_cons
  have hlength := congrArg List.length o.eq
  have hle := h.length_le
  simp only [hkey, List.length_append, List.length_cons] at hlength
  omega

theorem cons {o : KeyIn s} (h : Finds s (o.before ++ o.key) found) :
    Finds s o.before (o.key :: found) := by
  obtain ⟨keys, rfl, hmem, hpairwise⟩ := h
  refine ⟨o :: keys, rfl, fun p => ?_, .cons (fun p hp => (hmem p).mp hp) hpairwise⟩
  rw [List.mem_cons, hmem]
  refine ⟨fun h => ?_, fun h => (KeyIn.eq_or_isBefore h).imp_left Eq.symm⟩
  rcases h with rfl | h
  · exact List.prefix_rfl
  · exact (List.prefix_append _ _).trans h

/-- Where no key begins, the keys are those that begin later. -/
theorem skip {start rest : List Char} {c : Char} (hs : s = start ++ c :: rest)
    (hnone : ∀ o : KeyIn s, o.before ≠ start) (h : Finds s (start ++ [c]) found) :
    Finds s start found := by
  obtain ⟨keys, rfl, hmem, hpairwise⟩ := h
  refine ⟨keys, rfl, fun o => ?_, hpairwise⟩
  rw [hmem]
  refine ⟨(List.prefix_append _ _).trans, fun ⟨more, hmore⟩ => ?_⟩
  cases more with
  | nil => exact absurd (by rw [← hmore, List.append_nil]) (hnone o)
  | cons a more =>
    have heq := hs.symm.trans o.eq
    rw [← hmore, List.append_assoc, List.append_assoc, List.append_cancel_left_eq,
      List.cons_append, List.cons.injEq] at heq
    exact ⟨more, by rw [heq.1, ← hmore, List.append_assoc, List.singleton_append]⟩

end Finds

/-- From some place on, the search finds the keys that begin no earlier, where those characters
count as earlier that it has to skip. -/
theorem finds_findFrom {s : List Char} (rest : List Char) :
    ∀ (start : List Char) (skip : Nat), s = start ++ rest →
      Finds s (start ++ rest.take skip) (findFrom (start.getLast?.any isWordChar) skip rest) := by
  induction rest with
  | nil =>
    intro start skip hs
    rw [List.take_nil, ← hs]
    exact .nil s
  | cons c rest ih =>
    intro start skip hs
    have hlater (skip : Nat) : Finds s (start ++ [c] ++ rest.take skip)
        (findFrom (isWordChar c) skip rest) := by
      have hword : (start ++ [c]).getLast?.any isWordChar = isWordChar c := by simp
      rw [← hword]
      exact ih (start ++ [c]) skip (by simp [hs])
    cases skip with
    | succ skip =>
      rw [findFrom, List.take_succ_cons, ← List.singleton_append, ← List.append_assoc]
      exact hlater skip
    | zero =>
      rw [findFrom, List.take_zero, List.append_nil]
      cases hfound : if start.getLast?.any isWordChar then none else keyAtStart? (c :: rest) with
      | some key =>
        rw [Option.ite_none_left_eq_some, Bool.not_eq_true] at hfound
        let o : KeyIn s := .ofStart hs hfound.1 hfound.2
        have hskipped : start ++ [c] ++ rest.take (key.length - 1) = o.before ++ o.key := by
          rw [List.append_assoc, List.singleton_append, cons_take_of_keyAtStart? hfound.2]
          rfl
        exact .cons (o := o) (hskipped ▸ hlater (key.length - 1))
      | none =>
        refine .skip hs (fun o ho => ?_) (by simpa using hlater 0)
        subst ho
        rw [o.before_plain, if_neg Bool.false_ne_true, o.keyAtStart?_eq hs] at hfound
        cases hfound

/-- The keys that are found in a text are all keys in the text that word boundaries delimit, each
once, from left to right. No two of them overlap. -/
theorem find_exact (s : List Char) :
    ∃ keys : List (KeyIn s), find s = keys.map KeyIn.key ∧ (∀ o, o ∈ keys) ∧
      keys.Pairwise KeyIn.IsBefore := by
  obtain ⟨keys, hfind, hmem, hpairwise⟩ := finds_findFrom s [] 0 (List.nil_append s).symm
  exact ⟨keys, hfind, fun o => (hmem o).mpr List.nil_prefix, hpairwise⟩

theorem isKeyText_of_mem_find {s key : List Char} (h : key ∈ find s) : IsKeyText key := by
  obtain ⟨keys, hfind, -⟩ := find_exact s
  rw [hfind] at h
  obtain ⟨o, -, rfl⟩ := List.mem_map.mp h
  exact o.isKeyText

/-- A blank text has no keys. -/
theorem find_eq_nil_of_isBlankText {s : List Char} (h : isBlankText s) : find s = [] := by
  obtain ⟨keys, hfind, -⟩ := find_exact s
  cases keys with
  | nil => exact hfind
  | cons o keys =>
    obtain ⟨c, more, hkey, hc⟩ := o.isKeyText.exists_cons
    refine absurd h (not_isBlankText_of_mem
      (isBlank_eq_false_of_isWordChar (isWordChar_of_isCapitalAscii hc)) ?_)
    rw [o.eq, hkey]
    simp

/-- A key without capitals after it is the last one. -/
theorem getLast?_find {s : List Char} (o : KeyIn s) (h : ∀ c ∈ o.after, isCapitalAscii c = false) :
    (find s).getLast? = some o.key := by
  obtain ⟨keys, hfind, hmem, hpairwise⟩ := find_exact s
  obtain ⟨before, after, rfl⟩ := List.append_of_mem (hmem o)
  have hlast : after = [] := List.eq_nil_iff_forall_not_mem.mpr fun p hp => by
    obtain ⟨more, hmore⟩ := List.rel_of_pairwise_cons (List.pairwise_append.mp hpairwise).2.1 hp
    obtain ⟨c, rest, hkey, hc⟩ := p.isKeyText.exists_cons
    have heq :
        o.before ++ o.key ++ o.after = o.before ++ o.key ++ (more ++ (p.key ++ p.after)) := by
      rw [← List.append_assoc _ more, hmore, ← List.append_assoc]
      exact o.eq.symm.trans p.eq
    rw [List.append_cancel_left_eq] at heq
    have hfalse := h c (by simp [heq, hkey])
    rw [hc] at hfalse
    cases hfalse
  rw [hfind, hlast]
  simp

end CommitLint.IssueKey
