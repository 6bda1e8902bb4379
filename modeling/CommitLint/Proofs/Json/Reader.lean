import CommitLint.Proofs.Json.Grammar
import Mathlib.Tactic.ByContra
import Mathlib.Tactic.SplitIfs

/-!
# The reader follows the grammar

The reader gives a value exactly for the texts that spell it (`read?_eq_some_iff`), so a text spells
at most one value (`Spells.unique`).

Both directions are inductions on the depth that the reader still may go. What it needs is that
texts within a text are shorter: a depth that is the length of a text lasts for all that stands in
it (`reads`). What is taken for a value, on the other hand, spells it at any depth (`takes`). A
number is the only value whose end is not marked, so a value is read whole only if no number goes on
after it (`Delimits`).
-/

namespace CommitLint.Json

/-! ### Strings -/

/-- A character that is written in any way is read as that character. -/
theorem SpellsChar.readQuoted {c : Char} {t : List Char} (h : SpellsChar c t) (s : List Char) :
    readQuoted none (t ++ s) =
      (readQuoted none s).map fun (text, rest) => (c :: text, rest) := by
  cases h with
  | plain hquote hbackslash hcontrol =>
    have hplain : ¬ ((none : Option Nat).isSome || decide (c = '\\') ||
        decide (c.toNat < 0x20)) := by
      simp [hbackslash, hcontrol]
    rw [List.singleton_append, Json.readQuoted, if_neg hplain]
    · cases Json.readQuoted none s <;> rfl
    · exact fun _ _ _ _ _ hc => absurd hc hbackslash
    · exact fun _ _ hc => absurd hc hbackslash
    · exact hquote
  | @letter c letter hletter =>
    have hunit : letter ≠ 'u' := by
      rintro rfl
      have hnone : escaped? 'u' = none := rfl
      rw [hnone] at hletter
      contradiction
    rw [List.cons_append, List.singleton_append, Json.readQuoted]
    · rw [hletter]
      cases Json.readQuoted none s <;> rfl
    · exact fun _ _ _ _ _ hu => absurd hu hunit
  | unit hunit hhigh hlow =>
    simp only [List.cons_append, List.nil_append, Json.readQuoted, hunit]
    cases Json.readQuoted none s <;> simp [hhigh, hlow]
  | pair hunit hhigh hunit' hlow =>
    simp only [List.cons_append, List.nil_append, Json.readQuoted, hunit, hunit']
    cases Json.readQuoted none s <;> simp [hhigh, hlow]

/-- A text that is written in any way is read as that text, up to the quote after it. -/
theorem SpellsChars.readQuoted {s t : List Char} (h : SpellsChars s t) (rest : List Char) :
    readQuoted none (t ++ '"' :: rest) = some (s, rest) := by
  induction h with
  | nil => simp [Json.readQuoted]
  | cons hchar _ ih => rw [List.append_assoc, hchar.readQuoted, ih, Option.map_some]

/-- What is read, made into something else, with what follows it. -/
theorem map_eq_some_pair {α β : Type} {o : Option (α × List Char)} {f : α → β} {x : β}
    {rest : List Char} :
    (o.map fun (a, s) => (f a, s)) = some (x, rest) ↔ ∃ a, o = some (a, rest) ∧ x = f a := by
  constructor
  · intro h
    obtain ⟨⟨a, s⟩, ho, hpair⟩ := Option.map_eq_some_iff.mp h
    obtain ⟨rfl, rfl⟩ := Prod.mk.inj hpair
    exact ⟨a, ho, rfl⟩
  · rintro ⟨a, rfl, rfl⟩
    rfl

theorem bind_eq_some_pair {α β : Type} {o : Option (α × List Char)} {f : α → β} {x : β}
    {rest : List Char} :
    (do let (a, s) ← o; some (f a, s)) = some (x, rest) ↔ ∃ a, o = some (a, rest) ∧ x = f a := by
  rw [← map_eq_some_pair]
  cases o <;> rfl

/-- After the first half of a character the reader takes the second half and nothing else. -/
theorem exists_of_readQuoted_some {high : Nat} {s x rest : List Char}
    (h : readQuoted (some high) s = some (x, rest)) :
    ∃ a b c d n s' y, s = '\\' :: 'u' :: a :: b :: c :: d :: s' ∧ codeUnit? a b c d = some n ∧
      isLowSurrogate n ∧ readQuoted none s' = some (y, rest) ∧
      x = .ofNat (0x10000 + (high - 0xD800) * 0x400 + (n - 0xDC00)) :: y := by
  rw [readQuoted.eq_def] at h
  split at h
  · next a b c d s' =>
    obtain ⟨n, hunit, h⟩ := Option.bind_eq_some_iff.mp h
    dsimp only at h
    by_cases hlow : isLowSurrogate n
    · rw [if_pos hlow] at h
      obtain ⟨y, hread, hx⟩ := bind_eq_some_pair.mp h
      exact ⟨a, b, c, d, n, s', y, rfl, hunit, hlow, hread, hx⟩
    · rw [if_neg hlow] at h
      contradiction
  · simp at h
  · simp at h
  · simp at h
  · simp at h

/-- What the reader takes up to a quote is a way to write the text that it gives. -/
theorem exists_spellsChars_of_readQuoted {s x rest : List Char}
    (h : readQuoted none s = some (x, rest)) :
    ∃ t, SpellsChars x t ∧ s = t ++ '"' :: rest := by
  -- Not on the text itself: an escape takes six characters off it, and a pair of them twelve.
  induction hlength : s.length using Nat.strongRecOn generalizing s x with
  | ind length ih =>
    subst hlength
    rw [readQuoted.eq_def] at h
    split at h
    · next a b c d s =>
      obtain ⟨n, hunit, h⟩ := Option.bind_eq_some_iff.mp h
      dsimp only at h
      split_ifs at h with hhigh hlow
      · obtain ⟨a', b', c', d', n', s', y, rfl, hunit', hlow', hread, rfl⟩ :=
          exists_of_readQuoted_some h
        obtain ⟨t, ht, rfl⟩ := ih _ (by simp only [List.length_cons]; omega) hread rfl
        exact ⟨_, .cons (.pair hunit hhigh hunit' hlow') ht, rfl⟩
      · obtain ⟨y, hread, rfl⟩ := bind_eq_some_pair.mp h
        obtain ⟨t, ht, rfl⟩ := ih _ (by simp only [List.length_cons]; omega) hread rfl
        have hchar := SpellsChar.unit hunit (eq_false_of_ne_true hhigh) (eq_false_of_ne_true hlow)
        exact ⟨_, .cons hchar ht, rfl⟩
    · next c s _ =>
      obtain ⟨d, hletter, h⟩ := Option.bind_eq_some_iff.mp h
      obtain ⟨y, hread, rfl⟩ := bind_eq_some_pair.mp h
      obtain ⟨t, ht, rfl⟩ := ih _ (by simp only [List.length_cons]; omega) hread rfl
      exact ⟨_, .cons (.letter hletter) ht, rfl⟩
    · next s =>
      obtain ⟨rfl, rfl⟩ := Prod.mk.inj (Option.some.inj h)
      exact ⟨[], .nil, rfl⟩
    · next c s _ _ hquote =>
      split_ifs at h with hplain
      obtain ⟨y, hread, rfl⟩ := bind_eq_some_pair.mp h
      obtain ⟨t, ht, rfl⟩ := ih _ (by simp only [List.length_cons]; omega) hread rfl
      obtain ⟨hbackslash, hcontrol⟩ : c ≠ '\\' ∧ 0x20 ≤ c.toNat := by simpa using hplain
      exact ⟨_, .cons (.plain hquote hbackslash hcontrol) ht, rfl⟩
    · contradiction

/-! ### Numbers and words -/

/-- Whether a character cannot be part of a number. -/
def isDelimiter (c : Char) : Bool := !c.isDigit && !(['.', 'e', 'E'].contains c)

/-- Whether a number can end where a text begins. -/
def Delimits (s : List Char) : Prop := ∀ c, s.head? = some c → isDelimiter c

theorem isDelimiter_iff {c : Char} :
    isDelimiter c ↔ c.isDigit = false ∧ ['.', 'e', 'E'].contains c = false := by
  rw [isDelimiter, Bool.and_eq_true, Bool.not_eq_true', Bool.not_eq_true']

theorem Delimits.takeWhile {s : List Char} (h : Delimits s) : s.takeWhile Char.isDigit = [] := by
  cases s with
  | nil => rfl
  | cons c s =>
    rw [List.takeWhile_cons, (isDelimiter_iff.mp (h c rfl)).1, if_neg Bool.false_ne_true]

theorem Delimits.dropWhile {s : List Char} (h : Delimits s) : s.dropWhile Char.isDigit = s := by
  cases s with
  | nil => rfl
  | cons c s =>
    rw [List.dropWhile_cons, (isDelimiter_iff.mp (h c rfl)).1, if_neg Bool.false_ne_true]

theorem Delimits.any {s : List Char} (h : Delimits s) :
    s.head?.any (['.', 'e', 'E'].contains ·) = false := by
  cases s with
  | nil => rfl
  | cons c s => exact (isDelimiter_iff.mp (h c rfl)).2

theorem ofDigitChars_eq (s : List Char) :
    Nat.ofDigitChars 10 s 0 = s.foldl (fun n c => n * 10 + (c.toNat - 0x30)) 0 := by
  rw [Nat.ofDigitChars_eq_foldl]
  congr 1
  funext n c
  rw [Nat.mul_comm]
  rfl

theorem SpellsNumber.isDigit {n : Nat} {t : List Char} (h : SpellsNumber n t) :
    ∀ c ∈ t, c.isDigit := by
  cases h with
  | zero =>
    intro c hc
    rw [List.mem_singleton.mp hc]
    rfl
  | digits _ hdigits => exact hdigits

theorem SpellsNumber.exists_cons {n : Nat} {t : List Char} (h : SpellsNumber n t) :
    ∃ c s, t = c :: s ∧ c.isDigit := by
  cases h with
  | zero => exact ⟨_, _, rfl, by decide⟩
  | digits _ hdigits => exact ⟨_, _, rfl, hdigits _ List.mem_cons_self⟩

theorem SpellsNumber.readNumber {n : Nat} {t : List Char} (h : SpellsNumber n t)
    {rest : List Char} (hrest : Delimits rest) : readNumber (t ++ rest) = some (n, rest) := by
  have htake : (t ++ rest).takeWhile Char.isDigit = t := by
    rw [List.takeWhile_append_of_pos h.isDigit, hrest.takeWhile, List.append_nil]
  have hdrop : (t ++ rest).dropWhile Char.isDigit = rest := by
    rw [List.dropWhile_append_of_pos h.isDigit, hrest.dropWhile]
  rw [Json.readNumber]
  simp only [htake, hdrop, hrest.any, ← ofDigitChars_eq]
  cases h with
  | zero => rfl
  | digits hzero _ => simp [hzero]

/-- The digits that the reader takes are a way to write the number that it gives. -/
theorem exists_spellsNumber_of_readNumber {s rest : List Char} {n : Nat}
    (h : readNumber s = some (n, rest)) : ∃ t, SpellsNumber n t ∧ s = t ++ rest := by
  have hdigits : ∀ c ∈ s.takeWhile Char.isDigit, c.isDigit :=
    List.all_eq_true.mp List.all_takeWhile
  have hsplit : s.takeWhile Char.isDigit ++ s.dropWhile Char.isDigit = s :=
    List.takeWhile_append_dropWhile
  rw [readNumber] at h
  simp only [← ofDigitChars_eq] at h
  split_ifs at h with hzeros hpoint
  obtain ⟨rfl, rfl⟩ := Prod.mk.inj (Option.some.inj h)
  refine ⟨_, ?_, hsplit.symm⟩
  cases hs : s.takeWhile Char.isDigit with
  | nil => simp [hs] at hzeros
  | cons c ds =>
    by_cases hzero : c = '0'
    · have hds : ds = [] := by simpa [hs, hzero] using hzeros
      rw [hzero, hds]
      exact .zero
    · exact .digits hzero (hs ▸ hdigits)

/-! ### Blanks -/

theorem isBlank_nil : IsBlank [] := by
  simp [IsBlank]

theorem IsBlank.append {a b : List Char} (ha : IsBlank a) (hb : IsBlank b) : IsBlank (a ++ b) :=
  List.forall_mem_append.mpr ⟨ha, hb⟩

theorem IsBlank.skipSpaces_append {b : List Char} (h : IsBlank b) (s : List Char) :
    skipSpaces (b ++ s) = skipSpaces s :=
  List.dropWhile_append_of_pos h

theorem isDelimiter_of_isSpace {c : Char} (h : isSpace c) : isDelimiter c := by
  have hspaces : [' ', '\n', '\r', '\t'].all isDelimiter := rfl
  exact List.all_eq_true.mp hspaces c (List.contains_iff_mem.mp h)

theorem isSpace_of_isDigit {c : Char} (h : c.isDigit) : isSpace c = false := by
  by_contra hspace
  have hdelimiter := isDelimiter_of_isSpace (eq_true_of_ne_false hspace)
  rw [(isDelimiter_iff.mp hdelimiter).1] at h
  contradiction

theorem skipSpaces_cons {c : Char} (h : isSpace c = false) (s : List Char) :
    skipSpaces (c :: s) = c :: s := by
  rw [skipSpaces, List.dropWhile_cons, h, if_neg Bool.false_ne_true]

theorem exists_isBlank_skipSpaces (s : List Char) : ∃ b, IsBlank b ∧ s = b ++ skipSpaces s :=
  ⟨s.takeWhile isSpace, List.all_eq_true.mp List.all_takeWhile,
    List.takeWhile_append_dropWhile.symm⟩

/-- A number can end before blanks and a character that belongs to no number. -/
theorem IsBlank.delimits {a : List Char} (h : IsBlank a) {s : List Char} (hs : Delimits s) :
    Delimits (a ++ s) := by
  cases a with
  | nil => exact hs
  | cons c a =>
    intro d hd
    rw [← Option.some.inj hd]
    exact isDelimiter_of_isSpace (h c List.mem_cons_self)

theorem IsBlank.delimits_append_cons {a : List Char} (h : IsBlank a) {c : Char}
    (hc : isDelimiter c) (s : List Char) : Delimits (a ++ c :: s) := by
  refine h.delimits fun d hd => ?_
  rwa [← Option.some.inj hd]

/-- The mark after blanks. -/
theorem IsBlank.skipSpaces_append_cons {a : List Char} (h : IsBlank a) {c : Char}
    (hc : isSpace c = false) (s : List Char) : skipSpaces (a ++ c :: s) = c :: s := by
  rw [h.skipSpaces_append, skipSpaces_cons hc]

/-! ### What spells a value is read as that value -/

/-- The text of a value neither begins with a blank nor ends an array. -/
theorem SpellsValue.exists_cons {v : Value} {t : List Char} (h : SpellsValue v t) :
    ∃ c s, t = c :: s ∧ isSpace c = false ∧ c ≠ ']' := by
  cases h with
  | null => exact ⟨_, _, rfl, by decide, by decide⟩
  | isTrue => exact ⟨_, _, rfl, by decide, by decide⟩
  | isFalse => exact ⟨_, _, rfl, by decide, by decide⟩
  | number hnumber =>
    obtain ⟨c, s, rfl, hdigit⟩ := hnumber.exists_cons
    refine ⟨c, s, rfl, isSpace_of_isDigit hdigit, ?_⟩
    rintro rfl
    contradiction
  | text _ => exact ⟨_, _, rfl, by decide, by decide⟩
  | noItems _ => exact ⟨_, _, rfl, by decide, by decide⟩
  | items _ => exact ⟨_, _, rfl, by decide, by decide⟩
  | noMembers _ => exact ⟨_, _, rfl, by decide, by decide⟩
  | members _ => exact ⟨_, _, rfl, by decide, by decide⟩

theorem SpellsValue.skipSpaces_append {v : Value} {t : List Char} (h : SpellsValue v t)
    (s : List Char) : skipSpaces (t ++ s) = t ++ s := by
  obtain ⟨c, u, rfl, hc, -⟩ := h.exists_cons
  exact skipSpaces_cons hc (u ++ s)

/-- Without the blanks before the first item, items are spelled the same. -/
theorem SpellsItems.exists_skipSpaces {vs : List Value} {u : List Char} (h : SpellsItems vs u) :
    ∃ c w, SpellsItems vs (c :: w) ∧ c ≠ ']' ∧ w.length < u.length ∧
      ∀ s, skipSpaces (u ++ s) = c :: (w ++ s) := by
  cases h with
  | @last v b t a hb hv ha =>
    obtain ⟨c, s, rfl, hspace, hc⟩ := hv.exists_cons
    refine ⟨c, s ++ a, .last isBlank_nil hv ha, hc, ?_, fun r => ?_⟩
    · simp only [List.length_append, List.length_cons]
      omega
    · rw [List.append_assoc, hb.skipSpaces_append, List.cons_append, List.cons_append,
        skipSpaces_cons hspace]
  | @cons v vs b t a u hb hv ha hvs =>
    obtain ⟨c, s, rfl, hspace, hc⟩ := hv.exists_cons
    refine ⟨c, s ++ (a ++ ',' :: u), .cons isBlank_nil hv ha hvs, hc, ?_, fun r => ?_⟩
    · simp only [List.length_append, List.length_cons]
      omega
    · rw [List.append_assoc, hb.skipSpaces_append, List.cons_append, List.cons_append,
        skipSpaces_cons hspace]

/-- Without the blanks before the first member, members are spelled the same. -/
theorem SpellsMembers.exists_skipSpaces {ms : List (String × Value)} {u : List Char}
    (h : SpellsMembers ms u) :
    ∃ w, SpellsMembers ms ('"' :: w) ∧ w.length < u.length ∧
      ∀ s, skipSpaces (u ++ s) = '"' :: (w ++ s) := by
  have hquote : isSpace '"' = false := by decide
  cases h with
  | @last k v b r m n t a hb hk hm hn hv ha =>
    refine ⟨_, .last isBlank_nil hk hm hn hv ha, ?_, fun s => ?_⟩
    · simp only [List.length_append, List.length_cons]
      omega
    · rw [List.append_assoc, hb.skipSpaces_append, List.cons_append, skipSpaces_cons hquote]
  | @cons k v ms b r m n t a u hb hk hm hn hv ha hms =>
    refine ⟨_, .cons isBlank_nil hk hm hn hv ha hms, ?_, fun s => ?_⟩
    · simp only [List.length_append, List.length_cons]
      omega
    · rw [List.append_assoc, hb.skipSpaces_append, List.cons_append, skipSpaces_cons hquote]

/-- Whether each text of a value, up to some length, is read as that value. -/
def ReadsValue (depth : Nat) : Prop :=
  ∀ {v : Value} {b t rest : List Char}, SpellsValue v t → IsBlank b → Delimits rest →
    t.length ≤ depth → readValue depth (b ++ (t ++ rest)) = some (v, rest)

/-- Whether each text of items, up to some length, is read as those items. -/
def ReadsItems (depth : Nat) : Prop :=
  ∀ {vs : List Value} {u rest : List Char}, SpellsItems vs u → u.length < depth →
    readItems depth (u ++ ']' :: rest) = some (vs, rest)

/-- Whether each text of members, up to some length, is read as those members. -/
def ReadsMembers (depth : Nat) : Prop :=
  ∀ {ms : List (String × Value)} {u rest : List Char}, SpellsMembers ms u → u.length < depth →
    readMembers depth (u ++ '\x7d' :: rest) = some (ms, rest)

theorem readsValue_succ {depth : Nat} (hitems : ReadsItems depth) (hmembers : ReadsMembers depth) :
    ReadsValue (depth + 1) := by
  intro v b t rest hv hb hrest hlength
  rw [readValue, hb.skipSpaces_append, hv.skipSpaces_append]
  cases hv with
  | null => rfl
  | isTrue => rfl
  | isFalse => rfl
  | number hnumber =>
    obtain ⟨c, s, rfl, hdigit⟩ := hnumber.exists_cons
    have hread := hnumber.readNumber hrest
    rw [List.cons_append] at hread ⊢
    -- A digit is none of the marks that values begin with.
    split
    · next h => simp [(List.cons.inj h).1] at hdigit
    · next h => simp [(List.cons.inj h).1] at hdigit
    · next h => simp [(List.cons.inj h).1] at hdigit
    · next h =>
      obtain ⟨rfl, rfl⟩ := List.cons.inj h
      rw [if_pos hdigit, hread, Option.map_some]
    · next h => simp at h
  | text hs =>
    simp only [List.cons_append, List.append_assoc, List.nil_append]
    rw [hs.readQuoted, Option.map_some, String.ofList_toList]
  | noItems ha =>
    simp only [List.cons_append, List.append_assoc, List.nil_append]
    rw [ha.skipSpaces_append_cons (by decide)]
    rfl
  | items hu =>
    -- The reader looks past the blanks for an end, and hands on what stands there.
    obtain ⟨c, w, hw, hc, hlt, hskip⟩ := hu.exists_skipSpaces
    simp only [List.length_cons, List.length_append] at hlength
    simp only [List.cons_append, List.append_assoc, List.nil_append, hskip]
    split
    · next h => exact absurd (List.cons.inj h).1 hc
    · rw [← List.cons_append, hitems hw (by rw [List.length_cons]; omega), Option.map_some]
  | noMembers ha =>
    simp only [List.cons_append, List.append_assoc, List.nil_append]
    rw [ha.skipSpaces_append_cons (by decide)]
    rfl
  | members hu =>
    obtain ⟨w, hw, hlt, hskip⟩ := hu.exists_skipSpaces
    simp only [List.length_cons, List.length_append] at hlength
    simp only [List.cons_append, List.append_assoc, List.nil_append, hskip]
    have hread : readMembers depth ('"' :: (w ++ '\x7d' :: rest)) = some (_, rest) :=
      hmembers hw (by rw [List.length_cons]; omega)
    split
    · next h => simp at h
    · rw [hread, Option.map_some]

theorem readsItems_succ {depth : Nat} (hvalue : ReadsValue depth) (hitems : ReadsItems depth) :
    ReadsItems (depth + 1) := by
  intro vs u rest hu hlength
  have hbracket : isSpace ']' = false := by decide
  have hcomma : isSpace ',' = false := by decide
  cases hu with
  | @last v b t a hb hv ha =>
    simp only [List.length_append] at hlength
    have hend : Delimits (a ++ ']' :: rest) := ha.delimits_append_cons rfl rest
    have hread := hvalue hv hb hend (by omega)
    simp only [List.append_assoc, readItems, hread, Option.bind_eq_bind, Option.bind_some,
      ha.skipSpaces_append_cons hbracket]
  | @cons v vs b t a u hb hv ha hvs =>
    simp only [List.length_append, List.length_cons] at hlength
    have hend : Delimits (a ++ ',' :: (u ++ ']' :: rest)) := ha.delimits_append_cons rfl _
    have hread := hvalue hv hb hend (by omega)
    simp only [List.append_assoc, List.cons_append, readItems, hread, Option.bind_eq_bind,
      Option.bind_some, ha.skipSpaces_append_cons hcomma, hitems hvs (by omega)]

theorem readsMembers_succ {depth : Nat} (hvalue : ReadsValue depth)
    (hmembers : ReadsMembers depth) : ReadsMembers (depth + 1) := by
  intro ms u rest hu hlength
  have hquote : isSpace '"' = false := by decide
  have hcolon : isSpace ':' = false := by decide
  have hbrace : isSpace '\x7d' = false := by decide
  have hcomma : isSpace ',' = false := by decide
  cases hu with
  | @last k v b r m n t a hb hk hm hn hv ha =>
    simp only [List.length_append, List.length_cons] at hlength
    have hend : Delimits (a ++ '\x7d' :: rest) := ha.delimits_append_cons rfl rest
    have hread := hvalue hv hn hend (by omega)
    simp only [List.append_assoc, List.cons_append, readMembers, hb.skipSpaces_append_cons hquote,
      hk.readQuoted, hm.skipSpaces_append_cons hcolon, hread, Option.bind_eq_bind,
      Option.bind_some, ha.skipSpaces_append_cons hbrace, String.ofList_toList]
  | @cons k v ms b r m n t a u hb hk hm hn hv ha hms =>
    simp only [List.length_append, List.length_cons] at hlength
    have hend : Delimits (a ++ ',' :: (u ++ '\x7d' :: rest)) := ha.delimits_append_cons rfl _
    have hread := hvalue hv hn hend (by omega)
    simp only [List.append_assoc, List.cons_append, readMembers, hb.skipSpaces_append_cons hquote,
      hk.readQuoted, hm.skipSpaces_append_cons hcolon, hread, Option.bind_eq_bind,
      Option.bind_some, ha.skipSpaces_append_cons hcomma, hmembers hms (by omega),
      String.ofList_toList]

/-- A text of a value is read as that value if the depth is not less than its length. -/
theorem reads (depth : Nat) : ReadsValue depth ∧ ReadsItems depth ∧ ReadsMembers depth := by
  induction depth with
  | zero =>
    refine ⟨fun hv _ _ hlength => ?_, fun _ h => by omega, fun _ h => by omega⟩
    obtain ⟨c, s, rfl, -, -⟩ := hv.exists_cons
    rw [List.length_cons] at hlength
    omega
  | succ depth ih =>
    obtain ⟨hvalue, hitems, hmembers⟩ := ih
    exact ⟨readsValue_succ hitems hmembers, readsItems_succ hvalue hitems,
      readsMembers_succ hvalue hmembers⟩

/-- What spells a value is read as that value. -/
theorem Spells.read? {v : Value} {s : List Char} (h : Spells v s) : read? s = some v := by
  obtain ⟨b, t, a, hb, hv, ha, rfl⟩ := h
  have hend : Delimits a := by
    rw [← List.append_nil a]
    exact ha.delimits (fun c hc => by contradiction)
  have hlength : t.length ≤ (b ++ (t ++ a)).length + 1 := by
    simp only [List.length_append]
    omega
  have hrest : skipSpaces a = [] := by
    rw [← List.append_nil a, ha.skipSpaces_append]
    rfl
  rw [Json.read?, (reads _).1 hv hb hend hlength]
  simp only [hrest]
  rfl

/-! ### What is read as a value spells that value -/

/-- Whether what is taken as a value is a text of it. -/
def TakesValue (depth : Nat) : Prop :=
  ∀ {v : Value} {s rest : List Char}, readValue depth s = some (v, rest) →
    ∃ b t, IsBlank b ∧ SpellsValue v t ∧ s = b ++ (t ++ rest)

/-- Whether what is taken as items is a text of them. -/
def TakesItems (depth : Nat) : Prop :=
  ∀ {vs : List Value} {s rest : List Char}, readItems depth s = some (vs, rest) →
    ∃ u, SpellsItems vs u ∧ s = u ++ ']' :: rest

/-- Whether what is taken as members is a text of them. -/
def TakesMembers (depth : Nat) : Prop :=
  ∀ {ms : List (String × Value)} {s rest : List Char}, readMembers depth s = some (ms, rest) →
    ∃ u, SpellsMembers ms u ∧ s = u ++ '\x7d' :: rest

theorem spellsValue_of_readWord {v : Value} {s rest : List Char}
    (h : readWord s = some (v, rest)) : ∃ t, SpellsValue v t ∧ s = t ++ rest := by
  rw [readWord.eq_def] at h
  split at h
  · obtain ⟨rfl, rfl⟩ := Prod.mk.inj (Option.some.inj h)
    exact ⟨_, .null, rfl⟩
  · obtain ⟨rfl, rfl⟩ := Prod.mk.inj (Option.some.inj h)
    exact ⟨_, .isTrue, rfl⟩
  · obtain ⟨rfl, rfl⟩ := Prod.mk.inj (Option.some.inj h)
    exact ⟨_, .isFalse, rfl⟩
  · contradiction

theorem SpellsItems.blank_append {vs : List Value} {u b : List Char} (h : SpellsItems vs u)
    (hb : IsBlank b) : SpellsItems vs (b ++ u) := by
  cases h with
  | last hb' hv ha =>
    rw [← List.append_assoc]
    exact .last (hb.append hb') hv ha
  | cons hb' hv ha hvs =>
    rw [← List.append_assoc]
    exact .cons (hb.append hb') hv ha hvs

theorem SpellsMembers.blank_append {ms : List (String × Value)} {u b : List Char}
    (h : SpellsMembers ms u) (hb : IsBlank b) : SpellsMembers ms (b ++ u) := by
  cases h with
  | last hb' hk hm hn hv ha =>
    rw [← List.append_assoc]
    exact .last (hb.append hb') hk hm hn hv ha
  | cons hb' hk hm hn hv ha hms =>
    rw [← List.append_assoc]
    exact .cons (hb.append hb') hk hm hn hv ha hms

theorem takesValue_succ {depth : Nat} (hitems : TakesItems depth) (hmembers : TakesMembers depth) :
    TakesValue (depth + 1) := by
  intro v s rest h
  obtain ⟨b, hb, hs⟩ := exists_isBlank_skipSpaces s
  rw [readValue] at h
  -- The blanks before the value are settled; what is left begins with the mark of a production.
  suffices hvalue : ∃ t, SpellsValue v t ∧ skipSpaces s = t ++ rest by
    obtain ⟨t, ht, heq⟩ := hvalue
    exact ⟨b, t, hb, ht, heq ▸ hs⟩
  split at h
  · next s' heq =>
    obtain ⟨x, hread, rfl⟩ := (map_eq_some_pair (f := fun x => Value.text (.ofList x))).mp h
    obtain ⟨t, ht, rfl⟩ := exists_spellsChars_of_readQuoted hread
    refine ⟨_, .text (by rwa [String.toList_ofList]), ?_⟩
    rw [heq, List.cons_append, List.append_assoc, List.singleton_append]
  · next s' heq =>
    obtain ⟨b', hb', hs'⟩ := exists_isBlank_skipSpaces s'
    split at h
    · next rest' heq' =>
      obtain ⟨rfl, rfl⟩ := Prod.mk.inj (Option.some.inj h)
      refine ⟨_, .noItems hb', ?_⟩
      rw [heq, hs', heq', List.cons_append, List.append_assoc, List.singleton_append]
    · obtain ⟨vs, hread, rfl⟩ := map_eq_some_pair.mp h
      obtain ⟨u, hu, heq'⟩ := hitems hread
      refine ⟨_, .items (hu.blank_append hb'), ?_⟩
      rw [heq, hs', heq', List.cons_append, List.append_assoc, List.append_assoc,
        List.singleton_append]
  · next s' heq =>
    obtain ⟨b', hb', hs'⟩ := exists_isBlank_skipSpaces s'
    split at h
    · next rest' heq' =>
      obtain ⟨rfl, rfl⟩ := Prod.mk.inj (Option.some.inj h)
      refine ⟨_, .noMembers hb', ?_⟩
      rw [heq, hs', heq', List.cons_append, List.append_assoc, List.singleton_append]
    · obtain ⟨ms, hread, rfl⟩ := map_eq_some_pair.mp h
      obtain ⟨u, hu, heq'⟩ := hmembers hread
      refine ⟨_, .members (hu.blank_append hb'), ?_⟩
      rw [heq, hs', heq', List.cons_append, List.append_assoc, List.append_assoc,
        List.singleton_append]
  · next c s' _ _ _ heq =>
    rw [heq]
    split_ifs at h with hdigit
    · obtain ⟨n, hread, rfl⟩ := map_eq_some_pair.mp h
      obtain ⟨t, ht, heq'⟩ := exists_spellsNumber_of_readNumber hread
      exact ⟨t, .number ht, heq'⟩
    · exact spellsValue_of_readWord h
  · contradiction

theorem takesItems_succ {depth : Nat} (hvalue : TakesValue depth) (hitems : TakesItems depth) :
    TakesItems (depth + 1) := by
  intro vs s rest h
  rw [readItems] at h
  obtain ⟨⟨v, s'⟩, hread, hend⟩ := Option.bind_eq_some_iff.mp h
  obtain ⟨b, t, hb, ht, rfl⟩ := hvalue hread
  obtain ⟨a, ha, hs'⟩ := exists_isBlank_skipSpaces s'
  dsimp only at hend
  split at hend
  · next rest' heq =>
    obtain ⟨rfl, rfl⟩ := Prod.mk.inj (Option.some.inj hend)
    refine ⟨_, .last hb ht ha, ?_⟩
    rw [hs', heq, List.append_assoc, List.append_assoc]
  · next s'' heq =>
    obtain ⟨vs', hread', rfl⟩ := bind_eq_some_pair.mp hend
    obtain ⟨u, hu, rfl⟩ := hitems hread'
    refine ⟨_, .cons hb ht ha hu, ?_⟩
    rw [hs', heq, List.append_assoc, List.append_assoc, List.append_assoc, List.cons_append]
  · contradiction

theorem takesMembers_succ {depth : Nat} (hvalue : TakesValue depth)
    (hmembers : TakesMembers depth) : TakesMembers (depth + 1) := by
  intro ms s rest h
  obtain ⟨b, hb, hs⟩ := exists_isBlank_skipSpaces s
  rw [readMembers] at h
  split at h
  · next s₁ hquote =>
    obtain ⟨⟨k, s₂⟩, hkey, hmember⟩ := Option.bind_eq_some_iff.mp h
    obtain ⟨r, hr, rfl⟩ := exists_spellsChars_of_readQuoted hkey
    obtain ⟨m, hm, hs₂⟩ := exists_isBlank_skipSpaces s₂
    have hk : SpellsChars (String.ofList k).toList r := by rwa [String.toList_ofList]
    dsimp only at hmember
    split at hmember
    · next s₃ hcolon =>
      obtain ⟨⟨v, s₄⟩, hread, hend⟩ := Option.bind_eq_some_iff.mp hmember
      obtain ⟨n, t, hn, ht, rfl⟩ := hvalue hread
      obtain ⟨a, ha, hs₄⟩ := exists_isBlank_skipSpaces s₄
      dsimp only at hend
      split at hend
      · next rest' hbrace =>
        obtain ⟨rfl, rfl⟩ := Prod.mk.inj (Option.some.inj hend)
        refine ⟨_, .last hb hk hm hn ht ha, ?_⟩
        rw [hs, hquote, hs₂, hcolon, hs₄, hbrace]
        simp only [List.append_assoc, List.cons_append]
      · next s₅ hcomma =>
        obtain ⟨ms', hread', rfl⟩ := bind_eq_some_pair.mp hend
        obtain ⟨u, hu, rfl⟩ := hmembers hread'
        refine ⟨_, .cons hb hk hm hn ht ha hu, ?_⟩
        rw [hs, hquote, hs₂, hcolon, hs₄, hcomma]
        simp only [List.append_assoc, List.cons_append]
      · contradiction
    · contradiction
  · contradiction

/-- What is taken as a value is a text of it, at any depth. -/
theorem takes (depth : Nat) : TakesValue depth ∧ TakesItems depth ∧ TakesMembers depth := by
  induction depth with
  | zero =>
    refine ⟨?_, ?_, ?_⟩
    · intro v s rest h
      simp [readValue] at h
    · intro vs s rest h
      simp [readItems] at h
    · intro ms s rest h
      simp [readMembers] at h
  | succ depth ih =>
    obtain ⟨hvalue, hitems, hmembers⟩ := ih
    exact ⟨takesValue_succ hitems hmembers, takesItems_succ hvalue hitems,
      takesMembers_succ hvalue hmembers⟩

/-- The reader gives a value exactly if the text spells it. -/
theorem read?_eq_some_iff {s : List Char} {v : Value} : read? s = some v ↔ Spells v s := by
  refine ⟨fun h => ?_, Spells.read?⟩
  rw [read?.eq_def] at h
  split at h
  · next v' rest hread =>
    obtain ⟨b, t, hb, ht, rfl⟩ := (takes _).1 hread
    split_ifs at h with hrest
    obtain ⟨a, ha, hrest'⟩ := exists_isBlank_skipSpaces rest
    rw [List.isEmpty_iff.mp hrest, List.append_nil] at hrest'
    rw [← Option.some.inj h]
    exact ⟨b, t, rest, hb, ht, hrest' ▸ ha, rfl⟩
  · contradiction

/-- A text spells at most one value. -/
theorem Spells.unique {v w : Value} {s : List Char} (hv : Spells v s) (hw : Spells w s) : v = w :=
  Option.some.inj (hv.read?.symm.trans hw.read?)

end CommitLint.Json
