import CommitLint.Proofs.Text.Find
import CommitLint.Proofs.Text.Visible
import CommitLint.Trailer
import Mathlib.Data.List.Basic

/-!
# Kinds of lines in a body

A line is a sign-off if it is written from a name and a mail address (`isSignOff_iff`,
`isSignOff_iff_exists`), it looks like one if it holds two texts (`isSignOffAttempt_iff`), and it is
a trailer if it is cut at its first colon into a known key and a value (`isPermitted_iff`). Every
sign-off looks like one (`IsSignOff.isAttempt`). Blanks around a line make no difference to the
first two.
-/

namespace CommitLint.Trailer

open Text

/-! ### Sign-offs -/

/-- A mail address: something on both sides of an at sign, without blanks and angle brackets. -/
def IsAddress (s : List Char) : Prop :=
  ∃ user host, s = user ++ '@' :: host ∧ user ≠ [] ∧ host ≠ [] ∧
    ∀ c ∈ user ++ host, c ≠ '<' ∧ c ≠ '>' ∧ isBlank c = false

/-- A name without opening brackets, and a mail address in angle brackets. -/
def IsSigner (s : List Char) : Prop :=
  ∃ name address, s = name ++ " <".toList ++ address ++ ">".toList ∧ name ≠ [] ∧ '<' ∉ name ∧
    IsAddress address

/-- A line is a well-formed sign-off. -/
def IsSignOff (line : List Char) : Prop :=
  ∃ signer, trim line = signOffStart ++ signer ∧ IsSigner signer

/-- A line looks like a sign-off. -/
def IsAttempt (line : List Char) : Prop := "Signed".toList <:+: line ∧ "by:".toList <:+: line

theorem isAddress_iff {s : List Char} : isAddress s = true ↔ IsAddress s := by
  have hchar : ∀ c, isAddressChar c = true ↔ c ≠ '<' ∧ c ≠ '>' ∧ isBlank c = false := by
    simp [isAddressChar, and_assoc]
  simp only [isAddress, Bool.and_eq_true, List.all_eq_true, hchar, List.contains_iff_mem]
  constructor
  · rintro ⟨hplain, hat⟩
    cases s with
    | nil => simp at hat
    | cons first rest =>
      obtain ⟨last, hlast⟩ : ∃ last, rest = rest.dropLast ++ [last] := by
        refine ⟨rest.getLast ?_, (List.dropLast_append_getLast _).symm⟩
        rintro rfl
        simp at hat
      obtain ⟨user, host, hrest⟩ := List.append_of_mem hat
      simp only [List.drop_one, List.tail_cons] at hrest
      rw [hrest] at hlast
      refine ⟨first :: user, host ++ [last], by rw [hlast]; simp, by simp, by simp, fun c hc => ?_⟩
      refine hplain c ?_
      rw [hlast]
      simp only [List.mem_append, List.mem_cons] at hc ⊢
      grind
  · rintro ⟨user, host, rfl, huser, hhost, hplain⟩
    obtain ⟨first, user, rfl⟩ := List.exists_cons_of_ne_nil huser
    obtain ⟨host, last, rfl⟩ := (List.eq_nil_or_concat host).resolve_left hhost
    refine ⟨fun c hc => ?_, ?_⟩
    · simp only [List.mem_append, List.mem_cons, List.concat_eq_append] at hc hplain
      by_cases hat : c = '@'
      · rw [hat]
        decide
      · exact hplain c (by grind)
    · have hrest : (first :: user ++ '@' :: host.concat last).drop 1 =
          user ++ '@' :: host ++ [last] := by simp
      rw [hrest, List.dropLast_concat]
      simp

theorem isSigner_iff {s : List Char} : isSigner s = true ↔ IsSigner s := by
  rw [isSigner]
  constructor
  · intro h
    cases hcut : cutAt '<' s with
    | none => simp [hcut] at h
    | some cut =>
      obtain ⟨heq, hplain⟩ := cutAt_eq_some_iff.mp hcut
      simp only [hcut] at h
      split at h
      · rename_i name address hname haddress
        rw [beforeEnd?_eq_some_iff] at hname haddress
        simp only [Bool.and_eq_true, Bool.not_eq_true', List.isEmpty_eq_false_iff] at h
        refine ⟨name, address, ?_, h.1, fun hmem => ?_, isAddress_iff.mp h.2⟩
        · rw [heq, hname, haddress]
          simp
        · exact hplain (hname ▸ List.mem_append_left _ hmem)
      · cases h
  · rintro ⟨name, address, rfl, hname, hplain, haddress⟩
    have hcut : cutAt '<' (name ++ " <".toList ++ address ++ ">".toList) =
        some (name ++ [' '], address ++ ['>']) := by
      refine cutAt_eq_some_iff.mpr ⟨by simp, ?_⟩
      simp [hplain]
    simp only [hcut, beforeEnd?_eq_some_iff.mpr rfl, isAddress_iff.mpr haddress]
    simpa using hname

theorem isSignOff_iff {line : List Char} : isSignOff line = true ↔ IsSignOff line := by
  rw [isSignOff]
  constructor
  · intro h
    cases hstart : afterStart? signOffStart (trim line) with
    | none => simp [hstart] at h
    | some signer =>
      rw [hstart] at h
      exact ⟨signer, afterStart?_eq_some_iff.mp hstart, isSigner_iff.mp h⟩
  · rintro ⟨signer, heq, hsigner⟩
    rw [afterStart?_eq_some_iff.mpr heq]
    exact isSigner_iff.mpr hsigner

/-- A sign-off, cut where its parts meet: the name runs to the first opening bracket, and the
address behind it holds neither brackets nor blanks. -/
theorem isSignOff_iff_exists {line : List Char} :
    IsSignOff line ↔ ∃ name user host,
      trim line = signOffStart ++ name ++ " <".toList ++ user ++ '@' :: host ++ ">".toList ∧
      name ≠ [] ∧ '<' ∉ name ∧ user ≠ [] ∧ host ≠ [] ∧
      ∀ c ∈ user ++ host, c ≠ '<' ∧ c ≠ '>' ∧ isBlank c = false := by
  constructor
  · rintro ⟨signer, hline, name, address, rfl, hname, hplain, user, host, rfl, haddress⟩
    refine ⟨name, user, host, ?_, hname, hplain, haddress⟩
    simp only [hline, List.append_assoc]
  · rintro ⟨name, user, host, hline, hname, hplain, haddress⟩
    refine ⟨name ++ " <".toList ++ (user ++ '@' :: host) ++ ">".toList, ?_, name, _, rfl, hname,
      hplain, user, host, rfl, haddress⟩
    simp only [hline, List.append_assoc]

instance : DecidablePred IsSignOff := fun _ => decidable_of_iff _ isSignOff_iff

theorem isSignOff_trim (line : List Char) : isSignOff (trim line) = isSignOff line := by
  rw [isSignOff, isSignOff, trim_trim]

theorem isSignOffAttempt_iff {line : List Char} :
    isSignOffAttempt line = true ↔ IsAttempt line := by
  rw [isSignOffAttempt, Bool.and_eq_true, occurs_iff, occurs_iff]
  rfl

instance : DecidablePred IsAttempt := fun _ => decidable_of_iff _ isSignOffAttempt_iff

theorem isAttempt_trim_iff {line : List Char} : IsAttempt (trim line) ↔ IsAttempt line :=
  and_congr (infix_trim_iff (by decide) (by decide)) (infix_trim_iff (by decide) (by decide))

/-- Whoever writes a sign-off also tries to. -/
theorem IsSignOff.isAttempt {line : List Char} (h : IsSignOff line) : IsAttempt line := by
  obtain ⟨signer, heq, -⟩ := h
  have hbegins : signOffStart <:+: trim line := heq ▸ (List.prefix_append _ _).isInfix
  have hsigned : "Signed".toList <:+: signOffStart := ⟨[], "-off-by: ".toList, by decide⟩
  have hby : "by:".toList <:+: signOffStart := ⟨"Signed-off-".toList, [' '], by decide⟩
  exact isAttempt_trim_iff.mp ⟨hsigned.trans hbegins, hby.trans hbegins⟩

/-! ### Trailers -/

/-- A line is a trailer that may stand after a sign-off: a permitted key, a colon, and a value. -/
def IsPermitted (line : List Char) : Prop :=
  ∃ key value, line = key ++ ':' :: value ∧ ':' ∉ key ∧ lower (trim key) ∈ permittedKeys ∧
    ¬isBlankText value

theorem isPermitted_iff {line : List Char} : isPermitted line = true ↔ IsPermitted line := by
  rw [isPermitted]
  constructor
  · intro h
    cases hcut : cutAt ':' line with
    | none => simp [hcut] at h
    | some cut =>
      obtain ⟨heq, hplain⟩ := cutAt_eq_some_iff.mp hcut
      simp only [hcut, Bool.and_eq_true, List.contains_iff_mem] at h
      exact ⟨cut.1, cut.2, heq, hplain, h.1, by simpa using h.2⟩
  · rintro ⟨key, value, heq, hplain, hkey, hvalue⟩
    rw [cutAt_eq_some_iff.mpr ⟨heq, hplain⟩]
    simp only [Bool.and_eq_true, List.contains_iff_mem]
    exact ⟨hkey, by simpa using hvalue⟩

end CommitLint.Trailer
