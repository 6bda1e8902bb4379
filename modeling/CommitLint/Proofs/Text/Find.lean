import CommitLint.Proofs.Text.Pieces

/-!
# First occurrences

A text is cut at the first occurrence of another one: what comes out puts the text together again,
and no occurrence begins earlier (`cutAtText_eq_some_iff`). Nothing comes out only where the other
text does not occur (`cutAtText_eq_none_iff`).

An occurrence stays the first one whatever follows the text (`IsFirstCut.append`). With something
before the text it does so if nothing can straddle the boundary: because a character stands there
that the other text does not have (`IsFirstCut.append_cons`), or because two occurrences of the
other text cannot overlap (`isFirstCut_of_last`).

Cutting at the last occurrence is said in the same way (`cutAtLastText_eq_some_iff`).
-/

namespace CommitLint.Text

/-! ### Beginnings -/

theorem afterStart?_eq_some_iff {start s rest : List Char} :
    afterStart? start s = some rest ↔ s = start ++ rest := by
  induction start generalizing s with
  | nil => rw [afterStart?, Option.some.injEq, List.nil_append]
  | cons p ps ih =>
    cases s with
    | nil => simp [afterStart?]
    | cons c s =>
      rw [afterStart?, List.cons_append, List.cons_eq_cons]
      split
      · rename_i heq
        rw [ih, and_iff_right heq.symm]
      · rename_i hne
        exact iff_of_false (by simp) fun h => hne h.1.symm

theorem startsWith_iff {start s : List Char} : startsWith start s = true ↔ start <+: s := by
  rw [startsWith, Option.isSome_iff_exists]
  exact exists_congr fun rest => afterStart?_eq_some_iff.trans eq_comm

/-! ### Endings -/

theorem beforeEnd?_eq_some_iff {ending s rest : List Char} :
    beforeEnd? ending s = some rest ↔ s = rest ++ ending := by
  rw [beforeEnd?, Option.map_eq_some_iff]
  constructor
  · rintro ⟨r, h, rfl⟩
    rw [afterStart?_eq_some_iff] at h
    rw [← List.reverse_inj, List.reverse_append, List.reverse_reverse, h]
  · rintro rfl
    exact ⟨rest.reverse, by rw [afterStart?_eq_some_iff, List.reverse_append],
      List.reverse_reverse rest⟩

/-! ### Another text -/

/-- What stands before and after the first occurrence of a text in another. -/
structure IsFirstCut (needle s before after : List Char) : Prop where
  eq : s = before ++ needle ++ after
  le : ∀ b a, s = b ++ needle ++ a → before.length ≤ b.length

theorem IsFirstCut.unique {needle s before after b a : List Char}
    (h : IsFirstCut needle s before after) (h' : IsFirstCut needle s b a) :
    b = before ∧ a = after := by
  have hlength : b.length = before.length := Nat.le_antisymm (h'.le _ _ h.eq) (h.le _ _ h'.eq)
  have heq : b ++ (needle ++ a) = before ++ (needle ++ after) := by
    rw [← List.append_assoc, ← List.append_assoc, ← h'.eq, ← h.eq]
  obtain ⟨hb, hrest⟩ := List.append_inj heq hlength
  exact ⟨hb, List.append_cancel_left hrest⟩

/-- What comes after a text does not move the first occurrence in it. -/
theorem IsFirstCut.append {needle s before after : List Char} (h : IsFirstCut needle s before after)
    (rest : List Char) : IsFirstCut needle (s ++ rest) before (after ++ rest) := by
  refine ⟨by rw [h.eq, List.append_assoc], fun b a heq => Nat.not_lt.mp fun hlt => ?_⟩
  rcases List.append_eq_append_iff.mp heq with ⟨as, hs, -⟩ | ⟨bs, hs, -⟩
  · have hlength := congrArg List.length (hs.trans (congrArg (· ++ as) h.eq))
    simp only [List.length_append] at hlength
    omega
  · exact Nat.not_lt.mpr (h.le b bs hs) hlt

/-- Nor does what comes before it, if the other text does not occur there, and a character that does
not belong to the other text stands in between. -/
theorem IsFirstCut.append_cons {needle s before after : List Char}
    (h : IsFirstCut needle s before after) {start : List Char} (hstart : ¬needle <:+: start)
    {sep : Char} (hsep : sep ∉ needle) :
    IsFirstCut needle (start ++ sep :: s) (start ++ sep :: before) after := by
  refine ⟨by simp [h.eq], fun b a heq => ?_⟩
  rw [List.append_assoc] at heq
  rcases List.append_eq_append_iff.mp heq with ⟨as, rfl, hrest⟩ | ⟨bs, rfl, hrest⟩
  · cases as with
    | nil =>
      cases needle with
      | nil => exact absurd List.nil_infix hstart
      | cons c needle =>
        obtain ⟨rfl, -⟩ := List.cons_eq_cons.mp hrest
        exact absurd List.mem_cons_self hsep
    | cons c as =>
      have hs : s = as ++ (needle ++ a) := (List.cons_eq_cons.mp hrest).2
      have hle := h.le as a (by rw [hs, List.append_assoc])
      simp only [List.length_append, List.length_cons]
      omega
  · rcases List.append_eq_append_iff.mp hrest with ⟨as, rfl, -⟩ | ⟨cs, rfl, hsep'⟩
    · exact absurd ⟨b, as, by simp⟩ hstart
    · cases cs with
      | nil => exact absurd ⟨b, [], by simp⟩ hstart
      | cons c cs =>
        obtain ⟨rfl, -⟩ := List.cons_eq_cons.mp hsep'
        exact absurd (by simp) hsep

/-- An occurrence of a text whose last character stands nowhere else in it is the first one, if
there is none before it: two of them cannot overlap. -/
theorem isFirstCut_of_last {start before : List Char} {last : Char} (hlast : last ∉ start)
    (hbefore : ¬(start ++ [last]) <:+: before) (after : List Char) :
    IsFirstCut (start ++ [last]) (before ++ (start ++ [last]) ++ after) before after := by
  refine ⟨rfl, fun b a heq => Nat.not_lt.mp fun hlt => ?_⟩
  rw [List.append_assoc, List.append_assoc b] at heq
  rcases List.append_eq_append_iff.mp heq with ⟨as, rfl, -⟩ | ⟨x, rfl, hrest⟩
  · rw [List.length_append] at hlt
    omega
  have hpos : 0 < x.length := by
    rw [List.length_append] at hlt
    omega
  rcases List.append_eq_append_iff.mp hrest with ⟨y, rfl, -⟩ | ⟨y, hx, hy⟩
  · exact hbefore ⟨b, y, by simp⟩
  · obtain rfl | ⟨y, c, rfl⟩ := List.eq_nil_or_concat y
    · exact hbefore ⟨b, [], by simp [hx]⟩
    -- The earlier occurrence ends within this one: its last character is one of `start`.
    rw [List.concat_eq_append, ← List.append_assoc] at hx
    obtain ⟨rfl, hc⟩ := List.append_inj' hx rfl
    rw [List.cons.injEq, and_iff_left rfl] at hc
    have hbegins : y.concat c <+: x ++ y := by
      refine List.prefix_of_prefix_length_le ⟨a, hy.symm⟩ ⟨last :: after, by simp⟩ ?_
      rw [List.length_concat, List.length_append]
      omega
    exact hlast (hbegins.mem (by simp [hc]))

theorem exists_cutAtText {needle : List Char} :
    ∀ {s b a : List Char}, s = b ++ needle ++ a →
      ∃ before after, cutAtText needle s = some (before, after) ∧ before.length ≤ b.length
  | [], b, a, h => by
    have hneedle : needle = [] := by simp_all
    exact ⟨[], [], by rw [cutAtText, hneedle]; rfl, Nat.zero_le _⟩
  | c :: s, b, a, h => by
    rw [cutAtText]
    cases hstart : afterStart? needle (c :: s) with
    | some after => exact ⟨[], after, rfl, Nat.zero_le _⟩
    | none =>
      -- The text does not begin with the other one, so something stands before the occurrence.
      cases b with
      | nil =>
        rw [List.nil_append] at h
        rw [afterStart?_eq_some_iff.mpr h] at hstart
        cases hstart
      | cons d b =>
        rw [List.cons_append, List.cons_append, List.cons_eq_cons] at h
        obtain ⟨before, after, hcut, hle⟩ := exists_cutAtText h.2
        exact ⟨c :: before, after, by rw [hcut, Option.map_some],
          Nat.succ_le_succ hle⟩

theorem eq_append_of_cutAtText {needle : List Char} :
    ∀ {s before after : List Char}, cutAtText needle s = some (before, after) →
      s = before ++ needle ++ after
  | [], before, after, h => by
    rw [cutAtText] at h
    split at h
    · rename_i hneedle
      cases h
      rw [List.isEmpty_iff.mp hneedle]
      rfl
    · cases h
  | c :: s, before, after, h => by
    rw [cutAtText] at h
    split at h
    · rename_i hstart
      cases h
      exact afterStart?_eq_some_iff.mp hstart
    · obtain ⟨⟨b, a⟩, hcut, heq⟩ := Option.map_eq_some_iff.mp h
      cases heq
      rw [eq_append_of_cutAtText hcut]
      rfl

theorem cutAtText_eq_some_iff {needle s before after : List Char} :
    cutAtText needle s = some (before, after) ↔ IsFirstCut needle s before after := by
  have hfirst : ∀ {b a}, cutAtText needle s = some (b, a) → IsFirstCut needle s b a := by
    intro b a h
    refine ⟨eq_append_of_cutAtText h, fun b' a' heq => ?_⟩
    obtain ⟨_, _, hcut, hle⟩ := exists_cutAtText heq
    rw [h] at hcut
    cases hcut
    exact hle
  refine ⟨hfirst, fun h => ?_⟩
  obtain ⟨b, a, hcut, -⟩ := exists_cutAtText h.eq
  obtain ⟨rfl, rfl⟩ := h.unique (hfirst hcut)
  exact hcut

theorem cutAtText_eq_none_iff {needle s : List Char} :
    cutAtText needle s = none ↔ ¬needle <:+: s := by
  constructor
  · rintro h ⟨b, a, rfl⟩
    obtain ⟨_, _, hcut, -⟩ := exists_cutAtText rfl
    rw [h] at hcut
    cases hcut
  · intro h
    refine Option.eq_none_iff_forall_ne_some.mpr fun ⟨b, a⟩ hcut => h ⟨b, a, ?_⟩
    exact (eq_append_of_cutAtText hcut).symm

theorem occurs_iff {needle s : List Char} : occurs needle s = true ↔ needle <:+: s := by
  rw [occurs, Option.isSome_iff_ne_none, ne_eq, cutAtText_eq_none_iff, Classical.not_not]

/-! ### The last occurrence -/

/-- What stands before and after the last occurrence of a text in another. -/
structure IsLastCut (needle s before after : List Char) : Prop where
  eq : s = before ++ needle ++ after
  le : ∀ b a, s = b ++ needle ++ a → b.length ≤ before.length

theorem IsLastCut.unique {needle s before after b a : List Char}
    (h : IsLastCut needle s before after) (h' : IsLastCut needle s b a) :
    b = before ∧ a = after := by
  have hlength : b.length = before.length := Nat.le_antisymm (h.le _ _ h'.eq) (h'.le _ _ h.eq)
  have heq : b ++ (needle ++ a) = before ++ (needle ++ after) := by
    rw [← List.append_assoc, ← List.append_assoc, ← h'.eq, ← h.eq]
  obtain ⟨hb, hrest⟩ := List.append_inj heq hlength
  exact ⟨hb, List.append_cancel_left hrest⟩

/-- An occurrence in a text with one more character in front stands at its beginning, or behind this
character. -/
theorem eq_append_cons_iff {needle s b a : List Char} {c : Char} :
    c :: s = b ++ needle ++ a ↔
      (b = [] ∧ afterStart? needle (c :: s) = some a) ∨
        ∃ b', b = c :: b' ∧ s = b' ++ needle ++ a := by
  cases b with
  | nil =>
    rw [afterStart?_eq_some_iff]
    exact ⟨fun h => .inl ⟨rfl, h⟩, fun h => (h.resolve_right fun ⟨_, h, _⟩ => nomatch h).2⟩
  | cons d b =>
    rw [List.cons_append, List.cons_append, List.cons_eq_cons]
    constructor
    · rintro ⟨rfl, hs⟩
      exact .inr ⟨b, rfl, hs⟩
    · rintro (⟨h, -⟩ | ⟨b', h, hs⟩)
      · cases h
      · obtain ⟨rfl, rfl⟩ := List.cons_eq_cons.mp h
        exact ⟨rfl, hs⟩

theorem cutAtLastText_exact (needle : List Char) : ∀ s : List Char,
    (∀ before after, cutAtLastText needle s = some (before, after) →
      IsLastCut needle s before after) ∧
    (cutAtLastText needle s = none → ¬needle <:+: s)
  | [] => by
    rw [cutAtLastText]
    split
    · rename_i hneedle
      refine ⟨fun before after h => ?_, fun h => by cases h⟩
      cases h
      refine ⟨by rw [List.isEmpty_iff.mp hneedle]; rfl, fun b a heq => ?_⟩
      have hb : b = [] := (List.append_eq_nil_iff.mp (List.append_eq_nil_iff.mp heq.symm).1).1
      exact Nat.le_of_eq (congrArg List.length hb)
    · rename_i hneedle
      refine ⟨fun _ _ h => ?_, fun _ h => hneedle ?_⟩
      · cases h
      · exact List.isEmpty_iff.mpr (List.infix_nil.mp h)
  | c :: s => by
    obtain ⟨hsome, hnone⟩ := cutAtLastText_exact needle s
    rw [cutAtLastText]
    cases hcut : cutAtLastText needle s with
    | some cut =>
      refine ⟨fun before after h => ?_, fun h => by cases h⟩
      cases h
      have hlast := hsome _ _ hcut
      refine ⟨by rw [hlast.eq]; rfl, fun b a heq => ?_⟩
      rcases eq_append_cons_iff.mp heq with ⟨rfl, -⟩ | ⟨b', rfl, heq'⟩
      · exact Nat.zero_le _
      · exact Nat.succ_le_succ (hlast.le b' a heq')
    | none =>
      -- Nothing occurs behind the first character, so it is the beginning or nothing.
      have hbehind : ∀ b a, c :: s = b ++ needle ++ a →
          b = [] ∧ afterStart? needle (c :: s) = some a := by
        intro b a heq
        refine (eq_append_cons_iff.mp heq).resolve_right ?_
        rintro ⟨b', -, heq'⟩
        exact hnone hcut ⟨b', a, heq'.symm⟩
      refine ⟨fun before after h => ?_, fun h => ?_⟩
      · obtain ⟨rest, hstart, heq⟩ := Option.map_eq_some_iff.mp h
        cases heq
        refine ⟨afterStart?_eq_some_iff.mp hstart, fun b a heq => ?_⟩
        exact Nat.le_of_eq (congrArg List.length (hbehind b a heq).1)
      · rintro ⟨b, a, heq⟩
        rw [Option.map_eq_none_iff, (hbehind b a heq.symm).2] at h
        cases h

theorem cutAtLastText_eq_none_iff {needle s : List Char} :
    cutAtLastText needle s = none ↔ ¬needle <:+: s := by
  refine ⟨(cutAtLastText_exact needle s).2, fun h => ?_⟩
  refine Option.eq_none_iff_forall_ne_some.mpr fun ⟨b, a⟩ hcut => h ⟨b, a, ?_⟩
  exact ((cutAtLastText_exact needle s).1 b a hcut).eq.symm

theorem cutAtLastText_eq_some_iff {needle s before after : List Char} :
    cutAtLastText needle s = some (before, after) ↔ IsLastCut needle s before after := by
  refine ⟨(cutAtLastText_exact needle s).1 before after, fun h => ?_⟩
  cases hcut : cutAtLastText needle s with
  | none => exact absurd ⟨before, after, h.eq.symm⟩ (cutAtLastText_eq_none_iff.mp hcut)
  | some cut =>
    obtain ⟨rfl, rfl⟩ := h.unique ((cutAtLastText_exact needle s).1 cut.1 cut.2 hcut)
    rfl

/-! ### A character -/

theorem cutAt_eq_none_iff {sep : Char} {s : List Char} : cutAt sep s = none ↔ sep ∉ s := by
  induction s with
  | nil => simp [cutAt]
  | cons c s ih =>
    rw [cutAt, List.mem_cons, not_or, ← ih]
    split
    · rename_i hc
      exact iff_of_false (by simp) fun h => h.1 hc.symm
    · rename_i hc
      rw [Option.map_eq_none_iff, and_iff_right (Ne.symm hc)]

theorem cutAtLast_eq_none_iff {sep : Char} {s : List Char} : cutAtLast sep s = none ↔ sep ∉ s := by
  induction s with
  | nil => simp [cutAtLast]
  | cons c s ih =>
    rw [cutAtLast, List.mem_cons, not_or]
    cases hcut : cutAtLast sep s with
    | some cut => exact iff_of_false (by simp) fun h => by simp [ih.mpr h.2] at hcut
    | none =>
      rw [and_iff_left (ih.mp hcut)]
      by_cases hc : c = sep <;> simp [hc, Ne.symm]

/-- A text is cut at a separator that nothing after it equals. -/
theorem cutAtLast_append {sep : Char} {after : List Char} (h : sep ∉ after) (before : List Char) :
    cutAtLast sep (before ++ sep :: after) = some (before, after) := by
  induction before with
  | nil => rw [List.nil_append, cutAtLast, cutAtLast_eq_none_iff.mpr h, if_pos rfl]
  | cons c before ih => rw [List.cons_append, cutAtLast, ih]

theorem cutAtLast_eq_some_iff {sep : Char} {s before after : List Char} :
    cutAtLast sep s = some (before, after) ↔ s = before ++ sep :: after ∧ sep ∉ after := by
  refine ⟨fun h => ?_, fun ⟨heq, hnot⟩ => heq ▸ cutAtLast_append hnot before⟩
  induction s generalizing before with
  | nil => cases h
  | cons c s ih =>
    rw [cutAtLast] at h
    cases hcut : cutAtLast sep s with
    | some cut =>
      rw [hcut] at h
      cases h
      obtain ⟨heq, hnot⟩ := ih hcut
      exact ⟨congrArg (c :: ·) heq, hnot⟩
    | none =>
      rw [hcut] at h
      dsimp only at h
      split at h
      · rename_i hc
        cases h
        exact ⟨by rw [hc]; rfl, cutAtLast_eq_none_iff.mp hcut⟩
      · cases h

theorem cutAt_eq_some_iff {sep : Char} {s before after : List Char} :
    cutAt sep s = some (before, after) ↔ s = before ++ sep :: after ∧ sep ∉ before := by
  refine ⟨fun h => ?_, fun ⟨heq, hnot⟩ => heq ▸ cutAt_append hnot after⟩
  induction s generalizing before with
  | nil => cases h
  | cons c s ih =>
    rw [cutAt] at h
    split at h
    · rename_i hc
      cases h
      exact ⟨by rw [hc]; rfl, List.not_mem_nil⟩
    · rename_i hc
      obtain ⟨⟨b, a⟩, hcut, heq⟩ := Option.map_eq_some_iff.mp h
      cases heq
      obtain ⟨rfl, hnot⟩ := ih hcut
      exact ⟨rfl, by simpa [hnot] using Ne.symm hc⟩

end CommitLint.Text
