import CommitLint.Proofs.Json.Reader

/-!
# What is written is read back

The text of a value is a way to write it (`spells_document`), so it is well-formed and is read as
the value that it was made of, whatever characters the strings in it have (`read?_document`).
-/

namespace CommitLint.Json

/-! ### Strings and numbers -/

theorem spellsChar_escapeChar (c : Char) : SpellsChar c (escapeChar c) := by
  have hcode : ∀ n < 0x20, codeUnit? '0' '0' (hexDigit (n / 16)) (hexDigit (n % 16)) = some n ∧
      isHighSurrogate n = false ∧ isLowSurrogate n = false := by decide
  rw [escapeChar]
  split_ifs with hquote hbackslash hfeed hreturn htab hback hform hcontrol
  · rw [hquote]
    exact .letter rfl
  · rw [hbackslash]
    exact .letter rfl
  · rw [hfeed]
    exact .letter rfl
  · rw [hreturn]
    exact .letter rfl
  · rw [htab]
    exact .letter rfl
  · rw [hback]
    exact .letter rfl
  · rw [hform]
    exact .letter rfl
  · obtain ⟨hunit, hhigh, hlow⟩ := hcode c.toNat hcontrol
    have hspells := SpellsChar.unit hunit hhigh hlow
    rwa [Char.ofNat_toNat] at hspells
  · exact .plain hquote hbackslash (by omega)

theorem spellsChars_flatMap (s : List Char) : SpellsChars s (s.flatMap escapeChar) := by
  induction s with
  | nil => exact .nil
  | cons c s ih => exact .cons (spellsChar_escapeChar c) ih

/-- The digits of a positive number do not begin with a zero. -/
theorem exists_toDigits {n : Nat} (h : 0 < n) : ∃ c s, Nat.toDigits 10 n = c :: s ∧ c ≠ '0' := by
  induction n using Nat.strongRecOn with
  | ind n ih =>
    by_cases hn : n < 10
    · have hdigits : ∀ m < 10, 0 < m → Nat.digitChar m ≠ '0' := by decide
      exact ⟨_, [], Nat.toDigits_of_lt_base hn, hdigits n hn h⟩
    · obtain ⟨c, s, hs, hc⟩ := ih (n / 10) (by omega) (by omega)
      refine ⟨c, s ++ [Nat.digitChar (n % 10)], ?_, hc⟩
      rw [Nat.toDigits_of_base_le (by decide) (by omega), hs, List.cons_append]

theorem spellsNumber_toString (n : Nat) : SpellsNumber n (toString n).toList := by
  rw [Nat.toString_eq_ofList_toDigits, String.toList_ofList]
  rcases Nat.eq_zero_or_pos n with rfl | hn
  · exact .zero
  · obtain ⟨c, s, hs, hc⟩ := exists_toDigits hn
    have hdigits : ∀ d ∈ c :: s, d.isDigit := by
      rw [← hs]
      exact fun d hd => Nat.isDigit_of_mem_toDigits (by decide) (by decide) hd
    have hspells := SpellsNumber.digits hc hdigits
    rwa [← hs, Nat.ofDigitChars_ten_toDigits] at hspells

theorem isBlank_newline (indent : Nat) : IsBlank (newline indent) := by
  intro c hc
  rcases List.mem_cons.mp hc with rfl | hc
  · decide
  · rw [List.eq_of_mem_replicate hc]
    decide

theorem isBlank_space : IsBlank [' '] := by
  simp [IsBlank, isSpace]

/-! ### Values -/

mutual

theorem spellsValue_render (indent : Nat) : ∀ v : Value, SpellsValue v (render indent v)
  | .null => .null
  | .bool true => .isTrue
  | .bool false => .isFalse
  | .number n => .number (spellsNumber_toString n)
  | .text s => .text (spellsChars_flatMap s.toList)
  | .array [] => .noItems isBlank_nil
  | .array (v :: vs) => by
    have hitems := spellsItems_render (indent + 2) vs (isBlank_newline indent)
      (spellsValue_render (indent + 2) v)
    have hvalue := SpellsValue.items hitems
    simpa only [render, List.append_assoc, List.cons_append] using hvalue
  | .object [] => .noMembers isBlank_nil
  | .object ((k, v) :: ms) => by
    have hmembers := spellsMembers_render (indent + 2) ms (isBlank_newline indent) k
      (spellsValue_render (indent + 2) v)
    have hvalue := SpellsValue.members hmembers
    simpa only [render, quoted, List.append_assoc, List.cons_append, List.nil_append] using hvalue

theorem spellsItems_render (indent : Nat) : ∀ (vs : List Value) {a : List Char}, IsBlank a →
    ∀ {v : Value} {t : List Char}, SpellsValue v t →
      SpellsItems (v :: vs) (newline indent ++ (t ++ (renderItems indent vs ++ a)))
  | [], _, ha, _, _, hv => .last (isBlank_newline indent) hv ha
  | w :: ws, _, ha, _, _, hv => by
    have hitems := spellsItems_render indent ws ha (spellsValue_render indent w)
    have hcons := SpellsItems.cons (isBlank_newline indent) hv isBlank_nil hitems
    simpa only [renderItems, List.append_assoc, List.cons_append, List.nil_append] using hcons

theorem spellsMembers_render (indent : Nat) : ∀ (ms : List (String × Value)) {a : List Char},
    IsBlank a → ∀ (k : String) {v : Value} {t : List Char}, SpellsValue v t →
      SpellsMembers ((k, v) :: ms)
        (newline indent ++ (quoted k ++ (':' :: ' ' :: (t ++ (renderMembers indent ms ++ a)))))
  | [], a, ha, k, v, t, hv => by
    have hmembers := SpellsMembers.last (isBlank_newline indent) (spellsChars_flatMap k.toList)
      isBlank_nil isBlank_space hv ha
    simpa only [renderMembers, quoted, List.append_assoc, List.cons_append, List.nil_append]
      using hmembers
  | (l, w) :: ms, a, ha, k, v, t, hv => by
    have hrest := spellsMembers_render indent ms ha l (spellsValue_render indent w)
    have hmembers := SpellsMembers.cons (isBlank_newline indent) (spellsChars_flatMap k.toList)
      isBlank_nil isBlank_space hv isBlank_nil hrest
    simpa only [renderMembers, quoted, List.append_assoc, List.cons_append, List.nil_append]
      using hmembers

end

/-- The text of a value is a way to write it. -/
theorem spells_document (v : Value) : Spells v (document v).toList := by
  refine ⟨[], render 0 v, [], isBlank_nil, spellsValue_render 0 v, isBlank_nil, ?_⟩
  rw [document, String.toList_ofList, List.nil_append, List.append_nil]

/-- The text of a value is read as that value. -/
theorem read?_document (v : Value) : read? (document v).toList = some v :=
  (spells_document v).read?

end CommitLint.Json
