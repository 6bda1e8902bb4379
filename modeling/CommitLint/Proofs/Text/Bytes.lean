import CommitLint.Proofs.Text.Find
import CommitLint.Proofs.Text.Utf8
import CommitLint.Text.Cut

/-!
# Cuts that count bytes

A search may tell a place by the number of bytes before it, and a text may be cut at a number of
bytes. Such a cut fails unless a character ends there: `splitBytes?` is partial, and it succeeds
exactly on the valid positions of a string (`isSome_splitBytes?_iff`). `takeBytes?` cuts in the same
way, but takes a text with fewer bytes as it is (`takeBytes?_eq`).

A text can be cut where something was found in it, and behind what was found, however many bytes
the characters take: the bytes before these places are those of whole characters
(`IsFirstCut.fromByte?_eq`, `IsFirstCut.fromByte?_add_eq`).
-/

namespace CommitLint.Text

variable {needle s before after : List Char} {n : Nat}

/-! ### Cutting -/

@[simp] theorem byteLength_append (s t : List Char) :
    byteLength (s ++ t) = byteLength s + byteLength t := by
  induction s with
  | nil => rw [List.nil_append, byteLength, Nat.zero_add]
  | cons c s ih => rw [List.cons_append, byteLength, byteLength, ih, Nat.add_assoc]

theorem byteLength_eq_zero_iff {s : List Char} : byteLength s = 0 ↔ s = [] := by
  cases s with
  | nil => exact iff_of_true rfl rfl
  | cons c s =>
    have hpos := Char.utf8Size_pos c
    exact iff_of_false (by rw [byteLength]; omega) (List.cons_ne_nil c s)

theorem byteLength_eq_utf8ByteSize (s : List Char) :
    byteLength s = (String.ofList s).utf8ByteSize := by
  rw [← length_encode, ← String.size_toByteArray, String.toByteArray_ofList, List.utf8Encode,
    List.size_toByteArray]
  rfl

theorem utf8ByteSize_eq_byteLength (s : String) : s.utf8ByteSize = byteLength s.toList := by
  rw [byteLength_eq_utf8ByteSize, String.ofList_toList]

/-- Of two beginnings of a text the one with fewer bytes is a beginning of the other. -/
theorem prefix_of_byteLength_le {s t u : List Char} (hs : s <+: u) (ht : t <+: u)
    (hle : byteLength t ≤ byteLength s) : t <+: s := by
  rcases List.prefix_or_prefix_of_prefix ht hs with h | ⟨rest, rfl⟩
  · exact h
  · rw [byteLength_append] at hle
    obtain rfl : rest = [] := byteLength_eq_zero_iff.mp (by omega)
    exact ⟨[], by simp⟩

theorem splitBytes?_append (before after : List Char) :
    splitBytes? (byteLength before) (before ++ after) = some (before, after) := by
  induction before with
  | nil => rw [byteLength, List.nil_append, splitBytes?]
  | cons c before ih =>
    -- A character has a byte at least, so the number of bytes to go is a successor.
    obtain ⟨n, hn⟩ := Nat.exists_eq_add_one.mpr (Char.utf8Size_pos c)
    have hsub : n + byteLength before + 1 - (n + 1) = byteLength before := by omega
    rw [byteLength, List.cons_append, hn, Nat.add_right_comm, splitBytes?, hn,
      if_pos (by omega), hsub, ih, Option.map_some]

theorem splitBytes?_eq_some_iff :
    splitBytes? n s = some (before, after) ↔ s = before ++ after ∧ byteLength before = n := by
  refine ⟨fun h => ?_, fun ⟨heq, hn⟩ => heq ▸ hn ▸ splitBytes?_append before after⟩
  -- Each character that is passed takes its bytes off the number.
  fun_induction splitBytes? n s generalizing before with
  | case1 s =>
    cases h
    exact ⟨rfl, rfl⟩
  | case2 n => cases h
  | case3 n c s hle ih =>
    obtain ⟨⟨b, a⟩, hsplit, heq⟩ := Option.map_eq_some_iff.mp h
    cases heq
    obtain ⟨rfl, hn⟩ := ih hsplit
    exact ⟨rfl, by rw [byteLength, hn]; omega⟩
  | case4 n c s hlt => cases h

/-- A text can be cut exactly at the positions that are valid in it. -/
theorem isSome_splitBytes?_iff :
    (splitBytes? n s).isSome = true ↔ (⟨n⟩ : String.Pos.Raw).IsValid (.ofList s) := by
  rw [Option.isSome_iff_exists, String.Pos.Raw.isValid_iff_exists_append]
  constructor
  · rintro ⟨⟨before, after⟩, h⟩
    obtain ⟨rfl, rfl⟩ := splitBytes?_eq_some_iff.mp h
    refine ⟨.ofList before, .ofList after, String.ofList_append, ?_⟩
    rw [byteLength_eq_utf8ByteSize]
    rfl
  · rintro ⟨before, after, heq, hn⟩
    refine ⟨(before.toList, after.toList), splitBytes?_eq_some_iff.mpr ⟨?_, ?_⟩⟩
    · rw [← String.toList_append, ← heq, String.toList_ofList]
    · rw [byteLength_eq_utf8ByteSize, String.ofList_toList]
      exact (congrArg String.Pos.Raw.byteIdx hn).symm

/-- The second of the two bytes of a letter begins no character. -/
example : splitBytes? 1 "é".toList = none := by decide

theorem upToByte?_eq_some_iff :
    upToByte? n s = some before ↔ before <+: s ∧ byteLength before = n := by
  rw [upToByte?, Option.map_eq_some_iff]
  constructor
  · rintro ⟨⟨b, a⟩, hsplit, rfl⟩
    obtain ⟨rfl, hn⟩ := splitBytes?_eq_some_iff.mp hsplit
    exact ⟨List.prefix_append b a, hn⟩
  · rintro ⟨⟨after, rfl⟩, hn⟩
    exact ⟨(before, after), splitBytes?_eq_some_iff.mpr ⟨rfl, hn⟩, rfl⟩

/-- A text that is short enough is taken as a whole, and any other one is cut. -/
theorem takeBytes?_eq (n : Nat) (s : List Char) :
    takeBytes? n s = if byteLength s ≤ n then some s else upToByte? n s := by
  induction s generalizing n with
  | nil => rw [takeBytes?, byteLength, if_pos (Nat.zero_le n)]
  | cons c s ih =>
    have hpos := Char.utf8Size_pos c
    rw [takeBytes?, byteLength]
    cases n with
    | zero => rw [if_pos rfl, if_neg (by omega), upToByte?, splitBytes?, Option.map_some]
    | succ n =>
      rw [if_neg n.succ_ne_zero, ih, upToByte?, upToByte?, splitBytes?]
      by_cases hc : c.utf8Size ≤ n + 1
      · have hle : byteLength s ≤ n + 1 - c.utf8Size ↔ c.utf8Size + byteLength s ≤ n + 1 := by omega
        simp only [if_pos hc, hle, apply_ite (Option.map (c :: ·)), Option.map_some,
          Option.map_map]
        rfl
      · rw [if_neg hc, if_neg hc, if_neg (by omega), Option.map_none]

/-- The whole text is taken, or a beginning of it that has just the number of bytes. -/
theorem takeBytes?_eq_some_iff :
    takeBytes? n s = some before ↔
      before <+: s ∧ byteLength before ≤ n ∧ (byteLength before = n ∨ before = s) := by
  rw [takeBytes?_eq]
  split
  · rename_i hle
    rw [Option.some.injEq]
    constructor
    · rintro rfl
      exact ⟨List.prefix_rfl, hle, .inr rfl⟩
    · rintro ⟨⟨after, rfl⟩, -, hn | heq⟩
      · rw [byteLength_append, hn] at hle
        rw [byteLength_eq_zero_iff.mp (by omega : byteLength after = 0), List.append_nil]
      · exact heq.symm
  · rename_i hlt
    rw [upToByte?_eq_some_iff]
    constructor
    · rintro ⟨hbegins, hn⟩
      exact ⟨hbegins, Nat.le_of_eq hn, .inl hn⟩
    · rintro ⟨hbegins, hle, hn | rfl⟩
      · exact ⟨hbegins, hn⟩
      · exact absurd hle hlt

theorem isSome_takeBytes?_iff :
    (takeBytes? n s).isSome = true ↔
      byteLength s ≤ n ∨ (⟨n⟩ : String.Pos.Raw).IsValid (.ofList s) := by
  rw [takeBytes?_eq, ← isSome_splitBytes?_iff]
  split
  · rename_i hle
    exact iff_of_true rfl (.inl hle)
  · rename_i hlt
    rw [or_iff_right hlt, upToByte?, Option.isSome_map]

/-! ### Cutting where a search ended -/

theorem offset?_eq_map_cutAtText (needle s : List Char) :
    offset? needle s = (cutAtText needle s).map fun cut => byteLength cut.1 := by
  induction s with
  | nil =>
    rw [offset?, cutAtText]
    split <;> rfl
  | cons c s ih =>
    rw [offset?, cutAtText, startsWith, ih]
    cases afterStart? needle (c :: s) with
    | some rest => rfl
    | none => cases cutAtText needle s <;> rfl

/-- A text can be cut before the first occurrence of another one. -/
theorem IsFirstCut.fromByte?_eq (h : IsFirstCut needle s before after) :
    fromByte? (byteLength before) s = some (needle ++ after) := by
  rw [fromByte?, h.eq, List.append_assoc, splitBytes?_append, Option.map_some]

theorem IsFirstCut.upToByte?_eq (h : IsFirstCut needle s before after) :
    upToByte? (byteLength before) s = some before := by
  rw [upToByte?, h.eq, List.append_assoc, splitBytes?_append, Option.map_some]

/-- A text can be cut behind the first occurrence of another one. -/
theorem IsFirstCut.fromByte?_add_eq (h : IsFirstCut needle s before after) :
    fromByte? (byteLength before + byteLength needle) s = some after := by
  rw [fromByte?, h.eq, ← byteLength_append, splitBytes?_append, Option.map_some]

theorem IsFirstCut.upToByte?_add_eq (h : IsFirstCut needle s before after) :
    upToByte? (byteLength before + byteLength needle) s = some (before ++ needle) := by
  rw [upToByte?, h.eq, ← byteLength_append, splitBytes?_append, Option.map_some]

/-- Behind a beginning, a text can be cut. -/
theorem fromByte?_of_startsWith (h : startsWith needle s = true) :
    fromByte? (byteLength needle) s = some (s.drop needle.length) := by
  obtain ⟨rest, rfl⟩ := startsWith_iff.mp h
  rw [fromByte?, splitBytes?_append, Option.map_some, List.drop_left]

/-- A character is found as the text of only this character. -/
theorem cutAtText_singleton (c : Char) (s : List Char) : cutAtText [c] s = cutAt c s := by
  induction s with
  | nil => rfl
  | cons d s ih =>
    rw [cutAtText, cutAt, ih, afterStart?]
    by_cases hc : c = d
    · rw [if_pos hc, if_pos hc.symm, afterStart?]
    · rw [if_neg hc, if_neg (Ne.symm hc)]

end CommitLint.Text
