import CommitLint.Json.Reader

/-!
# The grammar of JSON texts

Which texts are JSON, and what value each stands for, as relations that follow the grammar of JSON
rule by rule. A text that spells a value is well-formed, whoever reads it. Of the numbers the
grammar has the natural ones, as the values do.

The relations say nothing of how a text is read. That the reader takes these texts and no others is
`read?_eq_some_iff`.
-/

namespace CommitLint.Json

/-! ### Strings -/

/-- The ways to write a character within quotes: as itself, as a letter after a backslash, by the
number of its code unit, or by the numbers of both of its code units. -/
inductive SpellsChar : Char → List Char → Prop
  | plain {c : Char} : c ≠ '"' → c ≠ '\\' → 0x20 ≤ c.toNat → SpellsChar c [c]
  | letter {c letter : Char} : escaped? letter = some c → SpellsChar c ['\\', letter]
  | unit {a b c d : Char} {n : Nat} : codeUnit? a b c d = some n → isHighSurrogate n = false →
      isLowSurrogate n = false → SpellsChar (.ofNat n) ['\\', 'u', a, b, c, d]
  | pair {a b c d a' b' c' d' : Char} {h n : Nat} : codeUnit? a b c d = some h →
      isHighSurrogate h → codeUnit? a' b' c' d' = some n → isLowSurrogate n →
      SpellsChar (.ofNat (0x10000 + (h - 0xD800) * 0x400 + (n - 0xDC00)))
        ['\\', 'u', a, b, c, d, '\\', 'u', a', b', c', d']

/-- The ways to write a text within quotes: its characters, one after the other. -/
inductive SpellsChars : List Char → List Char → Prop
  | nil : SpellsChars [] []
  | cons {c : Char} {t s u : List Char} : SpellsChar c t → SpellsChars s u →
      SpellsChars (c :: s) (t ++ u)

/-! ### Numbers -/

/-- The way to write a natural number: its digits, without superfluous zeros. -/
inductive SpellsNumber : Nat → List Char → Prop
  | zero : SpellsNumber 0 ['0']
  | digits {c : Char} {s : List Char} : c ≠ '0' → (∀ d ∈ c :: s, d.isDigit) →
      SpellsNumber (Nat.ofDigitChars 10 (c :: s) 0) (c :: s)

/-! ### Values -/

/-- Whether a text may stand between tokens. -/
def IsBlank (s : List Char) : Prop := ∀ c ∈ s, isSpace c

mutual

/-- The ways to write a value. -/
inductive SpellsValue : Value → List Char → Prop
  | null : SpellsValue .null ['n', 'u', 'l', 'l']
  | isTrue : SpellsValue (.bool true) ['t', 'r', 'u', 'e']
  | isFalse : SpellsValue (.bool false) ['f', 'a', 'l', 's', 'e']
  | number {n : Nat} {t : List Char} : SpellsNumber n t → SpellsValue (.number n) t
  | text {s : String} {t : List Char} : SpellsChars s.toList t →
      SpellsValue (.text s) ('"' :: (t ++ ['"']))
  | noItems {b : List Char} : IsBlank b → SpellsValue (.array []) ('[' :: (b ++ [']']))
  | items {vs : List Value} {t : List Char} : SpellsItems vs t →
      SpellsValue (.array vs) ('[' :: (t ++ [']']))
  | noMembers {b : List Char} : IsBlank b → SpellsValue (.object []) ('{' :: (b ++ ['}']))
  | members {ms : List (String × Value)} {t : List Char} : SpellsMembers ms t →
      SpellsValue (.object ms) ('{' :: (t ++ ['}']))

/-- The ways to write the items of an array that has some. -/
inductive SpellsItems : List Value → List Char → Prop
  | last {v : Value} {b t a : List Char} : IsBlank b → SpellsValue v t → IsBlank a →
      SpellsItems [v] (b ++ (t ++ a))
  | cons {v : Value} {vs : List Value} {b t a u : List Char} : IsBlank b → SpellsValue v t →
      IsBlank a → SpellsItems vs u → SpellsItems (v :: vs) (b ++ (t ++ (a ++ ',' :: u)))

/-- The ways to write the members of an object that has some. -/
inductive SpellsMembers : List (String × Value) → List Char → Prop
  | last {k : String} {v : Value} {b r m n t a : List Char} : IsBlank b → SpellsChars k.toList r →
      IsBlank m → IsBlank n → SpellsValue v t → IsBlank a →
      SpellsMembers [(k, v)] (b ++ '"' :: (r ++ '"' :: (m ++ ':' :: (n ++ (t ++ a)))))
  | cons {k : String} {v : Value} {ms : List (String × Value)} {b r m n t a u : List Char} :
      IsBlank b → SpellsChars k.toList r → IsBlank m → IsBlank n → SpellsValue v t → IsBlank a →
      SpellsMembers ms u →
      SpellsMembers ((k, v) :: ms)
        (b ++ '"' :: (r ++ '"' :: (m ++ ':' :: (n ++ (t ++ (a ++ ',' :: u))))))

end

/-- The ways to write a value as a whole text. -/
def Spells (v : Value) (s : List Char) : Prop :=
  ∃ b t a, IsBlank b ∧ SpellsValue v t ∧ IsBlank a ∧ s = b ++ (t ++ a)

end CommitLint.Json
