import Mathlib.Tactic.SplitIfs
import RelSchema.Json.Basic
import RelSchema.Json.Reader

namespace RelSchema

namespace Text

theorem hexValue?_hexDigit {n : Nat} (h : n < 16) : hexValue? (hexDigit n) = some n := by
  have all : ∀ k < 16, hexValue? (hexDigit k) = some k := by decide
  exact all n h

end Text

namespace Json

theorem unit?_hex {n : Nat} (h : n < 0x10000) :
    unit? (Text.hexDigit (n / 16 / 16 / 16 % 16)) (Text.hexDigit (n / 16 / 16 % 16))
      (Text.hexDigit (n / 16 % 16)) (Text.hexDigit (n % 16)) = some n := by
  have small (k : Nat) : Text.hexValue? (Text.hexDigit (k % 16)) = some (k % 16) :=
    Text.hexValue?_hexDigit (Nat.mod_lt k (by decide))
  simp only [unit?, small, Option.bind_eq_bind, Option.bind_some]
  congr 1
  omega

theorem toNat_scalar (c : Char) :
    c.toNat < 0xD800 ∨ 0xDFFF < c.toNat ∧ c.toNat < 0x110000 := c.valid

def partsOf (c : Char) : List StringPart :=
  if c.toNat = 8 ∨ c.toNat = 9 ∨ c.toNat = 10 ∨ c.toNat = 12 ∨ c.toNat = 13 ∨
      32 ≤ c.toNat ∧ c.toNat < 127 then [.plain c]
  else if c.toNat < 0x10000 then [.unit c.toNat]
  else [.unit (0xD800 + (c.toNat - 0x10000) / 1024), .unit (0xDC00 + (c.toNat - 0x10000) % 1024)]

def prepend (parts : List StringPart) (r : Except SyntaxError (List StringPart × List Char)) :
    Except SyntaxError (List StringPart × List Char) :=
  r.map fun (more, rest) => (parts ++ more, rest)

theorem prepend_append (first second : List StringPart)
    (r : Except SyntaxError (List StringPart × List Char)) :
    prepend first (prepend second r) = prepend (first ++ second) r := by
  cases r <;> simp [prepend, Except.map]

theorem readParts_unicodeEscape (opening : List Char) {n : Nat} (h : n < 0x10000)
    {after : List Char} (more : after ≠ []) :
    readParts opening (unicodeEscape n ++ after) =
      prepend [.unit n] (readParts opening after) := by
  have digits : unicodeEscape n ++ after = '\\' :: 'u' :: Text.hexDigit (n / 16 / 16 / 16 % 16) ::
      Text.hexDigit (n / 16 / 16 % 16) :: Text.hexDigit (n / 16 % 16) :: Text.hexDigit (n % 16) ::
        after := by
    simp [unicodeEscape, Text.hex]
  have some : after.isEmpty = false := by simpa using more
  rw [digits, readParts]
  simp only [some, unit?_hex h]
  rfl

theorem readParts_simpleEscape (opening after : List Char) {e plain : Char}
    (known : simpleEscape? e = some plain) :
    readParts opening ('\\' :: e :: after) = prepend [.plain plain] (readParts opening after) := by
  rw [readParts.eq_def]
  simp only [known, Char.reduceEq, ↓reduceIte]
  rfl

theorem readParts_plain (opening after : List Char) {c : Char} (quote : c ≠ '"')
    (backslash : c ≠ '\\') (printed : 32 ≤ c.toNat) :
    readParts opening (c :: after) = prepend [.plain c] (readParts opening after) := by
  have clear : ¬ c.toNat < 32 := by omega
  rw [readParts.eq_def]
  simp only [quote, backslash, clear, ↓reduceIte]
  rfl

theorem readParts_escapeChar (opening : List Char) (c : Char) {after : List Char}
    (more : after ≠ []) :
    readParts opening (escapeChar c ++ after) = prepend (partsOf c) (readParts opening after) := by
  unfold escapeChar
  split_ifs with quote backslash newline carriage tab backspace formFeed printed basic
  · subst quote
    exact readParts_simpleEscape opening after rfl
  · subst backslash
    exact readParts_simpleEscape opening after rfl
  · subst newline
    exact readParts_simpleEscape opening after rfl
  · subst carriage
    exact readParts_simpleEscape opening after rfl
  · subst tab
    exact readParts_simpleEscape opening after rfl
  · obtain rfl : c = Char.ofNat 8 := by rw [← backspace, Char.ofNat_toNat]
    exact readParts_simpleEscape opening after rfl
  · obtain rfl : c = Char.ofNat 12 := by rw [← formFeed, Char.ofNat_toNat]
    exact readParts_simpleEscape opening after rfl
  · have parts : partsOf c = [.plain c] := by
      unfold partsOf
      rw [if_pos (by omega)]
    rw [parts]
    exact readParts_plain opening after quote backslash printed.1
  · have parts : partsOf c = [.unit c.toNat] := by
      have other (d : Char) (different : c ≠ d) : c.toNat ≠ d.toNat :=
        fun same => different (Char.toNat_inj.mp same)
      have tab := other _ tab
      have newline := other _ newline
      have carriage := other _ carriage
      simp only [Char.reduceToNat] at tab newline carriage
      unfold partsOf
      rw [if_neg (by omega), if_pos basic]
    rw [parts]
    exact readParts_unicodeEscape opening basic more
  · have scalar := toNat_scalar c
    have parts : partsOf c = [.unit (0xD800 + (c.toNat - 0x10000) / 1024)] ++
        [.unit (0xDC00 + (c.toNat - 0x10000) % 1024)] := by
      unfold partsOf
      rw [if_neg (by omega), if_neg basic]
      rfl
    have second : unicodeEscape (0xDC00 + (c.toNat - 0x10000) % 1024) ++ after ≠ [] := by
      simp [unicodeEscape]
    rw [parts, ← prepend_append, List.append_assoc,
      readParts_unicodeEscape opening (by omega) second,
      readParts_unicodeEscape opening (by omega) more]

theorem readParts_escaped (opening rest : List Char) (text : List Char) :
    readParts opening (text.flatMap escapeChar ++ '"' :: rest) =
      .ok (text.flatMap partsOf, rest) := by
  induction text with
  | nil =>
    rw [readParts.eq_def]
    rfl
  | cons c text ih =>
    have more : text.flatMap escapeChar ++ '"' :: rest ≠ [] := by simp
    rw [List.flatMap_cons, List.append_assoc, readParts_escapeChar opening c more, ih]
    rfl

theorem joinParts_unit {code : Nat} (basic : isHighSurrogate code = false)
    (rest : List StringPart) :
    joinParts (.unit code :: rest) = charOfUnit code :: joinParts rest := by
  cases rest with
  | nil => rfl
  | cons part rest =>
    cases part with
    | plain c => rfl
    | unit low => simp [joinParts, basic]

theorem joinParts_pair {high low : Nat} (first : isHighSurrogate high = true)
    (second : isLowSurrogate low = true) (rest : List StringPart) :
    joinParts (.unit high :: .unit low :: rest) = joinSurrogates high low :: joinParts rest := by
  simp [joinParts, first, second]

theorem joinParts_partsOf (c : Char) (rest : List StringPart) :
    joinParts (partsOf c ++ rest) = c :: joinParts rest := by
  have scalar := toNat_scalar c
  unfold partsOf
  split_ifs with plain basic
  · rfl
  · have high : isHighSurrogate c.toNat = false := by
      simp only [isHighSurrogate, Bool.and_eq_false_iff, decide_eq_false_iff_not]
      omega
    have low : isLowSurrogate c.toNat = false := by
      simp only [isLowSurrogate, Bool.and_eq_false_iff, decide_eq_false_iff_not]
      omega
    rw [List.singleton_append, joinParts_unit high, charOfUnit, high, low]
    simp
  · have first : isHighSurrogate (0xD800 + (c.toNat - 0x10000) / 1024) = true := by
      simp only [isHighSurrogate, Bool.and_eq_true, decide_eq_true_eq]
      omega
    have second : isLowSurrogate (0xDC00 + (c.toNat - 0x10000) % 1024) = true := by
      simp only [isLowSurrogate, Bool.and_eq_true, decide_eq_true_eq]
      omega
    have whole : 0x10000 + (0xD800 + (c.toNat - 0x10000) / 1024 - 0xD800) * 1024 +
        (0xDC00 + (c.toNat - 0x10000) % 1024 - 0xDC00) = c.toNat := by omega
    change joinParts (.unit _ :: .unit _ :: rest) = _
    rw [joinParts_pair first second, joinSurrogates, whole, Char.ofNat_toNat]

theorem joinParts_flatMap (text : List Char) : joinParts (text.flatMap partsOf) = text := by
  induction text with
  | nil => rfl
  | cons c text ih => rw [List.flatMap_cons, joinParts_partsOf, ih]

theorem readString_stringChars (opening rest : List Char) (text : String) :
    readString opening (text.toList.flatMap escapeChar ++ '"' :: rest) = .ok (text, rest) := by
  rw [readString, readParts_escaped]
  simp [Except.map, joinParts_flatMap]

end Json

end RelSchema
