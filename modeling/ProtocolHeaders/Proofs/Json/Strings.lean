import ProtocolHeaders.Json.Scan
import ProtocolHeaders.Json.Writer

/-!
# Strings are scanned as they were written

A string escapes what must not stand inside it, and a scanner takes each escape for the
character that it stands for. So scanning undoes writing, whatever the characters are.
-/

namespace ProtocolHeaders.Json

/-- A written digit is neither a quote nor a backslash. -/
theorem hexDigit_ne_quote_backslash :
    ∀ value < 16, Text.hexDigit value ≠ '"' ∧ Text.hexDigit value ≠ '\\' := by
  decide

/-- A control character is scanned from its code. -/
theorem scanEscape_code {c : Char} (isControl : c.toNat < 0x20) (rest : List Char) :
    scanEscape (['u', '0', '0', Text.hexDigit (c.toNat / 16), Text.hexDigit (c.toNat % 16)] ++
      rest) = .ok (c, rest) := by
  have high := Text.hexValue?_hexDigit (c.toNat / 16) (by omega)
  have low := Text.hexValue?_hexDigit (c.toNat % 16) (by omega)
  have zero : Text.hexValue? '0' = some 0 := by decide
  have scanned : scanHex (['0', '0', Text.hexDigit (c.toNat / 16), Text.hexDigit (c.toNat % 16)] ++
      rest) = .ok (c.toNat, rest) := by
    simp only [List.cons_append, List.nil_append, scanHex, zero, high, low]
    congr 2
    omega
  have notLow : isLowSurrogate c.toNat = false := by
    simp [isLowSurrogate]
    omega
  have notHigh : isHighSurrogate c.toNat = false := by
    simp [isHighSurrogate]
    omega
  change scanCode (['0', '0', Text.hexDigit (c.toNat / 16), Text.hexDigit (c.toNat % 16)] ++
    rest) = _
  rw [scanCode, scanned]
  simp [notLow, notHigh, Char.ofNat_toNat]

/-- A character is written as an escape that is scanned as the character, or as itself. -/
theorem escapeChar_cases (c : Char) :
    (∃ letter code, escapeChar c = '\\' :: letter :: code ∧
      (∀ digit ∈ code, digit ≠ '"' ∧ digit ≠ '\\') ∧
      ∀ rest, scanEscape (letter :: code ++ rest) = .ok (c, rest)) ∨
    (escapeChar c = [c] ∧ c ≠ '"' ∧ c ≠ '\\' ∧ 0x20 ≤ c.toNat) := by
  by_cases lettered : c ∈ ['"', '\\', '\x08', '\x0c', '\n', '\r', '\t']
  · simp only [List.mem_cons, List.not_mem_nil, or_false] at lettered
    left
    rcases lettered with rfl | rfl | rfl | rfl | rfl | rfl | rfl
    all_goals exact ⟨_, [], rfl, nofun, fun _ => rfl⟩
  simp only [List.mem_cons, List.not_mem_nil, or_false, not_or] at lettered
  obtain ⟨notQuote, notBackslash, notBackspace, notFeed, notNewline, notReturn, notTab⟩ := lettered
  rw [escapeChar, if_neg notQuote, if_neg notBackslash, if_neg notBackspace, if_neg notFeed,
    if_neg notNewline, if_neg notReturn, if_neg notTab]
  by_cases isControl : c.toNat < 0x20
  · left
    have high := hexDigit_ne_quote_backslash (c.toNat / 16) (by omega)
    have low := hexDigit_ne_quote_backslash (c.toNat % 16) (by omega)
    refine ⟨_, _, if_pos isControl, ?_, scanEscape_code isControl⟩
    intro digit member
    simp only [List.mem_cons, List.not_mem_nil, or_false] at member
    rcases member with rfl | rfl | rfl | rfl
    · decide
    · decide
    · exact high
    · exact low
  · exact .inr ⟨if_neg isControl, notQuote, notBackslash, Nat.le_of_not_lt isControl⟩

theorem scanString_escape {c : Char} {text afterEscape value rest : List Char}
    (escape : scanEscape text = .ok (c, afterEscape))
    (scanned : scanString afterEscape = .ok (value, rest)) :
    scanString ('\\' :: text) = .ok (c :: value, rest) := by
  rw [scanString, if_neg (by decide), if_pos rfl]
  split
  · rename_i fault failed
    rw [escape] at failed
    cases failed
  · rename_i escaped left found
    rw [escape] at found
    cases found
    rw [scanned]
    rfl

theorem scanString_plain {c : Char} {text value rest : List Char} (notQuote : c ≠ '"')
    (notBackslash : c ≠ '\\') (notControl : 0x20 ≤ c.toNat)
    (scanned : scanString text = .ok (value, rest)) :
    scanString (c :: text) = .ok (c :: value, rest) := by
  rw [scanString, if_neg notQuote, if_neg notBackslash, if_neg (Nat.not_lt_of_le notControl),
    scanned]
  rfl

/-- Characters are scanned as they were written, up to the closing quote. -/
theorem scanString_flatMap_escapeChar (value rest : List Char) :
    scanString (value.flatMap escapeChar ++ '"' :: rest) = .ok (value, rest) := by
  induction value with
  | nil =>
      rw [List.flatMap_nil, List.nil_append, scanString, if_pos rfl]
  | cons c others inductionHypothesis =>
      rw [List.flatMap_cons, List.append_assoc]
      rcases escapeChar_cases c with ⟨letter, code, written, -, scanned⟩ |
        ⟨written, notQuote, notBackslash, notControl⟩
      · rw [written]
        exact scanString_escape (scanned _) inductionHypothesis
      · rw [written]
        exact scanString_plain notQuote notBackslash notControl inductionHypothesis

/-- What a string and the text behind it look like from behind the opening quote. -/
theorem writeString_append (value : String) (rest : List Char) :
    writeString value ++ rest = '"' :: (value.toList.flatMap escapeChar ++ '"' :: rest) := by
  simp [writeString]

end ProtocolHeaders.Json
