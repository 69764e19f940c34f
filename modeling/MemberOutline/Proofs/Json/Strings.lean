import MemberOutline.Json.Pretty
import MemberOutline.Json.Reader
import Mathlib.Tactic.SplitIfs

/-!
# Strings in JSON

Every string is read back from the way it is written (`readChars_stringText`), character by
character: a quote, a backslash or a control from its escape, all others from themselves.
-/

namespace MemberOutline.Json

variable {c : Char} {t : Text}

/-- The two digits of a control write its code. -/
theorem hexValue?_of_lt {n : Nat} (h : n < 0x20) :
    Text.hexValue? ['0', '0', Text.hexDigit (n / 16), Text.hexDigit (n % 16)] = some n := by
  have hall : ∀ n < 0x20,
      Text.hexValue? ['0', '0', Text.hexDigit (n / 16), Text.hexDigit (n % 16)] = some n := by
    decide
  exact hall n h

/-- A character is read from a backslash and its letter. -/
theorem readChars_short {e x : Char} (hletter : e ≠ 'u') (h : shortEscape? e = some x)
    (t : Text) : readChars ('\\' :: e :: t) = addChar x (readChars t) := by
  rw [readChars.eq_def]
  simp only [if_neg hletter, h]
  rfl

/-- A control is read from its code. -/
theorem readChars_code (h : c.toNat < 0x20) (t : Text) :
    readChars ('\\' :: 'u' :: '0' :: '0' :: Text.hexDigit (c.toNat / 16) ::
      Text.hexDigit (c.toNat % 16) :: t) = addChar c (readChars t) := by
  have hcode := hexValue?_of_lt h
  have hhigh : ¬ (0xD800 ≤ c.toNat ∧ c.toNat < 0xDC00) := by omega
  have hlow : ¬ (0xDC00 ≤ c.toNat ∧ c.toNat < 0xE000) := by omega
  rw [readChars.eq_def]
  simp only [hcode, if_neg hhigh, if_neg hlow, Char.ofNat_toNat]
  rfl

/-- A character other than a quote, a backslash and a control is read from itself. -/
theorem readChars_plain (hquote : c ≠ '\x22') (hescape : c ≠ '\\') (h : ¬ c.toNat < 0x20)
    (t : Text) : readChars (c :: t) = addChar c (readChars t) := by
  rw [readChars.eq_def]
  simp only [if_neg hquote, if_neg hescape, if_neg h]

/-- A character is read from the way it is written. -/
theorem readChars_escapedChar (c : Char) (t : Text) :
    readChars (escapedChar c ++ t) = addChar c (readChars t) := by
  unfold escapedChar
  split_ifs with hquote hescape hbackspace htab hnewLine hfeed hreturn hcontrol
  · subst hquote
    exact readChars_short (by decide) rfl t
  · subst hescape
    exact readChars_short (by decide) rfl t
  · subst hbackspace
    exact readChars_short (by decide) rfl t
  · subst htab
    exact readChars_short (by decide) rfl t
  · subst hnewLine
    exact readChars_short (by decide) rfl t
  · subst hfeed
    exact readChars_short (by decide) rfl t
  · subst hreturn
    exact readChars_short (by decide) rfl t
  · exact readChars_code hcontrol t
  · exact readChars_plain hquote hescape hcontrol t

/-- A string is read from the way it is written, up to its closing quote. -/
theorem readChars_stringText (s rest : Text) :
    readChars (s.flatMap escapedChar ++ '\x22' :: rest) = some (s, rest) := by
  induction s with
  | nil =>
    rw [List.flatMap_nil, List.nil_append, readChars.eq_def]
    rfl
  | cons c s ih =>
    rw [List.flatMap_cons, List.append_assoc, readChars_escapedChar, ih]
    rfl

/-- A quote, a backslash, a new line, another control and a character beyond ASCII. -/
example : stringText "\x22\\\n\x01é".toList = "\x22\\\x22\\\\\\n\\u0001é\x22".toList := by
  decide

end MemberOutline.Json
