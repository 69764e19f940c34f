import MemberOutline.Proofs.Literal.CodeView
import MemberOutline.Proofs.Literal.Opening

/-!
# A text with its literals blanked out

`blanked` puts one space in place of each literal of a text that is in no other literal, as a walk
from the start finds them, and keeps the code. The code remains code (`step_blanked`): a space
begins no literal, and where a character of code is followed by code, that is what follows it in the
blanked text.
-/

namespace MemberOutline.Literal

open Text (isIdentifierChar)

/-- A text with a space in place of each literal that opens where no other is open, if its first
`covered` characters belong to the step before. -/
def blankedFrom (stack : Stack) (covered : Nat) (seen : Text) : Text → Text
  | [] => []
  | c :: rest =>
    match covered with
    | covered + 1 => blankedFrom stack covered (c :: seen) rest
    | 0 =>
      match step stack seen.head? c rest with
      | (.code, next) => c :: blankedFrom next 0 (c :: seen) rest
      | (.consumed width, next) =>
        let space := if stack = [] then [' '] else []
        space ++ blankedFrom next (width - 1) (c :: seen) rest

/-- A text with a space in place of each literal. -/
def blanked (t : Text) : Text := blankedFrom [] 0 [] t

variable {stack next : Stack} {seen rest more after : Text} {before before' : Option Char}
  {c d : Char}

/-! ## What a step adds -/

/-- The characters that a step covers are left out. -/
theorem blankedFrom_covered (stack : Stack) (seen more after : Text) :
    blankedFrom stack more.length seen (more ++ after) =
      blankedFrom stack 0 (more.reverse ++ seen) after := by
  induction more generalizing seen with
  | nil => rfl
  | cons c more ih =>
    rw [List.cons_append, List.length_cons, blankedFrom, ih]
    simp

/-- Nothing is left of a text when a step covers all of its characters, or more than there are. -/
theorem blankedFrom_beyond (stack : Stack) (k : Nat) (seen t : Text) (h : t.length ≤ k) :
    blankedFrom stack k seen t = [] := by
  induction t generalizing k seen with
  | nil => rfl
  | cons c rest ih =>
    cases k with
    | zero => simp at h
    | succ k => rw [blankedFrom, ih k _ (Nat.le_of_succ_le_succ h)]

/-- A code character is kept. -/
theorem blankedFrom_code (h : step stack seen.head? c rest = (.code, next)) :
    blankedFrom stack 0 seen (c :: rest) = c :: blankedFrom next 0 (c :: seen) rest := by
  rw [blankedFrom, h]

/-- A part of a literal is left out, but where the literal opens there is a space. -/
theorem blankedFrom_consumed {width : Nat}
    (h : step stack seen.head? c (more ++ after) = (.consumed width, next))
    (covers : (more ++ after).take (width - 1) = more) :
    blankedFrom stack 0 seen (c :: (more ++ after)) =
      (if stack = [] then [' '] else []) ++
        blankedFrom next 0 (more.reverse ++ c :: seen) after := by
  rw [blankedFrom, h]
  simp only [List.append_cancel_left_eq]
  cases after with
  | nil =>
    -- Where the text ends, the step may answer more characters than are left.
    rw [List.append_nil] at covers ⊢
    rw [blankedFrom_beyond _ _ _ _ (List.take_eq_self_iff more |>.1 covers), blankedFrom]
  | cons d after =>
    rw [Text.Path.width_eq covers (List.cons_ne_nil d after), blankedFrom_covered]

/-! ## What follows code -/

/-- A blanked text begins with a space or with what the text itself begins with. -/
theorem head?_blankedFrom (h : d ∈ (blankedFrom [] 0 seen rest).head?) :
    d = ' ' ∨ rest.head? = some d := by
  cases rest with
  | nil => simp [blankedFrom] at h
  | cons c rest =>
    rw [blankedFrom] at h
    split at h
    next next hcode =>
      right
      simpa using h
    next width next hconsumed =>
      left
      simpa [eq_comm] using h

/-- Where a text begins with a character that opens no literal, the blanked text does so too. -/
theorem head?_blankedFrom_of_code (hd : d ∉ ['\x27', '\x22', '/', 'r', 'R'])
    (h : rest.head? = some d) : (blankedFrom [] 0 seen rest).head? = some d := by
  obtain ⟨rest, rfl⟩ := List.head?_eq_some_iff.1 h
  rw [blankedFrom_code (step_of_not_mem hd)]
  rfl

/-- A character that opens no literal opens none either before a text that begins with a space or
with the same character as the text after it. -/
theorem opening?_eq_none_of_head? (hbefore : before.any isIdentifierChar =
    before'.any isIdentifierChar) (h : opening? before c rest = none)
    (hhead : ∀ d ∈ after.head?, d = ' ' ∨ rest.head? = some d) :
    opening? before' c after = none := by
  rw [opening?_eq_none_iff] at h ⊢
  obtain ⟨hquote, hcomment, hraw⟩ := h
  have hsame (d : Char) (hd : after.head? = some d) (hspace : d ≠ ' ') : rest.head? = some d :=
    (hhead d hd).resolve_left hspace
  refine ⟨hquote, ?_, ?_⟩
  · rintro ⟨hc, hslash | hstar⟩
    · exact hcomment ⟨hc, .inl (hsame '/' hslash (by decide))⟩
    · exact hcomment ⟨hc, .inr (hsame '*' hstar (by decide))⟩
  · rintro ⟨hc, hbefore', hq⟩
    obtain ⟨q, hq⟩ := Option.isSome_iff_exists.1 hq
    obtain ⟨d, hd, hdq⟩ := Option.bind_eq_some_iff.1 hq
    have hspace : d ≠ ' ' := by
      rintro rfl
      cases hdq
    refine hraw ⟨hc, hbefore.trans hbefore', ?_⟩
    rw [hsame d hd hspace, Option.bind_some, hdq]
    rfl

/-- Code remains code in a blanked text. -/
theorem step_blanked (hbefore : before.any isIdentifierChar = before'.any isIdentifierChar)
    (h : step [] before c rest = (.code, [])) :
    step [] before' c (blankedFrom [] 0 seen rest) = (.code, []) := by
  have hnone : opening? before c rest = none := by
    cases ho : opening? before c rest with
    | none => rfl
    | some o => simp [step, ho] at h
  have hnone' : opening? before' c (blankedFrom [] 0 seen rest) = none :=
    opening?_eq_none_of_head? hbefore hnone fun _ hd => head?_blankedFrom hd
  simp only [step, hnone']

end MemberOutline.Literal
