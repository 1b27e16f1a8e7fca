import Argumentation.Json.Reader
import Argumentation.Json.Writer
import Mathlib.Tactic.SplitIfs

/-!
# JSON texts read back

Every character of a text is written as itself or behind a backslash, and read back as the one
piece that it is (`readPieces?_escapeChar`).  So a text between quotes is read back as it is, and
what stands behind the closing quote is left (`readText?_flatMap`).
-/

namespace Argumentation.Json

/-! ## Single characters -/

theorem hexValue?_hexDigit {n : Nat} (h : n < 16) : hexValue? (hexDigit n) = some n := by
  have hall : ∀ n < 16, hexValue? (hexDigit n) = some n := by decide
  exact hall n h

/-- A control is read back from its four hexadecimal digits. -/
theorem ofUnit_codeUnit {c : Char} (h : c.toNat < 32) :
    (codeUnit? '0' '0' (hexDigit (c.toNat / 16)) (hexDigit (c.toNat % 16))).map Piece.ofUnit =
      some (.char c) := by
  have hzero : hexValue? '0' = some 0 := rfl
  have hhigh := hexValue?_hexDigit (n := c.toNat / 16) (by omega)
  have hlow := hexValue?_hexDigit (n := c.toNat % 16) (by omega)
  have hsum : 16 * (c.toNat / 16) + c.toNat % 16 = c.toNat := Nat.div_add_mod c.toNat 16
  have hunit : codeUnit? '0' '0' (hexDigit (c.toNat / 16)) (hexDigit (c.toNat % 16)) =
      some c.toNat := by
    simp only [codeUnit?, hzero, hhigh, hlow, Option.bind_eq_bind, Option.bind_some, Nat.mul_zero,
      Nat.zero_add, hsum]
  have hplain : ¬(0xD800 ≤ c.toNat ∧ c.toNat ≤ 0xDFFF) := by omega
  rw [hunit, Option.map_some, Piece.ofUnit, if_neg hplain, Char.ofNat_toNat]

/-! ## Pieces in front of others -/

section Pieces

variable (cs : List Char)

/-- A piece in front of what is read. -/
def inFront (p : Piece) (r : List Piece × List Char) : List Piece × List Char := (p :: r.1, r.2)

theorem readPieces?_escaped {c e : Char} (h : escaped? c = some e) :
    readPieces? ('\\' :: c :: cs) = (readPieces? cs).map (inFront (.char e)) := by
  rw [readPieces?.eq_def]
  split
  · next heq => cases heq
  · next heq => exact absurd (List.cons.inj heq).1 (by decide)
  · next heq =>
    simp only [List.cons.injEq] at heq
    obtain ⟨-, rfl, -⟩ := heq
    cases h
  · next heq =>
    simp only [List.cons.injEq] at heq
    obtain ⟨-, rfl, rfl⟩ := heq
    rw [h]
    cases readPieces? cs <;> rfl
  · next hescaped heq =>
    simp only [List.cons.injEq] at heq
    exact absurd heq.2.symm (hescaped c cs heq.1.symm)

theorem readPieces?_unit {a b c d : Char} {n : Nat} (h : codeUnit? a b c d = some n) :
    readPieces? ('\\' :: 'u' :: a :: b :: c :: d :: cs) =
      (readPieces? cs).map (inFront (.ofUnit n)) := by
  rw [readPieces?, h]
  cases readPieces? cs <;> rfl

theorem readPieces?_plain {c : Char} (hcontrol : ¬c.toNat < 32) (hquote : c ≠ '"')
    (hslash : c ≠ '\\') :
    readPieces? (c :: cs) = (readPieces? cs).map (inFront (.char c)) := by
  have hplain : ¬(c.toNat < 32 ∨ c = '\\') := not_or.2 ⟨hcontrol, hslash⟩
  rw [readPieces?.eq_def]
  split
  · next heq => cases heq
  · next heq => exact absurd (List.cons.inj heq).1 hquote
  · next heq => exact absurd (List.cons.inj heq).1 hslash
  · next heq => exact absurd (List.cons.inj heq).1 hslash
  · next heq =>
    simp only [List.cons.injEq] at heq
    obtain ⟨rfl, rfl⟩ := heq
    rw [if_neg hplain]
    cases readPieces? cs <;> rfl

/-- An escaped character is read back as the character. -/
theorem readPieces?_escapeChar (c : Char) :
    readPieces? (escapeChar c ++ cs) = (readPieces? cs).map (inFront (.char c)) := by
  unfold escapeChar
  split_ifs with hquote hslash hline hreturn htab hback hfeed hcontrol
  · exact readPieces?_escaped cs (by rw [hquote]; rfl)
  · exact readPieces?_escaped cs (by rw [hslash]; rfl)
  · exact readPieces?_escaped cs (by rw [hline]; rfl)
  · exact readPieces?_escaped cs (by rw [hreturn]; rfl)
  · exact readPieces?_escaped cs (by rw [htab]; rfl)
  · exact readPieces?_escaped cs (by rw [hback]; rfl)
  · exact readPieces?_escaped cs (by rw [hfeed]; rfl)
  · obtain ⟨n, hunit, hpiece⟩ := Option.map_eq_some_iff.1 (ofUnit_codeUnit hcontrol)
    rw [← hpiece]
    exact readPieces?_unit cs hunit
  · exact readPieces?_plain cs hcontrol hquote hslash

theorem readPieces?_flatMap (s : List Char) :
    readPieces? (s.flatMap escapeChar ++ '"' :: cs) = some (s.map .char, cs) := by
  induction s with
  | nil => rw [List.flatMap_nil, List.nil_append, readPieces?, List.map_nil]
  | cons c s ih =>
    rw [List.flatMap_cons, List.append_assoc, readPieces?_escapeChar, ih]
    rfl

theorem joinPieces?_map_char (s : List Char) : joinPieces? (s.map .char) = some s := by
  induction s with
  | nil => rfl
  | cons c s ih => rw [List.map_cons, joinPieces?, ih, Option.map_some]

theorem textChars_append (s : String) :
    textChars s ++ cs = '"' :: (s.toList.flatMap escapeChar ++ '"' :: cs) := by
  simp only [textChars, List.cons_append, List.append_assoc, List.nil_append]

/-- A text whose opening quote has been read is read back, and what stands behind it is left. -/
theorem readText?_flatMap (s : String) :
    readText? (s.toList.flatMap escapeChar ++ '"' :: cs) = some (some s, cs) := by
  simp only [readText?, readPieces?_flatMap, Option.bind_eq_bind, Option.bind_some,
    joinPieces?_map_char, Option.map_some, String.ofList_toList]

end Pieces

end Argumentation.Json
