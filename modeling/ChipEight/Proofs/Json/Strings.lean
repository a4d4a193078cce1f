import ChipEight.Json.Reader
import ChipEight.Json.Writer

/-!
# Strings that are written and read back

The writer escapes a character beyond U+FFFF as two units, each half of a surrogate pair.  The
reader takes every unit for a code point of its own at first and joins the pairs in the end.  So a
string comes back whenever no pair was left unjoined in it, which is always so if it holds no
halves.
-/

namespace ChipEight

namespace CodePoint

/-- The code points of the units that a code point is written in. -/
def units : CodePoint → List CodePoint
  | .char c =>
      if c.toNat < 0x10000 then [.char c]
      else
        [ofUnit (0xd800 + (c.toNat - 0x10000) / 0x400),
          ofUnit (0xdc00 + (c.toNat - 0x10000) % 0x400)]
  | half => [half]

theorem ofUnit_high {bits : Nat} (below : bits < 1024) :
    ofUnit (0xd800 + bits) = .high ⟨bits, below⟩ := by
  rw [ofUnit, if_pos (by omega), halfBits]
  congr 2
  omega

theorem ofUnit_low {bits : Nat} (below : bits < 1024) :
    ofUnit (0xdc00 + bits) = .low ⟨bits, below⟩ := by
  rw [ofUnit, if_neg (by omega), if_pos (by omega), halfBits]
  congr 2
  omega

theorem ofUnit_toNat (c : Char) : ofUnit c.toNat = .char c := by
  have valid : c.toNat < 0xd800 ∨ 0xdfff < c.toNat ∧ c.toNat < 0x110000 := c.valid
  rw [ofUnit, if_neg (by omega), if_neg (by omega), Char.ofNat_toNat]

/-- The two halves of a character beyond U+FFFF are joined again. -/
theorem joinPairs_units_append (point : CodePoint) (rest : List CodePoint) :
    joinPairs (point.units ++ rest) = pairWith point (joinPairs rest) := by
  cases point with
  | char c =>
      rw [units]
      split
      · rfl
      · rename_i beyond
        have valid : c.toNat < 0xd800 ∨ 0xdfff < c.toNat ∧ c.toNat < 0x110000 := c.valid
        rw [ofUnit_high (by omega), ofUnit_low (by omega)]
        change ofPair _ _ :: joinPairs rest = .char c :: joinPairs rest
        rw [ofPair]
        have number : 0x10000 + 1024 * ((c.toNat - 0x10000) / 0x400) +
            (c.toNat - 0x10000) % 0x400 = c.toNat := by
          omega
        rw [number, Char.ofNat_toNat]
  | high bits => rfl
  | low bits => rfl

theorem joinPairs_units (points : List CodePoint) :
    joinPairs (points.flatMap units) = joinPairs points := by
  induction points with
  | nil => rfl
  | cons point rest ih => rw [List.flatMap_cons, joinPairs_units_append, ih, joinPairs]

end CodePoint

namespace Text

/-- The halves of every surrogate pair in the text are joined. -/
def Joined (text : Text) : Prop :=
  CodePoint.joinPairs text.points = text.points

instance (text : Text) : Decidable text.Joined :=
  inferInstanceAs (Decidable (_ = _))

theorem joined_ofChars (chars : List Char) : (ofChars chars).Joined := by
  induction chars with
  | nil => rfl
  | cons c rest ih => exact congrArg (CodePoint.char c :: ·) ih

end Text

namespace Json

theorem value?_digitChar {digit : Nat} (below : digit < 16) :
    Hexadecimal.value? (Nat.digitChar digit) = some digit := by
  have each : ∀ digit : Fin 16, Hexadecimal.value? (Nat.digitChar digit) = some digit.val := by
    decide
  exact each ⟨digit, below⟩

/-- Padded digits split like digits do: the last one, and before it those of the quotient. -/
theorem padLeft_toDigits_succ (width n : Nat) :
    Hexadecimal.padLeft (width + 2) (Nat.toDigits 16 n) =
      Hexadecimal.padLeft (width + 1) (Nat.toDigits 16 (n / 16)) ++ [Nat.digitChar (n % 16)] := by
  unfold Hexadecimal.padLeft
  by_cases single : n < 16
  · rw [Nat.toDigits_of_lt_base single, Nat.div_eq_of_lt single, Nat.toDigits_zero,
      Nat.mod_eq_of_lt single]
    simp only [List.length_singleton, Nat.add_sub_cancel, ← List.replicate_succ']
    rfl
  · have widths : width + 2 - ((Nat.toDigits 16 (n / 16)).length + 1) =
        width + 1 - (Nat.toDigits 16 (n / 16)).length := by
      omega
    rw [Nat.toDigits_of_base_le (by decide) (Nat.le_of_not_lt single), List.length_append,
      List.length_singleton, widths, List.append_assoc]

/-- The four digits of a unit. -/
theorem padLeft_toDigits {unit : Nat} (below : unit < 65536) :
    Hexadecimal.padLeft 4 (Nat.toDigits 16 unit) =
      [Nat.digitChar (unit / 4096), Nat.digitChar (unit / 256 % 16),
        Nat.digitChar (unit / 16 % 16), Nat.digitChar (unit % 16)] := by
  have second : unit / 16 / 16 = unit / 256 := by omega
  have first : unit / 256 / 16 = unit / 4096 := by omega
  rw [padLeft_toDigits_succ, padLeft_toDigits_succ, padLeft_toDigits_succ, second, first,
    Nat.toDigits_of_lt_base (by omega)]
  rfl

theorem readPoints_unitEscape {unit : Nat} (below : unit < 65536) (opening : Nat) {rest : List Char}
    (more : rest ≠ []) :
    readPoints opening (unitEscape unit ++ rest) =
      consPoint (CodePoint.ofUnit unit) (readPoints opening rest) := by
  have value : unit? (Nat.digitChar (unit / 4096)) (Nat.digitChar (unit / 256 % 16))
      (Nat.digitChar (unit / 16 % 16)) (Nat.digitChar (unit % 16)) = some unit := by
    rw [unit?, value?_digitChar (by omega), value?_digitChar (by omega),
      value?_digitChar (by omega), value?_digitChar (by omega)]
    exact congrArg some (by omega)
  rw [unitEscape, padLeft_toDigits below]
  simp only [List.cons_append, List.nil_append, readPoints, value,
    List.isEmpty_eq_false_iff.mpr more, Bool.false_eq_true, if_false]

theorem readPoints_shortEscape (opening : Nat) {letter plain : Char} {rest : List Char}
    (other : letter ≠ 'u') (short : shortEscape? letter = some plain) :
    readPoints opening ('\\' :: letter :: rest) =
      consPoint (.char plain) (readPoints opening rest) := by
  rw [readPoints]
  · rw [short]
  · intro _ _ _ _ _ same
    exact absurd same other
  · exact other

theorem readPoints_char (opening : Nat) {c : Char} {rest : List Char} (printable : 0x20 ≤ c.toNat)
    (quote : c ≠ '"') (backslash : c ≠ '\\') :
    readPoints opening (c :: rest) = consPoint (.char c) (readPoints opening rest) := by
  rw [readPoints, if_neg (Nat.not_lt.mpr printable)]
  · exact quote
  all_goals intros; contradiction

/-- A character that documents are written in, besides the new line. -/
def Printable (c : Char) : Prop :=
  0x20 ≤ c.toNat ∧ c.toNat ≤ 0x7e

instance (c : Char) : Decidable (Printable c) :=
  inferInstanceAs (Decidable (_ ∧ _))

/-- The four ways in which a character is written inside a string. -/
theorem escapeChar_cases (c : Char) :
    (∃ letter, Printable letter ∧ letter ≠ 'u' ∧ shortEscape? letter = some c ∧
        c.toNat < 0x10000 ∧ escapeChar c = ['\\', letter]) ∨
      (Printable c ∧ c ≠ '"' ∧ c ≠ '\\' ∧ escapeChar c = [c]) ∨
      (c.toNat < 0x10000 ∧ escapeChar c = unitEscape c.toNat) ∨
      (0x10000 ≤ c.toNat ∧
        escapeChar c = unitEscape (0xd800 + (c.toNat - 0x10000) / 0x400) ++
          unitEscape (0xdc00 + (c.toNat - 0x10000) % 0x400)) := by
  by_cases named : c ∈ ['"', '\\', '\n', '\r', '\t', '\x08', '\x0c']
  · left
    simp only [List.mem_cons, List.not_mem_nil, or_false] at named
    rcases named with rfl | rfl | rfl | rfl | rfl | rfl | rfl
    · exact ⟨'"', by decide⟩
    · exact ⟨'\\', by decide⟩
    · exact ⟨'n', by decide⟩
    · exact ⟨'r', by decide⟩
    · exact ⟨'t', by decide⟩
    · exact ⟨'b', by decide⟩
    · exact ⟨'f', by decide⟩
  · right
    simp only [List.mem_cons, List.not_mem_nil, or_false, not_or] at named
    obtain ⟨quote, backslash, newLine, carriage, tab, back, form⟩ := named
    rw [escapeChar, if_neg quote, if_neg backslash, if_neg newLine, if_neg carriage, if_neg tab,
      if_neg back, if_neg form]
    split
    · rename_i printable
      exact .inl ⟨printable, quote, backslash, rfl⟩
    · split
      · rename_i below
        exact .inr (.inl ⟨below, rfl⟩)
      · rename_i beyond
        exact .inr (.inr ⟨Nat.le_of_not_lt beyond, rfl⟩)

theorem unitEscape_append_ne_nil (unit : Nat) (rest : List Char) : unitEscape unit ++ rest ≠ [] :=
  List.cons_ne_nil _ _

/-- An escaped code point is read as the code points of its units. -/
theorem readPoints_escapePoint (opening : Nat) (point : CodePoint) {rest : List Char}
    (more : rest ≠ []) :
    readPoints opening (escapePoint point ++ rest) =
      point.units.foldr consPoint (readPoints opening rest) := by
  cases point with
  | char c =>
      have single : c.toNat < 0x10000 → (CodePoint.char c).units = [.char c] :=
        fun below => if_pos below
      rw [escapePoint]
      rcases escapeChar_cases c with ⟨letter, -, other, short, below, written⟩ |
        ⟨printable, quote, backslash, written⟩ | ⟨below, written⟩ | ⟨beyond, written⟩
      · rw [written, single below]
        exact readPoints_shortEscape opening other short
      · have range := printable.2
        rw [written, single (by omega)]
        exact readPoints_char opening printable.1 quote backslash
      · rw [written, single below, readPoints_unitEscape below opening more,
          CodePoint.ofUnit_toNat]
        rfl
      · -- The second escape follows the first, so that the text does not end with its digits.
        have valid : c.toNat < 0xd800 ∨ 0xdfff < c.toNat ∧ c.toNat < 0x110000 := c.valid
        rw [written, CodePoint.units, if_neg (Nat.not_lt.mpr beyond), List.append_assoc,
          readPoints_unitEscape (by omega) opening (unitEscape_append_ne_nil _ rest),
          readPoints_unitEscape (by omega) opening more]
        rfl
  | high bits =>
      have below : 0xd800 + bits.val < 65536 := by omega
      exact (readPoints_unitEscape below opening more).trans
        (congrArg (consPoint · _) (CodePoint.ofUnit_high bits.isLt))
  | low bits =>
      have below : 0xdc00 + bits.val < 65536 := by omega
      exact (readPoints_unitEscape below opening more).trans
        (congrArg (consPoint · _) (CodePoint.ofUnit_low bits.isLt))

theorem foldr_consPoint (front points : List CodePoint) (rest : List Char) :
    front.foldr consPoint (.ok (points, rest)) = .ok (front ++ points, rest) := by
  induction front with
  | nil => rfl
  | cons point front ih => rw [List.foldr_cons, ih]; rfl

theorem readPoints_escaped (opening : Nat) (points : List CodePoint) (rest : List Char) :
    readPoints opening (points.flatMap escapePoint ++ '"' :: rest) =
      .ok (points.flatMap CodePoint.units, rest) := by
  induction points with
  | nil => rw [List.flatMap_nil, List.nil_append, readPoints, List.flatMap_nil]
  | cons point points ih =>
      have more : points.flatMap escapePoint ++ '"' :: rest ≠ [] := by simp
      rw [List.flatMap_cons, List.append_assoc, readPoints_escapePoint opening point more, ih,
        foldr_consPoint, List.flatMap_cons]

/-- A string whose pairs are joined is read back. -/
theorem readString_written (opening : Nat) {text : Text} (joined : text.Joined)
    (rest : List Char) :
    readString opening (text.points.flatMap escapePoint ++ '"' :: rest) = .ok (text, rest) := by
  rw [readString, readPoints_escaped]
  change Except.ok (Text.mk (CodePoint.joinPairs _), rest) = _
  rw [CodePoint.joinPairs_units, joined]

end Json

end ChipEight
