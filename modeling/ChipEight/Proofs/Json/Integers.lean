import ChipEight.Proofs.Json.Strings

/-!
# Integers that are written and read back

An integer is written in decimal, without a zero in front.  The characters after it matter when it
is read: they must not go on with the number.  In a document only a comma, a new line or the end
follows a value.
-/

namespace ChipEight.Json

variable {limit : Option Nat}

/-- What follows a value in a document. -/
def Ends : List Char → Prop
  | [] => True
  | c :: _ => c = ',' ∨ c = '\n'

/-- The digits of an integer keep to a limit, if there is one. -/
def Fits (limit : Option Nat) (n : Int) : Prop :=
  ∀ most ∈ limit, (Nat.toDigits 10 n.natAbs).length ≤ most

instance (limit : Option Nat) (n : Int) : Decidable (Fits limit n) :=
  inferInstanceAs (Decidable (∀ most ∈ limit, (Nat.toDigits 10 n.natAbs).length ≤ most))

theorem isDigit_of_mem_toDigits {c : Char} {n : Nat} (member : c ∈ Nat.toDigits 10 n) :
    isDigit c = true :=
  Nat.isDigit_of_mem_toDigits (by decide) (by decide) member

theorem ofDigits_toDigits (n : Nat) : ofDigits (Nat.toDigits 10 n) = n := by
  rw [ofDigits, ← Nat.ofDigitChars_eq_foldl]
  exact Nat.ofDigitChars_ten_toDigits

/-- Only zero starts with a zero. -/
theorem toDigits_head {n : Nat} (positive : 0 < n) :
    ∃ c tail, Nat.toDigits 10 n = c :: tail ∧ c ≠ '0' := by
  induction n using Nat.strongRecOn with
  | ind n ih =>
      by_cases single : n < 10
      · refine ⟨_, [], Nat.toDigits_of_lt_base single, ?_⟩
        rw [ne_eq, Nat.digitChar_eq_zero]
        omega
      · obtain ⟨c, tail, front, other⟩ := ih (n / 10) (by omega) (by omega)
        rw [Nat.toDigits_of_base_le (by decide) (Nat.le_of_not_lt single), front]
        exact ⟨c, _, rfl, other⟩

theorem Ends.not_isDigit {c : Char} {rest : List Char} (ends : Ends (c :: rest)) :
    ¬ isDigit c = true := by
  rcases ends with rfl | rfl <;> decide

theorem takeWhile_isDigit {digits rest : List Char} (all : ∀ c ∈ digits, isDigit c = true)
    (ends : Ends rest) : (digits ++ rest).takeWhile isDigit = digits := by
  rw [List.takeWhile_append_of_pos all]
  cases rest with
  | nil => simp
  | cons c rest => simp [List.takeWhile_cons_of_neg ends.not_isDigit]

theorem dropWhile_isDigit {digits rest : List Char} (all : ∀ c ∈ digits, isDigit c = true)
    (ends : Ends rest) : (digits ++ rest).dropWhile isDigit = rest := by
  rw [List.dropWhile_append_of_pos all]
  cases rest with
  | nil => rfl
  | cons c rest => exact List.dropWhile_cons_of_neg ends.not_isDigit

theorem finishNumber_of_ends (negative : Bool) (whole : List Char) {rest : List Char}
    (ends : Ends rest) :
    finishNumber limit negative whole rest =
      (readInteger limit negative whole).map fun number => (number, rest) := by
  cases rest with
  | nil => rfl
  | cons c rest => rcases ends with rfl | rfl <;> rfl

theorem readUnsigned_toDigits (text : List Char) (negative : Bool) (n : Nat) {rest : List Char}
    (ends : Ends rest) :
    readUnsigned limit text negative (Nat.toDigits 10 n ++ rest) =
      (readInteger limit negative (Nat.toDigits 10 n)).map fun number => (number, rest) := by
  rcases Nat.eq_zero_or_pos n with rfl | positive
  · exact finishNumber_of_ends negative ['0'] ends
  · obtain ⟨c, tail, front, other⟩ := toDigits_head positive
    have all : ∀ d ∈ c :: tail, isDigit d = true := by
      rw [← front]
      exact fun _ => isDigit_of_mem_toDigits
    have later : ∀ d ∈ tail, isDigit d = true := fun d member =>
      all d (List.mem_cons_of_mem c member)
    rw [front, List.cons_append, readUnsigned, if_neg other, if_pos (all c List.mem_cons_self),
      takeWhile_isDigit later ends, dropWhile_isDigit later ends, finishNumber_of_ends _ _ ends]

theorem readInteger_toDigits {n : Int} (fits : Fits limit n) (negative : Bool) :
    readInteger limit negative (Nat.toDigits 10 n.natAbs) =
      .ok (.int (Binary64.withSign negative n.natAbs)) := by
  have within : ¬ limit.any (· < (Nat.toDigits 10 n.natAbs).length) = true := by
    intro beyond
    obtain ⟨most, member, less⟩ := (Option.any_eq_true _ _).mp beyond
    exact absurd (fits most member) (Nat.not_le.mpr (of_decide_eq_true less))
  rw [readInteger, if_neg within, ofDigits_toDigits]

theorem exists_toDigits_eq_cons (n : Nat) :
    ∃ c tail, Nat.toDigits 10 n = c :: tail ∧ isDigit c = true := by
  obtain ⟨c, tail, front⟩ := List.exists_cons_of_ne_nil (@Nat.toDigits_ne_nil n 10)
  have member : c ∈ Nat.toDigits 10 n := by
    rw [front]
    exact List.mem_cons_self
  exact ⟨c, tail, front, isDigit_of_mem_toDigits member⟩

theorem exists_writeInt_eq_cons (n : Int) :
    ∃ c tail, writeInt n = c :: tail ∧ (c = '-' ∨ isDigit c = true) := by
  obtain ⟨c, tail, front, digit⟩ := exists_toDigits_eq_cons n.natAbs
  rw [writeInt, front]
  split
  · exact ⟨'-', _, rfl, .inl rfl⟩
  · exact ⟨c, tail, rfl, .inr digit⟩

theorem cons_ne_of_isDigit {c d : Char} (digit : isDigit c = true) (other : isDigit d = false)
    (rest text : List Char) : c :: rest ≠ d :: text := by
  intro same
  rw [(List.cons.inj same).1, other] at digit
  cases digit

theorem readScalar_of_isDigit {c : Char} (digit : isDigit c = true) (rest : List Char) :
    readScalar limit (c :: rest) = readUnsigned limit (c :: rest) false (c :: rest) := by
  have word : readWord? (c :: rest) = none := by
    rw [readWord?]
    all_goals exact fun text => cons_ne_of_isDigit digit (by decide) rest text
  rw [readScalar, word]
  exact fun text => cons_ne_of_isDigit digit (by decide) rest text

theorem readScalar_minus {c : Char} (digit : isDigit c = true) (rest : List Char) :
    readScalar limit ('-' :: c :: rest) =
      readUnsigned limit ('-' :: c :: rest) true (c :: rest) := by
  have infinity : "Infinity".toList = 'I' :: "nfinity".toList := by decide
  have word : readWord? ('-' :: c :: rest) = none := by
    rw [readWord?, infinity, dropWord?, if_neg]
    · rfl
    · rintro rfl
      exact absurd digit (by decide)
  rw [readScalar, word]

/-- An integer is read back. -/
theorem readScalar_writeInt {n : Int} (fits : Fits limit n) {rest : List Char}
    (ends : Ends rest) : readScalar limit (writeInt n ++ rest) = .ok (.int n, rest) := by
  obtain ⟨c, tail, front, digit⟩ := exists_toDigits_eq_cons n.natAbs
  have unsigned : ∀ text negative, readUnsigned limit text negative (c :: tail ++ rest) =
      .ok (.int (Binary64.withSign negative n.natAbs), rest) := by
    intro text negative
    rw [← front, readUnsigned_toDigits text negative n.natAbs ends, readInteger_toDigits fits]
    rfl
  rw [writeInt, front]
  split
  · rw [List.cons_append, List.cons_append, readScalar_minus digit, ← List.cons_append, unsigned,
      Binary64.withSign, if_pos rfl]
    congr 3
    omega
  · rw [List.cons_append, readScalar_of_isDigit digit, ← List.cons_append, unsigned,
      Binary64.withSign, if_neg Bool.false_ne_true]
    congr 3
    omega

theorem printable_of_isDigit {c : Char} (digit : isDigit c = true) :
    Printable c ∧ c ≠ ' ' ∧ c ≠ ']' := by
  simp only [isDigit, Bool.and_eq_true, decide_eq_true_eq] at digit
  have low : 48 ≤ c.toNat := digit.1
  have high : c.toNat ≤ 57 := digit.2
  refine ⟨⟨by omega, by omega⟩, ?_, ?_⟩
  · rintro rfl
    exact absurd low (by decide)
  · rintro rfl
    exact absurd high (by decide)

end ChipEight.Json
