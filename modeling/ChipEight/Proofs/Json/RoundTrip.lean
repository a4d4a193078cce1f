import ChipEight.Proofs.Json.Integers

/-!
# Documents that are written and read back

A value comes back from its document if its strings do, its integers keep to the limit of the
reader, its objects repeat no key and its containers do not lie too deep.  Binary64 numbers are left
out.

The reader is given fuel, and it needs no more than twice the length of what it reads: the calls
that take no character off the text are those that pass it on from an array or an object to its
first item or field.
-/

namespace ChipEight.Json

variable {limit : Option Nat}

/-! ## Blanks -/

theorem skipBlank_replicate (count : Nat) (rest : List Char) :
    skipBlank (List.replicate count ' ' ++ rest) = skipBlank rest := by
  induction count with
  | zero => rfl
  | succ count ih => rw [List.replicate_succ, List.cons_append, skipBlank, if_pos (.inl rfl), ih]

theorem skipBlank_newLine (level : Nat) (rest : List Char) :
    skipBlank (newLine level ++ rest) = skipBlank rest := by
  rw [newLine, List.cons_append, skipBlank, if_pos (by decide), skipBlank_replicate]

theorem skipBlank_of_printable {c : Char} (printable : Printable c) (other : c ≠ ' ')
    (rest : List Char) : skipBlank (c :: rest) = c :: rest := by
  rw [skipBlank, if_neg]
  rintro (rfl | rfl | rfl | rfl)
  · exact other rfl
  all_goals exact absurd printable (by decide)

/-! ## Values -/

/-- A value whose document can be read, with at most some containers within each other. -/
inductive Restorable (limit : Option Nat) : Nat → Json → Prop where
  | null (levels : Nat) : Restorable limit levels .null
  | bool (levels : Nat) (value : Bool) : Restorable limit levels (.bool value)
  | int (levels : Nat) {value : Int} (fits : Fits limit value) :
      Restorable limit levels (.int value)
  | str (levels : Nat) {value : Text} (joined : value.Joined) :
      Restorable limit levels (.str value)
  | arr {levels : Nat} {items : List Json}
      (each : ∀ item ∈ items, Restorable limit levels item) :
      Restorable limit (levels + 1) (.arr items)
  | obj {levels : Nat} {fields : List (Text × Json)}
      (distinct : (fields.map Prod.fst).Nodup)
      (keys : ∀ field ∈ fields, field.1.Joined)
      (values : ∀ field ∈ fields, Restorable limit levels field.2) :
      Restorable limit (levels + 1) (.obj fields)

/-- A value is read back wherever it stands in a document. -/
def Returns (limit : Option Nat) (levels : Nat) (value : Json) : Prop :=
  ∀ fuel level rest, 2 * (write level value).length ≤ fuel → Ends rest →
    readValue limit fuel levels (write level value ++ rest) = .ok (value, rest)

variable {levels fuel : Nat} {value : Json}

/-- The first character of a value is none that the reader would take for a blank or for the end of
an array. -/
theorem Restorable.starts (restorable : Restorable limit levels value) (level : Nat) :
    ∃ c tail, write level value = c :: tail ∧ Printable c ∧ c ≠ ' ' ∧ c ≠ ']' := by
  cases restorable with
  | null => exact ⟨'n', _, rfl, by decide⟩
  | bool levels value =>
      cases value with
      | true => exact ⟨'t', _, rfl, by decide⟩
      | false => exact ⟨'f', _, rfl, by decide⟩
  | @int levels n fits =>
      obtain ⟨c, tail, front, rfl | digit⟩ := exists_writeInt_eq_cons n
      · exact ⟨'-', tail, front, by decide⟩
      · exact ⟨c, tail, front, printable_of_isDigit digit⟩
  | str levels joined => exact ⟨'"', _, rfl, by decide⟩
  | @arr levels items each =>
      cases items with
      | nil => exact ⟨'[', _, rfl, by decide⟩
      | cons item rest =>
          rw [write]
          exact ⟨'[', _, rfl, by decide⟩
  | @obj levels fields distinct keys values =>
      cases fields with
      | nil => exact ⟨'\x7b', _, rfl, by decide⟩
      | cons field rest =>
          rw [write]
          exact ⟨'\x7b', _, rfl, by decide⟩

theorem Restorable.skipBlank_write (restorable : Restorable limit levels value) (level : Nat)
    (rest : List Char) : skipBlank (write level value ++ rest) = write level value ++ rest := by
  obtain ⟨c, tail, front, printable, other, -⟩ := restorable.starts level
  rw [front]
  exact skipBlank_of_printable printable other _

theorem readValue_scalar {text rest : List Char} {c : Char} (front : text = c :: rest)
    (quote : c ≠ '"') (bracket : c ≠ '[') (brace : c ≠ '\x7b') :
    readValue limit (fuel + 1) levels text = readScalar limit text := by
  subst front
  rw [readValue]
  · exact fun text same => quote (List.cons.inj same).1
  · exact fun text same => bracket (List.cons.inj same).1
  · exact fun text same => brace (List.cons.inj same).1

theorem readValue_array {text itemsText after : List Char} {items : List Json}
    (blanks : skipBlank text = itemsText) (unclosed : ∀ after, itemsText ≠ ']' :: after)
    (read : readItems limit fuel levels itemsText = .ok (items, after)) :
    readValue limit (fuel + 1) (levels + 1) ('[' :: text) = .ok (.arr items, after) := by
  simp only [readValue, blanks, read]

theorem readItems_last {text rest after : List Char} {item : Json}
    (read : readValue limit fuel levels text = .ok (item, rest))
    (closed : skipBlank rest = ']' :: after) :
    readItems limit (fuel + 1) levels text = .ok ([item], after) := by
  simp only [readItems, read, closed]

theorem readItems_more {text rest more after : List Char} {item : Json} {items : List Json}
    (read : readValue limit fuel levels text = .ok (item, rest))
    (comma : skipBlank rest = ',' :: more)
    (onward : readItems limit fuel levels (skipBlank more) = .ok (items, after)) :
    readItems limit (fuel + 1) levels text = .ok (item :: items, after) := by
  simp only [readItems, read, comma, onward]

theorem ends_writeItems (level outer : Nat) (items : List Json) (rest : List Char) :
    Ends (writeItems level items ++ (newLine outer ++ rest)) := by
  cases items with
  | nil => exact .inr rfl
  | cons item items =>
      rw [writeItems]
      exact .inl rfl

/-- The items of an array are read back one by one. -/
theorem readItems_written {level : Nat} (outer : Nat) (item : Json) (items : List Json)
    (after : List Char)
    (each : ∀ other ∈ item :: items, Restorable limit levels other)
    (returns : ∀ other ∈ item :: items, Returns limit levels other)
    (enough : 2 * ((write level item).length + (writeItems level items).length) < fuel) :
    readItems limit fuel levels
        (write level item ++ (writeItems level items ++ (newLine outer ++ ']' :: after))) =
      .ok (item :: items, after) := by
  induction items generalizing item fuel with
  | nil =>
      obtain ⟨fuel, rfl⟩ := Nat.exists_eq_add_one_of_ne_zero (Nat.ne_zero_of_lt enough)
      have first := returns item List.mem_cons_self fuel level _ (by omega)
        (ends_writeItems level outer [] (']' :: after))
      refine readItems_last first ?_
      rw [writeItems, List.nil_append, skipBlank_newLine]
      rfl
  | cons next items ih =>
      obtain ⟨fuel, rfl⟩ := Nat.exists_eq_add_one_of_ne_zero (Nat.ne_zero_of_lt enough)
      have first := returns item List.mem_cons_self fuel level _ (by omega)
        (ends_writeItems level outer (next :: items) (']' :: after))
      -- The comma and the new line pay for the fuel that this call takes.
      have size : (writeItems level (next :: items)).length =
          1 + (newLine level).length + (write level next).length +
            (writeItems level items).length := by
        simp only [writeItems, List.length_cons, List.length_append]
        omega
      have comma : skipBlank (writeItems level (next :: items) ++ (newLine outer ++ ']' :: after)) =
          ',' :: (newLine level ++ (write level next ++
            (writeItems level items ++ (newLine outer ++ ']' :: after)))) := by
        simp only [writeItems, List.cons_append, List.append_assoc]
        rfl
      refine readItems_more first comma ?_
      rw [skipBlank_newLine, (each next (by simp)).skipBlank_write]
      refine ih next ?_ ?_ (by omega)
      · exact fun other member => each other (List.mem_cons_of_mem item member)
      · exact fun other member => returns other (List.mem_cons_of_mem item member)

/-! ## Objects -/

theorem insertField_of_notMem {key : Text} {fields : List (Text × Json)}
    (fresh : key ∉ fields.map Prod.fst) (value : Json) :
    insertField key value fields = fields ++ [(key, value)] := by
  induction fields with
  | nil => rfl
  | cons field rest ih =>
      rw [List.map_cons, List.mem_cons, not_or] at fresh
      rw [insertField, if_neg (Ne.symm fresh.1), ih fresh.2, List.cons_append]

theorem readValue_object {text fieldsText after : List Char} {fields : List (Text × Json)}
    (blanks : skipBlank text = fieldsText) (unclosed : ∀ after, fieldsText ≠ '\x7d' :: after)
    (read : readFields limit fuel levels [] fieldsText = .ok (fields, after)) :
    readValue limit (fuel + 1) (levels + 1) ('\x7b' :: text) = .ok (.obj fields, after) := by
  simp only [readValue, blanks, read]

theorem notMem_of_nodup {before fields : List (Text × Json)} {key : Text} {value : Json}
    (distinct : ((before ++ (key, value) :: fields).map Prod.fst).Nodup) :
    key ∉ before.map Prod.fst := by
  intro member
  rw [List.map_append, List.nodup_append] at distinct
  exact distinct.2.2 key member key List.mem_cons_self rfl

theorem writeString_append (text : Text) (rest : List Char) :
    writeString text ++ rest = '"' :: (text.points.flatMap escapePoint ++ '"' :: rest) := by
  rw [writeString, List.cons_append, List.append_assoc, List.singleton_append]

theorem ends_writeFields (level outer : Nat) (fields : List (Text × Json)) (rest : List Char) :
    Ends (writeFields level fields ++ (newLine outer ++ rest)) := by
  cases fields with
  | nil => exact .inr rfl
  | cons field fields =>
      rw [writeFields]
      exact .inl rfl

/-- One field of an object is read back; what follows it decides how to go on. -/
theorem readFields_field {level : Nat} {key : Text} {value : Json} (joined : key.Joined)
    (restorable : Restorable limit levels value) (returns : Returns limit levels value)
    (enough : 2 * (write level value).length ≤ fuel) (before : List (Text × Json))
    {rest : List Char} (ends : Ends rest) :
    (∀ after, skipBlank rest = '\x7d' :: after →
      readFields limit (fuel + 1) levels before
          (writeString key ++ ':' :: ' ' :: (write level value ++ rest)) =
        .ok (insertField key value before, after)) ∧
    (∀ more, skipBlank rest = ',' :: more →
      readFields limit (fuel + 1) levels before
          (writeString key ++ ':' :: ' ' :: (write level value ++ rest)) =
        readFields limit fuel levels (insertField key value before) (skipBlank more)) := by
  have colon : skipBlank (':' :: ' ' :: (write level value ++ rest)) =
      ':' :: ' ' :: (write level value ++ rest) := rfl
  have blank : skipBlank (' ' :: (write level value ++ rest)) = write level value ++ rest :=
    restorable.skipBlank_write level rest
  have read := returns fuel level rest enough ends
  rw [writeString_append]
  constructor
  · intro after closed
    simp only [readFields, readString_written _ joined, colon, blank, read, closed]
  · intro more comma
    simp only [readFields, readString_written _ joined, colon, blank, read, comma]

/-- The fields of an object are read back one by one, after those that have been read before. -/
theorem readFields_written {level : Nat} (outer : Nat) (before : List (Text × Json)) (key : Text)
    (value : Json) (fields : List (Text × Json)) (after : List Char)
    (distinct : ((before ++ (key, value) :: fields).map Prod.fst).Nodup)
    (keys : ∀ field ∈ (key, value) :: fields, field.1.Joined)
    (each : ∀ field ∈ (key, value) :: fields, Restorable limit levels field.2)
    (returns : ∀ field ∈ (key, value) :: fields, Returns limit levels field.2)
    (enough : 2 * ((write level value).length + (writeFields level fields).length) < fuel) :
    readFields limit fuel levels before
        (writeString key ++ ':' :: ' ' :: (write level value ++
          (writeFields level fields ++ (newLine outer ++ '\x7d' :: after)))) =
      .ok (before ++ (key, value) :: fields, after) := by
  induction fields generalizing before key value fuel with
  | nil =>
      obtain ⟨fuel, rfl⟩ := Nat.exists_eq_add_one_of_ne_zero (Nat.ne_zero_of_lt enough)
      have room : 2 * (write level value).length ≤ fuel := by omega
      obtain ⟨last, -⟩ := readFields_field (keys (key, value) List.mem_cons_self)
        (each (key, value) List.mem_cons_self) (returns (key, value) List.mem_cons_self) room before
        (ends_writeFields level outer [] ('\x7d' :: after))
      have closed : skipBlank (writeFields level [] ++ (newLine outer ++ '\x7d' :: after)) =
          '\x7d' :: after := by
        rw [writeFields, List.nil_append, skipBlank_newLine]
        rfl
      rw [last after closed, insertField_of_notMem (notMem_of_nodup distinct)]
  | cons next fields ih =>
      obtain ⟨fuel, rfl⟩ := Nat.exists_eq_add_one_of_ne_zero (Nat.ne_zero_of_lt enough)
      obtain ⟨nextKey, nextValue⟩ := next
      have room : 2 * (write level value).length ≤ fuel := by omega
      obtain ⟨-, onward⟩ := readFields_field (keys (key, value) List.mem_cons_self)
        (each (key, value) List.mem_cons_self) (returns (key, value) List.mem_cons_self) room before
        (ends_writeFields level outer ((nextKey, nextValue) :: fields) ('\x7d' :: after))
      have comma : skipBlank (writeFields level ((nextKey, nextValue) :: fields) ++
            (newLine outer ++ '\x7d' :: after)) =
          ',' :: (newLine level ++ (writeString nextKey ++ ':' :: ' ' :: (write level nextValue ++
            (writeFields level fields ++ (newLine outer ++ '\x7d' :: after))))) := by
        simp only [writeFields, List.cons_append, List.append_assoc, List.nil_append]
        rfl
      have size : (writeFields level ((nextKey, nextValue) :: fields)).length =
          3 + (newLine level).length + (writeString nextKey).length +
            (write level nextValue).length + (writeFields level fields).length := by
        simp only [writeFields, List.length_cons, List.length_append, List.length_nil]
        omega
      -- A key that is new goes to the end, so the fields stay in their order.
      have moved : before ++ (key, value) :: (nextKey, nextValue) :: fields =
          before ++ [(key, value)] ++ (nextKey, nextValue) :: fields := by
        rw [List.append_assoc, List.singleton_append]
      rw [onward _ comma, insertField_of_notMem (notMem_of_nodup distinct), skipBlank_newLine,
        writeString_append, skipBlank_of_printable (by decide) (by decide), ← writeString_append,
        moved]
      refine ih (before ++ [(key, value)]) nextKey nextValue (moved ▸ distinct) ?_ ?_ ?_ (by omega)
      · exact fun field member => keys field (List.mem_cons_of_mem _ member)
      · exact fun field member => each field (List.mem_cons_of_mem _ member)
      · exact fun field member => returns field (List.mem_cons_of_mem _ member)

/-! ## Documents -/

theorem exists_fuel {c : Char} {text tail : List Char} (front : text = c :: tail)
    (enough : 2 * text.length ≤ fuel) : ∃ less, fuel = less + 1 := by
  rw [front, List.length_cons] at enough
  exact ⟨fuel - 1, by omega⟩

/-- A value that is a single word or number is read back if its text is. -/
theorem returns_of_readScalar
    (starts : ∀ level, ∃ c tail, write level value = c :: tail ∧ c ≠ '"' ∧ c ≠ '[' ∧ c ≠ '\x7b')
    (read : ∀ level rest, Ends rest →
      readScalar limit (write level value ++ rest) = .ok (value, rest)) :
    Returns limit levels value := by
  intro fuel level rest enough ends
  obtain ⟨c, tail, front, quote, bracket, brace⟩ := starts level
  obtain ⟨fuel, rfl⟩ := exists_fuel front enough
  have text : write level value ++ rest = c :: (tail ++ rest) := by
    rw [front, List.cons_append]
  rw [readValue_scalar text quote bracket brace, read level rest ends]

theorem dropWord?_append (word rest : List Char) : dropWord? word (word ++ rest) = some rest := by
  induction word with
  | nil => rfl
  | cons c word ih => rw [List.cons_append, dropWord?, if_pos rfl, ih]

/-- A value that is a single word is read back. -/
theorem returns_of_word {c : Char} {tail : List Char}
    (word : ∀ level, write level value = c :: tail)
    (start : c ≠ '"' ∧ c ≠ '[' ∧ c ≠ '\x7b')
    (read : ∀ rest, readWord? (c :: (tail ++ rest)) = some (value, rest)) :
    Returns limit levels value := by
  refine returns_of_readScalar (fun level => ⟨c, tail, word level, start⟩) ?_
  intro level rest ends
  unfold readScalar
  rw [word, List.cons_append, read]

/-- An array is read back if its items are. -/
theorem returns_array {items : List Json} (each : ∀ item ∈ items, Restorable limit levels item)
    (returns : ∀ item ∈ items, Returns limit levels item) :
    Returns limit (levels + 1) (.arr items) := by
  intro fuel level rest enough ends
  obtain ⟨c, tail, front, -⟩ := (Restorable.arr each).starts level
  obtain ⟨fuel, rfl⟩ := exists_fuel front enough
  cases items with
  | nil =>
      have brackets : "[]".toList = ['[', ']'] := by decide
      rw [write, brackets]
      rfl
  | cons item items =>
      have text : write level (.arr (item :: items)) ++ rest =
          '[' :: (newLine (level + 1) ++ (write (level + 1) item ++
            (writeItems (level + 1) items ++ (newLine level ++ ']' :: rest)))) := by
        simp only [write, List.cons_append, List.append_assoc, List.nil_append]
      have room : 2 * ((write (level + 1) item).length +
          (writeItems (level + 1) items).length) < fuel := by
        simp only [write, List.length_cons, List.length_append] at enough
        omega
      have first := each item List.mem_cons_self
      rw [text]
      refine readValue_array ?_ ?_ (readItems_written level item items rest each returns room)
      · rw [skipBlank_newLine, first.skipBlank_write]
      · intro after same
        obtain ⟨c, tail, front, -, -, unclosed⟩ := first.starts (level + 1)
        rw [front] at same
        exact unclosed (List.cons.inj same).1

/-- An object is read back if its keys and values are. -/
theorem returns_object {fields : List (Text × Json)} (distinct : (fields.map Prod.fst).Nodup)
    (keys : ∀ field ∈ fields, field.1.Joined)
    (values : ∀ field ∈ fields, Restorable limit levels field.2)
    (returns : ∀ field ∈ fields, Returns limit levels field.2) :
    Returns limit (levels + 1) (.obj fields) := by
  intro fuel level rest enough ends
  obtain ⟨c, tail, front, -⟩ := (Restorable.obj distinct keys values).starts level
  obtain ⟨fuel, rfl⟩ := exists_fuel front enough
  cases fields with
  | nil =>
      have braces : "\x7b\x7d".toList = ['\x7b', '\x7d'] := by decide
      rw [write, braces]
      rfl
  | cons field fields =>
      obtain ⟨key, value⟩ := field
      have text : write level (.obj ((key, value) :: fields)) ++ rest =
          '\x7b' :: (newLine (level + 1) ++ (writeString key ++ ':' :: ' ' ::
            (write (level + 1) value ++
              (writeFields (level + 1) fields ++ (newLine level ++ '\x7d' :: rest))))) := by
        simp only [write, List.cons_append, List.append_assoc, List.nil_append]
      have room : 2 * ((write (level + 1) value).length +
          (writeFields (level + 1) fields).length) < fuel := by
        simp only [write, List.length_cons, List.length_append] at enough
        omega
      rw [text]
      refine readValue_object ?_ ?_
        (readFields_written level [] key value fields rest distinct keys values returns room)
      · rw [skipBlank_newLine, writeString_append,
          skipBlank_of_printable (by decide) (by decide)]
      · intro after same
        rw [writeString_append] at same
        exact absurd (List.cons.inj same).1 (by decide)

/-- A value that can be restored is read back wherever it stands in a document. -/
theorem Restorable.returns (restorable : Restorable limit levels value) :
    Returns limit levels value := by
  induction restorable with
  | null levels =>
      have word : "null".toList = 'n' :: "ull".toList := by decide
      refine returns_of_word (fun _ => word) (by decide) ?_
      intro rest
      rw [readWord?, dropWord?_append]
      rfl
  | bool levels value =>
      cases value with
      | true =>
          have word : "true".toList = 't' :: "rue".toList := by decide
          refine returns_of_word (fun _ => word) (by decide) ?_
          intro rest
          rw [readWord?, dropWord?_append]
          rfl
      | false =>
          have word : "false".toList = 'f' :: "alse".toList := by decide
          refine returns_of_word (fun _ => word) (by decide) ?_
          intro rest
          rw [readWord?, dropWord?_append]
          rfl
  | @int levels n fits =>
      refine returns_of_readScalar ?_ ?_
      · intro level
        obtain ⟨c, tail, front, number⟩ := exists_writeInt_eq_cons n
        refine ⟨c, tail, front, ?_, ?_, ?_⟩ <;>
          · rintro rfl
            exact absurd number (by decide)
      · exact fun level rest ends => readScalar_writeInt fits ends
  | @str levels text joined =>
      intro fuel level rest enough ends
      obtain ⟨fuel, rfl⟩ := exists_fuel rfl enough
      rw [write, writeString_append]
      simp only [readValue, readString_written _ joined]
  | arr each ih => exact returns_array each ih
  | obj distinct keys values ih => exact returns_object distinct keys values ih

/-- A document is read back. -/
theorem readText_write {depth : Nat} (restorable : Restorable limit depth value) :
    readText limit depth (write 0 value) = .ok value := by
  have read := restorable.returns (2 * (write 0 value).length + 2) 0 [] (by omega) trivial
  have blanks := restorable.skipBlank_write 0 []
  obtain ⟨c, tail, front, printable, -⟩ := restorable.starts 0
  rw [List.append_nil] at read blanks
  rw [readText]
  · rw [blanks, read]
    rfl
  · intro rest same
    rw [front] at same
    rw [(List.cons.inj same).1] at printable
    exact absurd printable (by decide)

/-! ## The characters of a document -/

/-- A text of printable ASCII characters and new lines. -/
def Plain (text : List Char) : Prop :=
  ∀ c ∈ text, c = '\n' ∨ Printable c

instance (text : List Char) : Decidable (Plain text) :=
  List.decidableBAll (fun c => c = '\n' ∨ Printable c) text

theorem plain_append {first second : List Char} :
    Plain (first ++ second) ↔ Plain first ∧ Plain second :=
  List.forall_mem_append

theorem plain_cons {c : Char} {text : List Char} :
    Plain (c :: text) ↔ (c = '\n' ∨ Printable c) ∧ Plain text :=
  List.forall_mem_cons

theorem plain_newLine (level : Nat) : Plain (newLine level) := by
  refine plain_cons.mpr ⟨.inl rfl, ?_⟩
  intro c member
  rw [List.eq_of_mem_replicate member]
  decide

theorem plain_unitEscape {unit : Nat} (below : unit < 65536) : Plain (unitEscape unit) := by
  have digit : ∀ digit : Fin 16, Printable (Nat.digitChar digit) := by decide
  rw [unitEscape, padLeft_toDigits below]
  simp only [plain_cons]
  refine ⟨by decide, by decide, .inr (digit ⟨unit / 4096, by omega⟩),
    .inr (digit ⟨unit / 256 % 16, by omega⟩), .inr (digit ⟨unit / 16 % 16, by omega⟩),
    .inr (digit ⟨unit % 16, by omega⟩), by decide⟩

theorem plain_escapePoint (point : CodePoint) : Plain (escapePoint point) := by
  cases point with
  | char c =>
      rw [escapePoint]
      rcases escapeChar_cases c with ⟨letter, printable, -, -, -, written⟩ |
        ⟨printable, -, -, written⟩ | ⟨below, written⟩ | ⟨beyond, written⟩
      · rw [written, plain_cons, plain_cons]
        exact ⟨by decide, .inr printable, by decide⟩
      · rw [written, plain_cons]
        exact ⟨.inr printable, by decide⟩
      · rw [written]
        exact plain_unitEscape below
      · have valid : c.toNat < 0xd800 ∨ 0xdfff < c.toNat ∧ c.toNat < 0x110000 := c.valid
        rw [written, plain_append]
        exact ⟨plain_unitEscape (by omega), plain_unitEscape (by omega)⟩
  | high bits => exact plain_unitEscape (show 0xd800 + bits.val < 65536 by omega)
  | low bits => exact plain_unitEscape (show 0xdc00 + bits.val < 65536 by omega)

theorem plain_writeString (text : Text) : Plain (writeString text) := by
  rw [writeString, plain_cons, plain_append]
  refine ⟨by decide, ?_, by decide⟩
  intro c member
  obtain ⟨point, -, escaped⟩ := List.mem_flatMap.mp member
  exact plain_escapePoint point c escaped

theorem plain_writeInt (n : Int) : Plain (writeInt n) := by
  have digits : Plain (Nat.toDigits 10 n.natAbs) := fun c member =>
    .inr (printable_of_isDigit (isDigit_of_mem_toDigits member)).1
  rw [writeInt]
  split
  · exact plain_cons.mpr ⟨by decide, digits⟩
  · exact digits

theorem plain_writeItems {level : Nat} {items : List Json}
    (each : ∀ item ∈ items, Plain (write level item)) : Plain (writeItems level items) := by
  induction items with
  | nil => rw [writeItems]; decide
  | cons item items ih =>
      rw [List.forall_mem_cons] at each
      rw [writeItems, plain_cons, plain_append, plain_append]
      exact ⟨by decide, ⟨plain_newLine level, each.1⟩, ih each.2⟩

theorem plain_writeFields {level : Nat} {fields : List (Text × Json)}
    (each : ∀ field ∈ fields, Plain (write level field.2)) : Plain (writeFields level fields) := by
  induction fields with
  | nil => rw [writeFields]; decide
  | cons field fields ih =>
      obtain ⟨key, value⟩ := field
      rw [List.forall_mem_cons] at each
      rw [writeFields, plain_cons, plain_append, plain_append, plain_append, plain_append]
      exact ⟨by decide, ⟨⟨⟨plain_newLine level, plain_writeString key⟩, by decide⟩, each.1⟩,
        ih each.2⟩

/-- Everything outside printable ASCII is escaped. -/
theorem Restorable.plain (restorable : Restorable limit levels value) (level : Nat) :
    Plain (write level value) := by
  induction restorable generalizing level with
  | null levels =>
      rw [write]
      decide
  | bool levels value =>
      cases value with
      | true => rw [write]; decide
      | false => rw [write]; decide
  | @int levels n fits => exact plain_writeInt n
  | @str levels text joined => exact plain_writeString text
  | @arr levels items each ih =>
      cases items with
      | nil => rw [write]; decide
      | cons item items =>
          have later := plain_writeItems fun other member =>
            ih other (List.mem_cons_of_mem item member) (level + 1)
          rw [write, plain_cons, plain_append, plain_append, plain_append, plain_append]
          exact ⟨by decide, ⟨⟨⟨plain_newLine _, ih item List.mem_cons_self (level + 1)⟩, later⟩,
            plain_newLine level⟩, by decide⟩
  | @obj levels fields distinct keys values ih =>
      cases fields with
      | nil => rw [write]; decide
      | cons field fields =>
          obtain ⟨key, value⟩ := field
          have later := plain_writeFields fun other member =>
            ih other (List.mem_cons_of_mem (key, value) member) (level + 1)
          rw [write, plain_cons, plain_append, plain_append, plain_append, plain_append,
            plain_append, plain_append]
          exact ⟨by decide, ⟨⟨⟨⟨⟨plain_newLine _, plain_writeString key⟩, by decide⟩,
            ih (key, value) List.mem_cons_self (level + 1)⟩, later⟩, plain_newLine level⟩,
            by decide⟩

end ChipEight.Json
