import ChipEight.Proofs.Screen.Grid
import ChipEight.Snapshot

/-!
# Packed grids

Packing bits eight to a byte loses nothing but their number: unpacking the bytes gives the bits
back, with zeros behind them up to a multiple of eight.  Grids of one size have the same number of
bits, so they are equal if their packed forms are.
-/

namespace ChipEight

/-- The bits of bytes, the most significant bit of the first byte first. -/
def unpackBits (bytes : List UInt8) : List Bool :=
  bytes.flatMap unpackByte

theorem unpackByte_eight (a b c d e f g h : Bool) :
    unpackByte (packByte [a, b, c, d, e, f, g, h]) = [a, b, c, d, e, f, g, h] := by
  revert a b c d e f g h
  decide +kernel

theorem exists_eq_of_length_eq_eight {bits : List Bool} (length : bits.length = 8) :
    ∃ a b c d e f g h, bits = [a, b, c, d, e, f, g, h] := by
  match bits, length with
  | [a, b, c, d, e, f, g, h], _ => exact ⟨a, b, c, d, e, f, g, h, rfl⟩

/-- Up to eight bits are padded with zeros. -/
theorem unpackByte_packByte {bits : List Bool} (short : bits.length ≤ 8) :
    unpackByte (packByte bits) = bits ++ List.replicate (8 - bits.length) false := by
  have length : (bits ++ List.replicate (8 - bits.length) false).length = 8 := by
    simp [short]
  have padded : packByte bits = packByte (bits ++ List.replicate (8 - bits.length) false) := by
    simp [packByte, length]
  obtain ⟨a, b, c, d, e, f, g, h, eight⟩ := exists_eq_of_length_eq_eight length
  rw [padded, eight, unpackByte_eight]

theorem unpackBits_packBits (bits : List Bool) :
    (unpackBits (packBits bits)).take bits.length = bits := by
  induction bits using packBits.induct with
  | case1 a b c d e f g h rest ih =>
      simp only [packBits, unpackBits, List.flatMap_cons, unpackByte_eight] at ih ⊢
      simp [ih]
  | case2 => rfl
  | case3 bits few nonempty =>
      have short : bits.length ≤ 8 := by
        apply Nat.le_of_lt
        apply Nat.lt_of_not_le
        intro long
        match bits, long, few with
        | a :: b :: c :: d :: e :: f :: g :: h :: rest, _, few => exact few a b c d e f g h rest rfl
      rw [packBits.eq_3 bits few nonempty, unpackBits, List.flatMap_singleton,
        unpackByte_packByte short, List.take_left]

theorem packBits_injective {first second : List Bool} (lengths : first.length = second.length)
    (packed : packBits first = packBits second) : first = second := by
  rw [← unpackBits_packBits first, ← unpackBits_packBits second, packed, lengths]

namespace Grid

variable {width height : Nat}

theorem map_length_toLists (grid : Grid width height) :
    grid.toLists.map List.length = List.replicate height width := by
  simp [toLists, Function.comp_def, List.map_const']

theorem toLists_injective {first second : Grid width height}
    (rows : first.toLists = second.toLists) : first = second := by
  rcases first with ⟨firstRows⟩
  rcases second with ⟨secondRows⟩
  have same : firstRows.toList = secondRows.toList :=
    (List.map_inj_right fun _ _ => Vector.toList_inj.mp).mp rows
  rw [Vector.toList_inj.mp same]

/-- The packed form of a grid determines the grid. -/
theorem packed_inj {first second : Grid width height} :
    first.packed = second.packed ↔ first = second := by
  constructor
  · intro packed
    have sizes : first.toLists.map List.length = second.toLists.map List.length := by
      rw [map_length_toLists, map_length_toLists]
    have lengths : first.toLists.flatten.length = second.toLists.flatten.length := by
      rw [List.length_flatten, List.length_flatten, sizes]
    have bits := packBits_injective lengths packed
    exact toLists_injective (List.eq_iff_flatten_eq.mpr ⟨bits, sizes⟩)
  · rintro rfl
    rfl

end Grid

end ChipEight
