import Storyboard.Moment.Clock
import Storyboard.Proofs.Shortest

/-!
# Moments are read back

A number below a power of ten fills its places exactly, so the parts of a written moment are found
where they were put. What is written for a moment is therefore read as that moment: the date, the
time to the microsecond, and the distance to universal time, if it is told.
-/

namespace Storyboard.Decimal

theorem digitsValue_paddedDigits (width n : ℕ) : digitsValue (paddedDigits width n) = n := by
  rw [paddedDigits, digitsValue_append, digitsValue_zeros, Nat.zero_mul, Nat.zero_add,
    digitsValue_digitsOf]

/-- A number that is not too great for its places fills them. -/
theorem length_paddedDigits {width n : ℕ} (hw : 0 < width) (h : n < 10 ^ width) :
    (paddedDigits width n).length = width := by
  have hfits : (digitsOf n).length ≤ width := (Nat.length_toDigits_le_iff (by decide) hw).mpr h
  rw [paddedDigits, List.length_append, List.length_replicate]
  omega

end Storyboard.Decimal

namespace Storyboard.Moment

open Decimal

/-- Digits are found where they were put. -/
theorem digits?_padded {count n : ℕ} (hc : 0 < count) (h : n < 10 ^ count) (rest : List Char) :
    digits? count (paddedDigits count n ++ rest) = some (n, rest) := by
  have hlength := length_paddedDigits hc h
  have hall : (paddedDigits count n).all Char.isDigit = true :=
    List.all_eq_true.mpr fun _ => isDigit_paddedDigits
  rw [digits?, List.take_left' hlength, List.drop_left' hlength, digitsValue_paddedDigits]
  simp only [hlength, hall, decide_true, Bool.and_self, if_true]

theorem below?_padded {bound : ℕ} (hb : bound ≤ 10 ^ 2) (n : Fin bound) (rest : List Char) :
    below? bound (paddedDigits 2 n ++ rest) = some (n, rest) := by
  rw [below?, digits?_padded two_pos (n.isLt.trans_le hb)]
  exact dif_pos n.isLt

theorem behind?_cons (mark : Char) (rest : List Char) : behind? mark (mark :: rest) = some rest :=
  if_pos rfl

/-- The parts of a day have room in their places. -/
theorem Date.bounds (date : Date) :
    date.year < 10 ^ 4 ∧ date.month < 10 ^ 2 ∧ date.day < 10 ^ 2 := by
  have hreal := date.real
  simp only [isDay, Bool.and_eq_true, decide_eq_true_eq, Option.any_eq_true] at hreal
  obtain ⟨hyear, length, hlength, -, hday⟩ := hreal
  rw [monthLength?] at hlength
  -- A month is one of twelve, and its length at most thirty-one.
  split at hlength
  · next hmonth =>
    obtain rfl := Option.some.inj hlength
    simp only [List.mem_cons, List.not_mem_nil, or_false] at hmonth
    omega
  split at hlength
  · next hmonth =>
    obtain rfl := Option.some.inj hlength
    simp only [List.mem_cons, List.not_mem_nil, or_false] at hmonth
    omega
  split at hlength
  · next hmonth =>
    obtain rfl := Option.some.inj hlength
    split at hday <;> omega
  · contradiction

theorem dateAt?_chars (date : Date) (rest : List Char) :
    dateAt? (date.chars ++ rest) = some (date, rest) := by
  obtain ⟨hyear, hmonth, hday⟩ := date.bounds
  simp only [dateAt?, Date.chars, List.append_assoc, List.cons_append, behind?_cons,
    digits?_padded (by decide : 0 < 4) hyear, digits?_padded two_pos hmonth,
    digits?_padded two_pos hday, bind, Option.bind]
  exact dif_pos date.real

theorem microsAt?_chars (micros : Fin 1000000) {rest : List Char} (hrest : behind? '.' rest = none) :
    microsAt? ((if micros = 0 then [] else '.' :: paddedDigits 6 micros) ++ rest) =
      some (micros, rest) := by
  split
  · next hzero => rw [List.nil_append, microsAt?, hrest, hzero]
  · have hfits : (micros : ℕ) < 10 ^ 6 := micros.isLt
    rw [List.cons_append, microsAt?, behind?_cons]
    dsimp only
    rw [digits?_padded (by decide) hfits]
    exact dif_pos micros.isLt

/-- A time of day is found before anything that does not look like a fraction. -/
theorem clockAt?_chars (clock : Clock) {rest : List Char} (hrest : behind? '.' rest = none) :
    clockAt? (clock.chars ++ rest) = some (clock, rest) := by
  simp only [clockAt?, Clock.chars, List.append_assoc, List.cons_append, behind?_cons,
    below?_padded (by decide : 24 ≤ 10 ^ 2), below?_padded (by decide : 60 ≤ 10 ^ 2),
    microsAt?_chars clock.micros hrest, bind, Option.bind]
  rfl

theorem Zone.of_parts (zone : Zone) {behind : Bool} {hours : Fin 24} {minutes : Fin 60}
    (hb : behind = true ↔ zone.minutes < 0) (hh : hours.val = zone.minutes.natAbs / 60)
    (hm : minutes.val = zone.minutes.natAbs % 60) : Zone.of behind hours minutes = zone := by
  obtain ⟨distance, short⟩ := zone
  dsimp only at hb hh hm
  have hsum : 60 * (hours : ℕ) + minutes = distance.natAbs := by omega
  simp only [Zone.of, hsum, Zone.mk.injEq, signed]
  split
  · next hbehind =>
    have hneg := hb.mp hbehind
    omega
  · next hahead =>
    have hpos := mt hb.mpr hahead
    omega

theorem zoneOf?_chars (zone : Option Zone) :
    zoneOf? ((zone.map Zone.chars).getD []) = some zone := by
  cases zone with
  | none => rfl
  | some zone =>
    have hhours : zone.minutes.natAbs / 60 < 24 := by
      have hshort := zone.short
      omega
    have hminutes : zone.minutes.natAbs % 60 < 60 := Nat.mod_lt _ (by decide)
    have hread : ∀ sign, (sign = '+' || sign = '-') = true → zoneOf? (sign ::
        (paddedDigits 2 (zone.minutes.natAbs / 60) ++ ':' ::
          paddedDigits 2 (zone.minutes.natAbs % 60))) =
        some (some (.of (sign = '-') ⟨_, hhours⟩ ⟨_, hminutes⟩)) := by
      intro sign hsign
      have hlast := below?_padded (by decide : 60 ≤ 10 ^ 2) ⟨_, hminutes⟩ []
      rw [List.append_nil] at hlast
      simp only [zoneOf?, hsign, if_true, behind?_cons, bind, Option.bind,
        below?_padded (by decide : 24 ≤ 10 ^ 2) ⟨_, hhours⟩, hlast]
      rfl
    rw [Option.map_some, Option.getD_some, Zone.chars]
    split
    · next hbehind => rw [hread '-' rfl, zone.of_parts (by simp [hbehind]) rfl rfl]
    · next hahead => rw [hread '+' rfl, zone.of_parts (by simp [hahead]) rfl rfl]

/-- The distance does not look like a fraction of a second. -/
theorem behind?_zone (zone : Option Zone) :
    behind? '.' ((zone.map Zone.chars).getD []) = none := by
  cases zone with
  | none => rfl
  | some zone =>
    rw [Option.map_some, Option.getD_some, Zone.chars]
    split <;> rfl

/-- A written moment is read as that moment. -/
theorem ofText?_text (moment : Moment) : ofText? moment.text = some moment := by
  simp only [ofText?, text, String.toList_ofList, List.append_assoc, List.cons_append,
    dateAt?_chars, behind?_cons, clockAt?_chars moment.clock (behind?_zone moment.zone),
    zoneOf?_chars, bind, Option.bind]
  exact dif_pos moment.counted

end Storyboard.Moment

namespace Storyboard.Sample

/-- Noon on the first of May. -/
def now : Moment := ⟨⟨2024, 5, 1, by decide⟩, by decide, .of 12 0 0 0, some .universal⟩

end Storyboard.Sample
