import RowLoader.Proofs.WrittenNumbers

/-!
Dates and times that are written and read again. The reader takes many more forms than the printer
makes, and tells a date from a date with time by nothing but the length of the text. On what the
printer makes each part is read back as it was written; only an offset of a fraction of a second is
lost, and the time is then taken to be universal.
-/

namespace RowLoader

open RowLoader.Text RowLoader.Number RowLoader.Identifier

namespace Text

section

variable {width n : Nat} (wide : 0 < width) (fits : n < 10 ^ width)

theorem all_padded (width n : Nat) : (padded width n).all isAsciiDigit = true := by
  rw [padded, List.all_append, all_zeros, all_digitsOf]
  rfl

@[simp]
theorem natOfDigits_padded (width n : Nat) : natOfDigits (padded width n) = n := by
  rw [padded, natOfDigits_zeros_append, natOfDigits_digitsOf]

include wide fits in
theorem length_padded : (padded width n).length = width := by
  have short : (digitsOf n).length ≤ width :=
    (Nat.length_toDigits_le_iff (by decide) wide).mpr fits
  simp [padded]
  omega

theorem padded_eq_cons (width n : Nat) :
    ∃ c rest, padded width n = c :: rest ∧ isAsciiDigit c = true := by
  have filled : padded width n ≠ [] := List.append_ne_nil_of_right_ne_nil _ (digitsOf_ne_nil n)
  obtain ⟨c, rest, shape⟩ := List.exists_cons_of_ne_nil filled
  have first := List.all_eq_true.mp (all_padded width n) c (by simp [shape])
  exact ⟨c, rest, shape, first⟩

end

end Text

namespace Calendar

section

variable {width n : Nat} (wide : 0 < width) (fits : n < 10 ^ width)
include wide fits

theorem takeNumber_padded_append (rest : List Char) :
    takeNumber width (padded width n ++ rest) = some (n, rest) := by
  have long := length_padded wide fits
  unfold takeNumber
  rw [List.take_left' long, List.drop_left' long]
  simp [long, all_padded]

theorem takeNumber_padded : takeNumber width (padded width n) = some (n, []) := by
  simpa using takeNumber_padded_append wide fits []

end

section

variable {d : Date} (valid : d.Valid)
include valid

theorem Date.Valid.year_fits : d.year < 10 ^ 4 := by
  have bound := valid.2.1
  omega

theorem Date.Valid.month_fits : d.month < 10 ^ 2 := by
  have bound := valid.2.2.2.1
  omega

theorem Date.Valid.day_fits : d.day < 10 ^ 2 := by
  have bound := valid.2.2.2.2.2
  have month : monthLength d.year d.month ≤ 31 := by
    unfold monthLength
    split
    · split <;> decide
    · split <;> decide
  omega

theorem length_writeDate : d.write.length = 10 := by
  simp [Date.write, length_padded _ valid.year_fits, length_padded _ valid.month_fits,
    length_padded _ valid.day_fits]

theorem readDatePart?_write : readDatePart? d.write = some (d.year, d.month, d.day) := by
  obtain ⟨c, rest, shape, digit⟩ := padded_eq_cons 2 d.month
  have monthly : readMonthDay? d.year true (padded 2 d.month ++ '-' :: padded 2 d.day) =
      some (d.year, d.month, d.day) := by
    simp [readMonthDay?, takeNumber_padded_append _ valid.month_fits, expect,
      takeNumber_padded _ valid.day_fits]
  have week : c ≠ 'W' := by
    rintro rfl
    exact absurd digit (by decide)
  unfold readDatePart? Date.write
  rw [List.append_assoc, takeNumber_padded_append (by decide) valid.year_fits]
  rw [shape] at monthly ⊢
  simp only [Option.bind_eq_bind, Option.bind_some, List.cons_append, takeHyphen]
  split
  · rename_i same
    exact absurd (List.cons.inj same).1 week
  · exact monthly

theorem ofFields_of_valid : Date.ofFields d.year d.month d.day = .ok d := by
  obtain ⟨firstYear, lastYear, firstMonth, lastMonth, firstDay, lastDay⟩ := valid
  unfold Date.ofFields
  rw [if_neg (by omega), if_neg (by omega), if_neg (by omega)]

end

theorem readFields?_field {n : Nat} (fits : n < 10 ^ 2) (k : Nat) (known : List Nat)
    {rest : List Char} (filled : rest ≠ []) :
    readFields? true (k + 1) known (padded 2 n ++ ':' :: rest) =
      readFields? true k (known ++ [n]) rest := by
  obtain ⟨c, later, rfl⟩ := List.exists_cons_of_ne_nil filled
  rw [readFields?, takeNumber_padded_append (by decide) fits]
  simp [continuation]

theorem readFields?_last {n : Nat} (fits : n < 10 ^ 2) (k : Nat) (known : List Nat) :
    readFields? true (k + 1) known (padded 2 n) = some (known ++ [n], 0, false) := by
  rw [readFields?, takeNumber_padded (by decide) fits]
  simp [continuation]

theorem readFraction?_padded {n : Nat} (fits : n < 10 ^ 6) :
    readFraction? (padded 6 n) = some (n, false) := by
  have six : min (padded 6 n).length 6 = 6 := by rw [length_padded (by decide) fits]; rfl
  unfold readFraction?
  dsimp only
  rw [six, takeNumber_padded (by decide) fits]
  simp [leftover]

theorem readFields?_fraction {n micro : Nat} (fits : n < 10 ^ 2) (small : micro < 10 ^ 6) (k : Nat)
    (known : List Nat) :
    readFields? true (k + 1) known (padded 2 n ++ '.' :: padded 6 micro) =
      some (known ++ [n], micro, false) := by
  obtain ⟨c, later, shape, _⟩ := padded_eq_cons 6 micro
  have read := readFraction?_padded small
  rw [readFields?, takeNumber_padded_append (by decide) fits]
  rw [shape] at read ⊢
  simp [continuation, read]

theorem usesColons_drop {n : Nat} (fits : n < 10 ^ 2) (rest : List Char) :
    usesColons ((padded 2 n ++ ':' :: rest).drop 2) = true := by
  rw [List.drop_left' (length_padded (by decide) fits)]
  rfl

section

variable {hour minute second micro : Nat} (hours : hour < 10 ^ 2) (minutes : minute < 10 ^ 2)
  (seconds : second < 10 ^ 2) (micros : micro < 10 ^ 6)
include hours minutes

theorem readClock?_minutes :
    readClock? (padded 2 hour ++ ':' :: padded 2 minute) = some (⟨hour, minute, 0, 0⟩, false) := by
  obtain ⟨c, later, shape, _⟩ := padded_eq_cons 2 minute
  unfold readClock?
  rw [usesColons_drop hours, readFields?_field hours 2 [] (by simp [shape]),
    readFields?_last minutes 1]
  rfl

include seconds micros

/-- A clock is read as it was written, and nothing is left of it. -/
theorem readClock?_write :
    readClock? (writeClock hour minute second micro) =
      some (⟨hour, minute, second, micro⟩, false) := by
  have filled : padded 2 second ≠ [] := by
    obtain ⟨c, later, shape, _⟩ := padded_eq_cons 2 second
    simp [shape]
  unfold readClock? writeClock
  simp only [List.append_assoc, List.cons_append]
  rw [usesColons_drop hours, readFields?_field hours 2 [] (by simp), List.nil_append,
    readFields?_field minutes 1 [hour] (by simp [filled])]
  by_cases whole : micro = 0
  · rw [if_pos whole, List.append_nil, readFields?_last seconds 0, whole]
    rfl
  · rw [if_neg whole, readFields?_fraction seconds micros 0]
    rfl

end

theorem mem_writeClock {hour minute second micro : Nat} {c : Char}
    (member : c ∈ writeClock hour minute second micro) :
    isAsciiDigit c = true ∨ c = ':' ∨ c = '.' := by
  have digit : ∀ {width n : Nat}, c ∈ padded width n → isAsciiDigit c = true :=
    fun {width n} inside => List.all_eq_true.mp (all_padded width n) c inside
  unfold writeClock at member
  simp only [List.mem_append, List.mem_cons] at member
  rcases member with ((inside | colon | inside) | colon | inside) | small
  · exact .inl (digit inside)
  · exact .inr (.inl colon)
  · exact .inl (digit inside)
  · exact .inr (.inl colon)
  · exact .inl (digit inside)
  · split at small
    · cases small
    · rcases List.mem_cons.mp small with point | inside
      · exact .inr (.inr point)
      · exact .inl (digit inside)

theorem opensOffset_of_mem_writeClock {hour minute second micro : Nat} {c : Char}
    (member : c ∈ writeClock hour minute second micro) : opensOffset c = false := by
  have digits : asciiDigits.all (fun d => !opensOffset d) = true := by decide
  rcases mem_writeClock member with digit | rfl | rfl
  · simpa using List.all_eq_true.mp digits c (mem_asciiDigits digit)
  · decide
  · decide

/-- What is left of an offset when it is read: nothing of one that is shorter than a second. -/
def keptOffset (offset : Int) : Int :=
  if offset.natAbs < 1000000 then 0 else offset

def offsetClock (offset : Int) : Clock :=
  ⟨offset.natAbs / 1000000 / 3600, offset.natAbs / 1000000 / 60 % 60,
    offset.natAbs / 1000000 % 60, offset.natAbs % 1000000⟩

theorem offsetOf_offsetClock (offset : Int) :
    offsetOf (decide (offset < 0)) (offsetClock offset) = keptOffset offset := by
  unfold offsetOf offsetClock keptOffset
  dsimp only
  by_cases below : offset < 0
  · simp only [below, decide_true, if_true]
    split
    · rw [if_pos (by omega)]
    · rw [if_neg (by omega)]
      omega
  · simp only [below, decide_false, Bool.false_eq_true, if_false]
    split
    · rw [if_pos (by omega)]
    · rw [if_neg (by omega)]
      omega

/-- A clock behind the sign of an offset: the seconds are left out when they tell nothing. -/
def Clock.brief (c : Clock) : List Char :=
  if c.second = 0 ∧ c.microsecond = 0 then padded 2 c.hour ++ ':' :: padded 2 c.minute
  else writeClock c.hour c.minute c.second c.microsecond

theorem writeOffset_eq (offset : Int) :
    writeOffset offset = (if offset < 0 then '-' else '+') :: (offsetClock offset).brief := by
  unfold writeOffset Clock.brief writeClock offsetClock
  dsimp only
  by_cases micros : offset.natAbs % 1000000 = 0
  · by_cases seconds : offset.natAbs / 1000000 % 60 = 0
    · simp [micros, seconds]
    · simp [micros, seconds]
  · simp [micros]

theorem readClock?_brief {c : Clock} (hours : c.hour < 10 ^ 2) (minutes : c.minute < 10 ^ 2)
    (seconds : c.second < 10 ^ 2) (micros : c.microsecond < 10 ^ 6) :
    readClock? c.brief = some (c, false) := by
  obtain ⟨hour, minute, second, micro⟩ := c
  unfold Clock.brief
  dsimp only at hours minutes seconds micros ⊢
  split
  · rename_i told
    rw [readClock?_minutes hours minutes, told.1, told.2]
  · exact readClock?_write hours minutes seconds micros

section

variable {offset : Int} (short : -dayLength < offset ∧ offset < dayLength)
include short

theorem readClock?_offset :
    readClock? (offsetClock offset).brief = some (offsetClock offset, false) := by
  unfold dayLength at short
  apply readClock?_brief
  · change offset.natAbs / 1000000 / 3600 < 100
    omega
  · change offset.natAbs / 1000000 / 60 % 60 < 100
    omega
  · change offset.natAbs / 1000000 % 60 < 100
    omega
  · change offset.natAbs % 1000000 < 1000000
    omega

theorem readOffset?_write : readOffset? (writeOffset offset) = some (keptOffset offset) := by
  have kept := offsetOf_offsetClock offset
  rw [writeOffset_eq]
  by_cases below : offset < 0
  · simpa [readOffset?, below, readClock?_offset short] using kept
  · simpa [readOffset?, below, readClock?_offset short] using kept

theorem keptOffset_short : -dayLength < keptOffset offset ∧ keptOffset offset < dayLength := by
  unfold keptOffset dayLength at *
  split
  · decide
  · exact short

end

def stampMarks : List Char :=
  asciiDigits ++ "-:.+T ".toList

theorem mem_stampMarks_of_padded {width n : Nat} {c : Char} (member : c ∈ padded width n) :
    c ∈ stampMarks :=
  List.mem_append_left _ (mem_asciiDigits (List.all_eq_true.mp (all_padded width n) c member))

theorem mem_stampMarks_of_writeDate {d : Date} {c : Char} (member : c ∈ d.write) :
    c ∈ stampMarks := by
  unfold Date.write at member
  simp only [List.mem_append, List.mem_cons] at member
  rcases member with (inside | rfl | inside) | rfl | inside
  · exact mem_stampMarks_of_padded inside
  · decide
  · exact mem_stampMarks_of_padded inside
  · decide
  · exact mem_stampMarks_of_padded inside

theorem mem_stampMarks_of_writeClock {hour minute second micro : Nat} {c : Char}
    (member : c ∈ writeClock hour minute second micro) : c ∈ stampMarks := by
  rcases mem_writeClock member with digit | rfl | rfl
  · exact List.mem_append_left _ (mem_asciiDigits digit)
  · decide
  · decide

theorem mem_stampMarks_of_writeOffset {offset : Int} {c : Char}
    (member : c ∈ writeOffset offset) : c ∈ stampMarks := by
  rw [writeOffset_eq] at member
  rcases List.mem_cons.mp member with rfl | inside
  · split <;> decide
  · unfold Clock.brief at inside
    split at inside
    · simp only [List.mem_append, List.mem_cons] at inside
      rcases inside with hours | rfl | minutes
      · exact mem_stampMarks_of_padded hours
      · decide
      · exact mem_stampMarks_of_padded minutes
    · exact mem_stampMarks_of_writeClock inside

def offsetPart (offset : Option Int) : List Char :=
  (offset.map writeOffset).getD []

theorem Timestamp.write_eq (separator : Char) (t : Timestamp) :
    t.write separator = t.date.write ++
      separator :: (writeClock t.hour t.minute t.second t.microsecond ++ offsetPart t.offset) := by
  unfold Timestamp.write offsetPart
  rw [List.append_assoc, List.cons_append]
  cases t.offset <;> rfl

theorem mem_stampMarks_of_write {separator : Char} (between : separator ∈ ['T', ' '])
    {t : Timestamp} {c : Char} (member : c ∈ t.write separator) : c ∈ stampMarks := by
  rw [Timestamp.write_eq] at member
  rcases List.mem_append.mp member with date | later
  · exact mem_stampMarks_of_writeDate date
  · rcases List.mem_cons.mp later with rfl | behind
    · have each : ['T', ' '].all (· ∈ stampMarks) = true := by decide
      exact of_decide_eq_true (List.all_eq_true.mp each _ between)
    · rcases List.mem_append.mp behind with clock | signed
      · exact mem_stampMarks_of_writeClock clock
      · unfold offsetPart at signed
        cases shown : t.offset with
        | none => simp [shown] at signed
        | some offset =>
            rw [shown] at signed
            exact mem_stampMarks_of_writeOffset signed

theorem octets_of_ascii {s : List Char} (ascii : ∀ c ∈ s, c.toNat < 128) : octets s = s := by
  unfold octets Utf8.encode
  induction s with
  | nil => rfl
  | cons c rest ih =>
      have small := ascii c List.mem_cons_self
      have byte : Char.ofNat (UInt8.ofNat c.toNat).toNat = c := by
        rw [UInt8.toNat_ofNat', Nat.mod_eq_of_lt (by omega), Char.ofNat_toNat]
      have one : Utf8.encodeChar c = [UInt8.ofNat c.toNat] := if_pos small
      rw [List.flatMap_cons, one, List.map_append,
        ih fun d member => ascii d (List.mem_cons_of_mem c member), List.map_singleton, byte]
      rfl

theorem octets_of_stampMarks {s : List Char} (plain : ∀ c ∈ s, c ∈ stampMarks) : octets s = s := by
  have each : stampMarks.all (fun d => d.toNat < 128) = true := by decide
  exact octets_of_ascii fun c member =>
    of_decide_eq_true (List.all_eq_true.mp each c (plain c member))

theorem read_writeDate {d : Date} (valid : d.Valid) : Date.read d.write = .ok d := by
  unfold Date.read
  rw [octets_of_stampMarks fun _ => mem_stampMarks_of_writeDate]
  dsimp only
  rw [if_pos (length_writeDate valid), readDatePart?_write valid]
  exact ofFields_of_valid valid

section

variable {t : Timestamp} (valid : t.Valid) {separator : Char} (between : separator ∈ ['T', ' '])
include valid

theorem readTimePart?_write :
    readTimePart? (writeClock t.hour t.minute t.second t.microsecond ++ offsetPart t.offset) =
      some (⟨t.hour, t.minute, t.second, t.microsecond⟩, t.offset.map keptOffset) := by
  obtain ⟨_, hours, minutes, seconds, micros, short⟩ := valid
  have clock : ∀ c ∈ writeClock t.hour t.minute t.second t.microsecond,
      (!opensOffset c) = true := fun c member => by
    simp [opensOffset_of_mem_writeClock member]
  have read : readClock? (writeClock t.hour t.minute t.second t.microsecond) =
      some (⟨t.hour, t.minute, t.second, t.microsecond⟩, false) :=
    readClock?_write (by omega) (by omega) (by omega) (by omega)
  unfold readTimePart? offsetPart
  rw [List.takeWhile_append_of_pos clock, List.dropWhile_append_of_pos clock]
  cases shown : t.offset with
  | none => simp [read]
  | some offset =>
      have signed := readOffset?_write (short offset shown)
      rw [Option.map_some, Option.getD_some]
      rw [writeOffset_eq] at signed ⊢
      by_cases below : offset < 0
      · simp only [below, if_true] at signed ⊢
        simp [opensOffset, read, signed]
      · simp only [below, if_false] at signed ⊢
        simp [opensOffset, read, signed]

/-- The date part of a written point in time is its first ten characters: a hyphen stands behind the
year, and no week follows. -/
theorem datePartLength_write (c : Char) (rest : List Char) :
    datePartLength (t.date.write ++ c :: rest) = 10 := by
  obtain ⟨first, later, shape, digit⟩ := padded_eq_cons 2 t.date.month
  have four : (padded 4 t.date.year).length = 4 := length_padded (by decide) valid.1.year_fits
  have parts : t.date.write ++ c :: rest =
      padded 4 t.date.year ++ '-' :: first :: (later ++ '-' :: padded 2 t.date.day ++ c :: rest) := by
    simp [Date.write, shape]
  have long : (t.date.write ++ c :: rest).length ≠ 7 := by
    rw [List.length_append, length_writeDate valid.1]
    omega
  have hyphen : standsAt (t.date.write ++ c :: rest) 4 (· = '-') = true := by
    rw [parts, standsAt, List.getElem?_append_right (by omega), four]
    rfl
  have week : standsAt (t.date.write ++ c :: rest) 5 (· = 'W') = false := by
    rw [parts, standsAt, List.getElem?_append_right (by omega), four]
    apply decide_eq_false
    rintro rfl
    exact absurd digit (by decide)
  unfold datePartLength
  rw [if_neg long, if_pos hyphen, if_neg (by simp [week])]

theorem ofParts_of_valid :
    Timestamp.ofParts (t.date.year, t.date.month, t.date.day)
        ⟨t.hour, t.minute, t.second, t.microsecond⟩ (t.offset.map keptOffset) =
      .ok { t with offset := t.offset.map keptOffset } := by
  obtain ⟨date, hours, minutes, seconds, _, short⟩ := valid
  have offset : checkOffset (t.offset.map keptOffset) = .ok () := by
    cases shown : t.offset with
    | none => rfl
    | some o => exact if_pos (keptOffset_short (short o shown))
  have clock : Clock.check ⟨t.hour, t.minute, t.second, t.microsecond⟩ = .ok () := by
    unfold Clock.check
    rw [if_neg (by simpa using by omega), if_neg (by simpa using by omega),
      if_neg (by simpa using by omega)]
  unfold Timestamp.ofParts
  rw [offset, ofFields_of_valid date, clock]
  rfl

theorem length_writeTimestamp : (t.write separator).length ≠ 10 := by
  rw [Timestamp.write_eq, List.length_append, length_writeDate valid.1]
  simp

include between

/-- A point in time that is written is read again, its offset as far as it is kept. -/
theorem read_writeTimestamp :
    Timestamp.read (t.write separator) = .ok { t with offset := t.offset.map keptOffset } := by
  have ten := length_writeDate valid.1
  have ascii : separator.toNat < 128 := by
    have each : ['T', ' '].all (fun d => d.toNat < 128) = true := by decide
    exact of_decide_eq_true (List.all_eq_true.mp each separator between)
  have rest : readRest? (separator ::
      (writeClock t.hour t.minute t.second t.microsecond ++ offsetPart t.offset)) =
        some (⟨t.hour, t.minute, t.second, t.microsecond⟩, t.offset.map keptOffset) := by
    simp only [readRest?, dropCharacter, octetCount, ascii, List.isEmpty_cons, Bool.false_eq_true,
      if_true, if_false, List.drop_succ_cons, List.drop_zero]
    exact readTimePart?_write valid
  have parts : readParts? (t.write separator) = some ((t.date.year, t.date.month, t.date.day),
      ⟨t.hour, t.minute, t.second, t.microsecond⟩, t.offset.map keptOffset) := by
    unfold readParts?
    rw [Timestamp.write_eq, datePartLength_write valid, List.take_left' ten, List.drop_left' ten,
      readDatePart?_write valid.1, rest, if_neg (by simp [ten]; omega)]
    rfl
  unfold Timestamp.read
  rw [octets_of_stampMarks fun _ => mem_stampMarks_of_write between, parts]
  exact ofParts_of_valid valid

end

end Calendar

namespace Resolve

open RowLoader.Header RowLoader.Dictionary RowLoader.Store RowLoader.Calendar

theorem readTemporal_text {d : Date} (valid : d.Valid) : readTemporal d.text = .ok (.day d) := by
  have letters : d.text.toList = d.write := String.toList_ofList
  have ten : d.text.length = 10 := by rw [← String.length_toList, letters, length_writeDate valid]
  rw [readTemporal, if_pos ten, letters, read_writeDate valid]
  rfl

theorem readTemporal_timestampText {t : Timestamp} (valid : t.Valid) {separator : Char}
    (between : separator ∈ ['T', ' ']) :
    readTemporal (t.text separator) = .ok (.moment { t with offset := t.offset.map keptOffset }) := by
  have letters : (t.text separator).toList = t.write separator := String.toList_ofList
  have other : (t.text separator).length ≠ 10 := by
    rw [← String.length_toList, letters]
    exact length_writeTimestamp valid
  rw [readTemporal, if_neg other, letters, read_writeTimestamp valid between]
  rfl

theorem isNull_of_stampMarks {s : List Char} (filled : s ≠ []) (plain : ∀ c ∈ s, c ∈ stampMarks) :
    isNull (some (String.ofList s)) = false := by
  have each : stampMarks.all (fun d => '(' ∉ lowerForm d) = true := by decide
  rw [← String.toList_ofList (l := s)] at filled plain
  exact isNull_of_unopened filled fun c member =>
    of_decide_eq_true (List.all_eq_true.mp each c (plain c member))

theorem runOn_resolve_temporal {w : Workspace} (usable : w.breakdown = none) {table : String}
    {f : Field} (plain : f.lookup = none)
    (column : kindOf (ask w.store w.memo table f.target).1 = .temporal) {raw : String} {v : Value}
    (filled : isNull (some raw) = false) (read : readTemporal raw = .ok v) (row : Int) :
    ((resolve table f (some raw) row).runOn w).1 = .ok v := by
  rw [runOn_resolve_cast usable table plain filled row, cast, column]
  dsimp only
  rw [read]

/-- Without look-up, a date that is written into a cell of a temporal column comes back, and so does a
date with time, whichever of the two characters stands between them: its fields as they were, and its
offset unless that is shorter than a second, which is read as no difference at all. -/
theorem resolve_returns_written_times {w : Workspace} (usable : w.breakdown = none)
    (table : String) {f : Field} (plain : f.lookup = none)
    (column : kindOf (ask w.store w.memo table f.target).1 = .temporal) (row : Int) :
    (∀ d : Date, d.Valid →
      ((resolve table f (some d.text) row).runOn w).1 = .ok (.day d)) ∧
    ∀ t : Timestamp, t.Valid → ∀ separator ∈ ['T', ' '],
      ((resolve table f (some (t.text separator)) row).runOn w).1 =
        .ok (.moment { t with
          offset := t.offset.map fun o => if o.natAbs < 1000000 then 0 else o }) := by
  refine ⟨fun d valid => ?_, fun t valid separator between => ?_⟩
  · have filled : d.write ≠ [] :=
      List.ne_nil_of_length_pos (by rw [length_writeDate valid]; decide)
    exact runOn_resolve_temporal usable plain column
      (isNull_of_stampMarks filled fun _ => mem_stampMarks_of_writeDate) (readTemporal_text valid) row
  · have filled : t.write separator ≠ [] := by
      rw [Timestamp.write_eq]
      simp
    exact runOn_resolve_temporal usable plain column
      (isNull_of_stampMarks filled fun _ => mem_stampMarks_of_write between)
      (readTemporal_timestampText valid between) row

def stampedWorkspace : Workspace :=
  { pricedWorkspace with store := describing parts [("Part_ID", 13), ("Created", 16)] 3 1 none }

def createdField : Field :=
  .read (some "Created") 1

theorem part_times_return :
    ((resolve "Part" createdField (some (Date.text ⟨2024, 2, 29⟩)) 2).runOn stampedWorkspace).1 =
        .ok (.day ⟨2024, 2, 29⟩) ∧
      ((resolve "Part" createdField
          (some (Timestamp.text ' ' ⟨⟨1, 1, 1⟩, 23, 59, 59, 500, some (-19815000000)⟩)) 2).runOn
        stampedWorkspace).1 = .ok (.moment ⟨⟨1, 1, 1⟩, 23, 59, 59, 500, some (-19815000000)⟩) := by
  have column : kindOf (ask stampedWorkspace.store stampedWorkspace.memo "Part"
      createdField.target).1 = .temporal := by decide +kernel
  have returned := resolve_returns_written_times (w := stampedWorkspace) rfl "Part"
    (f := createdField) rfl column 2
  exact ⟨returned.1 ⟨2024, 2, 29⟩ (by decide),
    returned.2 ⟨⟨1, 1, 1⟩, 23, 59, 59, 500, some (-19815000000)⟩
      ⟨by decide, by decide, by decide, by decide, by decide, by decide⟩ ' ' (by decide)⟩

/-- An offset of half a second is lost. -/
theorem half_second_offset_lost :
    Timestamp.Valid ⟨⟨2024, 1, 2⟩, 3, 4, 5, 0, some 500000⟩ ∧
      Timestamp.text 'T' ⟨⟨2024, 1, 2⟩, 3, 4, 5, 0, some 500000⟩ =
        "2024-01-02T03:04:05+00:00:00.500000" ∧
      ((resolve "Part" createdField (some "2024-01-02T03:04:05+00:00:00.500000") 2).runOn
        stampedWorkspace).1 = .ok (.moment ⟨⟨2024, 1, 2⟩, 3, 4, 5, 0, some 0⟩) ∧
      ((resolve "Part" createdField (some "2024-01-02T03:04:05+00:00:00.500000") 2).runOn
        stampedWorkspace).1 ≠ .ok (.moment ⟨⟨2024, 1, 2⟩, 3, 4, 5, 0, some 500000⟩) := by
  have read : ((resolve "Part" createdField (some "2024-01-02T03:04:05+00:00:00.500000") 2).runOn
      stampedWorkspace).1 = .ok (.moment ⟨⟨2024, 1, 2⟩, 3, 4, 5, 0, some 0⟩) := by decide +kernel
  refine ⟨⟨by decide, by decide, by decide, by decide, by decide, by decide⟩, by decide +kernel,
    read, ?_⟩
  rw [read]
  simp

end Resolve

end RowLoader
