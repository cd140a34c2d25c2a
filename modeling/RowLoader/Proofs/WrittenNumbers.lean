import RowLoader.Proofs.Casts

/-!
Numbers that are written and read again. What a printer makes of a number is a numeral, and the number
that this numeral spells is the one that was printed: a decimal keeps its sign, its coefficient and its
exponent, whether it is written with a point among its digits, with zeros in front or with an exponent.
-/

namespace RowLoader

open RowLoader.Text RowLoader.Number RowLoader.Identifier

namespace Text

theorem natOfDigits_eq (s : List Char) : natOfDigits s = Nat.ofDigitChars 10 s 0 := by
  simp [natOfDigits, numberOf, List.foldl_map, Nat.ofDigitChars]

@[simp]
theorem natOfDigits_digitsOf (n : Nat) : natOfDigits (digitsOf n) = n := by
  rw [natOfDigits_eq, digitsOf, Nat.ofDigitChars_ten_toDigits]

theorem digitsOf_ne_nil (n : Nat) : digitsOf n ≠ [] :=
  Nat.toDigits_ne_nil

theorem isAsciiDigit_of_mem_digitsOf {n : Nat} {c : Char} (member : c ∈ digitsOf n) :
    isAsciiDigit c = true := by
  have digit := Nat.isDigit_of_mem_toDigits (by decide) (by decide) member
  simpa [isAsciiDigit, Char.isDigit, Char.le_def] using digit

theorem all_digitsOf (n : Nat) : (digitsOf n).all isAsciiDigit = true :=
  List.all_eq_true.mpr fun _ member => isAsciiDigit_of_mem_digitsOf member

theorem all_zeros (k : Nat) : (List.replicate k '0').all isAsciiDigit = true := by
  rw [List.all_eq_true]
  intro c member
  rw [List.eq_of_mem_replicate member]
  decide

theorem natOfDigits_zeros_append (k : Nat) (s : List Char) :
    natOfDigits (List.replicate k '0' ++ s) = natOfDigits s := by
  induction k with
  | zero => rfl
  | succ k ih =>
      rw [List.replicate_succ, List.cons_append, ← ih]
      rfl

theorem takeWhile_digits_append {digits rest : List Char} (each : digits.all isAsciiDigit = true)
    (stop : ∀ c ∈ rest.head?, isAsciiDigit c = false) :
    (digits ++ rest).takeWhile isAsciiDigit = digits ∧
      (digits ++ rest).dropWhile isAsciiDigit = rest := by
  have all := List.all_eq_true.mp each
  rw [List.takeWhile_append_of_pos all, List.dropWhile_append_of_pos all]
  cases rest with
  | nil => simp
  | cons c later => simp [stop c rfl]

end Text

namespace Number

@[simp]
theorem applySign_natAbs (n : Int) : applySign (decide (n < 0)) n.natAbs = n := by
  by_cases below : n < 0
  · simp only [applySign, below, decide_true, if_true]
    omega
  · simp only [applySign, below, decide_false, Bool.false_eq_true, if_false]
    omega

namespace Decimal

/-- A text that spells a coefficient and an exponent, without a sign. -/
structure Spells (body : List Char) (coefficient : Nat) (exponent : Int) : Prop where
  numeral : isUnsigned body = true
  magnitude : magnitude body = (coefficient, exponent)

section

variable {rest : List Char} {e : Int} (tail : readExponent? rest = some e)
include tail

/-- What is read as an exponent begins with its letter, if it is there at all. -/
theorem head_of_readExponent? : ∀ c ∈ rest.head?, c = 'e' ∨ c = 'E' := by
  cases rest with
  | nil => simp
  | cons first later =>
      by_contra other
      have mismatch : ¬(first = 'e' ∨ first = 'E') := by simpa using other
      rw [readExponent?, if_neg mismatch] at tail
      cases tail

theorem stop_of_readExponent? : ∀ c ∈ rest.head?, isAsciiDigit c = false := by
  intro c first
  rcases head_of_readExponent? tail c first with rfl | rfl <;> decide

theorem takeFraction_of_readExponent? : takeFraction rest = ([], rest) := by
  unfold takeFraction
  split
  · rcases head_of_readExponent? tail '.' rfl with same | same <;> cases same
  · rfl

theorem spells_whole {whole : List Char} (filled : whole ≠ [])
    (digits : whole.all isAsciiDigit = true) : Spells (whole ++ rest) (natOfDigits whole) e := by
  obtain ⟨taken, left⟩ := takeWhile_digits_append digits (stop_of_readExponent? tail)
  have full : whole.isEmpty = false := List.isEmpty_eq_false_iff.mpr filled
  constructor
  · simp [isUnsigned, taken, left, takeFraction_of_readExponent? tail, tail, full]
  · simp [Decimal.magnitude, taken, left, takeFraction_of_readExponent? tail, tail]

theorem spells_point {whole fraction : List Char} (filled : whole ≠ [])
    (digits : whole.all isAsciiDigit = true) (decimals : fraction.all isAsciiDigit = true) :
    Spells (whole ++ '.' :: (fraction ++ rest)) (natOfDigits (whole ++ fraction))
      (e - fraction.length) := by
  have point : ∀ c ∈ ('.' :: (fraction ++ rest)).head?, isAsciiDigit c = false := by
    simp only [List.head?_cons, Option.mem_some_iff, forall_eq']
    decide
  obtain ⟨taken, left⟩ := takeWhile_digits_append digits point
  obtain ⟨behind, end_⟩ := takeWhile_digits_append decimals (stop_of_readExponent? tail)
  have full : whole.isEmpty = false := List.isEmpty_eq_false_iff.mpr filled
  constructor
  · simp [isUnsigned, taken, left, takeFraction, behind, end_, tail, full]
  · simp [Decimal.magnitude, taken, left, takeFraction, behind, end_, tail]

/-- Digits with a point after the first k of them spell their number, moved by as many places as
stand behind the point. -/
theorem spells_pointed {digits : List Char} (filled : digits ≠ [])
    (each : digits.all isAsciiDigit = true) {k : Int} (within : k ≤ digits.length) :
    Spells (pointed digits k ++ rest) (natOfDigits digits) (e + k - digits.length) := by
  unfold pointed
  by_cases low : k ≤ 0
  · rw [if_pos low]
    have decimals : (List.replicate (-k).toNat '0' ++ digits).all isAsciiDigit = true := by
      rw [List.all_append, all_zeros, each]
      rfl
    have spelled := spells_point tail (List.cons_ne_nil '0' []) (by decide) decimals
    have number : natOfDigits (['0'] ++ (List.replicate (-k).toNat '0' ++ digits)) =
        natOfDigits digits :=
      (natOfDigits_zeros_append 1 _).trans (natOfDigits_zeros_append _ _)
    have places : e - ((List.replicate (-k).toNat '0' ++ digits).length : Int) =
        e + k - digits.length := by
      simp
      omega
    rw [number, places] at spelled
    simpa using spelled
  · rw [if_neg low]
    by_cases inside : k.toNat < digits.length
    · rw [if_pos inside]
      have parts : digits.take k.toNat ++ digits.drop k.toNat = digits := List.take_append_drop ..
      have both : (digits.take k.toNat).all isAsciiDigit = true ∧
          (digits.drop k.toNat).all isAsciiDigit = true := by
        rw [← parts, List.all_append, Bool.and_eq_true] at each
        exact each
      have front : digits.take k.toNat ≠ [] := by
        rw [Ne, List.take_eq_nil_iff, not_or]
        exact ⟨by omega, filled⟩
      have spelled := spells_point tail front both.1 both.2
      have places : e - ((digits.drop k.toNat).length : Int) = e + k - digits.length := by
        rw [List.length_drop]
        omega
      rw [parts, places] at spelled
      simpa using spelled
    · rw [if_neg inside]
      have none : k.toNat - digits.length = 0 := by omega
      have place : e + k - digits.length = e := by omega
      rw [none, place, List.replicate_zero, List.append_nil]
      exact spells_whole tail filled each

end

@[simp]
theorem readExponent?_exponentPart (e : Int) : readExponent? (exponentPart e) = some e := by
  have filled : (digitsOf e.natAbs).isEmpty = false :=
    List.isEmpty_eq_false_iff.mpr (digitsOf_ne_nil e.natAbs)
  have signed : applySign (decide (e < 0)) e.natAbs = e := applySign_natAbs e
  unfold exponentPart readExponent?
  by_cases below : e < 0
  · simpa [below, takeSign, filled, all_digitsOf] using signed
  · simpa [below, takeSign, filled, all_digitsOf] using signed

/-- What is written for a coefficient and an exponent spells them. -/
theorem spells_writeFinite (coefficient : Nat) (exponent : Int) :
    Spells (writeFinite coefficient exponent) coefficient exponent := by
  have filled := digitsOf_ne_nil coefficient
  have digits := all_digitsOf coefficient
  have long : 0 < (digitsOf coefficient).length := List.length_pos_iff.mpr filled
  unfold writeFinite adjusted
  dsimp only
  split
  · rename_i plain
    have spelled := spells_pointed (show readExponent? [] = some 0 from rfl) filled digits
      (k := exponent + (digitsOf coefficient).length - 1 + 1) (by omega)
    have place : (0 : Int) + (exponent + (digitsOf coefficient).length - 1 + 1) -
        (digitsOf coefficient).length = exponent := by omega
    rwa [List.append_nil, natOfDigits_digitsOf, place] at spelled
  · have spelled := spells_pointed
      (readExponent?_exponentPart (exponent + (digitsOf coefficient).length - 1)) filled digits
      (k := 1) (by omega)
    have place : exponent + (digitsOf coefficient).length - 1 + 1 -
        (digitsOf coefficient).length = exponent := by omega
    rwa [natOfDigits_digitsOf, place] at spelled

end Decimal

end Number

namespace Number

theorem takeSign_of_isUnsigned {body : List Char} (numeral : Decimal.isUnsigned body = true) :
    takeSign body = (false, body) := by
  unfold takeSign
  split
  · exact absurd numeral (by simp [Decimal.isUnsigned, isAsciiDigit, Decimal.takeFraction])
  · exact absurd numeral (by simp [Decimal.isUnsigned, isAsciiDigit, Decimal.takeFraction])
  · rfl

theorem takeSign_signOf {negative : Bool} {body : List Char}
    (numeral : Decimal.isUnsigned body = true) :
    takeSign (dropFinalFeed (Decimal.signOf negative ++ body)) = (negative, body) := by
  have plain : ∀ c ∈ Decimal.signOf negative ++ body, c ∈ marks := by
    intro c member
    rcases List.mem_append.mp member with sign | inside
    · cases negative with
      | false => cases sign
      | true =>
          rw [List.mem_singleton.mp sign]
          decide
    · exact Decimal.marks_of_isUnsigned numeral c inside
  rw [dropFinalFeed_of_marks plain]
  cases negative with
  | false => exact takeSign_of_isUnsigned numeral
  | true => rfl

theorem writeInt_eq (n : Int) : writeInt n = Decimal.signOf (decide (n < 0)) ++ digitsOf n.natAbs := by
  by_cases below : n < 0
  · simp [writeInt, Decimal.signOf, below]
  · simp [writeInt, Decimal.signOf, below]

theorem isUnsigned_digitsOf (n : Nat) : Decimal.isUnsigned (digitsOf n) = true :=
  (Decimal.isUnsigned_of_digits (digitsOf_ne_nil n) (all_digitsOf n)).1

end Number

namespace Resolve

open RowLoader.Header RowLoader.Dictionary RowLoader.Store

theorem toList_intText (n : Int) : (intText n).toList = writeInt n :=
  String.toList_ofList

theorem toList_decimalText (d : Decimal) : d.text.toList = d.write :=
  String.toList_ofList

theorem signed_parts {s : String} {negative : Bool} {body : List Char}
    (written : s.toList = Decimal.signOf negative ++ body)
    (numeral : Decimal.isUnsigned body = true) : isNegative s = negative ∧ unsigned s = body := by
  have parts : takeSign (dropFinalFeed (Decimal.signOf negative ++ body)) = (negative, body) :=
    takeSign_signOf numeral
  rw [← written, takeSign_eq, Prod.mk.injEq] at parts
  exact parts

theorem isNull_of_numeral {s : String} (numeral : isDecimalNumeral s = true) :
    isNull (some s) = false := by
  have each : ('\n' :: marks).all (fun d => '(' ∉ lowerForm d) = true := by decide
  have closed : ∀ c ∈ '\n' :: marks, '(' ∉ lowerForm c :=
    fun c member => of_decide_eq_true (List.all_eq_true.mp each c member)
  have plain : ∀ c ∈ dropFinalFeed s.toList, c ∈ marks :=
    marks_of_takeSign (Decimal.marks_of_isUnsigned numeral)
  have filled : s.toList ≠ [] := by
    intro empty
    unfold isDecimalNumeral at numeral
    rw [empty] at numeral
    exact absurd numeral (by decide)
  refine isNull_of_unopened filled fun c member => ?_
  rcases mem_or_feed_of_mem member with inside | rfl
  · exact closed c (List.mem_cons_of_mem _ (plain c inside))
  · exact closed '\n' List.mem_cons_self

section

variable (n : Int)

theorem parts_intText : isNegative (intText n) = decide (n < 0) ∧
    unsigned (intText n) = digitsOf n.natAbs :=
  signed_parts ((toList_intText n).trans (writeInt_eq n)) (isUnsigned_digitsOf n.natAbs)

theorem isDecimalNumeral_intText : isDecimalNumeral (intText n) = true := by
  change Decimal.isUnsigned (unsigned (intText n)) = true
  rw [(parts_intText n).2]
  exact isUnsigned_digitsOf n.natAbs

theorem isIntegerNumeral_intText : isIntegerNumeral (intText n) = true := by
  change (!(unsigned (intText n)).isEmpty && (unsigned (intText n)).all isAsciiDigit) = true
  rw [(parts_intText n).2, all_digitsOf, List.isEmpty_eq_false_iff.mpr (digitsOf_ne_nil n.natAbs)]
  rfl

theorem spelledInteger_intText : spelledInteger (intText n) = n := by
  rw [spelledInteger, (parts_intText n).1, (parts_intText n).2, natOfDigits_digitsOf,
    applySign_natAbs]

theorem integer_intText {n : Int} (short : (digitsOf n.natAbs).length ≤ digitLimit) :
    integer (intText n) = .ok n := by
  rw [integer_of_numeral (isIntegerNumeral_intText n), spelledInteger_intText, (parts_intText n).2,
    if_pos short]

end

section

variable (negative : Bool) (coefficient : Nat) (exponent : Int)

theorem parts_decimalText :
    isNegative (Decimal.finite negative coefficient exponent).text = negative ∧
      unsigned (Decimal.finite negative coefficient exponent).text =
        Decimal.writeFinite coefficient exponent :=
  signed_parts (toList_decimalText _) (Decimal.spells_writeFinite coefficient exponent).numeral

theorem isDecimalNumeral_decimalText :
    isDecimalNumeral (Decimal.finite negative coefficient exponent).text = true := by
  change Decimal.isUnsigned (unsigned _) = true
  rw [(parts_decimalText negative coefficient exponent).2]
  exact (Decimal.spells_writeFinite coefficient exponent).numeral

/-- A decimal that is written is read again with its sign, its coefficient and its exponent. -/
theorem decimal_decimalText {negative : Bool} {coefficient : Nat} {exponent : Int}
    (held : Decimal.inRange coefficient exponent = true) :
    decimal (Decimal.finite negative coefficient exponent).text =
      .ok (.finite negative coefficient exponent) := by
  have spelled := (Decimal.spells_writeFinite coefficient exponent).magnitude
  rw [decimal_of_numeral (isDecimalNumeral_decimalText negative coefficient exponent)]
  unfold isRepresentable spelledDecimal
  rw [(parts_decimalText negative coefficient exponent).1,
    (parts_decimalText negative coefficient exponent).2, spelled, if_pos held]

end

/-- Without look-up, an integer that is written into a cell of an integer column comes back, and so
does a decimal in a decimal column, with trailing zeros, the sign of a zero and the exponent. Digits
lead to the same value by the shortcut for them as by the cast, in both kinds of columns. -/
theorem resolve_returns_written_numbers {w : Workspace} (usable : w.breakdown = none)
    (table : String) {f : Field} (plain : f.lookup = none) (row : Int) :
    (kindOf (ask w.store w.memo table f.target).1 = .integer → ∀ n : Int,
      (digitsOf n.natAbs).length ≤ digitLimit →
        ((resolve table f (some (intText n)) row).runOn w).1 = .ok (.whole n)) ∧
    (kindOf (ask w.store w.memo table f.target).1 = .decimal → ∀ negative coefficient exponent,
      Decimal.inRange coefficient exponent = true →
        ((resolve table f (some (Decimal.finite negative coefficient exponent).text) row).runOn w).1 =
          .ok (.amount (.finite negative coefficient exponent))) ∧
    ∀ (info : Option ColumnInfo) (raw : String), (kindOf info).isNumeric = true →
      isDigits raw = true → literal (kindOf info) raw = cast info table f raw row := by
  refine ⟨fun column n short => ?_, fun column negative coefficient exponent held => ?_,
    fun info raw numeric digits => literal_eq_cast numeric digits table f row⟩
  · rw [runOn_resolve_cast usable table plain (isNull_of_numeral (isDecimalNumeral_intText n)) row]
    unfold cast
    rw [column]
    dsimp only
    rw [if_pos (isIntegerNumeral_intText n), integer_intText short]
    rfl
  · have numeral := isDecimalNumeral_decimalText negative coefficient exponent
    rw [runOn_resolve_cast usable table plain (isNull_of_numeral numeral) row]
    unfold cast
    rw [column]
    dsimp only
    rw [if_pos numeral, decimal_decimalText held]
    rfl

theorem part_numbers_return :
    ((resolve "Part" (.read (some "Part_ID") 1) (some (intText (-42))) 2).runOn pricedWorkspace).1 =
        .ok (.whole (-42)) ∧
      ((resolve "Part" amountField (some (Decimal.finite true 0 (-2)).text) 2).runOn
        pricedWorkspace).1 = .ok (.amount (.finite true 0 (-2))) ∧
      literal .integer "007" =
        cast (some ⟨.int 13, .null⟩) "Part" amountField "007" 2 := by
  have keys : kindOf (ask pricedWorkspace.store pricedWorkspace.memo "Part"
      (Field.read (some "Part_ID") 1).target).1 = .integer := by decide +kernel
  have amounts : kindOf (ask pricedWorkspace.store pricedWorkspace.memo "Part"
      amountField.target).1 = .decimal := by decide +kernel
  have digits : isDigits "007" = true := by decide +kernel
  exact ⟨(resolve_returns_written_numbers rfl "Part" (by decide +kernel) 2).1 keys (-42)
      (by decide +kernel),
    (resolve_returns_written_numbers rfl "Part" rfl 2).2.1 amounts true 0 (-2) (by decide +kernel),
    (resolve_returns_written_numbers (w := pricedWorkspace) rfl "Part" (f := amountField) rfl
      2).2.2 (some ⟨.int 13, .null⟩) "007" rfl digits⟩

end Resolve

end RowLoader
