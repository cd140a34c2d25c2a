import Mathlib.Data.List.Induction
import Mathlib.Data.List.TakeWhile
import Mathlib.Tactic.IntervalCases
import RowLoader.Proofs.Joining
import RowLoader.Resolve

/-!
Numerals. A text that passes the test of a numeral is read as the number it spells: the tests and the
readers are written apart from each other, the readers take much more than the tests let through, and
on what the tests let through they agree. Only the size of a number stands in the way: an integer has
a greatest number of digits, a decimal a range of exponents.
-/

namespace RowLoader

open RowLoader.Text RowLoader.Number RowLoader.Identifier

namespace Text

def asciiDigits : List Char :=
  "0123456789".toList

theorem mem_asciiDigits {c : Char} (digit : isAsciiDigit c = true) : c ∈ asciiDigits := by
  unfold isAsciiDigit at digit
  rw [Bool.and_eq_true, decide_eq_true_eq, decide_eq_true_eq] at digit
  have low : 48 ≤ c.toNat := digit.1
  have high : c.toNat ≤ 57 := digit.2
  rw [← Char.ofNat_toNat c]
  generalize c.toNat = n at low high ⊢
  interval_cases n <;> decide

theorem digit_lt {c : Char} (digit : isAsciiDigit c = true) : c.toNat - 48 < 10 := by
  have each : asciiDigits.all (fun d => d.toNat - 48 < 10) = true := by decide
  exact of_decide_eq_true (List.all_eq_true.mp each c (mem_asciiDigits digit))

theorem numberOf_lt {digits : List Nat} (each : ∀ d ∈ digits, d < 10) :
    numberOf digits < 10 ^ digits.length := by
  induction digits using List.reverseRecOn with
  | nil => decide
  | append_singleton front d ih =>
      have before := ih fun e member => each e (List.mem_append_left _ member)
      have last := each d (List.mem_append_right _ List.mem_cons_self)
      have step : numberOf (front ++ [d]) = 10 * numberOf front + d := by
        unfold numberOf
        rw [List.foldl_append]
        rfl
      rw [step, List.length_append, List.length_singleton, Nat.pow_succ]
      omega

theorem natOfDigits_lt {s : List Char} (digits : s.all isAsciiDigit = true) :
    natOfDigits s < 10 ^ s.length := by
  have each : ∀ d ∈ s.map (fun c => c.toNat - 48), d < 10 := by
    intro d member
    obtain ⟨c, here, rfl⟩ := List.mem_map.mp member
    exact digit_lt (List.all_eq_true.mp digits c here)
  simpa [natOfDigits] using numberOf_lt each

/-- What is left after a trimming at both ends of which only a line feed is to be taken off. -/
theorem trimBy_eq_dropFinalFeed {p : Char → Bool} (feed : p '\n' = true) {s : List Char}
    (solid : ∀ c ∈ dropFinalFeed s, p c = false) : trimBy p s = dropFinalFeed s := by
  have kept : ∀ {r : List Char}, (∀ c ∈ r, p c = false) → dropTail p r = r := by
    intro r plain
    unfold dropTail
    rw [dropWhile_eq_self fun c first => plain c ?_, List.reverse_reverse]
    exact List.mem_reverse.mp (List.mem_of_head? first)
  unfold dropFinalFeed at solid ⊢
  unfold trimBy
  split at solid
  · rename_i ended
    rw [if_pos ended]
    obtain ⟨body, rfl⟩ : ∃ body, s = body ++ ['\n'] :=
      ⟨s.dropLast, (List.dropLast_append_getLast? '\n' ended).symm⟩
    rw [List.dropLast_concat] at solid ⊢
    cases body with
    | nil => simp [feed, dropTail]
    | cons c rest =>
        rw [List.cons_append, List.dropWhile_cons_of_neg (by simp [solid c List.mem_cons_self]),
          ← List.cons_append]
        have last : dropTail p (c :: rest ++ ['\n']) = dropTail p (c :: rest) := by
          simp [dropTail, feed]
        rw [last, kept solid]
  · rename_i other
    rw [if_neg other, dropWhile_eq_self fun c first => solid c (List.mem_of_head? first), kept solid]

end Text

namespace Number

/-- The characters that numerals are written with. -/
def marks : List Char :=
  asciiDigits ++ "+-.eE".toList

theorem mem_marks_of_digit {c : Char} (digit : isAsciiDigit c = true) : c ∈ marks :=
  List.mem_append_left _ (mem_asciiDigits digit)

theorem asciiForm_of_mark {c : Char} (mark : c ∈ marks) : asciiForm c = c := by
  have small : marks.all (fun d => d.toNat < 128) = true := by decide
  exact if_pos (of_decide_eq_true (List.all_eq_true.mp small c mark))

theorem isBlank_of_mark {c : Char} (mark : c ∈ marks) : isBlank c = false := by
  have solid : marks.all (fun d => !isBlank d) = true := by decide
  simpa using List.all_eq_true.mp solid c mark

theorem isAsciiBlank_of_mark {c : Char} (mark : c ∈ marks) : isAsciiBlank c = false := by
  have solid : marks.all (fun d => !isAsciiBlank d) = true := by decide
  simpa using List.all_eq_true.mp solid c mark

theorem ne_underscore_of_mark {c : Char} (mark : c ∈ marks) : c ≠ '_' := by
  rintro rfl
  exact absurd mark (by decide)

theorem toLower_of_mark {c : Char} (mark : c ∈ marks) : c.toLower ∉ ['i', 'n', 's'] := by
  have other : marks.all (fun d => d.toLower ∉ ['i', 'n', 's']) = true := by decide
  exact of_decide_eq_true (List.all_eq_true.mp other c mark)

theorem mem_takeSign {s : List Char} {c : Char} (member : c ∈ s) :
    c ∈ ['+', '-'] ∨ c ∈ (takeSign s).2 := by
  unfold takeSign
  split
  · rcases List.mem_cons.mp member with rfl | later
    · exact .inl (by decide)
    · exact .inr later
  · rcases List.mem_cons.mp member with rfl | later
    · exact .inl (by decide)
    · exact .inr later
  · exact .inr member

theorem marks_of_takeSign {s : List Char} (plain : ∀ c ∈ (takeSign s).2, c ∈ marks) :
    ∀ c ∈ s, c ∈ marks := by
  intro c member
  rcases mem_takeSign member with sign | later
  · have both : ['+', '-'] ⊆ marks := by decide
    exact both sign
  · exact plain c later

theorem marks_of_digits {s : List Char} (digits : s.all isAsciiDigit = true) : ∀ c ∈ s, c ∈ marks :=
  fun c member => mem_marks_of_digit (List.all_eq_true.mp digits c member)

theorem marks_of_readExponent? {s : List Char} (read : (Decimal.readExponent? s).isSome = true) :
    ∀ c ∈ s, c ∈ marks := by
  cases s with
  | nil => exact fun c member => absurd member List.not_mem_nil
  | cons first rest =>
      have opened : Decimal.readExponent? (first :: rest) =
          if first = 'e' ∨ first = 'E' then
            if !(takeSign rest).2.isEmpty && (takeSign rest).2.all isAsciiDigit then
              some (applySign (takeSign rest).1 (natOfDigits (takeSign rest).2))
            else none
          else none := rfl
      by_cases letter : first = 'e' ∨ first = 'E'
      · rw [opened, if_pos letter] at read
        have digits : (takeSign rest).2.all isAsciiDigit = true := by
          by_contra other
          rw [if_neg (by simp [other])] at read
          cases read
        intro c member
        rcases List.mem_cons.mp member with rfl | later
        · rcases letter with rfl | rfl <;> decide
        · exact marks_of_takeSign (marks_of_digits digits) c later
      · rw [opened, if_neg letter] at read
        cases read

theorem marks_of_takeFraction {s : List Char}
    (rest : ∀ c ∈ (Decimal.takeFraction s).2, c ∈ marks) : ∀ c ∈ s, c ∈ marks := by
  intro c member
  unfold Decimal.takeFraction at rest
  split at rest
  · rename_i r
    rcases List.mem_cons.mp member with rfl | later
    · decide
    · rw [← List.takeWhile_append_dropWhile (p := isAsciiDigit) (l := r), List.mem_append] at later
      rcases later with digit | other
      · exact mem_marks_of_digit (List.mem_takeWhile_imp digit)
      · exact rest c other
  · exact rest c member

theorem map_asciiForm_of_marks {s : List Char} (plain : ∀ c ∈ s, c ∈ marks) :
    s.map asciiForm = s :=
  (List.map_congr_left fun c member => asciiForm_of_mark (plain c member)).trans (List.map_id s)

theorem dropFinalFeed_of_marks {s : List Char} (plain : ∀ c ∈ s, c ∈ marks) :
    dropFinalFeed s = s := by
  refine if_neg fun ended => ?_
  exact absurd (plain '\n' (List.mem_of_getLast? ended)) (by decide)

/-- A text of marks, a final line feed apart, loses only this feed where readers trim. -/
theorem normalForm_of_marks {s : List Char} (plain : ∀ c ∈ dropFinalFeed s, c ∈ marks) :
    Decimal.normalForm s = dropFinalFeed s := by
  have trimmed : trimChars s = dropFinalFeed s :=
    trimBy_eq_dropFinalFeed (by decide) fun c member => isBlank_of_mark (plain c member)
  have whole : (dropFinalFeed s).filter (· != '_') = dropFinalFeed s :=
    List.filter_eq_self.mpr fun c member => bne_iff_ne.mpr (ne_underscore_of_mark (plain c member))
  rw [Decimal.normalForm, trimmed, whole, map_asciiForm_of_marks plain]

theorem mem_or_feed_of_mem {s : List Char} {c : Char} (member : c ∈ s) :
    c ∈ dropFinalFeed s ∨ c = '\n' := by
  unfold dropFinalFeed
  split
  · rename_i ended
    rw [← List.dropLast_append_getLast? _ ended, List.mem_append, List.mem_singleton] at member
    exact member
  · exact .inl member

theorem trimBy_map_of_marks {s : List Char} (plain : ∀ c ∈ dropFinalFeed s, c ∈ marks) :
    trimBy isAsciiBlank (s.map asciiForm) = dropFinalFeed s := by
  have same : s.map asciiForm = s := by
    refine (List.map_congr_left fun c member => ?_).trans (List.map_id s)
    rcases mem_or_feed_of_mem member with inside | rfl
    · exact asciiForm_of_mark (plain c inside)
    · decide
  rw [same]
  exact trimBy_eq_dropFinalFeed (by decide) fun c member => isAsciiBlank_of_mark (plain c member)

theorem groupedDigits?_of_digits {s : List Char} (some : s ≠ [])
    (digits : s.all isAsciiDigit = true) :
    groupedDigits? s = Option.some (s.map (fun c => c.toNat - 48)) := by
  induction s with
  | nil => exact absurd rfl some
  | cons c rest ih =>
      rw [List.all_cons, Bool.and_eq_true] at digits
      cases rest with
      | nil => simp [groupedDigits?, digits.1]
      | cons d later =>
          have digit : isAsciiDigit d = true := by
            have each := digits.2
            rw [List.all_cons, Bool.and_eq_true] at each
            exact each.1
          rw [groupedDigits?, if_pos digits.1,
            if_neg (ne_underscore_of_mark (mem_marks_of_digit digit)),
            ih (List.cons_ne_nil d later) digits.2]
          rfl

section

variable {s body : List Char} {negative : Bool}
  (signed : takeSign (dropFinalFeed s) = (negative, body))
include signed

theorem marks_of_signed (plain : ∀ c ∈ body, c ∈ marks) : ∀ c ∈ dropFinalFeed s, c ∈ marks :=
  marks_of_takeSign (by rw [signed]; exact plain)

/-- The value of an integer numeral, unless its digits are too many. -/
theorem readInt_of_digits (some : body ≠ []) (digits : body.all isAsciiDigit = true) :
    readInt s = if body.length ≤ digitLimit then .ok (applySign negative (natOfDigits body))
      else .error (.tooLong body.length) := by
  unfold readInt
  rw [trimBy_map_of_marks (marks_of_signed signed (marks_of_digits digits)), signed]
  dsimp only
  rw [groupedDigits?_of_digits some digits]
  dsimp only
  rw [ofDigits, List.length_map]
  rfl

end

namespace Decimal

/-- The coefficient and the exponent that a numeral without sign spells. -/
def magnitude (body : List Char) : Nat × Int :=
  let whole := body.takeWhile isAsciiDigit
  let (fraction, rest) := takeFraction (body.dropWhile isAsciiDigit)
  (natOfDigits (whole ++ fraction), (readExponent? rest).getD 0 - fraction.length)

/-- A numeral without sign: digits before or behind a point, and an exponent that is one. -/
def isUnsigned (body : List Char) : Bool :=
  let whole := body.takeWhile isAsciiDigit
  let (fraction, rest) := takeFraction (body.dropWhile isAsciiDigit)
  !(whole.isEmpty && fraction.isEmpty) && (readExponent? rest).isSome

theorem marks_of_isUnsigned {body : List Char} (numeral : isUnsigned body = true) :
    ∀ c ∈ body, c ∈ marks := by
  unfold isUnsigned at numeral
  dsimp only at numeral
  rw [Bool.and_eq_true] at numeral
  intro c member
  rw [← List.takeWhile_append_dropWhile (p := isAsciiDigit) (l := body), List.mem_append] at member
  rcases member with digit | other
  · exact mem_marks_of_digit (List.mem_takeWhile_imp digit)
  · exact marks_of_takeFraction (marks_of_readExponent? numeral.2) c other

theorem readFinite_of_isUnsigned {body : List Char} (numeral : isUnsigned body = true)
    (negative : Bool) :
    readFinite negative body =
      if inRange (magnitude body).1 (magnitude body).2 then
        .ok (.finite negative (magnitude body).1 (magnitude body).2)
      else .error .outOfRange := by
  unfold isUnsigned at numeral
  dsimp only at numeral
  rw [Bool.and_eq_true, Bool.not_eq_true'] at numeral
  obtain ⟨e, read⟩ := Option.isSome_iff_exists.mp numeral.2
  unfold readFinite magnitude
  dsimp only
  rw [if_neg (by simp [numeral.1])]
  simp only [read, Option.getD_some]

theorem readUnsigned_of_marks {body : List Char} (plain : ∀ c ∈ body, c ∈ marks) (negative : Bool) :
    readUnsigned negative body = readFinite negative body := by
  have free : ∀ c ∈ body.map Char.toLower, c ∉ ['i', 'n', 's'] := by
    intro c member
    obtain ⟨d, inside, rfl⟩ := List.mem_map.mp member
    exact toLower_of_mark (plain d inside)
  have infinity : ¬(body.map Char.toLower = "inf".toList ∨
      body.map Char.toLower = "infinity".toList) := by
    rintro (same | same)
    · exact free 'i' (by rw [same]; decide) (by decide)
    · exact free 'i' (by rw [same]; decide) (by decide)
  have quiet : (body.map Char.toLower).take 3 ≠ "nan".toList := fun same =>
    free 'n' (List.mem_of_mem_take (by rw [same]; decide)) (by decide)
  have signaling : (body.map Char.toLower).take 4 ≠ "snan".toList := fun same =>
    free 's' (List.mem_of_mem_take (by rw [same]; decide)) (by decide)
  rw [readUnsigned, if_neg infinity, if_neg quiet, if_neg signaling]

/-- The number that a decimal numeral spells, unless it lies out of the range of decimals. -/
theorem read_of_isUnsigned {s body : List Char} {negative : Bool}
    (signed : takeSign (dropFinalFeed s) = (negative, body)) (numeral : isUnsigned body = true) :
    read s =
      if inRange (magnitude body).1 (magnitude body).2 then
        .ok (.finite negative (magnitude body).1 (magnitude body).2)
      else .error .outOfRange := by
  have plain := marks_of_isUnsigned numeral
  unfold read
  rw [normalForm_of_marks (marks_of_signed signed plain), signed]
  change readUnsigned negative body = _
  rw [readUnsigned_of_marks plain, readFinite_of_isUnsigned numeral]

theorem isUnsigned_of_digits {s : List Char} (some : s ≠ []) (digits : s.all isAsciiDigit = true) :
    isUnsigned s = true ∧ magnitude s = (natOfDigits s, 0) := by
  have whole : s.takeWhile isAsciiDigit = s :=
    List.takeWhile_eq_self_iff.mpr (List.all_eq_true.mp digits)
  have rest : s.dropWhile isAsciiDigit = [] :=
    List.dropWhile_eq_nil_iff.mpr (List.all_eq_true.mp digits)
  have filled : s.isEmpty = false := List.isEmpty_eq_false_iff.mpr some
  unfold isUnsigned magnitude
  rw [whole, rest]
  simp [takeFraction, readExponent?, filled]

/-- A number without exponent is in the range of decimals when it has no more digits than integers
may have. -/
theorem inRange_of_digits {s : List Char} (digits : s.all isAsciiDigit = true)
    (short : s.length ≤ digitLimit) : inRange (natOfDigits s) 0 = true := by
  have bounded : natOfDigits s < 10 ^ digitLimit :=
    (natOfDigits_lt digits).trans_le (Nat.pow_le_pow_right (by decide) short)
  have written : (digitsOf (natOfDigits s)).length ≤ digitLimit :=
    (Nat.length_toDigits_le_iff (by decide) (by decide)).mpr bounded
  have limit : digitLimit = 4300 := rfl
  unfold inRange adjusted minExponent maxAdjusted
  rw [Bool.and_eq_true, decide_eq_true_eq, decide_eq_true_eq]
  omega

end Decimal

end Number

namespace Resolve

def unsigned (s : String) : List Char :=
  (takeSign (dropFinalFeed s.toList)).2

def isNegative (s : String) : Bool :=
  (takeSign (dropFinalFeed s.toList)).1

theorem takeSign_eq (s : String) :
    takeSign (dropFinalFeed s.toList) = (isNegative s, unsigned s) :=
  rfl

def spelledInteger (s : String) : Int :=
  applySign (isNegative s) (natOfDigits (unsigned s))

/-- The number that a decimal numeral spells, with its trailing zeros. -/
def spelledDecimal (s : String) : Decimal :=
  .finite (isNegative s) (Decimal.magnitude (unsigned s)).1 (Decimal.magnitude (unsigned s)).2

/-- The number that a decimal numeral spells is one that decimals can hold. -/
def isRepresentable (s : String) : Bool :=
  Decimal.inRange (Decimal.magnitude (unsigned s)).1 (Decimal.magnitude (unsigned s)).2

/-- The reader of integers takes every integer numeral, its number of digits apart. -/
theorem integer_of_numeral {s : String} (numeral : isIntegerNumeral s = true) :
    integer s = if (unsigned s).length ≤ digitLimit then .ok (spelledInteger s)
      else .error (.tooManyDigits (unsigned s).length) := by
  unfold isIntegerNumeral at numeral
  dsimp only at numeral
  rw [Bool.and_eq_true, Bool.not_eq_true', List.isEmpty_eq_false_iff] at numeral
  unfold integer
  rw [readInt_of_digits (takeSign_eq s) numeral.1 numeral.2]
  by_cases short : (unsigned s).length ≤ digitLimit
  · rw [if_pos short, if_pos short]
    rfl
  · rw [if_neg short, if_neg short]

/-- The reader of decimals takes every decimal numeral, its range apart. -/
theorem decimal_of_numeral {s : String} (numeral : isDecimalNumeral s = true) :
    decimal s = if isRepresentable s then .ok (spelledDecimal s) else .error .decimalRange := by
  unfold decimal
  rw [Decimal.read_of_isUnsigned (takeSign_eq s) numeral]
  unfold isRepresentable
  by_cases held : Decimal.inRange (Decimal.magnitude (unsigned s)).1
      (Decimal.magnitude (unsigned s)).2 = true
  · rw [if_pos held, if_pos held]
    rfl
  · rw [if_neg held, if_neg held]

theorem takeSign_of_digits {s : List Char} (digits : s.all isAsciiDigit = true) :
    takeSign s = (false, s) := by
  cases s with
  | nil => rfl
  | cons c rest =>
      rw [List.all_cons, Bool.and_eq_true] at digits
      unfold takeSign
      split
      · rename_i same
        cases same
        exact absurd digits.1 (by decide)
      · rename_i same
        cases same
        exact absurd digits.1 (by decide)
      · rfl

theorem unsigned_of_isDigits {s : String} (digits : isDigits s = true) :
    takeSign (dropFinalFeed s.toList) = (false, unsigned s) ∧ unsigned s ≠ [] ∧
      (unsigned s).all isAsciiDigit = true := by
  unfold isDigits at digits
  dsimp only at digits
  rw [Bool.and_eq_true, Bool.not_eq_true', List.isEmpty_eq_false_iff] at digits
  have signless := takeSign_of_digits digits.2
  unfold unsigned
  rw [signless]
  exact ⟨rfl, digits⟩

theorem isIntegerNumeral_of_isDigits {s : String} (digits : isDigits s = true) :
    isIntegerNumeral s = true := by
  obtain ⟨_, some, each⟩ := unsigned_of_isDigits digits
  unfold isIntegerNumeral
  change (!(unsigned s).isEmpty && (unsigned s).all isAsciiDigit) = true
  rw [each, List.isEmpty_eq_false_iff.mpr some]
  rfl

theorem isDecimalNumeral_of_isDigits {s : String} (digits : isDigits s = true) :
    isDecimalNumeral s = true := by
  obtain ⟨_, some, each⟩ := unsigned_of_isDigits digits
  exact (Decimal.isUnsigned_of_digits some each).1

theorem isRepresentable_of_isDigits {s : String} (digits : isDigits s = true)
    (short : (unsigned s).length ≤ digitLimit) : isRepresentable s = true := by
  obtain ⟨_, some, each⟩ := unsigned_of_isDigits digits
  unfold isRepresentable
  rw [(Decimal.isUnsigned_of_digits some each).2]
  exact Decimal.inRange_of_digits each short

theorem isNull_of_unopened {s : String} (filled : s.toList ≠ [])
    (unopened : ∀ c ∈ s.toList, '(' ∉ lowerForm c) : isNull (some s) = false := by
  have some : s.isEmpty = false := by
    by_contra empty
    rw [Bool.not_eq_false, String.isEmpty_iff] at empty
    exact filled (by rw [empty]; rfl)
  have named : (lower s == nullWord) = false := by
    rw [beq_eq_false_iff_ne]
    intro same
    have opening : '(' ∈ lowerChars s.toList := by
      have word : lowerChars s.toList = nullWord.toList := by
        rw [← same, lower, String.toList_ofList]
      rw [word]
      decide
    obtain ⟨c, member, there⟩ := List.mem_flatMap.mp opening
    exact unopened c member there
  change (s.isEmpty || lower s == nullWord) = false
  rw [some, named]
  rfl

theorem isNull_of_isDigits {s : String} (digits : isDigits s = true) :
    isNull (some s) = false := by
  unfold isDigits at digits
  dsimp only at digits
  rw [Bool.and_eq_true, Bool.not_eq_true', List.isEmpty_eq_false_iff] at digits
  have filled : s.toList ≠ [] := by
    intro empty
    rw [empty] at digits
    exact digits.1 rfl
  have each : ('\n' :: asciiDigits).all (fun d => '(' ∉ lowerForm d) = true := by decide
  have none : ∀ d ∈ '\n' :: asciiDigits, '(' ∉ lowerForm d :=
    fun d member => of_decide_eq_true (List.all_eq_true.mp each d member)
  refine isNull_of_unopened filled fun c member => ?_
  rcases mem_or_feed_of_mem member with inside | rfl
  · have digit := mem_asciiDigits (List.all_eq_true.mp digits.2 c inside)
    exact none c (List.mem_cons_of_mem _ digit)
  · exact none '\n' List.mem_cons_self

end Resolve

end RowLoader
