import RowLoader.Proofs.Numerals
import RowLoader.Proofs.Resolution
import RowLoader.Proofs.Validation

/-!
Cells that are cast. A cell of a field without look-up becomes a value or is told as a bad cell, under
its row, its column, its token and its text. The test in front of a conversion and the conversion
itself part in three places only: an integer of too many digits, a decimal with an exponent out of
range, and a text in a column whose recorded length is itself a text. There a failure of the conversion
comes through as it is.
-/

namespace RowLoader.Resolve

open RowLoader.Header RowLoader.Dictionary RowLoader.Number RowLoader.Store

/-- An answer for a cell that an import can act on: a value, or the problem of a bad cell with its
place. -/
def Settled (f : Field) (raw : String) (row : Int) (answer : Except Failure Value) : Prop :=
  (∃ v, answer = .ok v) ∨
    ∃ reason cause, answer = .error (problemAt f row (.typeCast reason (.text raw) cause))

theorem settled_castProblem (table : String) (f : Field) (raw : String) (row : Int) (reason : String)
    (cause : Option String) :
    Settled f raw row (.error (castProblem table f raw row reason cause)) :=
  .inr ⟨_, cause, rfl⟩

theorem not_settled {f : Field} {raw : String} {row : Int} {e : Failure}
    (outside : ∀ fault, e ≠ .fault fault) : ¬ Settled f raw row (.error e) := by
  rintro (⟨v, same⟩ | ⟨reason, cause, same⟩)
  · cases same
  · exact outside _ (Except.error.inj same)

/-- A cell that passes the test in front of its conversion, and stops the conversion. -/
inductive Overreaches (info : Option ColumnInfo) (raw : String) : Prop
  | digits (column : kindOf info = .integer) (numeral : isIntegerNumeral raw = true)
      (long : digitLimit < (unsigned raw).length)
  | range (column : kindOf info = .decimal) (numeral : isDecimalNumeral raw = true)
      (outside : isRepresentable raw = false)
  | limit (column : kindOf info = .text) (words : String) (recorded : lengthOf info = .text words)

/-- A column that is no column of texts and whose numerals, if it has any, all pass. -/
theorem not_overreaches {info : Option ColumnInfo} {raw : String} {kind : Kind}
    (column : kindOf info = kind)
    (short : kind = .integer → isIntegerNumeral raw = true → (unsigned raw).length ≤ digitLimit)
    (held : kind = .decimal → isDecimalNumeral raw = true → isRepresentable raw = true)
    (limited : kind = .text → ∀ words, lengthOf info ≠ .text words) : ¬ Overreaches info raw := by
  rintro (⟨integers, numeral, long⟩ | ⟨decimals, numeral, outside⟩ | ⟨texts, words, recorded⟩)
  · exact absurd (short (column ▸ integers) numeral) (Nat.not_le.mpr long)
  · rw [held (column ▸ decimals) numeral] at outside
    cases outside
  · exact limited (column ▸ texts) words recorded

theorem lengthOf_ne_empty (info : Option ColumnInfo) : lengthOf info ≠ .text "" := by
  unfold lengthOf
  split
  · exact nofun
  · exact nofun
  · exact nofun
  · rename_i filled _
    exact filled

/-- A text is within a recorded length, or beyond it; only a text that is recorded as length stops the
comparison. -/
theorem exceeds_lengthOf (info : Option ColumnInfo) (length : Nat) :
    (∃ long, exceeds length (lengthOf info) = .ok long) ∧ (∀ words, lengthOf info ≠ .text words) ∨
      exceeds length (lengthOf info) = .error .textAsLimit ∧ ∃ words, lengthOf info = .text words := by
  cases recorded : lengthOf info with
  | null => exact .inl ⟨⟨false, rfl⟩, nofun⟩
  | int limit => exact .inl ⟨⟨_, rfl⟩, nofun⟩
  | real limit => exact .inl ⟨⟨_, rfl⟩, nofun⟩
  | text words =>
      refine .inr ⟨?_, words, rfl⟩
      have filled : words.isEmpty = false := by
        cases shown : words.isEmpty with
        | false => rfl
        | true =>
            rw [String.isEmpty_iff.mp shown] at recorded
            exact absurd recorded (lengthOf_ne_empty info)
      exact if_neg (by rw [filled]; exact Bool.false_ne_true)

/-- What is cast becomes a value or is told with its place, unless it overreaches. -/
theorem settled_cast (info : Option ColumnInfo) (table : String) (f : Field) (raw : String)
    (row : Int) : Settled f raw row (cast info table f raw row) ↔ ¬ Overreaches info raw := by
  unfold cast
  cases column : kindOf info with
  | text =>
      dsimp only
      rcases exceeds_lengthOf info raw.length with ⟨⟨long, compared⟩, limited⟩ | ⟨stopped, limited⟩
      · rw [compared]
        refine iff_of_true ?_ (not_overreaches column nofun nofun fun _ => limited)
        cases long with
        | false => exact .inl ⟨.text raw, rfl⟩
        | true => exact settled_castProblem ..
      · obtain ⟨words, recorded⟩ := limited
        rw [stopped]
        exact iff_of_false (not_settled fun _ => nofun) (not_not_intro (.limit column words recorded))
  | integer =>
      dsimp only
      by_cases numeral : isIntegerNumeral raw = true
      · rw [if_pos numeral, integer_of_numeral numeral]
        by_cases short : (unsigned raw).length ≤ digitLimit
        · rw [if_pos short]
          exact iff_of_true (.inl ⟨_, rfl⟩) (not_overreaches column (fun _ _ => short) nofun nofun)
        · rw [if_neg short]
          exact iff_of_false (not_settled fun _ => nofun)
            (not_not_intro (.digits column numeral (Nat.not_le.mp short)))
      · rw [if_neg numeral]
        exact iff_of_true (settled_castProblem ..)
          (not_overreaches column (fun _ passed => absurd passed numeral) nofun nofun)
  | decimal =>
      dsimp only
      by_cases numeral : isDecimalNumeral raw = true
      · rw [if_pos numeral, decimal_of_numeral numeral]
        by_cases held : isRepresentable raw = true
        · rw [if_pos held]
          exact iff_of_true (.inl ⟨_, rfl⟩) (not_overreaches column nofun (fun _ _ => held) nofun)
        · rw [if_neg held]
          exact iff_of_false (not_settled fun _ => nofun)
            (not_not_intro (.range column numeral (by simpa using held)))
      · rw [if_neg numeral]
        exact iff_of_true (settled_castProblem ..)
          (not_overreaches column nofun (fun _ passed => absurd passed numeral) nofun)
  | boolean =>
      refine iff_of_true ?_ (not_overreaches column nofun nofun nofun)
      dsimp only
      split
      · exact .inl ⟨_, rfl⟩
      · split
        · exact .inl ⟨_, rfl⟩
        · exact settled_castProblem ..
  | temporal =>
      refine iff_of_true ?_ (not_overreaches column nofun nofun nofun)
      dsimp only
      split
      · exact .inl ⟨_, rfl⟩
      · exact settled_castProblem ..

/-- The shortcut for digits in a numeric column leads where their cast leads. -/
theorem literal_eq_cast {info : Option ColumnInfo} {raw : String}
    (numeric : (kindOf info).isNumeric = true) (digits : isDigits raw = true) (table : String)
    (f : Field) (row : Int) : literal (kindOf info) raw = cast info table f raw row := by
  unfold cast
  cases column : kindOf info with
  | integer => exact (if_pos (isIntegerNumeral_of_isDigits digits)).symm
  | decimal => exact (if_pos (isDecimalNumeral_of_isDigits digits)).symm
  | text | boolean | temporal =>
      rw [column] at numeric
      cases numeric

theorem valueFor_eq_cast (s : Store) (info : Option ColumnInfo) (table : String) {f : Field}
    (plain : f.lookup = none) (raw : String) (row : Int) :
    valueFor s info table f raw row = cast info table f raw row := by
  unfold valueFor
  dsimp only
  split
  · rename_i both
    rw [Bool.and_eq_true] at both
    exact literal_eq_cast both.1 both.2 table f row
  · rw [plain]
    rfl

theorem runOn_resolve_cast {w : Workspace} (usable : w.breakdown = none) (table : String)
    {f : Field} (plain : f.lookup = none) {raw : String} (filled : isNull (some raw) = false)
    (row : Int) :
    ((resolve table f (some raw) row).runOn w).1 =
      cast (ask w.store w.memo table f.target).1 table f raw row := by
  obtain ⟨w', ran, _⟩ := runOn_resolve usable table f (some raw) row
  rw [ran]
  unfold resolved
  rw [if_neg (by simp [filled])]
  exact valueFor_eq_cast _ _ _ plain raw row

/-- A cell of a field without look-up gets a value or is told as a bad cell under its own row, column,
token and text: every cell that is null, and just the others that do not overreach. -/
theorem resolve_settles_cell {w : Workspace} (usable : w.breakdown = none) (table : String)
    {f : Field} (plain : f.lookup = none) (raw : Option String) (row : Int) :
    Settled f (raw.getD "") row ((resolve table f raw row).runOn w).1 ↔
      (isNull raw = false → ¬ Overreaches (ask w.store w.memo table f.target).1 (raw.getD "")) := by
  obtain ⟨w', ran, _⟩ := runOn_resolve usable table f raw row
  rw [ran]
  unfold resolved
  cases null : isNull raw with
  | true => exact iff_of_true (.inl ⟨.null, rfl⟩) nofun
  | false =>
      dsimp only
      rw [if_neg Bool.false_ne_true, valueFor_eq_cast _ _ _ plain]
      exact (settled_cast ..).trans ⟨fun within _ => within, fun within => within rfl⟩

def pricedParts : Table :=
  { parts with
    rows :=
      [⟨1, [.null, .text "A", .text "Axle", Store.bind (.amount (.finite false 45 (-1))), .int 0,
        .int 0] ++ List.replicate 5 .null⟩] }

def pricedWorkspace : Workspace :=
  ⟨describing pricedParts [("Part_ID", 13), ("Value", 10), ("Name", 10), ("Amount", 12)] 2 1 none,
    .empty, fun _ => "", 0, false, none⟩

def amountField : Field :=
  .read (some "Amount") 1

theorem resolve_settles_amount :
    Settled amountField "many" 2
      ((resolve "Part" amountField (some "many") 2).runOn pricedWorkspace).1 := by
  refine (resolve_settles_cell rfl "Part" rfl (some "many") 2).mpr fun _ => ?_
  have column : kindOf (ask pricedWorkspace.store pricedWorkspace.memo "Part" amountField.target).1 =
      .decimal := by decide +kernel
  have refused : isDecimalNumeral "many" = false := by decide +kernel
  exact not_overreaches column nofun (fun _ numeral => absurd numeral (by simp [refused])) nofun

/-- A numeral with too great an exponent stops the conversion, and is not told as a bad cell. -/
theorem great_exponent_escapes :
    ((resolve "Part" amountField (some "1e1000000000000000000") 2).runOn pricedWorkspace).1 =
        .error .decimalRange ∧
      ¬ Settled amountField "1e1000000000000000000" 2
        ((resolve "Part" amountField (some "1e1000000000000000000") 2).runOn pricedWorkspace).1 := by
  have stopped : ((resolve "Part" amountField (some "1e1000000000000000000") 2).runOn
      pricedWorkspace).1 = .error .decimalRange := by decide +kernel
  rw [stopped]
  exact ⟨rfl, not_settled fun _ => nofun⟩

end RowLoader.Resolve
