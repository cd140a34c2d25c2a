import RowLoader.Proofs.Casts
import RowLoader.Proofs.Operands
import RowLoader.Proofs.Rendering

/-!
Look-ups. A look-up takes its value from the one row of its table that holds the cell in its column:
with no such row and with several of them it ends in a problem of the cell. A cell that is null, and
digits in a numeric column, are values without any look-up. A cast gives a numeric column a number of
its kind; a look-up gives it what it fetches, and turns only some texts to numbers.
-/

namespace RowLoader

open RowLoader.Header RowLoader.Dictionary RowLoader.Number RowLoader.Store RowLoader.Identifier
open RowLoader.Text

namespace Work

theorem columnInfo_ok {table column : String} {w w' : Workspace} {info : Option ColumnInfo}
    (h : (columnInfo table column).runOn w = (.ok info, w')) :
    info = (ask w.store w.memo table column).1 ∧ w'.store = w.store := by
  unfold columnInfo at h
  rw [runOn_bind_of_ok (runOn_get w)] at h
  obtain ⟨opened, h⟩ := enterUnless_ok h
  cases h
  exact ⟨rfl, rfl⟩

end Work

namespace Resolve

theorem resolve_ok {table : String} {f : Field} {raw : Option String} {row : Int} {w w' : Workspace}
    {v : Value} (h : (resolve table f raw row).runOn w = (.ok v, w')) :
    resolved w.store w.memo table f raw row = .ok v := by
  unfold resolve at h
  unfold resolved
  split at h
  · rename_i null
    rw [if_pos null, (Work.pure_ok h).1]
  · rename_i filled
    rw [if_neg filled]
    obtain ⟨info, mid, asked, h⟩ := Work.bind_ok h
    obtain ⟨rfl, kept⟩ := Work.columnInfo_ok asked
    unfold valueOf at h
    unfold valueFor
    dsimp only at h ⊢
    split at h
    · rename_i digits
      rw [if_pos digits]
      exact (Work.ofExcept_ok h).1
    · rename_i digits
      rw [if_neg digits]
      split at h
      · rename_i looked
        rw [if_pos looked]
        obtain ⟨names, _, read, rest⟩ := Work.bind_ok h
        obtain ⟨named, rfl⟩ := Work.ofFault_ok read
        obtain ⟨s, _, seen, last⟩ := Work.bind_ok rest
        obtain ⟨_, rfl, rfl⟩ := Work.store_ok seen
        have value := (Work.ofExcept_ok last).1
        rw [kept] at value
        rw [named]
        exact value
      · rename_i looked
        rw [if_neg looked]
        exact (Work.ofExcept_ok h).1

section

variable {info : Option ColumnInfo} {f : Field} {raw : String}

theorem valueFor_of_digits (s : Store) (table : String) (row : Int)
    (numeric : (kindOf info).isNumeric = true) (digits : isDigits raw = true) :
    valueFor s info table f raw row = literal (kindOf info) raw :=
  if_pos (by rw [numeric, digits]; rfl)

theorem valueFor_of_lookup (s : Store) (table : String) (row : Int)
    (other : (kindOf info).isNumeric = true → isDigits raw = false) (looked : f.lookup.isSome = true)
    {names : String × String × String} (named : lookupNames f = .ok names) :
    valueFor s info table f raw row = lookupValue s names (kindOf info) f raw row := by
  have passed : ¬((kindOf info).isNumeric && isDigits raw) = true := by
    rw [Bool.and_eq_true]
    rintro ⟨numeric, digits⟩
    rw [other numeric] at digits
    cases digits
  unfold valueFor
  dsimp only
  rw [if_neg passed, if_pos looked, named]

theorem lookupNames_of_valueFor {s : Store} {table : String} {row : Int} {v : Value}
    (other : isDigits raw = false) (looked : f.lookup.isSome = true)
    (done : valueFor s info table f raw row = .ok v) : ∃ names, lookupNames f = .ok names := by
  unfold valueFor at done
  dsimp only at done
  rw [if_neg (by simp [other]), if_pos looked] at done
  cases named : lookupNames f with
  | ok names => exact ⟨names, rfl⟩
  | error e =>
      rw [named] at done
      cases done

end

/-- A value that a numeric column of a kind takes: null, an integer where integers are kept, a finite
decimal where decimals are. -/
def fits (kind : Kind) : Value → Bool
  | .null => true
  | .whole _ => kind == .integer
  | .amount d => kind == .decimal && d.isFinite
  | _ => false

/-- A cell that a look-up can hand on as a number of a kind: null, an integer for integers, and a text
that is turned to a number. -/
def spells (kind : Kind) : Cell → Bool
  | .null => true
  | .int _ => kind == .integer
  | .real _ => false
  | .text s =>
    match kind with
    | .integer => isDigits s
    | .decimal => (Decimal.read s.toList).toOption.any Decimal.isFinite
    | _ => false

theorem fits_normalizeNumber {kind : Kind} {held : Cell} {v : Value}
    (numeric : kind.isNumeric = true) (done : normalizeNumber kind held.value = .ok v) :
    fits kind v = spells kind held := by
  cases held with
  | null =>
      cases done
      rfl
  | int n =>
      cases done
      rfl
  | real x =>
      cases done
      rfl
  | text s =>
      cases kind with
      | integer =>
          have turned : normalizeNumber .integer (.text s) =
              if isDigits s then (integer s).map .whole else .ok (.text s) := rfl
          rw [Cell.value, turned] at done
          change fits .integer v = isDigits s
          split at done
          · rename_i digits
            obtain ⟨n, _, rfl⟩ := except_map_ok.mp done
            rw [digits]
            rfl
          · rename_i other
            cases done
            exact ((Bool.not_eq_true _).mp other).symm
      | decimal =>
          change fits .decimal v = (Decimal.read s.toList).toOption.any Decimal.isFinite
          unfold normalizeNumber Cell.value at done
          dsimp only at done
          cases read : Decimal.read s.toList with
          | ok d =>
              rw [read] at done
              cases done
              rfl
          | error e =>
              rw [read] at done
              cases done
              rfl
      | text | boolean | temporal => cases numeric

theorem fits_cast {info : Option ColumnInfo} {table : String} {f : Field} {raw : String} {row : Int}
    {v : Value} (numeric : (kindOf info).isNumeric = true)
    (done : cast info table f raw row = .ok v) : fits (kindOf info) v = true := by
  unfold cast at done
  cases column : kindOf info with
  | integer =>
      rw [column] at done
      dsimp only at done
      split at done
      · obtain ⟨n, _, rfl⟩ := except_map_ok.mp done
        rfl
      · cases done
  | decimal =>
      rw [column] at done
      dsimp only at done
      split at done
      · rename_i numeral
        obtain ⟨d, read, rfl⟩ := except_map_ok.mp done
        rw [decimal_of_numeral numeral] at read
        split at read
        · cases read
          rfl
        · cases read
      · cases done
  | text | boolean | temporal =>
      rw [column] at numeric
      cases numeric

/-- A look-up by these names fetches this cell for a text: the second of its questions has this one
answer. -/
def Fetches (s : Store) (f : Field) (raw : String) (held : Cell) : Prop :=
  ∃ names, lookupNames f = .ok names ∧ (Query.find names).answer s (.text raw) = .ok [held]

theorem lookupValue_ok {s : Store} {names : String × String × String} {kind : Kind} {f : Field}
    {raw : String} {row : Int} {v : Value} (h : lookupValue s names kind f raw row = .ok v) :
    ∃ held, (Query.find names).answer s (.text raw) = .ok [held] ∧
      normalizeNumber kind held.value = .ok v := by
  obtain ⟨table, target, column⟩ := names
  unfold lookupValue at h
  unfold Query.answer Query.find
  dsimp only at h ⊢
  cases searched : matching s table column (.text raw) with
  | error e =>
      rw [searched] at h
      cases h
  | ok found =>
      obtain ⟨t, hits⟩ := found
      rw [searched] at h
      cases hits with
      | nil => cases h
      | cons r others =>
          cases others with
          | cons q rest => cases h
          | nil =>
              cases checked : checkTarget target with
              | error e =>
                  simp only [checked, Except.mapError, except_ok_bind] at h
                  cases h
              | ok _ =>
                  simp only [checked, Except.mapError, except_ok_bind] at h ⊢
                  cases means : t.operand? s.now target with
                  | some operand =>
                      rw [means] at h
                      exact ⟨operand.read r, rfl, h⟩
                  | none =>
                      rw [means] at h
                      cases h

/-- A cell of a numeric column is looked up: it is neither null nor digits, and its field has a
look-up. -/
def isLookedUp (f : Field) (raw : Option String) : Bool :=
  !isNull raw && !isDigits (raw.getD "") && f.lookup.isSome

/-- A numeric column gets null or a number of its kind wherever no look-up steps in; where one does,
just when it fetches a number of the kind, or digits of an integer, or the text of a finite decimal. -/
theorem resolve_fits_iff {table : String} {f : Field} {raw : Option String} {row : Int}
    {w w' : Workspace} {v : Value} (done : (resolve table f raw row).runOn w = (.ok v, w'))
    (numeric : (kindOf (ask w.store w.memo table f.target).1).isNumeric = true) :
    fits (kindOf (ask w.store w.memo table f.target).1) v = true ↔
      (isLookedUp f raw = true → ∃ held, Fetches w.store f (raw.getD "") held ∧
        spells (kindOf (ask w.store w.memo table f.target).1) held = true) := by
  have answer := resolve_ok done
  unfold resolved at answer
  generalize (ask w.store w.memo table f.target).1 = info at numeric answer ⊢
  cases null : isNull raw with
  | true =>
      rw [null, if_pos rfl] at answer
      cases answer
      exact iff_of_true rfl (by simp [isLookedUp, null])
  | false =>
      rw [null, if_neg Bool.false_ne_true] at answer
      cases digits : isDigits (raw.getD "") with
      | true =>
          rw [valueFor_of_digits _ _ _ numeric digits,
            literal_eq_cast numeric digits table f row] at answer
          exact iff_of_true (fits_cast numeric answer) (by simp [isLookedUp, digits])
      | false =>
          cases looked : f.lookup with
          | none =>
              rw [valueFor_eq_cast _ _ _ looked] at answer
              exact iff_of_true (fits_cast numeric answer) (by simp [isLookedUp, looked])
          | some column =>
              have isSome : f.lookup.isSome = true := by rw [looked]; rfl
              obtain ⟨names, named⟩ := lookupNames_of_valueFor digits isSome answer
              rw [valueFor_of_lookup _ _ _ (fun _ => digits) isSome named] at answer
              obtain ⟨held, found, turned⟩ := lookupValue_ok answer
              rw [fits_normalizeNumber numeric turned]
              constructor
              · exact fun good _ => ⟨held, ⟨names, named, found⟩, good⟩
              · intro fetched
                obtain ⟨other, ⟨names', named', found'⟩, good⟩ :=
                  fetched (by simp [isLookedUp, null, digits, looked])
                -- the names and the answer to their question are determined
                cases named.symm.trans named'
                cases found.symm.trans found'
                exact good

def idField : Field :=
  .read (some "Part>Part_ID[Value]") 1

def priceField : Field :=
  .read (some "Part>Amount[Value]") 1

/-- A looked-up id is an integer where ids are integers. -/
theorem resolve_fits_part_id :
    ((resolve "Part" idField (some "A") 2).runOn Run.partWorkspace).1 = .ok (.whole 1) ∧
      ∃ held, Fetches Store.partStore idField "A" held ∧ spells .integer held = true := by
  have answer : ((resolve "Part" idField (some "A") 2).runOn Run.partWorkspace).1 =
      .ok (.whole 1) := by decide +kernel
  have done : (resolve "Part" idField (some "A") 2).runOn Run.partWorkspace =
      (.ok (.whole 1), ((resolve "Part" idField (some "A") 2).runOn Run.partWorkspace).2) := by
    rw [← answer, Prod.mk.eta]
  have integers : kindOf (ask Run.partWorkspace.store Run.partWorkspace.memo "Part"
      idField.target).1 = .integer := by decide +kernel
  have fetched := (resolve_fits_iff done (by rw [integers]; rfl)).mp (by rw [integers]; rfl)
    (by decide +kernel)
  rw [integers] at fetched
  exact ⟨answer, fetched⟩

/-- A broken amount is handed on as the binary number that the store keeps. -/
theorem looked_up_amount_is_binary :
    kindOf (ask pricedWorkspace.store pricedWorkspace.memo "Part" priceField.target).1 = .decimal ∧
      ∃ x, ((resolve "Part" priceField (some "A") 2).runOn pricedWorkspace).1 = .ok (.real x) ∧
        fits .decimal (.real x) = false := by
  exact ⟨by decide +kernel, .finite false 5066549580791808 (-50), by decide +kernel, rfl⟩

def endWith (f : Field) (row : Int) (raw of column : String) (kind : Kind) (target : Slot) :
    List Row → Except Failure Value
  | [] => .error (problemAt f row (.lookupNotFound (.text raw) (.text of) (.text column)))
  | [r] => normalizeNumber kind (r.read target).value
  | hits => .error (problemAt f row
      (.lookupAmbiguous (.text raw) (.text of) (.text column) hits.length))

/-- What a look-up of a field asks of a store. Its three names pass as identifiers, and there is a
table and there are columns of these names; and none of the names is a word that the language of
statements takes for itself at its place. -/
structure LooksUp (s : Store) (f : Field) (t : Table) (of column : String)
    (target keyed : Slot) : Prop where
  lookup : f.lookup = some column
  table : f.qualifiers.getLast?.getD (Field.withoutIdSuffix f.target) = of
  plain : isPlain of = true ∧ isPlain f.target = true ∧ isPlain column = true
  found : s.readable? (bare of) = some t
  held : t.slot? (bare f.target) = some target
  keyed : t.slot? (bare column) = some keyed
  tableWord : isAmong reservedWords of = false
  targetWord : isAmong (reservedWords ++ openingWords ++ quantifiers ++ clockWords) f.target = false
  columnWord : isAmong (reservedWords ++ openingWords ++ clockWords) column = false

theorem checkName_ok {name : String} (free : isAmong reservedWords name = false) :
    checkName name = .ok () :=
  if_neg (by rw [free]; exact Bool.false_ne_true)

theorem checkOperand_ok {name : String} (free : isAmong (reservedWords ++ openingWords) name = false)
    (next : String) : checkOperand name next = .ok () := by
  rw [isAmong_append, Bool.or_eq_false_iff] at free
  unfold checkOperand
  rw [if_neg (by rw [free.2]; exact Bool.false_ne_true)]
  split
  · rfl
  · exact checkName_ok free.1

section

variable {s : Store} {f : Field} {t : Table} {of column : String} {target keyed : Slot}
  (asked : LooksUp s f t of column target keyed)
include asked

theorem LooksUp.lookupNames_eq : lookupNames f = .ok (of, f.target, column) := by
  obtain ⟨plainTable, plainTarget, plainColumn⟩ := asked.plain
  have table : f.lookupTable = some of := by
    unfold Field.lookupTable
    rw [asked.lookup, Option.map_some, asked.table]
  unfold lookupNames checked
  rw [table, asked.lookup]
  dsimp only
  rw [if_pos plainTable, if_pos plainTarget, if_pos plainColumn]
  rfl

theorem LooksUp.column_operand : t.operand? s.now column = some (.held keyed) :=
  operand?_of_slot? (isAmong_mono (by decide) asked.columnWord) asked.keyed s.now

theorem LooksUp.target_operand : t.operand? s.now f.target = some (.held target) :=
  operand?_of_slot? (isAmong_mono (by decide) asked.targetWord) asked.held s.now

/-- The rows that match are those whose look-up column equals the cell, as the column compares it. -/
theorem LooksUp.matching_eq (bound : Cell) :
    matching s of column bound = .ok (t, t.select [(keyed, bound)]) := by
  have words := asked.columnWord
  rw [isAmong_append, Bool.or_eq_false_iff] at words
  have conditions : conditionsOf t s.now [(column, bound)] = .ok [(keyed, bound)] := by
    unfold conditionsOf
    rw [asked.column_operand]
    rfl
  unfold matching
  rw [checkName_ok asked.tableWord, except_ok_bind, checkOperand_ok words.1, except_ok_bind,
    asked.found]
  dsimp only
  rw [conditions]
  rfl

theorem LooksUp.checkTarget_eq : checkTarget f.target = .ok () := by
  have words := asked.targetWord
  rw [isAmong_append, Bool.or_eq_false_iff, isAmong_append, Bool.or_eq_false_iff] at words
  unfold checkTarget
  rw [if_neg (by rw [words.1.2]; exact Bool.false_ne_true)]
  exact checkOperand_ok words.1.1 "FROM"

/-- Both questions of a look-up are answered from the same rows. -/
theorem LooksUp.answers (bound : Cell) :
    (Query.count (of, f.target, column)).answer s bound =
        .ok [.int (t.select [(keyed, bound)]).length] ∧
      (Query.find (of, f.target, column)).answer s bound =
        .ok ((t.select [(keyed, bound)]).map (·.read target)) := by
  unfold Query.answer Query.count Query.find
  dsimp only
  rw [asked.matching_eq bound, except_ok_bind]
  refine ⟨rfl, ?_⟩
  rw [except_ok_bind, asked.checkTarget_eq, except_ok_bind, asked.target_operand]
  rfl

theorem LooksUp.lookupValue_eq (kind : Kind) (raw : String) (row : Int) :
    lookupValue s (of, f.target, column) kind f raw row =
      endWith f row raw of column kind target (t.select [(keyed, .text raw)]) := by
  unfold lookupValue
  dsimp only
  rw [asked.matching_eq]
  simp only [Except.mapError, except_ok_bind]
  generalize t.select [(keyed, .text raw)] = hits
  cases hits with
  | nil => rfl
  | cons r others =>
      cases others with
      | nil =>
          dsimp only
          rw [asked.checkTarget_eq, asked.target_operand]
          rfl
      | cons q rest => rfl

end

/-- A text of digits that are too many for an integer, in the place of an integer. -/
def isOverlong (kind : Kind) : Cell → Bool
  | .text s => kind == .integer && isDigits s && digitLimit < (unsigned s).length
  | _ => false

theorem normalizeNumber_ok {kind : Kind} {held : Cell} (short : isOverlong kind held = false) :
    ∃ v, normalizeNumber kind held.value = .ok v := by
  cases held with
  | null | int n | real x => exact ⟨_, rfl⟩
  | text s =>
      cases kind with
      | integer =>
          cases digits : isDigits s with
          | false => exact ⟨.text s, if_neg (by rw [digits]; exact Bool.false_ne_true)⟩
          | true =>
              have within : (unsigned s).length ≤ digitLimit := by
                simpa [isOverlong, digits] using short
              refine ⟨.whole (spelledInteger s), (if_pos digits).trans ?_⟩
              rw [integer_of_numeral (isIntegerNumeral_of_isDigits digits), if_pos within]
              rfl
      | decimal =>
          unfold normalizeNumber Cell.value
          dsimp only
          split <;> exact ⟨_, rfl⟩
      | text | boolean | temporal => exact ⟨_, rfl⟩

/-- How a look-up ends, by the rows that hold the cell. -/
structure EndsBy (f : Field) (row : Int) (raw of column : String) (kind : Kind) (target : Slot)
    (hits : List Row) (answer : Except Failure Value) : Prop where
  missing : answer = .error (problemAt f row (.lookupNotFound (.text raw) (.text of) (.text column))) ↔
    hits = []
  ambiguous : answer = .error (problemAt f row
      (.lookupAmbiguous (.text raw) (.text of) (.text column) hits.length)) ↔ 2 ≤ hits.length
  single : ∀ r, hits = [r] → answer = normalizeNumber kind (r.read target).value ∧
    (∀ fault, answer ≠ .error (.fault fault)) ∧
    (isOverlong kind (r.read target) = false → ∃ v, answer = .ok v)

theorem endsBy_endWith (f : Field) (row : Int) (raw of column : String) (kind : Kind) (target : Slot)
    (hits : List Row) : EndsBy f row raw of column kind target hits
      (endWith f row raw of column kind target hits) := by
  cases hits with
  | nil => exact ⟨iff_of_true rfl rfl, iff_of_false nofun (by simp), nofun⟩
  | cons r others =>
      cases others with
      | nil =>
          have faultless := normalizeNumber_ne_fault kind (r.read target).value
          refine ⟨iff_of_false (faultless _) nofun, iff_of_false (faultless _) (by simp), ?_⟩
          rintro q same
          cases same
          exact ⟨rfl, faultless, normalizeNumber_ok⟩
      | cons q rest => exact ⟨iff_of_false nofun nofun, iff_of_true rfl (by simp), nofun⟩

def digitsAs (kind : Kind) (raw : String) : Value :=
  match kind with
  | .integer => .whole (natOfDigits (unsigned raw))
  | _ => .amount (.finite false (natOfDigits (unsigned raw)) 0)

theorem literal_of_isDigits {raw : String} (digits : isDigits raw = true)
    (short : (unsigned raw).length ≤ digitLimit) (kind : Kind) :
    literal kind raw = .ok (digitsAs kind raw) := by
  obtain ⟨signless, some, each⟩ := unsigned_of_isDigits digits
  have positive : isNegative raw = false := congrArg Prod.fst signless
  have whole : integer raw = .ok (natOfDigits (unsigned raw)) := by
    rw [integer_of_numeral (isIntegerNumeral_of_isDigits digits), if_pos short, spelledInteger,
      positive]
    rfl
  have amount : decimal raw = .ok (.finite false (natOfDigits (unsigned raw)) 0) := by
    rw [decimal_of_numeral (isDecimalNumeral_of_isDigits digits),
      if_pos (isRepresentable_of_isDigits digits short), spelledDecimal, positive,
      (Decimal.isUnsigned_of_digits some each).2]
  cases kind with
  | integer => exact congrArg (Except.map Value.whole) whole
  | decimal | text | boolean | temporal => exact congrArg (Except.map Value.amount) amount

/-- A cell that is null is null, and digits in a numeric column are the number that they spell,
whatever look-up their field has and whatever the store holds. Any other cell of a field whose look-up
finds its table and its columns is looked up: it ends as a missing record just when no row holds it, as
an ambiguous one just when several do, and else in the value of the one row; the two questions are
answered by the same rows, so the second one never fails. -/
theorem look_up_by_rows {w : Workspace} (usable : w.breakdown = none) (table : String) (f : Field)
    (row : Int) :
    (∀ raw, isNull raw = true → (resolve table f raw row).runOn w = (.ok .null, w)) ∧
      (∀ raw, (kindOf (ask w.store w.memo table f.target).1).isNumeric = true →
        isDigits raw = true → (unsigned raw).length ≤ digitLimit →
        ∃ w', (resolve table f (some raw) row).runOn w =
            (.ok (digitsAs (kindOf (ask w.store w.memo table f.target).1) raw), w') ∧
          w'.store = w.store) ∧
      ∀ t of column target keyed, LooksUp w.store f t of column target keyed →
        ∀ raw, isNull (some raw) = false →
        ((kindOf (ask w.store w.memo table f.target).1).isNumeric = true → isDigits raw = false) →
        ∃ answer w', (resolve table f (some raw) row).runOn w = (answer, w') ∧ w'.store = w.store ∧
          EndsBy f row raw of column (kindOf (ask w.store w.memo table f.target).1) target
            (t.select [(keyed, .text raw)]) answer ∧
          (Query.count (of, f.target, column)).answer w.store (.text raw) =
            .ok [.int (t.select [(keyed, .text raw)]).length] ∧
          (Query.find (of, f.target, column)).answer w.store (.text raw) =
            .ok ((t.select [(keyed, .text raw)]).map (·.read target)) := by
  refine ⟨?_, ?_, ?_⟩
  · intro raw null
    unfold resolve
    rw [if_pos null]
    rfl
  · intro raw numeric digits short
    obtain ⟨w', ran, asked⟩ := runOn_resolve usable table f (some raw) row
    refine ⟨w', ?_, asked.store⟩
    rw [ran, resolved, isNull_of_isDigits digits, if_neg Bool.false_ne_true, Option.getD_some,
      valueFor_of_digits _ _ _ numeric digits, literal_of_isDigits digits short]
  · intro t of column target keyed looks raw filled other
    obtain ⟨w', ran, asked⟩ := runOn_resolve usable table f (some raw) row
    refine ⟨_, w', ran, asked.store, ?_, looks.answers (.text raw)⟩
    rw [resolved, filled, if_neg Bool.false_ne_true, Option.getD_some,
      valueFor_of_lookup _ _ _ other (by rw [looks.lookup]; rfl) looks.lookupNames_eq,
      looks.lookupValue_eq]
    exact endsBy_endWith ..

theorem looksUp_part_id :
    LooksUp Run.partWorkspace.store idField Store.parts "Part" "Value" .id (.cell 1) := by
  constructor <;> decide +kernel

/-- Digits are the id itself, though no part has them as its value; a value of no part is missing, and
one of a single part is its id. -/
theorem part_id_by_value :
    ((resolve "Part" idField (some "7") 2).runOn Run.partWorkspace).1 = .ok (.whole 7) ∧
      ((resolve "Part" idField (some "Z") 2).runOn Run.partWorkspace).1 =
        .error (problemAt idField 2 (.lookupNotFound (.text "Z") (.text "Part") (.text "Value"))) ∧
      ((resolve "Part" idField (some "A") 2).runOn Run.partWorkspace).1 = .ok (.whole 1) := by
  have integers : kindOf (ask Run.partWorkspace.store Run.partWorkspace.memo "Part"
      idField.target).1 = .integer := by decide +kernel
  have axle : Store.parts.select [(.cell 1, .text "A")] =
      [⟨1, [.null, .text "A", .text "Axle", .int 4, .int 0, .int 0] ++ List.replicate 5 .null⟩] := by
    decide +kernel
  obtain ⟨_, literal, looked⟩ := look_up_by_rows (w := Run.partWorkspace) rfl "Part" idField 2
  rw [integers] at literal looked
  obtain ⟨_, seven, _⟩ := literal "7" rfl (by decide +kernel) (by decide +kernel)
  obtain ⟨_, _, missed, _, none, _⟩ := looked _ _ _ _ _ looksUp_part_id "Z" (by decide +kernel)
    fun _ => by decide +kernel
  obtain ⟨_, _, found, _, one, _⟩ := looked _ _ _ _ _ looksUp_part_id "A" (by decide +kernel)
    fun _ => by decide +kernel
  rw [seven, missed, none.missing.mpr (by decide +kernel), found, (one.single _ axle).1]
  have value : digitsAs .integer "7" = .whole 7 := by decide +kernel
  exact ⟨congrArg Except.ok value, rfl, rfl⟩

/-- A part, among parts with a column that is named by a word for the present day. -/
def datedParts : Table :=
  { schema "Part" [texts "Current_Date" 40 .free, texts "Name" 60 .free] with
    rows := [⟨1, [.null, .text "A", .text "Axle"]⟩] }

def datedWorkspace : Workspace :=
  { Run.partWorkspace with store := describing datedParts [("Part_ID", 13), ("Name", 10)] 2 1 none }

def datedField : Field :=
  .read (some "Part>Name[Current_Date]") 1

/-- In a question the word means the present day and not the column of its name, so that the row which
holds the cell is not found. -/
theorem clock_word_hides_column :
    lookupNames datedField = .ok ("Part", "Name", "Current_Date") ∧
      datedWorkspace.store.readable? "Part" = some datedParts ∧
      datedParts.slot? "Name" = some (.cell 2) ∧ datedParts.slot? "Current_Date" = some (.cell 1) ∧
      datedParts.select [(.cell 1, .text "A")] = datedParts.rows ∧
      ((resolve "Part" datedField (some "A") 2).runOn datedWorkspace).1 =
        .error (problemAt datedField 2
          (.lookupNotFound (.text "A") (.text "Part") (.text "Current_Date"))) := by
  decide +kernel

end Resolve

end RowLoader
