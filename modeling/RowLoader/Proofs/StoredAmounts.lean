import RowLoader.Proofs.Addressing
import RowLoader.Proofs.Casts
import RowLoader.Proofs.Rounding
import RowLoader.Proofs.SystemColumns

/-!
Amounts as they are stored. The cell of a decimal column spells a decimal; a statement carries the
binary number nearest to it, and the new row holds that number. So an amount is stored as it is spelled
exactly where some binary number stands for it, and is rounded otherwise.
-/

namespace RowLoader

open RowLoader.Header RowLoader.Number RowLoader.Dictionary RowLoader.Store RowLoader.Complete
open RowLoader.Identifier

namespace Number

theorem cast_applySign (negative : Bool) (n : Nat) :
    ((applySign negative n : Int) : ℚ) = signed negative n := by
  cases negative <;> simp [applySign, signed]

theorem Binary64.value?_of_toInt? {x : Binary64} {n : Int} (whole : x.toInt? = some n) :
    x.value? = some (n : ℚ) := by
  cases x with
  | infinite negative => cases whole
  | nan => cases whole
  | finite negative m e =>
      unfold toInt? at whole
      dsimp only at whole
      split at whole
      · rename_i nonneg
        obtain ⟨k, rfl⟩ := Int.eq_ofNat_of_zero_le nonneg
        cases whole
        rw [cast_applySign, Int.toNat_natCast, Nat.pow_eq]
        push_cast
        rfl
      · rename_i below
        obtain ⟨k, rfl⟩ : ∃ k : Nat, e = -(k : Int) := ⟨(-e).toNat, by omega⟩
        rw [neg_neg, Int.toNat_natCast, Nat.pow_eq] at whole
        split at whole
        · rename_i multiple
          cases whole
          obtain ⟨q, rfl⟩ := Nat.dvd_of_mod_eq_zero multiple
          have power : 0 < 2 ^ k := Nat.pow_pos (by decide)
          have power0 : (2 : ℚ) ^ k ≠ 0 := by positivity
          rw [cast_applySign, Nat.mul_div_cancel_left q power]
          change some (signed negative (((2 ^ k * q : Nat) : ℚ) * 2 ^ (-(k : Int)))) = _
          rw [zpow_neg, zpow_natCast]
          push_cast
          rw [mul_comm, ← mul_assoc, inv_mul_cancel₀ power0, one_mul]
        · cases whole

end Number

namespace Store

def Cell.number? : Cell → Option ℚ
  | .int n => some n
  | .real x => x.value?
  | _ => none

theorem Cell.number?_ofReal (x : Binary64) : (Cell.ofReal x).number? = x.value? := by
  unfold Cell.ofReal
  split
  · rename_i n whole
    split
    · exact (Binary64.value?_of_toInt? whole).symm
    · rfl
  · rfl

/-- What is kept of a decimal stands for what the decimal is rounded to. -/
theorem number?_stored_amount (negative : Bool) (c : Nat) (e : Int) :
    ((bind (.amount (.finite negative c e))).stored .number).number? =
      (Binary64.ofFinite negative c e).value? := by
  change ((cellOfReal (Binary64.ofFinite negative c e)).stored .number).number? = _
  generalize Binary64.ofFinite negative c e = x
  cases x with
  | finite sign m e => exact Cell.number?_ofReal (.finite sign m e)
  | infinite sign => exact Cell.number?_ofReal (.infinite sign)
  | nan => rfl

/-- The cell for a slot is the one of the first name that leads there. -/
theorem firstAssigned_eq_find? {t : Table} {columns : Columns} {a : Assignments}
    (placed : List.Forall₂ (fun c p => t.slot? (bare c.1) = some p.1 ∧ p.2 = bind c.2) columns a)
    (slot : Slot) : firstAssigned a slot =
      ((columns.find? fun c => t.slot? (bare c.1) = some slot).map fun c => bind c.2).getD .null := by
  unfold firstAssigned
  congr 1
  induction placed with
  | nil => rfl
  | @cons c p columns a here _ ih =>
      obtain ⟨leads, bound⟩ := here
      obtain ⟨s, cell⟩ := p
      dsimp only at leads bound
      rw [List.lookup_cons, List.find?_cons, leads]
      by_cases same : s = slot
      · rw [same, bound]
        simp
      · have other : (slot == s) = false := by simpa using fun eq => same eq.symm
        simpa [other, same] using ih

theorem find?_of_names {columns : Columns} {test : String → Bool} {n : String} {v : Value}
    (first : columns.names.find? test = some n) (held : columns.get? n = some v) :
    columns.find? (fun c => test c.1) = some (n, v) := by
  induction columns with
  | nil => cases first
  | cons c rest ih =>
      obtain ⟨m, u⟩ := c
      have names : Columns.names ((m, u) :: rest) = m :: Columns.names rest := rfl
      rw [names, List.find?_cons] at first
      rw [List.find?_cons]
      cases passes : test m with
      | true =>
          rw [passes] at first
          cases first
          rw [Columns.get?, List.lookup_cons_self] at held
          cases held
          rfl
      | false =>
          rw [passes] at first
          have passed := List.find?_some first
          have other : (n == m) = false := by
            rw [beq_eq_false_iff_ne]
            rintro rfl
            rw [passes] at passed
            cases passed
          rw [Columns.get?, List.lookup_cons, other] at held
          exact ih first held

end Store

namespace Complete

/-- Each target stands where it comes first, so the first that passes a test is the same. -/
theorem find?_targetNames (targets : List String) (test : String → Bool) :
    (targetNames targets).find? test = targets.find? test := by
  -- by induction over the targets, behind whatever names stand already
  have general : ∀ names : List String,
      (targets.foldl (fun names n => if n ∈ names then names else names ++ [n]) names).find? test =
        (names.find? test).or (targets.find? test) := by
    induction targets with
    | nil => exact fun names => (Option.or_none).symm
    | cons m rest ih =>
        intro names
        have front : ([m] ++ rest).find? test = ([m].find? test).or (rest.find? test) :=
          List.find?_append
        rw [List.singleton_append] at front
        rw [List.foldl_cons, ih, front, ← Option.or_assoc]
        congr 1
        split
        · rename_i present
          cases found : names.find? test with
          | some n => rfl
          | none =>
              have fails := List.find?_eq_none.mp found m present
              simp [fails]
        · exact List.find?_append
  exact general []

theorem Draws.ids {s after : Store} (sound : s.WellFormed) {table : String} {columns : Columns}
    {key : Value} (drawn : Draws s table columns key after) {name : String} {t : Table}
    (found : s.table? name = some t) :
    ∃ rows, after.table? name = some { t with rows := rows } ∧
      rows.map Row.id = t.rows.map Row.id := by
  by_cases same : Text.sameName sequenceTable name = true
  · unfold Draws at drawn
    split at drawn
    · obtain ⟨r, ⟨_, next, q, _, _, sequences, rfl, _⟩, _⟩ := nextKey_stepsOn sound drawn
      rw [table?_congr same, found] at sequences
      cases sequences
      refine ⟨_, table?_replaceTable_self found rfl, ?_⟩
      rw [List.map_map]
      exact List.map_congr_left fun p _ => id_withNext p r.id _
    · rw [drawn.2]
      exact ⟨t.rows, found, rfl⟩
  · exact ⟨t.rows, (drawn.table? (Bool.eq_false_iff.mpr same)).trans found, rfl⟩

end Complete

namespace Resolve

/-- A cell that gets a value in a column of decimals, other than by a look-up, is a numeral, and its value
is the decimal that it spells. -/
theorem resolved_decimal {s : Store} {m : Recall} {table : String} {f : Field} {raw : String}
    {row : Int} {v : Value} (column : kindOf (ask s m table f.target).1 = .decimal)
    (given : isNull (some raw) = false) (direct : f.lookup = none ∨ isDigits raw = true)
    (h : resolved s m table f (some raw) row = .ok v) :
    isDecimalNumeral raw = true ∧ v = .amount (spelledDecimal raw) := by
  have numeric : (kindOf (ask s m table f.target).1).isNumeric = true := by rw [column]; rfl
  have casts : valueFor s (ask s m table f.target).1 table f raw row =
      cast (ask s m table f.target).1 table f raw row := by
    rcases direct with plain | digits
    · exact valueFor_eq_cast s _ table plain raw row
    · rw [← literal_eq_cast numeric digits]
      unfold valueFor
      dsimp only
      rw [numeric, digits]
      rfl
  unfold resolved at h
  rw [given, if_neg Bool.false_ne_true, Option.getD_some, casts] at h
  unfold cast at h
  rw [column] at h
  dsimp only at h
  split at h
  · rename_i numeral
    rw [decimal_of_numeral numeral] at h
    split at h
    · cases h
      exact ⟨numeral, rfl⟩
    · cases h
  · cases h

theorem exists_split_of_forall₂ {α β : Type} {R : α → β → Prop} {before after : List α} {x : α}
    {ys : List β} (each : List.Forall₂ R (before ++ x :: after) ys) :
    ∃ earlier y later, ys = earlier ++ y :: later ∧ earlier.length = before.length ∧ R x y ∧
      later.length = after.length := by
  induction before generalizing ys with
  | nil =>
      cases each with
      | cons here rest => exact ⟨[], _, _, rfl, rfl, here, rest.length_eq.symm⟩
  | cons z before ih =>
      cases each with
      | cons _ rest =>
          obtain ⟨earlier, y, later, rfl, front, related, back⟩ := ih rest
          exact ⟨_ :: earlier, y, later, rfl, congrArg (· + 1) front, related, back⟩

end Resolve

namespace Write

open RowLoader.Resolve

/-- A field decides on a column of a new row: among the targets that lead to the column its own comes
first, and no field behind it has that target. -/
structure Decides (t : Table) (i : Nat) (fields : List Field) (f : Field) : Prop where
  first : (fields.find? fun g => t.slot? (bare g.target) = some (.cell i)).map Field.target =
    some f.target
  last : ∃ before after, fields = before ++ f :: after ∧ ∀ g ∈ after, g.target ≠ f.target

theorem Decides.bound {t : Table} {i : Nat} {fields : List Field} {f : Field}
    (decides : Decides t i fields f) : i < t.columns.length := by
  obtain ⟨g, found, _⟩ := Option.map_eq_some_iff.mp decides.first
  have leads : t.slot? (bare g.target) = some (.cell i) := by simpa using List.find?_some found
  obtain ⟨_, there, _⟩ := slot?_cell leads
  exact (List.getElem?_eq_some_iff.mp there).1

theorem Decides.value {t : Table} {i : Nat} {fields : List Field} {f : Field}
    (decides : Decides t i fields f) {R : Field → Value → Prop} {values : List Value}
    (each : List.Forall₂ R fields values) :
    ∃ v, R f v ∧ (enterValues [] (fields.zip values)).get? f.target = some v := by
  obtain ⟨before, after, rfl, last⟩ := decides.last
  obtain ⟨earlier, v, later, rfl, front, related, _⟩ := exists_split_of_forall₂ each
  refine ⟨v, related, ?_⟩
  rw [get?_enterValues, List.zip_append front.symm, List.zip_cons_cons,
    lastValue?_of_last fun p member => last p.1 (List.of_mem_zip member).1]
  rfl

/-- What is assigned to the column, once the record is completed, is the value of the field that
decides. -/
theorem Decides.firstAssigned {t : Table} {i : Nat} {fields : List Field} {f : Field}
    (decides : Decides t i fields f) {values : List Value} (aligned : values.length = fields.length)
    {completed : Columns} {added : List String}
    (names : completed.names = (enterValues [] (fields.zip values)).names ++ added) {v : Value}
    (held : completed.get? f.target = some v) {a : Assignments}
    (placed : List.Forall₂ (fun c p => t.slot? (bare c.1) = some p.1 ∧ p.2 = Store.bind c.2)
      completed a) :
    Store.firstAssigned a (.cell i) = Store.bind v := by
  have first : completed.names.find? (fun n => t.slot? (bare n) = some (.cell i)) =
      some f.target := by
    rw [names, List.find?_append, names_enterValues aligned, find?_targetNames, List.find?_map]
    exact congrArg (Option.or · _) decides.first
  rw [firstAssigned_eq_find? placed, find?_of_names first held]
  rfl

/-- An inserted row holds in a column what is stored for the value of the field that decides on it. It
is new: the other rows of the table are those that were there, and have their ids. -/
theorem insert_stores {table : String} {template : Template} {context : Context}
    {fields : List Field} {record : Source.Record} {w w' : Workspace} {outcome : Outcome}
    (usable : w.breakdown = none) (sound : w.store.WellFormed)
    (h : (Run.writeRecord table template context .insert fields record).runOn w =
      (.ok outcome, w'))
    {t : Table} (found : w.store.table? (bare table) = some t) {i : Nat} {f : Field}
    (decides : Decides t i fields f) :
    ∃ raw v rows r, record.cell f = .ok raw ∧
      resolved w.store w.memo table f raw record.row = .ok v ∧
      w'.store.table? (bare table) = some { t with rows := insertRow r rows } ∧
      rows.map Row.id = t.rows.map Row.id ∧ r.id ∉ t.rows.map Row.id ∧
      (v ≠ .null → r.read (.cell i) = (Store.bind v).stored (t.affinity (.cell i))) := by
  obtain ⟨columns, reached, row, h⟩ := Work.bind_ok h
  obtain ⟨values, each, rfl, aligned, asked⟩ := resolveRow_ok usable row
  obtain ⟨_, cells⟩ := resolveEach_ok usable sound each
  obtain ⟨v, ⟨raw, cell, value⟩, entered⟩ := decides.value cells
  obtain ⟨completed, mid, affected, filled, _, _, executed, _, _⟩ := insert_ok h
  obtain ⟨key, drawn, complete, drew, left⟩ := complete_ok filled
  -- the table may be that of the sequences, whose cells the key has changed: only its ids stay
  obtain ⟨rows, kept, ids⟩ := drew.ids (asked.store ▸ sound) (asked.store ▸ found)
  obtain ⟨_, u, a, u', there, placed, inserted, stored⟩ := execute_insert_ok executed
  have store : mid.store = drawn := by rw [left]
  rw [store, kept] at there
  cases there
  obtain ⟨id, _, free, rfl⟩ := insertInto_ok inserted
  refine ⟨raw, v, rows, ⟨id, cellsBy t (newCell t a)⟩, cell, value, ?_, ids, ?_, fun given => ?_⟩
  · rw [stored, store]
    exact table?_replaceTable_self kept rfl
  · rw [← ids]
    intro member
    obtain ⟨q, inside, same⟩ := List.mem_map.mp member
    exact row?_eq_none free q inside same
  · obtain ⟨added, names, _⟩ := names_fill (enterValues [] (fields.zip values))
      (systemDefaults table template context key
        (locate drawn reached.memo table activeColumn).1.isSome (reached.uniqueId reached.drawn))
    rw [← complete] at names
    have held : completed.get? f.target = some v := by
      rw [complete]
      exact get?_fill entered given _
    rw [read_cellsBy _ _ _ decides.bound]
    unfold newCell
    rw [decides.firstAssigned aligned names held placed]

/-- The cell of a column of decimals, where it decides on a column of numbers, is stored as the number
that it spells exactly where a binary number stands for it. The cell is not null, and no look-up takes its
place. -/
theorem amount_stored_exactly_iff {table : String} {template : Template} {context : Context}
    {fields : List Field} {record : Source.Record} {w w' : Workspace} {outcome : Outcome}
    (usable : w.breakdown = none) (sound : w.store.WellFormed)
    (h : (Run.writeRecord table template context .insert fields record).runOn w =
      (.ok outcome, w'))
    {t : Table} (found : w.store.table? (bare table) = some t) {i : Nat} {f : Field}
    (decides : Decides t i fields f) (numbers : t.affinity (.cell i) = .number)
    (column : kindOf (ask w.store w.memo table f.target).1 = .decimal) {raw : String}
    (cell : record.cell f = .ok (some raw)) (given : isNull (some raw) = false)
    (direct : f.lookup = none ∨ isDigits raw = true) :
    ∃ rows r q, w'.store.table? (bare table) = some { t with rows := insertRow r rows } ∧
      rows.map Row.id = t.rows.map Row.id ∧ r.id ∉ t.rows.map Row.id ∧
      isDecimalNumeral raw = true ∧ (spelledDecimal raw).value? = some q ∧
      ((r.read (.cell i)).number? = some q ↔ IsBinary q) := by
  obtain ⟨held, v, rows, r, same, value, inserted, ids, new, stored⟩ :=
    insert_stores usable sound h found decides
  rw [cell] at same
  cases same
  obtain ⟨numeral, rfl⟩ := resolved_decimal column given direct value
  refine ⟨rows, r, _, inserted, ids, new, numeral, rfl, ?_⟩
  rw [stored nofun, numbers]
  unfold spelledDecimal
  rw [number?_stored_amount]
  exact ofFinite_value?_iff _ _ _

def priced (amount : String) : Except Failure Outcome × Workspace :=
  (Run.writeRecord "Part" Run.partTemplate (.standard (Calendar.Date.midnight ⟨2026, 1, 2⟩)) .insert
    [amountField] ⟨2, [amount]⟩).runOn pricedWorkspace

theorem decides_amountField : Decides pricedParts 3 [amountField] amountField :=
  ⟨by decide +kernel, [], [], rfl, nofun⟩

theorem wellFormed_pricedStore : pricedWorkspace.store.WellFormed :=
  wellFormed_describing (by decide +kernel) (by decide +kernel) _ 2 1 none

/-- Two and a half is the binary number 5 * 2 ^ -1. -/
theorem amount_stored_exactly_half : ∃ rows r,
    (priced "2.5").2.store.table? "Part" = some { pricedParts with rows := insertRow r rows } ∧
      (r.read (.cell 3)).number? = some (5 / 2) := by
  have succeeded : (priced "2.5").1.toBool = true := by decide +kernel
  rcases ran : priced "2.5" with ⟨e | outcome, w'⟩
  · rw [ran] at succeeded
    cases succeeded
  · have found : pricedWorkspace.store.table? (bare "Part") = some pricedParts := by decide +kernel
    have filled : isNull (some "2.5") = false := by decide +kernel
    obtain ⟨rows, r, q, inserted, _, _, _, spelled, exact⟩ := amount_stored_exactly_iff rfl
      wellFormed_pricedStore ran found decides_amountField (by decide +kernel) (by decide +kernel)
      (by decide +kernel) filled (.inl rfl)
    have half : spelledDecimal "2.5" = .finite false 25 (-1) := by decide +kernel
    rw [half] at spelled
    have same : q = 5 / 2 := by
      rw [← Option.some.inj spelled]
      norm_num [signed]
    rw [same] at exact
    refine ⟨rows, r, inserted, exact.mpr ⟨5, -1, ?_, ?_, ?_, ?_⟩⟩ <;> norm_num

/-- The first integer that needs more than 53 bits is stored as the even one in front of it. -/
theorem long_amount_rounded :
    spelledDecimal "9007199254740993" = .finite false 9007199254740993 0 ∧
      (((priced "9007199254740993").2.store.table? "Part").map fun t =>
        t.rows.map (·.read (.cell 3))) =
          some [.real (.finite false 5066549580791808 (-50)), .int 9007199254740992] ∧
      (Cell.int 9007199254740992).number? ≠ (spelledDecimal "9007199254740993").value? := by
  have spelled : spelledDecimal "9007199254740993" = .finite false 9007199254740993 0 := by
    decide +kernel
  refine ⟨spelled, by decide +kernel, ?_⟩
  rw [spelled]
  intro same
  have equal := Option.some.inj same
  norm_num [signed] at equal

end Write

end RowLoader
