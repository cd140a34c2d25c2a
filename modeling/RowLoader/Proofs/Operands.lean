import RowLoader.Proofs.Execution
import RowLoader.Proofs.Keys

/-!
What names mean in the conditions of a statement. A name means a column, unless it is a word for null or
for the present moment; a word for truth gives way to a column of its name. A condition on a column asks
for one of its cells, and a condition on a word holds in every row or in none.
-/

namespace RowLoader.Store

open RowLoader.Dictionary RowLoader.Text RowLoader.Identifier

theorem isAmong_append (words others : List String) (name : String) :
    isAmong (words ++ others) name = (isAmong words name || isAmong others name) := by
  simp [isAmong]

theorem isAmong_mono {words more : List String} (within : words ⊆ more) {name : String}
    (free : isAmong more name = false) : isAmong words name = false := by
  unfold isAmong at free ⊢
  rw [List.contains_eq_mem, decide_eq_false_iff_not] at free ⊢
  exact fun member => free (within member)

/-- A word that never names a column means null or a text. -/
theorem literal?_some {now : Calendar.Timestamp} {name : String} {c : Cell}
    (means : literal? now name = some c) : c = .null ∨ ∃ s, c = .text s := by
  have listed := mem_of_lookup means
  unfold literals at listed
  simp only [List.mem_cons, Prod.mk.injEq, List.not_mem_nil, or_false] at listed
  rcases listed with ⟨_, rfl⟩ | ⟨_, rfl⟩ | ⟨_, rfl⟩ | ⟨_, rfl⟩
  · exact .inl rfl
  all_goals exact .inr ⟨_, rfl⟩

theorem literal?_eq_none {name : String} (worded : isAmong ("NULL" :: clockWords) name = false)
    (now : Calendar.Timestamp) : literal? now name = none := by
  unfold isAmong at worded
  rw [List.contains_eq_mem, decide_eq_false_iff_not] at worded
  refine List.lookup_eq_none_iff.mpr fun p member => ?_
  have listed : p.1 ∈ "NULL" :: clockWords := List.mem_map_of_mem (f := Prod.fst) member
  exact bne_iff_ne.mpr fun same => worded (same ▸ listed)

theorem operand?_of_slot? {t : Table} {name : String} {slot : Slot}
    (worded : isAmong ("NULL" :: clockWords) name = false) (leads : t.slot? (bare name) = some slot)
    (now : Calendar.Timestamp) : t.operand? now name = some (.held slot) := by
  unfold Table.operand?
  rw [literal?_eq_none worded, leads]

theorem operand?_congr {t u : Table} (columns : u.columns = t.columns) (now : Calendar.Timestamp)
    (name : String) : u.operand? now name = t.operand? now name := by
  unfold Table.operand?
  rw [slot?_congr columns]

theorem slot?_of_operand? {t : Table} {now : Calendar.Timestamp} {name : String} {slot : Slot}
    (means : t.operand? now name = some (.held slot)) : t.slot? (bare name) = some slot := by
  unfold Table.operand? at means
  split at means
  · cases means
  · rename_i leads
    cases means
    exact leads
  · obtain ⟨c, _, same⟩ := Option.map_eq_some_iff.mp means
    cases same

/-- A name that is no word for the present moment means the same at any time. -/
theorem operand?_timeless {name : String} (timeless : isAmong clockWords name = false) (t : Table)
    (now later : Calendar.Timestamp) : t.operand? later name = t.operand? now name := by
  have same : literal? later name = literal? now name := by
    by_cases null : asciiUpper (bare name) = "NULL"
    · unfold literal?
      rw [null]
      rfl
    · have worded : isAmong ("NULL" :: clockWords) name = false := by
        unfold isAmong at timeless ⊢
        rw [List.contains_cons, timeless, beq_false_of_ne null, Bool.or_false]
      rw [literal?_eq_none worded, literal?_eq_none worded]
  unfold Table.operand?
  rw [same]

theorem conditionsOf_timeless {named : List (String × Cell)}
    (timeless : ∀ n ∈ named, isAmong clockWords n.1 = false) (t : Table)
    (now later : Calendar.Timestamp) : conditionsOf t later named = conditionsOf t now named := by
  induction named with
  | nil => rfl
  | cons n rest ih =>
      unfold conditionsOf
      rw [operand?_timeless (timeless n List.mem_cons_self) t now,
        ih fun m member => timeless m (List.mem_cons_of_mem n member)]

theorem conditionsOf_congr {t u : Table} (columns : u.columns = t.columns) (now : Calendar.Timestamp)
    (named : List (String × Cell)) : conditionsOf u now named = conditionsOf t now named := by
  induction named with
  | nil => rfl
  | cons c rest ih =>
      unfold conditionsOf
      rw [operand?_congr columns, ih]

theorem conditionsOf_cons_ok {t : Table} {now : Calendar.Timestamp} {name : String} {bound : Cell}
    {rest : List (String × Cell)} {conditions : Conditions}
    (h : conditionsOf t now ((name, bound) :: rest) = .ok conditions) :
    ∃ operand others, t.operand? now name = some operand ∧ conditionsOf t now rest = .ok others ∧
      conditions = operand.conditions bound ++ others := by
  unfold conditionsOf at h
  split at h
  · cases h
  · rename_i operand means
    obtain ⟨others, made, done⟩ := except_bind_ok h
    cases done
    exact ⟨operand, others, means, made, rfl⟩

/-- An operand equals a bound cell in a row of a table: a column compares as it keeps its cells. -/
def Operand.equals (t : Table) (r : Row) (bound : Cell) : Operand → Bool
  | .held slot => (r.read slot).equals (t.affinity slot) bound
  | .fixed c => c.same bound

theorem meets_neverMet (t : Table) (others : Conditions) (r : Row) :
    t.meets (neverMet :: others) r = false := by
  simp [Table.meets, neverMet, Cell.equals, Cell.stored, Row.read, Cell.same]

theorem meets_conditions (t : Table) (r : Row) (bound : Cell) (operand : Operand)
    (others : Conditions) : t.meets (operand.conditions bound ++ others) r =
      (operand.equals t r bound && t.meets others r) := by
  cases operand with
  | held slot => rfl
  | fixed c =>
      unfold Operand.conditions Operand.equals
      dsimp only
      cases c.same bound with
      | true => rfl
      | false => exact meets_neverMet t others r

/-- A value picks a row under a name: what the name means there equals the value. -/
def picks (t : Table) (now : Calendar.Timestamp) (name : String) (v : Value) (r : Row) : Bool :=
  (t.operand? now name).any (·.equals t r (bind v))

/-- A row meets the conditions of named values where each of them picks it. -/
theorem meets_conditionsOf {t : Table} {now : Calendar.Timestamp} {named : List (String × Value)}
    {conditions : Conditions}
    (made : conditionsOf t now (named.map fun c => (c.1, bind c.2)) = .ok conditions) (r : Row) :
    t.meets conditions r = named.all fun c => picks t now c.1 c.2 r := by
  induction named generalizing conditions with
  | nil =>
      cases made
      rfl
  | cons c rest ih =>
      obtain ⟨operand, others, means, followed, rfl⟩ := conditionsOf_cons_ok made
      unfold picks at ih ⊢
      rw [meets_conditions, ih followed, List.all_cons, means, Option.any_some]

/-- A condition is one that no row meets, or asks for the slot of one of the names. -/
theorem mem_conditionsOf {t : Table} {now : Calendar.Timestamp} {named : List (String × Cell)}
    {conditions : Conditions} (h : conditionsOf t now named = .ok conditions) :
    ∀ c ∈ conditions, c = neverMet ∨ ∃ n ∈ named, t.slot? (bare n.1) = some c.1 := by
  induction named generalizing conditions with
  | nil =>
      cases h
      exact fun c member => absurd member List.not_mem_nil
  | cons n rest ih =>
      obtain ⟨operand, others, means, made, rfl⟩ := conditionsOf_cons_ok h
      intro c member
      rcases List.mem_append.mp member with own | other
      · cases operand with
        | held slot =>
            cases List.mem_singleton.mp own
            exact .inr ⟨n, List.mem_cons_self, slot?_of_operand? means⟩
        | fixed word =>
            unfold Operand.conditions at own
            dsimp only at own
            split at own
            · exact absurd own List.not_mem_nil
            · exact .inl (List.mem_singleton.mp own)
      · rcases ih made c other with never | ⟨m, inside, leads⟩
        · exact .inl never
        · exact .inr ⟨m, List.mem_cons_of_mem _ inside, leads⟩

end RowLoader.Store
