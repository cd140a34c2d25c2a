import RowLoader.Proofs.Changes
import RowLoader.Proofs.Names
import RowLoader.Proofs.Parallel
import RowLoader.Session

/-!
Keys drawn in one session. However calls for different tables follow each other, those whose names select
the same sequence get its successive numbers, and the next keys of these sequences are all that changes
in the store.
-/

namespace RowLoader

theorem Store.Cell.int?_eq_some {c : Cell} {n : Int} : c.int? = some n ↔ c = .int n := by
  cases c <;> simp [Cell.int?]

namespace Dictionary

open RowLoader.Store RowLoader.Text

/-- The sequence that a name selects: the first that hands out keys and has that name, up to the case of
letters. -/
def namedSequence? (s : Store) (table : String) : Option Row :=
  (rowsOf s sequenceTable).find? fun r =>
    cellOf s sequenceTable "IsTableID" r == .text "Y"
      && sameName (textOf s sequenceTable "Name" r) table

theorem sequenceRow?_of_ascii (s : Store) {table : String} (ascii : IsAscii table) :
    sequenceRow? s table = namedSequence? s table := by
  unfold sequenceRow? namedSequence?
  simp only [namesAgree_upper ascii]

def calls (s : Store) (tables : List String) (r : Row) : Nat :=
  tables.countP fun t => namedSequence? s t = some r

theorem calls_concat (s : Store) (tables : List String) (table : String) (r : Row) :
    calls s (tables ++ [table]) r =
      calls s tables r + if namedSequence? s table = some r then 1 else 0 := by
  unfold calls
  rw [List.countP_append, List.countP_singleton]
  simp only [decide_eq_true_eq]

theorem calls_mono (s : Store) {tables more : List String} (front : tables <+: more) (r : Row) :
    calls s tables r ≤ calls s more r :=
  front.sublist.countP_le

def firstKey (s : Store) (r : Row) : Int :=
  ((currentNext s r).int?).getD 0

/-- The step of a sequence of integers; one of 0 counts as 1. -/
def increment (s : Store) (r : Row) : Int :=
  let n := (intOf? s sequenceTable "IncrementNo" r).getD 0
  if n = 0 then 1 else n

theorem increment_ne_zero (s : Store) (r : Row) : increment s r ≠ 0 := by
  unfold increment
  dsimp only
  split
  · decide
  · assumption

def numberAfter (s : Store) (tables : List String) (r : Row) : Int :=
  firstKey s r + calls s tables r * increment s r

theorem numberAfter_concat {s : Store} {table : String} {r : Row}
    (chosen : namedSequence? s table = some r) (tables : List String) :
    numberAfter s (tables ++ [table]) r = numberAfter s tables r + increment s r := by
  unfold numberAfter
  rw [calls_concat, if_pos chosen, Int.natCast_succ, Int.add_mul, Int.one_mul, Int.add_assoc]

def keyAfter (s : Store) (earlier : List String) (table : String) : Option Value :=
  (namedSequence? s table).map fun r => .whole (numberAfter s earlier r)

/-- A sequence after some calls: where one of them selected it, it has another next key. -/
def advanced (s : Store) (tables : List String) (r : Row) : Row :=
  if calls s tables r = 0 then r else Row.withNext (.int (numberAfter s tables r)) r

theorem advanced_concat_of_ne {s : Store} {table : String} {r : Row}
    (other : namedSequence? s table ≠ some r) (tables : List String) :
    advanced s (tables ++ [table]) r = advanced s tables r := by
  unfold advanced numberAfter
  rw [calls_concat, if_neg other, Nat.add_zero]

def afterCalls (s : Store) (tables : List String) : Store :=
  s.mapRows sequenceTable (advanced s tables)

/-- A sequence consists of integers, and those of the first calls fit, as does the one after them. -/
structure Counts (s : Store) (r : Row) (n : Nat) : Prop where
  first : (currentNext s r).int?.isSome
  step : (intOf? s sequenceTable "IncrementNo" r).isSome
  start : fitsInteger (firstKey s r)
  stop : fitsInteger (firstKey s r + n * increment s r)

theorem counts_iff (s : Store) (r : Row) (n : Nat) : Counts s r n ↔
    (currentNext s r).int?.isSome ∧ (intOf? s sequenceTable "IncrementNo" r).isSome ∧
      fitsInteger (firstKey s r) ∧ fitsInteger (firstKey s r + n * increment s r) := by
  constructor
  · intro h
    exact ⟨h.first, h.step, h.start, h.stop⟩
  · intro h
    exact ⟨h.1, h.2.1, h.2.2.1, h.2.2.2⟩

instance (s : Store) (r : Row) (n : Nat) : Decidable (Counts s r n) :=
  decidable_of_iff _ (counts_iff s r n).symm

theorem Counts.currentNext_eq {s : Store} {r : Row} {n : Nat} (counts : Counts s r n) :
    currentNext s r = .int (firstKey s r) := by
  obtain ⟨a, held⟩ := Option.isSome_iff_exists.mp counts.first
  unfold firstKey
  rw [held]
  exact Cell.int?_eq_some.mp held

theorem Counts.step_eq {s : Store} {r : Row} {n : Nat} (counts : Counts s r n) :
    Dictionary.step s r = .int (increment s r) := by
  obtain ⟨b, held⟩ := Option.isSome_iff_exists.mp counts.step
  unfold Dictionary.step increment
  rw [Cell.int?_eq_some.mp held, held]
  by_cases zero : b = 0
  · subst zero
    rfl
  · rw [Option.getD_some, if_neg zero]
    split
    · cases ‹_›
    · cases ‹_›
      exact absurd rfl zero
    · cases ‹_›
    · rfl

theorem fitsInteger_between {a b : Int} {m n : Nat} (below : m ≤ n) (start : fitsInteger a = true)
    (stop : fitsInteger (a + n * b) = true) : fitsInteger (a + m * b) = true := by
  have less : (m : Int) ≤ n := Int.ofNat_le.mpr below
  have positive : (0 : Int) ≤ m := Int.natCast_nonneg m
  simp only [fitsInteger, Bool.and_eq_true, decide_eq_true_eq] at *
  rcases Int.le_total 0 b with up | down
  · have := Int.mul_le_mul_of_nonneg_right less up
    have := Int.mul_nonneg positive up
    omega
  · have := Int.mul_le_mul_of_nonpos_right less down
    have := Int.mul_nonpos_of_nonneg_of_nonpos positive down
    omega

theorem Counts.mono {s : Store} {r : Row} {m n : Nat} (counts : Counts s r n) (below : m ≤ n) :
    Counts s r m :=
  ⟨counts.first, counts.step, counts.start, fitsInteger_between below counts.start counts.stop⟩

theorem id_advanced (s : Store) (tables : List String) (r : Row) : (advanced s tables r).id = r.id := by
  unfold advanced
  split <;> rfl

theorem length_advanced (s : Store) (tables : List String) (r : Row) :
    (advanced s tables r).cells.length = r.cells.length := by
  unfold advanced
  split
  · rfl
  · exact List.length_set ..

theorem read_advanced_of_ne (s : Store) (tables : List String) (r : Row) {i : Nat}
    (other : i ≠ nextColumn) : (advanced s tables r).read (.cell i) = r.read (.cell i) := by
  unfold advanced
  split
  · rfl
  · exact read_withNext_of_ne _ r other

theorem withNext_advanced (s : Store) (tables : List String) (next : Cell) (r : Row) :
    Row.withNext next (advanced s tables r) = Row.withNext next r := by
  unfold advanced
  split
  · rfl
  · unfold Row.withNext
    rw [List.set_set]

variable {s : Store} {q : Table}

theorem table?_afterCalls (found : s.table? sequenceTable = some q) (tables : List String) :
    (afterCalls s tables).table? sequenceTable = some (q.mapRows (advanced s tables)) := by
  unfold afterCalls
  rw [table?_mapRows s _ (sameName_self sequenceTable), found, Option.map_some]

theorem sequences_afterCalls (shape : Sequences q) (tables : List String) :
    Sequences (q.mapRows (advanced s tables)) :=
  shape.mapRows (id_advanced s tables) (length_advanced s tables)

theorem sequenceRow?_afterCalls (found : s.table? sequenceTable = some q) (shape : Sequences q)
    (tables : List String) {table : String} (ascii : IsAscii table) :
    sequenceRow? (afterCalls s tables) table = (namedSequence? s table).map (advanced s tables) := by
  rw [sequenceRow?_eq (table?_afterCalls found tables) (sequences_afterCalls shape tables),
    ← sequenceRow?_of_ascii s ascii, sequenceRow?_eq found shape]
  exact rowOfSequence?_mapRows q (fun r => read_advanced_of_ne s tables r (by decide))
    (fun r => read_advanced_of_ne s tables r (by decide)) table

theorem step_afterCalls (found : s.table? sequenceTable = some q) (shape : Sequences q)
    (tables : List String) (r : Row) :
    Dictionary.step (afterCalls s tables) (advanced s tables r) = Dictionary.step s r := by
  rw [step_eq (table?_afterCalls found tables) (sequences_afterCalls shape tables),
    step_eq found shape, read_advanced_of_ne s tables r (by decide)]

/-- The next key of a sequence goes up by one step with each call. -/
theorem currentNext_afterCalls (found : s.table? sequenceTable = some q) (shape : Sequences q)
    (tables : List String) {r : Row} (member : r ∈ q.rows) {n : Nat} (counts : Counts s r n) :
    currentNext (afterCalls s tables) (advanced s tables r) = .int (numberAfter s tables r) := by
  rw [currentNext_eq (table?_afterCalls found tables) (sequences_afterCalls shape tables)]
  unfold advanced numberAfter
  split
  · rename_i unused
    rw [unused, ← currentNext_eq found shape, counts.currentNext_eq]
    simp
  · exact read_withNext shape member _

theorem withNext_afterCalls (shape : Sequences q) (tables : List String) {table : String} {r : Row}
    (member : r ∈ q.rows) (chosen : namedSequence? s table = some r) :
    withNext (q.mapRows (advanced s tables)) r.id (.int (numberAfter s tables r + increment s r)) =
      q.mapRows (advanced s (tables ++ [table])) := by
  have used : calls s (tables ++ [table]) r ≠ 0 := by
    rw [calls_concat, if_pos chosen]
    exact Nat.succ_ne_zero _
  change (q.mapRows _).mapRows _ = _
  rw [Table.mapRows_comp]
  refine Table.mapRows_congr fun p inside => ?_
  rw [id_advanced]
  -- ids tell the rows apart, so it is the selected row alone that counts one call more
  by_cases same : p.id = r.id
  · rw [if_pos same, shape.sound.eq_of_id inside member same, withNext_advanced]
    unfold advanced
    rw [if_neg used, numberAfter_concat chosen]
  · have other : namedSequence? s table ≠ some p := by
      rw [chosen]
      rintro ⟨⟩
      exact same rfl
    rw [if_neg same, advanced_concat_of_ne other]

theorem afterCalls_concat_of_none {table : String} (missing : namedSequence? s table = none)
    (tables : List String) : afterCalls s (tables ++ [table]) = afterCalls s tables := by
  have same : advanced s (tables ++ [table]) = advanced s tables := by
    funext r
    refine advanced_concat_of_ne ?_ tables
    rw [missing]
    exact nofun
  unfold afterCalls
  rw [same]

/-- After some calls, one more gets the next number of its sequence, and counts for that sequence. -/
theorem nextKey_afterCalls (sound : s.WellFormed) (tables : List String) {table : String}
    (ascii : IsAscii table)
    (counts : ∀ r ∈ namedSequence? s table, Counts s r (calls s (tables ++ [table]) r)) :
    nextKey (afterCalls s tables) table =
      .ok (keyAfter s tables table, afterCalls s (tables ++ [table])) := by
  obtain ⟨q, found, shape⟩ := sequences_of_wellFormed sound
  have selected := sequenceRow?_afterCalls found shape tables ascii
  unfold nextKey keyAfter
  cases chosen : namedSequence? s table with
  | none =>
      rw [chosen] at selected
      rw [selected, afterCalls_concat_of_none chosen]
      rfl
  | some r =>
      have counted := counts r chosen
      have member : r ∈ q.rows := by
        rw [← sequenceRow?_of_ascii s ascii, sequenceRow?_eq found shape] at chosen
        exact List.mem_of_find?_eq_some chosen
      have fits : fitsInteger (numberAfter s tables r + increment s r) = true := by
        rw [← numberAfter_concat chosen]
        exact counted.stop
      rw [chosen] at selected
      rw [selected]
      dsimp only [Option.map_some]
      rw [currentNext_afterCalls found shape tables member counted,
        step_afterCalls found shape, counted.step_eq]
      have replaced := replaceTable_mapRows s sequenceTable (advanced s tables)
        (advanced s (tables ++ [table]))
      rw [tableAt_of_some found] at replaced
      rw [show advance (.int (numberAfter s tables r)) (.int (increment s r)) =
        .ok (.int (numberAfter s tables r + increment s r)) from rfl, except_ok_bind,
        setNext_int (table?_afterCalls found tables) (sequences_afterCalls shape tables) _ fits,
        except_ok_bind, id_advanced, withNext_afterCalls shape tables member chosen]
      exact congrArg (fun u => Except.ok (some (Value.whole (numberAfter s tables r)), u)) replaced

theorem afterCalls_nil (s : Store) : afterCalls s [] = s := by
  have same : advanced s [] = fun r => r := rfl
  unfold afterCalls
  rw [same, mapRows_same]

def keysFor (s : Store) (earlier tables : List String) : List (Option Value) :=
  tables.mapIdx fun i table => keyAfter s (earlier ++ tables.take i) table

theorem keysFor_cons (s : Store) (earlier : List String) (table : String) (rest : List String) :
    keysFor s earlier (table :: rest) =
      keyAfter s earlier table :: keysFor s (earlier ++ [table]) rest := by
  unfold keysFor
  rw [List.mapIdx_cons]
  simp only [List.take_zero, List.append_nil, List.take_succ_cons, List.append_assoc,
    List.singleton_append]

theorem getElem?_keysFor {s : Store} {tables : List String} {i : Nat} {table : String}
    (there : tables[i]? = some table) :
    (keysFor s [] tables)[i]? = some (keyAfter s (tables.take i) table) := by
  unfold keysFor
  rw [List.getElem?_mapIdx, there]
  rfl

/-- Two calls that select the same sequence get different keys. -/
theorem keysFor_ne {s : Store} {tables : List String} {i j : Nat} (before : i < j)
    {table other : String} (first : tables[i]? = some table) (second : tables[j]? = some other)
    {r : Row} (chosen : namedSequence? s table = some r) (again : namedSequence? s other = some r) :
    (keysFor s [] tables)[i]? ≠ (keysFor s [] tables)[j]? := by
  have fewer : calls s (tables.take i) r < calls s (tables.take j) r := by
    have here : tables.take (i + 1) = tables.take i ++ [table] := by
      rw [List.take_add_one, first]
      rfl
    have once := calls_concat s (tables.take i) table r
    rw [if_pos chosen, ← here] at once
    have more : calls s (tables.take (i + 1)) r ≤ calls s (tables.take j) r :=
      calls_mono s (List.take_prefix_take_left before) r
    omega
  rw [getElem?_keysFor first, getElem?_keysFor second]
  unfold keyAfter
  rw [chosen, again]
  intro same
  have equal : numberAfter s (tables.take i) r = numberAfter s (tables.take j) r := by
    simpa using same
  unfold numberAfter at equal
  have steps := Int.eq_of_mul_eq_mul_right (increment_ne_zero s r) (Int.add_left_cancel equal)
  omega

end Dictionary

namespace Session

open RowLoader.Dictionary RowLoader.Store RowLoader.Text

/-- What a session does that draws keys and is not rolled back: it asks for the next key of a table, or
commits. -/
inductive Drawing where
  | key (table : String)
  | commit
deriving Repr, DecidableEq

def Drawing.table? : Drawing → Option String
  | .key table => some table
  | .commit => none

def drawKeys : List Drawing → Session → Except Failure (List (Option Value) × Session)
  | [], v => .ok ([], v)
  | .key table :: rest, v =>
    match v.perform (Work.nextKey table) with
    | (.error e, _) => .error e
    | (.ok key, v) => (drawKeys rest v).map fun r => (key :: r.1, r.2)
  | .commit :: rest, v => do drawKeys rest (← v.settle)

theorem perform_nextKey {v : Session} (usable : v.work.breakdown = none) {table : String}
    {key : Option Value} {u : Store} (drawn : nextKey v.work.store table = .ok (key, u)) :
    v.perform (Work.nextKey table) =
      (.ok key, { v with work := { v.work with store := u, isOpen := true } }) := by
  obtain ⟨answer, leaves⟩ :=
    Work.runOn_advance usable (Dictionary.nextKey · table) Failure.message
  have ran : (Work.nextKey table).runOn v.work =
      (.ok key, { v.work with store := u, isOpen := true }) := by
    refine Prod.ext ?_ (leaves _ drawn)
    rw [Work.nextKey, answer, drawn]
    rfl
  unfold perform afterBreakdown
  rw [ran]
  dsimp only
  rw [usable]
  rfl

theorem settle_of_usable {v : Session} (usable : v.work.breakdown = none) :
    v.settle = .ok v.commit := by
  unfold settle
  rw [usable]

/-- After some calls, more of them get the next numbers of their sequences, whatever is committed in
between, and change nothing but these sequences. -/
theorem drawKeys_afterCalls {s : Store} (sound : s.WellFormed) {steps : List Drawing}
    (earlier : List String) (ascii : ∀ t ∈ steps.filterMap Drawing.table?, IsAscii t)
    (counts : ∀ t ∈ steps.filterMap Drawing.table?, ∀ r ∈ namedSequence? s t,
      Counts s r (calls s (earlier ++ steps.filterMap Drawing.table?) r))
    {v : Session} (usable : v.work.breakdown = none) (here : v.work.store = afterCalls s earlier) :
    ∃ v' opened, drawKeys steps v =
        .ok (keysFor s earlier (steps.filterMap Drawing.table?), v') ∧
      v'.work = { v.work with
        store := afterCalls s (earlier ++ steps.filterMap Drawing.table?), isOpen := opened } := by
  induction steps generalizing earlier v with
  | nil =>
      refine ⟨v, v.work.isOpen, rfl, ?_⟩
      rw [List.filterMap_nil, List.append_nil, ← here]
  | cons step rest ih =>
      cases step with
      | key table =>
          rw [List.filterMap_cons_some (show Drawing.table? (.key table) = some table from rfl)]
            at ascii counts ⊢
          have whole : earlier ++ table :: rest.filterMap Drawing.table? =
              earlier ++ [table] ++ rest.filterMap Drawing.table? := by
            rw [List.append_assoc, List.singleton_append]
          rw [whole] at counts ⊢
          have drawn := nextKey_afterCalls sound earlier (ascii table List.mem_cons_self)
            fun r chosen => (counts table List.mem_cons_self r chosen).mono
              (calls_mono s (List.prefix_append ..) r)
          rw [← here] at drawn
          obtain ⟨v', opened, ran, leaves⟩ := ih (earlier ++ [table])
            (v := { v with work := { v.work with
              store := afterCalls s (earlier ++ [table]), isOpen := true } })
            (fun t later => ascii t (List.mem_cons_of_mem _ later))
            (fun t later => counts t (List.mem_cons_of_mem _ later)) usable rfl
          refine ⟨v', opened, ?_, leaves⟩
          rw [drawKeys, perform_nextKey usable drawn, keysFor_cons]
          dsimp only
          rw [ran]
          rfl
      | commit =>
          obtain ⟨v', opened, ran, leaves⟩ := ih earlier (v := v.commit) ascii counts usable here
          refine ⟨v', opened, ?_, leaves⟩
          rw [drawKeys, settle_of_usable usable, except_ok_bind, ran]
          rfl

/-- In a session that is not rolled back, calls for keys succeed as long as the numbers of the sequences
fit. Each call for which there is a sequence gets the first number of the sequence and one step more for
every earlier call that selected the same one, so no two calls get the same key of a sequence. Of the
store only the next keys of the used sequences change, and a call that selects no sequence gets no key
and changes nothing. -/
theorem keys_never_drawn_twice {v : Session} (steps : List Drawing) {tables : List String}
    (called : steps.filterMap Drawing.table? = tables) (usable : v.work.breakdown = none)
    (sound : v.work.store.WellFormed) (ascii : ∀ t ∈ tables, IsAscii t)
    (counts : ∀ t ∈ tables, ∀ r ∈ namedSequence? v.work.store t,
      Counts v.work.store r (calls v.work.store tables r)) :
    ∃ keys v', drawKeys steps v = .ok (keys, v') ∧
      keys = tables.mapIdx (fun i t => (namedSequence? v.work.store t).map fun r =>
        .whole (firstKey v.work.store r +
          calls v.work.store (tables.take i) r * increment v.work.store r)) ∧
      (∀ (i j : Nat) (t u : String) (r : Row), i < j → tables[i]? = some t → tables[j]? = some u →
        namedSequence? v.work.store t = some r → namedSequence? v.work.store u = some r →
        keys[i]? ≠ keys[j]?) ∧
      (∃ opened, v'.work =
        { v.work with store := afterCalls v.work.store tables, isOpen := opened }) ∧
      ∀ before table after, steps = before ++ .key table :: after →
        namedSequence? v.work.store table = none →
        ∃ earlier mid, drawKeys before v = .ok (earlier, mid) ∧
          mid.perform (Work.nextKey table) =
            (.ok none, { mid with work := { mid.work with isOpen := true } }) := by
  subst called
  have start := (afterCalls_nil v.work.store).symm
  obtain ⟨v', opened, ran, leaves⟩ :=
    drawKeys_afterCalls sound [] ascii counts usable start
  refine ⟨_, v', ran, rfl, ?_, ⟨opened, leaves⟩, ?_⟩
  · intro i j t u r order first second chosen again
    exact keysFor_ne order first second chosen again
  · rintro before table after rfl missing
    rw [List.filterMap_append] at ascii counts
    obtain ⟨mid, opened, earlier, reached⟩ := drawKeys_afterCalls sound []
      (fun t member => ascii t (List.mem_append_left _ member))
      (fun t member r chosen => (counts t (List.mem_append_left _ member) r chosen).mono
        (calls_mono _ (List.prefix_append ..) r)) usable start
    refine ⟨_, mid, earlier, ?_⟩
    have store : mid.work.store = afterCalls v.work.store (before.filterMap Drawing.table?) := by
      rw [reached]
      rfl
    have drawn := nextKey_afterCalls sound (before.filterMap Drawing.table?)
      (ascii table (by simp [Drawing.table?])) (by rw [missing]; exact nofun)
    rw [afterCalls_concat_of_none missing, ← store] at drawn
    rw [perform_nextKey (by rw [reached]; exact usable) drawn]
    unfold keyAfter
    rw [missing]
    rfl

/-- A store with sequences for three tables. That for bolts is spelt in three ways, of which the first
hands out no keys. -/
def sequencesStore : Store where
  tables := emptyTables.map fun d => if d.name = sequenceTable then
    { d with rows :=
        [⟨1, [.null, .text "Part", .text "Y", .int 3, .int 1]⟩,
          ⟨2, [.null, .text "Bolt", .text "N", .int 90, .int 1]⟩,
          ⟨3, [.null, .text "bolt", .text "Y", .int 10, .int 0]⟩,
          ⟨4, [.null, .text "BOLT", .text "Y", .int 50, .int 5]⟩,
          ⟨5, [.null, .text "Nut", .text "Y", .int 5, .int (-2)]⟩] }
    else d
  now := Calendar.Date.midnight ⟨2026, 1, 2⟩

/-- Keys of these sequences in turn, with a commit in between and a table without a sequence. -/
theorem sequences_drawn_in_turn : ∃ keys v',
    drawKeys [.key "Part", .key "BOLT", .commit, .key "PART", .key "Screw", .key "Nut", .key "bolt",
      .key "nut"] (start sequencesStore fun _ => "") = .ok (keys, v') ∧
    keys = [some (.whole 3), some (.whole 10), some (.whole 4), none, some (.whole 5),
      some (.whole 11), some (.whole 3)] := by
  have sound : sequencesStore.WellFormed := by decide +kernel
  obtain ⟨keys, v', ran, got, _⟩ := keys_never_drawn_twice
    (v := start sequencesStore fun _ => "")
    [.key "Part", .key "BOLT", .commit, .key "PART", .key "Screw", .key "Nut", .key "bolt",
      .key "nut"]
    rfl rfl sound (by decide) (by decide +kernel)
  refine ⟨keys, v', ran, got.trans ?_⟩
  decide +kernel

end Session

end RowLoader
