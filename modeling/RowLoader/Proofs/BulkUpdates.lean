import RowLoader.Proofs.Addressing
import RowLoader.Proofs.Updates

/-!
Updates without key fields. Every record changes the rows of one client, and nothing else: what the client
did not own before the run stays as it was, whatever the run sets and wherever it ends.
-/

namespace RowLoader

open RowLoader.Header RowLoader.Source RowLoader.Dictionary RowLoader.Store RowLoader.Complete
open RowLoader.Resolve RowLoader.Write RowLoader.Text RowLoader.Identifier

namespace Work

/-- Whether some work fails or not, the store that it leaves stands in a relation to the one before. -/
def Moves {α : Type} (R : Store → Store → Prop) (x : Work α) : Prop :=
  ∀ w, R w.store (x.runOn w).2.store

section

variable {α β : Type} {R : Store → Store → Prop} (refl : ∀ s, R s s)

include refl in
theorem Reads.moves {x : Work α} (reads : Reads x) : Moves R x := by
  intro w
  rw [reads w]
  exact refl w.store

theorem Moves.bind (trans : ∀ s t u, R s t → R t u → R s u) {x : Work α} {f : α → Work β}
    (first : Moves R x) (next : ∀ a, Moves R (f a)) : Moves R (x >>= f) := by
  intro w
  have moved := first w
  rw [runOn_bind]
  generalize x.runOn w = answer at moved ⊢
  obtain ⟨e | a, mid⟩ := answer
  · exact moved
  · exact trans _ _ _ moved (next a mid)

include refl in
theorem moves_execute {statement : Store.Statement}
    (step : ∀ {s s' affected}, Store.execute s statement = .ok (s', affected) → R s s') :
    Moves R (execute statement) := by
  intro w
  cases broken : w.breakdown with
  | some reason =>
      unfold execute
      rw [runOn_bind_of_error (runOn_enter_broken broken)]
      exact refl w.store
  | none =>
      rw [runOn_execute broken]
      cases done : Store.execute w.store statement with
      | error e => exact refl w.store
      | ok r => exact step done

end

end Work

namespace Store

theorem meets_congr {t u : Table} (columns : u.columns = t.columns) (conditions : Conditions)
    (r : Row) : u.meets conditions r = t.meets conditions r := by
  unfold Table.meets Table.affinity
  rw [columns]

/-- A store differs from another one in those rows of a table only that a value picks under a name, and has
as many rows in every table. What the value does not pick it does not pick afterwards. -/
structure Confined (table name : String) (v : Value) (s s' : Store) : Prop where
  sized : Sized table 0 s s'
  beside : ∀ other, sameName (bare table) other = false → s'.table? other = s.table? other
  outside : ∀ r ∈ rowsOf s (bare table), r ∉ rowsMet s table name v →
    r ∈ rowsOf s' (bare table) ∧ r ∉ rowsMet s' table name v

variable {table name : String} {v : Value}

theorem Confined.refl (s : Store) : Confined table name v s s :=
  ⟨.refl table s, fun _ _ => rfl, fun _ member other => ⟨member, other⟩⟩

theorem Confined.trans {s t u : Store} (first : Confined table name v s t)
    (second : Confined table name v t u) : Confined table name v s u := by
  have sized := first.sized.trans second.sized
  refine ⟨sized, ?_, ?_⟩
  · exact fun other apart => (second.beside other apart).trans (first.beside other apart)
  · intro r member other
    obtain ⟨there, still⟩ := first.outside r member other
    exact second.outside r there still

theorem execute_update_confined {s s' : Store} {sets : Columns} {affected : Nat}
    (sound : s.WellFormed) (h : execute s (.update table sets [(name, v)]) = .ok (s', affected)) :
    Confined table name v s s' := by
  have kept := (execute_update_rowsMet sound h).2
  have sized := execute_update_sized sound h
  obtain ⟨t, a, conditions, t', found, _, conditioned, updated, rfl⟩ := execute_update_ok h
  obtain ⟨named, columns⟩ := updateIn_same updated
  have after := table?_replaceTable_self found named
  refine ⟨sized, fun other apart => table?_replaceTable_beside found named apart, ?_⟩
  intro r member other
  refine ⟨kept r member other, ?_⟩
  have again := (conditionsOf_congr columns s.now [(name, bind v)]).trans conditioned
  rw [rowsMet_eq found conditioned] at other
  rw [rowsMet_eq after again]
  intro met
  refine other (List.mem_filter.mpr ⟨?_, ?_⟩)
  · rwa [rowsOf_of_table? found] at member
  · rw [← meets_congr columns]
    exact (List.mem_filter.mp met).2

end Store

namespace Run

variable {table : String} {template : Template} {context : Context} {fields : List Field}

/-- The client whose rows an update without key fields changes. -/
def bulkClient (template : Template) (context : Context) : Value :=
  .whole (Precedence.firstPositive [template.client, .whole context.client])

/-- Well-formed stores stay so, and differ in the rows of one client of a table at most. -/
def Bulk (table : String) (client : Value) (s s' : Store) : Prop :=
  s.WellFormed → s'.WellFormed ∧ Confined table clientColumn client s s'

theorem Bulk.refl (client : Value) (s : Store) : Bulk table client s s :=
  fun sound => ⟨sound, .refl s⟩

theorem Bulk.trans (client : Value) (s t u : Store) (first : Bulk table client s t)
    (second : Bulk table client t u) : Bulk table client s u := by
  intro sound
  obtain ⟨solid, here⟩ := first sound
  obtain ⟨whole, later⟩ := second solid
  exact ⟨whole, here.trans later⟩

theorem moves_of_reads {α : Type} {client : Value} {x : Work α} (reads : Work.Reads x) :
    Work.Moves (Bulk table client) x :=
  reads.moves (Bulk.refl client)

theorem reads_resolveRow (table : String) (record : Record) (columns : Columns)
    (fields : List Field) : Work.Reads (resolveRow table record columns fields) := by
  intro w
  rw [runOn_resolveRow]
  exact ((reads_resolveEach table record fields).bind fun _ => Work.reads_pure _) w

theorem moves_change (client : Value) (sets : Columns) :
    Work.Moves (Bulk table client) (change table context sets [(clientColumn, client)]) := by
  unfold change
  refine Work.Moves.bind (Bulk.trans client) (moves_of_reads (reads_withChange table context sets)) ?_
  intro stamped
  cases made : Statement.makeUpdate table stamped [(clientColumn, client)] with
  | error e => exact moves_of_reads fun _ => rfl
  | ok statement =>
      rw [Statement.makeUpdate_eq made]
      refine Work.moves_execute (Bulk.refl client) ?_
      intro s s' affected done sound
      exact ⟨execute_wellFormed sound done, execute_update_confined sound done⟩

/-- A record that is updated by no key changes rows of one client at most. -/
theorem moves_writeRecord (unkeyed : keys fields = []) (record : Record) :
    Work.Moves (Bulk table (bulkClient template context))
      (writeRecord table template context .update fields record) := by
  have trans := @Bulk.trans table (bulkClient template context)
  refine Work.Moves.bind trans (moves_of_reads (reads_resolveRow table record [] fields)) ?_
  intro columns
  dsimp only
  unfold Write.update
  rw [unkeyed]
  change Work.Moves _ (if columns.isEmpty then _ else _)
  split
  · exact moves_of_reads (Work.reads_pure _)
  · exact Work.Moves.bind trans (moves_change _ columns) fun _ => moves_of_reads (Work.reads_pure _)

theorem moves_writeEach (unkeyed : keys fields = []) (records : List Record) :
    Work.Moves (Bulk table (bulkClient template context))
      (writeEach table template context .update fields records) := by
  have trans := @Bulk.trans table (bulkClient template context)
  induction records with
  | nil => exact moves_of_reads (Work.reads_pure _)
  | cons record rest ih =>
      refine Work.Moves.bind trans (moves_writeRecord unkeyed record) fun _ => ?_
      exact Work.Moves.bind trans ih fun _ => moves_of_reads (Work.reads_pure _)

theorem moves_carryOut {p : Plan} (unkeyed : keys p.fields = []) :
    Work.Moves (Bulk table (bulkClient template context))
      (p.carryOut table template context .update) := by
  unfold Plan.carryOut
  split
  · rw [map_eq_pure_bind]
    exact Work.Moves.bind (Bulk.trans _) (moves_writeEach unkeyed p.records) fun _ =>
      moves_of_reads (Work.reads_pure _)
  · exact moves_of_reads (Work.reads_ofFault _)

theorem read_ne_nil {tokens : List String} (some : tokens ≠ []) :
    Header.read (tokens.map .some) ≠ [] := by
  intro none
  have long := length_read tokens
  rw [none] at long
  exact some (List.length_eq_zero_iff.mp long.symm)

theorem fields_ne_nil_of_plan {header : Option String} {lines : List String} {p : Plan}
    (planned : plan header lines = .ok p) : p.fields ≠ [] := by
  have cut : ∀ separator (s : List Char) (f : List Char → String), (split separator s).map f ≠ [] :=
    fun separator s f none => split_ne_nil separator s (List.map_eq_nil_iff.mp none)
  unfold plan at planned
  split at planned
  · cases planned
  · dsimp only at planned
    split at planned
    · rename_i tokens kept
      cases planned
      unfold Template.tokens at kept
      split at kept
      · cases kept
      · split at kept
        · cases kept
        · cases kept
          exact read_ne_nil (cut _ _ _)
    · cases planned
      exact read_ne_nil (cut _ _ _)

theorem covered_of_unkeyed (unkeyed : keys fields = []) : Covered fields ↔ fields = [] := by
  unfold Covered
  rw [unkeyed, List.map_nil]
  constructor
  · intro covered
    exact List.eq_nil_iff_forall_not_mem.mpr fun f member => List.not_mem_nil (covered f member)
  · rintro rfl f member
    cases member

/-- The store in which a record of a run is written: what the records before it have left. -/
def storeFor (table : String) (template : Template) (context : Context) (mode : Action)
    (fields : List Field) (records : List Record) (w : Workspace) (i : Nat) : Store :=
  ((writeEach table template context mode fields (records.take i)).runOn w).2.store

theorem storeFor_cons {mode : Action} {record : Record} {w v : Workspace} {outcome : Outcome}
    (written : (writeRecord table template context mode fields record).runOn w = (.ok outcome, v))
    (rest : List Record) (i : Nat) :
    storeFor table template context mode fields (record :: rest) w (i + 1) =
      storeFor table template context mode fields rest v i := by
  unfold storeFor
  rw [List.take_succ_cons, writeEach, Work.runOn_bind_of_ok written, Work.runOn_bind]
  rcases (writeEach table template context mode fields (rest.take i)).runOn v with ⟨e | o, u⟩ <;> rfl

def clientRows (table : String) (template : Template) (context : Context) (s : Store) : Int :=
  (rowsMet s table clientColumn (bulkClient template context)).length

/-- Every record of a run without key fields is an update of the rows that the client had when it was
written. -/
theorem outcomes_of_writeEach {records : List Record} {w w' : Workspace} {outcomes : List Outcome}
    (usable : w.breakdown = none) (sound : w.store.WellFormed) (unkeyed : keys fields = [])
    (some : fields ≠ [])
    (h : (writeEach table template context .update fields records).runOn w = (.ok outcomes, w')) :
    (∀ o ∈ outcomes, o.action = .update) ∧ outcomes.map Outcome.affected =
      (List.range records.length).map fun i => clientRows table template context
        (storeFor table template context .update fields records w i) := by
  induction records generalizing w outcomes with
  | nil =>
      obtain ⟨rfl, _⟩ := Work.pure_ok h
      exact ⟨nofun, rfl⟩
  | cons record rest ih =>
      obtain ⟨outcome, v, written, h⟩ := Work.bind_ok h
      obtain ⟨others, u, later, h⟩ := Work.bind_ok h
      obtain ⟨rfl, rfl⟩ := Work.pure_ok h
      obtain ⟨intact, idle | ⟨_, sets, conditions, affected, executed, rfl, bulk, _⟩⟩ :=
        writeRecord_update_ok usable written
      · exact absurd ((covered_of_unkeyed unkeyed).mp idle.1) some
      · rw [bulk unkeyed] at executed
        obtain ⟨updates, counts⟩ := ih intact (execute_wellFormed sound executed) later
        refine ⟨?_, ?_⟩
        · intro o member
          rcases List.mem_cons.mp member with rfl | inside
          · rfl
          · exact updates o inside
        · rw [List.length_cons, List.range_succ_eq_map, List.map_cons, List.map_cons, List.map_map,
            counts]
          congr 1
          · exact congrArg Nat.cast (execute_update_rowsMet sound executed).1
          · refine List.map_congr_left fun i _ => ?_
            exact congrArg _ (storeFor_cons written rest i).symm

/-- Through an update without key fields, successful or not, no table gets or loses a row. A run without a
table or a header fails and changes nothing. Through another one every row of the table that the client did
not own before stays as it is, and no other table changes; where it succeeds, it has counted for every line
the rows that the client owned when the line was written. -/
theorem bulk_update_stays_in_client {template : Template} {context : Context} {lines : List String}
    {w w' : Workspace} {answer : Except Failure Report} (sound : w.store.WellFormed)
    (unkeyed : ∀ p, plan template.header lines = .ok p → keys p.fields = [])
    (ran : (runLines (some template) context .update lines).runOn w = (answer, w')) :
    (∀ name, (rowsOf w'.store name).length = (rowsOf w.store name).length) ∧
      ((∃ e, answer = .error e) ∧ w'.store = w.store ∨
        ∃ table p, ((tableOf template).runOn w).1 = .ok table ∧ plan template.header lines = .ok p ∧
          (∀ r ∈ rowsOf w.store (bare table),
            r ∉ rowsMet w.store table clientColumn (bulkClient template context) →
            r ∈ rowsOf w'.store (bare table)) ∧
          (∀ name, sameName (bare table) name = false →
            w'.store.table? name = w.store.table? name) ∧
          ∀ report, answer = .ok report → report.updated =
            ((List.range p.data.length).map fun i => clientRows table template context
              (storeFor table template context .update p.fields p.records (begun w) i)).sum) := by
  obtain ⟨failed, same⟩ | ⟨table, p, named, planned⟩ := runLines_begins ran
  · exact ⟨fun name => by rw [same], .inl ⟨failed, same⟩⟩
  have free := unkeyed p planned
  have moved : Confined table clientColumn (bulkClient template context) w.store w'.store := by
    rw [runOn_runLines named planned rfl] at ran
    cases ran
    exact (moves_carryOut free (begun w) sound).2
  refine ⟨?_, .inr ⟨table, p, named, planned, fun r member other =>
    (moved.outside r member other).1, moved.beside, ?_⟩⟩
  · intro name
    rw [moved.sized name, ite_self, Nat.add_zero]
  · rintro report rfl
    obtain ⟨_, clean, outcomes, u, written, rfl, _⟩ := (runLines_ok_iff named planned).mp ran
    obtain ⟨usable, _⟩ := tableOf_ok named
    obtain ⟨updates, counts⟩ := outcomes_of_writeEach (w := begun w) usable sound free
      (fields_ne_nil_of_plan planned) written
    have long := Plan.length_records clean
    rw [Report.addAll_of_all _ updates, ← long, ← counts]
    exact Int.zero_add _

def clientParts : Table :=
  { parts with rows :=
      [⟨1, [.null, .text "A", .text "Axle", .int 4, .int 11, .int 0] ++ List.replicate 5 .null⟩,
        ⟨2, [.null, .text "B", .text "Bolt", .int 9, .int 12, .int 0] ++ List.replicate 5 .null⟩] }

def clientWorkspace : Workspace :=
  { partWorkspace with
    store := describing clientParts [("Part_ID", 13), ("Amount", 11), ("AD_Client_ID", 13)] 3 1 none }

/-- The first line gives the one part of a client to another, so that the second line finds none. -/
def givenAway : List String :=
  ["Amount;AD_Client_ID", "5;12", "6;13"]

def clientTemplate : Template :=
  { partTemplate with client := .whole 11 }

def partsGivenAway : Except Failure Report × Workspace :=
  (runLines (some clientTemplate) (.standard (Calendar.Date.midnight ⟨2026, 1, 2⟩)) .update
    givenAway).runOn clientWorkspace

/-- The other part stays as it is, and the second line has updated nothing. -/
theorem bulk_update_stays_in_client_parts :
    (∀ r ∈ rowsOf clientWorkspace.store (bare "Part"),
        r ∉ rowsMet clientWorkspace.store "Part" clientColumn (.whole 11) →
        r ∈ rowsOf partsGivenAway.2.store (bare "Part")) ∧
      partsGivenAway.1.map Report.updated = .ok 1 := by
  have sound : clientWorkspace.store.WellFormed :=
    wellFormed_describing (by decide +kernel) (by decide +kernel) _ 3 1 none
  have named : ((tableOf clientTemplate).runOn clientWorkspace).1 = .ok "Part" := by decide +kernel
  have unkeyed : ∀ p, plan clientTemplate.header givenAway = .ok p → keys p.fields = [] := by
    intro p planned
    have made : plan clientTemplate.header givenAway =
        .ok ⟨Header.read [some "Amount", some "AD_Client_ID"], 2, ["5;12", "6;13"], .semicolon⟩ := by
      decide +kernel
    cases made.symm.trans planned
    decide +kernel
  have client : bulkClient clientTemplate (.standard (Calendar.Date.midnight ⟨2026, 1, 2⟩)) =
      .whole 11 := by decide +kernel
  have updated : partsGivenAway.1.map Report.updated = .ok 1 := by decide +kernel
  have ran : partsGivenAway = (partsGivenAway.1, partsGivenAway.2) := by rw [Prod.mk.eta]
  obtain ⟨_, ⟨⟨e, failed⟩, _⟩ | ⟨table, _, named', _, kept, _⟩⟩ :=
    bulk_update_stays_in_client sound unkeyed ran
  · rw [failed] at updated
    cases updated
  · cases named.symm.trans named'
    rw [client] at kept
    exact ⟨kept, updated⟩

end Run

end RowLoader
