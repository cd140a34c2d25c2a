import RowLoader.Proofs.KeyedRecords
import RowLoader.Proofs.Runs

/-!
Work that goes alike in two workspaces. What a record does depends on the store, on the unique ids to come
and on what is known of the columns of its table, and not on what else is remembered; so two runs that
began with the same knowledge stay alike from record to record.
-/

namespace RowLoader

open RowLoader.Header RowLoader.Dictionary RowLoader.Store RowLoader.Complete RowLoader.Resolve
open RowLoader.Text RowLoader.Identifier RowLoader.Write RowLoader.Source RowLoader.Run

namespace Store

theorem execute_insert_table? {s s' : Store} {table : String} {columns : Columns} {affected : Nat}
    (h : execute s (.insert table columns) = .ok (s', affected)) {name : String}
    (other : sameName (bare table) name = false) : s'.table? name = s.table? name := by
  obtain ⟨_, t, a, t', found, _, inserted, rfl⟩ := execute_insert_ok h
  obtain ⟨id, _, _, rfl⟩ := insertInto_ok inserted
  refine table?_replaceTable_of_ne s ?_
  rw [sameName_left (table?_some found).2]
  exact other

end Store

def readTables : List String :=
  [tableTable, tabTable, columnTable]

/-- A change of the store that keeps it well-formed, and leaves what a run reads of the dictionary. -/
def SparesDictionary (s s' : Store) : Prop :=
  s.WellFormed → s'.WellFormed ∧ ∀ d ∈ readTables, s'.table? d = s.table? d

/-- Workspaces of two runs that hold the same store and draw the same unique ids; each knows what its run
began with. -/
structure Alike (base other u v : Workspace) : Prop where
  left : Sees base u
  right : Sees other v
  tabs : u.store.table? tabTable = base.store.table? tabTable
  store : v.store = u.store
  ids : v.uniqueId = u.uniqueId
  drawn : v.drawn = u.drawn

theorem Alike.refl {w : Workspace} (usable : w.breakdown = none) (sound : w.store.WellFormed) :
    Alike w w w w :=
  ⟨.refl usable sound, .refl usable sound, rfl, rfl, rfl, rfl⟩

theorem Alike.asked {base other u u' v v' : Workspace} (alike : Alike base other u v)
    (first : Asked u u') (second : Asked v v') : Alike base other u' v' := by
  refine ⟨alike.left.asked first, alike.right.asked second, ?_, ?_, ?_, ?_⟩
  · rw [first.store, alike.tabs]
  · rw [first.store, second.store, alike.store]
  · obtain ⟨_, same⟩ := first.same
    obtain ⟨_, again⟩ := second.same
    exact (congrArg Workspace.uniqueId again).trans
      (alike.ids.trans (congrArg Workspace.uniqueId same).symm)
  · obtain ⟨_, same⟩ := first.same
    obtain ⟨_, again⟩ := second.same
    exact (congrArg Workspace.drawn again).trans
      (alike.drawn.trans (congrArg Workspace.drawn same).symm)

theorem Run.Sees.changed {base u : Workspace} (sees : Sees base u) {s : Store}
    (spares : SparesDictionary u.store s) : Sees base { u with store := s, isOpen := true } := by
  obtain ⟨sound, same⟩ := spares sees.sound
  exact ⟨sees.usable, sound, sees.more, (same tableTable (by decide)).trans sees.tables,
    (same columnTable (by decide)).trans sees.columns⟩

theorem Alike.changed {base other u v : Workspace} (alike : Alike base other u v) {s : Store}
    (spares : SparesDictionary u.store s) :
    Alike base other { u with store := s, isOpen := true } { v with store := s, isOpen := true } := by
  refine ⟨alike.left.changed spares, alike.right.changed (alike.store ▸ spares), ?_, rfl, alike.ids,
    alike.drawn⟩
  exact ((spares alike.left.sound).2 tabTable (by decide)).trans alike.tabs

namespace Work

variable {α β : Type} {base other : Workspace}

/-- A piece of work answers the same in workspaces that are alike, and leaves them alike where it
succeeds. -/
def Parallel (base other : Workspace) (x : Work α) : Prop :=
  ∀ u v, Alike base other u v → (x.runOn v).1 = (x.runOn u).1 ∧
    ∀ a, (x.runOn u).1 = .ok a → Alike base other (x.runOn u).2 (x.runOn v).2

theorem parallel_ofExcept (x : Except Failure α) : Parallel base other (ofExcept x) :=
  fun _ _ alike => ⟨rfl, fun _ _ => alike⟩

theorem parallel_pure (a : α) : Parallel base other (pure a : Work α) :=
  parallel_ofExcept (.ok a)

theorem parallel_ofFault (x : Except Fault α) : Parallel base other (ofFault x) :=
  parallel_ofExcept _

theorem Parallel.bind {x : Work α} {f : α → Work β} (first : Parallel base other x)
    (next : ∀ a, Parallel base other (f a)) : Parallel base other (x >>= f) := by
  intro u v alike
  obtain ⟨same, after⟩ := first u v alike
  rw [runOn_bind, runOn_bind]
  generalize x.runOn u = here, x.runOn v = there at same after ⊢
  obtain ⟨answer, u'⟩ := here
  obtain ⟨_, v'⟩ := there
  cases same
  cases answer with
  | error e => exact ⟨rfl, nofun⟩
  | ok a => exact next a u' v' (after a rfl)

theorem parallel_ofFault_bind {x : Except Fault α} {f : α → Work β}
    (next : ∀ a, x = .ok a → Parallel base other (f a)) :
    Parallel base other (ofFault x >>= f) := by
  cases x with
  | error e => exact parallel_ofFault (.error e)
  | ok a => exact next a rfl

/-- Work that asks gets the same answer wherever the same is known. -/
theorem parallel_of_asked {x : Work α} (answer : Workspace → Except Failure α)
    (asks : ∀ w, w.breakdown = none → ∃ w', x.runOn w = (answer w, w') ∧ Asked w w')
    (same : ∀ u v, Alike base other u v → answer v = answer u) : Parallel base other x := by
  intro u v alike
  obtain ⟨u', ranU, askedU⟩ := asks u alike.left.usable
  obtain ⟨v', ranV, askedV⟩ := asks v alike.right.usable
  rw [ranU, ranV]
  exact ⟨same u v alike, fun _ _ => alike.asked askedU askedV⟩

/-- Work that changes the store makes the same change of the same store. -/
theorem parallel_of_change {x : Work α} (change : Store → Except Failure (α × Store))
    (changes : ∀ w, w.breakdown = none → (x.runOn w).1 = (change w.store).map (·.1) ∧
      ∀ r, change w.store = .ok r → (x.runOn w).2 = { w with store := r.2, isOpen := true })
    (spares : ∀ s r, change s = .ok r → SparesDictionary s r.2) : Parallel base other x := by
  intro u v alike
  obtain ⟨answerU, leavesU⟩ := changes u alike.left.usable
  obtain ⟨answerV, leavesV⟩ := changes v alike.right.usable
  rw [alike.store] at answerV leavesV
  refine ⟨answerV.trans answerU.symm, ?_⟩
  intro a done
  rw [answerU] at done
  obtain ⟨r, made, _⟩ := except_map_ok.mp done
  rw [leavesU r made, leavesV r made]
  exact alike.changed (spares u.store r made)

theorem parallel_drawId : Parallel base other drawId := by
  intro u v alike
  change Except.ok (v.uniqueId v.drawn) = Except.ok (u.uniqueId u.drawn) ∧ _
  rw [alike.ids, alike.drawn]
  exact ⟨rfl, fun _ _ => ⟨⟨alike.left.usable, alike.left.sound, alike.left.more, alike.left.tables,
    alike.left.columns⟩, ⟨alike.right.usable, alike.right.sound, alike.right.more,
    alike.right.tables, alike.right.columns⟩, alike.tabs, alike.store, alike.ids,
    congrArg (· + 1) alike.drawn⟩⟩

theorem runOn_advance {w : Workspace} (usable : w.breakdown = none)
    (change : Store → Except Failure (α × Store)) (reason : Failure → String) :
    ((advance change reason).runOn w).1 = (change w.store).map (·.1) ∧
      ∀ r, change w.store = .ok r →
        ((advance change reason).runOn w).2 = { w with store := r.2, isOpen := true } := by
  unfold advance
  rw [runOn_bind_of_ok (runOn_enter usable), runOn_bind_of_ok (runOn_get _)]
  dsimp only
  cases change w.store with
  | ok r =>
      obtain ⟨a, s⟩ := r
      refine ⟨rfl, ?_⟩
      rintro _ ⟨⟩
      rfl
  | error e =>
      refine ⟨?_, nofun⟩
      dsimp only
      split <;> rfl

theorem parallel_nextKey (table : String) : Parallel base other (nextKey table) := by
  refine parallel_of_change (Dictionary.nextKey · table)
    (fun w usable => runOn_advance usable _ _) ?_
  rintro s ⟨key, s'⟩ drawn sound
  refine ⟨?_, fun d member => nextKey_table? drawn ?_⟩
  · cases key with
    | some key => exact nextKey_wellFormed sound drawn
    | none =>
        unfold Dictionary.nextKey at drawn
        split at drawn
        · cases drawn
          exact sound
        · obtain ⟨_, _, drawn⟩ := except_bind_ok drawn
          obtain ⟨_, _, drawn⟩ := except_bind_ok drawn
          cases drawn
  · revert d
    decide +kernel

theorem parallel_execute {statement : Statement}
    (spares : ∀ s r, Store.execute s statement = .ok r → SparesDictionary s r.1) :
    Parallel base other (execute statement) := by
  refine parallel_of_change (fun s => (Store.execute s statement).map fun r => (r.2, r.1)) ?_ ?_
  · intro w usable
    rw [runOn_execute usable]
    cases Store.execute w.store statement with
    | error e => exact ⟨rfl, nofun⟩
    | ok r =>
        refine ⟨rfl, ?_⟩
        rintro _ ⟨⟩
        rfl
  · intro s r made
    obtain ⟨r', executed, rfl⟩ := except_map_ok.mp made
    exact spares s r' executed

end Work

open RowLoader.Work

section

variable {base other : Workspace} {table : String} (soundBase : base.store.WellFormed)
  (soundOther : other.store.WellFormed) (knows : known other table = known base table)
include soundBase soundOther knows

theorem Alike.known_eq {u v : Workspace} (alike : Alike base other u v) :
    known v table = known u table := by
  rw [alike.right.known_eq soundOther, alike.left.known_eq soundBase, knows]

theorem parallel_hasColumn (column : String) : Parallel base other (hasColumn table column) := by
  refine parallel_of_asked (fun w => .ok ((known w table).listed column)) ?_ ?_
  · intro w usable
    obtain ⟨w', ran, asked, _⟩ := runOn_hasColumn_asked usable table column
    exact ⟨w', ran, asked⟩
  · intro u v alike
    rw [alike.known_eq soundBase soundOther knows]

theorem parallel_putIfListed (name : String) (value : Value) (columns : Columns) :
    Parallel base other (putIfListed table name value columns) :=
  (parallel_hasColumn soundBase soundOther knows name).bind fun _ => parallel_pure _

theorem parallel_resolve (f : Field) (raw : Option String) (row : Int) :
    Parallel base other (resolve table f raw row) := by
  refine parallel_of_asked _ (fun w usable => runOn_resolve usable table f raw row) ?_
  intro u v alike
  have info : (ask v.store v.memo table f.target).1 = (ask u.store u.memo table f.target).1 :=
    congrArg (Knowledge.info · f.target) (alike.known_eq soundBase soundOther knows)
  unfold resolved
  rw [info, alike.store]

theorem parallel_resolveRow (record : Record) (columns : Columns) (fields : List Field) :
    Parallel base other (resolveRow table record columns fields) := by
  induction fields generalizing columns with
  | nil => exact parallel_pure _
  | cons f rest ih =>
      refine (parallel_ofExcept _).bind ?_
      intro raw
      refine (parallel_resolve soundBase soundOther knows f raw record.row).bind ?_
      intro v
      exact ih _

theorem parallel_complete (template : Template) (context : Context) (columns : Columns) :
    Parallel base other (complete table (some template) context columns) := by
  refine Parallel.bind ?_ ?_
  · unfold withKey
    split
    · refine (parallel_nextKey table).bind ?_
      intro key
      cases key with
      | none => exact parallel_ofFault _
      | some key => exact parallel_pure _
    · exact parallel_pure _
  · intro columns
    refine (parallel_pure template).bind ?_
    intro template
    refine (parallel_putIfListed soundBase soundOther knows _ _ _).bind ?_
    intro columns
    exact parallel_drawId.bind fun id => parallel_pure _

variable (beside : Beside (bare table))
include beside

theorem parallel_insert (template : Template) (context : Context) (columns : Columns) (row : Int) :
    Parallel base other (Write.insert table (some template) context columns row) := by
  refine (parallel_complete soundBase soundOther knows template context columns).bind ?_
  intro completed
  refine parallel_ofFault_bind ?_
  intro statement made
  obtain rfl := Statement.makeInsert_eq made
  refine (parallel_execute ?_).bind fun affected => parallel_pure _
  rintro s ⟨s', affected⟩ executed sound
  refine ⟨execute_wellFormed sound executed, fun d member => execute_insert_table? executed ?_⟩
  exact beside d (by revert d; decide)

theorem parallel_change (context : Context) (sets : Columns) (conditions : List (String × Value)) :
    Parallel base other (change table context sets conditions) := by
  refine Parallel.bind ?_ ?_
  · exact (parallel_putIfListed soundBase soundOther knows _ _ _).bind fun columns =>
      parallel_putIfListed soundBase soundOther knows _ _ _
  · intro sets
    refine parallel_ofFault_bind ?_
    intro statement made
    obtain rfl := Statement.makeUpdate_eq made
    refine parallel_execute ?_
    rintro s ⟨s', affected⟩ executed sound
    refine ⟨execute_wellFormed sound executed, fun d member => execute_update_table? executed ?_⟩
    exact beside d (by revert d; decide)

theorem parallel_update (template : Template) (context : Context) (fields : List Field)
    (columns : Columns) (row : Int) :
    Parallel base other (Write.update table (some template) context fields columns row) := by
  have changes := parallel_change soundBase soundOther knows beside context
  unfold Write.update
  cases keys fields with
  | nil =>
      refine (parallel_pure template).bind ?_
      intro template
      dsimp only
      split
      · exact parallel_pure _
      · exact (changes columns _).bind fun affected => parallel_pure _
  | cons first rest =>
      dsimp only [updateKeyed]
      split
      · exact parallel_ofFault _
      · split
        · exact parallel_pure _
        · refine (changes _ _).bind ?_
          intro affected
          split
          · exact parallel_ofFault _
          · exact parallel_pure _

theorem parallel_writeRecord (template : Template) (context : Context) (mode : Action)
    (fields : List Field) (record : Record) :
    Parallel base other (writeRecord table template context mode fields record) := by
  refine (parallel_resolveRow soundBase soundOther knows record [] fields).bind ?_
  intro columns
  cases mode with
  | update => exact parallel_update soundBase soundOther knows beside _ _ _ _ _
  | _ => exact parallel_insert soundBase soundOther knows beside _ _ _ _

theorem parallel_writeEach (template : Template) (context : Context) (mode : Action)
    (fields : List Field) (records : List Record) :
    Parallel base other (writeEach table template context mode fields records) := by
  induction records with
  | nil => exact parallel_pure _
  | cons record rest ih =>
      refine (parallel_writeRecord soundBase soundOther knows beside template context mode fields
        record).bind ?_
      intro outcome
      exact ih.bind fun others => parallel_pure _

end

end RowLoader
