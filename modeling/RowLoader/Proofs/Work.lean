import RowLoader.Work

/-!
Laws of work. What the primitive pieces answer, how a success or a failure of a sequence comes about,
and two classes that are closed under sequencing: work that fails in a certain way only, and work that
leaves the store as it is.
-/

namespace RowLoader

section

variable {ε δ α β : Type}

theorem mem_of_lookup [BEq α] [LawfulBEq α] {l : List (α × β)} {a : α} {b : β}
    (found : l.lookup a = some b) : (a, b) ∈ l := by
  obtain ⟨front, rest, rfl, _⟩ := List.lookup_eq_some_iff.mp found
  simp

theorem lookup_of_mem [BEq α] [LawfulBEq α] {l : List (α × β)} (apart : (l.map (·.1)).Nodup) {a : α}
    {b : β} (member : (a, b) ∈ l) : l.lookup a = some b := by
  induction l with
  | nil => cases member
  | cons p rest ih =>
      obtain ⟨fresh, apart⟩ := List.nodup_cons.mp apart
      rcases List.mem_cons.mp member with rfl | later
      · exact List.lookup_cons_self
      · have other : a ≠ p.1 := by
          rintro rfl
          exact fresh (List.mem_map.mpr ⟨_, later, rfl⟩)
        rw [List.lookup_cons, beq_false_of_ne other]
        exact ih apart later

theorem except_ok_bind (a : α) (f : α → Except ε β) : (Except.ok a >>= f) = f a := rfl

theorem except_bind_ok {x : Except ε α} {f : α → Except ε β} {b : β} (h : x >>= f = .ok b) :
    ∃ a, x = .ok a ∧ f a = .ok b := by
  cases x with
  | error e => cases h
  | ok a => exact ⟨a, rfl, h⟩

theorem except_bind_error {x : Except ε α} {f : α → Except ε β} {e : ε}
    (h : x >>= f = .error e) : x = .error e ∨ ∃ a, x = .ok a ∧ f a = .error e := by
  cases x with
  | error d =>
      cases h
      exact .inl rfl
  | ok a => exact .inr ⟨a, rfl, h⟩

theorem except_map_ok {x : Except ε α} {f : α → β} {b : β} :
    x.map f = .ok b ↔ ∃ a, x = .ok a ∧ f a = b := by
  cases x <;> simp [Except.map]

theorem except_map_error {x : Except ε α} {f : α → β} {e : ε} (h : x.map f = .error e) :
    x = .error e := by
  cases x with
  | error d => exact congrArg _ (Except.error.inj h)
  | ok a => cases h

theorem except_mapError_error {x : Except ε α} {f : ε → δ} {d : δ}
    (h : x.mapError f = .error d) : ∃ e, x = .error e ∧ f e = d := by
  cases x with
  | error e => exact ⟨e, rfl, Except.error.inj h⟩
  | ok a => cases h

theorem toOption_bind (x : Except ε α) (f : α → Except ε β) :
    (x >>= f).toOption = x.toOption.bind fun a => (f a).toOption := by
  cases x <;> rfl

theorem toOption_mapError (f : ε → δ) (x : Except ε α) :
    (x.mapError f).toOption = x.toOption := by
  cases x <;> rfl

theorem toOption_eq_some {x : Except ε α} {a : α} :
    x.toOption = some a ↔ x = .ok a := by
  cases x <;> simp [Except.toOption]

end

namespace Dictionary

theorem advance_ne_fault (a b : Store.Cell) (f : Fault) : advance a b ≠ .error (.fault f) := by
  unfold advance
  split <;> simp

theorem setNext_ne_fault (s : Store) (r : Store.Row) (next : Store.Cell) (f : Fault) :
    setNext s r next ≠ .error (.fault f) := by
  unfold setNext
  split
  · simp
  · split
    · simp
    · simp
    · split <;> simp
    · simp

theorem nextKey_ne_fault (s : Store) (table : String) (f : Fault) :
    nextKey s table ≠ .error (.fault f) := by
  unfold nextKey
  split
  · simp
  · rename_i r _
    intro failed
    rcases except_bind_error failed with failed | ⟨next, _, failed⟩
    · exact advance_ne_fault _ _ f failed
    · rcases except_bind_error failed with failed | ⟨s', _, failed⟩
      · exact setNext_ne_fault s r next f failed
      · cases failed

end Dictionary

theorem Store.execute_ne_fault (s : Store) (statement : Store.Statement) (f : Fault) :
    Store.execute s statement ≠ .error (.fault f) := by
  unfold Store.execute
  split
  · simp
  · split
    · simp
    · split
      · simp
      · split <;> simp

namespace Work

open RowLoader.Dictionary

variable {α β : Type}

theorem bind_ok {x : Work α} {f : α → Work β} {w w' : Workspace} {b : β}
    (h : (x >>= f).runOn w = (.ok b, w')) :
    ∃ a mid, x.runOn w = (.ok a, mid) ∧ (f a).runOn mid = (.ok b, w') := by
  rw [runOn_bind] at h
  rcases hx : x.runOn w with ⟨e | a, mid⟩
  · rw [hx] at h
    cases h
  · rw [hx] at h
    exact ⟨a, mid, rfl, h⟩

theorem bind_error {x : Work α} {f : α → Work β} {w w' : Workspace} {e : Failure}
    (h : (x >>= f).runOn w = (.error e, w')) :
    x.runOn w = (.error e, w') ∨
      ∃ a mid, x.runOn w = (.ok a, mid) ∧ (f a).runOn mid = (.error e, w') := by
  rw [runOn_bind] at h
  rcases hx : x.runOn w with ⟨d | a, mid⟩
  · rw [hx] at h
    cases h
    exact .inl rfl
  · rw [hx] at h
    exact .inr ⟨a, mid, rfl, h⟩

theorem runOn_bind_of_ok {x : Work α} {w mid : Workspace} {a : α} (h : x.runOn w = (.ok a, mid))
    (f : α → Work β) : (x >>= f).runOn w = (f a).runOn mid := by
  rw [runOn_bind, h]

theorem runOn_bind_of_error {x : Work α} {w mid : Workspace} {e : Failure}
    (h : x.runOn w = (.error e, mid)) (f : α → Work β) :
    (x >>= f).runOn w = (.error e, mid) := by
  rw [runOn_bind, h]

theorem pure_ok {a b : α} {w w' : Workspace} (h : (pure a : Work α).runOn w = (.ok b, w')) :
    b = a ∧ w' = w := by
  rw [runOn_pure] at h
  exact ⟨(Except.ok.inj (congrArg Prod.fst h)).symm, (congrArg Prod.snd h).symm⟩

theorem ofExcept_ok {x : Except Failure α} {w w' : Workspace} {a : α}
    (h : (ofExcept x).runOn w = (.ok a, w')) : x = .ok a ∧ w' = w := by
  cases h
  exact ⟨rfl, rfl⟩

@[simp] theorem runOn_ofFault_ok (a : α) (w : Workspace) :
    (ofFault (.ok a)).runOn w = (.ok a, w) := rfl

@[simp] theorem runOn_ofFault_error (f : Fault) (w : Workspace) :
    (ofFault (.error f) : Work α).runOn w = (.error (.fault f), w) := rfl

theorem ofFault_ok {x : Except Fault α} {w w' : Workspace} {a : α}
    (h : (ofFault x).runOn w = (.ok a, w')) : x = .ok a ∧ w' = w := by
  cases x with
  | error f => cases h
  | ok b =>
      cases h
      exact ⟨rfl, rfl⟩

theorem runOn_get (w : Workspace) : (get : Work Workspace).runOn w = (.ok w, w) := rfl

theorem runOn_enter {w : Workspace} (sound : w.breakdown = none) :
    enter.runOn w = (.ok (), { w with isOpen := true }) := by
  unfold enter
  rw [runOn_bind_of_ok (runOn_get w), sound]
  rfl

theorem runOn_enter_broken {w : Workspace} {reason : String} (broken : w.breakdown = some reason) :
    enter.runOn w = (.error (.unsettled reason), w) := by
  unfold enter
  rw [runOn_bind_of_ok (runOn_get w), broken]
  rfl

theorem runOn_store {w : Workspace} (sound : w.breakdown = none) :
    store.runOn w = (.ok w.store, { w with isOpen := true }) := by
  unfold store
  rw [runOn_bind_of_ok (runOn_enter sound)]
  rfl

theorem enter_ok {w w' : Workspace} (h : enter.runOn w = (.ok (), w')) :
    w.breakdown = none ∧ w' = { w with isOpen := true } := by
  have sound : w.breakdown = none := by
    cases hb : w.breakdown with
    | none => rfl
    | some reason =>
        rw [runOn_enter_broken hb] at h
        cases h
  rw [runOn_enter sound] at h
  cases h
  exact ⟨sound, rfl⟩

theorem store_ok {w w' : Workspace} {s : Store} (h : store.runOn w = (.ok s, w')) :
    w.breakdown = none ∧ s = w.store ∧ w' = { w with isOpen := true } := by
  obtain ⟨_, mid, entered, h⟩ := bind_ok h
  obtain ⟨sound, rfl⟩ := enter_ok entered
  cases h
  exact ⟨sound, rfl, rfl⟩

/-- A use of the store that may be spared changes nothing but the transaction. -/
theorem enterUnless_ok {known : Bool} {next : Work α} {w w' : Workspace} {a : α}
    (h : (if !known then enter >>= fun _ => next else next).runOn w = (.ok a, w')) :
    ∃ opened, next.runOn { w with isOpen := opened } = (.ok a, w') := by
  cases known with
  | true => exact ⟨w.isOpen, h⟩
  | false =>
      obtain ⟨_, mid, entered, h⟩ := bind_ok h
      obtain ⟨_, rfl⟩ := enter_ok entered
      exact ⟨true, h⟩

theorem hasColumn_ok {table column : String} {w w' : Workspace} {listed : Bool}
    (h : (hasColumn table column).runOn w = (.ok listed, w')) :
    listed = (locate w.store w.memo table column).1.isSome ∧
      w' = { w with memo := (locate w.store w.memo table column).2, isOpen := w'.isOpen } := by
  unfold hasColumn at h
  rw [runOn_bind_of_ok (runOn_get w)] at h
  obtain ⟨opened, h⟩ := enterUnless_ok h
  cases h
  exact ⟨rfl, rfl⟩

theorem runOn_hasColumn {w : Workspace} (usable : w.breakdown = none) (table column : String) :
    ((hasColumn table column).runOn w).1 =
      .ok (locate w.store w.memo table column).1.isSome := by
  unfold hasColumn
  rw [runOn_bind_of_ok (runOn_get w)]
  cases w.memo.knows table column with
  | true => rfl
  | false =>
      change ((enter >>= _).runOn w).1 = _
      rw [runOn_bind_of_ok (runOn_enter usable)]
      rfl

theorem advance_ok {change : Store → Except Failure (α × Store)} {reason : Failure → String}
    {w w' : Workspace} {a : α} (h : (advance change reason).runOn w = (.ok a, w')) :
    w.breakdown = none ∧ ∃ s, change w.store = .ok (a, s) ∧ w' = { w with store := s, isOpen := true } := by
  unfold advance at h
  obtain ⟨_, mid, entered, h⟩ := bind_ok h
  obtain ⟨sound, rfl⟩ := enter_ok entered
  refine ⟨sound, ?_⟩
  rw [runOn_bind_of_ok (runOn_get _)] at h
  dsimp only at h
  cases hc : change w.store with
  | ok r =>
      obtain ⟨b, s⟩ := r
      rw [hc] at h
      cases h
      exact ⟨s, rfl, rfl⟩
  | error e =>
      rw [hc] at h
      dsimp only at h
      split at h <;> cases h

theorem execute_ok {statement : Store.Statement} {w w' : Workspace} {affected : Nat}
    (h : (execute statement).runOn w = (.ok affected, w')) :
    w.breakdown = none ∧
      ∃ s, Store.execute w.store statement = .ok (s, affected) ∧ w' = { w with store := s, isOpen := true } := by
  unfold execute at h
  obtain ⟨_, mid, entered, h⟩ := bind_ok h
  obtain ⟨sound, rfl⟩ := enter_ok entered
  refine ⟨sound, ?_⟩
  rw [runOn_bind_of_ok (runOn_get _)] at h
  obtain ⟨⟨s, n⟩, mid, executed, h⟩ := bind_ok h
  obtain ⟨made, rfl⟩ := ofExcept_ok executed
  cases h
  exact ⟨s, made, rfl⟩

theorem drawId_ok {w w' : Workspace} {id : String} (h : drawId.runOn w = (.ok id, w')) :
    id = w.uniqueId w.drawn ∧ w' = { w with drawn := w.drawn + 1 } := by
  cases h
  exact ⟨rfl, rfl⟩

theorem template?_ok {id : Option Int} {w w' : Workspace} {t : Template}
    (h : (template? id).runOn w = (.ok (some t), w')) :
    w.breakdown = none ∧ Dictionary.template? w.store id = .ok (some t) ∧
      w' = { w with isOpen := true } := by
  unfold template? at h
  split at h
  · obtain ⟨s, mid, read, h⟩ := bind_ok h
    obtain ⟨sound, rfl, rfl⟩ := store_ok read
    obtain ⟨found, rfl⟩ := ofExcept_ok h
    exact ⟨sound, found, rfl⟩
  · cases h

theorem tableOfTab_ok {tab : Option Int} {w w' : Workspace} {table : String}
    (h : (tableOfTab tab).runOn w = (.ok (some table), w')) :
    w.breakdown = none ∧ Dictionary.tableOfTab w.store tab = .ok (some table) := by
  unfold tableOfTab at h
  split at h
  · obtain ⟨s, mid, read, h⟩ := bind_ok h
    obtain ⟨sound, rfl, rfl⟩ := store_ok read
    exact ⟨sound, (ofExcept_ok h).1⟩
  · cases h

/-- Work that leaves the store as it is, whether it fails or not. -/
def Reads (x : Work α) : Prop :=
  ∀ w, (x.runOn w).2.store = w.store

theorem Reads.of_runOn {x : Work α} (reads : Reads x) {w w' : Workspace} {r : Except Failure α}
    (h : x.runOn w = (r, w')) : w'.store = w.store := by
  have kept := reads w
  rw [h] at kept
  exact kept

theorem reads_ofExcept (x : Except Failure α) : Reads (ofExcept x) := fun _ => rfl

theorem reads_ofFault (x : Except Fault α) : Reads (ofFault x) := fun _ => rfl

theorem reads_pure (a : α) : Reads (pure a : Work α) := fun _ => rfl

theorem Reads.bind {x : Work α} {f : α → Work β} (first : Reads x) (next : ∀ a, Reads (f a)) :
    Reads (x >>= f) := by
  intro w
  rw [runOn_bind]
  have kept := first w
  generalize x.runOn w = answer at kept ⊢
  obtain ⟨e | a, mid⟩ := answer
  · exact kept
  · exact (next a mid).trans kept

theorem reads_enter : Reads enter := by
  intro w
  cases broken : w.breakdown with
  | none =>
      rw [runOn_enter broken]
  | some reason =>
      rw [runOn_enter_broken broken]

theorem reads_get : Reads (get : Work Workspace) := fun _ => rfl

theorem reads_store : Reads store :=
  reads_enter.bind fun _ => reads_get.bind fun w => reads_pure w.store

theorem reads_columnInfo (table column : String) : Reads (columnInfo table column) := by
  intro w
  unfold columnInfo
  rw [runOn_bind_of_ok (runOn_get w)]
  split
  · rw [runOn_bind]
    have kept := reads_enter w
    generalize enter.runOn w = answer at kept ⊢
    obtain ⟨e | _, mid⟩ := answer <;> exact kept
  · rfl

theorem reads_hasColumn (table column : String) : Reads (hasColumn table column) := by
  intro w
  unfold hasColumn
  rw [runOn_bind_of_ok (runOn_get w)]
  split
  · rw [runOn_bind]
    have kept := reads_enter w
    generalize enter.runOn w = answer at kept ⊢
    obtain ⟨e | _, mid⟩ := answer <;> exact kept
  · rfl

/-- Every fault of the import that work ends in has a property; other failures may be any. -/
def FaultsIn (Q : Fault → Prop) (x : Work α) : Prop :=
  ∀ w f w', x.runOn w = (.error (.fault f), w') → Q f

variable {Q : Fault → Prop}

theorem faultsIn_pure (a : α) : FaultsIn Q (pure a : Work α) := by
  intro w f w' h
  cases h

/-- The rest of the work may rely on what the first part has answered. -/
theorem FaultsIn.bind {x : Work α} {f : α → Work β} (first : FaultsIn Q x)
    (next : ∀ w a mid, x.runOn w = (.ok a, mid) → FaultsIn Q (f a)) : FaultsIn Q (x >>= f) := by
  intro w e w' h
  rcases bind_error h with failed | ⟨a, mid, done, failed⟩
  · exact first w e w' failed
  · exact next w a mid done mid e w' failed

theorem faultsIn_ofExcept {x : Except Failure α} (h : ∀ f, x = .error (.fault f) → Q f) :
    FaultsIn Q (ofExcept x) := by
  intro w f w' failed
  cases failed
  exact h f rfl

theorem faultsIn_ofFault {x : Except Fault α} (h : ∀ f, x = .error f → Q f) :
    FaultsIn Q (ofFault x) := by
  cases x with
  | ok a => exact faultsIn_pure a
  | error f =>
      intro w g w' failed
      cases failed
      exact h f rfl

theorem faultsIn_enter : FaultsIn Q enter := by
  intro w f w' failed
  cases broken : w.breakdown with
  | none =>
      rw [runOn_enter broken] at failed
      cases failed
  | some reason =>
      rw [runOn_enter_broken broken] at failed
      cases failed

theorem faultsIn_get : FaultsIn Q (get : Work Workspace) := by
  intro w f w' failed
  cases failed

theorem faultsIn_set (w : Workspace) : FaultsIn Q (set w : Work PUnit) := by
  intro v f w' failed
  cases failed

theorem faultsIn_store : FaultsIn Q store :=
  faultsIn_enter.bind fun _ _ _ _ => faultsIn_get.bind fun _ w _ _ => faultsIn_pure w.store

theorem faultsIn_columnInfo (table column : String) : FaultsIn Q (columnInfo table column) := by
  intro w f w' failed
  unfold columnInfo at failed
  rw [runOn_bind_of_ok (runOn_get w)] at failed
  split at failed
  · rcases bind_error failed with failed | ⟨_, mid, _, failed⟩
    · exact faultsIn_enter w f w' failed
    · cases failed
  · cases failed

theorem faultsIn_hasColumn (table column : String) : FaultsIn Q (hasColumn table column) := by
  intro w f w' failed
  unfold hasColumn at failed
  rw [runOn_bind_of_ok (runOn_get w)] at failed
  split at failed
  · rcases bind_error failed with failed | ⟨_, mid, _, failed⟩
    · exact faultsIn_enter w f w' failed
    · cases failed
  · cases failed

theorem advance_error {change : Store → Except Failure (α × Store)} {reason : Failure → String}
    {w w' : Workspace} {e : Failure} (h : (advance change reason).runOn w = (.error e, w')) :
    (∃ told, e = .unsettled told) ∨ change w.store = .error e := by
  unfold advance at h
  rcases bind_error h with failed | ⟨_, mid, entered, h⟩
  · cases broken : w.breakdown with
    | none =>
        rw [runOn_enter broken] at failed
        cases failed
    | some told =>
        rw [runOn_enter_broken broken] at failed
        cases failed
        exact .inl ⟨told, rfl⟩
  · obtain ⟨_, rfl⟩ := enter_ok entered
    refine .inr ?_
    rw [runOn_bind_of_ok (runOn_get _)] at h
    dsimp only at h
    cases hc : change w.store with
    | ok r =>
        rw [hc] at h
        cases h
    | error d =>
        rw [hc] at h
        dsimp only at h
        split at h <;> cases h <;> rfl

theorem faultsIn_nextKey (table : String) : FaultsIn Q (nextKey table) := by
  intro w f w' failed
  rcases advance_error failed with ⟨told, same⟩ | changed
  · cases same
  · exact absurd changed (nextKey_ne_fault w.store table f)

theorem faultsIn_execute (statement : Store.Statement) : FaultsIn Q (execute statement) :=
  faultsIn_enter.bind fun _ _ _ _ => faultsIn_get.bind fun _ w _ _ =>
    (faultsIn_ofExcept fun f failed => absurd failed (Store.execute_ne_fault w.store statement f)).bind
      fun _ r _ _ => (faultsIn_set _).bind fun _ _ _ _ => faultsIn_pure r.2

end Work

end RowLoader
