import RowLoader.Run

/-!
Sessions. A session works on its own store; committing makes that store the committed one, rolling
back takes the committed one again. An import commits when it succeeds and rolls back when it fails.
-/

namespace RowLoader

open RowLoader.Dictionary

structure Session where
  committed : Store
  work : Workspace

namespace Session

def start (committed : Store) (uniqueId : Nat → String) : Session :=
  ⟨committed, ⟨committed, .empty, uniqueId, 0, false, none⟩⟩

/-- Work that broke down takes the committed store again, and whatever was read is to be read
again. -/
def afterBreakdown (s : Session) : Session :=
  if s.work.breakdown.isSome then
    { s with work := { s.work with store := s.committed, memo := s.work.memo.expire } }
  else s

/-- Do some work; what it changed stays in progress unless it broke down. -/
def perform {α : Type} (work : Work α) (s : Session) : Except Failure α × Session :=
  let (answer, w) := work.runOn s.work
  (answer, afterBreakdown { s with work := w })

def commit (s : Session) : Session :=
  { committed := s.work.store, work := { s.work with isOpen := false } }

/-- Commit the work in progress unless it broke down. -/
def settle (s : Session) : Except Failure Session :=
  match s.work.breakdown with
  | some reason => .error (.unsettled reason)
  | none => .ok s.commit

/-- Take the committed store again. What was read while the transaction was open is to be read
again. -/
def rollback (s : Session) : Session :=
  { s with work :=
      { s.work with
        store := s.committed
        memo := if s.work.isOpen then s.work.memo.expire else s.work.memo
        isOpen := false
        breakdown := none } }

def forget (s : Session) : Session :=
  { s with work := { s.work with memo := .empty } }

/-- Another session on the same committed store, with the same supply of unique ids. -/
def another (s : Session) : Session :=
  { start s.committed s.work.uniqueId with
    work := { (start s.committed s.work.uniqueId).work with drawn := s.work.drawn } }

/-- Go on after another session has worked on the committed store. -/
def follow (s other : Session) : Session :=
  { committed := other.committed
    work := { s.work with store := other.committed, drawn := other.work.drawn } }

/-- Work that counts as a whole or not at all. -/
def transact {α : Type} (work : Work α) (s : Session) : Except Failure α × Session :=
  match s.perform work with
  | (.error e, s) => (.error e, s.rollback)
  | (.ok answer, s) =>
    match s.settle with
    | .error e => (.error e, s.rollback)
    | .ok s => (.ok answer, s)

@[simp]
theorem committed_afterBreakdown (s : Session) : s.afterBreakdown.committed = s.committed := by
  unfold afterBreakdown
  split <;> rfl

/-- Only work that did not break down can be committed, and it is left as it is. -/
theorem settle_afterBreakdown {s s' : Session} (h : s.afterBreakdown.settle = .ok s') :
    s' = s.commit := by
  unfold afterBreakdown at h
  split at h
  · rename_i broken
    obtain ⟨reason, hr⟩ := Option.isSome_iff_exists.1 broken
    simp [hr, settle] at h
  · rename_i sound
    simp only [Bool.not_eq_true, Option.isSome_eq_false_iff, Option.isNone_iff_eq_none] at sound
    simp only [sound, settle] at h
    exact (Except.ok.inj h).symm

theorem transact_error {α : Type} {work : Work α} {s s' : Session} {e : Failure}
    (h : s.transact work = (.error e, s')) :
    s'.committed = s.committed ∧ s'.work.store = s.committed := by
  unfold transact perform at h
  generalize work.runOn s.work = r at h
  rcases r with ⟨_ | _, w⟩
  · cases h
    exact ⟨committed_afterBreakdown _, committed_afterBreakdown _⟩
  · dsimp only at h
    split at h <;> cases h
    exact ⟨committed_afterBreakdown _, committed_afterBreakdown _⟩

theorem transact_ok {α : Type} {work : Work α} {s s' : Session} {a : α}
    (h : s.transact work = (.ok a, s')) :
    s'.committed = (work.runOn s.work).2.store ∧ s'.work.store = (work.runOn s.work).2.store := by
  unfold transact perform at h
  generalize work.runOn s.work = r at h ⊢
  rcases r with ⟨_ | _, w⟩
  · cases h
  · dsimp only at h
    split at h
    · cases h
    · rename_i settled
      cases h
      rw [settle_afterBreakdown settled]
      exact ⟨rfl, rfl⟩

/-- Import a file, together with the work in progress. -/
def importFile (templateId : Option Int) (file : Run.File) (mode : Option String)
    (context : Context) (s : Session) : Except Failure Report × Session :=
  s.transact (Run.runFile templateId file mode context)

/-- Import a file in a session of its own, after the work in progress is committed. -/
def importAlone (templateId : Option Int) (file : Run.File) (mode : Option String)
    (context : Context) (s : Session) : Except Failure Report × Session :=
  match s.settle with
  | .error e => (.error e, s)
  | .ok s =>
    let (answer, other) := s.another.importFile templateId file mode context
    (answer, s.follow other)

end Session

/-- The session of a service, before and after its store is set up. -/
def currentSession : Option Session → Except Failure Session
  | none => .error .storeNotReady
  | some s => .ok s

end RowLoader
