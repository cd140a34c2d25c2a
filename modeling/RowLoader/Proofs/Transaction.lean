import RowLoader.Proofs.Runs
import RowLoader.Service.Web
import RowLoader.Service.CommandLine

/-!
An import counts as a whole or not at all. A failure anywhere, of whatever kind, leaves the committed
store; a report comes with exactly the store of the whole run. This holds in a session of the caller,
in a session of its own, through the web service and on the command line.
-/

namespace RowLoader

namespace Run

open RowLoader.Dictionary

/-- Importing a file on a workspace comes to a report and a store: the workspace has the template, the
option is a mode, the file has lines, and these lines run through the template to that end. A
transaction is open since the template was read. -/
def Imports (w : Workspace) (templateId : Option Int) (file : File) (mode : Option String)
    (context : Context) (report : Report) (after : Store) : Prop :=
  ∃ template action lines w', Dictionary.template? w.store templateId = .ok (some template) ∧
    modeOf mode = .ok action ∧ file.lines = .ok lines ∧
    (runLines (some template) context action lines).runOn { w with isOpen := true } =
      (.ok report, w') ∧ w'.store = after

theorem checkMode_of_modeOf {option : Option String} {action : Action}
    (h : modeOf option = .ok action) : checkMode action = .ok () := by
  unfold modeOf at h
  split at h
  · cases h
    rfl
  · split at h
    · cases h
      rfl
    · split at h <;> cases h
      rfl

theorem runFile_ok {templateId : Option Int} {file : File} {mode : Option String} {context : Context}
    {w w' : Workspace} {report : Report}
    (h : (runFile templateId file mode context).runOn w = (.ok report, w')) :
    Imports w templateId file mode context report w'.store := by
  unfold runFile at h
  obtain ⟨found, mid, read, h⟩ := Work.bind_ok h
  cases found with
  | none => cases h
  | some template =>
      obtain ⟨_, stored, rfl⟩ := Work.template?_ok read
      obtain ⟨action, mid, chose, h⟩ := Work.bind_ok h
      obtain ⟨chosen, rfl⟩ := Work.ofFault_ok chose
      obtain ⟨lines, mid, opened, h⟩ := Work.bind_ok h
      obtain ⟨cut, rfl⟩ := Work.ofExcept_ok opened
      refine ⟨template, action, lines, w', stored, chosen, cut, ?_, rfl⟩
      rw [runLines_some (checkMode_of_modeOf chosen)]
      exact h

end Run

namespace Session

open Run

/-- What an import may come to: a failure that leaves the store before it, or a report with the store
of the whole run. -/
def WholeOrNothing (before : Store) (w : Workspace) (templateId : Option Int) (file : File)
    (mode : Option String) (context : Context) : Except Failure Report → Store → Prop
  | .error _, after => after = before
  | .ok report, after => Imports w templateId file mode context report after

theorem WholeOrNothing.of_failed {before : Store} {w : Workspace} {templateId : Option Int}
    {file : File} {mode : Option String} {context : Context} {answer : Except Failure Report}
    {after : Store} (whole : WholeOrNothing before w templateId file mode context answer after)
    (failed : answer.toBool = false) : after = before := by
  cases answer with
  | error e => exact whole
  | ok report => cases failed

theorem WholeOrNothing.of_succeeded {before : Store} {w : Workspace} {templateId : Option Int}
    {file : File} {mode : Option String} {context : Context} {answer : Except Failure Report}
    {after : Store} (whole : WholeOrNothing before w templateId file mode context answer after)
    (succeeded : answer.toBool = true) :
    ∃ report, Imports w templateId file mode context report after := by
  cases answer with
  | error e => cases succeeded
  | ok report => exact ⟨report, whole⟩

theorem runOn_of_transact_ok {α : Type} {work : Work α} {s s' : Session} {a : α}
    (h : s.transact work = (.ok a, s')) : ∃ w, work.runOn s.work = (.ok a, w) := by
  unfold transact perform at h
  rcases hr : work.runOn s.work with ⟨_ | b, w⟩ <;> rw [hr] at h
  · cases h
  · dsimp only at h
    split at h <;> cases h
    exact ⟨w, rfl⟩

theorem importFile_ok {templateId : Option Int} {file : File} {mode : Option String}
    {context : Context} {s s' : Session} {report : Report}
    (h : s.importFile templateId file mode context = (.ok report, s')) :
    Imports s.work templateId file mode context report s'.committed ∧ s'.work.store = s'.committed := by
  obtain ⟨w, ran⟩ := runOn_of_transact_ok h
  obtain ⟨committed, store⟩ := transact_ok h
  rw [committed, store, ran]
  exact ⟨runFile_ok ran, rfl⟩

/-- In a session of the caller: what counts, counts with the work that was in progress, and a failure
takes that back too. -/
theorem importFile_whole (templateId : Option Int) (file : File) (mode : Option String)
    (context : Context) (s : Session) :
    WholeOrNothing s.committed s.work templateId file mode context
        (s.importFile templateId file mode context).1
        (s.importFile templateId file mode context).2.committed ∧
      (s.importFile templateId file mode context).2.work.store =
        (s.importFile templateId file mode context).2.committed := by
  rcases h : s.importFile templateId file mode context with ⟨e | report, s'⟩
  · obtain ⟨committed, store⟩ := transact_error h
    exact ⟨committed, store.trans committed.symm⟩
  · exact importFile_ok h

theorem importAlone_whole (templateId : Option Int) (file : File) (mode : Option String)
    (context : Context) {s settled : Session} (h : s.settle = .ok settled) :
    WholeOrNothing settled.committed settled.another.work templateId file mode context
      (s.importAlone templateId file mode context).1
      (s.importAlone templateId file mode context).2.committed := by
  unfold importAlone
  rw [h]
  exact (importFile_whole templateId file mode context settled.another).1

end Session

namespace Service

open Run Session

/-- A request that asks to import what it carries, by a template number and with a query. -/
def Request.AsksImport (r : Request) (id : Nat) (query : List (String × String)) : Prop :=
  ∃ path, r.target = .ok (path, query) ∧
    destination (Text.upper r.method) path = .found (.importFile (some id)) ∧
    Text.upper r.method ≠ "OPTIONS"

def Request.Imports (now : Calendar.Timestamp) (path : String) (id : Nat)
    (query : List (String × String)) (body : Body) (w : Workspace) (report : Report)
    (after : Store) : Prop :=
  ∃ content context, contentOf body = .ok content ∧ contextOf now query = .ok context ∧
    Run.Imports w (some id) ⟨path, .bytes content⟩ (some ((parameter? query "mode").getD "")) context
      report after

theorem status_ofFault (f : Fault) : (Response.ofFault f).status ≠ 200 := by
  unfold Response.ofFault
  cases f with
  | setup s =>
      dsimp only
      split <;> simp
  | _ => simp

theorem status_ofFailure (e : Failure) : (Response.ofFailure e).status ≠ 200 := by
  unfold Response.ofFailure
  split
  · exact status_ofFault _
  · decide

theorem status_filled (content : List UInt8) {answer : Response}
    (h : (if content.isEmpty then throw (.error 400 "empty body") else pure content) =
      Except.error answer) : answer.status ≠ 200 := by
  split at h <;> cases h
  decide

theorem status_contentOf {body : Body} {answer : Response} (h : contentOf body = .error answer) :
    answer.status ≠ 200 := by
  unfold contentOf at h
  split at h
  · cases h
    decide
  · cases hf : fileAmong? _ with
    | none =>
        rw [hf] at h
        cases h
        decide
    | some content =>
        rw [hf] at h
        exact status_filled _ h
  · exact status_filled _ h
  · exact status_filled [] h

theorem importUpload_whole (now : Calendar.Timestamp) (path : String) (id : Nat)
    (query : List (String × String)) (body : Body) (s : Session) :
    let (response, s') := importUpload now path id query body s
    if response.status = 200 then
      ∃ report, response.body = some (Json.ofReport report) ∧
        Request.Imports now path id query body s.another.work report s'.committed
    else s'.committed = s.committed := by
  unfold importUpload
  cases hc : contentOf body with
  | error answer =>
      have refused := status_contentOf hc
      simp [refused]
  | ok content =>
      cases hx : contextOf now query with
      | error e =>
          have refused := status_ofFailure e
          simp [refused]
      | ok context =>
          have whole := (importFile_whole (some (id : Int)) ⟨path, .bytes content⟩
            (some ((parameter? query "mode").getD "")) context s.another).1
          dsimp only
          rcases h : s.another.importFile (some (id : Int)) ⟨path, .bytes content⟩
            (some ((parameter? query "mode").getD "")) context with ⟨e | report, other⟩
          · rw [h] at whole
            have refused := status_ofFailure e
            simp only [refused, if_false]
            exact whole
          · rw [h] at whole
            exact ⟨report, rfl, content, context, hc, hx, whole⟩

/-- A route other than an import, or a method that only asks what is possible, leaves the session. -/
theorem routeAnswer_unasked (now : Calendar.Timestamp) (path method : String)
    (query : List (String × String)) (body : Body) (s : Session) (r : Route)
    (unasked : ∀ id, r = .importFile (some id) → method = "OPTIONS") :
    (routeAnswer now path method query body s r).2 = s := by
  unfold routeAnswer
  split
  · rfl
  · rfl
  · split
    · rfl
    · rename_i other
      split
      · exact absurd (unasked _ rfl) other
      · rfl
      · rfl
      · rfl

theorem routeAnswer_asked (now : Calendar.Timestamp) (path : String) {method : String}
    (query : List (String × String)) (body : Body) (s : Session) (id : Nat)
    (asked : method ≠ "OPTIONS") :
    routeAnswer now path method query body s (.importFile (some id)) =
      importUpload now path id query body s := by
  simp only [routeAnswer, asked, if_false]

/-- An answer to a request comes from a settled session. The method that asks for no body takes the
body away and keeps the status. -/
theorem answer_found (now : Calendar.Timestamp) (file : String) {r : Request} {s settled : Session}
    (h : s.settle = .ok settled) {path : String} {query : List (String × String)} {route : Route}
    (target : r.target = .ok (path, query))
    (found : destination (Text.upper r.method) path = .found route) :
    answer now file r s =
      (.ok (if r.method = "HEAD" then
          { (routeAnswer now file (Text.upper r.method) query r.body settled route).1 with body := none }
        else (routeAnswer now file (Text.upper r.method) query r.body settled route).1),
        (routeAnswer now file (Text.upper r.method) query r.body settled route).2) := by
  simp only [answer, h, target, found]

/-- No import route answers to the method that asks for no body. -/
theorem method_ne_head {method path : String} {id : Option Nat}
    (found : destination (Text.upper method) path = .found (.importFile id)) : method ≠ "HEAD" := by
  rintro rfl
  have upper : Text.upper "HEAD" = "HEAD" := by decide +kernel
  rw [upper] at found
  unfold destination at found
  split at found
  · split at found
    · rename_i listed
      cases found
      simp [Route.methods] at listed
    · cases found
  · split at found
    · split at found <;> cases found
    · cases found

theorem answer_asked (now : Calendar.Timestamp) (file : String) {r : Request} {s settled : Session}
    (h : s.settle = .ok settled) {id : Nat} {query : List (String × String)}
    (asked : r.AsksImport id query) :
    answer now file r s =
      (.ok (importUpload now file id query r.body settled).1,
        (importUpload now file id query r.body settled).2) := by
  obtain ⟨path, target, found, method⟩ := asked
  rw [answer_found now file h target found, if_neg (method_ne_head found),
    routeAnswer_asked now file query r.body settled id method]

theorem answer_unasked (now : Calendar.Timestamp) (file : String) {r : Request}
    {s settled : Session} (h : s.settle = .ok settled)
    (unasked : ∀ id query, ¬ r.AsksImport id query) :
    (answer now file r s).2.committed = settled.committed := by
  cases ht : r.target with
  | error e => simp only [answer, h, ht]
  | ok t =>
      obtain ⟨path, query⟩ := t
      cases hd : destination (Text.upper r.method) path with
      | found route =>
          rw [answer_found now file h ht hd, routeAnswer_unasked]
          intro id same
          subst same
          exact Classical.byContradiction fun method => unasked id query ⟨path, ht, hd, method⟩
      | moved => simp only [answer, h, ht, hd]
      | wrongMethod => simp only [answer, h, ht, hd]
      | nowhere => simp only [answer, h, ht, hd]

/-- What a request may come to: an import that it asks for succeeds as a whole and is answered with its
report, or the store before it is left and no import is answered as a success. -/
def Request.WholeOrNothing (now : Calendar.Timestamp) (path : String) (r : Request) (before : Store)
    (w : Workspace) (answer : Except Failure Response) (after : Store) : Prop :=
  (∃ id query response report, r.AsksImport id query ∧ answer = .ok response ∧
      response.status = 200 ∧ response.body = some (Json.ofReport report) ∧
      Request.Imports now path id query r.body w report after) ∨
    after = before ∧
      ∀ id query response, r.AsksImport id query → answer = .ok response → response.status ≠ 200

theorem answer_whole (now : Calendar.Timestamp) (path : String) (r : Request)
    {s settled : Session} (h : s.settle = .ok settled) :
    r.WholeOrNothing now path settled.committed settled.another.work (answer now path r s).1
      (answer now path r s).2.committed := by
  by_cases asks : ∃ id query, r.AsksImport id query
  · obtain ⟨id, query, asked⟩ := asks
    have whole := importUpload_whole now path id query r.body settled
    rw [answer_asked now path h asked]
    generalize importUpload now path id query r.body settled = result at whole ⊢
    obtain ⟨response, s'⟩ := result
    by_cases success : response.status = 200
    · obtain ⟨report, shown, imports⟩ := (if_pos success).mp whole
      exact .inl ⟨id, query, response, report, asked, rfl, success, shown, imports⟩
    · refine .inr ⟨(if_neg success).mp whole, ?_⟩
      rintro _ _ other _ same
      cases same
      exact success
  · have unasked : ∀ id query, ¬ r.AsksImport id query :=
      fun id query asked => asks ⟨id, query, asked⟩
    refine .inr ⟨answer_unasked now path h unasked, ?_⟩
    intro id query _ asked
    exact absurd asked (unasked id query)

def Invocation.Imports (now : Calendar.Timestamp) (files : String → Run.File)
    (arguments : List String) (w : Workspace) (report : Report) (after : Store) : Prop :=
  ∃ i file, Invocation.ofArguments arguments = .ok i ∧
    file = (if FilePath.isTooLong i.path then ⟨FilePath.shown i.path, .tooLong⟩ else files i.path) ∧
    Run.Imports w (some i.template) file (some i.options.mode)
      (Context.naming now i.options.client i.options.org i.options.user) report after

/-- A command that exits with success leaves the store of the whole run, any other the one before. -/
def Invocation.WholeOrNothing (now : Calendar.Timestamp) (files : String → Run.File)
    (arguments : List String) (before : Store) (w : Workspace) (answer : Answer) (after : Store) :
    Prop :=
  if answer.exit = 0 then
    ∃ report, answer.output = report.summary ++ "\n" ∧
      Invocation.Imports now files arguments w report after
  else after = before

theorem exit_ofImport_error (e : Failure) : (Answer.ofImport (.error e)).exit = 1 := by
  cases e <;> rfl

theorem runCommand_whole (now : Calendar.Timestamp) (files : String → Run.File)
    (arguments : List String) {s settled : Session} (h : s.settle = .ok settled) :
    ∃ a s', runCommand now files arguments s = (.ok a, s') ∧
      Invocation.WholeOrNothing now files arguments settled.committed settled.another.work a
        s'.committed := by
  cases hi : Invocation.ofArguments arguments with
  | error misuse =>
      refine ⟨.ofMisuse misuse, settled, by simp only [runCommand, h, hi], ?_⟩
      cases misuse <;> exact rfl
  | ok i =>
      generalize hf : (if FilePath.isTooLong i.path then
        ⟨FilePath.shown i.path, .tooLong⟩ else files i.path : Run.File) = file
      by_cases hd : file.content = .directory
      · exact ⟨.wrongUse, settled, by simp only [runCommand, h, hi, hf, hd, if_true], rfl⟩
      · have whole := (importFile_whole (some i.template) file (some i.options.mode)
          (Context.naming now i.options.client i.options.org i.options.user) settled.another).1
        rcases hr : settled.another.importFile (some i.template) file (some i.options.mode)
          (Context.naming now i.options.client i.options.org i.options.user) with ⟨answer, other⟩
        rw [hr] at whole
        refine ⟨.ofImport answer, settled.follow other, ?_, ?_⟩
        · simp only [runCommand, h, hi, hf, hd, if_false, hr]
        · cases answer with
          | error e =>
              unfold Invocation.WholeOrNothing
              rw [exit_ofImport_error]
              exact whole
          | ok report => exact ⟨report, rfl, i, file, hi, hf.symm, whole⟩

/-- Every way to import counts as a whole or not at all: in a session of the caller with the work in
progress, and, where the session can be settled, in a session of its own, by a request, and by a
command. -/
theorem import_whole_or_nothing (s : Session) (templateId : Option Int) (file : Run.File)
    (mode : Option String) (context : Context) (now : Calendar.Timestamp) (path : String) (r : Request)
    (files : String → Run.File) (arguments : List String) :
    (WholeOrNothing s.committed s.work templateId file mode context
        (s.importFile templateId file mode context).1
        (s.importFile templateId file mode context).2.committed ∧
      (s.importFile templateId file mode context).2.work.store =
        (s.importFile templateId file mode context).2.committed) ∧
      ∀ settled, s.settle = .ok settled →
        WholeOrNothing settled.committed settled.another.work templateId file mode context
            (s.importAlone templateId file mode context).1
            (s.importAlone templateId file mode context).2.committed ∧
          r.WholeOrNothing now path settled.committed settled.another.work (answer now path r s).1
            (answer now path r s).2.committed ∧
          ∃ a s', runCommand now files arguments s = (.ok a, s') ∧
            Invocation.WholeOrNothing now files arguments settled.committed settled.another.work a
              s'.committed := by
  refine ⟨importFile_whole templateId file mode context s, ?_⟩
  intro settled ready
  refine ⟨?_, ?_, ?_⟩
  · exact importAlone_whole templateId file mode context ready
  · exact answer_whole now path r ready
  · exact runCommand_whole now files arguments ready

def partFile (amount : String) : Run.File :=
  ⟨"parts.csv", .bytes (Text.Utf8.encode ("Value;Amount\nC;5\nD;" ++ amount).toList)⟩

def partSession : Session :=
  start Store.partStore fun _ => ""

def importParts (amount : String) : Except Failure Report × Session :=
  partSession.importAlone (some 1) (partFile amount) none
    (Context.standard (Calendar.Date.midnight ⟨2026, 1, 2⟩))

/-- The second part has no amount, so the first, which was inserted before it, does not count either;
with an amount both count. -/
theorem import_parts_whole_or_nothing :
    ((importParts "many").1.toBool = false ∧
        (importParts "many").2.committed = partSession.committed) ∧
      (importParts "7").1.toBool = true ∧
      ∃ report, Run.Imports partSession.another.work (some 1) (partFile "7") none
        (Context.standard (Calendar.Date.midnight ⟨2026, 1, 2⟩)) report
        (importParts "7").2.committed := by
  have failed : (importParts "many").1.toBool = false := by decide +kernel
  have succeeded : (importParts "7").1.toBool = true := by decide +kernel
  unfold importParts at failed succeeded ⊢
  have ready : partSession.settle = .ok partSession := rfl
  -- the outcomes are known; nothing below is to evaluate the session again
  generalize partSession = s at *
  have whole := fun amount => ((import_whole_or_nothing s (some 1) (partFile amount) none
    (Context.standard (Calendar.Date.midnight ⟨2026, 1, 2⟩))
    (Calendar.Date.midnight ⟨2026, 1, 2⟩) "" ⟨"GET", "/", none, .none⟩ (fun _ => partFile amount)
    []).2 s ready).1
  exact ⟨⟨failed, (whole "many").of_failed failed⟩, succeeded, (whole "7").of_succeeded succeeded⟩

end Service

end RowLoader
