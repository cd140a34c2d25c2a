import Mathlib.Data.List.Forall2
import RowLoader.Proofs.Execution
import RowLoader.Proofs.Transaction

/-!
Pages of templates. A page holds templates in use only and is told with the number of all of them. A
limit that is not negative keeps it within the greatest length; a negative one counts as none.
-/

namespace RowLoader

section

variable {α β ε : Type}

/-- Work on a list element by element: every element is done, or some element is not and its failure is
that of the whole. -/
theorem except_mapM_cases (f : α → Except ε β) (l : List α) :
    (∃ l', l.mapM f = .ok l' ∧ List.Forall₂ (fun a b => f a = .ok b) l l') ∨
      ∃ a ∈ l, ∃ e, f a = .error e ∧ l.mapM f = .error e := by
  induction l with
  | nil => exact .inl ⟨[], rfl, .nil⟩
  | cons a rest ih =>
      rw [List.mapM_cons]
      cases first : f a with
      | error e => exact .inr ⟨a, List.mem_cons_self, e, first, rfl⟩
      | ok b =>
          rcases ih with ⟨l', done, each⟩ | ⟨x, member, e, failed, stopped⟩
          · exact .inl ⟨b :: l', by rw [done]; rfl, .cons first each⟩
          · exact .inr ⟨x, List.mem_cons_of_mem a member, e, failed, by rw [stopped]; rfl⟩

end

namespace Dictionary

open RowLoader.Store

/-- The rows of the templates in use, as the store keeps them. -/
def inUse (s : Store) : List Row :=
  (rowsOf s templateTable).filter fun r => cellOf s templateTable "IsActive" r == .text "Y"

theorem activeRows_perm (s : Store) : (activeRows s).Perm (inUse s) :=
  List.mergeSort_perm _ _

theorem mem_page {α : Type} {limit : Option Int} {offset : Int} {rows : List α} {r : α}
    (member : r ∈ page limit offset rows) : r ∈ rows := by
  unfold page at member
  cases limit with
  | none => exact List.mem_of_mem_drop member
  | some limit =>
      dsimp only at member
      split at member
      · exact List.mem_of_mem_drop member
      · exact List.mem_of_mem_drop (List.mem_of_mem_take member)

theorem length_page {α : Type} (limit offset : Int) (rows : List α) :
    (page (some limit) offset rows).length =
      if limit < 0 then rows.length - offset.toNat
      else min limit.toNat (rows.length - offset.toNat) := by
  unfold page
  dsimp only
  split <;> simp

/-- The templates of a page are in use, and as many as the page has rows. -/
theorem templates_of_page {s : Store} {limit offset : Int} {templates : List Template}
    (each : List.Forall₂ (fun row t => Template.ofRow s row = .ok t)
      (page (some limit) offset (activeRows s)) templates) :
    (∀ t ∈ templates, ∃ row ∈ inUse s, Template.ofRow s row = .ok t) ∧
      templates.length = if limit < 0 then (inUse s).length - offset.toNat
        else min limit.toNat ((inUse s).length - offset.toNat) := by
  constructor
  · intro t member
    obtain ⟨row, inside, read⟩ := mem_right_of_forall₂ each member
    exact ⟨row, (activeRows_perm s).mem_iff.mp (mem_page inside), read⟩
  · rw [← each.length_eq, length_page, (activeRows_perm s).length_eq]

theorem momentOf_error {c : Cell} {e : Failure} (h : Template.momentOf c = .error e) :
    ∀ f, e ≠ .fault f := by
  rintro f rfl
  unfold Template.momentOf at h
  split at h
  · cases h
  · split at h <;> simp at h
  · cases h

theorem ofRow_error {s : Store} {r : Row} {e : Failure} (h : Template.ofRow s r = .error e) :
    ∀ f, e ≠ .fault f := by
  unfold Template.ofRow at h
  dsimp only at h
  rcases except_bind_error h with created | ⟨_, _, h⟩
  · exact momentOf_error created
  · rcases except_bind_error h with updated | ⟨_, _, h⟩
    · exact momentOf_error updated
    · cases h

end Dictionary

namespace Service

open RowLoader.Dictionary RowLoader.Store

/-- A request that asks for a page of the templates, with a query. -/
def Request.AsksTemplates (r : Request) (query : List (String × String)) : Prop :=
  ∃ path, r.target = .ok (path, query) ∧
    destination (Text.upper r.method) path = .found .templates ∧ Text.upper r.method = "GET"

theorem answer_templates (now : Calendar.Timestamp) (file : String) {r : Request}
    {s settled : Session} (ready : s.settle = .ok settled) {query : List (String × String)}
    (asked : r.AsksTemplates query) :
    answer now file r s = (.ok (.ofExcept (templateList settled.committed query)), settled) := by
  obtain ⟨path, target, found, method⟩ := asked
  have bodied : r.method ≠ "HEAD" := by
    intro head
    rw [head] at method
    revert method
    decide +kernel
  rw [answer_found now file ready target found, if_neg bodied, method]
  rfl

/-- Some templates as a page is told, with the number of all templates in use and with offset and limit of
the page. -/
def pageAnswer (total : Nat) (offset limit : Int) (templates : List Template) : Json :=
  .record [("total", .number total), ("offset", .number offset), ("limit", .number limit),
    ("templates", .list (templates.map Json.ofTemplate))]

theorem fitsInteger_min {limit : Int} (fits : fitsInteger limit = true) :
    fitsInteger (min limit greatestLimit) = true := by
  unfold fitsInteger greatestLimit at *
  simp only [Bool.and_eq_true, decide_eq_true_eq] at *
  have least : -Int.pow 2 63 ≤ 1000 := by decide
  omega

theorem templateList_eq {s : Store} {query : List (String × String)} {limit offset : Int}
    (limited : pageNumber query "limit" defaultLimit = .ok limit)
    (placed : pageNumber query "offset" 0 = .ok offset) (limitFits : fitsInteger limit = true)
    (offsetFits : fitsInteger offset = true) :
    templateList s query =
      ((page (some (min limit greatestLimit)) offset (activeRows s)).mapM (Template.ofRow s)).map
        (pageAnswer (inUse s).length offset (min limit greatestLimit)) := by
  unfold templateList
  rw [limited, except_ok_bind, placed, except_ok_bind]
  unfold listTemplates
  dsimp only
  rw [Option.all_some, fitsInteger_min limitFits, offsetFits]
  cases (page (some (min limit greatestLimit)) offset (activeRows s)).mapM (Template.ofRow s) with
  | error e => rfl
  | ok templates =>
      rw [← (activeRows_perm s).length_eq]
      rfl

/-- What is answered to a request for a page: the templates of the page with their number in all, or no
template where one of the page cannot be read. -/
theorem answer_page (now : Calendar.Timestamp) (file : String) {r : Request} {s settled : Session}
    (ready : s.settle = .ok settled) {query : List (String × String)} (asked : r.AsksTemplates query)
    {limit offset : Int} (limited : pageNumber query "limit" defaultLimit = .ok limit)
    (placed : pageNumber query "offset" 0 = .ok offset) (limitFits : fitsInteger limit = true)
    (offsetFits : fitsInteger offset = true) :
    (∃ row ∈ inUse settled.committed, (Template.ofRow settled.committed row).toOption = none ∧
        answer now file r s = (.ok .serverError, settled)) ∨
      ∃ templates,
        List.Forall₂ (fun row t => Template.ofRow settled.committed row = .ok t)
          (page (some (min limit greatestLimit)) offset (activeRows settled.committed)) templates ∧
        answer now file r s =
          (.ok (.ok (pageAnswer (inUse settled.committed).length offset (min limit greatestLimit)
            templates)), settled) := by
  rw [answer_templates now file ready asked, templateList_eq limited placed limitFits offsetFits]
  rcases except_mapM_cases (Template.ofRow settled.committed)
      (page (some (min limit greatestLimit)) offset (activeRows settled.committed)) with
    ⟨templates, read, each⟩ | ⟨row, member, e, failed, stopped⟩
  · rw [read]
    exact .inr ⟨templates, each, rfl⟩
  · rw [stopped]
    refine .inl ⟨row, (activeRows_perm _).mem_iff.mp (mem_page member), by rw [failed]; rfl, ?_⟩
    -- only a fault of an import would be answered in another way than by an error of the server
    have plain := ofRow_error failed
    cases e with
    | fault f => exact absurd rfl (plain f)
    | _ => rfl

/-- A request for a page gets templates in use only, told with the number of all of them, unless the row of
one cannot be read. A page is no longer than the greatest limit exactly where the limit is not negative
or no more than that many templates stand behind the offset. -/
theorem template_page_capped_iff (now : Calendar.Timestamp) (file : String) {r : Request}
    {s settled : Session} (ready : s.settle = .ok settled) {query : List (String × String)}
    (asked : r.AsksTemplates query) {limit offset : Int}
    (limited : pageNumber query "limit" defaultLimit = .ok limit)
    (placed : pageNumber query "offset" 0 = .ok offset) (limitFits : fitsInteger limit = true)
    (offsetFits : fitsInteger offset = true) :
    (∃ row ∈ inUse settled.committed, (Template.ofRow settled.committed row).toOption = none ∧
        answer now file r s = (.ok .serverError, settled)) ∨
      ∃ templates : List Template,
        answer now file r s =
          (.ok (.ok (pageAnswer (inUse settled.committed).length offset (min limit greatestLimit)
            templates)), settled) ∧
        (∀ t ∈ templates, ∃ row ∈ inUse settled.committed,
          Template.ofRow settled.committed row = .ok t) ∧
        (templates.length ≤ greatestLimit ↔
          0 ≤ limit ∨ (inUse settled.committed).length ≤ greatestLimit + offset.toNat) := by
  rcases answer_page now file ready asked limited placed limitFits offsetFits with
    unread | ⟨templates, each, told⟩
  · exact .inl unread
  · obtain ⟨used, long⟩ := templates_of_page each
    refine .inr ⟨templates, told, used, ?_⟩
    unfold greatestLimit at long ⊢
    split at long <;> omega

def crowd (n : Nat) : List Row :=
  (List.range n).map fun i : Nat =>
    ⟨i + 1, [.null, .int 0, .int 0, .text "Parts"] ++ List.replicate 5 .null ++ [.text "Y"]
      ++ List.replicate 4 .null⟩

def crowdedStore (n : Nat) : Store where
  tables := emptyTables.map fun d => { d with rows := if d.name = templateTable then crowd n else [] }
  now := Calendar.Date.midnight ⟨2026, 1, 2⟩

def crowdedSession (n : Nat) : Session :=
  .start (crowdedStore n) fun _ => ""

def firstPage (limit : String) : Request :=
  ⟨"GET", "/api/v1/templates", some [("limit", limit)], .none⟩

theorem declared_templates :
    ∃ d, emptyTables.find? (fun t => Text.sameName t.name templateTable) = some d ∧
      d.name = templateTable ∧ d.slot? "IsActive" = some (.cell 9) ∧
      d.slot? "Created" = some (.cell 10) ∧ d.slot? "Updated" = some (.cell 12) :=
  ⟨emptyTables[4], by decide +kernel⟩

theorem crowdedStore_table? (n : Nat) :
    ∃ t, (crowdedStore n).table? templateTable = some t ∧ t.rows = crowd n ∧
      t.slot? "IsActive" = some (.cell 9) ∧ t.slot? "Created" = some (.cell 10) ∧
      t.slot? "Updated" = some (.cell 12) := by
  obtain ⟨d, found, named, slots⟩ := declared_templates
  refine ⟨{ d with rows := crowd n }, ?_, rfl, slots⟩
  unfold crowdedStore Store.table?
  rw [List.find?_map]
  change (emptyTables.find? fun t => Text.sameName t.name templateTable).map _ = _
  rw [found, Option.map_some, if_pos named]

theorem inUse_crowdedStore (n : Nat) :
    inUse (crowdedStore n) = crowd n ∧
      ∀ row ∈ crowd n, ∃ t, Template.ofRow (crowdedStore n) row = .ok t := by
  obtain ⟨t, found, rows, active, created, updated⟩ := crowdedStore_table? n
  have read : ∀ {column : String} {i : Nat}, t.slot? column = some (.cell i) → ∀ row,
      cellOf (crowdedStore n) templateTable column row = row.read (.cell i) := by
    intro column i slot row
    unfold cellOf
    rw [found, Option.bind_some, slot]
  constructor
  · unfold inUse rowsOf
    rw [found, Option.map_some, Option.getD_some, rows, List.filter_eq_self]
    intro row member
    obtain ⟨i, _, rfl⟩ := List.mem_map.mp member
    rw [read active]
    rfl
  · intro row member
    obtain ⟨i, _, rfl⟩ := List.mem_map.mp member
    unfold Template.ofRow
    dsimp only
    rw [read created, read updated]
    exact ⟨_, rfl⟩

theorem firstPage_asks {limit : String} (target : (firstPage limit).target =
      .ok ("/api/v1/templates", [("limit", limit)])) :
    (firstPage limit).AsksTemplates [("limit", limit)] := by
  have get : Text.upper (firstPage limit).method = "GET" := by
    change Text.upper "GET" = "GET"
    decide +kernel
  refine ⟨_, target, ?_, get⟩
  rw [get]
  decide +kernel

/-- Of three templates in use the first two make a page. -/
theorem page_of_two_capped :
    (crowdedSession 3).settle = .ok (crowdedSession 3) ∧
      (firstPage "2").AsksTemplates [("limit", "2")] ∧
      pageNumber [("limit", "2")] "limit" defaultLimit = .ok 2 ∧
      pageNumber [("limit", "2")] "offset" 0 = .ok 0 ∧ fitsInteger 2 = true ∧ fitsInteger 0 = true ∧
      ∃ templates : List Template,
        answer (Calendar.Date.midnight ⟨2026, 1, 2⟩) "" (firstPage "2") (crowdedSession 3) =
          (.ok (.ok (pageAnswer 3 0 2 templates)), crowdedSession 3) ∧
        templates.length ≤ greatestLimit := by
  have ready : (crowdedSession 3).settle = .ok (crowdedSession 3) := rfl
  have asked : (firstPage "2").AsksTemplates [("limit", "2")] := firstPage_asks (by decide +kernel)
  have limited : pageNumber [("limit", "2")] "limit" defaultLimit = .ok 2 := by decide +kernel
  have placed : pageNumber [("limit", "2")] "offset" 0 = .ok 0 := by decide +kernel
  have fits : fitsInteger 2 = true ∧ fitsInteger 0 = true := by decide
  obtain ⟨all, read⟩ := inUse_crowdedStore 3
  refine ⟨ready, asked, limited, placed, fits.1, fits.2, ?_⟩
  rcases template_page_capped_iff (Calendar.Date.midnight ⟨2026, 1, 2⟩) "" ready asked limited placed
      fits.1 fits.2 with ⟨row, member, unread, _⟩ | ⟨templates, told, _, capped⟩
  · obtain ⟨t, here⟩ := read row (all ▸ member)
    rw [show (crowdedSession 3).committed = crowdedStore 3 from rfl, here] at unread
    cases unread
  · refine ⟨templates, ?_, capped.mpr (.inl (by decide))⟩
    rw [told, show inUse (crowdedSession 3).committed = crowd 3 from all]
    rfl

/-- Of a thousand and one templates in use all make one page where the limit is -1. -/
theorem negative_limit_uncapped :
    ∃ templates : List Template,
      (answer (Calendar.Date.midnight ⟨2026, 1, 2⟩) "" (firstPage "-1") (crowdedSession 1001)).1 =
          .ok (.ok (pageAnswer 1001 0 (-1) templates)) ∧
        (∀ t ∈ templates, ∃ row ∈ inUse (crowdedStore 1001),
          Template.ofRow (crowdedStore 1001) row = .ok t) ∧
        ¬ templates.length ≤ greatestLimit := by
  have ready : (crowdedSession 1001).settle = .ok (crowdedSession 1001) := rfl
  have asked : (firstPage "-1").AsksTemplates [("limit", "-1")] := firstPage_asks (by decide +kernel)
  have limited : pageNumber [("limit", "-1")] "limit" defaultLimit = .ok (-1) := by decide +kernel
  have placed : pageNumber [("limit", "-1")] "offset" 0 = .ok 0 := by decide +kernel
  obtain ⟨all, read⟩ := inUse_crowdedStore 1001
  have many : (inUse (crowdedStore 1001)).length = 1001 := by
    rw [all, crowd, List.length_map, List.length_range]
  rcases answer_page (Calendar.Date.midnight ⟨2026, 1, 2⟩) "" ready asked limited placed (by decide)
      (by decide) with ⟨row, member, unread, _⟩ | ⟨templates, each, told⟩
  · obtain ⟨t, here⟩ := read row (all ▸ member)
    rw [show (crowdedSession 1001).committed = crowdedStore 1001 from rfl, here] at unread
    cases unread
  · rw [show (crowdedSession 1001).committed = crowdedStore 1001 from rfl] at each told
    obtain ⟨used, long⟩ := templates_of_page each
    rw [many] at long told
    refine ⟨templates, ?_, used, ?_⟩
    · rw [told]
      rfl
    · rw [long]
      decide

end Service

end RowLoader
