import RowLoader.Proofs.Numerals
import RowLoader.Proofs.Transaction

/-!
Owners that a request names. A text of digits is taken for the number of an owner before it is known to
spell one. Decimal digits of any script do, unless there are too many of them; with other digits among
them, or with more digits than a number may have, the request ends in an error of the server. Every
other text leaves the standard owner.
-/

namespace RowLoader

open RowLoader.Text RowLoader.Number

namespace Text

theorem first_of_digitValue? {c : Char} {d : Nat} (value : digitValue? c = some d) :
    ∃ first ∈ digitZeros, d < 10 ∧ c.toNat = first + d := by
  obtain ⟨first, found, rfl⟩ := Option.map_eq_some_iff.mp value
  have held := List.find?_some found
  rw [Bool.and_eq_true, decide_eq_true_eq, decide_eq_true_eq] at held
  exact ⟨first, List.mem_of_find?_eq_some found, by omega, by omega⟩

theorem isBlank_of_isDigitLike {c : Char} (digit : isDigitLike c = true) : isBlank c = false := by
  have decimals : digitZeros.all (fun first =>
      (List.range 10).all fun d => !isBlank (Char.ofNat (first + d))) = true := by decide +kernel
  have others : digitLikeRanges.all (fun r =>
      (List.range (r.2 + 1 - r.1)).all fun d => !isBlank (Char.ofNat (r.1 + d))) = true := by
    decide +kernel
  rw [isDigitLike, Bool.or_eq_true] at digit
  rcases digit with decimal | other
  · obtain ⟨d, value⟩ := Option.isSome_iff_exists.mp decimal
    obtain ⟨first, member, small, code⟩ := first_of_digitValue? value
    have solid := List.all_eq_true.mp (List.all_eq_true.mp decimals first member) d
      (List.mem_range.mpr small)
    simpa [← code] using solid
  · obtain ⟨r, member, held⟩ := List.any_eq_true.mp other
    rw [Bool.and_eq_true, decide_eq_true_eq, decide_eq_true_eq] at held
    have solid := List.all_eq_true.mp (List.all_eq_true.mp others r member) (c.toNat - r.1)
      (List.mem_range.mpr (by omega))
    simpa [Nat.add_sub_cancel' held.1] using solid

theorem large_of_undecimal {c : Char} (digit : isDigitLike c = true)
    (undecimal : digitValue? c = none) : 128 ≤ c.toNat := by
  have large : digitLikeRanges.all (fun r => 128 ≤ r.1) = true := by decide
  rw [isDigitLike, undecimal, Option.isSome_none, Bool.false_or] at digit
  obtain ⟨r, member, held⟩ := List.any_eq_true.mp digit
  have bound := of_decide_eq_true (List.all_eq_true.mp large r member)
  rw [Bool.and_eq_true, decide_eq_true_eq, decide_eq_true_eq] at held
  omega

end Text

namespace Number

theorem asciiForm_of_digitValue? {c : Char} {d : Nat} (value : digitValue? c = some d) :
    asciiForm c = Char.ofNat (48 + d) := by
  have solid : isBlank c = false :=
    isBlank_of_isDigitLike (by rw [isDigitLike, value]; rfl)
  unfold asciiForm
  split
  · -- among the zeros only that of ASCII lies so low
    rename_i small
    have lowest : digitZeros.all (fun first => first = 48 ∨ 128 ≤ first) = true := by decide
    obtain ⟨first, member, _, code⟩ := first_of_digitValue? value
    have ascii : first = 48 := by
      have either := of_decide_eq_true (List.all_eq_true.mp lowest first member)
      omega
    rw [← ascii, ← code, Char.ofNat_toNat]
  · simp [solid, value]

theorem asciiForm_of_undecimal {c : Char} (digit : isDigitLike c = true)
    (undecimal : digitValue? c = none) : asciiForm c = c := by
  unfold asciiForm
  split
  · rfl
  · simp [isBlank_of_isDigitLike digit, undecimal]

def spelling (digits : List Nat) : List Char :=
  digits.map fun d => Char.ofNat (48 + d)

theorem digit_spelled {d : Nat} (small : d < 10) :
    isAsciiDigit (Char.ofNat (48 + d)) = true ∧ (Char.ofNat (48 + d)).toNat - 48 = d := by
  interval_cases d <;> decide

theorem all_spelling {digits : List Nat} (small : ∀ d ∈ digits, d < 10) :
    (spelling digits).all isAsciiDigit = true := by
  rw [spelling, List.all_map, List.all_eq_true]
  exact fun d member => (digit_spelled (small d member)).1

theorem natOfDigits_spelling {digits : List Nat} (small : ∀ d ∈ digits, d < 10) :
    natOfDigits (spelling digits) = numberOf digits := by
  have same : (spelling digits).map (fun c => c.toNat - 48) = digits := by
    rw [spelling, List.map_map]
    exact (List.map_congr_left fun d member => (digit_spelled (small d member)).2).trans
      (List.map_id digits)
  rw [natOfDigits, same]

/-- Decimal digits of any script count as the digits of ASCII with their values. -/
theorem map_asciiForm_of_decimals {s : List Char} (decimal : ∀ c ∈ s, (digitValue? c).isSome = true) :
    s.map asciiForm = spelling (s.filterMap digitValue?) ∧
      (s.filterMap digitValue?).length = s.length ∧ ∀ d ∈ s.filterMap digitValue?, d < 10 := by
  induction s with
  | nil => exact ⟨rfl, rfl, nofun⟩
  | cons c rest ih =>
      obtain ⟨forms, long, small⟩ := ih fun e later => decimal e (List.mem_cons_of_mem c later)
      obtain ⟨d, value⟩ := Option.isSome_iff_exists.mp (decimal c List.mem_cons_self)
      obtain ⟨_, _, bound, _⟩ := first_of_digitValue? value
      rw [List.filterMap_cons_some value]
      refine ⟨?_, by simp [long], List.forall_mem_cons.mpr ⟨bound, small⟩⟩
      rw [List.map_cons, forms, asciiForm_of_digitValue? value]
      rfl

theorem readInt_of_decimals {s : List Char} (filled : s ≠ [])
    (decimal : ∀ c ∈ s, (digitValue? c).isSome = true) :
    readInt s = if s.length ≤ digitLimit then .ok (numberOf (s.filterMap digitValue?) : Int)
      else .error (.tooLong s.length) := by
  obtain ⟨forms, long, small⟩ := map_asciiForm_of_decimals decimal
  generalize s.filterMap digitValue? = digits at forms long small ⊢
  have plain := all_spelling small
  have width : (spelling digits).length = s.length := by rw [spelling, List.length_map, long]
  have same : readInt s = readInt (spelling digits) := by
    rw [readInt, readInt, forms, map_asciiForm_of_marks (marks_of_digits plain)]
  have signless : takeSign (Identifier.dropFinalFeed (spelling digits)) = (false, spelling digits) := by
    rw [dropFinalFeed_of_marks (marks_of_digits plain), Resolve.takeSign_of_digits plain]
  have some : spelling digits ≠ [] := by
    rw [← List.length_pos_iff, width]
    exact List.length_pos_iff.mpr filled
  rw [same, readInt_of_digits signless some plain, width, natOfDigits_spelling small]
  rfl

theorem mem_groupedDigits? {s : List Char} {digits : List Nat} (grouped : groupedDigits? s = some digits)
    {c : Char} (member : c ∈ s) : isAsciiDigit c = true ∨ c = '_' := by
  fun_induction groupedDigits? s generalizing digits with
  | case1 => cases member
  | case2 first digit => simpa using .inl (List.mem_singleton.mp member ▸ digit)
  | case3 first digit rest ih =>
      obtain ⟨later, shorter, _⟩ := Option.map_eq_some_iff.mp grouped
      rcases List.mem_cons.mp member with rfl | member
      · exact .inl digit
      · rcases List.mem_cons.mp member with rfl | member
        · exact .inr rfl
        · exact ih shorter member
  | case4 first digit next rest _ ih =>
      obtain ⟨later, shorter, _⟩ := Option.map_eq_some_iff.mp grouped
      rcases List.mem_cons.mp member with rfl | member
      · exact .inl digit
      · exact ih shorter member
  | case5 => cases grouped

/-- A text with a character that stays outside ASCII is no integer. -/
theorem readInt_of_foreign {s : List Char} {c : Char} (member : c ∈ s)
    (foreign : 128 ≤ (asciiForm c).toNat) : readInt s = .error .malformed := by
  have solid : isAsciiBlank (asciiForm c) = false := by
    simp only [isAsciiBlank, Bool.or_eq_false_iff, Bool.and_eq_false_iff, decide_eq_false_iff_not,
      beq_eq_false_iff_ne]
    omega
  have inside := mem_trimBy solid (List.mem_map_of_mem (f := asciiForm) member)
  have other : ∀ {d : Char}, d.toNat < 128 → asciiForm c ≠ d := by
    rintro d small rfl
    omega
  have body : asciiForm c ∈ (takeSign (trimBy isAsciiBlank (s.map asciiForm))).2 := by
    refine (mem_takeSign inside).resolve_left fun sign => ?_
    rcases List.mem_pair.mp sign with same | same
    · exact other (by decide) same
    · exact other (by decide) same
  unfold readInt
  dsimp only
  cases grouped : groupedDigits? (takeSign (trimBy isAsciiBlank (s.map asciiForm))).2 with
  | none => rfl
  | some digits =>
      rcases mem_groupedDigits? grouped body with digit | same
      · have small : asciiDigits.all (fun d => d.toNat < 128) = true := by decide
        have bound := of_decide_eq_true (List.all_eq_true.mp small _ (mem_asciiDigits digit))
        omega
      · exact absurd same (other (by decide))

end Number

namespace Resolve

/-- Digits only, decimal or not. -/
def OnlyDigits (s : String) : Prop :=
  s ≠ "" ∧ s.toList.all isDigitLike = true

/-- The number that decimal digits of any script spell, unless there are too many of them. -/
def spelledNumber? (s : String) : Option Nat :=
  if s ≠ "" ∧ s.toList.all (fun c => (digitValue? c).isSome) = true ∧
      s.toList.length ≤ digitLimit then
    some (numberOf (s.toList.filterMap digitValue?))
  else none

/-- Digits that spell no number: some of them are not decimal, or there are too many. -/
def Misleads (s : String) : Prop :=
  OnlyDigits s ∧
    (s.toList.any (fun c => (digitValue? c).isNone) = true ∨ digitLimit < s.toList.length)

instance (s : String) : Decidable (OnlyDigits s) :=
  inferInstanceAs (Decidable (_ ∧ _))

instance (s : String) : Decidable (Misleads s) :=
  inferInstanceAs (Decidable (_ ∧ _))

theorem onlyDigits_iff {s : String} :
    (!s.isEmpty && s.toList.all isDigitLike) = true ↔ OnlyDigits s := by
  simp [OnlyDigits]

theorem toList_ne_nil {s : String} (filled : s ≠ "") : s.toList ≠ [] :=
  fun none => filled (String.toList_inj.mp none)

/-- Digits spell a number that is read as an integer, or they mislead and are read as none. -/
theorem OnlyDigits.cases {s : String} (digits : OnlyDigits s) :
    (¬ Misleads s ∧ ∃ n : Nat, spelledNumber? s = some n ∧ integer s = .ok n) ∨
      Misleads s ∧ spelledNumber? s = none ∧ ∃ e, integer s = .error e := by
  by_cases decimal : s.toList.all (fun c => (digitValue? c).isSome) = true
  · have read := readInt_of_decimals (toList_ne_nil digits.1) (List.all_eq_true.mp decimal)
    by_cases short : s.toList.length ≤ digitLimit
    · refine .inl ⟨?_, _, if_pos ⟨digits.1, decimal, short⟩, by rw [integer, read, if_pos short]⟩
      rintro ⟨_, other | long⟩
      · obtain ⟨c, member, undecimal⟩ := List.any_eq_true.mp other
        have value := List.all_eq_true.mp decimal c member
        rw [Option.isNone_iff_eq_none.mp undecimal] at value
        cases value
      · exact absurd short (Nat.not_le.mpr long)
    · refine .inr ⟨⟨digits, .inr (Nat.not_le.mp short)⟩, if_neg fun all => short all.2.2, ?_⟩
      exact ⟨_, by rw [integer, read, if_neg short]⟩
  · obtain ⟨c, member, undecimal⟩ : ∃ c ∈ s.toList, digitValue? c = none := by simpa using decimal
    have digit := List.all_eq_true.mp digits.2 c member
    have foreign : 128 ≤ (asciiForm c).toNat := by
      rw [asciiForm_of_undecimal digit undecimal]
      exact large_of_undecimal digit undecimal
    have other : s.toList.any (fun c => (digitValue? c).isNone) = true :=
      List.any_eq_true.mpr ⟨c, member, by rw [undecimal]; rfl⟩
    refine .inr ⟨⟨digits, .inl other⟩, if_neg fun all => decimal all.2.1, ?_⟩
    exact ⟨_, by rw [integer, readInt_of_foreign member foreign]⟩

theorem onlyDigits_of_spelled {s : String} {n : Nat} (spelled : spelledNumber? s = some n) :
    OnlyDigits s := by
  unfold spelledNumber? at spelled
  split at spelled
  · rename_i all
    refine ⟨all.1, List.all_eq_true.mpr fun c member => ?_⟩
    rw [isDigitLike, List.all_eq_true.mp all.2.1 c member, Bool.true_or]
  · cases spelled

theorem spelledNumber?_iff {s : String} {n : Nat} :
    spelledNumber? s = some n ↔ OnlyDigits s ∧ integer s = .ok (n : Int) := by
  constructor
  · intro spelled
    have digits := onlyDigits_of_spelled spelled
    rcases digits.cases with ⟨_, m, same, read⟩ | ⟨_, none, _⟩
    · rw [spelled] at same
      cases same
      exact ⟨digits, read⟩
    · rw [spelled] at none
      cases none
  · rintro ⟨digits, read⟩
    rcases digits.cases with ⟨_, m, spelled, same⟩ | ⟨_, _, e, failed⟩
    · rw [read] at same
      rw [spelled, Int.ofNat.inj (Except.ok.inj same)]
    · rw [read] at failed
      cases failed

end Resolve

namespace Service

open RowLoader.Resolve

def ownerNames : List String :=
  ["client", "org", "user"]

def ownerText (query : List (String × String)) (name : String) : String :=
  Text.trim ((parameter? query name).getD "")

def namedOwner (query : List (String × String)) (name : String) : Option Int :=
  (spelledNumber? (ownerText query name)).map Int.ofNat

theorem ownerNumber_cases (query : List (String × String)) (name : String) :
    (¬ Misleads (ownerText query name) ∧ ownerNumber query name = .ok (namedOwner query name)) ∨
      Misleads (ownerText query name) ∧
        ∃ e, ownerNumber query name = .error e ∧ ∀ f, e ≠ .fault f := by
  have shape : ownerNumber query name =
      if !(ownerText query name).isEmpty && (ownerText query name).toList.all isDigitLike then
        (integer (ownerText query name)).map some
      else .ok none := rfl
  rw [shape, namedOwner]
  generalize ownerText query name = text
  by_cases digits : OnlyDigits text
  · rw [if_pos (onlyDigits_iff.mpr digits)]
    rcases digits.cases with ⟨sound, n, spelled, read⟩ | ⟨misled, _, e, failed⟩
    · rw [spelled, read]
      exact .inl ⟨sound, rfl⟩
    · rw [failed]
      refine .inr ⟨misled, e, rfl, ?_⟩
      rintro f rfl
      exact integer_ne_fault text f failed
  · rw [if_neg fun all => digits (onlyDigits_iff.mp all)]
    refine .inl ⟨fun misled => digits misled.1, ?_⟩
    cases spelled : spelledNumber? text with
    | none => rfl
    | some n => exact absurd (onlyDigits_of_spelled spelled) digits

theorem contextOf_cases (now : Calendar.Timestamp) (query : List (String × String)) :
    ((∀ name ∈ ownerNames, ¬ Misleads (ownerText query name)) ∧
        contextOf now query = .ok (Context.naming now (namedOwner query "client")
          (namedOwner query "org") (namedOwner query "user"))) ∨
      (∃ name ∈ ownerNames, Misleads (ownerText query name)) ∧
        ∃ e, contextOf now query = .error e ∧ ∀ f, e ≠ .fault f := by
  unfold contextOf
  rcases ownerNumber_cases query "client" with ⟨client, read⟩ | ⟨misled, e, failed, plain⟩
  · rcases ownerNumber_cases query "org" with ⟨org, next⟩ | ⟨misled, e, failed, plain⟩
    · rcases ownerNumber_cases query "user" with ⟨user, last⟩ | ⟨misled, e, failed, plain⟩
      · refine .inl ⟨by simp [ownerNames, client, org, user], ?_⟩
        rw [read, next, last]
        rfl
      · exact .inr ⟨⟨"user", by simp [ownerNames], misled⟩, e, by rw [read, next, failed]; rfl, plain⟩
    · exact .inr ⟨⟨"org", by simp [ownerNames], misled⟩, e, by rw [read, failed]; rfl, plain⟩
  · exact .inr ⟨⟨"client", by simp [ownerNames], misled⟩, e, by rw [failed]; rfl, plain⟩

/-- A context in which each owner is the one that a request names, or else the standard one. -/
structure NamedBy (query : List (String × String)) (now : Calendar.Timestamp) (context : Context) :
    Prop where
  moment : context.now = now
  client : context.client = (namedOwner query "client").getD (Context.standard now).client
  org : context.org = (namedOwner query "org").getD (Context.standard now).org
  user : context.user = (namedOwner query "user").getD (Context.standard now).user

/-- What is answered to a request by what its import came to. -/
def Response.ofImport : Except Failure Report → Response
  | .ok report => .ok (Json.ofReport report)
  | .error e => .ofFailure e

theorem importUpload_ok {now : Calendar.Timestamp} {query : List (String × String)} {body : Body}
    {content : List UInt8} (sent : contentOf body = .ok content) {context : Context}
    (built : contextOf now query = .ok context) (file : String) (id : Nat) (s : Session) :
    importUpload now file id query body s =
      (.ofImport (s.another.importFile (some id) ⟨file, .bytes content⟩
          (some ((parameter? query "mode").getD "")) context).1,
        s.follow (s.another.importFile (some id) ⟨file, .bytes content⟩
          (some ((parameter? query "mode").getD "")) context).2) := by
  unfold importUpload
  rw [sent, built]
  dsimp only
  rcases s.another.importFile (some id) ⟨file, .bytes content⟩
    (some ((parameter? query "mode").getD "")) context with ⟨_ | _, _⟩ <;> rfl

/-- A request goes on to its import exactly when none of the texts for its owners misleads; each owner
is then the number that its text spells, as it is read, and the standard one where it spells none. Where
a text misleads, the request ends in an error of the server and changes nothing. -/
theorem import_goes_on_iff (now : Calendar.Timestamp) (file : String) {r : Request}
    {s settled : Session} (ready : s.settle = .ok settled) {id : Nat}
    {query : List (String × String)} (asked : r.AsksImport id query) {content : List UInt8}
    (sent : contentOf r.body = .ok content) :
    ((∃ context, contextOf now query = .ok context) ↔
        ∀ name ∈ ownerNames, ¬ Misleads (ownerText query name)) ∧
      (∀ context, contextOf now query = .ok context → NamedBy query now context ∧
        answer now file r s =
          (.ok (.ofImport (settled.another.importFile (some id) ⟨file, .bytes content⟩
              (some ((parameter? query "mode").getD "")) context).1),
            settled.follow (settled.another.importFile (some id) ⟨file, .bytes content⟩
              (some ((parameter? query "mode").getD "")) context).2)) ∧
      ((∃ name ∈ ownerNames, Misleads (ownerText query name)) →
        answer now file r s = (.ok .serverError, settled)) ∧
      ∀ text (n : Nat), spelledNumber? text = some n ↔ OnlyDigits text ∧ integer text = .ok (n : Int) := by
  refine ⟨?_, ?_, ?_, fun _ _ => spelledNumber?_iff⟩
  · rcases contextOf_cases now query with ⟨sound, built⟩ | ⟨⟨name, member, misled⟩, e, failed, _⟩
    · exact ⟨fun _ => sound, fun _ => ⟨_, built⟩⟩
    · refine ⟨?_, fun sound => absurd misled (sound name member)⟩
      rintro ⟨context, built⟩
      rw [failed] at built
      cases built
  · intro context built
    refine ⟨?_, by rw [answer_asked now file ready asked, importUpload_ok sent built]⟩
    rcases contextOf_cases now query with ⟨_, named⟩ | ⟨_, e, failed, _⟩
    · rw [← Except.ok.inj (named.symm.trans built)]
      constructor <;> simp only [Context.naming, Context.standard]
    · rw [failed] at built
      cases built
  · rintro ⟨name, member, misled⟩
    rcases contextOf_cases now query with ⟨sound, _⟩ | ⟨_, e, failed, plain⟩
    · exact absurd misled (sound name member)
    · rw [answer_asked now file ready asked, importUpload, sent, failed]
      cases e with
      | fault f => exact absurd rfl (plain f)
      | _ => rfl

def importBy (client org user : String) : Request :=
  ⟨"POST", "/api/v1/import/1", some [("client", client), ("org", org), ("user", user)],
    .upload ⟨"file", "parts.csv", Text.Utf8.encode "Value;Amount\nC;5".toList⟩⟩

/-- A digit of double width names the client; a sign and an empty text name nobody. -/
theorem import_goes_on_for_wide_seven :
    partSession.settle = .ok partSession ∧
      (importBy " ７ " "-1" "").AsksImport 1 [("client", " ７ "), ("org", "-1"), ("user", "")] ∧
      contentOf (importBy " ７ " "-1" "").body = .ok (Text.Utf8.encode "Value;Amount\nC;5".toList) ∧
      ∃ context : Context, context.client = 7 ∧ context.org = 0 ∧ context.user = 100 ∧
        (answer (Calendar.Date.midnight ⟨2026, 1, 2⟩) "" (importBy " ７ " "-1" "") partSession).1 =
          .ok (.ofImport (partSession.another.importFile (some (1 : Nat))
            ⟨"", .bytes (Text.Utf8.encode "Value;Amount\nC;5".toList)⟩ (some "") context).1) := by
  have ready : partSession.settle = .ok partSession := rfl
  have asked : (importBy " ７ " "-1" "").AsksImport 1
      [("client", " ７ "), ("org", "-1"), ("user", "")] :=
    ⟨"/api/v1/import/1", by decide +kernel⟩
  have sent : contentOf (importBy " ７ " "-1" "").body =
      .ok (Text.Utf8.encode "Value;Amount\nC;5".toList) := toOption_eq_some.mp (by decide +kernel)
  have client : namedOwner [("client", " ７ "), ("org", "-1"), ("user", "")] "client" = some 7 := by
    decide +kernel
  have org : namedOwner [("client", " ７ "), ("org", "-1"), ("user", "")] "org" = none := by
    decide +kernel
  have user : namedOwner [("client", " ７ "), ("org", "-1"), ("user", "")] "user" = none := by
    decide +kernel
  have sound : ∀ name ∈ ownerNames, ¬ Misleads
      (ownerText [("client", " ７ "), ("org", "-1"), ("user", "")] name) := by decide +kernel
  have mode : parameter? [("client", " ７ "), ("org", "-1"), ("user", "")] "mode" = none := by
    decide +kernel
  obtain ⟨builds, goes, _⟩ :=
    import_goes_on_iff (Calendar.Date.midnight ⟨2026, 1, 2⟩) "" ready asked sent
  obtain ⟨context, built⟩ := builds.mpr sound
  obtain ⟨named, answered⟩ := goes context built
  have first := named.client
  have second := named.org
  have third := named.user
  rw [client] at first
  rw [org] at second
  rw [user] at third
  rw [mode] at answered
  exact ⟨ready, asked, sent, context, first, second, third, congrArg Prod.fst answered⟩

/-- A superscript digit ends the request in an error of the server, where without it the part is
imported. -/
theorem superscript_breaks_import :
    contextOf (Calendar.Date.midnight ⟨2026, 1, 2⟩) [("client", "²"), ("org", ""), ("user", "")] =
        .error (.notAnInteger "²") ∧
      (answer (Calendar.Date.midnight ⟨2026, 1, 2⟩) "" (importBy "²" "" "") partSession).1.toOption.map
        (·.status) = some 500 ∧
      (answer (Calendar.Date.midnight ⟨2026, 1, 2⟩) "" (importBy "" "" "") partSession).1.toOption.map
        (·.status) = some 200 := by
  decide +kernel

end Service

end RowLoader
