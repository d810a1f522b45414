import TableGateway.Proofs.NumericDecoding
import TableGateway.Proofs.RowRestrictions
import TableGateway.Http.Service

/-!
# Pages are bounded

The limit and the offset of a page come from texts that a caller writes. Exactly the integers of 64 bits are read from
them (`readInt64?_eq_some_iff`), and no conversion to a word loses one, so a page has at least one row and no more than
the configuration allows. Casting references leaves the start of a statement and its page (`Sql.castReferences_paged`);
so every statement that is sent to list or view rows lists such a page (`pages_bounded`).
-/
namespace TableGateway

/-! ## Integers of texts -/

/-- Characters that write an integer: digits, which a sign may stand before. -/
inductive WritesInteger : List Char → ℤ → Prop where
  | unsigned {digits : List Char} {n : ℕ} (some_digit : digits ≠ []) (writes : Writes digits n) : WritesInteger digits n
  | plus {digits : List Char} {n : ℕ} (some_digit : digits ≠ []) (writes : Writes digits n) :
      WritesInteger ('+' :: digits) n
  | minus {digits : List Char} {n : ℕ} (some_digit : digits ≠ []) (writes : Writes digits n) :
      WritesInteger ('-' :: digits) (-n)

theorem digits_of_readDigits {bound value n : ℕ} {digits : List Char} (reads : readDigits bound value digits = .ok n) :
    (∀ c ∈ digits, c.isDigit = true) ∧ Nat.ofDigitChars 10 digits value = n := by
  induction digits generalizing value with
  | nil => simpa [readDigits] using reads
  | cons c rest ih =>
    simp only [readDigits] at reads
    split at reads
    · rename_i digit
      split at reads
      · obtain ⟨digits, number⟩ := ih reads
        rw [Nat.ofDigitChars_cons]
        exact ⟨List.forall_mem_cons.mpr ⟨digit, digits⟩, number⟩
      · cases reads
    · cases reads

theorem readUnsigned_eq_ok_iff {bound n : ℕ} {digits : List Char} (some_bound : 0 < bound) :
    readUnsigned bound digits = .ok n ↔ digits ≠ [] ∧ Writes digits n ∧ n < bound := by
  constructor
  · intro reads
    cases digits with
    | nil => cases reads
    | cons c rest =>
      obtain ⟨all, number⟩ := digits_of_readDigits reads
      exact ⟨List.cons_ne_nil _ _, ⟨all, number⟩, readDigits_lt some_bound reads⟩
  · rintro ⟨some_digit, writes, fits⟩
    exact Cell.readUnsigned_eq_ok some_digit writes fits

theorem map_eq_ok_iff {ε α β : Type} {f : α → β} {given : Except ε α} {b : β} :
    given.map f = .ok b ↔ ∃ a, given = .ok a ∧ f a = b := by
  cases given <;> simp [Except.map]

/-- Exactly the integers of 64 bits are read, and from exactly the texts that write them. -/
theorem readInt64?_eq_some_iff {s : String} {n : ℤ} :
    readInt64? s = some n ↔ WritesInteger s.toList n ∧ -2 ^ 63 ≤ n ∧ n < 2 ^ 63 := by
  have read : readInt64? s = some n ↔ readSigned 64 s = .ok n := by
    rw [readInt64?]
    cases readSigned 64 s <;> simp [Except.toOption]
  have unsigned {m : ℕ} {digits : List Char} :
      readUnsigned (Nat.pow 2 63) digits = .ok m ↔ digits ≠ [] ∧ Writes digits m ∧ m < 2 ^ 63 :=
    readUnsigned_eq_ok_iff (by decide)
  have negative {m : ℕ} {digits : List Char} :
      readUnsigned (Nat.pow 2 63 + 1) digits = .ok m ↔ digits ≠ [] ∧ Writes digits m ∧ m < 2 ^ 63 + 1 :=
    readUnsigned_eq_ok_iff (by decide)
  rw [read]
  constructor
  · intro reads
    rw [readSigned] at reads
    split at reads
    · cases reads
    · rename_i digits chars
      obtain ⟨m, magnitude, rfl⟩ := map_eq_ok_iff.mp reads
      obtain ⟨some_digit, writes, fits⟩ := unsigned.mp magnitude
      exact ⟨chars ▸ .plus some_digit writes, by grind, by grind⟩
    · rename_i digits chars
      have signed : (readUnsigned (Nat.pow 2 63 + 1) digits).map (fun m : ℕ => -(m : ℤ)) = .ok n := by
        rw [← reads]
        cases readUnsigned (Nat.pow 2 63 + 1) digits <;> rfl
      obtain ⟨m, magnitude, rfl⟩ := map_eq_ok_iff.mp signed
      obtain ⟨some_digit, writes, fits⟩ := negative.mp magnitude
      exact ⟨chars ▸ .minus some_digit writes, by omega, by omega⟩
    · obtain ⟨m, magnitude, rfl⟩ := map_eq_ok_iff.mp reads
      obtain ⟨some_digit, writes, fits⟩ := unsigned.mp magnitude
      exact ⟨.unsigned some_digit writes, by grind, by grind⟩
  · rintro ⟨integer, low, high⟩
    generalize chars : s.toList = text at integer
    cases integer with
    | unsigned some_digit writes =>
      obtain ⟨c, rest, rfl⟩ := List.exists_cons_of_ne_nil some_digit
      exact Cell.readSigned_digit chars (writes.digits c (.head _)) (unsigned.mpr ⟨some_digit, writes, by omega⟩)
    | plus some_digit writes =>
      rw [readSigned, chars]
      exact map_eq_ok_iff.mpr ⟨_, unsigned.mpr ⟨some_digit, writes, by omega⟩, rfl⟩
    | minus some_digit writes =>
      exact Cell.readSigned_minus chars (negative.mpr ⟨some_digit, writes, by omega⟩)

theorem readNatural?_writes {bound n : ℕ} {s : String} (some_bound : 0 < bound)
    (read : readNatural? bound s = some n) : WritesInteger s.toList n ∧ n < bound := by
  have reads : readNatural bound s = .ok n := by
    rw [readNatural?] at read
    cases given : readNatural bound s <;> simp_all [Except.toOption]
  rw [readNatural] at reads
  split at reads
  · cases reads
  · rename_i digits chars
    obtain ⟨some_digit, writes, fits⟩ := (readUnsigned_eq_ok_iff some_bound).mp reads
    exact ⟨chars ▸ .plus some_digit writes, fits⟩
  · obtain ⟨some_digit, writes, fits⟩ := (readUnsigned_eq_ok_iff some_bound).mp reads
    exact ⟨.unsigned some_digit writes, fits⟩

/-! ## The greatest limit -/

theorem bind_eq_ok_iff {ε α β : Type} {given : Except ε α} {next : α → Except ε β} {b : β} :
    (given >>= next) = .ok b ↔ ∃ a, given = .ok a ∧ next a = .ok b := by
  cases given <;> simp [bind, Except.bind]

namespace Configuration
variable {lookup : String → Option String} {c : Configuration}

theorem read_maxPageLimit (accepted : ofLookup lookup = .ok c) :
    read lookup "MAX_PAGE_LIMIT" 1000 (fun text =>
      orCause (.maxPageLimit text) (((readNatural? UInt32.size text).filter (0 < ·)).map UInt32.ofNat)) =
        .ok c.maxPageLimit := by
  simp only [ofLookup, bind_eq_ok_iff] at accepted
  obtain ⟨url, -, schema, -, tables, -, settings, -, limit, read, address, -, size, -, same⟩ := accepted
  cases same
  exact read

/-- The greatest limit is the positive integer that is given for it, or the default. -/
theorem maxPageLimit_cases (accepted : ofLookup lookup = .ok c) :
    (∃ text, named? lookup "MAX_PAGE_LIMIT" = some text ∧ WritesInteger text.toList c.maxPageLimit.toNat ∧
        1 ≤ c.maxPageLimit.toNat) ∨
      (named? lookup "MAX_PAGE_LIMIT" = none ∧ c.maxPageLimit = 1000) := by
  have given := read_maxPageLimit accepted
  rw [read] at given
  split at given
  · rename_i text named
    refine .inl ⟨text, named, ?_⟩
    cases number : (readNatural? UInt32.size text).filter (0 < ·) with
    | none => simp [number, orCause] at given
    | some n =>
      obtain ⟨natural, positive⟩ := Option.filter_eq_some_iff.mp number
      obtain ⟨writes, fits⟩ := readNatural?_writes (by decide) natural
      have limit : c.maxPageLimit = UInt32.ofNat n := by simpa [number, orCause] using given.symm
      rw [limit, UInt32.toNat_ofNat_of_lt' fits]
      exact ⟨writes, Nat.succ_le_of_lt (by simpa using positive)⟩
  · rename_i named
    exact .inr ⟨named, (Except.ok.inj given).symm⟩

theorem one_le_maxPageLimit (accepted : ofLookup lookup = .ok c) : 1 ≤ c.maxPageLimit.toNat := by
  obtain ⟨-, -, -, positive⟩ | ⟨-, limit⟩ := maxPageLimit_cases accepted
  · exact positive
  · rw [limit]
    decide

end Configuration

/-! ## Limits and offsets -/

/-- A query gives an integer of 64 bits for a key. -/
def GivesInteger (query : Dict String) (key : String) (n : ℤ) : Prop :=
  ∃ text, query.get? key = some text ∧ WritesInteger (trimmed text).toList n ∧ -2 ^ 63 ≤ n ∧ n < 2 ^ 63

namespace Page

theorem integer?_eq_some_iff {query : Dict String} {key : String} {n : ℤ} :
    integer? (query.get? key) = some n ↔ GivesInteger query key n := by
  simp only [integer?, Option.bind_eq_some_iff, readInt64?_eq_some_iff, GivesInteger]

theorem toNat_least (greatest : UInt32) : (min defaultLimit greatest).toNat = min 50 greatest.toNat := by
  have fifty : defaultLimit.toNat = 50 := rfl
  have least : min defaultLimit greatest = if defaultLimit ≤ greatest then defaultLimit else greatest := rfl
  rw [least]
  split
  · rename_i le
    rw [UInt32.le_iff_toNat_le, fifty] at le
    rw [min_eq_left le, fifty]
  · rename_i lt
    rw [UInt32.le_iff_toNat_le, fifty] at lt
    rw [min_eq_right (by omega)]

variable {query : Dict String} (greatest : UInt32)

theorem limit_given {n : ℤ} (given : GivesInteger query "limit" n) (positive : 1 ≤ n) :
    ((ofQuery query greatest).limit.toNat : ℤ) = min n greatest.toNat := by
  have fits : min n.toNat greatest.toNat < UInt32.size := lt_of_le_of_lt (min_le_right _ _) greatest.toNat_lt
  have limit : (ofQuery query greatest).limit = UInt32.ofNat (min n.toNat greatest.toNat) := by
    simp only [ofQuery, ofTexts, integer?_eq_some_iff.mpr given, if_pos positive]
  rw [limit, UInt32.toNat_ofNat_of_lt' fits]
  omega

theorem limit_not_given (not_given : ∀ n, GivesInteger query "limit" n → n < 1) :
    (ofQuery query greatest).limit.toNat = min 50 greatest.toNat := by
  simp only [ofQuery, ofTexts]
  split
  · rename_i n given
    rw [if_neg (by have := not_given n (integer?_eq_some_iff.mp given); omega), toNat_least]
  · rw [toNat_least]

theorem offset_given {n : ℤ} (given : GivesInteger query "offset" n) (natural : 0 ≤ n) :
    ((ofQuery query greatest).offset.toNat : ℤ) = n := by
  obtain ⟨-, -, -, -, high⟩ := id given
  have offset : (ofQuery query greatest).offset = UInt64.ofNat n.toNat := by
    simp only [ofQuery, ofTexts, integer?_eq_some_iff.mpr given]
  rw [offset, UInt64.toNat_ofNat_of_lt' (by simp only [UInt64.size]; omega)]
  omega

theorem offset_not_given (not_given : ∀ n, GivesInteger query "offset" n → n < 0) :
    (ofQuery query greatest).offset.toNat = 0 := by
  simp only [ofQuery, ofTexts]
  split
  · rename_i n given
    have negative := not_given n (integer?_eq_some_iff.mp given)
    rw [Int.toNat_of_nonpos negative.le]
    rfl
  · rfl

theorem limit_bounds {greatest : UInt32} (positive : 1 ≤ greatest.toNat) :
    1 ≤ (ofQuery query greatest).limit.toNat ∧ (ofQuery query greatest).limit.toNat ≤ greatest.toNat := by
  by_cases given : ∃ n, GivesInteger query "limit" n ∧ 1 ≤ n
  · obtain ⟨n, given, natural⟩ := given
    have limit := limit_given greatest given natural
    omega
  · have limit := limit_not_given greatest fun n given' => by
      by_contra natural
      exact given ⟨n, given', by omega⟩
    omega

theorem offset_lt : (ofQuery query greatest).offset.toNat < 2 ^ 63 := by
  by_cases given : ∃ n, GivesInteger query "offset" n ∧ 0 ≤ n
  · obtain ⟨n, given, natural⟩ := given
    obtain ⟨-, -, -, -, high⟩ := id given
    have offset := offset_given greatest given natural
    omega
  · rw [offset_not_given greatest fun n given' => by
      by_contra natural
      exact given ⟨n, given', by omega⟩]
    decide

end Page

/-! ## Statements that list a page -/

/-- A statement that lists a page of rows and gives them as one document. -/
def pagedText (inner : String) (limit offset : ℕ) : String :=
  Sql.jsonText ("SELECT " ++ inner ++ " LIMIT " ++ limit.repr ++ " OFFSET " ++ offset.repr)

namespace Sql

theorem intercalate_first_last (separator first last : String) (between : List String) :
    ∃ middle, separator.intercalate (first :: (between ++ [last])) = first ++ middle ++ separator ++ last := by
  induction between generalizing first with
  | nil => exact ⟨"", by simp [String.intercalate_cons_cons]⟩
  | cons next between ih =>
    obtain ⟨middle, parts⟩ := ih next
    refine ⟨separator ++ next ++ middle, ?_⟩
    rw [List.cons_append, String.intercalate_cons_cons, parts]
    simp only [String.append_assoc]

theorem joinClauses_first_last {first last : String} (first_written : first ≠ "") (last_written : last ≠ "")
    (between : List String) :
    ∃ middle, joinClauses (first :: (between ++ [last])) = first ++ middle ++ " " ++ last := by
  obtain ⟨middle, parts⟩ := intercalate_first_last " " first last (between.filter (· ≠ ""))
  refine ⟨middle, ?_⟩
  rw [← parts, joinClauses]
  simp [first_written, last_written]

theorem select_paged (t : Table) (listing : Listing) :
    ∃ inner, (select t listing).asJson.text = pagedText inner listing.page.limit.toNat listing.page.offset.toNat := by
  obtain ⟨middle, parts⟩ := joinClauses_first_last (selectHead_ne_empty t listing.selection)
    (pageText_ne_empty listing.page)
    [(listing.filter.condition t).text, Order.clause (listing.order.effectiveTerms t)]
  have limit : " " ++ "LIMIT " = " LIMIT " := by decide
  refine ⟨listing.selection.text t ++ " FROM " ++ t.quotedName ++ middle, congrArg jsonText (parts.trans ?_)⟩
  simp only [selectHead, Page.text, ← limit, String.append_assoc]

/-- Casts leave the start of a statement and its page. -/
theorem castReferences_paged (inner : String) (limit offset : ℕ) (types : List (Option String)) :
    ∃ cast, castReferences (pagedText inner limit offset) types = pagedText cast limit offset := by
  have parts (inner : String) : (pagedText inner limit offset).toList = (jsonHead ++ "SELECT ").toList ++
      (inner.toList ++ (" LIMIT " ++ limit.repr ++ " OFFSET " ++ offset.repr ++ jsonTail).toList) := by
    simp [pagedText, jsonText_eq]
  have noDollar : '$' ∉ (" LIMIT " ++ limit.repr ++ " OFFSET " ++ offset.repr ++ jsonTail).toList := by
    have literals : '$' ∉ " LIMIT ".toList ∧ '$' ∉ " OFFSET ".toList ∧ '$' ∉ jsonTail.toList := by decide
    simp only [String.toList_append, List.mem_append, dollar_not_mem_repr, literals, or_self, not_false_eq_true]
  have separate : Separate (" LIMIT " ++ limit.repr ++ " OFFSET " ++ offset.repr ++ jsonTail).toList := by
    simpa using separate_cons (by decide) _
  generalize " LIMIT " ++ limit.repr ++ " OFFSET " ++ offset.repr ++ jsonTail = tail at parts noDollar separate
  obtain ⟨swallowed, left, tail_eq, -, cast_eq⟩ :=
    castBehind_append types ([] ++ (jsonHead ++ "SELECT ").toList) inner.toList separate
  have silent : '$' ∉ left := fun member => noDollar (by simp [tail_eq, member])
  refine ⟨String.ofList (castBehind types ([] ++ (jsonHead ++ "SELECT ").toList) inner.toList), ?_⟩
  apply String.toList_inj.mp
  rw [castReferences_eq, String.toList_ofList, parts, parts,
    castBehind_ordinary (by decide : Ordinary (jsonHead ++ "SELECT ").toList), cast_eq, castBehind_of_no_dollar silent,
    tail_eq, String.toList_ofList, List.append_assoc]

end Sql

/-! ## Handlers -/

/-- The questions for types are left out, and one question at least carries the statement. -/
theorem Fetched.carries {made : Sql.Statement} {log : List Answered} {outcome : Except Error (List Json)}
    (fetched : Fetched made.asJson log outcome) :
    ∃ a ∈ log, ∃ types, Carries (Sql.castReferences made.asJson.text types) a.request := by
  cases fetched with
  | unsent asked =>
    cases asked with
    | undescribed | unnamed => exact ⟨_, .head _, [], .inl (by rw [Sql.castReferences_nil])⟩
  | sent asked reply =>
    obtain ⟨types, arguments, runs⟩ := asked.runBy (made.parameters.map .parameter)
    exact ⟨_, List.mem_append_right _ (.head _), types, .inr ⟨arguments, runs⟩⟩

/-- What is sent lists a page: it asks for names of types, or carries a statement that lists the page, and this is
    asked at least once. -/
structure ListsPage (log : List Answered) (limit offset : ℕ) : Prop where
  only : ∀ a ∈ log, (∃ numbers count, a.request = namesAsked numbers count) ∨
    ∃ inner, Carries (pagedText inner limit offset) a.request
  some : ∃ a ∈ log, ∃ inner, Carries (pagedText inner limit offset) a.request

section
variable {σ : Type} {answer : (e : Effect) → σ → e.Answer × σ} {s : σ}

theorem listsPage_list (t : Table) (listing : Listing) :
    ListsPage ((t.list listing).dialogue answer s) listing.page.limit.toNat listing.page.offset.toNat := by
  obtain ⟨inner, text⟩ := Sql.select_paged t listing
  have fetched := fetched answer (Sql.select t listing) s
  have paged (types : List (Option String)) : ∃ cast, Sql.castReferences (Sql.select t listing).asJson.text types =
      pagedText cast listing.page.limit.toNat listing.page.offset.toNat := by
    rw [text]
    exact Sql.castReferences_paged inner _ _ types
  constructor
  · intro a sent
    obtain named | ⟨types, carries⟩ := fetched.requests a sent
    · exact .inl named
    · obtain ⟨cast, cast_eq⟩ := paged types
      exact .inr ⟨cast, cast_eq ▸ carries⟩
  · obtain ⟨a, sent, types, carries⟩ := fetched.carries
    obtain ⟨cast, cast_eq⟩ := paged types
    exact ⟨a, sent, cast, cast_eq ▸ carries⟩

theorem listsPage_view (t : Table) (listing : Listing) (settings : TableSettings) :
    ListsPage ((t.view listing settings).dialogue answer s) listing.page.limit.toNat listing.page.offset.toNat := by
  have sent : (t.view listing settings).dialogue answer s =
      (t.list (listing.withSettings settings)).dialogue answer s :=
    Call.dialogue_bind_done answer _ _ _
  rw [sent]
  exact listsPage_list t (listing.withSettings settings)

theorem dialogue_listRows {name : String} {t : Table} (known : (answer .snapshot s).1.get? name = some t)
    (c : Configuration) (query : Dict String) :
    (Http.Answer.listRows c name query).dialogue answer s =
      (t.list (.ofQuery query c.maxPageLimit)).dialogue answer (answer .snapshot s).2 := by
  rw [Http.Answer.listRows, Call.bind_eq, Call.dialogue_table answer known]
  exact Call.dialogue_bind_done answer _ _ _

end

/-- Listing the rows of a table, and viewing them, sends a statement that lists a page which is never empty by its limit
    nor longer than the configuration allows, whatever the query. -/
theorem pages_bounded {lookup : String → Option String} {c : Configuration}
    (accepted : Configuration.ofLookup lookup = .ok c) (query : Dict String) :
    ((∃ text, Configuration.named? lookup "MAX_PAGE_LIMIT" = some text ∧
        WritesInteger text.toList c.maxPageLimit.toNat) ∨
      (Configuration.named? lookup "MAX_PAGE_LIMIT" = none ∧ c.maxPageLimit.toNat = 1000)) ∧
    ∃ limit offset : ℕ,
      (1 ≤ limit ∧ limit ≤ c.maxPageLimit.toNat ∧ offset < 2 ^ 63) ∧
      (∀ n, GivesInteger query "limit" n → 1 ≤ n → (limit : ℤ) = min n c.maxPageLimit.toNat) ∧
      ((∀ n, GivesInteger query "limit" n → n < 1) → limit = min 50 c.maxPageLimit.toNat) ∧
      (∀ n, GivesInteger query "offset" n → 0 ≤ n → (offset : ℤ) = n) ∧
      ((∀ n, GivesInteger query "offset" n → n < 0) → offset = 0) ∧
      ∀ {σ : Type} (answer : (e : Effect) → σ → e.Answer × σ) (s : σ) (name : String) (t : Table),
        (answer .snapshot s).1.get? name = some t →
          ListsPage ((Http.Answer.listRows c name query).dialogue answer s) limit offset ∧
          ListsPage ((Http.Answer.viewTable c name query).dialogue answer s) limit offset := by
  have limit_bounds := @Page.limit_bounds query _ (Configuration.one_le_maxPageLimit accepted)
  refine ⟨?_, (Page.ofQuery query c.maxPageLimit).limit.toNat, (Page.ofQuery query c.maxPageLimit).offset.toNat,
    ⟨limit_bounds.1, limit_bounds.2, Page.offset_lt _⟩, fun n => Page.limit_given _, Page.limit_not_given _,
    fun n => Page.offset_given _, Page.offset_not_given _, ?_⟩
  · obtain ⟨text, named, writes, -⟩ | ⟨named, limit⟩ := Configuration.maxPageLimit_cases accepted
    · exact .inl ⟨text, named, writes⟩
    · exact .inr ⟨named, by rw [limit]; rfl⟩
  · intro σ answer s name t known
    rw [dialogue_listRows known, dialogue_viewTable known]
    exact ⟨listsPage_list t _, listsPage_view t _ _⟩

/-- An environment that allows pages of twenty rows. -/
def twentyRows (name : String) : Option String :=
  if name = "DATABASE_URL" then some "postgres://localhost/app"
  else if name = "MAX_PAGE_LIMIT" then some " 20 "
  else none

theorem pages_bounded_orders :
    let query : Dict String := .ofList [("limit", " +25 "), ("offset", "007")]
    let w : World := ⟨.ofList [("orders", Sql.orders)], .empty, false, ⟨none, [], []⟩⟩
    ∃ c : Configuration, Configuration.ofLookup twentyRows = .ok c ∧ c.maxPageLimit = 20 ∧
      GivesInteger query "limit" 25 ∧ GivesInteger query "offset" 7 ∧
      ListsPage ((Http.Answer.listRows c "orders" query).dialogue World.answer w) 20 7 ∧
      ListsPage ((Http.Answer.viewTable c "orders" query).dialogue World.answer w) 20 7 := by
  intro query w
  have accepted : Configuration.ofLookup twentyRows =
      .ok { Configuration.ofUrl "postgres://localhost/app" with maxPageLimit := 20 } := by rfl
  have signed : (trimmed " +25 ").toList = ['+', '2', '5'] := by decide
  have padded : (trimmed "007").toList = ['0', '0', '7'] := by decide
  have twentyFive : Writes ['2', '5'] 25 := ⟨by simp, rfl⟩
  have seven : Writes ['0', '0', '7'] 7 := ⟨by simp, rfl⟩
  have limit : GivesInteger query "limit" 25 :=
    ⟨" +25 ", rfl, signed ▸ .plus (by decide) twentyFive, by decide, by decide⟩
  have offset : GivesInteger query "offset" 7 :=
    ⟨"007", rfl, padded ▸ .unsigned (by decide) seven, by decide, by decide⟩
  obtain ⟨-, l, o, -, limit_eq, -, offset_eq, -, lists⟩ := pages_bounded accepted query
  have least : (l : ℤ) = 20 := by simpa using limit_eq 25 limit (by decide)
  have kept : (o : ℤ) = 7 := offset_eq 7 offset (by decide)
  obtain rfl : l = 20 := by omega
  obtain rfl : o = 7 := by omega
  exact ⟨_, accepted, rfl, limit, offset, lists World.answer w "orders" Sql.orders rfl⟩

end TableGateway
