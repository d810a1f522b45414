import Mathlib
import TableGateway.Database.Preparation
import TableGateway.Proofs.RowFetching
import TableGateway.Text.Letter

/-!
# The database of a URL

A URL has a scheme and an authority, then a path and a query if there are any (`DatabaseUrl.Parts`). With a path it is of
the database that the path names, and the URL for maintenance differs from it in the path only; so just this database
is asked for and made. Without a path it should be of none, but a slash in the query is taken for the start of a path
(`split_names_path`).
-/
namespace TableGateway

/-- A mark and what stands behind it, if there is anything. -/
def behindMark (mark : String) : Option String → String
  | none => ""
  | some part => mark ++ part

namespace DatabaseUrl

structure Parts where
  scheme : String
  authority : String
  path : Option String
  query : Option String
  scheme_letters : scheme.toList.all isAlphabetic = true
  authority_ends : '/' ∉ authority.toList ∧ '?' ∉ authority.toList
  path_ends : ∀ name, path = some name → '?' ∉ name.toList

namespace Parts

def text (p : Parts) : String :=
  p.scheme ++ "://" ++ p.authority ++ behindMark "/" p.path ++ behindMark "?" p.query

/-- The parts with the database for maintenance as their path. -/
def maintenance (p : Parts) : Parts :=
  { p with
    path := some maintenanceName
    path_ends := by
      rintro name ⟨⟩
      decide }

/-- Holds when nothing but a path has a slash. -/
def SlashInPath (p : Parts) : Prop :=
  p.path = none → ∀ query, p.query = some query → '/' ∉ query.toList

end Parts

/-! ## Where a URL is split -/

theorem splitBehind?_append {first : Char} {before : List Char} (free : first ∉ before) (word rest : List Char) :
    splitBehind? (first :: word) (before ++ (first :: word) ++ rest) = some (before ++ first :: word, rest) := by
  induction before with
  | nil =>
    have starts : (first :: word).isPrefixOf (first :: (word ++ rest)) = true :=
      List.isPrefixOf_iff_prefix.mpr ⟨rest, rfl⟩
    simp [splitBehind?, starts]
  | cons c before ih =>
    simp only [List.mem_cons, not_or] at free
    obtain ⟨differs, free⟩ := free
    rw [List.cons_append, List.cons_append, splitBehind?, if_neg (by simp [differs]), ih free]
    rfl

theorem takeWhile_dropWhile_append {stop : Char} {before : List Char} (free : stop ∉ before) (rest : List Char)
    (stops : rest = [] ∨ rest.head? = some stop) :
    (before ++ rest).takeWhile (· ≠ stop) = before ∧ (before ++ rest).dropWhile (· ≠ stop) = rest := by
  have passes : ∀ c ∈ before, decide (c ≠ stop) = true := fun c member =>
    decide_eq_true (ne_of_mem_of_not_mem member free)
  rw [List.takeWhile_append_of_pos passes, List.dropWhile_append_of_pos passes]
  obtain rfl | starts := stops
  · simp
  · obtain ⟨more, rfl⟩ := List.head?_eq_some_iff.mp starts
    simp

namespace Parts
variable (p : Parts)

theorem toList_behindMark (mark : Char) (part : Option String) :
    (behindMark (String.ofList [mark]) part).toList = [] ∨
      (behindMark (String.ofList [mark]) part).toList.head? = some mark := by
  cases part with
  | none => exact .inl rfl
  | some part => exact .inr (by simp [behindMark])

/-- The path with its slash and the query with its mark. -/
def tail : List Char :=
  (behindMark "/" p.path ++ behindMark "?" p.query).toList

theorem toList_text : p.text.toList = p.scheme.toList ++ schemeEnd ++ (p.authority.toList ++ p.tail) := by
  simp [text, tail, schemeEnd]

theorem splitBehind?_text :
    splitBehind? schemeEnd p.text.toList = some (p.scheme.toList ++ schemeEnd, p.authority.toList ++ p.tail) := by
  have no_colon : ':' ∉ p.scheme.toList := by
    intro member
    exact absurd (List.all_eq_true.mp p.scheme_letters ':' member) (by decide)
  rw [toList_text]
  exact splitBehind?_append no_colon _ _

theorem split?_text :
    split? p.text =
      match p.tail.dropWhile (· ≠ '/') with
      | [] => none
      | _ :: pathAndQuery =>
        some (p.scheme ++ "://" ++ p.authority ++ String.ofList (p.tail.takeWhile (· ≠ '/')) ++ "/" ++ maintenanceName ++
            String.ofList (pathAndQuery.dropWhile (· ≠ '?')),
          trimmed (String.ofList (pathAndQuery.takeWhile (· ≠ '?')))) := by
  have passes : ∀ c ∈ p.authority.toList, decide (c ≠ '/') = true := fun c member =>
    decide_eq_true (ne_of_mem_of_not_mem member p.authority_ends.1)
  simp only [split?, splitBehind?_text, Option.getD_some, List.takeWhile_append_of_pos passes,
    List.dropWhile_append_of_pos passes]
  cases p.tail.dropWhile (· ≠ '/') with
  | nil => rfl
  | cons slash pathAndQuery =>
    refine congrArg some (Prod.ext (String.toList_inj.mp ?_) rfl)
    simp [schemeEnd]

/-- With a path, a URL is split behind its authority. -/
theorem split?_text_of_path {path : String} (named : p.path = some path) :
    split? p.text = some (p.maintenance.text, trimmed path) := by
  have tail_eq : p.tail = '/' :: (path.toList ++ (behindMark "?" p.query).toList) := by
    simp [tail, named, behindMark]
  have cut := takeWhile_dropWhile_append (p.path_ends path named) _ (toList_behindMark '?' p.query)
  rw [split?_text, tail_eq]
  simp only [ne_eq, not_true_eq_false, decide_false, Bool.false_eq_true, not_false_eq_true, List.dropWhile_cons_of_neg,
    List.takeWhile_cons_of_neg]
  simp only [ne_eq] at cut
  rw [cut.1, cut.2]
  simp [maintenance, text, behindMark, String.append_assoc]

/-- Without a path, the first slash of the query is taken for the start of one. -/
theorem split?_text_of_slash {before after : String} (unnamed : p.path = none)
    (asked : p.query = some (before ++ "/" ++ after)) (first : '/' ∉ before.toList) :
    split? p.text =
      some (p.scheme ++ "://" ++ p.authority ++ "?" ++ before ++ "/" ++ maintenanceName ++
          String.ofList (after.toList.dropWhile (· ≠ '?')),
        trimmed (String.ofList (after.toList.takeWhile (· ≠ '?')))) := by
  have tail_eq : p.tail = '?' :: before.toList ++ '/' :: after.toList := by
    simp [tail, unnamed, asked, behindMark]
  have free : '/' ∉ '?' :: before.toList := by simpa using first
  have cut := takeWhile_dropWhile_append free ('/' :: after.toList) (.inr rfl)
  rw [split?_text, tail_eq, cut.1, cut.2]
  refine congrArg some (Prod.ext (String.toList_inj.mp ?_) rfl)
  simp

theorem split?_text_eq_none_iff : split? p.text = none ↔ p.path = none ∧ p.SlashInPath := by
  cases named : p.path with
  | some path => simp [p.split?_text_of_path named]
  | none =>
    simp only [SlashInPath, named, true_and, forall_const]
    cases asked : p.query with
    | none => simp [split?_text, tail, named, asked, behindMark]
    | some query =>
      simp only [Option.some.injEq, forall_eq']
      by_cases slash : '/' ∈ query.toList
      · obtain ⟨before, after, parts, first⟩ := List.eq_append_cons_of_mem slash
        have query_eq : query = String.ofList before ++ "/" ++ String.ofList after := by
          rw [← String.toList_inj, parts]
          simp
        simp [p.split?_text_of_slash named (query_eq ▸ asked) (by simpa using first), slash]
      · have tail_eq : p.tail = '?' :: query.toList := by
          simp [tail, named, asked, behindMark]
        have free : '/' ∉ p.tail := by simpa [tail_eq] using slash
        have passed := (takeWhile_dropWhile_append free [] (.inl rfl)).2
        rw [List.append_nil] at passed
        rw [split?_text, passed]
        simp [slash]

end Parts
end DatabaseUrl

/-! ## What is asked for and made -/

/-- Holds for requests that run no statement but the one that asks for a database of a name, or the one that makes
    it. -/
def ForDatabase (name : String) (request : Database.Request) : Prop :=
  ∀ sql arguments, request = .execute sql arguments →
    sql = databaseExistsText ∧ arguments = [.parameter (.text name)] ∨ sql = createDatabaseText name ∧ arguments = []

namespace Call

theorem createDatabase_sends (connection : Connection) (name : String) :
    SendsOnly (ForDatabase name) (createDatabase connection name) := by
  have connects : ForDatabase name (.connect connection.endpoint connection.database) := by
    rintro sql arguments ⟨⟩
  have asks : ForDatabase name (.execute databaseExistsText [.parameter (.text name)]) := by
    rintro sql arguments ⟨⟩
    exact .inl ⟨rfl, rfl⟩
  have makes : ForDatabase name (.execute (createDatabaseText name) []) := by
    rintro sql arguments ⟨⟩
    exact .inr ⟨rfl, rfl⟩
  refine (sendsOnly_ask connects).bind fun reply => (sendsOnly_ofDatabase reply).bind fun _ =>
    (sendsOnly_execute asks).bind fun set => (sendsOnly_ofDatabase _).bind fun found => ?_
  split
  · exact sendsOnly_done ()
  · exact (sendsOnly_execute makes).bind fun _ => sendsOnly_done ()

theorem prepareDatabase_sends {url maintenance name : String}
    (split : DatabaseUrl.split? url = some (maintenance, name)) : SendsOnly (ForDatabase name) (prepareDatabase url) := by
  simp only [prepareDatabase, split]
  split
  · exact sendsOnly_done ()
  · cases Connection.ofUrl maintenance with
    | ok connection => exact createDatabase_sends connection name
    | error reason => nofun

end Call

namespace DatabaseUrl

/-- A URL with a path is of the database that the path names, and through the URL for maintenance just this one is asked
    for and made. Without a path a URL is refused, unless its query has a slash: then it is of the database that the
    query names behind its first slash. -/
theorem split_names_path (p : Parts) :
    (split? p.text = none ↔ p.path = none ∧ p.SlashInPath) ∧
    (∀ path, p.path = some path → split? p.text = some (p.maintenance.text, trimmed path)) ∧
    split? p.maintenance.text = some (p.maintenance.text, "postgres") ∧
    (p.SlashInPath → ∀ {σ : Type} (answer : (e : Effect) → σ → e.Answer × σ) (s : σ),
      ∀ a ∈ (Call.prepareDatabase p.text).dialogue answer s, ∀ sql arguments, a.request = .execute sql arguments →
        ∃ path, p.path = some path ∧
          (sql = databaseExistsText ∧ arguments = [.parameter (.text (trimmed path))] ∨
            sql = createDatabaseText (trimmed path) ∧ arguments = [])) ∧
    (∀ before after, p.path = none → p.query = some (before ++ "/" ++ after) → '/' ∉ before.toList →
      ∃ maintenance, split? p.text =
        some (maintenance, trimmed (String.ofList (after.toList.takeWhile (· ≠ '?'))))) := by
  refine ⟨p.split?_text_eq_none_iff, fun path named => p.split?_text_of_path named, ?_, ?_, ?_⟩
  · exact p.maintenance.split?_text_of_path rfl
  · intro slash_in_path σ answer s a sent sql arguments runs
    cases named : p.path with
    | none =>
      have refused := p.split?_text_eq_none_iff.mpr ⟨named, slash_in_path⟩
      simp only [Call.prepareDatabase, refused] at sent
      cases sent
    | some path =>
      have only := Call.prepareDatabase_sends (p.split?_text_of_path named)
      exact ⟨path, rfl, only σ answer s a sent sql arguments runs⟩
  · intro before after unnamed asked first
    exact ⟨_, p.split?_text_of_slash unnamed asked first⟩

def appUrl : Parts where
  scheme := "postgres"
  authority := "u:p@localhost:5432"
  path := some "app"
  query := some "sslrootcert=/etc/root.crt"
  scheme_letters := by decide
  authority_ends := by decide
  path_ends := by
    rintro name ⟨⟩
    decide

/-- The database of the path, whatever slashes the query has. -/
theorem split_names_path_app :
    appUrl.text = "postgres://u:p@localhost:5432/app?sslrootcert=/etc/root.crt" ∧ appUrl.SlashInPath ∧
    split? appUrl.text = some ("postgres://u:p@localhost:5432/postgres?sslrootcert=/etc/root.crt", "app") := by
  obtain ⟨-, named, -⟩ := split_names_path appUrl
  exact ⟨by decide, nofun, (named "app" rfl).trans (by decide)⟩

/-- A URL without a path. -/
def certificateUrl : Parts where
  scheme := "postgres"
  authority := "localhost"
  path := none
  query := some "sslrootcert=/etc/root.crt"
  scheme_letters := by decide
  authority_ends := by decide
  path_ends := nofun

/-- A server without the database that is asked for. -/
def emptyServer : World :=
  scriptedWorld [.result ⟨[⟨"exists", "BOOL"⟩], [[some [0]]], 1⟩, .result ⟨[], [], 0⟩]

/-- For a URL without a path, a database is made whose name stands in the query. -/
theorem query_names_database :
    certificateUrl.text = "postgres://localhost?sslrootcert=/etc/root.crt" ∧ certificateUrl.path = none ∧
    split? certificateUrl.text = some ("postgres://localhost?sslrootcert=/postgres", "etc/root.crt") ∧
    ⟨.execute (createDatabaseText "etc/root.crt") [], .ok ⟨[], [], 0⟩⟩ ∈
      (Call.prepareDatabase certificateUrl.text).dialogue World.answer emptyServer := by
  have split : split? certificateUrl.text = some ("postgres://localhost?sslrootcert=/postgres", "etc/root.crt") := by
    decide
  have connection : Connection.ofUrl "postgres://localhost?sslrootcert=/postgres" = .ok ⟨none, "localhost", none⟩ := by
    decide +kernel
  refine ⟨by decide, rfl, split, ?_⟩
  simp only [Call.prepareDatabase, split, connection]
  -- The connection, then the question whether the database is there, then the statement that makes it.
  exact .tail _ (.tail _ (.head _))

end DatabaseUrl
end TableGateway
