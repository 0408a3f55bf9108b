/-
# `Client.CaseRouting` — the routes of the client

`parseAppRoute` and `caseListPath` (`frontend/src/caseRouting.ts`).  A path is
split at its first `?` into the path name and the search.
-/
import TonTracker.Client.CaseActivityQuery

namespace TonTracker

/-! ## Routes -/

/-- `WalletCaseCatalogState`. -/
inductive LibraryState where
  | active
  | archived
deriving DecidableEq

inductive LibraryNetwork where
  | tonMainnet
  | tonTestnet
deriving DecidableEq

inductive LibraryEnvironment where
  | demo
  | live
deriving DecidableEq

structure CaseLibraryQuery where
  state : LibraryState
  query : Option Text
  network : Option LibraryNetwork
  dataEnvironment : Option LibraryEnvironment
deriving DecidableEq

/-- The views of a case. -/
inductive CaseView where
  | summary
  | activity
  | findings
  | evidence
  | reports
deriving DecidableEq

inductive AppRoute where
  | home
  | caseList (catalog : CaseLibraryQuery)
  | caseView (view : CaseView) (caseId : Text)
  | notFound
deriving DecidableEq

def LibraryState.text : LibraryState → Text
  | .active => "active".toList
  | .archived => "archived".toList

def LibraryNetwork.text : LibraryNetwork → Text
  | .tonMainnet => "ton-mainnet".toList
  | .tonTestnet => "ton-testnet".toList

def LibraryEnvironment.text : LibraryEnvironment → Text
  | .demo => "demo".toList
  | .live => "live".toList

def CaseView.text : CaseView → Text
  | .summary => "summary".toList
  | .activity => "activity".toList
  | .findings => "findings".toList
  | .evidence => "evidence".toList
  | .reports => "reports".toList

def caseLibraryParameters : List Text :=
  ["state", "q", "network", "data_environment"].map (·.toList)

/-! ## The list -/

/-- The value of a set that has a text. -/
def ValueSet.ofText {α : Type} (allowed : ValueSet α) (text : Text) : Option α :=
  allowed.values.find? fun value => allowed.text value = text

def libraryStates : ValueSet LibraryState := ⟨[.active, .archived], LibraryState.text⟩

def libraryNetworks : ValueSet LibraryNetwork :=
  ⟨[.tonMainnet, .tonTestnet], LibraryNetwork.text⟩

def libraryEnvironments : ValueSet LibraryEnvironment := ⟨[.demo, .live], LibraryEnvironment.text⟩

/-- A value that is absent or one of a set; `none` where it is neither. -/
def ValueSet.optional {α : Type} (allowed : ValueSet α) : Option Text → Option (Option α)
  | none => some none
  | some text => (allowed.ofText text).map some

/-- A query that is absent, or trimmed and of 1 to 120 units. -/
def libraryQuery : Option Text → Option (Option Text)
  | none => some none
  | some query =>
      if query = [] ∨ 120 < utf16Length query ∨ jsTrim query ≠ query then none
      else some (some query)

/-- The catalog of a search; `none` where the route is not found. -/
def parseLibrary (parameters : SearchParams) : Option CaseLibraryQuery := do
  if (∃ field ∈ parameters, field.1 ∉ caseLibraryParameters) ∨
      ∃ key ∈ caseLibraryParameters, 1 < (parameters.getAll key).length then none
  else
    let first (key : String) := (parameters.getAll key.toList).head?
    let state ← libraryStates.ofText ((first "state").getD "active".toList)
    let query ← libraryQuery (first "q")
    let network ← libraryNetworks.optional (first "network")
    let dataEnvironment ← libraryEnvironments.optional (first "data_environment")
    return ⟨state, query, network, dataEnvironment⟩

/-! ## The views of a case -/

/-- The bytes that escapes stand for; `none` for a `%` without two digits. -/
def decodeEscapes : List UInt8 → Option (List UInt8)
  | [] => some []
  | b :: rest =>
      if b = 37 then
        match rest with
        | hi :: lo :: rest => do
            let byte ← FormUrlencoded.escaped b hi lo
            let bytes ← decodeEscapes rest
            return byte :: bytes
        | _ => none
      else do
        let bytes ← decodeEscapes rest
        return b :: bytes

/-- `decodeURIComponent`; `none` where it throws. -/
def decodeURIComponent (text : Text) : Option Text := do
  let bytes ← decodeEscapes (FormUrlencoded.utf8 text)
  let decoded ← bytes.toByteArray.utf8Decode?
  return decoded.toList

/-- `\/?$`. -/
def withoutSlash (text : Text) : Text :=
  if text.getLast? = some '/' then text.dropLast else text

/-- The route of `/cases/<id>/<view>`. -/
def parseCaseView (pathname : Text) : AppRoute :=
  match "/cases/".toList.isPrefixOf? pathname with
  | none => .notFound
  | some rest =>
      let id := rest.takeWhile (· ≠ '/')
      let view := [CaseView.summary, .activity, .findings, .evidence, .reports].find? fun view =>
        withoutSlash (rest.dropWhile (· ≠ '/')) = '/' :: view.text
      match id, view with
      | _ :: _, some view =>
          match decodeURIComponent id with
          | some caseId => if isUuidV4 caseId then .caseView view caseId else .notFound
          | none => .notFound
      | _, _ => .notFound

/-- `parseAppRoute`. -/
def parseAppRoute (replaced : List UInt8 → Text) (pathname search : Text) : AppRoute :=
  if pathname = "/".toList ∨ pathname = [] then .home
  else if pathname = "/cases".toList ∨ pathname = "/cases/".toList then
    match parseLibrary (SearchParams.ofText replaced search) with
    | some catalog => .caseList catalog
    | none => .notFound
  else parseCaseView pathname

/-! ## Paths -/

/-- The text of the query; a query that is empty or too long is refused. -/
def canonicalLibraryQuery : Option Text → Except String (Option Text)
  | none => .ok none
  | some query =>
      if jsTrim query = [] ∨ 120 < utf16Length (jsTrim query) then
        .error "Wallet Case library query must contain 1 through 120 characters"
      else .ok (some (jsTrim query))

/-- `if (value !== null) parameters.set(name, value)`. -/
def SearchParams.setSome (params : SearchParams) (name : String) (value : Option Text) :
    SearchParams :=
  match value with
  | some value => params.set name.toList value
  | none => params

/-- `caseListPath`. -/
def caseListPath (query : CaseLibraryQuery) : Except String Text := do
  let parameters : SearchParams := []
  let parameters := if query.state ≠ .active then
    parameters.set "state".toList query.state.text else parameters
  let canonicalQuery ← canonicalLibraryQuery query.query
  let parameters := parameters.setSome "q" canonicalQuery
  let parameters := parameters.setSome "network" (query.network.map LibraryNetwork.text)
  let parameters := parameters.setSome "data_environment"
    (query.dataEnvironment.map LibraryEnvironment.text)
  return "/cases".toList ++ searchText parameters

/-- The path name and the search of a path. -/
def splitPath (path : Text) : Text × Text :=
  (path.takeWhile (· ≠ '?'), path.dropWhile (· ≠ '?'))

end TonTracker
