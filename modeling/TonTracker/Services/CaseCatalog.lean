/-
# `Services.CaseCatalog` — the case catalog in pages

`list_cases` (`services/wallet_cases.py`) over `catalog_cutoff` and
`list_at_catalog_cutoff` (`repositories/wallet_cases.py`): which cases a
page lists is read off the catalog events up to a cutoff that the first
page takes and every cursor carries.  A cursor is its decoded document,
with the owner and the filters where the source has their digests.
-/
import Mathlib.Data.List.Infix
import TonTracker.Lib.KeysetPages
import TonTracker.Services.SyncManifests

namespace TonTracker

open Relational (Table)

/-- What selects the cases of a catalog. -/
structure CatalogFilter where
  archived : Bool
  query : Option Text
  network : Option Network
  dataEnvironment : Option DataEnvironment
deriving DecidableEq

/-- `_encode_case_catalog_cursor`. -/
structure CatalogCursor where
  scope : Text
  filter : CatalogFilter
  cutoff : Nat
  after : Nat
deriving DecidableEq

inductive CatalogError where
  | invalidCursor (message : String)
  | storedPlan (error : StoredPlanError)

/-- `_case_response`, the columns of the case and the syncs it shows. -/
structure CaseRecord where
  row : CaseRow
  latestSync : Option Uuid
  activeSync : Option Uuid
  currentSnapshot : Option Uuid

structure CatalogPage where
  cases : List CaseRecord
  nextCursor : Option CatalogCursor

/-! ## Queries -/

/-- `ilike` of an escaped `%query%`. -/
def ilike (query : Text) (column : Option Text) : Bool :=
  column.any fun text => decide (query.map Char.toLower <:+: text.map Char.toLower)

namespace CatalogFilter

/-- The conditions of the page query on the case itself. -/
def selects (filter : CatalogFilter) (owner : Text) (c : CaseRow) : Bool :=
  c.ownerScopeId = owner &&
    (filter.network.all fun network => c.scope.network = network) &&
    (filter.dataEnvironment.all fun environment => c.scope.dataEnvironment = environment) &&
    filter.query.all fun query => ilike query c.label || ilike query c.note ||
      ilike query (some c.scope.displayAddress) || ilike query (some c.scope.canonicalWalletKey)

end CatalogFilter

namespace Store

variable (s : Store)

/-- `catalog_cutoff`. -/
def catalogCutoff (owner : Text) : Option Nat :=
  (s.catalogEvents.latest? fun _ event =>
    (s.cases.get? event.caseId).any fun c => c.ownerScopeId = owner).map (·.1)

/-- The newest event of a case up to the cutoff, a row of
`frozen_positions`. -/
def frozenEvent? (cutoff caseId : Nat) : Option (Nat × CatalogEventRow) :=
  s.catalogEvents.latest? fun id event => id ≤ cutoff && event.caseId = caseId

/-- The cases of the page query, by descending position, before its limit
and its bound. -/
def frozenCatalog (owner : Text) (filter : CatalogFilter) (cutoff : Nat) :
    List ((Nat × CaseRow) × Nat) :=
  (s.catalogEvents.select fun id event => event.visible = !filter.archived &&
      (s.frozenEvent? cutoff event.caseId).any fun newest => newest.1 = id).reverse.filterMap
    fun (position, event) => ((s.cases.get? event.caseId).filter (filter.selects owner)).map
      fun c => ((event.caseId, c), position)

/-- `list_at_catalog_cutoff`. -/
def listAtCatalogCutoff (owner : Text) (filter : CatalogFilter) (limit cutoff : Nat)
    (after : Option Nat) : List ((Nat × CaseRow) × Nat) × Bool :=
  KeysetPages.page (·.2) limit after (s.frozenCatalog owner filter cutoff)

/-- `latest_syncs`, of one case. -/
def latestSync? (caseId : Nat) : Option (Nat × SyncRow) :=
  s.syncs.latest? fun _ row => row.caseId = caseId

end Store

/-! ## The service -/

/-- A sync in the record of its case. -/
def renderSync (sync : Option (Nat × SyncRow)) : Except CatalogError (Option Uuid) :=
  match sync with
  | none => .ok none
  | some (_, row) =>
      match row.acquisitionPlan with
      | .ok _ => .ok (some row.publicId)
      | .error error => .error (.storedPlan error)

/-- `_case_response`. -/
def Store.caseResponse (s : Store) (found : Nat × CaseRow) : Except CatalogError CaseRecord := do
  let currentSnapshot ← renderSync (s.latestUsableSync? found.1)
  let latestSync ← renderSync (s.latestSync? found.1)
  let activeSync ← renderSync (s.activeSync? found.1)
  return ⟨found.2, latestSync, activeSync, currentSnapshot⟩

/-- The query of a catalog, stripped. -/
def catalogQuery (query : Option Text) : Except CatalogError (Option Text) :=
  match query with
  | none => .ok none
  | some text =>
      if strip text = [] ∨ 120 < (strip text).length then
        .error (.invalidCursor
          "Wallet Case catalog query must contain 1 through 120 characters.")
      else .ok (some (strip text))

/-- The checks of a cursor against the request it comes with. -/
def checkCatalogCursor (owner : Text) (filter : CatalogFilter) (cursor : CatalogCursor) :
    Except CatalogError Unit :=
  if cursor.scope ≠ owner then
    .error (.invalidCursor "Wallet Case catalog cursor belongs to another owner scope.")
  else if cursor.filter.archived ≠ filter.archived then
    .error (.invalidCursor "Wallet Case catalog cursor belongs to another lifecycle state.")
  else if cursor.filter ≠ filter then
    .error (.invalidCursor "Wallet Case catalog cursor belongs to another filter set.")
  else .ok ()

/-- `list_cases`. -/
def Store.listCases (s : Store) (owner : Text) (requested : CatalogFilter) (limit : Nat)
    (cursor : Option CatalogCursor) : Except CatalogError CatalogPage := do
  if limit < 1 ∨ 50 < limit then
    throw (.invalidCursor "Wallet Case catalog limit must be between 1 and 50.")
  let query ← catalogQuery requested.query
  let filter := { requested with query := query }
  if let some given := cursor then checkCatalogCursor owner filter given
  match (match cursor with
    | some given => some given.cutoff
    | none => s.catalogCutoff owner) with
  | none => return ⟨[], none⟩
  | some cutoff =>
      let page := s.listAtCatalogCutoff owner filter limit cutoff (cursor.map (·.after))
      let cases ← page.1.mapM fun positioned => s.caseResponse positioned.1
      return ⟨cases, (KeysetPages.next (·.2) page).map fun after =>
        ⟨owner, filter, cutoff, after⟩⟩

/-- Following `next_cursor`: the requests with the store each of them finds,
and the cursor of the first; what they list, and the cursor that is left. -/
def followCatalog (owner : Text) (filter : CatalogFilter) :
    List (Store × Nat) → Option CatalogCursor →
      Except CatalogError (List CaseRecord × Option CatalogCursor)
  | [], cursor => .ok ([], cursor)
  | (s, limit) :: later, cursor => do
      let page ← s.listCases owner filter limit cursor
      match page.nextCursor with
      | none => return (page.cases, none)
      | some next =>
          let (records, left) ← followCatalog owner filter later (some next)
          return (page.cases ++ records, left)

end TonTracker
