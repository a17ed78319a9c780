import KomiSaas.Lib.Rows
import KomiSaas.Shared.Js

/-!
# Businesses and users, as the authentication sees them

The rows of `tenants` and `users` with the columns that the login, the renewal
and the status operations read or write, the repository calls they make, and
the three use cases that close an account:

* `toggleUserStatus` (`toggle-user-status.use-case.ts`),
* `toggleTenantStatus` (`toggle-tenant-status.use-case.ts`),
* `deleteTenant` (`delete-tenant.use-case.ts`).

None of the three takes a session repository: they cannot touch a session.
-/

namespace KomiSaas.Auth

open KomiSaas.Lib KomiSaas.Shared

/-- A row of `tenants`. -/
structure TenantRow where
  id : Uuid
  slug : JsString
  isActive : Bool
  isDeleted : Bool
  deriving DecidableEq

/-- A row of `users`. -/
structure UserRow where
  id : Uuid
  tenantId : Uuid
  branchId : Option Uuid
  rolName : JsString
  rolScope : JsString
  userName : JsString
  firstName : JsString
  secondName : Option JsString
  firstLastName : JsString
  secondLastName : Option JsString
  sex : JsString
  password : JsString
  isActive : Bool
  deriving DecidableEq

/-- The two tables. -/
structure Accounts where
  tenants : List TenantRow
  users : List UserRow
  deriving DecidableEq

/-- The errors of the status operations. -/
inductive AccountException where
  | userNotFound (id : Uuid)
  | tenantNotFound (id : Uuid)
  deriving DecidableEq, Repr

/-! ## Repositories -/

namespace TenantRepository

/-- `searchAggregateById` (`tenant.repository.ts`, lines 57–72): deleted rows do not exist. -/
def searchAggregateById (tenants : List TenantRow) (id : Uuid) : Option TenantRow :=
  tenants.find? fun t => t.id = id && !t.isDeleted

/-- `searchAggregateBySlug` (lines 90–105). -/
def searchAggregateBySlug (tenants : List TenantRow) (slug : JsString) : Option TenantRow :=
  tenants.find? fun t => t.slug = slug && !t.isDeleted

/-- `update` (lines 141–155): `UPDATE … WHERE id AND NOT is_deleted`. -/
def update (tenants : List TenantRow) (tenant : TenantRow) : List TenantRow :=
  Rows.updateWhere (fun t => t.id = tenant.id && !t.isDeleted) (fun _ => tenant) tenants

end TenantRepository

namespace UserRepository

/-- `searchAggregateById` (`user.repository.ts`, lines 98–113). -/
def searchAggregateById (users : List UserRow) (tenantId id : Uuid) : Option UserRow :=
  users.find? fun u => u.tenantId = tenantId && u.id = id

/-- `searchAggregateByUserName` (lines 79–95); the comparison respects case. -/
def searchAggregateByUserName (users : List UserRow) (tenantId : Uuid) (userName : JsString) :
    Option UserRow :=
  users.find? fun u => u.tenantId = tenantId && u.userName = userName

/-- `update` (lines 194–226): `UPDATE … WHERE id AND tenant_id`. -/
def update (users : List UserRow) (tenantId : Uuid) (user : UserRow) : List UserRow :=
  Rows.updateWhere (fun u => u.id = user.id && u.tenantId = tenantId) (fun _ => user) users

end UserRepository

/-! ## Use cases -/

/-- `ToggleUserStatusUseCase.execute` (lines 13–33). -/
def toggleUserStatus (accounts : Accounts) (tenantId id : Uuid) :
    Except AccountException Accounts :=
  match UserRepository.searchAggregateById accounts.users tenantId id with
  | none => .error (.userNotFound id)
  | some user =>
    let user := { user with isActive := !user.isActive }
    .ok { accounts with users := UserRepository.update accounts.users tenantId user }

/-- `ToggleTenantStatusUseCase.execute` (lines 9–25). -/
def toggleTenantStatus (accounts : Accounts) (id : Uuid) : Except AccountException Accounts :=
  match TenantRepository.searchAggregateById accounts.tenants id with
  | none => .error (.tenantNotFound id)
  | some tenant =>
    let tenant := { tenant with isActive := !tenant.isActive }
    .ok { accounts with tenants := TenantRepository.update accounts.tenants tenant }

/-- `DeleteTenantUseCases.execute` with `TenantAggregate.delete`. -/
def deleteTenant (accounts : Accounts) (id : Uuid) : Except AccountException Accounts :=
  match TenantRepository.searchAggregateById accounts.tenants id with
  | none => .error (.tenantNotFound id)
  | some tenant =>
    let tenant := { tenant with isDeleted := true, isActive := false }
    .ok { accounts with tenants := TenantRepository.update accounts.tenants tenant }

end KomiSaas.Auth
