import KomiSaas.Users.User
import KomiSaas.Lib.Rows
import KomiSaas.Shared.Text

/-!
# The use cases that change a user

`user/application/use-case/`: `update-user`, `change-user-password`,
`toggle-user-status` and `reassign-user`, over the table `users`
(`public/db/01-init.sql`) and `TypeOrmUserRepository`
(`user/infrastructure/persistence/repository/user.repository.ts`).

Each loads the whole user, changes some of its fields in memory (its targets),
and writes the whole user back.
-/

namespace KomiSaas.Users

open KomiSaas.Lib KomiSaas.Shared

/-- A row of `users`. The birth date is a day, counted from the epoch, and the first
    names may not be `null`. -/
structure UserRow where
  id : Uuid
  tenantId : Uuid
  branchId : Option Uuid
  rolName : JsString
  rolId : Uuid
  rolScope : UserRolScope
  userName : JsString
  email : Option JsString
  password : JsString
  firstName : Option JsString
  secondName : Option JsString
  firstLastName : Option JsString
  secondLastName : Option JsString
  age : ℤ
  sex : UserSex
  phone : JsString
  isActive : Bool
  createdAt : Instant
  updatedAt : Instant
  deriving DecidableEq

/-- What the use cases work with: `toLowerCase()`, the `LOWER` of the database,
    `argon2.verify`, and the day that the driver writes for a date, which is its
    day in the time zone of the process. -/
structure UserEnv where
  toLowerCase : JsString → JsString
  lower : JsString → JsString
  verify : JsString → JsString → Bool
  localDay : Instant → ℤ

/-- `f` of a value that may be missing. -/
def sent {α β : Type} (f : α → Except UserException β) : Option α → Except UserException (Option β)
  | none => .ok none
  | some a => (f a).map some

theorem isSome_of_sent {α β : Type} {f : α → Except UserException β} {a : Option α} {b : Option β}
    (h : sent f a = .ok b) : b.isSome = a.isSome := by
  cases a with
  | none => rw [← Except.ok.inj h]; rfl
  | some a =>
    obtain ⟨c, -, rfl⟩ := map_eq_ok.mp h
    rfl

/-- `UserMapper.toAggregate` with `UserAggregate.fromPrimitives`. -/
def UserMapper.toAggregate (env : UserEnv) (now : Instant) (entity : UserRow) :
    Except UserException UserAggregate := do
  let userName ← UserName.create entity.userName
  let email ← sent (UserEmail.create env.toLowerCase) (entity.email.filter (· ≠ []))
  let password ← UserHashedPassword.fromHash entity.password
  let age ← UserBirthDate.create now (some (entity.age * millisecondsPerDay))
  let phone ← UserPhone.create entity.phone
  .ok
    { id := entity.id
      tenantId := entity.tenantId
      branchId := entity.branchId
      rolId := entity.rolId
      rolName := entity.rolName
      rolScope := entity.rolScope
      userName := userName
      email := email
      password := password
      firstName := entity.firstName
      secondName := entity.secondName
      firstLastName := entity.firstLastName
      secondLastName := entity.secondLastName
      age := age
      sex := entity.sex
      phone := phone
      isActive := entity.isActive
      createdAt := entity.createdAt
      updatedAt := entity.updatedAt }

namespace UserRepository

/-- `searchAggregateById` (lines 89–105). -/
def searchAggregateById (env : UserEnv) (now : Instant) (users : List UserRow)
    (tenantId id : Uuid) : Except UserException (Option UserAggregate) :=
  match users.find? fun row => row.tenantId = tenantId && row.id = id with
  | none => .ok none
  | some row => (UserMapper.toAggregate env now row).map some

/-- `existsByUserName` (lines 253–276), with the user that is left out, if any. -/
def existsByUserName (env : UserEnv) (users : List UserRow) (tenantId : Uuid)
    (userName : UserName) (exceptId : Option Uuid) : Bool :=
  users.any fun row =>
    row.tenantId = tenantId && env.lower row.userName = env.lower userName.value &&
      some row.id ≠ exceptId

/-- `existsByEmail` (lines 228–251). -/
def existsByEmail (env : UserEnv) (users : List UserRow) (tenantId : Uuid) (email : UserEmail)
    (exceptId : Option Uuid) : Bool :=
  users.any fun row =>
    row.tenantId = tenantId && row.email.map env.lower = some (env.lower email.value) &&
      some row.id ≠ exceptId

/-- The row of a user, as `save` and `update` fill its columns. -/
def row (env : UserEnv) (user : UserAggregate) (now : Instant) : UserRow where
  id := user.id
  tenantId := user.tenantId
  branchId := user.branchId
  rolName := user.rolName
  rolId := user.rolId
  rolScope := user.rolScope
  userName := user.userName.value
  email := user.email.map (·.value)
  password := user.password.value
  firstName := user.firstName
  secondName := user.secondName
  firstLastName := user.firstLastName
  secondLastName := user.secondLastName
  age := env.localDay user.age
  sex := user.sex
  phone := user.phone.value
  isActive := user.isActive
  createdAt := user.createdAt
  updatedAt := now

/-- The columns that `update` sets (lines 208–223): all but three. -/
def updated (env : UserEnv) (user : UserAggregate) (now : Instant) (old : UserRow) : UserRow :=
  { row env user now with
    id := old.id
    tenantId := old.tenantId
    createdAt := old.createdAt }

/-- The values fit their columns (`public/db/01-init.sql`, lines 97–121): the first
    names are not `null`, and the texts and the date are such as the types take. -/
def fits (env : UserEnv) (user : UserAggregate) : Bool :=
  fitsVarchar 50 user.rolName && fitsVarchar 50 user.userName.value &&
    user.email.all (fitsVarchar 120 ·.value) && fitsVarchar 255 user.password.value &&
    user.firstName.any (fitsVarchar 50) && user.secondName.all (fitsVarchar 50) &&
    user.firstLastName.any (fitsVarchar 50) && user.secondLastName.all (fitsVarchar 50) &&
    fitsDate (env.localDay user.age) && fitsVarchar 20 user.phone.value

/-- The columns, the two unique indexes, and `ck_users_branch_matches_scope`. -/
def accepts (env : UserEnv) (users : List UserRow) (tenantId : Uuid) (user : UserAggregate) :
    Bool :=
  fits env user && !existsByUserName env users tenantId user.userName (some user.id) &&
    !user.email.any (existsByEmail env users tenantId · (some user.id)) &&
    match user.rolScope with
    | .administrative => user.branchId.isNone
    | .operational => user.branchId.isSome

/-- `update` (lines 194–226): `WHERE id AND tenant_id`, whatever the row holds by
    then. -/
def update (env : UserEnv) (users : List UserRow) (tenantId : Uuid) (user : UserAggregate)
    (now : Instant) : Option (List UserRow) :=
  if accepts env users tenantId user then
    some (Rows.updateWhere (fun row => row.id = user.id && row.tenantId = tenantId)
      (updated env user now) users)
  else none

end UserRepository

/-! ## The four use cases -/

/-- What a call finds around it: the time, the hash of the new password, the roles
    and the branches. -/
structure UserCall where
  now : Instant
  hashed : JsString
  rol : Uuid → Option (JsString × UserRolScope)
  branchExistsInTenant : Uuid → Uuid → Bool

/-- `UpdateUserParams`. The birth date is as `new Date` reads it. A first name may be
    `null`, which `@IsOptional` lets through (`update-user.dto.ts`, lines 33–37). -/
structure UpdateUserParams where
  userName : Option JsString
  email : Option (Option JsString)
  firstName : Option (Option JsString)
  secondName : Option (Option JsString)
  firstLastName : Option (Option JsString)
  secondLastName : Option (Option JsString)
  birthDate : Option JsDate
  sex : Option JsString
  phone : Option JsString
  deriving DecidableEq

/-- The arguments of `ChangeUserPasswordUseCase.execute` after the tenant. -/
structure ChangeUserPasswordParams where
  authenticatedUserId : Uuid
  rolScope : JsString
  currentPassword : Option JsString
  newPassword : JsString
  deriving DecidableEq

/-- `ReassignUserParams`. -/
structure ReassignUserParams where
  rolId : Uuid
  branchId : Option Uuid
  deriving DecidableEq

/-- What a call does to the user that it loads. -/
inductive Change where
  | updateUser (params : UpdateUserParams)
  | changeUserPassword (params : ChangeUserPasswordParams)
  | toggleUserStatus
  | reassignUser (params : ReassignUserParams)
  deriving DecidableEq

/-- A call of one of the four. -/
structure Operation where
  tenantId : Uuid
  id : Uuid
  change : Change
  deriving DecidableEq

namespace UpdateUser

/-- Lines 47–61. -/
def checkUserName (env : UserEnv) (users : List UserRow) (tenantId id : Uuid)
    (user : UserAggregate) (raw : JsString) : Except UserException Unit := do
  let userName ← UserName.create raw
  if raw ≠ user.userName.value &&
      UserRepository.existsByUserName env users tenantId userName (some id) then
    .error (.userNameAlreadyExists raw)
  else .ok ()

/-- Lines 63–77. -/
def checkEmail (env : UserEnv) (users : List UserRow) (tenantId id : Uuid)
    (user : UserAggregate) (raw : JsString) : Except UserException Unit := do
  let email ← UserEmail.create env.toLowerCase raw
  if some raw ≠ user.email.map (·.value) &&
      UserRepository.existsByEmail env users tenantId email (some id) then
    .error (.userEmailAlreadyExists email.value)
  else .ok ()

/-- Lines 79–118. -/
def updateParams (env : UserEnv) (now : Instant) (params : UpdateUserParams) :
    Except UserException UserUpdateParams := do
  let userName ← sent UserName.create params.userName
  let email ← sent (sent (UserEmail.create env.toLowerCase)) params.email
  let age ← sent (UserBirthDate.create now) params.birthDate
  let sex ← sent UserSex.create params.sex
  let phone ← sent UserPhone.create params.phone
  .ok
    { userName := userName
      email := email
      firstName := params.firstName
      secondName := params.secondName
      firstLastName := params.firstLastName
      secondLastName := params.secondLastName
      age := age
      sex := sex
      phone := phone }

/-- `update-user.use-case.ts`, lines 47–120. -/
def perform (env : UserEnv) (call : UserCall) (users : List UserRow) (tenantId id : Uuid)
    (params : UpdateUserParams) (user : UserAggregate) : Except UserException UserAggregate := do
  let _ ← sent (checkUserName env users tenantId id user) params.userName
  let _ ← sent (checkEmail env users tenantId id user) params.email.join
  let updateParams ← updateParams env call.now params
  user.update updateParams call.now

end UpdateUser

namespace ChangeUserPassword

/-- Lines 50–66. -/
def checkCurrentPassword (env : UserEnv) (params : ChangeUserPasswordParams)
    (user : UserAggregate) : Except UserException Unit :=
  match params.currentPassword with
  | none => .error .incorrectCurrentPassword
  | some raw => do
    let currentPassword ← UserPlainPassword.create raw
    if !env.verify currentPassword user.password.value then .error .incorrectCurrentPassword
    else .ok ()

/-- `change-user-password.use-case.ts`, lines 41–72. -/
def perform (env : UserEnv) (call : UserCall) (targetUserId : Uuid)
    (params : ChangeUserPasswordParams) (user : UserAggregate) :
    Except UserException UserAggregate := do
  let isOwnPassword := params.authenticatedUserId = targetUserId
  let scope ← UserRolScope.create params.rolScope
  if ¬ isOwnPassword ∧ scope ≠ .administrative then .error .unauthorizedPasswordChange
  else do
    let _ ← if isOwnPassword then checkCurrentPassword env params user else .ok ()
    let _ ← UserPlainPassword.create params.newPassword
    let hashedPassword ← UserHashedPassword.fromHash call.hashed
    user.changePassword hashedPassword call.now

end ChangeUserPassword

/-- `toggle-user-status.use-case.ts`, lines 26–30. -/
def ToggleUserStatus.perform (call : UserCall) (user : UserAggregate) :
    Except UserException UserAggregate :=
  if user.isActive then user.deactivate call.now else user.activate call.now

/-- `reassign-user.use-case.ts`, lines 40–66. -/
def ReassignUser.perform (call : UserCall) (tenantId : Uuid) (params : ReassignUserParams)
    (user : UserAggregate) : Except UserException UserAggregate :=
  match call.rol params.rolId with
  | none => .error (.userRolNotFound params.rolId)
  | some (name, scope) =>
    match params.branchId with
    | none => user.reassign scope params.rolId name none call.now
    | some branchId =>
      if !call.branchExistsInTenant branchId tenantId then .error (.userBranchNotFound branchId)
      else user.reassign scope params.rolId name (some branchId) call.now

namespace Operation

/-- What is done to the loaded user. -/
def perform (env : UserEnv) (call : UserCall) (users : List UserRow) (operation : Operation)
    (user : UserAggregate) : Except UserException UserAggregate :=
  match operation.change with
  | .updateUser params =>
    UpdateUser.perform env call users operation.tenantId operation.id params user
  | .changeUserPassword params => ChangeUserPassword.perform env call operation.id params user
  | .toggleUserStatus => ToggleUserStatus.perform call user
  | .reassignUser params => ReassignUser.perform call operation.tenantId params user

/-- The loaded user, or `UserNotFoundException`. -/
def load (env : UserEnv) (call : UserCall) (users : List UserRow) (operation : Operation) :
    Except UserException UserAggregate := do
  match ← UserRepository.searchAggregateById env call.now users operation.tenantId operation.id with
  | none => .error (.userNotFound operation.id)
  | some user => .ok user

/-- Everything before the write: the user as it was loaded, and as it will be
    written. -/
def prepare (env : UserEnv) (call : UserCall) (users : List UserRow) (operation : Operation) :
    Except UserException (UserAggregate × UserAggregate) := do
  let user ← operation.load env call users
  let changed ← operation.perform env call users user
  .ok (user, changed)

end Operation

/-! ## The fields of a user and the targets of a call -/

/-- The columns of a row next to its two ids. -/
inductive UserField where
  | branchId
  | rolName
  | rolId
  | rolScope
  | userName
  | email
  | password
  | firstName
  | secondName
  | firstLastName
  | secondLastName
  | age
  | sex
  | phone
  | isActive
  | createdAt
  | updatedAt
  deriving DecidableEq

/-- What a column holds. -/
inductive ColumnValue where
  | text (value : Option JsString)
  | flag (value : Bool)
  | number (value : ℤ)
  deriving DecidableEq

/-- The value of a column. -/
def UserField.value (row : UserRow) : UserField → ColumnValue
  | .branchId => .text row.branchId
  | .rolName => .text row.rolName
  | .rolId => .text row.rolId
  | .rolScope => .text row.rolScope.value
  | .userName => .text row.userName
  | .email => .text row.email
  | .password => .text row.password
  | .firstName => .text row.firstName
  | .secondName => .text row.secondName
  | .firstLastName => .text row.firstLastName
  | .secondLastName => .text row.secondLastName
  | .age => .number row.age
  | .sex => .text row.sex.value
  | .phone => .text row.phone
  | .isActive => .flag row.isActive
  | .createdAt => .number row.createdAt
  | .updatedAt => .number row.updatedAt

/-- The fields that a call is asked to change. Every call sets the time of the last
    change. -/
def Change.targets (change : Change) (field : UserField) : Bool :=
  match change, field with
  | _, .updatedAt => true
  | .updateUser params, .userName => params.userName.isSome
  | .updateUser params, .email => params.email.isSome
  | .updateUser params, .firstName => params.firstName.isSome
  | .updateUser params, .secondName => params.secondName.isSome
  | .updateUser params, .firstLastName => params.firstLastName.isSome
  | .updateUser params, .secondLastName => params.secondLastName.isSome
  | .updateUser params, .age => params.birthDate.isSome
  | .updateUser params, .sex => params.sex.isSome
  | .updateUser params, .phone => params.phone.isSome
  | .changeUserPassword _, .password => true
  | .toggleUserStatus, .isActive => true
  | .reassignUser _, .rolId => true
  | .reassignUser _, .rolName => true
  | .reassignUser _, .rolScope => true
  | .reassignUser _, .branchId => true
  | _, _ => false

/-- Every field. -/
def UserField.fields : List UserField :=
  [.branchId, .rolName, .rolId, .rolScope, .userName, .email, .password, .firstName, .secondName,
    .firstLastName, .secondLastName, .age, .sex, .phone, .isActive, .createdAt, .updatedAt]

theorem UserField.mem_fields (field : UserField) : field ∈ UserField.fields := by
  cases field <;> decide

variable {env : UserEnv} {call : UserCall} {users : List UserRow} {tenantId id : Uuid}
  {user changed : UserAggregate} {now : Instant}

/-- The two are of one user, and the columns that they give a row agree off the
    targets. -/
structure AgreesOffTargets (env : UserEnv) (change : Change) (user changed : UserAggregate) :
    Prop where
  id : changed.id = user.id
  columns : ∀ now row field, change.targets field = false →
    field.value (UserRepository.updated env changed now row) =
      field.value (UserRepository.updated env user now row)

theorem agrees_updateUser {params : UpdateUserParams}
    (h : UpdateUser.perform env call users tenantId id params user = .ok changed) :
    AgreesOffTargets env (.updateUser params) user changed := by
  obtain ⟨_, -, h⟩ := bind_eq_ok.mp h
  obtain ⟨_, -, h⟩ := bind_eq_ok.mp h
  obtain ⟨updateParams, hparams, h⟩ := bind_eq_ok.mp h
  obtain ⟨userName, huserName, hparams⟩ := bind_eq_ok.mp hparams
  obtain ⟨email, hemail, hparams⟩ := bind_eq_ok.mp hparams
  obtain ⟨age, hage, hparams⟩ := bind_eq_ok.mp hparams
  obtain ⟨sex, hsex, hparams⟩ := bind_eq_ok.mp hparams
  obtain ⟨phone, hphone, hparams⟩ := bind_eq_ok.mp hparams
  obtain rfl := Except.ok.inj hparams
  obtain ⟨_, -, h⟩ := bind_eq_ok.mp h
  split_ifs at h
  obtain rfl := Except.ok.inj h
  have hkept : ∀ {α : Type} {value : Option α} {stored : α}, value.isSome = false →
      value.getD stored = stored := by
    intro α value stored hnone
    cases value with
    | none => rfl
    | some _ => cases hnone
  refine ⟨rfl, fun now row field htarget => ?_⟩
  cases field with
  | userName =>
    have hnone : userName.isSome = false := (isSome_of_sent huserName).trans htarget
    simp only [UserField.value, UserRepository.updated, UserRepository.row, hkept hnone]
  | email =>
    have hnone : email.isSome = false := (isSome_of_sent hemail).trans htarget
    simp only [UserField.value, UserRepository.updated, UserRepository.row, hkept hnone]
  | age =>
    have hnone : age.isSome = false := (isSome_of_sent hage).trans htarget
    simp only [UserField.value, UserRepository.updated, UserRepository.row, hkept hnone]
  | sex =>
    have hnone : sex.isSome = false := (isSome_of_sent hsex).trans htarget
    simp only [UserField.value, UserRepository.updated, UserRepository.row, hkept hnone]
  | phone =>
    have hnone : phone.isSome = false := (isSome_of_sent hphone).trans htarget
    simp only [UserField.value, UserRepository.updated, UserRepository.row, hkept hnone]
  | firstName | secondName | firstLastName | secondLastName =>
    simp only [UserField.value, UserRepository.updated, UserRepository.row, hkept htarget]
  | _ => rfl

theorem agrees_changeUserPassword {params : ChangeUserPasswordParams}
    (h : ChangeUserPassword.perform env call id params user = .ok changed) :
    AgreesOffTargets env (.changeUserPassword params) user changed := by
  obtain ⟨scope, -, h⟩ := bind_eq_ok.mp h
  split_ifs at h
  all_goals
    obtain ⟨_, -, h⟩ := bind_eq_ok.mp h
    obtain ⟨_, -, h⟩ := bind_eq_ok.mp h
    obtain ⟨hashedPassword, -, h⟩ := bind_eq_ok.mp h
    obtain ⟨_, -, h⟩ := bind_eq_ok.mp h
    obtain rfl := Except.ok.inj h
    refine ⟨rfl, fun now row field htarget => ?_⟩
    cases field with
    | password => cases htarget
    | _ => rfl

theorem agrees_toggleUserStatus (h : ToggleUserStatus.perform call user = .ok changed) :
    AgreesOffTargets env .toggleUserStatus user changed := by
  have hchanged : changed = { user with
      isActive := changed.isActive
      updatedAt := changed.updatedAt } := by
    unfold ToggleUserStatus.perform UserAggregate.deactivate UserAggregate.activate at h
    split_ifs at h <;> rw [← Except.ok.inj h]
  rw [hchanged]
  refine ⟨rfl, fun now row field htarget => ?_⟩
  cases field with
  | isActive => cases htarget
  | _ => rfl

theorem agrees_reassignUser {params : ReassignUserParams}
    (h : ReassignUser.perform call tenantId params user = .ok changed) :
    AgreesOffTargets env (.reassignUser params) user changed := by
  have hreassign : ∀ {scope : UserRolScope} {name : JsString} {branchId : Option Uuid},
      user.reassign scope params.rolId name branchId call.now = .ok changed →
      AgreesOffTargets env (.reassignUser params) user changed := by
    intro scope name branchId h
    obtain ⟨_, -, h⟩ := bind_eq_ok.mp h
    obtain ⟨_, -, h⟩ := bind_eq_ok.mp h
    obtain rfl := Except.ok.inj h
    refine ⟨rfl, fun now row field htarget => ?_⟩
    cases field with
    | branchId | rolId | rolName | rolScope => cases htarget
    | _ => rfl
  unfold ReassignUser.perform at h
  split at h
  · cases h
  · split at h
    · exact hreassign h
    · split_ifs at h
      exact hreassign h

/-- A call changes no field of the loaded user but its targets. -/
theorem agrees_of_perform {operation : Operation}
    (h : operation.perform env call users user = .ok changed) :
    AgreesOffTargets env operation.change user changed := by
  obtain ⟨tenantId, id, change⟩ := operation
  cases change with
  | updateUser params => exact agrees_updateUser h
  | changeUserPassword params => exact agrees_changeUserPassword h
  | toggleUserStatus => exact agrees_toggleUserStatus h
  | reassignUser params => exact agrees_reassignUser h

/-- A user that is loaded is a stored one. -/
theorem searchAggregateById_eq_some
    (h : UserRepository.searchAggregateById env now users tenantId id = .ok (some user)) :
    ∃ row ∈ users, row.tenantId = tenantId ∧ row.id = id ∧ user.id = row.id := by
  unfold UserRepository.searchAggregateById at h
  split at h
  · cases Except.ok.inj h
  · rename_i row hrow
    obtain ⟨loaded, hload, hsome⟩ := map_eq_ok.mp h
    obtain rfl := Option.some.inj hsome
    have hids := List.find?_some hrow
    rw [Bool.and_eq_true, decide_eq_true_eq, decide_eq_true_eq] at hids
    refine ⟨row, List.mem_of_find?_eq_some hrow, hids.1, hids.2, ?_⟩
    obtain ⟨_, -, hload⟩ := bind_eq_ok.mp hload
    obtain ⟨_, -, hload⟩ := bind_eq_ok.mp hload
    obtain ⟨_, -, hload⟩ := bind_eq_ok.mp hload
    obtain ⟨_, -, hload⟩ := bind_eq_ok.mp hload
    obtain ⟨_, -, hload⟩ := bind_eq_ok.mp hload
    rw [← Except.ok.inj hload]

/-- What a call is going to write. -/
theorem prepare_eq_ok {operation : Operation}
    (h : operation.prepare env call users = .ok (user, changed)) :
    (∃ row ∈ users, row.tenantId = operation.tenantId ∧ row.id = operation.id) ∧
      changed.id = operation.id ∧ AgreesOffTargets env operation.change user changed := by
  obtain ⟨loaded, hload, h⟩ := bind_eq_ok.mp h
  obtain ⟨_, hperform, h⟩ := bind_eq_ok.mp h
  obtain ⟨rfl, rfl⟩ := Prod.mk.inj (Except.ok.inj h)
  obtain ⟨found, hfind, hload⟩ := bind_eq_ok.mp hload
  cases found with
  | none => cases hload
  | some found =>
    obtain rfl := Except.ok.inj hload
    obtain ⟨row, hrow, htenant, hid, huser⟩ := searchAggregateById_eq_some hfind
    have hagrees := agrees_of_perform hperform
    exact ⟨⟨row, hrow, htenant, hid⟩, hagrees.id.trans (huser.trans hid), hagrees⟩

/-- Lower case of plain texts, any password accepted, and days of UTC. -/
def sampleEnv : UserEnv where
  toLowerCase := toLowerCase
  lower := toLowerCase
  verify _ _ := true
  localDay now := now / millisecondsPerDay

end KomiSaas.Users
