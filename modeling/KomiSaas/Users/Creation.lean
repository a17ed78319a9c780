import KomiSaas.Users.UseCases
import KomiSaas.Lib.Writes

/-!
# `CreateUserUseCase`, and what every use case writes

The creation of a user (`create-user.use-case.ts`) with the `INSERT` behind it, next
to the four use cases that change one.

* `UpdateUser.perform_ok`, `ReassignUser.perform_ok` and their like: the user name,
  the email, the role scope and the branch that a call is going to write, against
  those of the row it loaded.
* `CreateUser.prepare_ok`: the same of a new user.
-/

namespace KomiSaas.Users

open KomiSaas.Lib KomiSaas.Shared

/-- The exceptions of `CreateUserUseCase`. -/
inductive CreateUserException where
  | userTenantNotFound (tenantId : Uuid)
  | user (exception : UserException)
  deriving DecidableEq

namespace CreateUserException

def code : CreateUserException → JsString
  | .userTenantNotFound _ => js "1205"
  | .user exception => exception.code

def detail : CreateUserException → JsString
  | .userTenantNotFound tenantId =>
    js "El tenant '" ++ tenantId ++ js "' no existe o no está disponible."
  | .user exception => exception.detail

end CreateUserException

/-- The parameters of `UserAggregate.create`. -/
structure UserCreateParams where
  tenantId : Uuid
  branchId : Option Uuid
  rolId : Uuid
  rolName : JsString
  rolScope : UserRolScope
  userName : UserName
  email : Option UserEmail
  password : UserHashedPassword
  firstName : JsString
  secondName : Option JsString
  firstLastName : JsString
  secondLastName : Option JsString
  age : UserBirthDate
  sex : UserSex
  phone : UserPhone
  deriving DecidableEq

/-- `UserAggregate.create` (lines 94–156), with the id that `UserId.generate` gives. -/
def UserAggregate.create (id : Uuid) (now : Instant) (params : UserCreateParams) :
    Except UserException UserAggregate := do
  ensureBranchMatchesRolScope params.rolScope params.branchId
  .ok
    { id := id
      tenantId := params.tenantId
      branchId := params.branchId
      rolId := params.rolId
      rolName := params.rolName
      rolScope := params.rolScope
      userName := params.userName
      email := params.email
      password := params.password
      firstName := some params.firstName
      secondName := params.secondName
      firstLastName := some params.firstLastName
      secondLastName := params.secondLastName
      age := params.age
      sex := params.sex
      phone := params.phone
      isActive := true
      createdAt := now
      updatedAt := now }

namespace UserRepository

/-- `save` (lines 25–51): an `INSERT`; `none` is a violated constraint. -/
def save (env : UserEnv) (users : List UserRow) (user : UserAggregate) : Option (List UserRow) :=
  if user.id ∈ users.map (·.id) || !accepts env users user.tenantId user then none
  else some (users ++ [row env user user.updatedAt])

end UserRepository

/-- What a call finds around it: `UserCall` with the generated id and the active
    businesses. -/
structure CreateUserCall extends UserCall where
  userId : Uuid
  tenantExists : Uuid → Bool

/-- `CreateUserApplicationParams`. The birth date is as `new Date` reads it. -/
structure CreateUserParams where
  tenantId : Uuid
  branchId : Option Uuid
  rolId : Uuid
  userName : JsString
  email : Option JsString
  password : JsString
  firstName : JsString
  secondName : Option JsString
  firstLastName : JsString
  secondLastName : Option JsString
  age : JsDate
  sex : JsString
  phone : JsString
  deriving DecidableEq

namespace CreateUser

/-- Lines 48–57: the branch, where one is sent. -/
def checkBranch (call : CreateUserCall) (tenantId : Uuid) (branchId : Option Uuid) :
    Except UserException Unit :=
  match branchId with
  | none => .ok ()
  | some branchId =>
    if call.branchExistsInTenant branchId tenantId then .ok ()
    else .error (.userBranchNotFound branchId)

/-- Lines 66–75. -/
def createEmail (env : UserEnv) (users : List UserRow) (tenantId : Uuid) :
    Option JsString → Except UserException (Option UserEmail)
  | none => .ok none
  | some raw => do
    let email ← UserEmail.create env.toLowerCase raw
    if UserRepository.existsByEmail env users tenantId email none then
      .error (.userEmailAlreadyExists email.value)
    else .ok (some email)

/-- Lines 77–81. -/
def createUserName (env : UserEnv) (users : List UserRow) (tenantId : Uuid) (raw : JsString) :
    Except UserException UserName := do
  let userName ← UserName.create raw
  if UserRepository.existsByUserName env users tenantId userName none then
    .error (.userNameAlreadyExists raw)
  else .ok userName

/-- `create-user.use-case.ts`, lines 48–107. The empty texts count as missing. -/
def perform (env : UserEnv) (call : CreateUserCall) (users : List UserRow)
    (params : CreateUserParams) : Except UserException UserAggregate := do
  let branchId := params.branchId.filter (· ≠ [])
  checkBranch call params.tenantId branchId
  match call.rol params.rolId with
  | none => .error (.userRolNotFound params.rolId)
  | some (rolName, rolScope) =>
    let email ← createEmail env users params.tenantId (params.email.filter (· ≠ []))
    let userName ← createUserName env users params.tenantId params.userName
    let _ ← UserPlainPassword.create params.password
    let password ← UserHashedPassword.fromHash call.hashed
    let age ← UserBirthDate.create call.now params.age
    let sex ← UserSex.create params.sex
    let phone ← UserPhone.create params.phone
    UserAggregate.create call.userId call.now
      { tenantId := params.tenantId
        branchId := branchId
        rolId := params.rolId
        rolName := rolName
        rolScope := rolScope
        userName := userName
        email := email
        password := password
        firstName := params.firstName
        secondName := params.secondName
        firstLastName := params.firstLastName
        secondLastName := params.secondLastName
        age := age
        sex := sex
        phone := phone }

/-- Everything before the write (lines 40–107). -/
def prepare (env : UserEnv) (call : CreateUserCall) (users : List UserRow)
    (params : CreateUserParams) : Except CreateUserException UserAggregate :=
  if !call.tenantExists params.tenantId then .error (.userTenantNotFound params.tenantId)
  else (perform env call users params).mapError .user

end CreateUser

/-! ## What is written -/

variable {env : UserEnv} {call : UserCall} {users : List UserRow} {tenantId id : Uuid}
  {user changed : UserAggregate} {row : UserRow} {now : Instant}

/-- An administrative role has no branch, any other has one. -/
def MatchesScope (scope : UserRolScope) (branchId : Option Uuid) : Prop :=
  scope = .administrative ↔ branchId = none

theorem matchesScope_of_ensure {scope : UserRolScope} {branchId : Option Uuid} {done : Unit}
    (h : UserAggregate.ensureBranchMatchesRolScope scope branchId = .ok done) :
    MatchesScope scope branchId := by
  rw [MatchesScope]
  unfold UserAggregate.ensureBranchMatchesRolScope at h
  cases scope <;> cases branchId <;> simp_all

/-- The user name of a user is free in its business, apart from its own row. -/
def UserNameFree (env : UserEnv) (users : List UserRow) (tenantId : Uuid) (user : UserAggregate) :
    Prop :=
  ∀ row ∈ users, row.tenantId = tenantId → row.id ≠ user.id →
    env.lower row.userName ≠ env.lower user.userName.value

/-- So is its email, where it has one. -/
def EmailFree (env : UserEnv) (users : List UserRow) (tenantId : Uuid) (user : UserAggregate) :
    Prop :=
  ∀ row ∈ users, row.tenantId = tenantId → row.id ≠ user.id →
    ∀ email ∈ user.email, row.email.map env.lower ≠ some (env.lower email.value)

/-- The constraints of `users`, one by one. -/
theorem UserRepository.accepts_iff :
    UserRepository.accepts env users tenantId user = true ↔
      UserRepository.fits env user = true ∧ UserNameFree env users tenantId user ∧
        EmailFree env users tenantId user ∧ MatchesScope user.rolScope user.branchId := by
  rw [UserRepository.accepts, Bool.and_eq_true, Bool.and_eq_true, Bool.and_eq_true, and_assoc,
    and_assoc]
  refine and_congr Iff.rfl (and_congr ?_ (and_congr ?_ ?_))
  · rw [Bool.not_eq_true', UserRepository.existsByUserName, List.any_eq_false, UserNameFree]
    refine forall₂_congr fun row _ => ?_
    simp only [Bool.and_eq_true, decide_eq_true_eq, ne_eq, Option.some.injEq]
    tauto
  · rw [Bool.not_eq_true', EmailFree]
    cases hemail : user.email with
    | none => simp
    | some email =>
      rw [Option.any_some, UserRepository.existsByEmail, List.any_eq_false]
      refine forall₂_congr fun row _ => ?_
      simp only [Bool.and_eq_true, decide_eq_true_eq, Option.mem_some_iff, forall_eq', ne_eq,
        Option.some.injEq]
      tauto
  · rw [MatchesScope]
    cases user.rolScope <;> cases user.branchId <;> simp

/-- An email in lower case. -/
def Lowered (env : UserEnv) (email : UserEmail) : Prop := env.toLowerCase email.value = email.value

theorem isWhiteSpace_of_isAllowed {c : UInt16} (h : UserName.isAllowed c = true) :
    isWhiteSpace c = false := by
  rw [UserName.isAllowed, Bool.or_eq_true, Bool.or_eq_true, Bool.or_eq_true,
    decide_eq_true_iff] at h
  rcases h with ((h | h) | h) | h
  · obtain ⟨n, hn, rfl⟩ := exists_of_between h
    change n < 26 at hn
    interval_cases n <;> rfl
  · exact isWhiteSpace_of_isCapital h
  · obtain ⟨n, hn, rfl⟩ := isDigit_iff.mp h
    interval_cases n <;> rfl
  · have hmarks : js "._-" = [46, 95, 45] := by decide
    rw [hmarks] at h
    rcases List.mem_cons.mp h with rfl | h
    · rfl
    · rcases List.mem_pair.mp h with rfl | rfl <;> rfl

theorem UserName.trim_value (name : UserName) : trim name.value = name.value := by
  have hplain : ∀ c ∈ name.value, isWhiteSpace c = false := fun c hc =>
    isWhiteSpace_of_isAllowed (List.all_eq_true.mp name.pattern c hc)
  exact trim_eq_self (fun c hc => hplain c (List.mem_of_mem_head? hc))
    fun c hc => hplain c (List.mem_of_mem_getLast? hc)

theorem UserName.value_of_create {raw : JsString} {name : UserName}
    (h : UserName.create raw = .ok name) : name.value = trim raw := by
  unfold UserName.create at h
  split_ifs at h
  rw [← Except.ok.inj h]

theorem UserName.eq_of_value {name other : UserName} (h : name.value = other.value) :
    name = other := by
  cases name
  cases other
  obtain rfl := h
  rfl

/-- An email has no white space. -/
theorem UserEmail.plain_of_matchesPattern {value : JsString}
    (h : UserEmail.matchesPattern value = true) :
    value ≠ [] ∧ ∀ c ∈ value, isWhiteSpace c = false := by
  have hvalue := @List.takeWhile_append_dropWhile _ (fun c => !isWhiteSpace c && c ≠ 64) value
  unfold UserEmail.matchesPattern at h
  dsimp only at h
  split at h
  · cases h
  · rename_i c domain hdrop
    rw [hdrop] at hvalue
    simp only [Bool.and_eq_true, decide_eq_true_eq, List.all_eq_true, Bool.not_eq_true'] at h
    obtain ⟨⟨⟨rfl, -⟩, hdomain⟩, -⟩ := h
    constructor
    · rintro rfl
      cases hdrop
    · intro a ha
      rw [← hvalue, List.mem_append, List.mem_cons] at ha
      rcases ha with ha | rfl | ha
      · have hplain := List.mem_takeWhile_imp ha
        rw [Bool.and_eq_true, Bool.not_eq_true'] at hplain
        exact hplain.1
      · rfl
      · exact (hdomain a ha).1

theorem UserEmail.trim_value (email : UserEmail) : trim email.value = email.value := by
  have hplain := (UserEmail.plain_of_matchesPattern email.pattern).2
  exact trim_eq_self (fun c hc => hplain c (List.mem_of_mem_head? hc))
    fun c hc => hplain c (List.mem_of_mem_getLast? hc)

theorem UserEmail.value_of_create {raw : JsString} {email : UserEmail}
    (h : UserEmail.create env.toLowerCase raw = .ok email) :
    email.value = env.toLowerCase (trim raw) := by
  simp only [UserEmail.create] at h
  split_ifs at h
  rw [← Except.ok.inj h]

/-- What a call does to the columns that the constraints are about. -/
structure Admissible (env : UserEnv) (users : List UserRow) (tenantId : Uuid)
    (user changed : UserAggregate) : Prop where
  id : changed.id = user.id
  userName : changed.userName = user.userName ∨ UserNameFree env users tenantId changed
  email : changed.email = user.email ∨ EmailFree env users tenantId changed
  lowered : ∀ email ∈ changed.email, Lowered env email
  scope : MatchesScope changed.rolScope changed.branchId

/-- `toLowerCase` of a text in lower case changes nothing. -/
def Idempotent (env : UserEnv) : Prop :=
  ∀ s, env.toLowerCase (env.toLowerCase s) = env.toLowerCase s

theorem lowered_of_create {raw : JsString} {email : UserEmail} (henv : Idempotent env)
    (h : UserEmail.create env.toLowerCase raw = .ok email) : Lowered env email := by
  rw [Lowered, UserEmail.value_of_create h, henv]

/-- The user name that an update sends is free, or the one the user has. -/
theorem UpdateUser.checkUserName_ok {raw : JsString} {done : Unit} {name : UserName}
    (hname : UserName.create raw = .ok name)
    (h : checkUserName env users tenantId user.id user raw = .ok done) :
    name = user.userName ∨
      UserRepository.existsByUserName env users tenantId name (some user.id) = false := by
  obtain ⟨other, hother, h⟩ := bind_eq_ok.mp h
  obtain rfl := Except.ok.inj (hother.symm.trans hname)
  split_ifs at h with hcheck
  rw [Bool.and_eq_true, not_and, decide_eq_true_eq, Bool.not_eq_true] at hcheck
  by_cases hsame : raw = user.userName.value
  · refine .inl (UserName.eq_of_value ?_)
    rw [UserName.value_of_create hname, hsame, user.userName.trim_value]
  · exact .inr (hcheck hsame)

/-- So is the email. -/
theorem UpdateUser.checkEmail_ok {raw : JsString} {done : Unit} {email : UserEmail}
    (huser : ∀ email ∈ user.email, Lowered env email)
    (hemail : UserEmail.create env.toLowerCase raw = .ok email)
    (h : checkEmail env users tenantId user.id user raw = .ok done) :
    user.email = some email ∨
      UserRepository.existsByEmail env users tenantId email (some user.id) = false := by
  obtain ⟨other, hother, h⟩ := bind_eq_ok.mp h
  obtain rfl := Except.ok.inj (hother.symm.trans hemail)
  split_ifs at h with hcheck
  rw [Bool.and_eq_true, not_and, decide_eq_true_eq, Bool.not_eq_true] at hcheck
  by_cases hsame : some raw = user.email.map (·.value)
  · obtain ⟨own, hown, hvalue⟩ := Option.map_eq_some_iff.mp hsame.symm
    refine .inl (hown.trans (congrArg some (UserEmail.ext ?_)))
    rw [UserEmail.value_of_create hemail, ← hvalue, own.trim_value]
    exact (huser own hown).symm
  · exact .inr (hcheck hsame)

/-- A name that no row has is free, whether the search left the user out or not. -/
theorem userNameFree_of_exists {exceptId : Option Uuid} (hexcept : ∀ id ∈ exceptId, id = user.id)
    (h : UserRepository.existsByUserName env users tenantId user.userName exceptId = false) :
    UserNameFree env users tenantId user := by
  rw [UserRepository.existsByUserName, List.any_eq_false] at h
  intro row hrow htenant hid hlower
  have hother : some row.id ≠ exceptId := fun heq => hid (hexcept row.id heq.symm)
  have hused := h row hrow
  simp [htenant, hother, hlower] at hused

/-- So is an email. -/
theorem emailFree_of_exists {exceptId : Option Uuid} (hexcept : ∀ id ∈ exceptId, id = user.id)
    (h : ∀ email ∈ user.email,
      UserRepository.existsByEmail env users tenantId email exceptId = false) :
    EmailFree env users tenantId user := by
  intro row hrow htenant hid email hemail hlower
  have hfree := h email hemail
  rw [UserRepository.existsByEmail, List.any_eq_false] at hfree
  have hother : some row.id ≠ exceptId := fun heq => hid (hexcept row.id heq.symm)
  have hused := hfree row hrow
  simp [htenant, hother, hlower] at hused

/-- The user name after `update`. -/
theorem UpdateUser.userName_ok {raw : Option JsString} {done : Option Unit} {name : Option UserName}
    (hcheck : sent (checkUserName env users tenantId user.id user) raw = .ok done)
    (hname : sent UserName.create raw = .ok name) :
    name.getD user.userName = user.userName ∨
      UserRepository.existsByUserName env users tenantId (name.getD user.userName)
        (some user.id) = false := by
  cases raw with
  | none =>
    obtain rfl := Except.ok.inj hname
    exact .inl rfl
  | some raw =>
    obtain ⟨created, hcreate, rfl⟩ := map_eq_ok.mp hname
    obtain ⟨done, hchecked, -⟩ := map_eq_ok.mp hcheck
    exact checkUserName_ok hcreate hchecked

/-- The email after `update`. -/
theorem UpdateUser.email_ok {raw : Option (Option JsString)} {done : Option Unit}
    {email : Option (Option UserEmail)} (henv : Idempotent env)
    (huser : ∀ email ∈ user.email, Lowered env email)
    (hcheck : sent (checkEmail env users tenantId user.id user) raw.join = .ok done)
    (hemail : sent (sent (UserEmail.create env.toLowerCase)) raw = .ok email) :
    (∀ e ∈ email.getD user.email, Lowered env e) ∧
      (email.getD user.email = user.email ∨ ∀ e ∈ email.getD user.email,
        UserRepository.existsByEmail env users tenantId e (some user.id) = false) := by
  cases raw with
  | none =>
    obtain rfl := Except.ok.inj hemail
    exact ⟨huser, .inl rfl⟩
  | some raw =>
    obtain ⟨sent, hsent, rfl⟩ := map_eq_ok.mp hemail
    cases raw with
    | none =>
      obtain rfl := Except.ok.inj hsent
      exact ⟨fun _ h => (by cases h), .inr fun _ h => (by cases h)⟩
    | some raw =>
      obtain ⟨created, hcreate, rfl⟩ := map_eq_ok.mp hsent
      obtain ⟨done, hchecked, -⟩ := map_eq_ok.mp hcheck
      constructor
      · rintro e ⟨⟩
        exact lowered_of_create henv hcreate
      · rcases checkEmail_ok huser hcreate hchecked with hsame | hfree
        · exact .inl hsame.symm
        · right
          rintro e ⟨⟩
          exact hfree

theorem UpdateUser.perform_ok {params : UpdateUserParams} (henv : Idempotent env)
    (huser : ∀ email ∈ user.email, Lowered env email)
    (hscope : MatchesScope user.rolScope user.branchId)
    (h : perform env call users tenantId user.id params user = .ok changed) :
    Admissible env users tenantId user changed := by
  obtain ⟨_, hcheckName, h⟩ := bind_eq_ok.mp h
  obtain ⟨_, hcheckEmail, h⟩ := bind_eq_ok.mp h
  obtain ⟨updateParams, hparams, h⟩ := bind_eq_ok.mp h
  obtain ⟨userName, huserName, hparams⟩ := bind_eq_ok.mp hparams
  obtain ⟨email, hemail, hparams⟩ := bind_eq_ok.mp hparams
  obtain ⟨_, -, hparams⟩ := bind_eq_ok.mp hparams
  obtain ⟨_, -, hparams⟩ := bind_eq_ok.mp hparams
  obtain ⟨_, -, hparams⟩ := bind_eq_ok.mp hparams
  obtain rfl := Except.ok.inj hparams
  obtain ⟨_, -, h⟩ := bind_eq_ok.mp h
  split_ifs at h
  obtain rfl := Except.ok.inj h
  obtain ⟨hlowered, hemail⟩ := email_ok henv huser hcheckEmail hemail
  exact
    { id := rfl
      userName :=
        (userName_ok hcheckName huserName).imp_right (userNameFree_of_exists (by simp))
      email := hemail.imp_right (emailFree_of_exists (by simp))
      lowered := hlowered
      scope := hscope }

/-- A call that leaves the user name, the email, the role and the branch alone. -/
theorem admissible_of_kept (huser : ∀ email ∈ user.email, Lowered env email)
    (hscope : MatchesScope user.rolScope user.branchId) (hid : changed.id = user.id)
    (huserName : changed.userName = user.userName) (hemail : changed.email = user.email)
    (hrolScope : changed.rolScope = user.rolScope) (hbranchId : changed.branchId = user.branchId) :
    Admissible env users tenantId user changed where
  id := hid
  userName := .inl huserName
  email := .inl hemail
  lowered := hemail ▸ huser
  scope := by rwa [hrolScope, hbranchId]

theorem ChangeUserPassword.perform_ok {params : ChangeUserPasswordParams}
    (huser : ∀ email ∈ user.email, Lowered env email)
    (hscope : MatchesScope user.rolScope user.branchId)
    (h : perform env call id params user = .ok changed) :
    Admissible env users tenantId user changed := by
  obtain ⟨scope, -, h⟩ := bind_eq_ok.mp h
  split_ifs at h
  all_goals
    obtain ⟨_, -, h⟩ := bind_eq_ok.mp h
    obtain ⟨_, -, h⟩ := bind_eq_ok.mp h
    obtain ⟨_, -, h⟩ := bind_eq_ok.mp h
    obtain ⟨_, -, h⟩ := bind_eq_ok.mp h
    obtain rfl := Except.ok.inj h
    exact admissible_of_kept huser hscope rfl rfl rfl rfl rfl

theorem ToggleUserStatus.perform_ok (huser : ∀ email ∈ user.email, Lowered env email)
    (hscope : MatchesScope user.rolScope user.branchId) (h : perform call user = .ok changed) :
    Admissible env users tenantId user changed := by
  unfold perform UserAggregate.deactivate UserAggregate.activate at h
  split_ifs at h
  all_goals
    obtain rfl := Except.ok.inj h
    exact admissible_of_kept huser hscope rfl rfl rfl rfl rfl

/-- The only call that changes the role checks it against the branch. -/
theorem ReassignUser.perform_ok {params : ReassignUserParams}
    (huser : ∀ email ∈ user.email, Lowered env email)
    (h : perform call tenantId params user = .ok changed) :
    Admissible env users tenantId user changed := by
  have hreassign : ∀ {scope : UserRolScope} {name : JsString} {branchId : Option Uuid},
      user.reassign scope params.rolId name branchId call.now = .ok changed →
      Admissible env users tenantId user changed := by
    intro scope name branchId h
    obtain ⟨_, -, h⟩ := bind_eq_ok.mp h
    obtain ⟨_, hensure, h⟩ := bind_eq_ok.mp h
    obtain rfl := Except.ok.inj h
    exact
      { id := rfl
        userName := .inl rfl
        email := .inl rfl
        lowered := huser
        scope := matchesScope_of_ensure hensure }
  unfold perform at h
  split at h
  · cases h
  · split at h
    · exact hreassign h
    · split_ifs at h
      exact hreassign h

theorem Operation.perform_ok {operation : Operation} (henv : Idempotent env)
    (huser : ∀ email ∈ user.email, Lowered env email)
    (hscope : MatchesScope user.rolScope user.branchId) (hid : user.id = operation.id)
    (h : operation.perform env call users user = .ok changed) :
    Admissible env users operation.tenantId user changed := by
  obtain ⟨tenantId, id, change⟩ := operation
  obtain rfl := hid
  cases change with
  | updateUser params => exact UpdateUser.perform_ok henv huser hscope h
  | changeUserPassword params => exact ChangeUserPassword.perform_ok huser hscope h
  | toggleUserStatus => exact ToggleUserStatus.perform_ok huser hscope h
  | reassignUser params => exact ReassignUser.perform_ok huser h

/-- What the code has written to a row. -/
structure Tidy (env : UserEnv) (row : UserRow) : Prop where
  userName : trim row.userName = row.userName
  email : ∀ email ∈ row.email, email ≠ [] ∧ env.toLowerCase (trim email) = email
  scope : MatchesScope row.rolScope row.branchId

theorem tidy_row (hlowered : ∀ email ∈ user.email, Lowered env email)
    (hscope : MatchesScope user.rolScope user.branchId) :
    Tidy env (UserRepository.row env user now) where
  userName := user.userName.trim_value
  email raw hraw := by
    obtain ⟨email, hemail, rfl⟩ := Option.map_eq_some_iff.mp hraw
    refine ⟨(UserEmail.plain_of_matchesPattern email.pattern).1, ?_⟩
    rw [email.trim_value]
    exact hlowered email hemail
  scope := hscope

/-- A user with the values of its row. -/
structure ReadFrom (env : UserEnv) (row : UserRow) (user : UserAggregate) : Prop where
  id : user.id = row.id
  userName : user.userName.value = row.userName
  email : user.email.map (·.value) = row.email
  lowered : ∀ email ∈ user.email, Lowered env email
  scope : MatchesScope user.rolScope user.branchId

theorem readFrom_of_toAggregate (henv : Idempotent env) (hrow : Tidy env row)
    (h : UserMapper.toAggregate env now row = .ok user) : ReadFrom env row user := by
  obtain ⟨userName, huserName, h⟩ := bind_eq_ok.mp h
  obtain ⟨email, hemail, h⟩ := bind_eq_ok.mp h
  obtain ⟨_, -, h⟩ := bind_eq_ok.mp h
  obtain ⟨_, -, h⟩ := bind_eq_ok.mp h
  obtain ⟨_, -, h⟩ := bind_eq_ok.mp h
  obtain rfl := Except.ok.inj h
  have hloaded : email.map (·.value) = row.email ∧ ∀ e ∈ email, Lowered env e := by
    cases hstored : row.email with
    | none =>
      rw [hstored] at hemail
      obtain rfl := Except.ok.inj hemail
      exact ⟨rfl, fun _ h => (by cases h)⟩
    | some raw =>
      obtain ⟨hne, hraw⟩ := hrow.email raw hstored
      have hkept : Option.filter (fun s : JsString => decide (s ≠ [])) (some raw) = some raw :=
        Option.filter_some_pos (decide_eq_true hne)
      rw [hstored, hkept] at hemail
      obtain ⟨e, hcreate, rfl⟩ := map_eq_ok.mp hemail
      refine ⟨congrArg some ((UserEmail.value_of_create hcreate).trans hraw), ?_⟩
      rintro _ ⟨⟩
      exact lowered_of_create henv hcreate
  exact
    { id := rfl
      userName := (UserName.value_of_create huserName).trans hrow.userName
      email := hloaded.1
      lowered := hloaded.2
      scope := hrow.scope }

/-- A call that changes a user writes it back to the row that it loaded. -/
theorem Operation.prepare_ok {operation : Operation} (henv : Idempotent env)
    (htidy : ∀ row ∈ users, Tidy env row)
    (h : operation.prepare env call users = .ok (user, changed)) :
    ∃ row ∈ users, row.tenantId = operation.tenantId ∧ ReadFrom env row user ∧
      Admissible env users operation.tenantId user changed := by
  obtain ⟨loaded, hload, h⟩ := bind_eq_ok.mp h
  obtain ⟨_, hperform, h⟩ := bind_eq_ok.mp h
  obtain ⟨rfl, rfl⟩ := Prod.mk.inj (Except.ok.inj h)
  obtain ⟨found, hfind, hload⟩ := bind_eq_ok.mp hload
  cases found with
  | none => cases hload
  | some found =>
    obtain rfl := Except.ok.inj hload
    unfold UserRepository.searchAggregateById at hfind
    split at hfind
    · cases Except.ok.inj hfind
    · rename_i row hrow
      obtain ⟨_, hread, hsome⟩ := map_eq_ok.mp hfind
      obtain rfl := Option.some.inj hsome
      have hids := List.find?_some hrow
      rw [Bool.and_eq_true, decide_eq_true_eq, decide_eq_true_eq] at hids
      have hmem := List.mem_of_find?_eq_some hrow
      have hreadFrom := readFrom_of_toAggregate henv (htidy row hmem) hread
      exact ⟨row, hmem, hids.1, hreadFrom, Operation.perform_ok henv hreadFrom.lowered
        hreadFrom.scope (hreadFrom.id.trans hids.2) hperform⟩

namespace CreateUser

variable {call : CreateUserCall} {params : CreateUserParams}

theorem createEmail_ok {raw : Option JsString} {email : Option UserEmail} (henv : Idempotent env)
    (h : createEmail env users tenantId raw = .ok email) :
    (∀ e ∈ email, Lowered env e) ∧
      ∀ e ∈ email, UserRepository.existsByEmail env users tenantId e none = false := by
  cases raw with
  | none =>
    obtain rfl := Except.ok.inj h
    exact ⟨fun _ h => (by cases h), fun _ h => (by cases h)⟩
  | some raw =>
    obtain ⟨e, hcreate, h⟩ := bind_eq_ok.mp h
    split_ifs at h with hexists
    obtain rfl := Except.ok.inj h
    constructor
    · rintro _ ⟨⟩
      exact lowered_of_create henv hcreate
    · rintro _ ⟨⟩
      exact Bool.eq_false_of_not_eq_true hexists

/-- A new user has the generated id, a free user name and a free email. -/
theorem prepare_ok (henv : Idempotent env) (h : prepare env call users params = .ok user) :
    user.id = call.userId ∧ user.tenantId = params.tenantId ∧
      UserNameFree env users user.tenantId user ∧ EmailFree env users user.tenantId user ∧
      (∀ email ∈ user.email, Lowered env email) ∧ MatchesScope user.rolScope user.branchId := by
  unfold prepare at h
  split_ifs at h
  have h := mapError_eq_ok.mp h
  obtain ⟨_, -, h⟩ := bind_eq_ok.mp h
  cases hrol : call.rol params.rolId with
  | none =>
    rw [hrol] at h
    cases h
  | some rol =>
    rw [hrol] at h
    obtain ⟨email, hemail, h⟩ := bind_eq_ok.mp h
    obtain ⟨userName, huserName, h⟩ := bind_eq_ok.mp h
    obtain ⟨_, -, h⟩ := bind_eq_ok.mp h
    obtain ⟨_, -, h⟩ := bind_eq_ok.mp h
    obtain ⟨_, -, h⟩ := bind_eq_ok.mp h
    obtain ⟨_, -, h⟩ := bind_eq_ok.mp h
    obtain ⟨_, -, h⟩ := bind_eq_ok.mp h
    obtain ⟨_, hensure, h⟩ := bind_eq_ok.mp h
    obtain rfl := Except.ok.inj h
    obtain ⟨hlowered, hemail⟩ := createEmail_ok henv hemail
    obtain ⟨_, -, huserName⟩ := bind_eq_ok.mp huserName
    split_ifs at huserName with hexists
    obtain rfl := Except.ok.inj huserName
    have hname := Bool.eq_false_of_not_eq_true hexists
    exact ⟨rfl, rfl, userNameFree_of_exists (by simp) hname, emailFree_of_exists (by simp) hemail,
      hlowered, matchesScope_of_ensure hensure⟩

end CreateUser

end KomiSaas.Users
