import KomiSaas.Shared.Js
import KomiSaas.Lib.Errors

/-!
# `UserAggregate`

* `UserException`: `user/domain/exceptions/user-exceptions.ts`, with the
  exception of the role scope (`rol/domain`).
* The value objects: `user/domain/value-object/`.
* The aggregate: `user/domain/user.aggregate.ts`, with the methods that the
  modelled use cases call.
-/

namespace KomiSaas.Users

open KomiSaas.Lib KomiSaas.Shared

/-- The exceptions of the use cases that change a user. -/
inductive UserException where
  | invalidUserName (reason : JsString)
  | invalidUserEmail (reason : JsString)
  | invalidUserPassword (reason : JsString)
  | invalidUserBirthDate (reason : JsString)
  | invalidUserSex (reason : JsString)
  | invalidUserPhone (reason : JsString)
  | invalidRolScope (reason : JsString)
  | administrativeUserCannotBelongToBranch
  | operationalUserRequiresBranch
  | emptyUpdate
  | incorrectCurrentPassword
  | unauthorizedPasswordChange
  | userBranchNotFound (branchId : Uuid)
  | userRolNotFound (rolId : Uuid)
  | userNameAlreadyExists (userName : JsString)
  | userEmailAlreadyExists (email : JsString)
  | userAlreadyActive
  | userAlreadyInactive
  | userNotFound (id : Uuid)
  deriving DecidableEq

namespace UserException

/-- The `code` of each exception. -/
def code : UserException → JsString
  | .invalidUserName _ => js "1019"
  | .invalidUserEmail _ => js "1020"
  | .invalidUserPassword _ => js "1021"
  | .invalidUserBirthDate _ => js "1023"
  | .invalidUserSex _ => js "1024"
  | .invalidUserPhone _ => js "1025"
  | .invalidRolScope _ => js "1026"
  | .administrativeUserCannotBelongToBranch => js "1027"
  | .operationalUserRequiresBranch => js "1028"
  | .emptyUpdate => js "1030"
  | .incorrectCurrentPassword => js "1033"
  | .unauthorizedPasswordChange => js "1034"
  | .userBranchNotFound _ => js "1207"
  | .userRolNotFound _ => js "1210"
  | .userNameAlreadyExists _ => js "1211"
  | .userEmailAlreadyExists _ => js "1212"
  | .userAlreadyActive => js "1213"
  | .userAlreadyInactive => js "1214"
  | .userNotFound _ => js "1215"

/-- The `detail` of each exception. -/
def detail : UserException → JsString
  | .invalidUserName reason => js "El nombre de usuario es inválido " ++ reason ++ js "."
  | .invalidUserEmail reason => js "El correo electrónico es inválido " ++ reason ++ js "."
  | .invalidUserPassword reason => js "La contraseña es inválida " ++ reason ++ js "."
  | .invalidUserBirthDate reason => js "La fecha de nacimiento es inválida " ++ reason ++ js "."
  | .invalidUserSex reason => js "El sexo del usuario es inválido " ++ reason ++ js "."
  | .invalidUserPhone reason => js "El teléfono es inválido " ++ reason ++ js "."
  | .invalidRolScope reason => js "El alcance del rol es inválido " ++ reason ++ js "."
  | .administrativeUserCannotBelongToBranch =>
    js "Un usuario con rol administrativo no puede pertenecer a una sucursal."
  | .operationalUserRequiresBranch =>
    js "Un usuario con rol operativo debe pertenecer a una sucursal."
  | .emptyUpdate => js "No se proporcionaron datos para actualizar el usuario."
  | .incorrectCurrentPassword => js "La contraseña actual no es correcta."
  | .unauthorizedPasswordChange =>
    js "El usuario no tiene permisos para cambiar la contraseña de otro usuario."
  | .userBranchNotFound branchId =>
    js "La sucursal '" ++ branchId ++ js "' no existe o no está disponible."
  | .userRolNotFound rolId => js "El rol '" ++ rolId ++ js "' no existe."
  | .userNameAlreadyExists userName =>
    js "El nombre de usuario '" ++ userName ++ js "' ya se encuentra registrado."
  | .userEmailAlreadyExists email =>
    js "El correo electrónico '" ++ email ++ js "' ya se encuentra registrado."
  | .userAlreadyActive => js "El usuario ya se encuentra activo."
  | .userAlreadyInactive => js "El usuario ya se encuentra inactivo."
  | .userNotFound id => js "No existe un usuario con id '" ++ id ++ js "'."

end UserException

/-! ## Value objects -/

/-- `/^[a-zA-Z0-9._-]+$/`, of one character. -/
def UserName.isAllowed (c : UInt16) : Bool :=
  isSmallLetter c || isCapital c || isDigit c || c ∈ js "._-"

structure UserName where
  value : JsString
  minLength : 3 ≤ value.length
  maxLength : value.length ≤ 30
  pattern : value.all UserName.isAllowed = true
  deriving DecidableEq

/-- `UserName.create`. -/
def UserName.create (raw : JsString) : Except UserException UserName :=
  if hmin : (trim raw).length < 3 then .error (.invalidUserName (js "mínimo 3 caracteres"))
  else if hmax : 30 < (trim raw).length then
    .error (.invalidUserName (js "máximo 30 caracteres"))
  else if hpattern : (trim raw).all UserName.isAllowed = true then
    .ok ⟨trim raw, not_lt.mp hmin, not_lt.mp hmax, hpattern⟩
  else
    .error (.invalidUserName (js "solo puede contener letras, números, punto, guion y guion bajo"))

/-- `/^[^\s@]+@[^\s@]+\.[^\s@]{2,}$/`: around the only `@` there are plain
    characters, and after it a dot that is neither the first nor one of the last
    two of them. -/
def UserEmail.matchesPattern (value : JsString) : Bool :=
  let isPlain := fun c => !isWhiteSpace c && c ≠ 64
  match value.dropWhile isPlain with
  | [] => false
  | c :: domain =>
    c = 64 && value.takeWhile isPlain ≠ [] && domain.all isPlain &&
      (46 : UInt16) ∈ domain.tail.dropLast.dropLast

@[ext] structure UserEmail where
  value : JsString
  maxLength : value.length ≤ 120
  pattern : UserEmail.matchesPattern value = true

instance : DecidableEq UserEmail := fun _ _ => decidable_of_iff _ UserEmail.ext_iff.symm

/-- `UserEmail.create`. -/
def UserEmail.create (toLowerCase : JsString → JsString) (raw : JsString) :
    Except UserException UserEmail :=
  let value := toLowerCase (trim raw)
  if value = [] then .error (.invalidUserEmail (js "porque no puede estar vacío"))
  else if hmax : 120 < value.length then .error (.invalidUserEmail (js "máximo 120 caracteres"))
  else if hpattern : UserEmail.matchesPattern value = true then
    .ok ⟨value, not_lt.mp hmax, hpattern⟩
  else .error (.invalidUserEmail (js "porque no tiene un formato válido"))

/-- `/^[0-9+\-\s()]+$/`, of one character. -/
def UserPhone.isAllowed (c : UInt16) : Bool := isDigit c || isWhiteSpace c || c ∈ js "+-()"

structure UserPhone where
  value : JsString
  minLength : 7 ≤ value.length
  maxLength : value.length ≤ 15
  pattern : value.all UserPhone.isAllowed = true
  deriving DecidableEq

/-- `UserPhone.create`. -/
def UserPhone.create (raw : JsString) : Except UserException UserPhone :=
  if hmin : (trim raw).length < 7 then .error (.invalidUserPhone (js "mínimo 7 caracteres"))
  else if hmax : 15 < (trim raw).length then .error (.invalidUserPhone (js "máximo 15 caracteres"))
  else if hpattern : (trim raw).all UserPhone.isAllowed = true then
    .ok ⟨trim raw, not_lt.mp hmin, not_lt.mp hmax, hpattern⟩
  else .error (.invalidUserPhone (js "contiene caracteres no válidos"))

/-- `UserBirthDate`: a valid date. -/
abbrev UserBirthDate := Instant

/-- `UserBirthDate.create`, of the date that was read from the text. -/
def UserBirthDate.create (now : Instant) (raw : JsDate) : Except UserException UserBirthDate :=
  match raw with
  | none => .error (.invalidUserBirthDate (js "la fecha de nacimiento no es válida"))
  | some value =>
    if now < value then
      .error (.invalidUserBirthDate (js "la fecha de nacimiento no puede ser futura"))
    else .ok value

/-- `UserSex`, with the values of `UserSexEnum`. -/
inductive UserSex where
  | male
  | female
  deriving DecidableEq

def UserSex.value : UserSex → JsString
  | .male => js "MALE"
  | .female => js "FEMALE"

/-- `UserSex.create`. -/
def UserSex.create (value : JsString) : Except UserException UserSex :=
  match [UserSex.male, .female].find? fun sex => sex.value = toUpperCase value with
  | none => .error (.invalidUserSex (js "(" ++ value ++ js ")"))
  | some sex => .ok sex

/-- `UserRolScope`, with the values of `UserRolScopeEnum`. -/
inductive UserRolScope where
  | administrative
  | operational
  deriving DecidableEq

def UserRolScope.value : UserRolScope → JsString
  | .administrative => js "ADMINISTRATIVE"
  | .operational => js "OPERATIONAL"

/-- `UserRolScope.create`. -/
def UserRolScope.create (raw : JsString) : Except UserException UserRolScope :=
  match [UserRolScope.administrative, .operational].find? fun scope =>
      scope.value = toUpperCase raw with
  | none => .error (.invalidRolScope raw)
  | some scope => .ok scope

/-- `UserHashedPassword`: a hash of argon2. -/
structure UserHashedPassword where
  value : JsString
  isHash : (js "$argon2").isPrefixOf value = true
  deriving DecidableEq

/-- `UserHashedPassword.fromHash`. -/
def UserHashedPassword.fromHash (hash : JsString) : Except UserException UserHashedPassword :=
  if h : (js "$argon2").isPrefixOf hash = true then .ok ⟨hash, h⟩
  else .error (.invalidUserPassword (js "el valor no es un hash argon2 válido"))

/-- `UserPlainPassword.create`; the value object is the text itself. -/
def UserPlainPassword.create (raw : JsString) : Except UserException JsString :=
  if raw.length < 12 then .error (.invalidUserPassword (js "debe tener mínimo 12 caracteres"))
  else if !raw.any isCapital then
    .error (.invalidUserPassword (js "debe contener al menos una letra mayúscula"))
  else if !raw.any isSmallLetter then
    .error (.invalidUserPassword (js "debe contener al menos una letra minúscula"))
  else if !raw.any isDigit then
    .error (.invalidUserPassword (js "debe contener al menos un número"))
  else .ok raw

/-! ## The aggregate -/

/-- A user. A first name is `null` where the update was sent one. -/
structure UserAggregate where
  id : Uuid
  tenantId : Uuid
  branchId : Option Uuid
  rolId : Uuid
  rolName : JsString
  rolScope : UserRolScope
  userName : UserName
  email : Option UserEmail
  password : UserHashedPassword
  firstName : Option JsString
  secondName : Option JsString
  firstLastName : Option JsString
  secondLastName : Option JsString
  age : UserBirthDate
  sex : UserSex
  phone : UserPhone
  isActive : Bool
  createdAt : Instant
  updatedAt : Instant
  deriving DecidableEq

/-- `UserUpdateParams`: what is `undefined` is `none`, and a name that is `null` is
    `some none`. -/
structure UserUpdateParams where
  userName : Option UserName
  email : Option (Option UserEmail)
  firstName : Option (Option JsString)
  secondName : Option (Option JsString)
  firstLastName : Option (Option JsString)
  secondLastName : Option (Option JsString)
  age : Option UserBirthDate
  sex : Option UserSex
  phone : Option UserPhone
  deriving DecidableEq

/-- Some value of the parameters is not `undefined`. -/
def UserUpdateParams.hasChanges (params : UserUpdateParams) : Bool :=
  params.userName.isSome || params.email.isSome || params.firstName.isSome ||
    params.secondName.isSome || params.firstLastName.isSome || params.secondLastName.isSome ||
    params.age.isSome || params.sex.isSome || params.phone.isSome

namespace UserAggregate

/-- `ensureBranchMatchesRolScope` (lines 158–169). -/
def ensureBranchMatchesRolScope (scope : UserRolScope) (branchId : Option Uuid) :
    Except UserException Unit :=
  if scope = .administrative ∧ branchId ≠ none then .error .administrativeUserCannotBelongToBranch
  else if scope = .operational ∧ branchId = none then .error .operationalUserRequiresBranch
  else .ok ()

/-- `ensureActive` (lines 219–223). -/
def ensureActive (user : UserAggregate) : Except UserException Unit :=
  if !user.isActive then .error .userAlreadyInactive else .ok ()

/-- `changePassword` (lines 234–240). -/
def changePassword (user : UserAggregate) (password : UserHashedPassword) (now : Instant) :
    Except UserException UserAggregate := do
  user.ensureActive
  .ok { user with password := password, updatedAt := now }

/-- `reassign` (lines 264–280). -/
def reassign (user : UserAggregate) (scope : UserRolScope) (rolId : Uuid) (rolName : JsString)
    (branchId : Option Uuid) (now : Instant) : Except UserException UserAggregate := do
  user.ensureActive
  ensureBranchMatchesRolScope scope branchId
  .ok { user with
      rolId := rolId
      rolName := rolName
      rolScope := scope
      branchId := branchId
      updatedAt := now }

/-- `deactivate` (lines 282–289). -/
def deactivate (user : UserAggregate) (now : Instant) : Except UserException UserAggregate :=
  if !user.isActive then .error .userAlreadyInactive
  else .ok { user with isActive := false, updatedAt := now }

/-- `activate` (lines 291–298). -/
def activate (user : UserAggregate) (now : Instant) : Except UserException UserAggregate :=
  if user.isActive then .error .userAlreadyActive
  else .ok { user with isActive := true, updatedAt := now }

/-- `update` (lines 300–349). -/
def update (user : UserAggregate) (params : UserUpdateParams) (now : Instant) :
    Except UserException UserAggregate := do
  user.ensureActive
  if !params.hasChanges then .error .emptyUpdate
  else
    .ok { user with
      userName := params.userName.getD user.userName
      email := params.email.getD user.email
      firstName := params.firstName.getD user.firstName
      secondName := params.secondName.getD user.secondName
      firstLastName := params.firstLastName.getD user.firstLastName
      secondLastName := params.secondLastName.getD user.secondLastName
      age := params.age.getD user.age
      sex := params.sex.getD user.sex
      phone := params.phone.getD user.phone
      updatedAt := now }

end UserAggregate

end KomiSaas.Users
