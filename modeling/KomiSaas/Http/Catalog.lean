import KomiSaas.Shared.Js

/-!
# The catalogue of responses

* `ResponseStatus`, `ErrorCategory`, `CatalogEntryResponse`: `utils/catalogs.utils.ts`.
* `RESPONSE_CODE`: `utils/constants.utils.ts`.
* `RESPONSE_CATALOG`: `shared/response-catalog.ts`.
-/

namespace KomiSaas.Http

open KomiSaas.Shared

inductive ResponseStatus where
  | success
  | error
  | warn
  | info
  deriving DecidableEq

inductive ErrorCategory where
  | validation
  | notFound
  | conflict
  | unauthorized
  | forbidden
  | unavailable
  deriving DecidableEq

structure CatalogEntryResponse where
  status : ResponseStatus
  category : ErrorCategory
  message : JsString
  deriving DecidableEq

namespace ResponseCode

def validationError : JsString := js "1000"

def notFound : JsString := js "2000"

def internalError : JsString := js "9999"

end ResponseCode

/-- `RESPONSE_CATALOG`. -/
def responseCatalog : List (JsString × CatalogEntryResponse) :=
  [(js "0000", ⟨.success, .validation, js "Operación exitosa."⟩),
    (js "0001", ⟨.info, .validation, js "No se encontraron resultados."⟩),
    (js "0002", ⟨.info, .validation, js "Sucursal no encontrada. "⟩),
    (js "0003", ⟨.info, .validation, js "Tenant no encontrado "⟩),
    (js "0004", ⟨.success, .validation, js "Rol creado exitosamente."⟩),
    (js "0005", ⟨.success, .validation, js "Rol actualizado exitosamente."⟩),
    (js "1000", ⟨.error, .validation, js "Los datos enviados no son válidos."⟩),
    (js "1001", ⟨.error, .unauthorized, js "Necesitas iniciar sesión para hacer esto."⟩),
    (js "1002", ⟨.error, .validation, js "El costo ingresado no es válido."⟩),
    (js "1004", ⟨.error, .validation, js "La operación monetaria no es válida."⟩),
    (js "1005", ⟨.error, .validation, js "El nombre del tenant no es válido."⟩),
    (js "1006", ⟨.error, .validation, js "El NIT del tenant no es válido."⟩),
    (js "1007", ⟨.error, .validation, js "El slug del tenant no es válido."⟩),
    (js "1008", ⟨.error, .validation, js "La descripción del tenant no es válida."⟩),
    (js "1009", ⟨.error, .validation, js "El nombre de la sucursal no es válido."⟩),
    (js "1010", ⟨.error, .validation, js "La dirección de la sucursal no es válida."⟩),
    (js "1011", ⟨.error, .validation, js "El teléfono de la sucursal no es válido."⟩),
    (js "1012", ⟨.error, .validation, js "La ciudad de la sucursal no es válida."⟩),
    (js "1013", ⟨.error, .validation, js "El departamento de la sucursal no es válido."⟩),
    (js "1014", ⟨.error, .validation, js "El identificador no es válido."⟩),
    (js "1015", ⟨.error, .validation, js "La cantidad ingresada no es válida."⟩),
    (js "1016", ⟨.error, .validation, js "El precio debe ser mayor que 0."⟩),
    (js "1017", ⟨.error, .validation, js "El código del rol no es válido."⟩),
    (js "1018", ⟨.error, .validation, js "El nombre del rol no es válido."⟩),
    (js "1019", ⟨.error, .validation, js "El nombre de usuario no es válido."⟩),
    (js "1020", ⟨.error, .validation, js "El correo electrónico no es válido."⟩),
    (js "1021", ⟨.error, .validation, js "La contraseña no es válida."⟩),
    (js "1022", ⟨.error, .validation, js "El apellido del usuario no es válido."⟩),
    (js "1023", ⟨.error, .validation, js "La fecha de nacimiento no es válida."⟩),
    (js "1024", ⟨.error, .validation, js "El sexo del usuario no es válido."⟩),
    (js "1025", ⟨.error, .validation, js "El teléfono del usuario no es válido."⟩),
    (js "1026", ⟨.error, .validation, js "El alcance del rol no es válido."⟩),
    (js "1027",
      ⟨.error, .validation,
        js "Un usuario con rol administrativo no puede pertenecer a una sucursal."⟩),
    (js "1028",
      ⟨.error, .validation, js "Un usuario con rol operativo debe pertenecer a una sucursal."⟩),
    (js "1029", ⟨.error, .validation, js "El nombre completo del usuario no es válido."⟩),
    (js "1030", ⟨.error, .validation, js "No se proporcionaron datos para actualizar el usuario."⟩),
    (js "1031",
      ⟨.error, .validation, js "Debe enviar al menos un campo para actualizar la sucursal."⟩),
    (js "1032", ⟨.error, .validation, js "El valor enviado es igual al actual de la sucursal."⟩),
    (js "1033", ⟨.error, .validation, js "La contraseña actual no es correcta."⟩),
    (js "1034",
      ⟨.error, .validation, js "No estás autorizado para cambiar la contraseña de este usuario."⟩),
    (js "1035", ⟨.error, .validation, js "El estado enviado no es válido."⟩),
    (js "1036", ⟨.error, .validation, js "El registro ya se encuentra en ese estado."⟩),
    (js "1037", ⟨.error, .validation, js "El cambio de estado no está permitido."⟩),
    (js "1100", ⟨.error, .unauthorized, js "Las credenciales proporcionadas no son válidas."⟩),
    (js "1101",
      ⟨.error, .unauthorized,
        js "La cuenta se encuentra inactiva. Ponte en contacto con un administrador."⟩),
    (js "1102",
      ⟨.error, .unauthorized,
        js "El negocio se encuentra inactivo. Ponte en contacto con un administrador."⟩),
    (js "1104", ⟨.error, .unauthorized, js "La sesión no es válida. Vuelve a iniciar sesión."⟩),
    (js "1105", ⟨.error, .unauthorized, js "La sesión no es válida. Vuelve a iniciar sesión."⟩),
    (js "1106", ⟨.error, .unauthorized, js "La sesión no es válida. Vuelve a iniciar sesión."⟩),
    (js "1107", ⟨.error, .forbidden, js "No tienes acceso a los datos de este negocio."⟩),
    (js "1109", ⟨.error, .forbidden, js "La petición no viene de un origen permitido."⟩),
    (js "1202", ⟨.error, .conflict, js "El NIT del tenant ya se encuentra registrado."⟩),
    (js "1203", ⟨.error, .conflict, js "El slug del tenant ya se encuentra registrado."⟩),
    (js "1204", ⟨.error, .conflict, js "El nombre del tenant ya se encuentra registrado."⟩),
    (js "1205", ⟨.error, .notFound, js "El tenant indicado no existe."⟩),
    (js "1206", ⟨.error, .conflict, js "El nombre de la sucursal ya se encuentra registrado."⟩),
    (js "1207", ⟨.error, .notFound, js "La sucursal indicada no existe."⟩),
    (js "1208", ⟨.error, .notFound, js "El nombre del rol ya se encuentra registrado."⟩),
    (js "1209", ⟨.error, .notFound, js "El código del rol ya se encuentra registrado."⟩),
    (js "1210", ⟨.error, .notFound, js "El rol indicado no existe."⟩),
    (js "1211", ⟨.error, .notFound, js "El nombre de usuario ya se encuentra registrado."⟩),
    (js "1212", ⟨.error, .notFound, js "El correo electrónico ya se encuentra registrado."⟩),
    (js "1213", ⟨.error, .notFound, js "El usuario ya se encuentra activo."⟩),
    (js "1214", ⟨.error, .notFound, js "El usuario ya se encuentra inactivo."⟩),
    (js "1215", ⟨.error, .notFound, js "El usuario ya se encuentra inactivo."⟩),
    (js "1216", ⟨.error, .conflict, js "La sucursal ya se encuentra desactivada."⟩),
    (js "1217", ⟨.error, .conflict, js "La sucursal ya se encuentra activa."⟩),
    (js "1300", ⟨.error, .validation, js "El nombre del item no es válido."⟩),
    (js "1301", ⟨.error, .validation, js "La unidad de medida no es válida."⟩),
    (js "1302", ⟨.error, .conflict, js "El nombre del item ya se encuentra registrado."⟩),
    (js "1303", ⟨.error, .notFound, js "El item de inventario no existe."⟩),
    (js "1304", ⟨.error, .conflict, js "El item está inactivo."⟩),
    (js "1305", ⟨.error, .notFound, js "El tenant indicado no existe."⟩),
    (js "1310", ⟨.error, .validation, js "La cantidad recibida del lote no es válida."⟩),
    (js "1311", ⟨.error, .conflict, js "No hay cantidad suficiente en el lote."⟩),
    (js "1312", ⟨.error, .validation, js "La fecha de vencimiento no es válida."⟩),
    (js "1313", ⟨.error, .validation, js "El item perecedero requiere fecha de vencimiento."⟩),
    (js "1314", ⟨.error, .notFound, js "El lote indicado no existe en el item."⟩),
    (js "1320", ⟨.error, .validation, js "La cantidad a consumir debe ser mayor a cero."⟩),
    (js "1321", ⟨.error, .conflict, js "Stock insuficiente para completar la operación."⟩),
    (js "1322", ⟨.error, .validation, js "Debe indicar el motivo de la operación."⟩),
    (js "1323", ⟨.error, .validation, js "No hay diferencia que ajustar."⟩),
    (js "1324",
      ⟨.error, .conflict,
        js "El sobrante del conteo debe registrarse como una entrada de mercancía."⟩),
    (js "1325", ⟨.error, .validation, js "La cantidad del movimiento debe ser mayor a cero."⟩),
    (js "1326", ⟨.error, .validation, js "Este tipo de movimiento requiere un motivo."⟩),
    (js "1327", ⟨.error, .validation, js "El tipo de movimiento no es soportado."⟩),
    (js "1330", ⟨.error, .conflict, js "Debe especificar una sucursal para esta operación."⟩),
    (js "1331", ⟨.error, .validation, js "Una sucursal aparece repetida en la configuración."⟩),
    (js "1332", ⟨.error, .notFound, js "La sucursal indicada no existe."⟩),
    (js "1340",
      ⟨.error, .validation,
        js "Debe indicar el mínimo global, una sucursal o un listado de sucursales."⟩),
    (js "1341", ⟨.error, .validation, js "Debe indicar la cantidad mínima para la sucursal."⟩),
    (js "1350",
      ⟨.error, .conflict, js "No se puede cambiar la unidad de medida; el item ya tiene lotes."⟩),
    (js "1351",
      ⟨.error, .conflict, js "No se puede cambiar la perecibilidad; el item ya tiene lotes."⟩),
    (js "1352", ⟨.error, .validation, js "Debe enviar al menos un campo para actualizar."⟩),
    (js "1400", ⟨.error, .notFound, js "No se ha encontrado información del producto solicitado."⟩),
    (js "1401", ⟨.error, .validation, js "El nombre del producto es inválido."⟩),
    (js "1402", ⟨.error, .conflict, js "Ya existe un producto registrado con ese nombre."⟩),
    (js "1403",
      ⟨.error, .conflict, js "No se pudo obtener el siguiente valor de la secuencia de SKU."⟩),
    (js "1404", ⟨.error, .validation, js "El producto ya se encuentra inactivo."⟩),
    (js "1405", ⟨.error, .validation, js "El producto ya se encuentra activo."⟩),
    (js "1406", ⟨.error, .validation, js "El producto fue eliminado y no se puede modificar."⟩),
    (js "1407",
      ⟨.error, .validation, js "El margen de beneficio debe ser mayor que 0 y menor que 100."⟩),
    (js "1408", ⟨.error, .validation, js "No se encontraron cambios para actualizar el producto."⟩),
    (js "1409", ⟨.error, .validation, js "El negocio es obligatorio para buscar productos."⟩),
    (js "1410", ⟨.error, .notFound, js "La sucursal no existe o no está disponible."⟩),
    (js "1411", ⟨.error, .validation, js "El precio de venta no corresponde al margen objetivo."⟩),
    (js "1412",
      ⟨.error, .validation, js "El margen objetivo debe ser mayor o igual a 0 y menor que 100."⟩),
    (js "1413", ⟨.error, .validation, js "Un insumo de la receta no tiene costo registrado."⟩),
    (js "1421",
      ⟨.error, .validation,
        js "La configuración de la sucursal debe indicar el precio, el estado o ambos."⟩),
    (js "1422",
      ⟨.error, .notFound, js "La sucursal no tiene una configuración para este producto."⟩),
    (js "1423", ⟨.error, .validation, js "Una sucursal aparece repetida en la lista."⟩),
    (js "1441", ⟨.error, .notFound, js "No se encontró la categoría."⟩),
    (js "1442", ⟨.error, .conflict, js "Ya existe una categoría registrada con ese nombre."⟩),
    (js "1443", ⟨.error, .validation, js "La categoría ya se encuentra activada."⟩),
    (js "1444", ⟨.error, .validation, js "La categoría ya se encuentra desactivada."⟩),
    (js "1445",
      ⟨.error, .validation, js "El nombre de la categoría debe tener al menos 2 caracteres."⟩),
    (js "1446",
      ⟨.error, .validation, js "El nombre de la categoría debe tener como máximo 120 caracteres."⟩),
    (js "1447",
      ⟨.error, .validation, js "El negocio es obligatorio para operar sobre categorías."⟩),
    (js "1461",
      ⟨.error, .validation,
        js "El ingrediente seleccionado ya se encuentra agregado a la receta."⟩),
    (js "1462", ⟨.error, .notFound, js "El ingrediente no se encuentra agregado a la receta."⟩),
    (js "1463",
      ⟨.error, .notFound, js "El ingrediente seleccionado no está disponible para este negocio."⟩),
    (js "1464", ⟨.error, .validation, js "La cantidad del ingrediente debe ser mayor que cero."⟩),
    (js "1600", ⟨.error, .validation, js "El título del menú debe tener al menos 2 caracteres."⟩),
    (js "1601",
      ⟨.error, .validation, js "El título del menú debe tener como máximo 120 caracteres."⟩),
    (js "1602", ⟨.error, .validation, js "El tipo de menú no es válido."⟩),
    (js "1603", ⟨.error, .validation, js "La jerarquía del menú no es válida."⟩),
    (js "1604", ⟨.error, .validation, js "El código del menú no es válido."⟩),
    (js "2000", ⟨.error, .notFound, js "El recurso solicitado no existe."⟩),
    (js "2001", ⟨.warn, .conflict, js "El item ya se encuentra registrado."⟩),
    (js "9999", ⟨.error, .unavailable, js "Ocurrió un error inesperado. Intente más tarde."⟩)]

/-- The entry of `RESPONSE_CODE.INTERNAL_ERROR`. -/
def internalEntry : CatalogEntryResponse :=
  ⟨.error, .unavailable, js "Ocurrió un error inesperado. Intente más tarde."⟩

/-- `RESPONSE_CATALOG[code]`. -/
def entryOf (code : JsString) : Option CatalogEntryResponse :=
  (responseCatalog.find? fun entry => entry.1 = code).map Prod.snd

end KomiSaas.Http
