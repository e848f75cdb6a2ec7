import DevSecOpsPlatform.PythonValues

/-!
# Validation of AlertManager payloads

`AlertManagerWebhookSerializer`: the fields of the body, each with the errors it reports.
The alerts of the body need only be objects; nothing in them is validated.
-/

namespace DevSecOpsPlatform.AlertManagerPayloads

open PythonValues

/-- The error detail of one message. -/
def detail (message : String) : Json := .arr [.str message]

def nullDetail : Json := detail "This field may not be null."

/-- `CharField.run_validation`. -/
def charField (allowBlank : Bool) : Json → Except Json Unit
  | .str s =>
    if (strip s.toList).isEmpty then
      if allowBlank then .ok () else .error (detail "This field may not be blank.")
    else if s.toList.any Json.isNul then .error (detail "Null characters are not allowed.")
    else .ok ()
  | .null => .error nullDetail
  | .int _ | .float _ => .ok ()
  | _ => .error (detail "Not a valid string.")

def notADict (v : Json) : Json :=
  detail ("Expected a dictionary of items but got type \"" ++ v.typeName ++ "\".")

/-- `DictField(child=CharField())`. -/
def charDictField : Json → Except Json Unit
  | .obj entries =>
    match entries.filterMap (fun e => match charField false e.2 with
      | .ok _ => none
      | .error err => some (e.1, err)) with
    | [] => .ok ()
    | errors => .error (.obj errors)
  | .null => .error nullDetail
  | v => .error (notADict v)

/-- `DictField()`, which takes any values. -/
def anyDictField : Json → Except Json (List (String × Json))
  | .obj entries => .ok entries
  | .null => .error nullDetail
  | v => .error (notADict v)

/-- The errors of the items that are not objects, from the item numbered `n` on. -/
def itemErrors : ℕ → List Json → List (String × Json)
  | _, [] => []
  | n, v :: vs => match anyDictField v with
    | .ok _ => itemErrors (n + 1) vs
    | .error err => (toString n, err) :: itemErrors (n + 1) vs

/-- The entries of the items that are objects. -/
def itemEntries (items : List Json) : List (List (String × Json)) :=
  items.filterMap (fun v => match anyDictField v with
    | .ok entries => some entries
    | .error _ => none)

/-- `ListField(child=DictField())`. -/
def dictListField : Json → Except Json (List (List (String × Json)))
  | .arr items =>
    match itemErrors 0 items with
    | [] => .ok (itemEntries items)
    | errors => .error (.obj errors)
  | .null => .error nullDetail
  | v => .error (detail ("Expected a list of items but got type \"" ++ v.typeName ++ "\"."))

/-- The errors of one field: those of its value, or of its absence when it is required. -/
def fieldErrors {α : Type} (entries : List (String × Json)) (name : String) (required : Bool)
    (field : Json → Except Json α) : List (String × Json) :=
  match entries.lookup name with
  | none => if required then [(name, detail "This field is required.")] else []
  | some v => match field v with
    | .ok _ => []
    | .error err => [(name, err)]

def payloadErrors (entries : List (String × Json)) : List (String × Json) :=
  fieldErrors entries "version" true (charField false) ++
  fieldErrors entries "groupKey" false (charField true) ++
  fieldErrors entries "status" true (charField false) ++
  fieldErrors entries "receiver" true (charField false) ++
  fieldErrors entries "groupLabels" true charDictField ++
  fieldErrors entries "commonLabels" true charDictField ++
  fieldErrors entries "commonAnnotations" true charDictField ++
  fieldErrors entries "externalURL" false (charField true) ++
  fieldErrors entries "alerts" true dictListField

def nonFieldErrors (message : String) : Json := .obj [("non_field_errors", detail message)]

/-- `is_valid`, with the alerts of the validated data or the errors. -/
def validatePayload : Json → Except Json (List (List (String × Json)))
  | .obj entries =>
    match payloadErrors entries with
    | [] => match dictListField (Json.dictGet entries "alerts" (.arr [])) with
      | .ok alerts => .ok alerts
      | .error err => .error err
    | errors => .error (.obj errors)
  | .null => .error (nonFieldErrors "No data provided")
  | v => .error (nonFieldErrors
      ("Invalid data. Expected a dictionary, but got " ++ v.typeName ++ "."))

example : (validatePayload (.obj [("version", .str "4"), ("status", .str "firing"),
    ("receiver", .str "platform"), ("groupLabels", .obj []), ("commonLabels", .obj []),
    ("commonAnnotations", .obj []), ("alerts", .arr [.obj []])])).isOk = true := by decide

end DevSecOpsPlatform.AlertManagerPayloads
