import VectorQuery.Batch.Deletion
import VectorQuery.Proofs.Filter.Nodes
import VectorQuery.Proofs.Language.Legible
import VectorQuery.Proofs.Number.Rounding

/-!
# Reading filters from JSON

A filter is written as JSON and as a message. What a server understands of the JSON is a message
again: an operator by its name, a path, the operands one by one, and a value by its key, of which a
scalar is read as the scalar member and an array as the array member of its kind. Reading what was
written gives the message of the filter.
-/

namespace VectorQuery

/-! ## The reader -/

/-- The value of a member of a JSON object. -/
def Json.member? (key : String) : Json → Option Json
  | object members => Keyed.get? key members
  | _ => none

namespace Rpc

namespace TestValue

/-- A JSON value as a scalar, or a JSON array as an array. -/
def scalarOrArray? {α : Type} (item? : Json → Option α) (scalar : α → TestValue)
    (array : List α → TestValue) : Json → Option TestValue
  | .array items => (items.mapM item?).map array
  | json => (item? json).map scalar

/-- A JSON number, narrowed to 32 bits. -/
def single? (json : Json) : Option Number.Single := json.double?.map Number.Binary.toSingle

/-- A circle on the globe. -/
def geo? (json : Json) : Option TestValue := do
  let centre ← json.member? "geoCoordinates"
  let distance ← json.member? "distance"
  let latitude ← (centre.member? "latitude").bind single?
  let longitude ← (centre.member? "longitude").bind single?
  let max ← (distance.member? "max").bind single?
  return .geo latitude longitude max

/-- The test value that is written under a key. -/
def ofJson? (key : String) : Json → Option TestValue :=
  match key with
  | "valueInt" => scalarOrArray? Json.int64? .int .ints
  | "valueNumber" => scalarOrArray? Json.double? .number .numbers
  | "valueBoolean" => scalarOrArray? Json.bool? .boolean .booleans
  | "valueString" | "valueText" | "valueDate" => scalarOrArray? Json.string? .text .texts
  | "valueGeoRange" => geo?
  | _ => fun _ => none

end TestValue

namespace Filters

/-- An array of strings. -/
def path? : Json → Option (List String)
  | .array items => items.mapM Json.string?
  | _ => none

/-- A message with what stands under one key of a filter; `operands` are the operands that stand
there, if any do. -/
def put? (m : Filters) (key : String) (json : Json) (operands : Option (List Filters)) :
    Option Filters :=
  if key = "operator" then
    (json.string?.bind Operator.ofName?).map fun operator => { m with operator := operator.code }
  else if key = "path" then (path? json).map fun path => { m with on := path }
  else if key = "operands" then operands.map fun operands => { m with filters := operands }
  else (TestValue.ofJson? key json).map fun value => { m with testValue := some value }

mutual
/-- The message that a filter in JSON is read as. -/
def ofJson? : Json → Option Filters
  | .object members => ofMembers? members
  | _ => none

/-- The message that the members of a filter are read as, one by one. -/
def ofMembers? : List (String × Json) → Option Filters
  | [] => some ⟨0, [], [], none⟩
  | (key, json) :: members => (ofMembers? members).bind fun m => m.put? key json (operands? json)

/-- The messages that an array of filters is read as. -/
def operands? : Json → Option (List Filters)
  | .array items => ofItems? items
  | _ => none

/-- The messages that filters in JSON are read as. -/
def ofItems? : List Json → Option (List Filters)
  | [] => some []
  | item :: items => do
    let m ← ofJson? item
    let ms ← ofItems? items
    return m :: ms
end

end Filters

namespace BatchDeleteRequest

/-- Whether the objects are listed under a name of the output. -/
def verbose? (output : String) : Option Bool :=
  if output = "verbose" then some true else if output = "minimal" then some false else none

/-- The message that a deletion in JSON is read as. Consistency level and tenant are not written
there. -/
def ofJson? (json : Json) : Option BatchDeleteRequest := do
  let selection ← json.member? "match"
  let collection ← (selection.member? "class").bind Json.string?
  let filters ← (selection.member? "where").bind Filters.ofJson?
  let verbose ← ((json.member? "output").bind Json.string?).bind verbose?
  let dryRun ← (json.member? "dryRun").bind Json.bool?
  return { collection, filters := some filters, verbose, dryRun }

end BatchDeleteRequest

end Rpc


/-! ## Values -/

theorem Json.int64?_ofInt64 (n : Int64) : (Json.ofInt64 n).int64? = some n := by
  have hleast : Json.leastSigned ≤ n.toInt := n.le_toInt
  have hbound : n.toInt < Json.signedBound := n.toInt_lt
  have hunsigned : n.toInt < Json.unsignedBound := Int.lt_trans hbound (by decide)
  rw [Json.ofInt64, Json.ofInt, dif_pos ⟨hleast, hunsigned⟩, Json.int64?, if_pos hbound,
    Int64.ofInt_toInt]

theorem Json.double?_ofDouble {x : Number.Double} (h : x.isFinite = true) :
    (Json.ofDouble x).double? = some x := by
  rw [Json.ofDouble, dif_pos h, Json.double?]

theorem mapM_map_eq_some {α β γ : Type} {written : α → γ} {item? : γ → Option β} {item : α → β}
    {values : List α} (h : ∀ x ∈ values, item? (written x) = some (item x)) :
    (values.map written).mapM item? = some (values.map item) := by
  induction values with
  | nil => rfl
  | cons x values ih =>
    rw [List.map_cons, List.mapM_cons, h x (by simp), ih fun y hy => h y (by simp [hy])]
    rfl

namespace FilterValue

open Rpc

/-- Values written as a scalar or as an array are read as the scalar or as the array. -/
theorem scalarOrArray?_json {α β : Type} {json : α → Json} {item? : Json → Option β} {item : α → β}
    {scalar : β → TestValue} {array : List β → TestValue} {asArray : Bool} {values : List α}
    (harray : ∀ items, item? (.array items) = none)
    (h : ∀ x ∈ values, item? (json x) = some (item x)) :
    TestValue.scalarOrArray? item? scalar array (scalarOrArrayJson json asArray values) =
      some (scalarOrArrayTest item scalar array asArray values) := by
  unfold scalarOrArrayJson scalarOrArrayTest
  cases hsingle : single? asArray values with
  | none => simp only [TestValue.scalarOrArray?, mapM_map_eq_some h, Option.map_some]
  | some x =>
    have hx : item? (json x) = some (item x) := h x (single?_mem hsingle)
    have hne : ∀ items, json x ≠ .array items := by
      intro items heq
      rw [heq, harray] at hx
      cases hx
    simp only
    unfold TestValue.scalarOrArray?
    split
    · rename_i items heq
      exact absurd heq (hne items)
    · rw [hx, Option.map_some]

theorem single?_ofSingle {x : Number.Single} (h : x.isFinite = true) :
    TestValue.single? (Json.ofSingle x) = some x := by
  rw [TestValue.single?, Json.ofSingle, Json.double?_ofDouble (Number.Binary.toDouble_spec h).1,
    Option.map_some, Number.Binary.toSingle_toDouble h]

theorem ofJson?_json {v : FilterValue} (h : v.Plain .finite) (asArray : Bool) :
    TestValue.ofJson? v.key (v.json asArray) = some (v.message asArray) := by
  cases v with
  | int values => exact scalarOrArray?_json (fun _ => rfl) fun n _ => Json.int64?_ofInt64 n
  | number values =>
    exact scalarOrArray?_json (fun _ => rfl) fun x hx => Json.double?_ofDouble (h x hx)
  | boolean values => exact scalarOrArray?_json (fun _ => rfl) fun _ _ => rfl
  | string values => exact scalarOrArray?_json (fun _ => rfl) fun _ _ => rfl
  | text values => exact scalarOrArray?_json (fun _ => rfl) fun _ _ => rfl
  | date values => exact scalarOrArray?_json (fun _ => rfl) fun _ _ => rfl
  | geoRange range =>
    obtain ⟨hlatitude, hlongitude, hdistance⟩ := h
    have hcentre : Json.ofMembers [("latitude", .ofSingle range.latitude),
        ("longitude", .ofSingle range.longitude)] = .object [("latitude", .ofSingle range.latitude),
          ("longitude", .ofSingle range.longitude)] := rfl
    have hmembers : ∀ centre reach : Json, Json.ofMembers [("geoCoordinates", centre),
        ("distance", reach)] = .object [("distance", reach), ("geoCoordinates", centre)] :=
      fun _ _ => rfl
    have hreach : Json.ofMembers [("max", .ofSingle range.maxDistance)] =
        .object [("max", .ofSingle range.maxDistance)] := rfl
    simp [key, TestValue.ofJson?, TestValue.geo?, json, message, Json.member?, hcentre, hmembers,
      hreach, Keyed.get?, single?_ofSingle hlatitude, single?_ofSingle hlongitude,
      single?_ofSingle hdistance]

end FilterValue


/-! ## Filters -/

namespace Filter

open Rpc

theorem path?_strings (path : List String) : Filters.path? (Json.strings path) = some path := by
  have h : (path.map Json.string).mapM Json.string? = some (path.map id) :=
    mapM_map_eq_some fun _ _ => rfl
  rwa [List.map_id] at h

theorem ofName?_name (operator : Operator) :
    (Json.string operator.name).string?.bind Operator.ofName? = some operator :=
  Operator.ofName?_name operator

/-- The members in front of a value or of operands. -/
def frontMembers (operator : Option Operator) (path : List String) : List (String × Json) :=
  (operator.toList.map fun operator => ("operator", .string operator.name)) ++
    (if path.isEmpty then [] else [("path", .strings path)])

theorem keys_ordered (v : FilterValue) : ["operator", "path", v.key].Pairwise (· < ·) := by
  cases v <;> dsimp only [FilterValue.key] <;> decide

/-- The members of a leaf are in the order of their keys as they are given. -/
theorem ofMembers_leaf (operator : Option Operator) (path : List String) (v : Option FilterValue)
    (json : FilterValue → Json) :
    Json.ofMembers (frontMembers operator path ++ v.toList.map fun v => (v.key, json v)) =
      .object (frontMembers operator path ++ v.toList.map fun v => (v.key, json v)) := by
  rcases v with _ | v
  · cases operator <;> cases path <;> rfl
  · have hsublist : List.Sublist ((frontMembers operator path ++
        [(v.key, json v)]).map Prod.fst) ["operator", "path", v.key] := by
      cases operator <;> cases path <;> simp [frontMembers]
    have hordered := List.pairwise_map.mp ((keys_ordered v).sublist hsublist)
    exact congrArg Json.object (Keyed.ofList_of_ordered hordered)

/-- Operands come in front of the other members. -/
theorem ofMembers_composite (operator : Option Operator) (path : List String) (json : Json) :
    Json.ofMembers (frontMembers operator path ++ [("operands", json)]) =
      .object (("operands", json) :: frontMembers operator path) := by
  cases operator <;> cases path <;> rfl

theorem ofMembers?_front (operator : Option Operator) (path : List String)
    {members : List (String × Json)} {m : Filters} (h : Filters.ofMembers? members = some m) :
    Filters.ofMembers? (frontMembers operator path ++ members) =
      some { m with
        operator := (operator.map Operator.code).getD m.operator
        on := if path.isEmpty then m.on else path } := by
  rcases m with ⟨_, _, _, _⟩
  cases operator <;> cases path <;>
    simp [frontMembers, Filters.ofMembers?, Filters.put?, path?_strings, ofName?_name, h]

theorem ofJson?_leaf (operator : Option Operator) (path : List String) {value : Option FilterValue}
    {asArray : FilterValue → Bool} (h : ∀ v ∈ value, v.Plain .finite) :
    Filters.ofJson? (.ofMembers (frontMembers operator path ++
      value.toList.map fun v => (v.key, v.json (asArray v)))) =
      some ⟨(operator.map Operator.code).getD 0, path, [],
        value.map fun v => v.message (asArray v)⟩ := by
  have hvalue : Filters.ofMembers? (value.toList.map fun v => (v.key, v.json (asArray v))) =
      some ⟨0, [], [], value.map fun v => v.message (asArray v)⟩ := by
    cases value with
    | none => rfl
    | some v =>
      have hread := FilterValue.ofJson?_json (h v rfl) (asArray v)
      simp [Filters.ofMembers?, Filters.put?, v.key_ne, hread]
  rw [ofMembers_leaf operator path value fun v => v.json (asArray v), Filters.ofJson?,
    ofMembers?_front operator path hvalue]
  cases path <;> rfl

theorem ofJson?_composite (operator : Option Operator) (path : List String) {items : List Json}
    {operands : List Filters} (h : Filters.ofItems? items = some operands) :
    Filters.ofJson? (.ofMembers (frontMembers operator path ++ [("operands", .array items)])) =
      some ⟨(operator.map Operator.code).getD 0, path, operands, none⟩ := by
  have hfront := ofMembers?_front operator path
    (rfl : Filters.ofMembers? [] = some ⟨0, [], [], none⟩)
  rw [List.append_nil] at hfront
  rw [ofMembers_composite, Filters.ofJson?, Filters.ofMembers?, hfront, Filters.operands?, h]
  cases path <;> simp [Filters.put?]

mutual
/-- What a filter is written as in JSON is read as its message. -/
theorem ofJson?_json : ∀ f : Filter, f.Plain .finite → Filters.ofJson? f.json = some f.message
  | ⟨operator, path, value, []⟩, h => by
    rw [Plain] at h
    rw [json, message]
    exact ofJson?_leaf operator path h
  | ⟨operator, path, value, operand :: operands⟩, h => by
    rw [Plain] at h
    rw [json, message]
    refine ofJson?_composite operator path ?_
    rw [Filters.ofItems?, ofJson?_json operand h.1, ofItems?_jsonList operands h.2]
    rfl

theorem ofItems?_jsonList :
    ∀ fs : List Filter, PlainList .finite fs → Filters.ofItems? (jsonList fs) = some (messages fs)
  | [], _ => rfl
  | f :: fs, h => by
    rw [PlainList] at h
    rw [jsonList, Filters.ofItems?, ofJson?_json f h.1, ofItems?_jsonList fs h.2, messages]
    rfl
end

end Filter

/-! ## Deletions -/

/-- What a deletion with a filter is written as in JSON is read as its message, but for what stands
in the address of the request. -/
theorem Deletion.ofJson?_json {d : Deletion} {f : Filter} (hfilter : d.filter = some f)
    (h : f.Plain .finite) : Rpc.BatchDeleteRequest.ofJson? d.json =
      some { d.message with consistencyLevel := none, tenant := "" } := by
  have hread := Filter.ofJson?_json f h
  have hverbose : Rpc.BatchDeleteRequest.verbose? (if d.verbose then "verbose" else "minimal") =
      some d.verbose := by
    cases d.verbose <;> rfl
  have hselection : ∀ className filter : Json, Json.ofMembers [("class", className),
      ("where", filter)] = .object [("class", className), ("where", filter)] := fun _ _ => rfl
  have hmembers : ∀ selection output dryRun : Json, Json.ofMembers [("match", selection),
      ("output", output), ("dryRun", dryRun)] =
        .object [("dryRun", dryRun), ("match", selection), ("output", output)] := fun _ _ _ => rfl
  simp [json, message, hfilter, Rpc.BatchDeleteRequest.ofJson?, Json.member?, hselection, hmembers,
    Keyed.get?, Json.string?, Json.bool?, hread, hverbose]

namespace Filter

/-- A comparison of a name with nothing. -/
def valueless : Filter where
  operator := some .equal
  path := ["name"]

/-- A filter of the objects of some names near a place, with a path that has no meaning. -/
def namedNearby : Filter where
  operator := some .and
  path := ["name"]
  operands :=
    [{ operator := some .containsAny, path := ["name"], value := some (.string ["Margherita"]) },
      { operator := some .withinGeoRange, path := ["place"],
        value := some (.geoRange ⟨.zero, .zero, .zero⟩) }]

/-- A count of these objects. -/
def countNearby : Deletion where
  className := "Pizza"
  filter := some namedNearby
  dryRun := true
  tenant := some "A"

theorem plain_namedNearby : namedNearby.Plain .finite := by
  have hzero : FloatProperty.finite _ (Number.Binary.zero : Number.Single) :=
    (by decide : (Number.Binary.zero : Number.Single).isFinite = true)
  simp [namedNearby, Plain, PlainList, FilterValue.Plain, hzero]

end Filter

end VectorQuery
