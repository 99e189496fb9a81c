import Mathlib.Data.List.AList
import RpiRobot.DomainObjects

/-!
# JSON-RPC

`JsonRpcHandler` with the records of `Spec.h`: a request is decoded member by member, its
method is looked up and run, and the response is encoded. A request that cannot be decoded
is answered without an id. What methods return and the texts of their exceptions are left
open; `utf8` is the text of a string.
-/

namespace JsonRpcHandler

open DomainObjects (getInt getString)

inductive Code where
  | parseError
  | invalideRequest
  | methodNotFound
  | invalidParams
  | internalError
  | serverError

def Code.value : Code → Int
  | parseError => -32700
  | invalideRequest => -32600
  | methodNotFound => -32601
  | invalidParams => -32602
  | internalError => -32603
  | serverError => -32000

structure JsonRpcRequest where
  method : String
  params : Option Json
  id : Option Int
  jsonrpc : String

structure JsonRcpError (Text : Type) where
  code : Int
  message : Text
  data : Option Json

structure JsonRpcResponse (Value Text : Type) where
  result : Option Value
  error : Option (JsonRcpError Text)
  id : Option Int
  jsonrpc : String

/-! ## Decoding -/

def typeName : Json → String
  | .null => "null"
  | .boolean _ => "boolean"
  | .integer _ => "number"
  | .float _ => "number"
  | .string _ => "string"
  | .array _ => "array"
  | .object _ => "object"

def typeError (expected : String) (j : Json) : String :=
  "[json.exception.type_error.302] type must be " ++ expected ++ ", but is " ++ typeName j

/-- `get<T>` with the text of its exception. -/
def getAs {α : Type} (expected : String) (get? : Json → Option α) (j : Json) : Except String α :=
  match get? j with
  | some a => .ok a
  | none => .error (typeError expected j)

/-- An optional is empty for null. -/
def getOptional {α : Type} (get : Json → Except String α) : Json → Except String (Option α)
  | .null => .ok none
  | j => (get j).map some

/-- `value(key, default)`. -/
def value {α : Type} (get : Json → Except String α) (j : Json) (key : String) (default : α) :
    Except String α :=
  match j with
  | .object members =>
    match members.lookup key with
    | some member => get member
    | none => .ok default
  | _ => .error ("[json.exception.type_error.306] cannot use value() with " ++ typeName j)

def JsonRpcRequest.fromJson (j : Json) : Except String JsonRpcRequest := do
  let method ← value (getAs "string" getString) j "method" ""
  let params ← value (getOptional .ok) j "params" none
  let id ← value (getOptional (getAs "number" getInt)) j "id" none
  let jsonrpc ← value (getAs "string" getString) j "jsonrpc" "2.0"
  return ⟨method, params, id, jsonrpc⟩

/-! ## Encoding -/

def optionalToJson {α : Type} (encode : α → Json) : Option α → Json
  | none => .null
  | some a => encode a

section
variable {Value Text : Type} (encode : Value → Json) (text : Text → Json)

def JsonRcpError.toJson (error : JsonRcpError Text) : Json :=
  .object [("code", .integer error.code), ("data", optionalToJson id error.data),
    ("message", text error.message)]

/-- Only a result and an error that are there are written. -/
def JsonRpcResponse.toJson (response : JsonRpcResponse Value Text) : Json :=
  .object ((response.error.map (fun e => ("error", e.toJson text))).toList ++
    [("id", optionalToJson .integer response.id), ("jsonrpc", .string response.jsonrpc)] ++
    (response.result.map (fun result => ("result", encode result))).toList)
end

/-! ## Methods -/

section
variable {Value Text : Type} {T : Type}

/-- `RpcMethod::handle`, which may throw, return a value or return nothing. -/
abbrev RpcMethod (Value Text : Type) := Option Json → Except Text (Option Value)

/-- The four kinds of methods, by what their parameters are read as and what they run. -/
def rpcFunction (read : Option Json → Except Text T) (exec : T → Except Text Value) :
    RpcMethod Value Text := fun params => do
  let inc ← read params
  return some (← exec inc)

def rpcConsumer (read : Option Json → Except Text T) (exec : T → Except Text Unit) :
    RpcMethod Value Text := fun params => do
  let inc ← read params
  exec inc
  return none

def rpcSupplier (exec : Except Text Value) : RpcMethod Value Text := fun _ => do
  return some (← exec)

def rpcExec (exec : Except Text Unit) : RpcMethod Value Text := fun _ => do
  exec
  return none

abbrev RpcRegistry (Value Text : Type) := AList (fun _ : String => RpcMethod Value Text)

def addMethod (name : String) (method : RpcMethod Value Text) (registry : RpcRegistry Value Text) :
    RpcRegistry Value Text :=
  registry.insert name method

def findMethod (name : String) (registry : RpcRegistry Value Text) :
    Option (RpcMethod Value Text) :=
  registry.lookup name

/-! ## The handler -/

variable (utf8 : String → Text)

def failed (code : Code) (message : Text) (id : Option Int) (jsonrpc : String) :
    JsonRpcResponse Value Text :=
  ⟨none, some ⟨code.value, message, none⟩, id, jsonrpc⟩

/-- `handle` of a decoded request. -/
def handleRequest (registry : RpcRegistry Value Text) (request : JsonRpcRequest) :
    JsonRpcResponse Value Text :=
  match findMethod request.method registry with
  | some method =>
    match method request.params with
    | .ok result => ⟨result, none, request.id, request.jsonrpc⟩
    | .error what => failed .internalError what request.id "2.0"
  | none => failed .methodNotFound (utf8 "Method not found") request.id request.jsonrpc

/-- `handle` of the body of a request, from what parsing it gives. -/
def handle (registry : RpcRegistry Value Text) (parsed : Except Text Json) :
    JsonRpcResponse Value Text :=
  match parsed with
  | .error what => failed .internalError what none "2.0"
  | .ok jreq =>
    match JsonRpcRequest.fromJson jreq with
    | .error what => failed .internalError (utf8 what) none "2.0"
    | .ok request => handleRequest utf8 registry request

/-! ## The shape of a response -/

/-- The response carries the id, and one of result and error. -/
def WellShaped (id : Int) (response : Json) : Prop :=
  response.member? "id" = some (.integer id) ∧
    ((response.member? "result").isSome ↔ ¬(response.member? "error").isSome)

def paramsOf (members : List (String × Json)) : Option Json :=
  match members.lookup "params" with
  | some .null => none
  | params => params

/-- What a request needs for a well-shaped response. -/
structure Answerable (registry : RpcRegistry Value Text) (members : List (String × Json))
    (method : String) (id : Int) : Prop where
  inRange : DecimalText.intMin ≤ id ∧ id ≤ DecimalText.intMax
  version : ∀ j, members.lookup "jsonrpc" = some j → ∃ s, j = .string s
  returns : ∀ rpc, findMethod method registry = some rpc → rpc (paramsOf members) ≠ .ok none

variable {members : List (String × Json)} {method : String} {n : Int}
  {registry : RpcRegistry Value Text} {encode : Value → Json} {text : Text → Json}

lemma bmod_eq_iff :
    n.bmod (2 ^ 32) = n ↔ DecimalText.intMin ≤ n ∧ n ≤ DecimalText.intMax := by
  rw [DecimalText.intMin, DecimalText.intMax]
  constructor
  · intro h
    have hlow := Int.le_bmod (x := n) (m := 2 ^ 32) (by decide)
    have hhigh := Int.bmod_le (x := n) (m := 2 ^ 32) (by decide)
    rw [h] at hlow hhigh
    norm_num at hlow hhigh
    omega
  · rintro ⟨hlow, hhigh⟩
    exact Int.bmod_eq_of_le (by omega) (by omega)

lemma value_params : value (getOptional .ok) (.object members) "params" none
    = .ok (paramsOf members) := by
  simp only [value, paramsOf]
  rcases members.lookup "params" with _ | j
  · rfl
  · cases j <;> rfl

/-- A request with a method and an id is decoded just if its version is a text. -/
lemma fromJson_eq (hmethod : members.lookup "method" = some (.string method))
    (hid : members.lookup "id" = some (.integer n)) :
    JsonRpcRequest.fromJson (.object members)
      = (value (getAs "string" getString) (.object members) "jsonrpc" "2.0").map
          (fun s => ⟨method, paramsOf members, some (n.bmod (2 ^ 32)), s⟩) := by
  have hname : value (getAs "string" getString) (.object members) "method" "" = .ok method := by
    simp only [value, hmethod]
    rfl
  have hnumber : value (getOptional (getAs "number" getInt)) (.object members) "id" none
      = .ok (some (n.bmod (2 ^ 32))) := by
    simp only [value, hid]
    rfl
  rw [JsonRpcRequest.fromJson, hname, value_params, hnumber]
  cases value (getAs "string" getString) (.object members) "jsonrpc" "2.0" with
  | error e => rfl
  | ok s => rfl

lemma version_cases (members : List (String × Json)) :
    ((∀ j, members.lookup "jsonrpc" = some j → ∃ s, j = .string s) ∧
      ∃ s, value (getAs "string" getString) (.object members) "jsonrpc" "2.0" = .ok s) ∨
    ((¬∀ j, members.lookup "jsonrpc" = some j → ∃ s, j = .string s) ∧
      ∃ e, value (getAs "string" getString) (.object members) "jsonrpc" "2.0" = .error e) := by
  simp only [value]
  cases hlookup : members.lookup "jsonrpc" with
  | none => exact .inl ⟨(fun _ h => nomatch h), _, rfl⟩
  | some j =>
    cases hstring : getString j with
    | none =>
      refine .inr ⟨fun h => ?_, typeError "string" j, by simp only [getAs, hstring]⟩
      obtain ⟨s, rfl⟩ := h j rfl
      cases hstring
    | some s =>
      refine .inl ⟨fun j' hj' => ?_, s, by simp only [getAs, hstring]⟩
      obtain rfl := Option.some.inj hj'
      cases j with
      | string s' => exact ⟨s', rfl⟩
      | _ => cases hstring

variable (encode text) in
/-- What the members of an encoded response are. -/
lemma toJson_members (response : JsonRpcResponse Value Text) :
    (response.toJson encode text).member? "id" = some (optionalToJson .integer response.id) ∧
      (((response.toJson encode text).member? "result").isSome ↔ response.result.isSome) ∧
      (((response.toJson encode text).member? "error").isSome ↔ response.error.isSome) := by
  obtain ⟨result, error, id, jsonrpc⟩ := response
  cases result <;> cases error <;>
    simp [JsonRpcResponse.toJson, Json.member?, List.lookup_cons]

lemma wellShaped_iff (response : JsonRpcResponse Value Text) :
    WellShaped n (response.toJson encode text) ↔
      response.id = some n ∧ (response.result.isSome ↔ ¬response.error.isSome) := by
  obtain ⟨hid, hresult, herror⟩ := toJson_members encode text response
  rw [WellShaped, hid, hresult, herror]
  have hsame : some (optionalToJson Json.integer response.id) = some (.integer n) ↔
      response.id = some n := by
    cases response.id <;> simp [optionalToJson]
  rw [hsame]

variable (registry) in
/-- What a decoded request is answered with. -/
lemma handleRequest_spec (request : JsonRpcRequest) :
    (handleRequest utf8 registry request).id = request.id ∧
      (((handleRequest utf8 registry request).result.isSome ↔
          ¬(handleRequest utf8 registry request).error.isSome) ↔
        ∀ rpc, findMethod request.method registry = some rpc → rpc request.params ≠ .ok none) := by
  unfold handleRequest
  cases hfind : findMethod request.method registry with
  | none => exact ⟨rfl, by simp [failed]⟩
  | some rpc =>
    cases hresult : rpc request.params with
    | error what => simp [failed, hresult]
    | ok result => cases result <;> simp [hresult]

/-- A request with a method and an id gets a response of the right shape just if its id is
an `int`, its version is a text and its method does not return nothing. -/
theorem response_shape_iff (utf8 : String → Text) (encode : Value → Json) (text : Text → Json)
    (registry : RpcRegistry Value Text) (members : List (String × Json)) (method : String)
    (n : Int) (hmethod : members.lookup "method" = some (.string method))
    (hid : members.lookup "id" = some (.integer n)) :
    WellShaped n ((handle utf8 registry (.ok (.object members))).toJson encode text) ↔
      Answerable registry members method n := by
  rw [wellShaped_iff]
  have hdecoded := fromJson_eq hmethod hid
  rcases version_cases members with ⟨hversion, s, hs⟩ | ⟨hversion, e, he⟩
  · have hhandle : handle utf8 registry (.ok (.object members)) = handleRequest utf8 registry
        ⟨method, paramsOf members, some (n.bmod (2 ^ 32)), s⟩ := by
      simp only [handle, hdecoded, hs, Except.map]
    obtain ⟨hsame, hshape⟩ := handleRequest_spec utf8 registry
      ⟨method, paramsOf members, some (n.bmod (2 ^ 32)), s⟩
    rw [hhandle, hsame, hshape, Option.some.injEq, bmod_eq_iff]
    exact ⟨fun ⟨hrange, hreturns⟩ => ⟨hrange, hversion, hreturns⟩,
      fun h => ⟨h.inRange, h.returns⟩⟩
  · have hhandle : handle utf8 registry (.ok (.object members))
        = failed .internalError (utf8 e) none "2.0" := by
      simp only [handle, hdecoded, he, Except.map]
    rw [hhandle]
    exact ⟨fun h => absurd h.1 (by simp [failed]), fun h => absurd h.version hversion⟩

end

/-! Methods that return nothing. -/

def ping (id : Int) : Json := .object [("id", .integer id), ("method", .string "ping")]

def pings (method : RpcMethod Json String) : RpcRegistry Json String := addMethod "ping" method ∅

theorem response_shape_ping :
    WellShaped 7 ((handle id (pings (rpcSupplier (.ok .null))) (.ok (ping 7))).toJson id .string) :=
  (response_shape_iff id id .string (pings (rpcSupplier (.ok .null))) _ "ping" 7 rfl rfl).mpr
    { inRange := by decide
      version := fun _ h => nomatch h
      returns := by
        intro rpc hrpc
        have hfind : findMethod "ping" (pings (rpcSupplier (.ok .null)))
            = some (rpcSupplier (.ok .null)) := AList.lookup_insert ∅
        obtain rfl := Option.some.inj (hfind.symm.trans hrpc)
        exact fun h => nomatch h }

/-- A method that runs and returns nothing is answered with neither result nor error. -/
theorem exec_without_result :
    ¬WellShaped 7 ((handle id (pings (rpcExec (.ok ()))) (.ok (ping 7))).toJson id .string) := by
  have hfind : findMethod "ping" (pings (rpcExec (.ok ()))) = some (rpcExec (.ok ())) :=
    AList.lookup_insert ∅
  have hhandle : handle id (pings (rpcExec (.ok ()))) (.ok (ping 7))
      = ⟨none, none, some 7, "2.0"⟩ := by
    have hdecoded : JsonRpcRequest.fromJson (ping 7) = .ok ⟨"ping", none, some 7, "2.0"⟩ := rfl
    simp only [handle, hdecoded, handleRequest, hfind]
    rfl
  rw [hhandle, wellShaped_iff]
  simp

end JsonRpcHandler
