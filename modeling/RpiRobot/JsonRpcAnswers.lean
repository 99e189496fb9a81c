import Mathlib.Data.List.Infix
import RpiRobot.HttpRouter
import RpiRobot.JsonRpcHandler
import RpiRobot.Utf8Bytes

/-!
# What JSON-RPC answers

The handler of `POST /rpc` from the bytes of a body to those of the answer. Whatever goes
wrong before the answer is written has one error code, and what goes wrong while it is
written is not answered: texts of exceptions may hold bytes that are no UTF-8, and then
`dump` throws outside of the handler's `try`.

The parser of the JSON library is a parameter. The text of its exception holds the bytes of
the body that it could not read.
-/

namespace JsonRpcAnswers

open DomainObjects (getInt getString)
open JsonRpcHandler
open Utf8Bytes

/-- What the parser throws: its text has the offending bytes between fixed texts. -/
structure ParseFailure where
  before : String
  offending : ByteArray
  after : String

def ParseFailure.what (e : ParseFailure) : ByteArray :=
  e.before.toUTF8 ++ e.offending ++ e.after.toUTF8

abbrev Parser := ByteArray → Except ParseFailure Json

section
variable {Value : Type} (parse : Parser) (registry : RpcRegistry Value ByteArray)
  (body : ByteArray)

/-- The response that the handler makes for a body. -/
def respond : JsonRpcResponse Value ByteArray :=
  handle String.toUTF8 registry ((parse body).mapError ParseFailure.what)

def errorCode : Option Int := (respond parse registry body).error.map JsonRcpError.code

end

/-! ## The codes -/

inductive IsNumber : Json → Prop where
  | integer (n : Int) : IsNumber (.integer n)
  | float (q : ℚ) : IsNumber (.float q)

/-- A request with this method: its members have the types of `JsonRpcRequest`. -/
structure ValidRequest (j : Json) (method : String) : Prop where
  method : j.member? "method" = some (.string method)
  id : ∀ v, j.member? "id" = some v → v = .null ∨ IsNumber v
  jsonrpc : ∀ v, j.member? "jsonrpc" = some v → ∃ s, v = .string s

/-- The params of a request that is an object. -/
def requestParams (j : Json) : Option Json :=
  match j with
  | .object members => paramsOf members
  | _ => none

/-- The codes mean what is written beside them in `Spec.h`, and a registered method that
does not fail gives no error. -/
structure Classified {Value : Type} (parse : Parser) (registry : RpcRegistry Value ByteArray)
    (body : ByteArray) : Prop where
  parseError : errorCode parse registry body = some Code.parseError.value ↔
    ∃ e, parse body = .error e
  invalideRequest : errorCode parse registry body = some Code.invalideRequest.value ↔
    ∃ j, parse body = .ok j ∧ ¬∃ method, ValidRequest j method
  methodNotFound : errorCode parse registry body = some Code.methodNotFound.value ↔
    ∃ j method, parse body = .ok j ∧ ValidRequest j method ∧ findMethod method registry = none
  failure : ∀ j method rpc, parse body = .ok j → ValidRequest j method →
    findMethod method registry = some rpc → errorCode parse registry body ≠ none →
      ∃ what, rpc (requestParams j) = .error what

section
variable {Value : Type} {parse : Parser} {registry : RpcRegistry Value ByteArray}
  {body : ByteArray} {j : Json} {method : String}

lemma ValidRequest.object (h : ValidRequest j method) : ∃ members, j = .object members := by
  cases j with
  | object members => exact ⟨members, rfl⟩
  | _ => cases h.method

/-- A number and null are read as an id. -/
lemma value_id {members : List (String × Json)}
    (h : ∀ v, members.lookup "id" = some v → v = .null ∨ IsNumber v) :
    ∃ id, value (getOptional (getAs "number" getInt)) (.object members) "id" none = .ok id := by
  simp only [value]
  cases hlookup : members.lookup "id" with
  | none => exact ⟨none, rfl⟩
  | some v =>
    rcases h v hlookup with rfl | ⟨n⟩ | ⟨q⟩
    · exact ⟨none, rfl⟩
    · exact ⟨some (n.bmod (2 ^ 32)), rfl⟩
    · exact ⟨some ((q.num.tdiv q.den).bmod (2 ^ 32)), rfl⟩

/-- A valid request is decoded. -/
lemma fromJson_valid (h : ValidRequest j method) :
    ∃ id s, JsonRpcRequest.fromJson j = .ok ⟨method, requestParams j, id, s⟩ := by
  obtain ⟨members, rfl⟩ := h.object
  have hmethod : members.lookup "method" = some (.string method) := h.method
  have hname : value (getAs "string" getString) (.object members) "method" "" = .ok method := by
    simp only [value, hmethod]
    rfl
  obtain ⟨id, hid⟩ := value_id h.id
  rcases version_cases members with ⟨-, s, hs⟩ | ⟨hversion, -⟩
  · refine ⟨id, s, ?_⟩
    rw [JsonRpcRequest.fromJson, hname, value_params, hid, hs]
    rfl
  · exact absurd h.jsonrpc hversion

variable (registry) in
/-- A valid request is handled with its method and its params. -/
lemma respond_valid (hparse : parse body = .ok j) (h : ValidRequest j method) :
    ∃ id s, respond parse registry body =
      handleRequest String.toUTF8 registry ⟨method, requestParams j, id, s⟩ := by
  obtain ⟨id, s, hdecoded⟩ := fromJson_valid h
  refine ⟨id, s, ?_⟩
  simp only [respond, hparse, Except.mapError, handle, hdecoded]

/-- The code of the response to a call of what has been found for its method. -/
def callCode (found : Option (RpcMethod Value ByteArray)) (params : Option Json) : Option Int :=
  match found with
  | none => some Code.methodNotFound.value
  | some rpc =>
    match rpc params with
    | .ok _ => none
    | .error _ => some Code.internalError.value

lemma handleRequest_code (request : JsonRpcRequest) :
    (handleRequest String.toUTF8 registry request).error.map JsonRcpError.code =
      callCode (findMethod request.method registry) request.params := by
  unfold handleRequest callCode
  cases findMethod request.method registry with
  | none => rfl
  | some rpc =>
    cases hrpc : rpc request.params with
    | error what => simp [failed, hrpc]
    | ok result => simp [hrpc]

lemma callCode_cases (found : Option (RpcMethod Value ByteArray)) (params : Option Json) :
    callCode found params = none ∨ callCode found params = some Code.methodNotFound.value ∨
      callCode found params = some Code.internalError.value := by
  cases found with
  | none => exact .inr (.inl rfl)
  | some rpc =>
    cases hrpc : rpc params with
    | error what => exact .inr (.inr (by simp [callCode, hrpc]))
    | ok result => exact .inl (by simp [callCode, hrpc])

variable (parse registry body) in
/-- No other code is ever given. -/
lemma errorCode_cases :
    errorCode parse registry body = none ∨
      errorCode parse registry body = some Code.methodNotFound.value ∨
      errorCode parse registry body = some Code.internalError.value := by
  rw [errorCode, respond]
  cases parse body with
  | error e => exact .inr (.inr rfl)
  | ok j =>
    simp only [Except.mapError, handle]
    cases JsonRpcRequest.fromJson j with
    | error what => exact .inr (.inr rfl)
    | ok request =>
      simp only [handleRequest_code]
      exact callCode_cases _ _

lemma errorCode_ne {n : Int} (h : ∀ code ∈ [none, some Code.methodNotFound.value,
    some Code.internalError.value], code ≠ some n) : errorCode parse registry body ≠ some n := by
  rcases errorCode_cases parse registry body with hcode | hcode | hcode <;>
    exact hcode ▸ h _ (by simp)

variable (registry) in
/-- A valid request has the code of its method. -/
lemma errorCode_valid (hparse : parse body = .ok j) (h : ValidRequest j method) :
    errorCode parse registry body = callCode (findMethod method registry) (requestParams j) := by
  obtain ⟨id, s, hrespond⟩ := respond_valid registry hparse h
  rw [errorCode, hrespond]
  exact handleRequest_code _

/-- A request has one method. -/
lemma ValidRequest.unique {method' : String} (h : ValidRequest j method)
    (h' : ValidRequest j method') : method' = method := by
  have hsame := h'.method.symm.trans h.method
  simpa using hsame

/-- The codes of a valid request are the documented ones. -/
lemma classified_valid (hparse : parse body = .ok j) (h : ValidRequest j method) :
    Classified parse registry body := by
  have hcode := errorCode_valid registry hparse h
  refine ⟨?_, ?_, ?_, ?_⟩
  · refine iff_of_false (errorCode_ne (by decide)) ?_
    rintro ⟨e, he⟩
    cases hparse.symm.trans he
  · refine iff_of_false (errorCode_ne (by decide)) ?_
    rintro ⟨j', hj', hinvalid⟩
    obtain rfl := Except.ok.inj (hparse.symm.trans hj')
    exact hinvalid ⟨method, h⟩
  · rw [hcode]
    constructor
    · intro hfound
      refine ⟨j, method, hparse, h, ?_⟩
      cases hmethod : findMethod method registry with
      | none => rfl
      | some rpc =>
        rw [hmethod] at hfound
        cases hrpc : rpc (requestParams j) <;> simp [callCode, hrpc, Code.value] at hfound
    · rintro ⟨j', method', hj', h', hnone⟩
      obtain rfl := Except.ok.inj (hparse.symm.trans hj')
      obtain rfl := h.unique h'
      rw [hnone]
      rfl
  · intro j' method' rpc hj' h' hfound hsome
    obtain rfl := Except.ok.inj (hparse.symm.trans hj')
    obtain rfl := h.unique h'
    rw [hcode, hfound] at hsome
    cases hrpc : rpc (requestParams j) with
    | error what => exact ⟨what, rfl⟩
    | ok result => exact absurd (by simp [callCode, hrpc]) hsome

/-- The codes mean what they are documented to mean just for valid requests: a body that is
no JSON and a request that is not valid never have the codes of their own. -/
theorem error_codes_iff (parse : Parser) (registry : RpcRegistry Value ByteArray)
    (body : ByteArray) :
    Classified parse registry body ↔ ∃ j method, parse body = .ok j ∧ ValidRequest j method := by
  constructor
  · intro h
    cases hparse : parse body with
    | error e => exact absurd (h.parseError.mpr ⟨e, hparse⟩) (errorCode_ne (by decide))
    | ok j =>
      by_contra hnone
      have hinvalid : ¬∃ method, ValidRequest j method :=
        fun ⟨method, hvalid⟩ => hnone ⟨j, method, rfl, hvalid⟩
      exact errorCode_ne (by decide) (h.invalideRequest.mpr ⟨j, hparse, hinvalid⟩)
  · rintro ⟨j, method, hparse, h⟩
    exact classified_valid hparse h

end

def emptyObject : ByteArray := ⟨#[0x7B, 0x7D]⟩

/-- The parser on the empty object and on a single byte that starts no value. -/
def readBody : Parser := fun body =>
  if body.data.toList = emptyObject.data.toList then .ok (.object [])
  else .error ⟨"[json.exception.parse_error.101] parse error at line 1, column 1: " ++
    "syntax error while parsing value - invalid literal; last read: '", body, "'"⟩

/-- A request without a method is answered as if its method were missing in the registry. -/
theorem no_method_not_found :
    errorCode readBody (∅ : RpcRegistry Json ByteArray) emptyObject = some (-32601) ∧
      ¬Classified readBody (∅ : RpcRegistry Json ByteArray) emptyObject := by
  have hparse : readBody emptyObject = .ok (.object []) := if_pos rfl
  have hcode : errorCode readBody (∅ : RpcRegistry Json ByteArray) emptyObject = some (-32601) := by
    rw [errorCode, respond, hparse]
    rfl
  refine ⟨hcode, fun h => ?_⟩
  obtain ⟨j, method, hj, hvalid, -⟩ := h.methodNotFound.mp hcode
  obtain rfl := Except.ok.inj (hparse.symm.trans hj)
  cases hvalid.method

/-! ## The answer -/

inductive Thrown where
  | outOfRange
  | typeError
  deriving DecidableEq, Repr

/-- A body is a text or what `dump` writes for a value. -/
inductive Body where
  | text (s : String)
  | dumped (j : Json)

structure HttpStringResponse where
  status : Nat
  contentType : String
  body : Body

structure HttpRequest where
  method : HttpRouter.Method
  contentType : Option String
  body : ByteArray

def HttpRequest.isJson (contentType : String) : Bool :=
  decide ("application/json".toList <:+: contentType.toList)

section
variable {Value : Type}

/-- The error with its message as a text, if the message is one. -/
def decodeError (error : JsonRcpError ByteArray) : Option (JsonRcpError String) :=
  (String.fromUTF8? error.message).map fun message => ⟨error.code, message, error.data⟩

/-- The response with its result and its error as JSON, if no string in it has bytes that are
no UTF-8; `encode` is undefined for such results. -/
def decodeResponse (encode : Value → Option Json) (response : JsonRpcResponse Value ByteArray) :
    Option (JsonRpcResponse Json String) := do
  let result ← response.result.mapM encode
  let error ← response.error.mapM decodeError
  return ⟨result, error, response.id, response.jsonrpc⟩

/-- `dump` throws for a string that is no UTF-8. -/
def dump (encode : Value → Option Json) (response : JsonRpcResponse Value ByteArray) :
    Except Thrown Json :=
  match decodeResponse encode response with
  | some response => .ok (response.toJson id .string)
  | none => .error .typeError

/-- `at` throws where the request has no content type. -/
def handleHttp (parse : Parser) (encode : Value → Option Json)
    (registry : RpcRegistry Value ByteArray) (request : HttpRequest) :
    Except Thrown HttpStringResponse :=
  if request.method ≠ .post then
    .ok ⟨400, "text/plain", .text "json-rpc support only post requests"⟩
  else
    match request.contentType with
    | none => .error .outOfRange
    | some contentType =>
      if HttpRequest.isJson contentType then
        (dump encode (respond parse registry request.body)).map fun j => ⟨200, "", .dumped j⟩
      else
        .ok ⟨400, "text/plain", .text "json-rpc support only application/json content-type"⟩

/-- A response object: a version, an id, and one of a result and an error. -/
structure IsResponse (j : Json) : Prop where
  jsonrpc : ∃ s, j.member? "jsonrpc" = some (.string s)
  id : j.member? "id" = some .null ∨ ∃ n, j.member? "id" = some (.integer n)
  one : (j.member? "result").isSome ↔ ¬(j.member? "error").isSome
  error : ∀ e, j.member? "error" = some e →
    (∃ n, e.member? "code" = some (.integer n)) ∧ ∃ s, e.member? "message" = some (.string s)

/-- The handler returns with a response object. -/
def Answers (parse : Parser) (encode : Value → Option Json)
    (registry : RpcRegistry Value ByteArray) (request : HttpRequest) : Prop :=
  ∃ response j, handleHttp parse encode registry request = .ok response ∧
    response.body = .dumped j ∧ IsResponse j

/-- Everything that gets into the response is text, and the method returns something. -/
structure Speaks (parse : Parser) (encode : Value → Option Json)
    (registry : RpcRegistry Value ByteArray) (body : ByteArray) : Prop where
  offending : ∀ e, parse body = .error e → e.offending.IsValidUTF8
  thrown : ∀ j request rpc what, parse body = .ok j → JsonRpcRequest.fromJson j = .ok request →
    findMethod request.method registry = some rpc → rpc request.params = .error what →
      what.IsValidUTF8
  returned : ∀ j request rpc result, parse body = .ok j →
    JsonRpcRequest.fromJson j = .ok request → findMethod request.method registry = some rpc →
      rpc request.params = .ok result → ∃ v, result = some v ∧ (encode v).isSome

variable {parse : Parser} {encode : Value → Option Json}
  {registry : RpcRegistry Value ByteArray} {body : ByteArray}

/-- What a response needs to be written as a response object. -/
structure Writable (encode : Value → Option Json) (response : JsonRpcResponse Value ByteArray) :
    Prop where
  one : response.result.isSome ↔ ¬response.error.isSome
  result : ∀ v, response.result = some v → (encode v).isSome
  error : ∀ e, response.error = some e → e.message.IsValidUTF8

lemma toJson_isResponse (response : JsonRpcResponse Json String)
    (hone : response.result.isSome ↔ ¬response.error.isSome) :
    IsResponse (response.toJson id .string) := by
  obtain ⟨hid, hresult, herror⟩ := toJson_members id .string response
  refine ⟨?_, ?_, ?_, ?_⟩
  · obtain ⟨result, error, id, jsonrpc⟩ := response
    cases result <;> cases error <;>
      simp [JsonRpcResponse.toJson, Json.member?, List.lookup_cons]
  · rw [hid]
    cases response.id with
    | none => exact .inl rfl
    | some n => exact .inr ⟨n, rfl⟩
  · rw [hresult, herror]
    exact hone
  · intro e he
    obtain ⟨result, error, id, jsonrpc⟩ := response
    cases error with
    | none => cases result <;> simp [JsonRpcResponse.toJson, Json.member?, List.lookup_cons] at he
    | some error =>
      have hsame : error.toJson .string = e := by
        cases result <;>
          simpa [JsonRpcResponse.toJson, Json.member?, List.lookup_cons] using he
      subst hsame
      exact ⟨⟨error.code, rfl⟩, error.message, rfl⟩

lemma decodeError_isSome (e : JsonRcpError ByteArray) :
    (decodeError e).isSome ↔ e.message.IsValidUTF8 := by
  rw [decodeError, Option.isSome_map, fromUTF8?_isSome]

variable (encode) in
/-- A response can be decoded just if its result and its message can. -/
lemma decodeResponse_isSome (response : JsonRpcResponse Value ByteArray) :
    (decodeResponse encode response).isSome ↔
      (∀ v, response.result = some v → (encode v).isSome) ∧
        ∀ e, response.error = some e → e.message.IsValidUTF8 := by
  obtain ⟨result, error, id, jsonrpc⟩ := response
  simp only [← decodeError_isSome]
  cases result with
  | none =>
    cases error with
    | none => simp [decodeResponse]
    | some e => cases he : decodeError e <;> simp [decodeResponse, he]
  | some v =>
    cases error with
    | none => cases hv : encode v <;> simp [decodeResponse, hv]
    | some e =>
      cases hv : encode v <;> cases he : decodeError e <;> simp [decodeResponse, hv, he]

lemma mapM_isSome {α β : Type} {f : α → Option β} {o : Option α} {o' : Option β}
    (h : o.mapM f = some o') : o'.isSome ↔ o.isSome := by
  cases o with
  | none =>
    obtain rfl : none = o' := Option.some.inj h
    rfl
  | some a =>
    cases hf : f a with
    | none => simp [hf] at h
    | some b =>
      obtain rfl : some b = o' := by simpa [hf] using h
      rfl

/-- Decoding keeps what a response has. -/
lemma decodeResponse_shape {response : JsonRpcResponse Value ByteArray}
    {decoded : JsonRpcResponse Json String} (h : decodeResponse encode response = some decoded) :
    (decoded.result.isSome ↔ response.result.isSome) ∧
      (decoded.error.isSome ↔ response.error.isSome) := by
  simp only [decodeResponse, Option.bind_eq_bind, Option.bind_eq_some_iff, Option.pure_def,
    Option.some.injEq] at h
  obtain ⟨result, hresult, error, herror, rfl⟩ := h
  exact ⟨mapM_isSome hresult, mapM_isSome herror⟩

/-- A response is written as a response object just if it is writable. -/
lemma dump_iff (response : JsonRpcResponse Value ByteArray) :
    (∃ j, dump encode response = .ok j ∧ IsResponse j) ↔ Writable encode response := by
  have hsome := decodeResponse_isSome encode response
  unfold dump
  cases hdecoded : decodeResponse encode response with
  | none =>
    rw [hdecoded] at hsome
    refine iff_of_false (by rintro ⟨j, hj, -⟩; cases hj) ?_
    exact fun h => absurd (hsome.mpr ⟨h.result, h.error⟩) (by decide)
  | some decoded =>
    rw [hdecoded] at hsome
    obtain ⟨hresult, herror⟩ := decodeResponse_shape hdecoded
    constructor
    · rintro ⟨j, hj, hresponse⟩
      obtain rfl := Except.ok.inj hj
      obtain ⟨-, hr, he⟩ := toJson_members id .string decoded
      have hone := hresponse.one
      rw [hr, he, hresult, herror] at hone
      obtain ⟨hencoded, hvalid⟩ := hsome.mp rfl
      exact ⟨hone, hencoded, hvalid⟩
    · intro h
      refine ⟨_, rfl, toJson_isResponse decoded ?_⟩
      rw [hresult, herror]
      exact h.one

/-! What the handler's own texts need. -/

lemma failed_writable (code : Code) (message : ByteArray) (id : Option Int) (jsonrpc : String) :
    Writable encode (failed code message id jsonrpc) ↔ message.IsValidUTF8 := by
  constructor
  · exact fun h => h.error _ rfl
  · intro h
    refine ⟨by simp [failed], (fun v hv => nomatch hv), fun e he => ?_⟩
    obtain rfl := Option.some.inj he
    exact h

/-- The text of a parse error is text just if the offending bytes are. -/
lemma what_isValidUTF8 (e : ParseFailure) : e.what.IsValidUTF8 ↔ e.offending.IsValidUTF8 := by
  have hbefore : e.before.toUTF8.IsValidUTF8 := e.before.isValidUTF8
  have hafter : e.after.toUTF8.IsValidUTF8 := e.after.isValidUTF8
  rw [ParseFailure.what, isValidUTF8_append_right hafter, isValidUTF8_append_left hbefore]

/-- A method that has been called speaks text, and returns something. -/
def CallSpeaks (encode : Value → Option Json) (found : Option (RpcMethod Value ByteArray))
    (params : Option Json) : Prop :=
  ∀ rpc, found = some rpc →
    (∀ what, rpc params = .error what → what.IsValidUTF8) ∧
      ∀ result, rpc params = .ok result → ∃ v, result = some v ∧ (encode v).isSome

lemma handleRequest_writable (request : JsonRpcRequest) :
    Writable encode (handleRequest String.toUTF8 registry request) ↔
      CallSpeaks encode (findMethod request.method registry) request.params := by
  unfold handleRequest CallSpeaks
  cases findMethod request.method registry with
  | none =>
    refine iff_of_true ?_ (fun _ h => nomatch h)
    exact (failed_writable _ _ _ _).mpr ("Method not found".isValidUTF8)
  | some rpc =>
    simp only [Option.some.injEq, forall_eq']
    cases hrpc : rpc request.params with
    | error what =>
      simp only [failed_writable, Except.error.injEq, forall_eq', reduceCtorEq, false_implies,
        implies_true, and_true]
    | ok result =>
      simp only [reduceCtorEq, false_implies, implies_true, true_and, Except.ok.injEq, forall_eq']
      constructor
      · intro h
        obtain ⟨v, hv⟩ := Option.isSome_iff_exists.mp (h.one.mpr (by simp))
        exact ⟨v, hv, h.result v hv⟩
      · rintro ⟨v, rfl, hv⟩
        refine ⟨by simp, fun v' hv' => ?_, fun e he => nomatch he⟩
        obtain rfl := Option.some.inj hv'
        exact hv

variable (parse registry body) in
lemma respond_writable :
    Writable encode (respond parse registry body) ↔ Speaks parse encode registry body := by
  unfold respond
  cases hparse : parse body with
  | error e =>
    simp only [Except.mapError, handle, failed_writable, what_isValidUTF8]
    constructor
    · intro h
      refine ⟨fun e' he' => ?_, ?_, ?_⟩
      · obtain rfl := Except.error.inj (hparse.symm.trans he')
        exact h
      · exact fun j _ _ _ hj => by cases hparse.symm.trans hj
      · exact fun j _ _ _ hj => by cases hparse.symm.trans hj
    · exact fun h => h.offending e hparse
  | ok j =>
    simp only [Except.mapError, handle]
    cases hdecoded : JsonRpcRequest.fromJson j with
    | error what =>
      refine iff_of_true ((failed_writable _ _ _ _).mpr what.isValidUTF8) ⟨?_, ?_, ?_⟩
      · exact fun e he => by cases hparse.symm.trans he
      · intro j' request _ _ hj hrequest
        obtain rfl := Except.ok.inj (hparse.symm.trans hj)
        cases hdecoded.symm.trans hrequest
      · intro j' request _ _ hj hrequest
        obtain rfl := Except.ok.inj (hparse.symm.trans hj)
        cases hdecoded.symm.trans hrequest
    | ok request =>
      rw [handleRequest_writable]
      constructor
      · intro h
        refine ⟨?_, ?_, ?_⟩
        · exact fun e he => by cases hparse.symm.trans he
        · intro j' request' rpc what hj hrequest hfound
          obtain rfl := Except.ok.inj (hparse.symm.trans hj)
          obtain rfl := Except.ok.inj (hdecoded.symm.trans hrequest)
          exact (h rpc hfound).1 what
        · intro j' request' rpc result hj hrequest hfound
          obtain rfl := Except.ok.inj (hparse.symm.trans hj)
          obtain rfl := Except.ok.inj (hdecoded.symm.trans hrequest)
          exact (h rpc hfound).2 result
      · exact fun h rpc hfound => ⟨fun what => h.thrown j request rpc what hparse hdecoded hfound,
          fun result => h.returned j request rpc result hparse hdecoded hfound⟩

/-- A request with JSON is answered with what is dumped. -/
lemma answers_dump {contentType : String} (hjson : HttpRequest.isJson contentType = true) :
    Answers parse encode registry ⟨.post, some contentType, body⟩ ↔
      ∃ j, dump encode (respond parse registry body) = .ok j ∧ IsResponse j := by
  have hhandle : handleHttp parse encode registry ⟨.post, some contentType, body⟩ =
      (dump encode (respond parse registry body)).map fun j => ⟨200, "", .dumped j⟩ := by
    simp only [handleHttp, ne_eq, not_true_eq_false, if_false, hjson, if_true]
  rw [Answers, hhandle]
  cases dump encode (respond parse registry body) with
  | error e =>
    refine iff_of_false ?_ ?_
    · rintro ⟨response, j, hresponse, -⟩
      cases hresponse
    · rintro ⟨j, hj, -⟩
      cases hj
  | ok j =>
    constructor
    · rintro ⟨response, j', hresponse, hbody, his⟩
      obtain rfl := Except.ok.inj hresponse
      obtain rfl := Body.dumped.inj hbody
      exact ⟨_, rfl, his⟩
    · rintro ⟨j', hj, his⟩
      obtain rfl := Except.ok.inj hj
      exact ⟨_, _, rfl, rfl, his⟩

/-- A request with JSON is answered with a response object just if everything that gets into
the response is text and the method, if it is called and returns, returns something. -/
theorem answers_iff (parse : Parser) (encode : Value → Option Json)
    (registry : RpcRegistry Value ByteArray) (contentType : String) (body : ByteArray)
    (hjson : HttpRequest.isJson contentType = true) :
    Answers parse encode registry ⟨.post, some contentType, body⟩ ↔
      Speaks parse encode registry body := by
  rw [answers_dump hjson, dump_iff, respond_writable]

end

/-- An empty object is answered: its method is not found. -/
theorem answers_emptyObject :
    Answers readBody some (∅ : RpcRegistry Json ByteArray)
      ⟨.post, some "application/json", emptyObject⟩ := by
  have hparse : readBody emptyObject = .ok (.object []) := if_pos rfl
  refine (answers_iff readBody some ∅ "application/json" emptyObject (by decide)).mpr ⟨?_, ?_, ?_⟩
  · exact fun e he => by cases hparse.symm.trans he
  · intro j request rpc what hj hrequest hfound
    exact nomatch hfound
  · intro j request rpc result hj hrequest hfound
    exact nomatch hfound

/-- The text of the parse error holds the byte that it is about, and `dump` throws. -/
theorem byte_not_answered :
    ¬Answers readBody some (∅ : RpcRegistry Json ByteArray)
      ⟨.post, some "application/json", ⟨#[0xFF]⟩⟩ := by
  have hbyte : ¬ByteArray.IsValidUTF8 ⟨#[0xFF]⟩ := by decide
  have hparse : readBody ⟨#[0xFF]⟩ = .error ⟨_, ⟨#[0xFF]⟩, _⟩ := if_neg (by decide)
  rw [answers_dump (by decide), dump_iff, respond_writable]
  exact fun h => hbyte (h.offending _ hparse)

end JsonRpcAnswers
