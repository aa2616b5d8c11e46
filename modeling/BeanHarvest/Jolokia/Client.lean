import BeanHarvest.Attribute.Kind
import BeanHarvest.Http
import BeanHarvest.Jolokia.Decoding
import BeanHarvest.Jolokia.Request
import BeanHarvest.Jolokia.Response
import BeanHarvest.Target.Basic
import BeanHarvest.Url.Basic

/-! Clients of the Jolokia protocol. A client remembers what beans declare, until it is closed or
connects anew; a closed client sends nothing. To an agent clients are targets. -/
namespace BeanHarvest.Jolokia

/-- What became of a request: it was answered, it took too long, or it could not be sent. -/
inductive Delivery where
  | answered (status : Nat) (body : String)
  | timedOut
  | failed (reason : String)
deriving DecidableEq, Repr

/-- What becomes of a request that nobody takes at its address. The name and the password in an
address are not told. -/
def Delivery.untaken (address : String) : Delivery :=
  match Url.parse address with
  | .ok url =>
    .failed ((if url.isOfWeb then "error sending request" else "builder error")
      ++ " for url (" ++ url.withoutUser.text ++ ")")
  | .error _ => .failed "builder error"

structure BeanInfo where
  className : Option String
  attributes : List AttributeInfo
deriving DecidableEq, Repr

structure Client where
  url : String
  timeout : Nat
  known : Keyed BeanInfo
  isClosed : Bool
deriving Repr

/-- A piece of a client's work that sends at most one request. -/
inductive Exchange (α : Type) where
  | done (result : α)
  | post (request : Request) (next : Delivery → α)

namespace Exchange

def map {α β : Type} (change : α → β) : Exchange α → Exchange β
  | done result => done (change result)
  | post request next => post request (change ∘ next)

def run {α : Type} (deliver : Request → Delivery) : Exchange α → α
  | done result => result
  | post request next => next (deliver request)

end Exchange

namespace BeanInfo

def anyType : String := "java.lang.Object"

def textField? (json : Json) (key : String) : Option String :=
  match json with
  | .object fields =>
    match lookup? fields key with
    | some (.string text) => some text
    | _ => none
  | _ => none

/-- Read what a bean declares; what is not there is left out. -/
def ofJson (json : Json) : BeanInfo where
  className := textField? json "class"
  attributes :=
    match json with
    | .object fields =>
      match lookup? fields "attr" with
      | some (.object attributes) =>
        attributes.map fun (name, info) => ⟨name, (textField? info "type").getD anyType⟩
      | _ => []
    | _ => []

end BeanInfo

namespace Client

/-- A client for an address; slashes at its end do not count. -/
def ofUrl (url : String) (timeout : Nat) : Client :=
  ⟨String.ofList (url.toList.reverse.dropWhile (· = '/')).reverse, timeout, [], false⟩

/-- What an answer over HTTP says. -/
def responseOf (client : Client) : Delivery → Except ConnectionFault Response
  | .timedOut => .error (.timeout (some client.timeout))
  | .failed reason => .error (.io reason)
  | .answered status body =>
    let refusal := client.url ++ " answered " ++ Http.statusText status
    if status = 401 || status = 403 then .error (.authentication refusal)
    else if status < 200 || 300 ≤ status then .error (.io refusal)
    else match Response.parse? body with
      | some response => .ok response
      | none => .error (.protocol "malformed response")

def send (client : Client) (request : Request) :
    Exchange (Except ConnectionFault Response) :=
  if client.isClosed then .done (.error .closed) else .post request client.responseOf

/-- The names of beans in the value of a search; names that cannot be read are left out. -/
def beansOf : Json → Except ConnectionFault (List Bean)
  | .array names => .ok (names.filterMap fun
    | .string name => Bean.parse? name
    | _ => none)
  | _ => .error (.protocol "search response is not a list")

/-- The beans whose names match a pattern, or all. -/
def search (client : Client) (scope : Option String) :
    Exchange (Except ConnectionFault (List Bean)) :=
  let pattern := scope.getD "*:*"
  (client.send (.search pattern)).map fun answer => do
    beansOf (← (← answer).outcome pattern none)

/-- What a bean declares; it is asked for once. -/
def info (client : Client) (bean : Bean) :
    Exchange (Except ConnectionFault BeanInfo × Client) :=
  match Keyed.get? client.known bean.name with
  | some info => .done (.ok info, client)
  | none =>
    (client.send (.list (listPath bean))).map fun answer =>
      match answer.bind (·.outcome bean.name none) with
      | .ok json =>
        let info := BeanInfo.ofJson json
        (.ok info, { client with known := Keyed.insert client.known bean.name info })
      | .error fault => (.error fault, client)

def attributes (client : Client) (bean : Bean) :
    Exchange (Except ConnectionFault (List AttributeInfo) × Client) :=
  (client.info bean).map fun (result, client) => (result.map (·.attributes), client)

def className (client : Client) (bean : Bean) :
    Exchange (Except ConnectionFault String × Client) :=
  (client.info bean).map fun (result, client) =>
    (result.bind fun info =>
      match info.className with
      | some name => .ok name
      | none => .error (.protocol ("no class reported for " ++ bean.name)), client)

/-- The kind of an attribute, as far as it is known without asking. -/
def knownKind? (client : Client) (bean : Bean) (name : String) : Option AttributeKind := do
  let info ← Keyed.get? client.known bean.name
  let declared ← info.attributes.find? (·.name = name)
  AttributeKind.ofType? declared.type

/-- The value of an attribute. Rows are made out only if it is known to be a table. -/
def read (client : Client) (bean : Bean) (name : String) :
    Exchange (Except ConnectionFault LiveValue) :=
  (client.send (.read bean.name name)).map fun answer => do
    let json ← (← answer).outcome bean.name (some name)
    if client.knownKind? bean name = some .tabular then .ok (LiveValue.tableOfJson json)
    else .ok (LiveValue.ofJson json)

def isAlive (client : Client) : Exchange Bool :=
  (client.send .version).map fun
    | .ok response => response.status = 200
    | .error _ => false

def close (client : Client) : Client := { client with known := [], isClosed := true }

def reopen (client : Client) : Client := { client with known := [], isClosed := false }

/-- Connect anew: the target has to answer. -/
def reconnect (client : Client) : Exchange (Except ConnectionFault Unit × Client) :=
  let client := client.reopen
  (client.send .version).map fun answer =>
    ((answer.bind (·.outcome client.url none)).map fun _ => (), client)

def take (client : Client) : (call : Call) → Exchange (call.Outcome × Client)
  | .connect => client.reconnect
  | .query scope => (client.search scope).map (·, client)
  | .attributes bean => client.attributes bean
  | .className bean => client.className bean
  | .read bean name => (client.read bean name).map (·, client)
  | .close => .done (.ok (), client.close)

end Client

/-- Clients as targets, over a line that delivers their requests without taking time. -/
def endpoint (deliver : Client → Request → Delivery) : Target Client where
  reply client call :=
    let (outcome, after) := (client.take call).run (deliver client)
    ⟨outcome, 0, after⟩

/-- Clients of addresses at which nobody takes a request. -/
def deadEndpoint : Target Client := endpoint fun client _ => Delivery.untaken client.url

end BeanHarvest.Jolokia
