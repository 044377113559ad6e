import InkTime.Webhook.Safety

/-!
# Delivery of webhooks

`PinnedWebhookTransport.post`: the addresses of a destination are tried one after another, up to the first one that a request
is written to. A connection is given by what each of its calls comes to.
-/

namespace InkTime.Webhook

open Checked

structure WebhookResponse where
  statusCode : Int
  headers : List (String × String)
  deriving DecidableEq

/-- What the calls on one connection come to. -/
structure Connection where
  connect : Except Failure Unit
  /-- `connection.sock is not None` -/
  socket : Bool := true
  settimeout : Except Failure Unit := .ok ()
  request : Except Failure Unit
  getresponse : Except Failure Unit
  read : Except Failure Unit
  /-- The status as an integer, and the headers. -/
  response : Except Failure WebhookResponse
  closeResponse : Except Failure Unit := .ok ()
  close : Except Failure Unit := .ok ()

def ConnectionFactory : Type := ResolvedWebhookTarget → String → Except Failure Connection

/-- The arguments of `connection.request`. -/
structure Request where
  requestTarget : String
  body : String
  headers : List (String × String)
  deriving DecidableEq

/-- Calls on the connection to an address. -/
inductive Event where
  | connect (address : String)
  | request (address : String) (request : Request)
  deriving DecidableEq

def Event.isRequest : Event → Bool
  | .connect _ => false
  | .request _ _ => true

/-- A value of the `timeout` tuple; a number is none where it is not finite. -/
inductive Seconds where
  | bool
  | number (value : Option ℚ)
  | other
  deriving DecidableEq

def Seconds.positive : Seconds → Bool
  | .number (some value) => 0 < value
  | _ => false

/-- How one turn of the loop ends. -/
inductive Turn where
  | returned (response : WebhookResponse)
  | raised (failure : Failure)
  | continued (lastError : Failure)
  deriving DecidableEq

namespace Connection

variable (connection : Connection)

/-- `request_may_have_been_sent` -/
def sends : Bool := connection.connect.isOk && connection.socket && connection.settimeout.isOk

/-- `response is not None` -/
def responds : Bool := connection.sends && connection.request.isOk && connection.getresponse.isOk

/-- The statements after the request. -/
def answer : Turn :=
  match connection.request with
  | .error failure => .raised failure
  | .ok () =>
    match connection.getresponse >>= fun _ => connection.read with
    | .error failure => .raised (if failure.isTimeout then .readTimeout "Webhook 等待回應逾時" else failure)
    | .ok () =>
      match connection.response with
      | .error failure => .raised failure
      | .ok response => .returned response

/-- The statements of the outer `try`. -/
def attempt : Turn :=
  match connection.connect with
  | .error failure => if failure.isTimeout then .continued (.connectTimeout "Webhook TCP/TLS 連線逾時") else .raised failure
  | .ok () =>
    if !connection.socket then .continued (.os "Webhook 連線未建立 Socket")
    else
      match connection.settimeout with
      | .error failure => .raised failure
      | .ok () => connection.answer

/-- The `except` clauses of the outer `try`. -/
def handled : Turn → Turn
  | .raised (.readTimeout message) => .raised (.readTimeout message)
  | .raised failure =>
    if (failure.isOs || failure == .http) && !connection.sends then .continued failure else .raised failure
  | turn => turn

/-- The `finally` clause; an exception in it takes the place of what the turn came to. -/
def closing (turn : Turn) : Turn :=
  match (if connection.responds then connection.closeResponse else .ok ()) >>= fun _ => connection.close with
  | .error failure => .raised failure
  | .ok () => turn

def turn : Turn := connection.closing (connection.handled connection.attempt)

def events (address : String) (request : Request) : List Event :=
  .connect address :: if connection.sends then [.request address request] else []

end Connection

/-- The loop over the addresses. -/
def tryAddresses (dial : String → Except Failure Connection) (request : Request) :
    Option Failure → List String → List Event × Except Failure WebhookResponse
  | lastError, [] => ([], .error (lastError.getD (.os "Webhook 沒有可連線的已驗證位址")))
  | _, address :: rest =>
    match dial address with
    | .error failure => ([], .error failure)
    | .ok connection =>
      match connection.turn with
      | .returned response => (connection.events address request, .ok response)
      | .raised failure => (connection.events address request, .error failure)
      | .continued failure =>
        let (later, result) := tryAddresses dial request (some failure) rest
        (connection.events address request ++ later, result)

/-- `headers[name] = value` -/
def setHeader (name value : String) : List (String × String) → List (String × String)
  | [] => [(name, value)]
  | field :: rest => if field.1 = name then (name, value) :: rest else field :: setHeader name value rest

/-- `PinnedWebhookTransport`; the allowlist is that of the environment where none is given. -/
structure PinnedWebhookTransport where
  resolver : Resolver
  connectionFactory : ConnectionFactory
  allowlist : Option (List String)

/-- The arguments of `post`; the body is none where it is no JSON. -/
structure Post where
  url : String
  body : Option String
  headers : List (String × String)
  timeout : Option (List Seconds)
  allowRedirects : Bool

section Post

variable (runtime : Runtime) (environment : String) (transport : PinnedWebhookTransport) (call : Post)

def configured : List String := transport.allowlist.getD (allowlistValues runtime environment)

def resolve (url : String) : Except Failure ResolvedWebhookTarget :=
  resolveWebhookDestination runtime transport.resolver (configured runtime environment transport) url

def requestOf (target : ResolvedWebhookTarget) (body : String) : Request where
  requestTarget := target.requestTarget
  body := body
  headers := setHeader "Host" (httpsAuthority target.hostname target.port)
    (setHeader "Content-Length" (toString body.utf8ByteSize) call.headers)

/-- What is checked and drawn up before the first connection. -/
def prepare : Except Failure (ResolvedWebhookTarget × Request) := do
  require (!call.allowRedirects) (.value "Webhook transport 不允許 Redirect")
  require (call.timeout.any fun timeout => timeout.length == 2 && timeout.all Seconds.positive)
    (.value "Webhook timeout 必須包含正數 connect/read 秒數")
  let target ← resolve runtime environment transport call.url
  let body ← orError call.body .other
  return (target, requestOf call target body)

def post : List Event × Except Failure WebhookResponse :=
  match prepare runtime environment transport call with
  | .error failure => ([], .error failure)
  | .ok (target, request) => tryAddresses (transport.connectionFactory target) request none target.addresses

end Post

/-! ### Destinations -/

section Destinations

variable {runtime : Runtime} {hostname : String} {values : List String}

/-- A webhook may be sent to an address. -/
def permitted (runtime : Runtime) (hostname : String) (values : List String) (address : Address) : Prop :=
  blocked runtime address = false ∨ allowlisted runtime hostname address values = true

/-- Every text is that of a normalized address that a webhook may be sent to. -/
def Permitted (runtime : Runtime) (hostname : String) (values addresses : List String) : Prop :=
  ∀ text ∈ addresses, ∃ address, text = runtime.text address ∧ permitted runtime hostname values address ∧
    ∃ value, normalizedIp runtime value = some address

lemma addRecord_permitted {addresses after : List String} {record : Option String}
    (h : addRecord runtime hostname values addresses record = .ok after)
    (hbefore : Permitted runtime hostname values addresses) : Permitted runtime hostname values after := by
  unfold addRecord at h
  split at h
  · cases h
  · rename_i address haddress
    obtain ⟨value, -, hvalue⟩ := Option.bind_eq_some_iff.mp haddress
    obtain ⟨_, hsafe, h⟩ := bind_eq_ok.mp h
    have hpermitted : permitted runtime hostname values address := by
      have hcheck := require_eq_ok.mp hsafe
      unfold permitted
      cases hblocked : blocked runtime address with
      | false => exact .inl rfl
      | true => simpa [hblocked] using hcheck
    obtain rfl := Except.ok.inj h
    split
    · exact hbefore
    · intro text htext
      obtain htext | htext := List.mem_append.mp htext
      · exact hbefore text htext
      · exact ⟨address, List.mem_singleton.mp htext, hpermitted, value, hvalue⟩

lemma addRecords_permitted {records : List (Option String)} {addresses after : List String}
    (h : records.foldlM (addRecord runtime hostname values) addresses = .ok after)
    (hbefore : Permitted runtime hostname values addresses) : Permitted runtime hostname values after := by
  induction records generalizing addresses with
  | nil =>
    obtain rfl := Except.ok.inj h
    exact hbefore
  | cons record rest ih =>
    rw [List.foldlM_cons] at h
    obtain ⟨next, hnext, hrest⟩ := bind_eq_ok.mp h
    exact ih hrest (addRecord_permitted hnext hbefore)

/-- A resolved destination has permitted addresses only. -/
theorem resolve_permitted {resolver : Resolver} {url : String} {target : ResolvedWebhookTarget}
    (h : resolveWebhookDestination runtime resolver values url = .ok target) :
    Permitted runtime target.hostname values target.addresses := by
  obtain ⟨⟨parsed, host, port⟩, -, h⟩ := bind_eq_ok.mp h
  obtain ⟨records, -, h⟩ := bind_eq_ok.mp h
  obtain ⟨addresses, haddresses, h⟩ := bind_eq_ok.mp h
  obtain ⟨_, -, h⟩ := bind_eq_ok.mp h
  obtain rfl := Except.ok.inj h
  apply addRecords_permitted haddresses
  intro text htext
  cases htext

end Destinations

/-! ### Turns -/

section Turns

variable {connection : Connection}

/-- After a request no turn goes on to a further address. -/
lemma turn_of_sends (h : connection.sends = true) (failure : Failure) : connection.turn ≠ .continued failure := by
  have hsends := h
  unfold Connection.sends at hsends
  rw [Bool.and_eq_true, Bool.and_eq_true] at hsends
  obtain ⟨⟨hconnect, hsocket⟩, hsettimeout⟩ := hsends
  obtain ⟨_, hconnect⟩ := isOk_iff.mp hconnect
  obtain ⟨_, hsettimeout⟩ := isOk_iff.mp hsettimeout
  have hattempt : connection.attempt = connection.answer := by
    unfold Connection.attempt
    simp only [hconnect, hsocket, hsettimeout, Bool.not_true, Bool.false_eq_true, if_false]
  have hanswer : ∀ lastError, connection.answer ≠ .continued lastError := by
    intro lastError
    unfold Connection.answer
    split
    · exact Turn.noConfusion
    · split
      · exact Turn.noConfusion
      · split
        · exact Turn.noConfusion
        · exact Turn.noConfusion
  have hhandled : ∀ lastError, connection.handled connection.attempt ≠ .continued lastError := by
    intro lastError
    rw [hattempt]
    unfold Connection.handled
    split
    · exact Turn.noConfusion
    · rw [h, Bool.not_true, Bool.and_false, if_neg Bool.false_ne_true]
      exact Turn.noConfusion
    · exact hanswer lastError
  unfold Connection.turn Connection.closing
  split
  · exact Turn.noConfusion
  · exact hhandled failure

/-- The calls of the loop: connections that nothing is written to, and at most one more. -/
lemma tryAddresses_events (dial : String → Except Failure Connection) (request : Request) (lastError : Option Failure)
    (addresses : List String) : ∃ before, before ⊆ addresses ∧
      ((tryAddresses dial request lastError addresses).1 = before.map .connect ∨
        ∃ address ∈ addresses, ∃ connection, dial address = .ok connection ∧ connection.sends = true ∧
          (tryAddresses dial request lastError addresses).1 =
            before.map .connect ++ [.connect address, .request address request]) := by
  induction addresses generalizing lastError with
  | nil => exact ⟨[], List.nil_subset _, .inl rfl⟩
  | cons address rest ih =>
    unfold tryAddresses
    cases hdial : dial address with
    | error failure => exact ⟨[], List.nil_subset _, .inl rfl⟩
    | ok connection =>
      cases hsends : connection.sends with
      | true =>
        have hevents : connection.events address request = [.connect address, .request address request] := by
          rw [Connection.events, hsends, if_pos rfl]
        refine ⟨[], List.nil_subset _, .inr ⟨address, List.mem_cons_self, connection, hdial, hsends, ?_⟩⟩
        dsimp only
        cases hturn : connection.turn with
        | returned response => exact hevents
        | raised failure => exact hevents
        | continued failure => exact absurd hturn (turn_of_sends hsends failure)
      | false =>
        have hevents : connection.events address request = [.connect address] := by
          rw [Connection.events, hsends, if_neg Bool.false_ne_true]
        dsimp only
        cases hturn : connection.turn with
        | returned response => exact ⟨[address], by simp, .inl hevents⟩
        | raised failure => exact ⟨[address], by simp, .inl hevents⟩
        | continued failure =>
          dsimp only
          rw [hevents]
          obtain ⟨before, hbefore, hrest⟩ := ih (some failure)
          refine ⟨address :: before, List.cons_subset_cons _ hbefore, ?_⟩
          obtain hrest | ⟨other, hother, last, hlast, hlastSends, hrest⟩ := hrest
          · left
            rw [hrest]
            rfl
          · refine .inr ⟨other, List.mem_cons_of_mem _ hother, last, hlast, hlastSends, ?_⟩
            rw [hrest]
            rfl

end Turns

/-! ### A delivery -/

section Delivery

variable (runtime : Runtime) (environment : String) (transport : PinnedWebhookTransport) (call : Post)

lemma prepare_resolve {target : ResolvedWebhookTarget} {request : Request}
    (h : prepare runtime environment transport call = .ok (target, request)) :
    resolve runtime environment transport call.url = .ok target := by
  obtain ⟨_, -, h⟩ := bind_eq_ok.mp h
  obtain ⟨_, -, h⟩ := bind_eq_ok.mp h
  obtain ⟨resolved, hresolved, h⟩ := bind_eq_ok.mp h
  obtain ⟨body, -, h⟩ := bind_eq_ok.mp h
  cases Except.ok.inj h
  exact hresolved

/-- A request comes last, right after the connection it is written to was opened. -/
lemma request_last {before : List String} {address other : String} {request sent : Request} {earlier later : List Event}
    (h : before.map Event.connect ++ [.connect address, .request address request] = earlier ++ .request other sent :: later) :
    later = [] ∧ other = address ∧ earlier = before.map Event.connect ++ [.connect address] := by
  obtain rfl | ⟨rest, last, rfl⟩ := List.eq_nil_or_concat later
  · rw [show before.map Event.connect ++ [.connect address, .request address request] =
      (before.map Event.connect ++ [.connect address]) ++ [.request address request] by simp] at h
    obtain ⟨hearlier, hlast⟩ := List.append_inj' h rfl
    rw [List.singleton_inj, Event.request.injEq] at hlast
    exact ⟨rfl, hlast.1.symm, hearlier.symm⟩
  · exfalso
    rw [show before.map Event.connect ++ [.connect address, .request address request] =
      (before.map Event.connect ++ [.connect address]) ++ [.request address request] by simp,
      show earlier ++ .request other sent :: rest.concat last = (earlier ++ .request other sent :: rest) ++ [last] by simp] at h
    obtain ⟨hinit, -⟩ := List.append_inj' h rfl
    have hmem : Event.request other sent ∈ before.map Event.connect ++ [.connect address] := by
      rw [hinit]
      simp
    simp at hmem

/-- A request on an open connection to one of the resolved addresses. -/
structure Delivered (address : String) (request : Request) where
  target : ResolvedWebhookTarget
  resolved : resolve runtime environment transport call.url = .ok target
  member : address ∈ target.addresses
  connection : Connection
  dialled : transport.connectionFactory target address = .ok connection
  opened : connection.connect = .ok ()

/-- The events of a delivery: connections that nothing is written to, and at most one more. -/
lemma post_events : ∃ before : List String, (post runtime environment transport call).1 = before.map .connect ∨
    ∃ address request, Nonempty (Delivered runtime environment transport call address request) ∧
      (post runtime environment transport call).1 = before.map .connect ++ [.connect address, .request address request] := by
  unfold post
  cases hprepare : prepare runtime environment transport call with
  | error failure => exact ⟨[], .inl rfl⟩
  | ok prepared =>
    obtain ⟨target, request⟩ := prepared
    obtain ⟨before, -, hevents | ⟨address, haddress, connection, hdial, hsends, hevents⟩⟩ :=
      tryAddresses_events (transport.connectionFactory target) request none target.addresses
    · exact ⟨before, .inl hevents⟩
    · unfold Connection.sends at hsends
      rw [Bool.and_eq_true, Bool.and_eq_true] at hsends
      obtain ⟨_, hconnect⟩ := isOk_iff.mp hsends.1.1
      exact ⟨before, .inr ⟨address, request,
        ⟨target, prepare_resolve runtime environment transport call hprepare, haddress, connection, hdial, hconnect⟩, hevents⟩⟩

/-- The request is made at most once, to a permitted address that a connection was opened to, and nothing is tried after it. -/
theorem post_requests_once : (post runtime environment transport call).1.countP Event.isRequest ≤ 1 ∧
    ∀ earlier address request later, (post runtime environment transport call).1 = earlier ++ .request address request :: later →
      later = [] ∧ (∃ before, earlier = before ++ [.connect address]) ∧
      ∃ target ip connection, resolve runtime environment transport call.url = .ok target ∧ address = runtime.text ip ∧
        permitted runtime target.hostname (configured runtime environment transport) ip ∧
        transport.connectionFactory target address = .ok connection ∧ connection.connect = .ok () := by
  have hconnects : ∀ before : List String, (before.map Event.connect).countP Event.isRequest = 0 := by
    intro before
    rw [List.countP_eq_zero]
    intro event hevent
    obtain ⟨address, -, rfl⟩ := List.mem_map.mp hevent
    exact Bool.false_ne_true
  obtain ⟨before, hevents | ⟨address, request, ⟨delivered⟩, hevents⟩⟩ := post_events runtime environment transport call
  · rw [hevents]
    refine ⟨(hconnects before).le.trans (Nat.zero_le _), ?_⟩
    intro earlier other sent later h
    have hmem : Event.request other sent ∈ before.map Event.connect := by
      rw [h]
      simp
    simp at hmem
  · rw [hevents]
    constructor
    · rw [List.countP_append, hconnects]
      rfl
    · intro earlier other sent later h
      obtain ⟨rfl, rfl, rfl⟩ := request_last h
      obtain ⟨ip, htext, hpermitted, -⟩ := resolve_permitted delivered.resolved other delivered.member
      exact ⟨rfl, ⟨_, rfl⟩, delivered.target, ip, delivered.connection, delivered.resolved, htext, hpermitted,
        delivered.dialled, delivered.opened⟩

/-- A host with two public addresses, read as the library reads them. -/
def plainRuntime : Runtime where
  urlsplit _ := some ⟨"https", some "hooks.example", none, none, some none, "/ink", "", ""⟩
  urlunsplit authority path _ := "https://" ++ authority ++ path
  idna text := some text
  casefold text := text
  strip text := text
  ipAddress text := if text = "93.184.216.34" then some (.v4 1572395042) else if text = "93.184.216.35" then some (.v4 1572395043) else none
  text address := if address = .v4 1572395042 then "93.184.216.34" else "93.184.216.35"
  ipNetwork _ := none
  isPrivate _ := false
  isLoopback _ := false
  isLinkLocal _ := false
  isReserved _ := false
  isMulticast _ := false
  isUnspecified _ := false
  isGlobal _ := true

/-- The first address does not answer in time, and the second takes the request. -/
def secondAnswers : PinnedWebhookTransport where
  resolver _ _ := .ok [some "93.184.216.34", some "93.184.216.35"]
  connectionFactory _ address := .ok {
    connect := if address = "93.184.216.34" then .error .timeout else .ok ()
    request := .ok ()
    getresponse := .ok ()
    read := .ok ()
    response := .ok ⟨200, []⟩ }
  allowlist := none

example : post plainRuntime "" secondAnswers
      ⟨"https://hooks.example/ink", some "{}", [], some [.number (some 5), .number (some 10)], false⟩ =
    ([.connect "93.184.216.34", .connect "93.184.216.35",
      .request "93.184.216.35" ⟨"/ink", "{}", [("Content-Length", "2"), ("Host", "hooks.example")]⟩], .ok ⟨200, []⟩) := by
  decide +kernel

/-- No connection is opened but to permitted addresses. -/
theorem post_connects_permitted {address : String} (h : .connect address ∈ (post runtime environment transport call).1) :
    ∃ target ip, resolve runtime environment transport call.url = .ok target ∧ address = runtime.text ip ∧
      permitted runtime target.hostname (configured runtime environment transport) ip := by
  unfold post at h
  cases hprepare : prepare runtime environment transport call with
  | error failure =>
    rw [hprepare] at h
    cases h
  | ok prepared =>
    obtain ⟨target, request⟩ := prepared
    have hresolve := prepare_resolve runtime environment transport call hprepare
    rw [hprepare] at h
    dsimp only at h
    have hmem : address ∈ target.addresses := by
      obtain ⟨before, hbefore, hevents | ⟨other, hother, -, -, -, hevents⟩⟩ :=
        tryAddresses_events (transport.connectionFactory target) request none target.addresses
      · rw [hevents] at h
        exact hbefore (by simpa using h)
      · rw [hevents] at h
        obtain hconnect | rfl : address ∈ before ∨ address = other := by simpa using h
        · exact hbefore hconnect
        · exact hother
    obtain ⟨ip, htext, hpermitted, -⟩ := resolve_permitted hresolve address hmem
    exact ⟨target, ip, hresolve, htext, hpermitted⟩

end Delivery

/-! ### Pinned connections -/

section Pinned

variable {runtime : Runtime} {environment : String} {transport : PinnedWebhookTransport} {call : Post}

/-- The peers that a socket has after it was opened and after its TLS handshake, and what later calls come to. -/
structure Dialled where
  peer : Except Failure String
  tlsPeer : Except Failure String
  calls : Connection

/-- `_PinnedHTTPSConnection.connect` -/
def pinnedConnect (runtime : Runtime) (address : String) (dialled : Dialled) : Except Failure Unit := do
  let pinned := normalizedIp runtime address
  let peer ← orError (normalizedIp runtime (← dialled.peer)) (.value "")
  require (some peer == pinned) (.unsafeUrl "WEBHOOK-SSRF-004 實際連線位址與驗證位址不一致")
  let tlsPeer ← orError (normalizedIp runtime (← dialled.tlsPeer)) (.value "")
  require (some tlsPeer == pinned) (.unsafeUrl "WEBHOOK-SSRF-004 TLS Peer 位址與驗證位址不一致")

/-- `_connection_factory` -/
def pinnedFactory (runtime : Runtime) (dial : String → Dialled) : ConnectionFactory := fun _ address =>
  .ok { (dial address).calls with connect := pinnedConnect runtime address (dial address) }

lemma pinnedConnect_peer {ip : Address} {address : String} {dialled : Dialled} (haddress : normalizedIp runtime address = some ip)
    (h : pinnedConnect runtime address dialled = .ok ()) : ∃ peer tlsPeer, dialled.peer = .ok peer ∧
      dialled.tlsPeer = .ok tlsPeer ∧ normalizedIp runtime peer = some ip ∧ normalizedIp runtime tlsPeer = some ip := by
  unfold pinnedConnect at h
  rw [haddress] at h
  obtain ⟨peer, hpeer, h⟩ := bind_eq_ok.mp h
  obtain ⟨reached, hreached, h⟩ := bind_eq_ok.mp h
  obtain ⟨_, hsame, h⟩ := bind_eq_ok.mp h
  obtain ⟨tlsPeer, htlsPeer, h⟩ := bind_eq_ok.mp h
  obtain ⟨tlsReached, htlsReached, hend⟩ := bind_eq_ok.mp h
  refine ⟨peer, tlsPeer, hpeer, htlsPeer, ?_, ?_⟩
  · rw [orError_eq_ok.mp hreached]
    exact beq_iff_eq.mp (require_eq_ok.mp hsame)
  · rw [orError_eq_ok.mp htlsReached]
    exact beq_iff_eq.mp (require_eq_ok.mp hend)

/-- With pinned connections a request is written to a peer that is permitted, where addresses are read back from their texts. -/
theorem pinned_peer_permitted (dial : String → Dialled) (hfactory : transport.connectionFactory = pinnedFactory runtime dial)
    (hread : ∀ value ip, normalizedIp runtime value = some ip → normalizedIp runtime (runtime.text ip) = some ip)
    {address : String} {request : Request} (h : .request address request ∈ (post runtime environment transport call).1) :
    ∃ target ip peer, resolve runtime environment transport call.url = .ok target ∧
      permitted runtime target.hostname (configured runtime environment transport) ip ∧
      (dial address).tlsPeer = .ok peer ∧ normalizedIp runtime peer = some ip := by
  obtain ⟨before, hevents | ⟨other, sent, ⟨delivered⟩, hevents⟩⟩ := post_events runtime environment transport call
  · rw [hevents] at h
    simp at h
  · rw [hevents] at h
    obtain ⟨rfl, rfl⟩ : address = other ∧ request = sent := by simpa using h
    obtain ⟨ip, rfl, hpermitted, value, hvalue⟩ := resolve_permitted delivered.resolved address delivered.member
    have hdialled := delivered.dialled
    rw [hfactory] at hdialled
    have hopened := delivered.opened
    rw [← Except.ok.inj hdialled] at hopened
    obtain ⟨-, peer, -, hpeer, -, hip⟩ := pinnedConnect_peer (hread value ip hvalue) hopened
    exact ⟨delivered.target, ip, peer, delivered.resolved, hpermitted, hpeer, hip⟩

end Pinned

end InkTime.Webhook
