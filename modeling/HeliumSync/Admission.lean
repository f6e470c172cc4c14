import HeliumSync.Router

/-! The server behind its router is the server of the transactions: what a history of HTTP requests
leaves in the tables is what the requests that it admits leave. -/
namespace HeliumSync

section
variable (A : Axum) (P : Primitives Bytes) (app : AppState) (moment : Moment)
  (request : TransportRequest)

/-- What a request of a negotiated route asks of the tables, if it is one that writes. -/
def admitNegotiated : Route → Except Refusal (Option (ServerRequest Bytes))
  | .devices =>
      if request.method = .post then do
        return some (.register (← readBody A P request (fun _ => 1) (readRegister P)) moment.now)
      else return none
  | .device segment =>
      if request.method = .delete then do
        return some (.revoke ⟨← pathUuid P segment⟩ moment.now)
      else return none
  | .object segment =>
      if request.method = .put then do
        let id ← pathUuid P segment
        return some (.put ⟨id⟩ (← readBody A P request (fun _ => 2) (readPutObject P)))
      else if request.method = .delete then do
        let id ← pathUuid P segment
        return some (.delete ⟨id⟩ (← readBody A P request (fun _ => 1) (readDeleteObject P)))
      else return none
  | .batch =>
      if request.method = .post then do
        return some (.batch (← readBody A P request (batchDepth P) (readBatch P)))
      else return none
  | .version | .status | .changes => return none

def admission : Except Refusal (Option (ServerRequest Bytes)) := do
  requireAuth P app request
  match route request.path with
  | none | some .version => return none
  | some route => do
      requireProtocol request
      admitNegotiated A P moment request route

/-- The request on the tables that an HTTP request is admitted as. A failing database admits none. -/
def admitted : Option (ServerRequest Bytes) :=
  if moment.fault then none else (admission A P app moment request).toOption.join

end

section
variable {A : Axum} {P : Primitives Bytes} {app : AppState} {moment : Moment}
  {request : TransportRequest} {server : Server Bytes}

/-- The tables that a handler leaves: those it returns, or what they were. -/
def left (server : Server Bytes) : Except Refusal (Answer × Server Bytes) → Server Bytes
  | .ok (_, server') => server'
  | .error _ => server

/-- The tables after the request, if there is one. -/
def afterSome (P : Primitives Bytes) (moment : Moment) (server : Server Bytes)
    (asked : Except Refusal (Option (ServerRequest Bytes))) : Server Bytes :=
  match asked with
  | .ok (some request) => if moment.fault then server else server.after P request
  | _ => server

theorem left_bind {α : Type} {x : Except Refusal α}
    {f : α → Except Refusal (Answer × Server Bytes)}
    {g : α → Except Refusal (Option (ServerRequest Bytes))}
    (same : ∀ a, left server (f a) = afterSome P moment server (g a)) :
    left server (x >>= f) = afterSome P moment server (x >>= g) := by
  cases x with
  | ok a => exact same a
  | error => rfl

/-- A handler that reads leaves the tables. -/
theorem left_read {α : Type} {x : Except Refusal α} {f : α → Except Refusal (Answer × Server Bytes)}
    (same : ∀ a, left server (f a) = server) : left server (x >>= f) = server := by
  cases x with
  | ok a => exact same a
  | error => rfl

/-- A handler whose transaction commits leaves what the transaction does. -/
theorem left_queried {α : Type} {result : Except ApiError (α × Server Bytes)}
    {answer : α × Server Bytes → Answer} {asked : ServerRequest Bytes}
    (transacted : server.transact P asked = Prod.snd <$> result) :
    left server (queried moment result >>= fun out => pure (answer out, out.2)) =
      if moment.fault then server else server.after P asked := by
  rw [queried, Server.after, transacted]
  split_ifs
  · rfl
  · cases result <;> rfl

theorem left_handlePutObject {segment : String} :
    left server (handlePutObject A P moment request server segment) =
      afterSome P moment server (do
        let id ← pathUuid P segment
        return some (.put ⟨id⟩ (← readBody A P request (fun _ => 2) (readPutObject P)))) :=
  left_bind fun _ => left_bind fun _ => left_queried rfl

theorem left_handleDeleteObject {segment : String} :
    left server (handleDeleteObject A P moment request server segment) =
      afterSome P moment server (do
        let id ← pathUuid P segment
        return some (.delete ⟨id⟩ (← readBody A P request (fun _ => 1) (readDeleteObject P)))) :=
  left_bind fun _ => left_bind fun _ => left_queried rfl

theorem left_handleRevokeDevice {segment : String} :
    left server (handleRevokeDevice P moment server segment) =
      afterSome P moment server (do
        return some (.revoke ⟨← pathUuid P segment⟩ moment.now)) := by
  refine left_bind fun id => ?_
  cases time : Server.timestampString P moment.now with
  | error e =>
      have failed : server.after P (.revoke ⟨id⟩ moment.now) = server := by
        rw [Server.after, Server.transact, Server.revokeDevice, time]
        rfl
      exact (ite_eq_left_iff.mpr fun _ => failed).symm
  | ok text =>
      change left server (queried moment (server.revokeDevice P ⟨id⟩ moment.now) >>= fun server' =>
        pure (⟨204, none⟩, server')) = ite _ _ _
      rw [queried, Server.after, Server.transact]
      split_ifs
      · rfl
      · cases server.revokeDevice P ⟨id⟩ moment.now <;> rfl

theorem left_handleRegisterDevice :
    left server (handleRegisterDevice A P moment request server) =
      afterSome P moment server (do
        return some (.register (← readBody A P request (fun _ => 1) (readRegister P)) moment.now)) := by
  refine left_bind fun body => ?_
  dsimp only
  by_cases unnamed : (trim body.name).isEmpty ∨ 128 < (trim body.name).utf8ByteSize
  · rw [if_pos unnamed]
    have failed : server.after P (.register body moment.now) = server := by
      rw [Server.after, Server.transact, Server.registerDevice]
      dsimp only
      rw [if_pos unnamed]
      rfl
    exact (ite_eq_left_iff.mpr fun _ => failed).symm
  · rw [if_neg unnamed]
    exact left_queried rfl

theorem left_handleBatch :
    left server (handleBatch A P moment request server) =
      afterSome P moment server (do
        return some (.batch (← readBody A P request (batchDepth P) (readBatch P)))) := by
  refine left_bind fun operations => ?_
  dsimp only
  by_cases size : operations = [] ∨ maxBatchOperations < operations.length
  · rw [if_pos size]
    have failed : server.after P (.batch operations) = server := by
      rw [Server.after, Server.transact, Server.batch, if_pos size]
      rfl
    exact (ite_eq_left_iff.mpr fun _ => failed).symm
  · rw [if_neg size]
    exact left_queried rfl

theorem left_handleChanges : left server (handleChanges P moment request server) = server := by
  refine left_read fun after => left_read fun limit => ?_
  split_ifs
  · rfl
  · exact left_read fun _ => left_read fun _ => rfl

/-- Behind every route the tables are left as the admitted request leaves them. -/
theorem left_handleNegotiated (route : Route) :
    left server (handleNegotiated A P moment request server route) =
      afterSome P moment server (admitNegotiated A P moment request route) := by
  cases route with
  | version => rfl
  | status => cases method : request.method <;> rw [handleNegotiated, method] <;>
      first | exact left_read fun _ => rfl | rfl
  | devices =>
      rw [handleNegotiated, admitNegotiated]
      cases request.method with
      | post => exact left_handleRegisterDevice
      | get | head => exact left_read fun _ => rfl
      | put | delete | other => rfl
  | device segment =>
      rw [handleNegotiated, admitNegotiated]
      cases request.method with
      | delete => exact left_handleRevokeDevice
      | get | head | post | put | other => rfl
  | changes =>
      rw [handleNegotiated]
      cases request.method with
      | get | head => exact left_handleChanges
      | post | put | delete | other => rfl
  | object segment =>
      rw [handleNegotiated, admitNegotiated]
      cases request.method with
      | get | head => exact left_read fun _ => left_read fun _ => rfl
      | put => exact left_handlePutObject
      | delete => exact left_handleDeleteObject
      | post | other => rfl
  | batch =>
      rw [handleNegotiated, admitNegotiated]
      cases request.method with
      | post => exact left_handleBatch
      | get | head | put | delete | other => rfl

theorem left_handle : left server (handle A P app moment request server) =
    afterSome P moment server (admission A P app moment request) := by
  refine left_bind fun _ => ?_
  cases route request.path with
  | none => exact left_read fun _ => rfl
  | some route =>
      cases route with
      | version => cases request.method <;> rfl
      | status | devices | device | changes | object | batch =>
          exact left_bind fun _ => left_handleNegotiated _

theorem router_tables : (router A P app moment request server).2 =
    left server (handle A P app moment request server) := by
  rw [router]
  cases handle A P app moment request server <;> rfl

/-- A request leaves the tables as the one it is admitted as. -/
theorem router_admitted : (router A P app moment request server).2 =
    ((admitted A P app moment request).map (server.after P)).getD server := by
  rw [router_tables, left_handle, admitted]
  cases admission A P app moment request with
  | error => split_ifs <;> rfl
  | ok asked =>
      cases asked with
      | none => split_ifs <;> rfl
      | some asked =>
          rw [afterSome]
          split_ifs <;> rfl

/-- The request carries the token that the server was started with. -/
def Authorized (P : Primitives Bytes) (app : AppState) (request : TransportRequest) : Prop :=
  ∃ token, (headerText request.headers "authorization").bind (stripPrefix "Bearer ") = some token ∧
    tokenDigest P token = app.tokenDigest

/-- The request names the protocol that the server speaks. -/
def Negotiated (request : TransportRequest) : Prop :=
  (headerText request.headers protocolHeader).bind (parseUnsigned 65536) = some protocolMax

theorem requireAuth_ok {u : Unit} (passed : requireAuth P app request = .ok u) :
    Authorized P app request := by
  rw [requireAuth] at passed
  split at passed
  · cases passed
  · rename_i token presented
    split_ifs at passed with same
    exact ⟨token, presented, same⟩

theorem requireAuth_error (foreign : ¬ Authorized P app request) :
    ∃ error, requireAuth P app request = .error (.api error) ∧ error.status = 401 := by
  rw [requireAuth]
  split
  · exact ⟨_, rfl, rfl⟩
  · rename_i token presented
    split_ifs with same
    · exact absurd ⟨token, presented, same⟩ foreign
    · exact ⟨_, rfl, rfl⟩

theorem router_refused {refusal : Refusal}
    (refused : handle A P app moment request server = .error refusal) :
    (router A P app moment request server).1.status = (refusal.respond A moment).status ∧
      (router A P app moment request server).2 = server := by
  rw [router, refused]
  refine ⟨?_, rfl⟩
  dsimp only
  split_ifs <;> rfl

/-- Without the token nothing is reached: not even which paths there are. -/
theorem router_unauthorized (foreign : ¬ Authorized P app request) :
    (router A P app moment request server).1.status = 401 ∧
      (router A P app moment request server).2 = server := by
  obtain ⟨error, refused, status⟩ := requireAuth_error foreign
  have ends : handle A P app moment request server = .error (.api error) := by
    rw [handle, refused]
    rfl
  obtain ⟨answered, same⟩ := router_refused ends
  exact ⟨answered.trans status, same⟩

theorem requireAuth_authorized (authorized : Authorized P app request) :
    requireAuth P app request = .ok () := by
  obtain ⟨token, presented, same⟩ := authorized
  rw [requireAuth, presented]
  exact if_pos same

/-- With the token but without the protocol, nothing but the version is reached. -/
theorem router_unnegotiated (authorized : Authorized P app request)
    (other : route request.path ≠ some .version) (foreign : ¬ Negotiated request) :
    (router A P app moment request server).1.status = 426 ∧
      (router A P app moment request server).2 = server := by
  have refused : requireProtocol request = .error (.api (.new 426 "protocol_incompatible"
      "a supported x-helium-sync-protocol header is required")) := if_neg foreign
  have ends : handle A P app moment request server = .error (.api (.new 426 "protocol_incompatible"
      "a supported x-helium-sync-protocol header is required")) := by
    rw [handle, requireAuth_authorized authorized]
    cases routed : route request.path with
    | none =>
        change (requireProtocol request >>= fun _ => _) = _
        rw [refused]
        rfl
    | some route =>
        cases route with
        | version => exact absurd routed other
        | status | devices | device | changes | object | batch =>
            change (requireProtocol request >>= fun _ => _) = _
            rw [refused]
            rfl
  obtain ⟨answered, same⟩ := router_refused ends
  exact ⟨answered, same⟩

theorem admitted_some {asked : ServerRequest Bytes}
    (came : admitted A P app moment request = some asked) :
    admission A P app moment request = .ok (some asked) ∧ moment.fault = false := by
  rw [admitted] at came
  split_ifs at came with fault
  refine ⟨?_, Bool.eq_false_iff.mpr fault⟩
  cases asks : admission A P app moment request with
  | error => rw [asks] at came; cases came
  | ok asked' =>
      rw [asks] at came
      exact congrArg Except.ok came

theorem admitted_negotiated {asked : ServerRequest Bytes}
    (came : admitted A P app moment request = some asked) :
    Authorized P app request ∧ Negotiated request := by
  obtain ⟨_, passed, came⟩ := Fallible.bind_ok_iff.mp (admitted_some came).1
  refine ⟨requireAuth_ok passed, ?_⟩
  split at came
  · cases came
  · cases came
  · obtain ⟨_, passed, _⟩ := Fallible.bind_ok_iff.mp came
    rw [requireProtocol] at passed
    split_ifs at passed with negotiated
    exact negotiated

/-- The tables after requests that arrive one after another. -/
def served (A : Axum) (P : Primitives Bytes) (app : AppState) (server : Server Bytes)
    (history : List (Moment × TransportRequest)) : Server Bytes :=
  history.foldl (fun server arrival => (router A P app arrival.1 arrival.2 server).2) server

/-- The requests on the tables among them. -/
def admittedOf (A : Axum) (P : Primitives Bytes) (app : AppState)
    (history : List (Moment × TransportRequest)) : List (ServerRequest Bytes) :=
  history.filterMap fun arrival => admitted A P app arrival.1 arrival.2

theorem admittedOf_cons {history : List (Moment × TransportRequest)} :
    admittedOf A P app ((moment, request) :: history) =
      (admitted A P app moment request).toList ++ admittedOf A P app history := by
  rw [admittedOf, List.filterMap_cons]
  cases admitted A P app moment request <;> rfl

theorem served_eq_run (server : Server Bytes) (history : List (Moment × TransportRequest)) :
    served A P app server history = server.run P (admittedOf A P app history) := by
  induction history generalizing server with
  | nil => rfl
  | cons arrival history ih =>
      obtain ⟨moment, request⟩ := arrival
      change served A P app (router A P app moment request server).2 history = _
      rw [ih, router_admitted]
      cases came : admitted A P app moment request with
      | none => rw [admittedOf_cons, came]; rfl
      | some asked => rw [admittedOf_cons, came]; rfl

/-- Whatever requests arrive, the tables are those of a run of the transactions that some of them are
admitted as. All of these carry the token and the protocol; a request without the token is answered 401,
one with it but without the protocol 426, unless it asks for the version, and both leave the tables. -/
theorem history_served (A : Axum) (P : Primitives Bytes) (app : AppState)
    (history : List (Moment × TransportRequest)) :
    served A P app .empty history = Server.empty.run P (admittedOf A P app history) ∧
    (served A P app .empty history).Sound ∧
    (∀ arrival ∈ history, ∀ asked, admitted A P app arrival.1 arrival.2 = some asked →
      Authorized P app arrival.2 ∧ Negotiated arrival.2) ∧
    (∀ moment request, ¬ Authorized P app request →
      (router A P app moment request (served A P app .empty history)).1.status = 401 ∧
      served A P app .empty (history ++ [(moment, request)]) = served A P app .empty history) ∧
    ∀ moment request, Authorized P app request → ¬ Negotiated request →
      route request.path ≠ some .version →
      (router A P app moment request (served A P app .empty history)).1.status = 426 ∧
      served A P app .empty (history ++ [(moment, request)]) = served A P app .empty history := by
  have after {moment : Moment} {request : TransportRequest}
      (same : (router A P app moment request (served A P app .empty history)).2 =
        served A P app .empty history) :
      served A P app .empty (history ++ [(moment, request)]) = served A P app .empty history := by
    rw [served, List.foldl_append]
    exact same
  refine ⟨served_eq_run _ history, ?_, fun _ _ _ => admitted_negotiated, ?_, ?_⟩
  · rw [served_eq_run]
    exact Server.sound_empty.run _
  · intro moment request foreign
    obtain ⟨refused, same⟩ := @router_unauthorized A P app moment request
      (served A P app .empty history) foreign
    exact ⟨refused, after same⟩
  · intro moment request authorized foreign other
    obtain ⟨refused, same⟩ := @router_unnegotiated A P app moment request
      (served A P app .empty history) authorized other foreign
    exact ⟨refused, after same⟩

end
end HeliumSync
