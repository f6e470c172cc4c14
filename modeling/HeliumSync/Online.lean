import HeliumSync.Layers
import HeliumSync.Payload
import HeliumSync.SessionOps

/-! Devices that reach the server over HTTP. Whatever their exchanges interleave to, the shared world goes
through a run of its own operations. -/
namespace HeliumSync
open Interaction (Prog System Layering Condition Config Event)

inductive WebOp where
  | own (op : Op Bytes)
  | exchange (request : TransportRequest)

abbrev WebReply : WebOp → Type
  | .own op => Reply Bytes op
  | .exchange _ => Except ClientError TransportResponse

inductive WebChoice where
  | own (choice : Choice)
  | exchange (delivery : Delivery)

/-- The last two are never met by a device with a token that fits a header. -/
def RequestError.asClient : RequestError → ClientError
  | .client error => error
  | .configuration details => .state details
  | .protocolIncompatible clientMin clientMax serverMin serverMax => .state
      s!"server protocol is incompatible (client {clientMin}-{clientMax}, server {serverMin}-{serverMax})"

def online {R : Type} : Web (Except RequestError R × ApiClient) →
    Prog WebOp WebReply (Except ClientError R × ApiClient)
  | .done out => .done (out.1.mapError RequestError.asClient, out.2)
  | .call request next => .call (.exchange request) fun response => online (next response)

/-- The operations of a device: those on the server go over its connection. -/
def performOnline (P : Primitives Bytes) :
    (op : Op Bytes) → ApiClient → Prog WebOp WebReply (Reply Bytes op × ApiClient)
  | .putObject id request, client => online (client.putObject P id request)
  | .getObject id, client => online (client.getObject P id)
  | .deleteObject id request, client => online (client.deleteObject P id request)
  | .changes after, client => online (client.changes P after)
  | op, client => .call (.own op) fun reply => .done (reply, client)

/-- A command, and the client as it finds it: as it was made, or as a command before this one left it. -/
structure WebCommand where
  device : DeviceCommand
  client : ApiClient

section
variable {ι : Type} [DecidableEq ι] (A : Axum) (P : Primitives Bytes) (app : AppState)

def World.webExec (i : ι) :
    (op : WebOp) → WebChoice → World ι Bytes → Option (World ι Bytes × WebReply op)
  | .own op, .own choice, w => World.exec P i op choice w
  | .exchange request, .exchange delivery, w =>
      (deliver P A app request delivery w.server).map fun out => (w.setServer out.1, out.2)
  | _, _, _ => none

/-- Devices that run the commands of `profileSystem` over HTTP. -/
def webSystem : System ι WebCommand (Except String SyncFeedback) (World ι Bytes) WebChoice WebOp
    WebReply where
  exec := World.webExec A P app
  program _ command :=
    (command.device.session.perform P command.device.kind).run.implement (performOnline P)
      command.client
  edit i choice w :=
    match choice with
    | .own choice => World.edit P i choice w
    | .exchange _ => none

/-- The client is able to speak to the server. -/
structure ApiClient.Fit (client : ApiClient) : Prop where
  token : isHeaderValue client.authorization = true
  protocol : client.protocol = none ∨ client.protocol = some protocolMax

/-- A put whose envelope numbers are in their range. -/
def Op.Sized : Op Bytes → Prop
  | .putObject _ request => request.envelope.Sized
  | _ => True

/-- A body that the server does not find too long. -/
def Fitting : WebOp → WebChoice → World ι Bytes → Prop
  | .exchange request, _, _ => (P.plainBytes request.body).length ≤ bodyLimit
  | .own _, _, _ => True

/-- Every device begins only what it may, and sends no body that is too long. -/
def fitting (may : ι → Session → Prop) :
    Condition ι WebCommand (World ι Bytes) WebChoice WebOp WebReply where
  begins i command _ := may i command.device.session ∧ command.client.Fit
  acts _ _ _ _ op choice w := Fitting P op choice w

def webLayering (may : ι → Session → Prop) :
    Layering (profileSystem P) (webSystem (ι := ι) A P app) ApiClient where
  perform := performOnline P
  command := WebCommand.device
  start := WebCommand.client
  keep _ := ApiClient.Fit
  begins i command _ := may i command.session
  allow _ := Fitting P
  good := Op.Sized
  inv w := w.server.Stores EncryptedEnvelopeV1.Sized

end

section
variable {ι R : Type} {A : Axum} {P : Primitives Bytes} {app : AppState} {w w' : World ι Bytes}
  {client : ApiClient} {sent : TransportRequest} {read : Json → Except String R}

theorem welcome_sized {session : Session} : Welcome P session Op.Sized where
  plain op plain := by
    cases op with
    | putObject => exact plain.elim
    | _ => exact trivial
  put sealed := by
    obtain ⟨_, _, _, _, _, _, same⟩ := encrypt_ok sealed
    rw [Op.Sized, same]
    exact ⟨Nat.le_of_ble_eq_true rfl, Nat.le_of_ble_eq_true rfl⟩
  replace _ := trivial
  restore _ := trivial
  bookmarks _ _ := trivial
  extensions _ _ := trivial

theorem asClient_client (outcome : Except ClientError R) :
    (outcome.mapError RequestError.client).mapError RequestError.asClient = outcome := by
  cases outcome <;> rfl

/-- What a request leaves in the tables is in its range. -/
theorem router_sized {moment : Moment} {server : Server Bytes}
    (stores : server.Stores EncryptedEnvelopeV1.Sized) :
    (router A P app moment sent server).2.Stores EncryptedEnvelopeV1.Sized := by
  rw [router_admitted]
  cases came : admitted A P app moment sent with
  | none => exact stores
  | some asked =>
      exact stores.after (admitted_brings (fun _ _ _ read => readPutObject_sized read) came)

theorem deliver_sized {delivery : Delivery} {server server' : Server Bytes}
    {reply : Except ClientError TransportResponse}
    (stores : server.Stores EncryptedEnvelopeV1.Sized)
    (delivered : deliver P A app sent delivery server = some (server', reply)) :
    server'.Stores EncryptedEnvelopeV1.Sized := by
  cases delivery with
  | delivered moment =>
      cases delivered
      exact router_sized stores
  | lostRequest e =>
      rw [deliver] at delivered
      split_ifs at delivered
      cases delivered
      exact stores
  | lostReply moment e =>
      rw [deliver] at delivered
      split_ifs at delivered
      cases delivered
      exact router_sized stores

/-- However the exchange of an operation turns out, the operation may turn out so. -/
theorem Carries.delivered {exec : Choice → Option (World ι Bytes × Except ClientError R)}
    (carries : Carries A P app sent read w exec) {delivery : Delivery} {server' : Server Bytes}
    {reply : Except ClientError TransportResponse}
    (delivered : deliver P A app sent delivery w.server = some (server', reply)) :
    ∃ choice outcome, exec choice = some (w.setServer server', outcome) ∧
      (reply.mapError RequestError.client).bind (parseResponse P read) =
        outcome.mapError RequestError.client := by
  cases delivery with
  | delivered moment =>
      cases delivered
      exact carries.answered moment
  | lostRequest e =>
      rw [deliver] at delivered
      split_ifs at delivered with lost
      cases delivered
      exact ⟨.lostRequest e, .error e, carries.lost e lost, rfl⟩
  | lostReply moment e =>
      rw [deliver] at delivered
      split_ifs at delivered with lost
      cases delivered
      obtain ⟨choice, unanswered⟩ := carries.unanswered moment e lost
      exact ⟨choice, .error e, unanswered, rfl⟩

variable [DecidableEq ι] {i : ι}

/-- The exchange that is the last of an operation. -/
theorem performs_send {exec : Choice → World ι Bytes → Option (World ι Bytes × Except ClientError R)}
    (fit : client.Fit) (carries : ∀ w : World ι Bytes, w.server.Stores EncryptedEnvelopeV1.Sized →
      (P.plainBytes sent.body).length ≤ bodyLimit →
      Carries A P app sent read w fun choice => exec choice w) :
    (online ((ApiClient.jsonRequest.send P read sent).bind fun result =>
        .done (result, client))).Performs (World.webExec A P app i) (Fitting P)
      (fun w => w.server.Stores EncryptedEnvelopeV1.Sized) ApiClient.Fit exec := by
  intro choice w w' reply stores fits ran
  cases choice with
  | own => cases ran
  | exchange delivery =>
      obtain ⟨⟨server', reply'⟩, delivered, same⟩ := Option.map_eq_some_iff.mp ran
      cases same
      refine ⟨deliver_sized stores delivered, .inr ?_⟩
      obtain ⟨choice, outcome, acted, taken⟩ := (carries w stores fits).delivered delivered
      refine ⟨(outcome, client), choice, ?_, fit, acted⟩
      rw [← asClient_client outcome, ← taken]
      cases reply' <;> rfl

/-- The version is told whoever writes, and whatever the database does. -/
theorem deliver_version {delivery : Delivery} {server server' : Server Bytes}
    {headers : List (String × String)} {reply : Except ClientError TransportResponse}
    (delivered : deliver P A app ⟨.get, ["v1", "version"], [], headers, .binary []⟩ delivery server =
      some (server', reply)) :
    server' = server ∧
      ((∃ response, reply = .ok response ∧
        (parseResponse P readVersion response = .ok versionResponse ∨
          parseResponse P readVersion response = .error (.client .apiAuthentication))) ∨
      ∃ e : ClientError, e.fromTransport ∧ reply = .error e) := by
  have answers : ∀ moment, ∃ response,
      router A P app moment ⟨.get, ["v1", "version"], [], headers, .binary []⟩ server =
        (response, server) ∧
      (parseResponse P readVersion response = .ok versionResponse ∨
        parseResponse P readVersion response = .error (.client .apiAuthentication)) := by
    intro moment
    by_cases authorized : Authorized P app ⟨.get, ["v1", "version"], [], headers, .binary []⟩
    · have handled : handle A P app moment ⟨.get, ["v1", "version"], [], headers, .binary []⟩ server =
          .ok (⟨200, some (.ok (writeVersion versionResponse))⟩, server) := by
        rw [handle, requireAuth_authorized authorized]
        rfl
      have plain : Method.get ≠ .head := fun same => by cases same
      refine ⟨_, router_ok handled plain, .inl (parseResponse_document (readVersion_write ?_ ?_))⟩ <;>
        exact Nat.le_of_ble_eq_true rfl
    · have refused : (router A P app moment ⟨.get, ["v1", "version"], [], headers, .binary []⟩
            server).1.status = 401 ∧
          (router A P app moment ⟨.get, ["v1", "version"], [], headers, .binary []⟩ server).2 =
            server := router_unauthorized authorized
      exact ⟨_, Prod.ext rfl refused.2, .inr (parseResponse_unauthorized refused.1)⟩
  cases delivery with
  | delivered moment =>
      obtain ⟨response, same, taken⟩ := answers moment
      rw [deliver, same] at delivered
      cases delivered
      exact ⟨rfl, .inl ⟨response, rfl, taken⟩⟩
  | lostRequest e =>
      rw [deliver] at delivered
      split_ifs at delivered with lost
      cases delivered
      exact ⟨rfl, .inr ⟨e, lost, rfl⟩⟩
  | lostReply moment e =>
      obtain ⟨_, same, _⟩ := answers moment
      rw [deliver, same] at delivered
      split_ifs at delivered with lost
      cases delivered
      exact ⟨rfl, .inr ⟨e, lost, rfl⟩⟩

variable {method : Method} {path : List String} {query : List (String × String)}
  {body : Option (Except String Json)}
  {exec : Choice → World ι Bytes → Option (World ι Bytes × Except ClientError R)}

/-- A client that has negotiated sends one request, if it can write its body. -/
theorem performs_ready (fit : client.Fit) (ready : client.protocol = some protocolMax)
    (lost : ∀ e, e.fromTransport → ∀ w, exec (.lostRequest e) w = some (w, .error e))
    (asks : body = none → ∀ w : World ι Bytes, w.server.Stores EncryptedEnvelopeV1.Sized →
      Carries A P app ⟨method, path, query, client.headers true false, .binary []⟩ read w
        fun choice => exec choice w)
    (tells : ∀ document, body = some (.ok document) → (P.writeJson document).length ≤ bodyLimit →
      ∀ w : World ι Bytes, w.server.Stores EncryptedEnvelopeV1.Sized →
      Carries A P app ⟨method, path, query, client.headers true true, .json document⟩ read w
        fun choice => exec choice w) :
    (online (client.negotiated P method path query body read)).Performs (World.webExec A P app i)
      (Fitting P) (fun w => w.server.Stores EncryptedEnvelopeV1.Sized) ApiClient.Fit exec := by
  rw [ApiClient.negotiated, ApiClient.ensureNegotiated, ready]
  change (online ((client.jsonRequest P method path query body true read).bind fun result =>
    .done (result, client))).Performs _ _ _ _ _
  rw [ApiClient.jsonRequest.eq_def, if_neg (not_not_intro fit.token)]
  cases body with
  | none => exact performs_send fit fun w stores _ => asks rfl w stores
  | some body =>
      cases body with
      | ok document => exact performs_send fit fun w stores fits => tells document rfl fits w stores
      | error e => exact ⟨fit, fun w => ⟨.lostRequest (.serialization e), lost _ rfl w⟩⟩

/-- A client that has not negotiated does so first, and the world does not notice. -/
theorem performs_negotiated (fit : client.Fit)
    (lost : ∀ e, e.fromTransport → ∀ w, exec (.lostRequest e) w = some (w, .error e))
    (asks : body = none → ∀ client : ApiClient, client.protocol = some protocolMax →
      ∀ w : World ι Bytes, w.server.Stores EncryptedEnvelopeV1.Sized →
      Carries A P app ⟨method, path, query, client.headers true false, .binary []⟩ read w
        fun choice => exec choice w)
    (tells : ∀ document, body = some (.ok document) → (P.writeJson document).length ≤ bodyLimit →
      ∀ client : ApiClient, client.protocol = some protocolMax →
      ∀ w : World ι Bytes, w.server.Stores EncryptedEnvelopeV1.Sized →
      Carries A P app ⟨method, path, query, client.headers true true, .json document⟩ read w
        fun choice => exec choice w) :
    (online (client.negotiated P method path query body read)).Performs (World.webExec A P app i)
      (Fitting P) (fun w => w.server.Stores EncryptedEnvelopeV1.Sized) ApiClient.Fit exec := by
  have after : ∀ client : ApiClient, client.Fit → client.protocol = some protocolMax →
      (online (client.negotiated P method path query body read)).Performs (World.webExec A P app i)
        (Fitting P) (fun w => w.server.Stores EncryptedEnvelopeV1.Sized) ApiClient.Fit exec :=
    fun client fit ready => performs_ready fit ready lost (fun same => asks same client ready)
      fun document same fits => tells document same fits client ready
  rcases fit.protocol with fresh | ready
  · have negotiates : ∃ next, client.negotiated P method path query body read =
          .call ⟨.get, ["v1", "version"], [], client.headers false false, .binary []⟩ next ∧
        (∀ e, next (.error e) = .done (.error (.client e), client)) ∧
        (∀ response e, parseResponse P readVersion response = .error e →
          next (.ok response) = .done (.error e, client)) ∧
        ∀ response, parseResponse P readVersion response = .ok versionResponse →
          next (.ok response) = ApiClient.negotiated P { client with protocol := some protocolMax }
            method path query body read := by
      rw [ApiClient.negotiated, ApiClient.ensureNegotiated, fresh, ApiClient.negotiate,
        ApiClient.jsonRequest.eq_def, if_neg (not_not_intro fit.token)]
      refine ⟨_, rfl, fun e => rfl, fun response e failed => ?_, fun response parsed => ?_⟩
      · simp only [Prog.bind, failed]
      · simp only [Prog.bind, parsed]
        rfl
    obtain ⟨next, same, lostNext, failedNext, parsedNext⟩ := negotiates
    rw [same]
    intro choice w w' reply stores _ ran
    cases choice with
    | own => cases ran
    | exchange delivery =>
        obtain ⟨⟨server', reply'⟩, delivered, same⟩ := Option.map_eq_some_iff.mp ran
        cases same
        obtain ⟨rfl, taken⟩ := deliver_version delivered
        refine ⟨stores, ?_⟩
        have quits {e} (error : e.fromTransport)
            (ended : next reply' = .done (.error (.client e), client)) :
            ∃ out choice', online (next reply') = .done out ∧ out.2.Fit ∧
              exec choice' w = some (w, out.1) :=
          ⟨(.error e, client), .lostRequest e, by rw [ended]; rfl, fit, lost e error w⟩
        rcases taken with ⟨response, rfl, parsed | failed⟩ | ⟨e, error, rfl⟩
        · refine .inl ⟨rfl, ?_⟩
          dsimp only
          rw [parsedNext _ parsed]
          exact after _ ⟨fit.token, .inr rfl⟩ rfl
        · exact .inr (quits rfl (failedNext _ _ failed))
        · exact .inr (quits error (lostNext e))
  · exact after client fit ready

/-- An operation of the device itself. -/
theorem performs_own {op : Op Bytes} (fit : client.Fit)
    (own : ∀ {choice} {w w' : World ι Bytes} {reply}, World.exec P i op choice w = some (w', reply) →
      w'.server = w.server) :
    (Prog.call (.own op) fun reply => .done (reply, client) :
      Prog WebOp WebReply (Reply Bytes op × ApiClient)).Performs (World.webExec A P app i) (Fitting P)
      (fun w => w.server.Stores EncryptedEnvelopeV1.Sized) ApiClient.Fit (World.exec P i op) := by
  intro choice w w' reply stores _ ran
  cases choice with
  | exchange => cases ran
  | own choice =>
      refine ⟨?_, .inr ⟨(reply, client), choice, rfl, fit, ran⟩⟩
      dsimp only
      rw [own ran]
      exact stores

theorem webLayering_performs (textual : P.Textual) (json : A.jsonContentType "application/json" = true)
    {op : Op Bytes} (good : op.Sized) (fit : client.Fit) :
    (performOnline P op client).Performs (World.webExec A P app i) (Fitting P)
      (fun w => w.server.Stores EncryptedEnvelopeV1.Sized) ApiClient.Fit (World.exec P i op) := by
  cases op with
  | putObject id request =>
      exact performs_negotiated fit (fun _ lost _ => if_pos lost) nofun
        fun document same fits client ready w _ =>
          putObject_carries textual json ready good (Option.some.inj same) fits
  | getObject id =>
      exact performs_negotiated fit (fun _ lost _ => if_pos lost)
        (fun _ client ready w stores => getObject_carries textual ready stores) nofun
  | deleteObject id request =>
      exact performs_negotiated fit (fun _ lost _ => if_pos lost) nofun
        fun document same fits client ready w _ =>
          deleteObject_carries textual json ready (Option.some.inj same) fits
  | changes after =>
      exact performs_negotiated fit (fun _ lost _ => if_pos lost)
        (fun _ client ready w _ => changes_carries textual ready) nofun
  | replaceFile content =>
      refine performs_own fit fun ran => ?_
      rcases World.replaceFile_cases ran with ⟨_, _, _, rfl⟩ | ⟨_, _, _, rfl | ⟨_, rfl, _⟩⟩ <;> rfl
  | restoreExtensionBundle archive =>
      refine performs_own fit fun ran => ?_
      rcases World.restoreExtensionBundle_cases ran with rfl | ⟨_, rfl⟩ <;> rfl
  | saveSyncState key mapping base =>
      refine performs_own fit fun ran => ?_
      rcases World.saveSyncState_cases ran with ⟨_, _, _, rfl⟩ | ⟨rfl, _⟩ <;> rfl
  | sample | readFile | createExtensionBundle | mapping | syncBase | profilePreferences =>
      exact performs_own fit fun ran => by rw [World.exec_observes (by exact trivial) ran]

theorem webLayering_holds (textual : P.Textual) (json : A.jsonContentType "application/json" = true)
    (may : ι → Session → Prop) : (webLayering A P app may).Holds where
  program _ _ := rfl
  issues _ := welcome_sized.perform _
  performs good fit := webLayering_performs textual json good fit
  edits {i choice w w'} stores edited := by
    cases choice with
    | exchange => cases edited
    | own choice =>
        refine ⟨fun id row found => stores id row ?_, choice, edited⟩
        rw [← (World.edit_tables edited).1]
        exact found

/-- Devices that reach the server over HTTP do nothing that they do not do in the shared world: however
their exchanges interleave, and whichever of them are lost, a run of `profileSystem` goes through the
same worlds in the same order, and at every moment each device has come as far with the same command. -/
theorem online_run (textual : P.Textual) (json : A.jsonContentType "application/json" = true)
    (may : ι → Session → Prop) {init : World ι Bytes → Prop}
    (began : ∀ w, init w → ∃ history, w.server = served A P app .empty history)
    {past' : List (Config ι WebCommand (Except String SyncFeedback) (World ι Bytes) WebOp WebReply)}
    (trace' : (webSystem A P app).Trace (fitting P may) init past') :
    ∃ past, (profileSystem P).Trace (running may) init past ∧
      Layering.Mirrors WebCommand.device past past' := by
  have stored : ∀ w, init w → w.server.Stores EncryptedEnvelopeV1.Sized := by
    intro w first
    obtain ⟨history, same⟩ := began w first
    rw [same]
    exact served_sized
  exact (webLayering_holds textual json may).mirrored stored trace'

end

section
open Reference (wire wire_textual axum app moment session)

/-- Both devices take an object of theirs for a manifest. -/
def mistaken : World (Fin 2) Bytes where
  server := served axum wire app .empty shortHistory
  device i := {
    state := { LocalState.empty with
      mappings := fun key => if key = (session i).extensionKey then some ⟨⟨9⟩, 1⟩ else none }
    bookmarks := some (.json .null)
    backups := []
    extensions := ([], ⟨0, 0, 0⟩) }

/-- Both devices load. The second one has to negotiate first; the first one's reply is lost meanwhile. -/
def loadSchedule : List (Event (Fin 2) WebCommand WebChoice) :=
  [.begin 1 ⟨⟨session 1, .load⟩, ⟨Reference.token, none⟩⟩,
    .begin 0 ⟨⟨session 0, .load⟩, ⟨Reference.token, some protocolMax⟩⟩,
    .act 1 (.own .proceed), .act 0 (.own .proceed),
    .act 1 (.exchange (.delivered moment)), .act 0 (.exchange (.lostReply moment .timeout)),
    .act 1 (.exchange (.delivered moment))]

def fitsIn (cfg : Config (Fin 2) WebCommand (Except String SyncFeedback) (World (Fin 2) Bytes) WebOp
    WebReply) : Event (Fin 2) WebCommand WebChoice → Bool
  | .begin _ command => isHeaderValue command.client.authorization &&
      (command.client.protocol == none || command.client.protocol == some protocolMax)
  | .act i _ =>
      match cfg.task i with
      | some ⟨_, _, _, .call (.exchange request) _⟩ =>
          decide ((wire.plainBytes request.body).length ≤ bodyLimit)
      | _ => true
  | .edit _ _ => true

theorem meets_of_fitsIn (cfg : Config (Fin 2) WebCommand (Except String SyncFeedback)
    (World (Fin 2) Bytes) WebOp WebReply) (event : Event (Fin 2) WebCommand WebChoice)
    (fits : fitsIn cfg event = true) : (fitting wire fun _ _ => True).Meets cfg event := by
  cases event with
  | edit => exact trivial
  | begin i command =>
      obtain ⟨token, protocol⟩ := Bool.and_eq_true_iff.mp fits
      refine ⟨trivial, token, ?_⟩
      rcases Bool.or_eq_true_iff.mp protocol with fresh | ready
      · exact .inl (beq_iff_eq.mp fresh)
      · exact .inr (beq_iff_eq.mp ready)
  | act i choice =>
      intro command start journal op next waiting
      cases op with
      | own => exact trivial
      | exchange request =>
          rw [fitsIn, waiting] at fits
          have short : (wire.plainBytes request.body).length ≤ bodyLimit := of_decide_eq_true fits
          exact short

/-- Both commands come to their end. -/
theorem online_run_load : ∃ past' cfg' past,
    (webSystem axum wire app).Trace (fitting wire fun _ _ => True) (· = mistaken) (cfg' :: past') ∧
    (profileSystem wire).Trace (running fun _ _ => True) (· = mistaken) past ∧
    Layering.Mirrors WebCommand.device past (cfg' :: past') ∧ ∀ i : Fin 2, ∃ outcome,
      (Layering.seen WebCommand.device (cfg'.task i)).bind (·.2.2) = some outcome := by
  have ends : (((webSystem axum wire app).checked fitsIn loadSchedule
      ⟨mistaken, fun _ => none⟩).any fun cfg => decide (∀ i : Fin 2,
        ((Layering.seen WebCommand.device (cfg.task i)).bind (·.2.2)).isSome = true)) = true := by
    decide +kernel
  obtain ⟨cfg', ran, ended⟩ := (Option.any_eq_true _ _).mp ends
  have starts : (webSystem axum wire app).Trace (fitting wire fun _ _ => True) (· = mistaken)
      [⟨mistaken, fun _ => none⟩] := .init rfl
  obtain ⟨past', trace'⟩ := starts.checked meets_of_fitsIn loadSchedule ran
  obtain ⟨past, trace, mirrors⟩ := online_run wire_textual (by decide +kernel) (fun _ _ => True)
    (fun w first => ⟨shortHistory, by rw [first]; rfl⟩) trace'
  exact ⟨past', cfg', past, trace', trace, mirrors, fun i =>
    Option.isSome_iff_exists.mp (of_decide_eq_true ended i)⟩

end
end HeliumSync
