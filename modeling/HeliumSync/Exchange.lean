import HeliumSync.Answers
import HeliumSync.ApiClient

/-! What passes between client and server over HTTP comes to the operations of the shared world. -/
namespace HeliumSync
open Fallible (Fails)

/-- The answer of a transaction that is not taken for a success, nor for a failed authentication. -/
structure ApiError.Told (error : ApiError) : Prop where
  failed : 400 ≤ error.status
  known : error.status ≠ 401

theorem usual_told : Usual ApiError.Told where
  new failed known _ := ⟨failed, known⟩
  conflict := ⟨Nat.le_of_ble_eq_true rfl, nofun⟩

section
variable {ι R : Type} {A : Axum} {P : Primitives Bytes} {app : AppState}
  {moment : Moment} {sent : TransportRequest} {read : Json → Except String R} {w : World ι Bytes}

theorem World.ask_eq_commit {answer : Except ApiError R} (choice : Choice) :
    w.ask answer choice = w.commit (answer.map fun a => (a, w.server)) choice := by
  cases choice with
  | proceed => cases answer <;> rfl
  | lostReply e => cases answer <;> rfl
  | refused | lostRequest | sampled | metadata | failed | backedUp | failedBackedUp | failedReplaced
  | failedLost | installed | failedInstalled | edited | registered | revoked => rfl

/-- An error answer is taken for what it says. -/
theorem parseResponse_api {error : ApiError} (told : error.Told) :
    parseResponse P read (error.respond moment) = .error (.client (apiError error)) := by
  have body : errorBody P (error.respond moment) = ⟨error.code, error.message, moment.requestId,
      error.currentRevision, error.currentCursor⟩ := by
    rw [errorBody, ApiError.respond, P.parseText_json, Except.bind, readApiErrorBody_write]
  have failed : ¬ (200 ≤ (error.respond moment).status ∧ (error.respond moment).status < 300) :=
    fun success => absurd told.failed (Nat.not_le.mpr (success.2.trans (by decide)))
  have known : (error.respond moment).status ≠ 401 := told.known
  rw [parseResponse, if_neg failed, if_neg known]
  simp only [body]
  rfl

theorem parseResponse_document {document : Json} {a : R} {headers : List (String × String)}
    (round : read document = .ok a) :
    parseResponse P read ⟨200, headers, .json document⟩ = .ok a := by
  have success : 200 ≤ 200 ∧ 200 < 300 := by decide
  rw [parseResponse, if_pos success, P.parseText_json, Except.bind, round]
  rfl

theorem parseResponse_unauthorized {response : TransportResponse} (status : response.status = 401) :
    parseResponse P read response = .error (.client .apiAuthentication) := by
  have failed : ¬ (200 ≤ response.status ∧ response.status < 300) := by
    rw [status]
    decide
  rw [parseResponse, if_neg failed, if_pos status]

/-- Whatever the server does with a request, and whatever of it arrives, is an outcome of the
operation. -/
structure Carries (A : Axum) (P : Primitives Bytes) (app : AppState) (sent : TransportRequest)
    (read : Json → Except String R) (w : World ι Bytes)
    (exec : Choice → Option (World ι Bytes × Except ClientError R)) : Prop where
  lost : ∀ e, e.fromTransport → exec (.lostRequest e) = some (w, .error e)
  answered : ∀ moment, ∃ choice outcome,
    exec choice = some (w.setServer (router A P app moment sent w.server).2, outcome) ∧
    parseResponse P read (router A P app moment sent w.server).1 = outcome.mapError .client
  unanswered : ∀ moment e, e.fromTransport → ∃ choice,
    exec choice = some (w.setServer (router A P app moment sent w.server).2, .error e)

theorem World.commit_lost {answer : Except ApiError (R × Server Bytes)} {e : ClientError}
    (lost : e.fromTransport) : w.commit answer (.lostRequest e) = some (w, .error e) := if_pos lost

theorem router_ok {server server' : Server Bytes} {answer : Answer}
    (handled : handle A P app moment sent server = .ok (answer, server')) (plain : sent.method ≠ .head) :
    router A P app moment sent server = (answer.respond, server') := by
  simp only [router, handled, if_neg plain]

theorem router_error {server : Server Bytes} {refusal : Refusal}
    (handled : handle A P app moment sent server = .error refusal) (plain : sent.method ≠ .head) :
    router A P app moment sent server = (refusal.respond A moment, server) := by
  simp only [router, handled, if_neg plain]

/-- A transaction, or a query, behind a request that gets to its handler. -/
theorem carries_commit (write : R → Except String Json) {answer : Except ApiError (R × Server Bytes)}
    (handled : ∀ moment, Authorized P app sent →
      handle A P app moment sent w.server =
        (queried moment answer >>= fun out => pure (⟨200, some (write out.1)⟩, out.2)) ∨
      ∃ e, answer = .error e ∧ handle A P app moment sent w.server = .error (.api e))
    (plain : sent.method ≠ .head) (tells : Fails ApiError.Told answer)
    (round : ∀ out, answer = .ok out → ∃ document, write out.1 = .ok document ∧
      read document = .ok out.1) :
    Carries A P app sent read w (w.commit answer) := by
  -- What the server does, told apart by who asks, by its database and by the transaction.
  have ends : ∀ moment, (router A P app moment sent w.server).2 = w.server ∧
      (router A P app moment sent w.server).1.status = 401 ∨
      router A P app moment sent w.server = (ApiError.database.respond moment, w.server) ∨
      (∃ e, answer = .error e ∧
        router A P app moment sent w.server = (e.respond moment, w.server)) ∨
      ∃ out document, answer = .ok out ∧ write out.1 = .ok document ∧
        router A P app moment sent w.server =
          (Answer.respond ⟨200, some (.ok document)⟩, out.2) := by
    intro moment
    by_cases authorized : Authorized P app sent
    · rcases handled moment authorized with handled | ⟨e, failed, handled⟩
      · rw [queried] at handled
        split_ifs at handled with fault
        · exact .inr (.inl (router_error handled plain))
        · cases same : answer with
          | error e =>
              rw [same] at handled
              exact .inr (.inr (.inl ⟨e, rfl, router_error handled plain⟩))
          | ok out =>
              obtain ⟨document, written, _⟩ := round out same
              rw [same] at handled
              refine .inr (.inr (.inr ⟨out, document, rfl, written, ?_⟩))
              rw [← written]
              exact router_ok handled plain
      · exact .inr (.inr (.inl ⟨e, failed, router_error handled plain⟩))
    · have refused : (router A P app moment sent w.server).1.status = 401 ∧
          (router A P app moment sent w.server).2 = w.server := router_unauthorized authorized
      exact .inl ⟨refused.2, refused.1⟩
  refine ⟨fun _ => World.commit_lost, fun moment => ?_, fun moment e lost => ?_⟩
  · rcases ends moment with ⟨same, status⟩ | same | ⟨e, failed, same⟩ | ⟨out, document, ran, written, same⟩
    · exact ⟨.lostRequest .apiAuthentication, .error .apiAuthentication,
        by rw [same]; exact World.commit_lost rfl, parseResponse_unauthorized status⟩
    · rw [same]
      exact ⟨.refused, .error (apiError .database), rfl, parseResponse_api usual_told.database⟩
    · rw [same, failed]
      exact ⟨.proceed, .error (apiError e), rfl, parseResponse_api (tells e failed)⟩
    · obtain ⟨document', written', read'⟩ := round out ran
      cases written.symm.trans written'
      rw [same, ran]
      exact ⟨.proceed, .ok out.1, rfl, parseResponse_document read'⟩
  · rcases ends moment with ⟨same, _⟩ | same | ⟨_, _, same⟩ | ⟨out, _, ran, _, same⟩
    · exact ⟨.lostRequest e, by rw [same]; exact World.commit_lost lost⟩
    · exact ⟨.lostRequest e, by rw [same]; exact World.commit_lost lost⟩
    · exact ⟨.lostRequest e, by rw [same]; exact World.commit_lost lost⟩
    · rw [same, ran]
      exact ⟨.lostReply e, if_pos lost⟩

/-- A request that only asks. -/
theorem carries_ask (write : R → Except String Json) {answer : Except ApiError R}
    (handled : ∀ moment, Authorized P app sent →
      handle A P app moment sent w.server =
        (queried moment answer >>= fun a => pure (⟨200, some (write a)⟩, w.server)) ∨
      ∃ e, answer = .error e ∧ handle A P app moment sent w.server = .error (.api e))
    (plain : sent.method ≠ .head) (tells : Fails ApiError.Told answer)
    (round : ∀ a, answer = .ok a → ∃ document, write a = .ok document ∧ read document = .ok a) :
    Carries A P app sent read w (w.ask answer) := by
  have same : w.ask answer = w.commit (answer.map fun a => (a, w.server)) :=
    funext World.ask_eq_commit
  rw [same]
  refine carries_commit write (fun moment authorized => ?_) plain ?_ ?_
  · rcases handled moment authorized with handled | ⟨e, failed, handled⟩
    · left
      rw [handled, queried, queried]
      split_ifs
      · rfl
      · cases answer <;> rfl
    · exact .inr ⟨e, by rw [failed]; rfl, handled⟩
  · cases answer with
    | error e => exact fun error same => tells error (by cases same; rfl)
    | ok a => exact fun _ same => by cases same
  · cases answer with
    | error e => exact fun _ same => by cases same
    | ok a =>
        rintro _ ⟨⟩
        exact round a rfl

end
end HeliumSync
