import InkTime.Providers.OpenAICompatible
import InkTime.Providers.Permits

/-!
# One paid request

A request that may have reached a provider stops the route, unless its response makes an exception without a flag.
-/

namespace InkTime.Providers

open Json (Value)
open Checked

variable {runtime : Runtime} {provider : Provider}

/-! ### Exceptions without a flag -/

/-- Reading the completion raises an exception that no layer expects. -/
def misread (runtime : Runtime) (provider : Provider) (payload : Value) : Bool :=
  if provider.responses then
    match responsesToCompletion runtime payload with
    | .error .type => true
    | _ => false
  else (choiceMessage payload).any fun message => !message.isObject

/-- The error of the provider nests too deep in its texts, and is not one of the billing codes that are looked up first. -/
def misdescribed (runtime : Runtime) (provider : Provider) (status : ℤ) (body : Value) : Bool :=
  !(errorInfo runtime body).isOk && !(decide (provider.kind = .openai ∧ status = 429) && exhausted body)

/-- The response makes an exception without a flag. -/
def escapes (runtime : Runtime) (provider : Provider) (response : Response) : Bool :=
  if response.status < 300 then
    match response.body with
    | .json payload => payload.isObject && misread runtime provider payload
    | .notJson => false
    | .tooDeep => true
  else if 400 ≤ response.status ∧ response.status < 500 then
    match response.body with
    | .json body => misdescribed runtime provider response.status body
    | .notJson => false
    | .tooDeep => true
  else false

/-- The call ended in an exception that lets the route go on. -/
def unflagged : Except Failure Usage → Bool
  | .ok _ => false
  | .error failure => !failure.raised.started

lemma unflagged_requestStarted {error : HttpError} (h : error.requestStarted = true) :
    unflagged (.error (.http error)) = false := by
  simp [unflagged, Failure.raised, Raised.started, h]

lemma errorInfo_cases (runtime : Runtime) (body : Value) :
    errorInfo runtime body = .ok () ∨ errorInfo runtime body = .error .recursion := by
  unfold errorInfo
  split
  · dsimp only
    split
    · exact .inr rfl
    · exact .inl rfl
    · split
      · exact .inr rfl
      · exact .inl rfl
      · exact .inl rfl
  · exact .inl rfl

lemma checkItem_error {item : Value} {failure : Failure} (h : checkItem item = .error failure) :
    failure = .type ∨ failure = malformed := by
  unfold checkItem at h
  split at h
  · cases h
  · split at h
    · split at h
      · cases h
      · exact .inl (Except.error.inj h).symm
    · exact .inr (Except.error.inj h).symm

lemma checkOutput_error {output : Value} {failure : Failure} (h : checkOutput output = .error failure) :
    failure = .type ∨ failure = malformed := by
  unfold checkOutput at h
  split at h
  · next items =>
    induction items with
    | nil => cases h
    | cons item items ih =>
      obtain hitem | ⟨_, -, hitems⟩ := bind_eq_error.mp h
      · exact checkItem_error hitem
      · exact ih hitems
  · exact .inr (Except.error.inj h).symm

lemma responsesToCompletion_error {payload : Value} {failure : Failure}
    (h : responsesToCompletion runtime payload = .error failure) : failure = .type ∨ failure = malformed := by
  obtain hhashable | ⟨_, -, h⟩ := bind_eq_error.mp h
  · exact .inl (require_eq_error.mp hhashable).2.symm
  · obtain hstatus | ⟨_, -, h⟩ := bind_eq_error.mp h
    · exact .inr (require_eq_error.mp hstatus).2.symm
    · obtain houtput | ⟨_, -, h⟩ := bind_eq_error.mp h
      · exact checkOutput_error houtput
      · exact .inr (orError_eq_error.mp h).2.symm

/-- The envelope of a Responses answer has a message. -/
lemma choiceMessage_completed {payload completed : Value} (h : responsesToCompletion runtime payload = .ok completed) :
    ∃ message, choiceMessage completed = some message ∧ message.isObject = true := by
  have hcompleted : Import.responsesToCompletion runtime.texts payload = some completed := by
    obtain ⟨_, -, h⟩ := bind_eq_ok.mp h
    obtain ⟨_, -, h⟩ := bind_eq_ok.mp h
    obtain ⟨_, -, h⟩ := bind_eq_ok.mp h
    exact orError_eq_ok.mp h
  unfold Import.responsesToCompletion at hcompleted
  dsimp only at hcompleted
  split at hcompleted
  · split at hcompleted
    · obtain ⟨gathered, -, hcompleted⟩ := Option.bind_eq_some_iff.mp hcompleted
      split at hcompleted
      · obtain rfl := Option.some.inj hcompleted
        exact ⟨_, rfl, rfl⟩
      · cases hcompleted
    · cases hcompleted
  · cases hcompleted

/-! ### One POST -/

lemma unflagged_answered {response : Response} (h : response.status < 300) :
    unflagged (readCompletion runtime provider response) = escapes runtime provider response := by
  have hnot : ¬ 400 ≤ response.status := by omega
  unfold readCompletion jsonResponse escapes
  rw [if_neg hnot, if_pos h]
  cases response.body with
  | tooDeep => rfl
  | notJson => rfl
  | json payload =>
    dsimp only
    cases hobject : payload.isObject with
    | false => rfl
    | true =>
      rw [if_pos rfl, Bool.true_and]
      rw [show (Except.ok payload >>= completionPayload runtime provider) = completionPayload runtime provider payload from rfl]
      unfold completionPayload misread
      cases provider.responses with
      | false =>
        rw [if_neg Bool.false_ne_true, if_neg Bool.false_ne_true]
        dsimp only
        cases choiceMessage payload with
        | none => rfl
        | some message =>
          rw [Option.any_some]
          dsimp only
          cases message.isObject with
          | false => rfl
          | true => rfl
      | true =>
        cases hcompleted : responsesToCompletion runtime payload with
        | error failure =>
          obtain rfl | rfl := responsesToCompletion_error hcompleted
          · rfl
          · rfl
        | ok completed =>
          obtain ⟨message, hmessage, hobject⟩ := choiceMessage_completed hcompleted
          rw [if_pos rfl, if_pos rfl]
          dsimp only
          rw [hmessage]
          dsimp only
          rw [if_pos hobject]
          rfl

lemma raiseOpenaiBillingError_cases (runtime : Runtime) (provider : Provider) (response : Response) :
    raiseOpenaiBillingError provider response = .ok () ∨
      (∃ error, raiseOpenaiBillingError provider response = .error (.http error) ∧ error.requestStarted = true) ∨
      describe runtime response.body = .error .recursion ∧ raiseOpenaiBillingError provider response = .error .recursion := by
  unfold raiseOpenaiBillingError
  split
  · exact .inl rfl
  · cases response.body with
    | tooDeep => exact .inr (.inr ⟨rfl, rfl⟩)
    | notJson => exact .inl rfl
    | json body =>
      dsimp only
      split
      · exact .inr (.inl ⟨_, rfl, rfl⟩)
      · exact .inl rfl

/-- A refusal escapes where its body cannot be described. -/
lemma unflagged_refused {response : Response} (h : 400 ≤ response.status) :
    unflagged (readCompletion runtime provider response) = !(describe runtime response.body).isOk := by
  have hdescribe : describe runtime response.body = .ok () ∨ describe runtime response.body = .error .recursion := by
    unfold describe
    cases response.body with
    | tooDeep => exact .inr rfl
    | notJson => exact .inl rfl
    | json body => exact errorInfo_cases runtime body
  unfold readCompletion jsonResponse
  rw [if_pos h]
  obtain hdescribe | hdescribe := hdescribe
  · obtain hbilling | ⟨error, hbilling, -⟩ | ⟨hdeep, -⟩ := raiseOpenaiBillingError_cases runtime provider response
    · rw [hdescribe, hbilling]
      rfl
    · rw [hdescribe, hbilling]
      rfl
    · rw [hdescribe] at hdeep
      cases hdeep
  · rw [hdescribe]
    rfl

/-- The billing codes are looked up before a refusal for too many requests is described. -/
lemma misdescribed_limited {response : Response} (h : response.status = 429) :
    (match response.body with
      | .json body => misdescribed runtime provider response.status body
      | .notJson => false
      | .tooDeep => true) =
    match raiseOpenaiBillingError provider response with
    | .ok _ => !(describe runtime response.body).isOk
    | .error failure => unflagged (.error failure) := by
  unfold raiseOpenaiBillingError misdescribed
  by_cases hkind : provider.kind = .openai
  · rw [if_neg (by simp [hkind, h])]
    cases response.body with
    | tooDeep => rfl
    | notJson => rfl
    | json body =>
      dsimp only
      rw [decide_eq_true ⟨hkind, h⟩, Bool.true_and]
      cases exhausted body with
      | false =>
        rw [Bool.not_false, Bool.and_true]
        rfl
      | true =>
        rw [Bool.not_true, Bool.and_false]
        rfl
  · rw [if_pos (.inl hkind)]
    cases response.body with
    | tooDeep => rfl
    | notJson => rfl
    | json body =>
      dsimp only
      rw [decide_eq_false (by simp [hkind]), Bool.false_and, Bool.not_false, Bool.and_true]
      rfl

lemma misdescribed_other {response : Response} (h : response.status ≠ 429) :
    (match response.body with
      | .json body => misdescribed runtime provider response.status body
      | .notJson => false
      | .tooDeep => true) = !(describe runtime response.body).isOk := by
  cases response.body with
  | tooDeep => rfl
  | notJson => rfl
  | json body =>
    dsimp only
    rw [misdescribed, decide_eq_false (by simp [h]), Bool.false_and, Bool.not_false, Bool.and_true]
    rfl

/-- The route goes on after a connect timeout, or after a response that escapes. -/
lemma unflagged_postCompletion (runtime : Runtime) (provider : Provider) (transport : Transport) :
    unflagged (postCompletion runtime provider transport) =
      match transport with
      | .connectTimeout => true
      | .response response => escapes runtime provider response
      | _ => false := by
  cases transport with
  | connectTimeout => rfl
  | readTimeout => rfl
  | requestException => rfl
  | response response =>
    dsimp only
    unfold postCompletion send
    by_cases hredirect : 300 ≤ response.status ∧ response.status < 400
    · dsimp only
      rw [if_pos hredirect, escapes, if_neg (by omega), if_neg (by omega)]
      rfl
    by_cases hserver : 500 ≤ response.status
    · dsimp only
      rw [if_neg hredirect, if_neg (by omega : response.status ≠ 429), if_pos hserver, escapes, if_neg (by omega), if_neg (by omega)]
      rfl
    by_cases hanswered : response.status < 300
    · dsimp only
      rw [if_neg hredirect, if_neg (by omega : response.status ≠ 429), if_neg hserver]
      exact unflagged_answered hanswered
    have hrefused : unflagged (readCompletion runtime provider response) = !(describe runtime response.body).isOk :=
      unflagged_refused (by omega)
    have hclient : 400 ≤ response.status ∧ response.status < 500 := by omega
    dsimp only
    rw [if_neg hredirect, escapes, if_neg hanswered, if_pos hclient]
    by_cases hlimited : response.status = 429
    · rw [if_pos hlimited, misdescribed_limited hlimited]
      obtain hbilling | ⟨error, hbilling, hstarted⟩ | ⟨-, hbilling⟩ := raiseOpenaiBillingError_cases runtime provider response
      · rw [hbilling]
        exact hrefused
      · rw [hbilling]
        change unflagged (.error (.http (if error.ambiguous || error.httpStatus.isSome then error.started else error))) =
          unflagged (.error (.http error))
        rw [unflagged_requestStarted hstarted]
        split
        · rfl
        · exact unflagged_requestStarted hstarted
      · rw [hbilling]
        rfl
    · rw [if_neg hlimited, if_neg hserver, misdescribed_other hlimited]
      exact hrefused

/-! ### One call on an acquired channel -/

/-- The request may have reached the provider. -/
def Exchange.delivered (exchange : Exchange) : Bool :=
  exchange.bodyBuilds &&
    match exchange.transport with
    | .connectTimeout => false
    | _ => true

/-- The call of the provider ends in an exception without a flag. -/
def Exchange.unflagged (runtime : Runtime) (provider : Provider) (exchange : Exchange) : Bool :=
  !exchange.bodyBuilds ||
    match exchange.transport with
    | .connectTimeout => true
    | .response response => escapes runtime provider response
    | _ => false

lemma raised_isException (failure : Failure) : failure.raised.isException = true := by
  rcases failure with error | _ | _ | _
  · rfl
  · rfl
  · rfl
  · rfl

lemma raised_readable (failure : Failure) : failure.raised.retryAfter.read ≠ none := by
  rcases failure with error | _ | _ | _
  · unfold Failure.raised
    dsimp only
    cases error.retryAfter with
    | none => simp [RetryAfter.read]
    | some seconds => simp [RetryAfter.read]
  · simp [Failure.raised, RetryAfter.read]
  · simp [Failure.raised, RetryAfter.read]
  · simp [Failure.raised, RetryAfter.read]

lemma analyze_cases (runtime : Runtime) (provider : Provider) (exchange : Exchange) :
    (exchange.unflagged runtime provider = false ∧ ∃ usage, analyze runtime provider exchange = .ok usage) ∨
      ∃ error, analyze runtime provider exchange = .error error ∧ error.isException = true ∧ error.retryAfter.read ≠ none ∧
        exchange.unflagged runtime provider = !error.started := by
  unfold analyze Exchange.unflagged
  cases exchange.bodyBuilds with
  | false => exact .inr ⟨_, rfl, rfl, by simp [RetryAfter.read], rfl⟩
  | true =>
    rw [if_pos rfl, Bool.not_true, Bool.false_or, ← unflagged_postCompletion]
    cases postCompletion runtime provider exchange.transport with
    | ok usage => exact .inl ⟨rfl, usage, rfl⟩
    | error failure => exact .inr ⟨_, rfl, raised_isException failure, raised_readable failure, rfl⟩

variable {channel : Channel} {thread : Nat} {cell : Cell}

lemma giveBack_failure {quotaRelease : Option Raised} (htaken : 0 < cell.taken) (hrecorded : recorded channel cell thread = 1) :
    (giveBack channel thread quotaRelease cell).2 = if channel.sharedQuota then quotaRelease else none := by
  have hpermit : (releasePermit (forget channel thread cell)).2 = none := by
    rw [releasePermit, taken_forget, if_neg (by omega)]
  change ((releasePermit (forget channel thread cell)).2 <|> _) = _
  rw [hpermit]
  change (if channel.sharedQuota && (cell.quotaReservations thread).isSome then quotaRelease else none) = _
  unfold recorded at hrecorded
  cases hshared : channel.sharedQuota with
  | false => rfl
  | true =>
    rw [hshared, if_pos rfl] at hrecorded
    have hnoted : (cell.quotaReservations thread).isSome = true := by
      cases h : (cell.quotaReservations thread).isSome with
      | true => rfl
      | false => simp [h] at hrecorded
    rw [hnoted]
    rfl

lemma releaseChannel_failure {failureThreshold : Nat} {usage : Option Usage} {error : Option Raised} {now : ℚ}
    {quotaRelease : Option Raised} (hread : ∀ e, error = some e → e.retryAfter.read ≠ none) (htaken : 0 < cell.taken)
    (hrecorded : recorded channel cell thread = 1) :
    (releaseChannel channel failureThreshold thread usage error now quotaRelease cell).2 =
      if channel.sharedQuota then quotaRelease else none := by
  have hreadable : (settle channel failureThreshold usage error now cell).2 = true := settle_readable hread
  have hcounts := counts_settle channel failureThreshold usage error now cell
  unfold releaseChannel
  cases hsettle : settle channel failureThreshold usage error now cell with
  | mk settled readable =>
    rw [hsettle] at hreadable hcounts
    dsimp only at hreadable hcounts ⊢
    have hsettled : settled.taken = cell.taken := congrArg Prod.fst hcounts
    have hnoted : recorded channel settled = recorded channel cell := congrArg Prod.snd hcounts
    rw [hreadable]
    dsimp only
    exact giveBack_failure (by omega) (by rw [hnoted, hrecorded])

/-- What a request on one channel meets. -/
structure Contact where
  surroundings : Attempt := {}
  runtime : Runtime
  provider : Provider := {}
  exchange : Exchange

def Contact.attempt (contact : Contact) : Attempt :=
  { contact.surroundings with call := analyze contact.runtime contact.provider contact.exchange }

/-- The route goes on after the call: its exception has no flag, and the release of the channel raises nothing. -/
def Contact.goesOn (channel : Channel) (contact : Contact) : Bool :=
  contact.exchange.unflagged contact.runtime contact.provider && !(channel.sharedQuota && contact.surroundings.quotaRelease.isSome)

lemma complete_goesOn (failureThreshold : Nat) {contact : Contact} (htaken : 0 < cell.taken)
    (hrecorded : recorded channel cell thread = 1) :
    (∃ error, (complete channel failureThreshold thread contact.attempt cell).2 = .failedOver error) ↔
      contact.goesOn channel = true := by
  unfold complete Contact.goesOn
  obtain ⟨hflagged, usage, hcall⟩ | ⟨error, hcall, hexception, hread, hunflagged⟩ :=
    analyze_cases contact.runtime contact.provider contact.exchange
  · have hattempt : contact.attempt.call = .ok usage := hcall
    rw [hattempt, hflagged, Bool.false_and]
    dsimp only
    refine ⟨?_, fun h => absurd h Bool.false_ne_true⟩
    split
    · rintro ⟨_, ⟨⟩⟩
    · rintro ⟨_, ⟨⟩⟩
  · have hattempt : contact.attempt.call = .error error := hcall
    have hreleased : (releaseChannel channel failureThreshold thread none (some error) contact.attempt.releaseAt
        contact.attempt.quotaRelease cell).2 = if channel.sharedQuota then contact.surroundings.quotaRelease else none :=
      releaseChannel_failure (by rintro e ⟨⟩; exact hread) htaken hrecorded
    rw [hattempt, hunflagged]
    dsimp only
    rw [hexception, Bool.not_true, if_neg Bool.false_ne_true]
    split
    · next cell' failure hrelease =>
      rw [hrelease] at hreleased
      dsimp only at hreleased
      have hraises : (channel.sharedQuota && contact.surroundings.quotaRelease.isSome) = true := by
        split at hreleased
        · next hshared => rw [hshared, ← hreleased, Option.isSome_some, Bool.and_self]
        · cases hreleased
      rw [hraises, Bool.not_true, Bool.and_false]
      exact ⟨by rintro ⟨_, ⟨⟩⟩, fun h => absurd h Bool.false_ne_true⟩
    · next cell' hrelease =>
      rw [hrelease] at hreleased
      dsimp only at hreleased
      have hquiet : (channel.sharedQuota && contact.surroundings.quotaRelease.isSome) = false := by
        split at hreleased
        · next hshared => rw [← hreleased, Option.isSome_none, Bool.and_false]
        · next hshared => rw [Bool.not_eq_true] at hshared; rw [hshared, Bool.false_and]
      rw [hquiet, Bool.not_false, Bool.and_true]
      cases error.started with
      | true => exact ⟨by rintro ⟨_, ⟨⟩⟩, fun h => absurd h Bool.false_ne_true⟩
      | false => exact ⟨fun _ => rfl, fun _ => ⟨error, rfl⟩⟩

/-! ### Along the route -/

section

variable {κ : Type} [DecidableEq κ]

/-- What `acquire_channel` answers in the state before the call. -/
def admission (router : Router κ) (thread : Nat) (contacts : κ → Contact) (state : State κ) (id : κ) : Except Raised Bool :=
  (acquireChannel (router.channel id) thread (contacts id).attempt (state id)).2

/-- Some provider on the way is called. -/
def reaches (admission : κ → Except Raised Bool) : List κ → Bool
  | [] => false
  | id :: rest =>
    match admission id with
    | .error _ => false
    | .ok false => reaches admission rest
    | .ok true => true

/-- A request that may have reached its provider ends without a flag, and another provider is called after it. -/
def repeats (admission : κ → Except Raised Bool) (delivered goesOn : κ → Bool) : List κ → Bool
  | [] => false
  | id :: rest =>
    match admission id with
    | .error _ => false
    | .ok false => repeats admission delivered goesOn rest
    | .ok true => goesOn id && if delivered id then reaches admission rest else repeats admission delivered goesOn rest

/-- The providers that are called. -/
def callsAlong (admission : κ → Except Raised Bool) (goesOn : κ → Bool) : List κ → List κ
  | [] => []
  | id :: rest =>
    match admission id with
    | .error _ => []
    | .ok false => callsAlong admission goesOn rest
    | .ok true => id :: if goesOn id then callsAlong admission goesOn rest else []

/-- At most one request may have reached its provider, and no other provider is called after it. -/
def SentOnce (delivered : κ → Bool) (called : List κ) : Prop :=
  called.countP delivered ≤ 1 ∧ ∀ before id after, called = before ++ id :: after → delivered id = true → after = []

omit [DecidableEq κ] in
lemma sentOnce_nil (delivered : κ → Bool) : SentOnce delivered [] :=
  ⟨by simp, fun before id after h => absurd h.symm (by simp)⟩

omit [DecidableEq κ] in
lemma sentOnce_cons_delivered {delivered : κ → Bool} {id : κ} {called : List κ} (h : delivered id = true) :
    SentOnce delivered (id :: called) ↔ called = [] := by
  constructor
  · intro hsent
    exact hsent.2 [] id called rfl h
  · rintro rfl
    refine ⟨by simp [h], fun before other after hcalled _ => ?_⟩
    have hlength := congrArg List.length hcalled
    rw [List.length_append, List.length_cons, List.length_cons, List.length_nil] at hlength
    exact List.eq_nil_of_length_eq_zero (by omega)

omit [DecidableEq κ] in
lemma sentOnce_cons_undelivered {delivered : κ → Bool} {id : κ} {called : List κ} (h : delivered id = false) :
    SentOnce delivered (id :: called) ↔ SentOnce delivered called := by
  unfold SentOnce
  rw [List.countP_cons_of_neg (by simp [h])]
  refine and_congr_right fun _ => ⟨fun hsplit before other after hcalled => ?_, fun hsplit before other after hcalled hother => ?_⟩
  · exact hsplit (id :: before) other after (by rw [hcalled]; rfl)
  · cases before with
    | nil =>
      obtain ⟨rfl, -⟩ := List.cons.inj hcalled
      rw [h] at hother
      cases hother
    | cons first before => exact hsplit before other after (List.cons.inj hcalled).2 hother

omit [DecidableEq κ] in
lemma callsAlong_eq_nil {admission : κ → Except Raised Bool} {goesOn : κ → Bool} {ids : List κ} :
    callsAlong admission goesOn ids = [] ↔ reaches admission ids = false := by
  induction ids with
  | nil => simp [callsAlong, reaches]
  | cons id rest ih =>
    unfold callsAlong reaches
    split
    · simp
    · exact ih
    · simp

omit [DecidableEq κ] in
lemma sentOnce_callsAlong {admission : κ → Except Raised Bool} {delivered goesOn : κ → Bool} {ids : List κ} :
    SentOnce delivered (callsAlong admission goesOn ids) ↔ repeats admission delivered goesOn ids = false := by
  induction ids with
  | nil => simp [callsAlong, repeats, sentOnce_nil]
  | cons id rest ih =>
    unfold callsAlong repeats
    split
    · simp [sentOnce_nil]
    · exact ih
    · cases hdelivered : delivered id with
      | true =>
        rw [sentOnce_cons_delivered hdelivered, if_pos rfl]
        cases goesOn id with
        | true => rw [if_pos rfl, Bool.true_and, callsAlong_eq_nil]
        | false => simp
      | false =>
        rw [sentOnce_cons_undelivered hdelivered, if_neg Bool.false_ne_true]
        cases goesOn id with
        | true => rw [if_pos rfl, Bool.true_and, ih]
        | false => simp [sentOnce_nil]

variable {router : Router κ} {contacts : κ → Contact}

lemma admission_update {state : State κ} {id other : κ} {cell : Cell} (h : other ≠ id) :
    admission router thread contacts (Function.update state id cell) other = admission router thread contacts state other := by
  unfold admission
  rw [Function.update_of_ne h]

lemma callsAlong_update {goesOn : κ → Bool} {ids : List κ} {state : State κ} {id : κ} {cell : Cell} (h : id ∉ ids) :
    callsAlong (admission router thread contacts (Function.update state id cell)) goesOn ids =
      callsAlong (admission router thread contacts state) goesOn ids := by
  induction ids with
  | nil => rfl
  | cons other rest ih =>
    have hother : other ≠ id := fun heq => h (heq ▸ List.mem_cons_self)
    unfold callsAlong
    rw [admission_update hother, ih fun hmem => h (List.mem_cons_of_mem _ hmem)]

lemma route_called {ids : List κ} {lastError : Option Raised} {state : State κ} (hnodup : ids.Nodup) :
    (route router thread (fun id => (contacts id).attempt) ids lastError state).2.1 =
      callsAlong (admission router thread contacts state) (fun id => (contacts id).goesOn (router.channel id)) ids := by
  induction ids generalizing lastError state with
  | nil => rfl
  | cons id rest ih =>
    obtain ⟨hnew, hrest⟩ := List.nodup_cons.mp hnodup
    unfold route callsAlong
    split
    · next cell error hacquire =>
      have hadmission : admission router thread contacts state id = .error error := congrArg Prod.snd hacquire
      rw [hadmission]
    · next cell hacquire =>
      have hadmission : admission router thread contacts state id = .ok false := congrArg Prod.snd hacquire
      rw [hadmission]
      exact (ih hrest).trans (callsAlong_update hnew)
    · next acquired hacquire =>
      have hadmission : admission router thread contacts state id = .ok true := congrArg Prod.snd hacquire
      rw [hadmission]
      dsimp only
      obtain ⟨hgrants, hcounts⟩ := acquire_true hacquire
      have htaken : acquired.taken = (state id).taken + 1 := congrArg Prod.fst hcounts
      have hrecorded : recorded (router.channel id) acquired thread = 1 := by
        have hnotes := congrFun (congrArg Prod.snd hcounts) thread
        simpa [counts, taken] using hnotes
      have hgoesOn : (∃ error, (complete (router.channel id) router.failureThreshold thread (contacts id).attempt acquired).2 =
          .failedOver error) ↔ (contacts id).goesOn (router.channel id) = true :=
        complete_goesOn router.failureThreshold (by omega) hrecorded
      split
      · next cell usage hcomplete =>
        rw [hcomplete] at hgoesOn
        rw [if_neg fun h => by obtain ⟨error, herror⟩ := hgoesOn.mpr h; cases herror]
      · next cell error hcomplete =>
        rw [hcomplete] at hgoesOn
        rw [if_neg fun h => by obtain ⟨error, herror⟩ := hgoesOn.mpr h; cases herror]
      · next cell error hcomplete =>
        rw [hcomplete] at hgoesOn
        rw [if_pos (hgoesOn.mp ⟨error, rfl⟩)]
        exact congrArg (id :: ·) ((ih hrest).trans (callsAlong_update hnew))

/-- A call sends at most one request that may be billed, exactly if no request that ends without a flag is followed by another. -/
theorem sent_once (router : Router κ) (thread : Nat) (contacts : κ → Contact) (state : State κ) :
    SentOnce (fun id => (contacts id).exchange.delivered)
        (execute router thread (fun id => (contacts id).attempt) state).2.1 ↔
      repeats (admission router thread contacts state) (fun id => (contacts id).exchange.delivered)
        (fun id => (contacts id).goesOn (router.channel id)) router.channels = false := by
  unfold execute
  rw [route_called router.distinct]
  exact sentOnce_callsAlong

end

/-- Two channels with limits of their own. -/
def twoChannels : Router Bool where
  channels := [true, false]
  distinct := by decide
  channel := fun _ => {}

/-- An answer with a message of null; none of its texts is read. -/
def nullMessage : Contact where
  runtime :=
    { bounded := fun _ => .text
      texts :=
        { intText := fun _ => none
          floatInt := fun _ => none
          floatText := fun _ => none
          str := fun _ => ""
          dumps := fun _ => ""
          column := fun _ => none
          estimateBatchCost := fun _ _ => none
          accepts := fun _ => true } }
  exchange :=
    { transport := .response
        { status := 200
          body := .json (.object [(.utf8 "choices", .array [.object [(.utf8 "message", .null)]])]) } }

/-- Both providers are called. -/
theorem null_message_sent_twice :
    ¬ SentOnce (fun _ => nullMessage.exchange.delivered)
      (execute twoChannels 0 (fun _ => nullMessage.attempt) fun _ => {}).2.1 := by
  have hcalled : (execute twoChannels 0 (fun _ => nullMessage.attempt) fun _ => {}).2.1 = [true, false] := by decide
  rw [hcalled]
  rintro ⟨hcount, -⟩
  exact absurd hcount (by decide)

end InkTime.Providers
