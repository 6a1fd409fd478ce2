import QueryBridge.Proofs.Repl.Course
import QueryBridge.Repl.Loop

/-!
# Leaving an interactive session

When the loop has ended, requests may still be in flight. They are waited for until each of them is
answered or the user gives up; the replies that arrive until then are a list of arrivals, in any
order and cut off at any point. `answered` pairs each request that one of them answers with its
arrival.

Waiting splits the requests in flight into the answered ones, each recorded and shown once, and
those given up, which are counted and leave no trace in the log (`Accounted`). The same balance
holds while the loop runs: what was submitted is what was recorded and what is in flight
(`Loop.balance_run`). Hence the farewell reports exactly the requests of the whole session that were
neither recorded nor shown (`requests_accounted`).
-/

set_option autoImplicit false

namespace QueryBridge

namespace Session

/-! ## Replies one after the other -/

/-- A list holds the first element that meets a test, and what is left without that one. -/
theorem perm_cons_eraseP {α : Type} {p : α → Bool} {xs : List α} {x : α}
    (h : xs.find? p = some x) : xs.Perm (x :: xs.eraseP p) := by
  induction xs with
  | nil => cases h
  | cons y ys ih =>
      cases hy : p y with
      | true =>
          rw [List.find?_cons_of_pos hy] at h
          cases h
          rw [List.eraseP_cons_of_pos hy]
      | false =>
          rw [List.find?_cons_of_neg (by simp [hy])] at h
          rw [List.eraseP_cons_of_neg (by simp [hy])]
          exact ((ih h).cons y).trans (List.Perm.swap x y _)

/-- Up to their order, the requests in flight are the one that is answered and those that remain. -/
theorem inFlight_perm_applyOutcome {s : Session} {d : Direction} {request : Request}
    (h : s.pending? d = some request) (outcome : Outcome) (now : Instant) :
    s.inFlight.Perm (request :: (s.applyOutcome request outcome now).inFlight) := by
  have hdir := direction_of_pending h
  subst hdir
  exact perm_cons_eraseP h

/-- A reply that is applied takes one request out of those in flight. -/
theorem pendingCount_applyOutcome {s : Session} {d : Direction} {request : Request}
    (h : s.pending? d = some request) (outcome : Outcome) (now : Instant) :
    (s.applyOutcome request outcome now).pendingCount + 1 = s.pendingCount :=
  (inFlight_perm_applyOutcome h outcome now).length_eq.symm

/-- Whatever is no reply submits as many requests as it leaves more in flight. -/
theorem balance_step {s : Session} {op : Op}
    (h : ∀ d outcome now, op ≠ .complete d outcome now) :
    (s.step op).submitted.length + s.pendingCount =
      s.submitted.length + (s.step op).pendingCount := by
  cases op with
  | submit =>
      cases hs : s.submit.1 with
      | true =>
          have hflight : s.send.pendingCount = s.pendingCount + 1 := List.length_append
          rw [step_submit_of_accepted hs, submitted_send, hflight, List.length_append,
            List.length_singleton]
          omega
      | false => rw [step_submit_of_refused hs]
  | poll =>
      rw [step, submitted_poll]
      rfl
  | complete d outcome now => exact absurd rfl (h d outcome now)
  | setDirection d => rfl
  | edit d text => rfl
  | toggleHistory => rfl
  | clearHistory => rfl
  | load entry => rfl

/-- Unless a reply comes in, what is submitted is in flight. -/
theorem balance_run {s : Session} {ops : List Op}
    (h : ∀ op ∈ ops, ∀ d outcome now, op ≠ .complete d outcome now) :
    (s.run ops).submitted.length + s.pendingCount =
      s.submitted.length + (s.run ops).pendingCount := by
  induction ops generalizing s with
  | nil => rfl
  | cons op ops ih =>
      rw [List.forall_mem_cons] at h
      have hfirst := balance_step (s := s) h.1
      have hrest := ih (s := s.step op) h.2
      rw [run_cons]
      omega

end Session

namespace Repl

/-- The requests that arrivals answer, each with its arrival. An arrival answers the request of its
direction that is in flight when it comes. -/
def answered (s : Session) : List Arrival → List (Request × Arrival)
  | [] => []
  | arrival :: rest =>
    match s.pending? arrival.direction with
    | none => answered s rest
    | some request =>
      (request, arrival) :: answered (s.applyOutcome request arrival.outcome arrival.now) rest

/-- The entry that an answered request leaves in the log. -/
def entryOfAnswer (answer : Request × Arrival) : HistoryEntry :=
  Session.entryOf answer.1 answer.2.outcome answer.2.now

/-- The session after arrivals. -/
def arrive (s : Session) (arrivals : List Arrival) : Session :=
  s.run (arrivals.map Arrival.op)

section Arrivals

variable {s : Session}

theorem arrive_cons (arrival : Arrival) (rest : List Arrival) :
    arrive s (arrival :: rest) = arrive (s.step arrival.op) rest :=
  rfl

theorem answered_of_pending {arrival : Arrival} {rest : List Arrival} {request : Request}
    (h : s.pending? arrival.direction = some request) :
    answered s (arrival :: rest) = (request, arrival) :: answered (s.step arrival.op) rest := by
  rw [answered, h, step_op_of_pending h]

theorem answered_of_none {arrival : Arrival} {rest : List Arrival}
    (h : s.pending? arrival.direction = none) :
    answered s (arrival :: rest) = answered (s.step arrival.op) rest := by
  rw [answered, h, step_op_of_none h]

/-- What arrivals do to a session: requests in flight are answered or left, the answers are recorded
in the order of arrival, and nothing is submitted. -/
structure Settles (s : Session) (answers : List (Request × Arrival)) (after : Session) : Prop where
  requests : s.inFlight.Perm (answers.map Prod.fst ++ after.inFlight)
  log : after.history.entries = s.history.entries ++ answers.map entryOfAnswer
  submitted : after.submitted = s.submitted

/-- Replies that arrive one after another settle the requests that they are paired with, and no
others. -/
theorem settles (s : Session) (arrivals : List Arrival) :
    Settles s (answered s arrivals) (arrive s arrivals) := by
  induction arrivals generalizing s with
  | nil => exact ⟨List.Perm.refl _, (List.append_nil _).symm, rfl⟩
  | cons arrival rest ih =>
      have hrest := ih (s.step arrival.op)
      rw [arrive_cons]
      cases hp : s.pending? arrival.direction with
      | none =>
          rw [answered_of_none hp]
          rw [step_op_of_none hp] at hrest ⊢
          exact hrest
      | some request =>
          rw [answered_of_pending hp]
          rw [step_op_of_pending hp] at hrest ⊢
          constructor
          · have hfirst := Session.inFlight_perm_applyOutcome hp arrival.outcome arrival.now
            exact hfirst.trans (hrest.requests.cons request)
          · rw [hrest.log, List.map_cons]
            exact List.append_assoc _ [entryOfAnswer (request, arrival)] _
          · exact hrest.submitted.trans (Session.submitted_applyOutcome s request _ _)

theorem arrive_of_idle (h : s.inFlight = []) (arrivals : List Arrival) :
    answered s arrivals = [] ∧ arrive s arrivals = s := by
  induction arrivals with
  | nil => exact ⟨rfl, rfl⟩
  | cons arrival rest ih =>
      have hp := Session.pending?_of_idle h arrival.direction
      rw [answered_of_none hp, arrive_cons, step_op_of_none hp]
      exact ih

/-- Each answered request has the direction of its arrival. -/
theorem direction_of_mem_answered {arrivals : List Arrival} {answer : Request × Arrival}
    (h : answer ∈ answered s arrivals) :
    answer.2 ∈ arrivals ∧ answer.1.direction = answer.2.direction := by
  induction arrivals generalizing s with
  | nil => exact absurd h List.not_mem_nil
  | cons arrival rest ih =>
      cases hp : s.pending? arrival.direction with
      | none =>
          rw [answered_of_none hp] at h
          exact ⟨List.mem_cons_of_mem _ (ih h).1, (ih h).2⟩
      | some request =>
          rw [answered_of_pending hp] at h
          rcases List.mem_cons.1 h with rfl | h
          · exact ⟨List.mem_cons_self, Session.direction_of_pending hp⟩
          · exact ⟨List.mem_cons_of_mem _ (ih h).1, (ih h).2⟩

/-- A direction with nothing in flight gets nothing from arrivals. -/
theorem inFlightOf_arrive_of_nil {d : Direction} (h : s.inFlightOf d = [])
    (arrivals : List Arrival) : (arrive s arrivals).inFlightOf d = [] := by
  induction arrivals generalizing s with
  | nil => exact h
  | cons arrival rest ih =>
      rw [arrive_cons]
      refine ih ?_
      cases hp : s.pending? arrival.direction with
      | none => rw [step_op_of_none hp, h]
      | some request =>
          rw [step_op_of_pending hp, Session.inFlightOf_applyOutcome, h]
          split <;> rfl

/-- Where a reply of a direction has arrived, nothing of that direction is left in flight. -/
theorem inFlightOf_arrive_of_mem (h : s.OnePerBusy) {arrivals : List Arrival} {arrival : Arrival}
    (hmem : arrival ∈ arrivals) : (arrive s arrivals).inFlightOf arrival.direction = [] := by
  induction arrivals generalizing s with
  | nil => exact absurd hmem List.not_mem_nil
  | cons first rest ih =>
      rw [arrive_cons]
      rcases List.mem_cons.1 hmem with rfl | hmem
      · refine inFlightOf_arrive_of_nil ?_ rest
        cases hq : s.inFlightOf arrival.direction with
        | nil => rw [Arrival.op, Session.step_complete_of_nil hq, hq]
        -- The reply takes the one request of its direction.
        | cons request others =>
            have hdir : request.direction = arrival.direction :=
              Session.direction_of_inFlightOf_cons hq
            rw [Arrival.op, Session.step_complete_of_cons hq, Session.inFlightOf_applyOutcome,
              if_pos hdir.symm, hq, h.rest_eq_nil hq]
            rfl
      · exact ih (h.step first.op) hmem

/-- Replies of different directions that are in flight all find their request. -/
theorem answered_eq_of_nodup {arrivals : List Arrival} (hn : (arrivals.map Arrival.direction).Nodup)
    (hp : ∀ arrival ∈ arrivals, s.pending? arrival.direction ≠ none) :
    (answered s arrivals).map Prod.snd = arrivals := by
  induction arrivals generalizing s with
  | nil => rfl
  | cons arrival rest ih =>
      rw [List.map_cons, List.nodup_cons] at hn
      rw [List.forall_mem_cons] at hp
      obtain ⟨request, hrequest⟩ := Option.ne_none_iff_exists'.1 hp.1
      rw [answered_of_pending hrequest, List.map_cons, ih hn.2]
      -- The others are of the other direction, whose request stays in flight.
      intro other hother
      have hne : other.direction ≠ arrival.direction := by
        intro heq
        exact hn.1 (heq ▸ List.mem_map_of_mem hother)
      rw [Arrival.op, Session.pending?_step_complete_of_ne hne]
      exact hp.2 other hother

end Arrivals

/-! ## Waiting -/

/-- What answered requests put out: for each of them one result block, with the panel under it where
it is open. -/
def replyOutputs (prompt : Option String) (s : Session) : List (Request × Arrival) → List Output
  | [] => []
  | (request, arrival) :: rest =>
    .screen ⟨View.replyLines s request arrival.outcome arrival.now, prompt⟩ ::
      replyOutputs prompt (s.applyOutcome request arrival.outcome arrival.now) rest

/-- What a reply puts out that is received in sync with the view. -/
theorem output_receive {repl : Repl} (h : repl.InSync) {arrival : Arrival} {request : Request}
    (hp : repl.session.pending? arrival.direction = some request) :
    (repl.receive arrival).2.2 =
      [.screen ⟨View.replyLines repl.session request arrival.outcome arrival.now,
        repl.console.view.prompt⟩] := by
  have hlines := View.InSync.lines_applyOutcome h request arrival.outcome arrival.now
  rw [receive_of_pending hp]
  exact congrArg (fun lines => (repl.console.view.emit lines).map Output.screen) hlines

theorem inSync_receive {repl : Repl} {arrival : Arrival} {request : Request}
    (hp : repl.session.pending? arrival.direction = some request) :
    (repl.receive arrival).2.1.InSync := by
  rw [receive_of_pending hp]
  exact render_inSync _

theorem prompt_receive {repl : Repl} {arrival : Arrival} {request : Request}
    (hp : repl.session.pending? arrival.direction = some request) :
    (repl.receive arrival).2.1.console.view.prompt = repl.console.view.prompt := by
  rw [receive_of_pending hp]
  rfl

theorem hasPending_eq_false_iff (s : Session) : s.hasPending = false ↔ s.inFlight = [] := by
  rw [Session.hasPending, Bool.not_eq_false', List.isEmpty_iff]

theorem await_of_idle {repl : Repl} (h : repl.session.inFlight = []) (arrivals : List Arrival) :
    repl.await arrivals = (repl, []) := by
  cases arrivals with
  | nil => rfl
  | cons arrival rest =>
      have hidle : repl.console.session.hasPending = false := (hasPending_eq_false_iff _).2 h
      rw [await, hidle]
      rfl

/-- While something is in flight, the next reply is received, and the wait goes on from there. -/
theorem await_cons {repl : Repl} (h : repl.session.inFlight ≠ []) (arrival : Arrival)
    (rest : List Arrival) :
    repl.await (arrival :: rest) =
      (((repl.receive arrival).2.1.await rest).1,
        (repl.receive arrival).2.2 ++ ((repl.receive arrival).2.1.await rest).2) := by
  have hpending : repl.console.session.hasPending = true := by
    rw [← Bool.not_eq_false, hasPending_eq_false_iff]
    exact h
  rw [await, hpending]
  rfl

/-- Waiting applies what the arrivals answer and shows each of them. -/
theorem await_eq {repl : Repl} (h : repl.session.inFlight ≠ [] → repl.InSync)
    (arrivals : List Arrival) :
    (repl.await arrivals).1.session = arrive repl.session arrivals ∧
      (repl.await arrivals).2 =
        replyOutputs repl.console.view.prompt repl.session (answered repl.session arrivals) := by
  induction arrivals generalizing repl with
  | nil => exact ⟨rfl, rfl⟩
  | cons arrival rest ih =>
      by_cases hidle : repl.session.inFlight = []
      -- With nothing in flight the loop is over, and no arrival finds a request.
      · obtain ⟨hanswered, harrive⟩ := arrive_of_idle hidle (arrival :: rest)
        rw [await_of_idle hidle, hanswered, harrive]
        exact ⟨rfl, rfl⟩
      · have hsession := session_receive repl arrival
        rw [await_cons hidle, arrive_cons]
        cases hp : repl.session.pending? arrival.direction with
        | none =>
            rw [answered_of_none hp, step_op_of_none hp, receive_of_none hp]
            exact ih h
        | some request =>
            -- Each reply is shown before the next one comes, so the view stays in sync.
            have hsync : (repl.receive arrival).2.1.session.inFlight ≠ [] →
                (repl.receive arrival).2.1.InSync := fun _ => inSync_receive hp
            have hafter := ih hsync
            rw [hsession, prompt_receive hp] at hafter
            rw [answered_of_pending hp, output_receive (h hidle) hp, hafter.2, replyOutputs,
              step_op_of_pending hp]
            exact ⟨hafter.1.trans (by rw [step_op_of_pending hp]), rfl⟩

/-- What becomes of the requests in flight while an interactive session waits for arrivals: how many
are given up, the session afterwards and what was put out. -/
structure Accounted (repl : Repl) (arrivals : List Arrival) (abandoned : Nat) (last : Repl)
    (output : List Output) : Prop where
  /-- Each request in flight is answered once or left in flight. -/
  requests : repl.session.inFlight.Perm
    ((answered repl.session arrivals).map Prod.fst ++ last.session.inFlight)
  /-- The answered requests and those given up are all that were in flight. -/
  count : repl.session.pendingCount = (answered repl.session arrivals).length + abandoned
  /-- None is given up exactly if all are answered. -/
  none_iff : abandoned = 0 ↔
    (answered repl.session arrivals).length = repl.session.pendingCount
  /-- As many are given up as directions are still busy. -/
  busy : abandoned = (Direction.all.filter last.state.isBusy).length
  /-- A request is given up only if no reply of its direction arrived. -/
  unanswered : ∀ request ∈ last.session.inFlight, ∀ arrival ∈ arrivals,
    arrival.direction ≠ request.direction
  /-- Replies of different directions in flight are all applied, in their order. -/
  applied : (arrivals.map Arrival.direction).Nodup →
    (∀ arrival ∈ arrivals, repl.session.pending? arrival.direction ≠ none) →
    (answered repl.session arrivals).map Prod.snd = arrivals
  /-- The log gains one entry for each answered request, in the order of arrival. -/
  log : last.session.history.entries =
    repl.session.history.entries ++ (answered repl.session arrivals).map entryOfAnswer
  /-- No new entry is about a request that is given up. -/
  unrecorded : ∀ request ∈ last.session.inFlight,
    ∀ entry ∈ (answered repl.session arrivals).map entryOfAnswer,
      entry.direction ≠ request.direction
  /-- Nothing is submitted meanwhile. -/
  submitted : last.session.submitted = repl.session.submitted
  /-- Behind the notice of waiting, each answered request is shown by one result block. -/
  output : output = repl.waitingNotice ++
    replyOutputs repl.console.view.prompt repl.session (answered repl.session arrivals)

/-- The wait at the end accounts for all requests that were in flight at its beginning. -/
theorem accounted {repl : Repl} (hr : repl.Reachable) (arrivals : List Arrival) :
    Accounted repl arrivals (repl.finishPending arrivals).1 (repl.finishPending arrivals).2.1
      (repl.finishPending arrivals).2.2 := by
  have hone := hr.session.onePerBusy
  obtain ⟨hsession, houtput⟩ := await_eq hr.inSync_of_pending arrivals
  have hlast : (repl.finishPending arrivals).2.1.session = arrive repl.session arrivals := hsession
  have hsettles := settles repl.session arrivals
  have hcount : repl.session.pendingCount =
      (answered repl.session arrivals).length + (arrive repl.session arrivals).pendingCount := by
    have hlen := hsettles.requests.length_eq
    rwa [List.length_append, List.length_map] at hlen
  have habandoned : (repl.finishPending arrivals).1 =
      (arrive repl.session arrivals).pendingCount := congrArg Session.pendingCount hsession
  -- A direction has one request at most, and an arrival of the direction would have taken it.
  have hunanswered : ∀ request ∈ (arrive repl.session arrivals).inFlight, ∀ arrival ∈ arrivals,
      arrival.direction ≠ request.direction := by
    intro request hrequest arrival harrival heq
    have hnone := inFlightOf_arrive_of_mem hone harrival
    rw [Session.inFlightOf, List.filter_eq_nil_iff] at hnone
    exact hnone request hrequest (beq_iff_eq.2 heq.symm)
  constructor
  case requests => rw [hlast]; exact hsettles.requests
  case count => rw [habandoned]; exact hcount
  case none_iff =>
    rw [habandoned, hcount]
    omega
  case busy =>
    have hafter : (arrive repl.session arrivals).OnePerBusy := (hr.session.run _).onePerBusy
    rw [habandoned, hafter.pendingCount, ← hlast]
    rfl
  case unanswered => rw [hlast]; exact hunanswered
  case applied => exact answered_eq_of_nodup
  case log => rw [hlast]; exact hsettles.log
  case unrecorded =>
    rw [hlast]
    intro request hrequest entry hentry
    obtain ⟨answer, hanswer, rfl⟩ := List.mem_map.1 hentry
    obtain ⟨hmem, hdir⟩ := direction_of_mem_answered hanswer
    have hentryDir : (entryOfAnswer answer).direction = answer.2.direction := hdir
    rw [hentryDir]
    exact hunanswered request hrequest answer.2 hmem
  case submitted => rw [hlast]; exact hsettles.submitted
  case output => exact congrArg (repl.waitingNotice ++ ·) houtput

/-! ## The loop -/

namespace Loop

/-- The entry that an event of the loop leaves in the log: that of a reply which is received while
the loop waits and finds its request. -/
def recorded? (loop : Loop) : Event → Option HistoryEntry
  | .received arrival =>
    match loop.phase with
    | .waiting => (loop.repl.receive arrival).1
    | .left | .broken _ => none
  | .answered _ | .failed _ | .closed | .polled => none

/-- The entries that events of the loop leave in the log, the first one first, whether or not the
log is cleared in between. -/
def recorded (loop : Loop) : List Event → List HistoryEntry
  | [] => []
  | event :: rest => (loop.recorded? event).toList ++ (loop.step event).1.recorded rest

theorem run_cons (loop : Loop) (event : Event) (rest : List Event) :
    (loop.run (event :: rest)).1 = ((loop.step event).1.run rest).1 :=
  rfl

/-- A loop that no longer waits takes no event. -/
theorem step_of_phase_ne_waiting {loop : Loop} (h : loop.phase ≠ .waiting) (event : Event) :
    loop.step event = (loop, []) ∧ loop.recorded? event = none := by
  cases hphase : loop.phase with
  | waiting => exact absurd hphase h
  | left =>
      rw [step, hphase]
      cases event <;> simp [recorded?, hphase]
  | broken failure =>
      rw [step, hphase]
      cases event <;> simp [recorded?, hphase]

theorem step_of_waiting {loop : Loop} (h : loop.phase = .waiting) (event : Event) :
    loop.step event = loop.handle event := by
  rw [step, h]

/-- A reply is logged by a loop that waits as the session below logs it. -/
theorem recorded?_received_of_waiting {loop : Loop} (h : loop.phase = .waiting)
    (arrival : Arrival) : loop.recorded? (.received arrival) = (loop.repl.receive arrival).1 := by
  rw [recorded?, h]

/-- A line makes no reply. -/
theorem ne_complete_of_mem_inputOps {s : Session} {input : Input} {op : Session.Op}
    (h : op ∈ inputOps s input) (d : Direction) (outcome : Outcome) (now : Instant) :
    op ≠ .complete d outcome now := by
  rintro rfl
  cases input with
  | empty => exact absurd h List.not_mem_nil
  | text query => simp [inputOps] at h
  | command command =>
      cases command with
      | load number =>
          cases number with
          | none => exact absurd h List.not_mem_nil
          | some number => simp [inputOps, commandOps] at h
      | _ => simp [inputOps, commandOps] at h

/-- A line changes the session by the changes that it stands for; the prompt is no part of it. -/
theorem session_handle_answered (loop : Loop) (line : String) :
    (loop.handle (.answered line)).1.repl.session =
      loop.repl.session.run (inputOps loop.repl.session (Input.parse line)) := by
  have hsession := session_handleLine (loop.repl.setPrompt none) line
  rcases hline : (loop.repl.setPrompt none).handleLine line with ⟨goOn, after, output⟩
  rw [hline] at hsession
  rw [handle, hline]
  -- The next prompt, if there is one, is not part of the session.
  cases goOn with
  | true => exact hsession
  | false => exact hsession

theorem session_handle_received (loop : Loop) (arrival : Arrival) :
    (loop.handle (.received arrival)).1.repl.session = loop.repl.session.step arrival.op :=
  session_receive loop.repl arrival

/-- An event of the loop is a course of the session. -/
theorem exists_play_step (loop : Loop) (event : Event) :
    ∃ moves, (loop.step event).1.repl = loop.repl.play moves := by
  by_cases hphase : loop.phase = .waiting
  · rw [step_of_waiting hphase]
    cases event with
    | answered line =>
        rcases hline : (loop.repl.setPrompt none).handleLine line with ⟨goOn, after, output⟩
        have hplay : loop.repl.play [.prompt none, .line line] = after := congrArg (·.2.1) hline
        rw [handle, hline, ← hplay]
        cases goOn with
        | true =>
            refine ⟨[.prompt none, .line line, .prompt (some after.promptMessage)], ?_⟩
            rw [← hplay]
            rfl
        | false => exact ⟨[.prompt none, .line line], rfl⟩
    | failed failure =>
        refine ⟨[.prompt none], ?_⟩
        rw [handle]
        cases failure.isCancelled <;> rfl
    | closed => exact ⟨[.prompt none], rfl⟩
    | polled => exact ⟨[.poll], rfl⟩
    | received arrival => exact ⟨[.reply arrival], rfl⟩
  · rw [(step_of_phase_ne_waiting hphase event).1]
    exact ⟨[], rfl⟩

theorem reachable_run {loop : Loop} (h : loop.repl.Reachable) (events : List Event) :
    (loop.run events).1.repl.Reachable := by
  induction events generalizing loop with
  | nil => exact h
  | cons event rest ih =>
      obtain ⟨moves, hmoves⟩ := exists_play_step loop event
      rw [run_cons]
      exact ih (hmoves ▸ h.play moves)

theorem reachable_start (config : ReplConfig) : (start config).1.repl.Reachable :=
  ⟨config, [.render, .prompt (some _)], rfl⟩

/-- Every event keeps the balance: what was submitted is what was recorded and what is in flight. -/
theorem balance_step (loop : Loop) (event : Event) :
    (loop.step event).1.repl.session.submitted.length + loop.repl.session.pendingCount =
      loop.repl.session.submitted.length + (loop.recorded? event).toList.length +
        (loop.step event).1.repl.session.pendingCount := by
  by_cases hphase : loop.phase = .waiting
  · rw [step_of_waiting hphase]
    cases event with
    -- Of all events only a reply takes a request out of those in flight.
    | answered line =>
        rw [session_handle_answered]
        exact Session.balance_run fun op hop => ne_complete_of_mem_inputOps hop
    | failed failure =>
        rw [handle]
        cases failure.isCancelled <;> rfl
    | closed => rfl
    | polled =>
        have hpolled : (loop.handle .polled).1.repl.session = loop.repl.session.poll := rfl
        rw [hpolled, Session.submitted_poll]
        rfl
    | received arrival =>
        rw [recorded?_received_of_waiting hphase, session_handle_received]
        cases hp : loop.repl.session.pending? arrival.direction with
        | none =>
            rw [receive_of_none hp, step_op_of_none hp]
            rfl
        | some request =>
            have hone := Session.pendingCount_applyOutcome hp arrival.outcome arrival.now
            rw [receive_of_pending hp, step_op_of_pending hp, ← hone,
              Session.submitted_applyOutcome, Option.toList_some, List.length_singleton]
            omega
  · obtain ⟨hstep, hnone⟩ := step_of_phase_ne_waiting hphase event
    rw [hstep, hnone]
    rfl

/-- Over a run of the loop, what was in flight or has been submitted is logged or in flight. -/
theorem balance_run (loop : Loop) (events : List Event) :
    (loop.run events).1.repl.session.submitted.length + loop.repl.session.pendingCount =
      loop.repl.session.submitted.length + (loop.recorded events).length +
        (loop.run events).1.repl.session.pendingCount := by
  induction events generalizing loop with
  | nil => rfl
  | cons event rest ih =>
      have hfirst := loop.balance_step event
      have hrest := ih (loop.step event).1
      rw [run_cons, recorded, List.length_append]
      omega

/-- An event leaves an entry in the log and is shown by one result block, with the panel under it
where it is open. -/
structure Shows (loop : Loop) (event : Event) (entry : HistoryEntry) : Prop where
  log : (loop.step event).1.repl.session.history = loop.repl.session.history.append entry
  output : ∃ request outcome now, entry = Session.entryOf request outcome now ∧
    (loop.step event).2 = [.screen ⟨View.replyLines loop.repl.session request outcome now,
      loop.repl.console.view.prompt⟩]

/-- A reply that is logged is shown, with the entry that it makes. -/
theorem shows_of_recorded? {loop : Loop} (hr : loop.repl.Reachable) {event : Event}
    {entry : HistoryEntry} (h : loop.recorded? event = some entry) : loop.Shows event entry := by
  by_cases hphase : loop.phase = .waiting
  · cases event with
    | received arrival =>
        rw [recorded?_received_of_waiting hphase] at h
        cases hp : loop.repl.session.pending? arrival.direction with
        | none =>
            rw [receive_of_none hp] at h
            cases h
        | some request =>
            -- The reply has a request in flight, so the view is in sync when it arrives.
            have hpending : loop.repl.session.inFlight ≠ [] := by
              intro hidle
              rw [Session.pending?_of_idle hidle] at hp
              cases hp
            rw [receive_of_pending hp] at h
            cases h
            constructor
            · rw [step_of_waiting hphase, session_handle_received, step_op_of_pending hp]
              rfl
            · refine ⟨request, arrival.outcome, arrival.now, rfl, ?_⟩
              rw [step_of_waiting hphase]
              exact output_receive (hr.inSync_of_pending hpending) hp
    | answered line => cases h
    | failed failure => cases h
    | closed => cases h
    | polled => cases h
  · rw [(step_of_phase_ne_waiting hphase event).2] at h
    cases h

end Loop

/-! ## The account of a whole session -/

/-- Whatever replies arrive before the user gives up waiting, each request in flight is recorded and
shown once or given up and counted, and each reply that is applied lowers the number of requests in
flight by one.

Over a whole interactive session, from its start to the farewell, the requests that were submitted
are those recorded and shown by the loop, those recorded and shown while waiting, and those that the
farewell reports as discarded: it has a row with their number, if there are any. -/
theorem requests_accounted :
    (∀ repl : Repl, repl.Reachable → ∀ arrivals,
      Accounted repl arrivals (repl.finishPending arrivals).1 (repl.finishPending arrivals).2.1
        (repl.finishPending arrivals).2.2) ∧
    (∀ (repl : Repl) (arrival : Arrival), repl.session.pending? arrival.direction ≠ none →
      (repl.receive arrival).2.1.session.pendingCount + 1 = repl.session.pendingCount) ∧
    ∀ config events,
      let loop := ((Loop.start config).1.run events).1
      (∀ event entry, loop.recorded? event = some entry → loop.Shows event entry) ∧
      ∀ arrivals,
        let waited := (loop.repl.setPrompt none).finishPending arrivals
        let discarded : List Line := if 0 < waited.1 then
          [[Style.warning.paint ("Discarding " ++ toString waited.1 ++
            " unfinished translation(s)")]] else []
        loop.repl.leave arrivals =
          (waited.2.1, waited.2.2 ++ [.out (discarded ++ [[Style.success.paint "Goodbye!"]])]) ∧
        Accounted (loop.repl.setPrompt none) arrivals waited.1 waited.2.1 waited.2.2 ∧
        waited.2.1.session.submitted.length = ((Loop.start config).1.recorded events).length +
          (answered loop.repl.session arrivals).length + waited.1 := by
  refine ⟨fun repl hr arrivals => accounted hr arrivals, ?_, ?_⟩
  · intro repl arrival h
    obtain ⟨request, hp⟩ := Option.ne_none_iff_exists'.1 h
    rw [session_receive, step_op_of_pending hp]
    exact Session.pendingCount_applyOutcome hp _ _
  · intro config events loop
    have hr : loop.repl.Reachable := Loop.reachable_run (Loop.reachable_start config) events
    refine ⟨fun event entry => Loop.shows_of_recorded? hr, ?_⟩
    intro arrivals waited discarded
    have haccounted :
        Accounted (loop.repl.setPrompt none) arrivals waited.1 waited.2.1 waited.2.2 :=
      accounted (hr.play [.prompt none]) arrivals
    refine ⟨rfl, haccounted, ?_⟩
    -- The balance of the loop up to its end and the account of the waiting add up.
    have hloop : loop.repl.session.submitted.length +
        (Loop.start config).1.repl.session.pendingCount =
          (Loop.start config).1.repl.session.submitted.length +
            ((Loop.start config).1.recorded events).length + loop.repl.session.pendingCount :=
      (Loop.start config).1.balance_run events
    have hstart : (Loop.start config).1.repl.session.pendingCount = 0 ∧
        (Loop.start config).1.repl.session.submitted.length = 0 := ⟨rfl, rfl⟩
    have hcount : loop.repl.session.pendingCount =
        (answered loop.repl.session arrivals).length + waited.1 := haccounted.count
    have hsubmitted : waited.2.1.session.submitted = loop.repl.session.submitted :=
      haccounted.submitted
    rw [hsubmitted]
    omega

/-- A loop that was left with both directions at work and one reply received before. -/
def leftBusy : Loop :=
  ((Loop.start ⟨"http://localhost:5000", 30000, .sqlToMongo⟩).1.run
    [.answered "SELECT 1", .received ⟨.sqlToMongo, .success "db.a.find()", 5⟩,
      .answered "SELECT 2", .polled, .answered "/mongo", .answered "db.t.find()",
      .answered "/quit"]).1

/-- Three requests were submitted: one was recorded by the loop, one while waiting, and one is
discarded. -/
theorem leftBusy_accounted :
    leftBusy.phase = .left ∧
    leftBusy.repl.Reachable ∧ leftBusy.repl.session.pending? .mongoToSql ≠ none ∧
    (leftBusy.repl.leave [⟨.mongoToSql, .failure "no answer", 7⟩]).1.session.submitted.length =
      1 + 1 + 1 ∧
    (leftBusy.repl.leave [⟨.mongoToSql, .failure "no answer", 7⟩]).2.getLast? =
      some (.out [[Style.warning.paint "Discarding 1 unfinished translation(s)"],
        [Style.success.paint "Goodbye!"]]) := by
  obtain ⟨-, -, hloop⟩ := requests_accounted
  obtain ⟨-, hleave⟩ := hloop ⟨"http://localhost:5000", 30000, .sqlToMongo⟩
    [.answered "SELECT 1", .received ⟨.sqlToMongo, .success "db.a.find()", 5⟩,
      .answered "SELECT 2", .polled, .answered "/mongo", .answered "db.t.find()", .answered "/quit"]
  obtain ⟨hout, -, hcount⟩ := hleave [⟨.mongoToSql, .failure "no answer", 7⟩]
  refine ⟨by decide, Loop.reachable_run (Loop.reachable_start _) _, by decide, ?_, ?_⟩
  · have hlast := congrArg (·.1.session.submitted.length) hout
    exact hlast.trans (hcount.trans (by decide))
  · have hgoodbye := congrArg (·.2.getLast?) hout
    exact hgoodbye.trans (List.getLast?_concat.trans (congrArg some (by decide)))

end Repl

end QueryBridge
