import Mgnp.ReqRspNumbers

/-!
# Which response a request returns

The server answers the Request frames that were sent.  While a sequence number
belongs to one call, the waiter under the key of a response is the call whose
frame the response answers, and every response is handed over at most once.
-/

namespace Mgnp

namespace Calliope

namespace ReqRsp

open LabelledRuns

variable {waitMap : WaitMap} {Req Rsp : Type*} {bits : Nat} {build : Build}

section Exchanges

variable {client next : Client waitMap Req Rsp} {task : Nat}
  {history events : List (Event Rsp)}

/-- Every response answers a Request frame that was sent, and the numbers of the
responses that have not been handed over are theirs. -/
structure Exchanged (history : List (Event Rsp)) (client : Client waitMap Req Rsp) :
    Prop where
  requests : ∀ request ∈ client.requests, ∃ task, .requested task request.seq ∈ history
  responded : ∀ response ∈ responses history, ∃ task,
    .requested task response.seq ∈ history
  count : client.responded = (responses history).length
  transit : ∀ {number response}, (number, response) ∈ client.responses →
    (responses history)[number]? = some response
  handing : ∀ {task number response},
    (client.tasks task).handing = some (number, response) →
    (responses history)[number]? = some response

theorem exchanged_new : Exchanged [] (Client.new waitMap Req Rsp) where
  requests request member := by cases member
  responded response member := by cases member
  count := rfl
  transit member := by cases member
  handing found := by cases found

/-- A step between two responses of the server. -/
theorem Exchanged.keep (exchanged : Exchanged history client)
    (silent : responses events = []) (count : next.responded = client.responded)
    (requests : ∀ request ∈ next.requests, request ∈ client.requests ∨
      ∃ task, .requested task request.seq ∈ events)
    (transit : ∀ entry ∈ next.responses, entry ∈ client.responses)
    (handing : ∀ {task entry}, (next.tasks task).handing = some entry →
      (client.tasks task).handing = some entry ∨ entry ∈ client.responses) :
    Exchanged (history ++ events) next := by
  have same : responses (history ++ events) = responses history := by
    rw [responses_append, silent, List.append_nil]
  constructor
  · intro request member
    rcases requests request member with before | ⟨task, now⟩
    · obtain ⟨task, occurs⟩ := exchanged.requests request before
      exact ⟨task, List.mem_append_left _ occurs⟩
    · exact ⟨task, List.mem_append_right _ now⟩
  · intro response member
    rw [same] at member
    obtain ⟨task, occurs⟩ := exchanged.responded response member
    exact ⟨task, List.mem_append_left _ occurs⟩
  · rw [same, count, exchanged.count]
  · intro number response member
    rw [same]
    exact exchanged.transit (transit _ member)
  · intro task number response found
    rw [same]
    rcases handing found with before | taken
    · exact exchanged.handing before
    · exact exchanged.transit taken

theorem Exchanged.respond (exchanged : Exchanged history client) {request : Request Req}
    {body : Rsp} (member : request ∈ client.requests) :
    Exchanged (history ++ [.responded (request.respond body)])
      { client with
        responses := client.responses ++
          if client.link.rx = none then [(client.responded, request.respond body)] else []
        responded := client.responded + 1 } := by
  have more : responses (history ++ [.responded (request.respond body)]) =
      responses history ++ [request.respond body] := by
    rw [responses_append]
    rfl
  constructor
  · intro earlier before
    obtain ⟨task, occurs⟩ := exchanged.requests earlier before
    exact ⟨task, List.mem_append_left _ occurs⟩
  · intro response inside
    rw [more] at inside
    rcases List.mem_append.mp inside with before | now
    · obtain ⟨task, occurs⟩ := exchanged.responded response before
      exact ⟨task, List.mem_append_left _ occurs⟩
    · rw [List.mem_singleton.mp now]
      obtain ⟨task, occurs⟩ := exchanged.requests request member
      exact ⟨task, List.mem_append_left _ occurs⟩
  · rw [more, List.length_append, List.length_singleton, exchanged.count]
  · intro number response inside
    rw [more]
    rcases List.mem_append.mp inside with before | now
    · exact getElem?_append_of_some (exchanged.transit before)
    · split at now
      · cases List.mem_singleton.mp now
        rw [exchanged.count, List.getElem?_concat_length]
      · cases now
  · intro task number response found
    rw [more]
    exact getElem?_append_of_some (exchanged.handing found)

theorem Exchanged.transition (exchanged : Exchanged history client)
    (transition : Transition bits client next events) :
    Exchanged (history ++ events) next := by
  cases transition with
  | moved quiet keeps =>
      refine exchanged.keep rfl rfl (fun _ => .inl) (fun _ => id) fun found => .inl ?_
      refine Client.part_of_goto ?_ found
      intro entry own
      cases quiet.handing.symm.trans own
  | drew at_task =>
      refine exchanged.keep rfl rfl (fun _ => .inl) (fun _ => id) fun found => .inl ?_
      exact Client.part_of_goto (fun own => by cases own) found
  | enqueued at_task enqueue =>
      refine exchanged.keep rfl rfl (fun _ => .inl) (fun _ => id) fun found => .inl ?_
      exact Client.part_of_goto (fun own => by cases own) found
  | @sent task seq body answer at_task =>
      refine exchanged.keep rfl rfl ?_ (fun _ => id) fun found => .inl ?_
      · intro request member
        rcases List.mem_append.mp member with before | now
        · exact .inl before
        · rw [List.mem_singleton.mp now]
          exact .inr ⟨task, List.mem_singleton_self _⟩
      · exact Client.part_of_goto (fun own => by cases own) found
  | unsent at_task =>
      refine exchanged.keep rfl rfl (fun _ => .inl) (fun _ => id) fun found => .inl ?_
      exact Client.part_of_goto (fun own => by cases own) found
  | returned at_task =>
      refine exchanged.keep rfl rfl (fun _ => .inl) (fun _ => id) fun found => .inl ?_
      exact Client.part_of_goto (fun own => by cases own) found
  | received at_task oldest =>
      refine exchanged.keep rfl rfl (fun _ => .inl) ?_ ?_
      · intro entry member
        rw [oldest]
        exact List.mem_cons_of_mem _ member
      · intro other entry found
        rcases Client.of_goto found with ⟨-, own⟩ | ⟨-, before⟩
        · cases own
          rw [oldest]
          exact .inr List.mem_cons_self
        · exact .inl before
  | woke at_task wake =>
      refine exchanged.keep rfl rfl (fun _ => .inl) (fun _ => id) fun found => .inl ?_
      have woken := Client.part_of_goto (fun own => by cases own) found
      exact Client.part_of_goto (by simp) woken
  | responded member => exact exchanged.respond member
  | linked link => exact exchanged.keep rfl rfl (fun _ => .inl) (fun _ => id) .inl

/-- A value that a call's waiter got answers the call's own Request frame. -/
def Resolved (bits : Nat) (history : List (Event Rsp)) (client : Client waitMap Req Rsp) :
    Prop :=
  (draws history).length ≤ 2 ^ bits → ∀ task response,
    (client.tasks task).answer = some response →
      ∃ number, .requested task response.seq ∈ history ∧
        (responses history)[number]? = some response ∧ .woke number task ∈ history

theorem Resolved.keep (resolved : Resolved bits history client)
    (answers : ∀ {task response}, (next.tasks task).answer = some response →
      (client.tasks task).answer = some response) :
    Resolved bits (history ++ events) next := by
  intro few task response answer
  rw [draws_append, List.length_append] at few
  obtain ⟨number, requested, found, woke⟩ :=
    resolved (by omega) task response (answers answer)
  refine ⟨number, List.mem_append_left _ requested, ?_, List.mem_append_left _ woke⟩
  rw [responses_append]
  exact getElem?_append_of_some found

/-- The waiter under the key of a response is the call that requested it. -/
theorem Resolved.wake (resolved : Resolved bits history client)
    (drawn : Drawn bits history client) (waits : Waits client)
    (exchanged : Exchanged history client) (lawful : waitMap.Lawful) {number waiter : Nat}
    {response : Response Rsp} {map : waitMap.Map}
    (at_task : client.tasks task = .waking number response)
    (wake : waitMap.wake client.map response.seq = .woke waiter map) :
    Resolved bits (history ++ [.woke number waiter])
      { (client.goto waiter ((client.tasks waiter).answered response.body)).goto task
          .dispatching with map := map } := by
  intro few other answered answer
  have fewBefore : (draws history).length ≤ 2 ^ bits := by
    simpa [draws] using few
  have woken := Client.part_of_goto (fun own => by cases own) answer
  have later : ∀ {index}, .requested other answered.seq ∈ history →
      (responses history)[index]? = some answered →
      .woke index other ∈ history ++ [Event.woke number waiter] →
      ∃ index, .requested other answered.seq ∈ history ++ [Event.woke number waiter] ∧
        (responses (history ++ [Event.woke number waiter]))[index]? = some answered ∧
        .woke index other ∈ history ++ [Event.woke number waiter] := by
    intro index requested found woke
    refine ⟨index, List.mem_append_left _ requested, ?_, woke⟩
    rw [responses_append]
    exact getElem?_append_of_some found
  rcases Client.of_goto woken with ⟨rfl, own⟩ | ⟨-, before⟩
  · obtain ⟨registered, body⟩ := TaskPc.answer_answered own
    have sameKey := waits.registered (lawful.wake wake).1
    have sameSeq : answered.seq = response.seq :=
      Option.some.inj (registered.symm.trans sameKey)
    obtain rfl : answered = response := by
      cases answered
      cases response
      simp_all
    have found : (responses history)[number]? = some answered :=
      exchanged.handing (by rw [at_task]; rfl)
    obtain ⟨requester, requested⟩ :=
      exchanged.responded answered (List.mem_of_getElem? found)
    have drew := drawn.holds (TaskPc.outstanding_of_registered sameKey)
    obtain rfl := drawn.task_unique fewBefore (drawn.requested requested) drew
    exact later requested found (by simp)
  · obtain ⟨index, requested, found, woke⟩ := resolved fewBefore other answered before
    exact later requested found (List.mem_append_left _ woke)

theorem Resolved.transition (resolved : Resolved bits history client)
    (drawn : Drawn bits history client) (waits : Waits client)
    (exchanged : Exchanged history client) (lawful : waitMap.Lawful)
    (transition : Transition bits client next events) :
    Resolved bits (history ++ events) next := by
  cases transition with
  | moved quiet keeps =>
      refine resolved.keep (Client.part_of_goto ?_)
      intro response own
      cases quiet.outstanding.symm.trans (TaskPc.outstanding_of_answer own)
  | drew at_task => exact resolved.keep (Client.part_of_goto fun own => by cases own)
  | enqueued at_task enqueue =>
      exact resolved.keep (Client.part_of_goto fun own => by cases own)
  | @sent task seq body answer at_task =>
      refine resolved.keep (Client.part_of_goto ?_)
      rw [at_task]
      cases answer <;> exact id
  | @unsent task seq body answer at_task =>
      refine resolved.keep (Client.part_of_goto ?_)
      rw [at_task]
      cases answer <;> exact id
  | returned at_task => exact resolved.keep (Client.part_of_goto fun own => by cases own)
  | received at_task oldest =>
      exact resolved.keep (Client.part_of_goto fun own => by cases own)
  | woke at_task wake => exact resolved.wake drawn waits exchanged lawful at_task wake
  | responded member => exact resolved.keep id
  | linked link => exact resolved.keep id

end Exchanges

section Once

variable {client next : Client waitMap Req Rsp} {task : Nat}
  {history events : List (Event Rsp)}

/-- The number of a response is on its way, with the dispatcher or used, and
nowhere twice. -/
structure Once (history : List (Event Rsp)) (client : Client waitMap Req Rsp) : Prop where
  wakes : ((wakes history).map Prod.fst).Nodup
  transit : (client.responses.map Prod.fst).Nodup
  handing : ∀ {first second firstEntry secondEntry},
    (client.tasks first).handing = some firstEntry →
    (client.tasks second).handing = some secondEntry →
    firstEntry.1 = secondEntry.1 → first = second
  handed : ∀ {task entry}, (client.tasks task).handing = some entry →
    entry.1 ∉ client.responses.map Prod.fst ∧ entry.1 ∉ (ReqRsp.wakes history).map Prod.fst
  awaited : ∀ number ∈ client.responses.map Prod.fst,
    number ∉ (ReqRsp.wakes history).map Prod.fst
  bounded : ∀ number ∈ (ReqRsp.wakes history).map Prod.fst, number < client.responded

theorem once_new : Once [] (Client.new waitMap Req Rsp) where
  wakes := List.nodup_nil
  transit := List.nodup_nil
  handing found := by cases found
  handed found := by cases found
  awaited number member := by cases member
  bounded number member := by cases member

theorem Once.keep (once : Once history client) (silent : ReqRsp.wakes events = [])
    (responses : next.responses = client.responses) (count : next.responded = client.responded)
    (handing : ∀ {task entry}, (next.tasks task).handing = some entry →
      (client.tasks task).handing = some entry) : Once (history ++ events) next := by
  have same : ReqRsp.wakes (history ++ events) = ReqRsp.wakes history := by
    rw [wakes_append, silent, List.append_nil]
  constructor
  · rw [same]
    exact once.wakes
  · rw [responses]
    exact once.transit
  · intro first second firstEntry secondEntry atFirst atSecond
    exact once.handing (handing atFirst) (handing atSecond)
  · intro task entry found
    rw [same, responses]
    exact once.handed (handing found)
  · rw [same, responses]
    exact once.awaited
  · rw [same, count]
    exact once.bounded

/-- The dispatcher takes the oldest response from the channel. -/
theorem Once.receive (once : Once history client) {number : Nat} {response : Response Rsp}
    {rest : List (Nat × Response Rsp)}
    (oldest : client.responses = (number, response) :: rest) :
    Once history { client.goto task (.waking number response) with responses := rest } := by
  have transit := once.transit
  have awaited := once.awaited
  rw [oldest, List.map_cons] at transit awaited
  obtain ⟨fresh, restNodup⟩ := List.nodup_cons.mp transit
  have earlier : ∀ {other entry}, (client.tasks other).handing = some entry →
      entry.1 ≠ number ∧ entry.1 ∉ rest.map Prod.fst := by
    intro other entry found
    have apart := (once.handed found).1
    rw [oldest, List.map_cons, List.mem_cons, not_or] at apart
    exact apart
  constructor
  · exact once.wakes
  · exact restNodup
  · intro first second firstEntry secondEntry atFirst atSecond same
    rcases Client.of_goto atFirst with ⟨rfl, own⟩ | ⟨-, before⟩
    · rcases Client.of_goto atSecond with ⟨rfl, -⟩ | ⟨-, other⟩
      · rfl
      · cases own
        exact absurd same.symm (earlier other).1
    · rcases Client.of_goto atSecond with ⟨rfl, own⟩ | ⟨-, other⟩
      · cases own
        exact absurd same (earlier before).1
      · exact once.handing before other same
  · intro other entry found
    rcases Client.of_goto found with ⟨-, own⟩ | ⟨-, before⟩
    · cases own
      exact ⟨fresh, awaited number List.mem_cons_self⟩
    · exact ⟨(earlier before).2, (once.handed before).2⟩
  · intro other member
    exact awaited other (List.mem_cons_of_mem _ member)
  · exact once.bounded

/-- A waiter gets the response that the dispatcher holds. -/
theorem Once.wake (once : Once history client) (exchanged : Exchanged history client)
    {number waiter : Nat} {response : Response Rsp} {body : Rsp} {map : waitMap.Map}
    (at_task : client.tasks task = .waking number response) :
    Once (history ++ [.woke number waiter])
      { (client.goto waiter ((client.tasks waiter).answered body)).goto task
          .dispatching with map := map } := by
  have own : (client.tasks task).handing = some (number, response) := by rw [at_task]; rfl
  have more : (ReqRsp.wakes (history ++ [.woke number waiter])).map Prod.fst =
      (ReqRsp.wakes history).map Prod.fst ++ [number] := by
    rw [wakes_append, List.map_append]
    rfl
  let woken := client.goto waiter ((client.tasks waiter).answered body)
  have left : ∀ {other entry},
      ((woken.goto task .dispatching).tasks other).handing = some entry →
      other ≠ task ∧ (client.tasks other).handing = some entry := by
    intro other entry found
    rcases Client.of_goto found with ⟨-, none⟩ | ⟨ne, woken⟩
    · cases none
    · exact ⟨ne, Client.part_of_goto (by simp) woken⟩
  obtain ⟨notInTransit, unused⟩ := once.handed own
  constructor
  · rw [more, ← List.concat_eq_append]
    exact once.wakes.concat unused
  · exact once.transit
  · intro first second firstEntry secondEntry atFirst atSecond
    exact once.handing (left atFirst).2 (left atSecond).2
  · intro other entry found
    obtain ⟨ne, before⟩ := left found
    obtain ⟨apart, notUsed⟩ := once.handed before
    refine ⟨apart, ?_⟩
    rw [more, List.mem_append, not_or, List.mem_singleton]
    exact ⟨notUsed, fun same => ne (once.handing before own same)⟩
  · intro other member
    rw [more, List.mem_append, not_or, List.mem_singleton]
    refine ⟨once.awaited other member, ?_⟩
    rintro rfl
    exact notInTransit member
  · intro other member
    rw [more, List.mem_append, List.mem_singleton] at member
    rcases member with before | rfl
    · exact once.bounded other before
    · have inside := (List.getElem?_eq_some_iff.mp (exchanged.handing own)).1
      rwa [← exchanged.count] at inside

/-- The server's next response has a new number. -/
theorem Once.respond (once : Once history client) (exchanged : Exchanged history client)
    (response : Response Rsp) :
    Once (history ++ [.responded response])
      { client with
        responses := client.responses ++
          if client.link.rx = none then [(client.responded, response)] else []
        responded := client.responded + 1 } := by
  have same : ReqRsp.wakes (history ++ [.responded response]) = ReqRsp.wakes history := by
    rw [wakes_append]
    exact List.append_nil _
  have below : ∀ {number entry}, (responses history)[number]? = some entry →
      number < client.responded := by
    intro number entry found
    rw [exchanged.count]
    exact (List.getElem?_eq_some_iff.mp found).1
  have fresh : client.responded ∉ client.responses.map Prod.fst := by
    intro member
    obtain ⟨⟨number, entry⟩, inside, rfl⟩ := List.mem_map.mp member
    exact Nat.lt_irrefl _ (below (exchanged.transit inside))
  have added : ∀ number, number ∈ (client.responses ++
      if client.link.rx = none then [(client.responded, response)] else []).map Prod.fst →
      number ∈ client.responses.map Prod.fst ∨ number = client.responded := by
    intro number member
    rw [List.map_append, List.mem_append] at member
    split at member
    · simpa using member
    · exact .inl (member.resolve_right (by simp))
  constructor
  · rw [same]
    exact once.wakes
  · split
    · rw [List.map_append, List.map_singleton, ← List.concat_eq_append]
      exact once.transit.concat fresh
    · rw [List.append_nil]
      exact once.transit
  · exact once.handing
  · intro task entry found
    rw [same]
    refine ⟨?_, (once.handed found).2⟩
    intro member
    rcases added _ member with before | new
    · exact (once.handed found).1 before
    · have bound := below (exchanged.handing found)
      omega
  · intro number member
    rw [same]
    rcases added _ member with before | new
    · exact once.awaited number before
    · intro used
      have bound := once.bounded number used
      omega
  · intro number member
    rw [same] at member
    exact Nat.lt_succ_of_lt (once.bounded number member)

theorem Once.transition (once : Once history client) (exchanged : Exchanged history client)
    (transition : Transition bits client next events) : Once (history ++ events) next := by
  cases transition with
  | moved quiet keeps =>
      refine once.keep rfl rfl rfl (Client.part_of_goto ?_)
      intro entry own
      cases quiet.handing.symm.trans own
  | drew at_task => exact once.keep rfl rfl rfl (Client.part_of_goto fun own => by cases own)
  | enqueued at_task enqueue =>
      exact once.keep rfl rfl rfl (Client.part_of_goto fun own => by cases own)
  | sent at_task => exact once.keep rfl rfl rfl (Client.part_of_goto fun own => by cases own)
  | unsent at_task =>
      exact once.keep rfl rfl rfl (Client.part_of_goto fun own => by cases own)
  | returned at_task =>
      exact once.keep rfl rfl rfl (Client.part_of_goto fun own => by cases own)
  | received at_task oldest =>
      rw [List.append_nil]
      exact once.receive oldest
  | woke at_task wake => exact once.wake exchanged at_task
  | responded member => exact once.respond exchanged _
  | linked link => exact once.keep rfl rfl rfl id

end Once

/-- What holds after every history of a client. -/
structure Sound (bits : Nat) (history : List (Event Rsp)) (client : Client waitMap Req Rsp) :
    Prop where
  drawn : Drawn bits history client
  waits : Waits client
  exchanged : Exchanged history client
  resolved : Resolved bits history client
  once : Once history client

theorem sound_of_run (lawful : waitMap.Lawful) {history : List (Event Rsp)}
    {client : Client waitMap Req Rsp}
    (run : Run (Client.step bits build) anyStep (Client.new waitMap Req Rsp) history client) :
    Sound bits history client := by
  apply run.invariant (Sound bits)
  · refine ⟨drawn_new, waits_new lawful, exchanged_new, ?_, once_new⟩
    intro few task response answer
    cases answer
  · intro past events before after action sound _ stepTo
    have transition := Client.step_transition lawful stepTo
    exact ⟨sound.drawn.transition transition, sound.waits.transition lawful transition,
      sound.exchanged.transition transition,
      sound.resolved.transition sound.drawn sound.waits sound.exchanged lawful transition,
      sound.once.transition sound.exchanged transition⟩

/-- `request` returns what its waiter got. -/
theorem Transition.answer_of_returned {client next : Client waitMap Req Rsp}
    {first rest : List (Event Rsp)} {task : Nat} {body : Rsp}
    (transition : Transition bits client next (first ++ .returned task body :: rest)) :
    first = [] ∧ ∃ seq, (client.tasks task).answer = some ⟨seq, body⟩ := by
  generalize occurs : first ++ .returned task body :: rest = events at transition
  cases transition with
  | @returned _ seq _ at_task =>
      cases first with
      | nil =>
          cases occurs
          exact ⟨rfl, seq, by rw [at_task]; rfl⟩
      | cons head tail => simp at occurs
  | _ => cases first <;> simp at occurs

/-- What the calls of a client return and hold. -/
structure AnswersMatch (history : List (Event Rsp)) (client : Client waitMap Req Rsp) :
    Prop where
  /-- A call returns a response to the Request frame that it sent itself. -/
  returned : ∀ past later task body, history = past ++ .returned task body :: later →
    ∃ number seq, .requested task seq ∈ past ∧
      (responses past)[number]? = some ⟨seq, body⟩ ∧ .woke number task ∈ past
  /-- Every response wakes at most one waiter. -/
  once : ((wakes history).map Prod.fst).Nodup
  /-- No two calls hold the same sequence number. -/
  distinct : ∀ first second seq, (client.tasks first).outstanding = some seq →
    (client.tasks second).outstanding = some seq → first = second

/-- As long as fewer sequence numbers than `usize` has values are drawn, responses
are matched with the requests they answer. -/
theorem answers_match (lawful : waitMap.Lawful) {history : List (Event Rsp)}
    {client : Client waitMap Req Rsp}
    (run : Run (Client.step bits build) anyStep (Client.new waitMap Req Rsp) history client)
    (few : (draws history).length < 2 ^ bits) : AnswersMatch history client := by
  have sound := sound_of_run lawful run
  constructor
  · intro past later task body occurs
    obtain ⟨pre, first, rest, last, before, action, after, rfl, rfl, preRun, -, stepTo, -⟩ :=
      run.split_event occurs
    obtain ⟨rfl, seq, answer⟩ :=
      (Client.step_transition lawful stepTo).answer_of_returned
    rw [List.append_nil]
    rw [occurs, List.append_nil, draws_append, List.length_append] at few
    obtain ⟨number, requested, found, woke⟩ :=
      (sound_of_run lawful preRun).resolved (by omega) task _ answer
    exact ⟨number, seq, requested, found, woke⟩
  · exact sound.once.wakes
  · intro first second seq atFirst atSecond
    exact sound.drawn.task_unique (Nat.le_of_lt few) (sound.drawn.holds atFirst)
      (sound.drawn.holds atSecond)

/-- A wait map as a table of waiters and whether it has been closed. -/
def WaitMap.table : WaitMap where
  Map := (Nat → Option Nat) × Bool
  new := (fun _ => none, false)
  waiter map key := map.1 key
  enqueue map key waiter :=
    if map.2 then .error .closed
    else
      match map.1 key with
      | some _ => .error .duplicate
      | none => .ok (Function.update map.1 key (some waiter), map.2)
  wake map key :=
    if map.2 then .closed
    else
      match map.1 key with
      | some waiter => .woke waiter (Function.update map.1 key none, map.2)
      | none => .noMatch
  poll map _ := if map.2 then some .closed else none
  drop map waiter := (fun key => if map.1 key = some waiter then none else map.1 key, map.2)
  close _ := (fun _ => none, true)

theorem WaitMap.table_lawful : WaitMap.table.Lawful where
  new _ := rfl
  enqueue {map next key waiter} enqueued := by
    simp only [WaitMap.table] at enqueued ⊢
    split at enqueued
    · cases enqueued
    · split at enqueued <;> cases enqueued
      rename_i free
      exact ⟨free, rfl⟩
  wake {map next key waiter} woke := by
    simp only [WaitMap.table] at woke ⊢
    split at woke
    · cases woke
    · split at woke <;> cases woke
      rename_i found
      exact ⟨found, rfl⟩
  drop _ := rfl
  close found := by cases found

/-- The results of the calls, in the order in which they returned. -/
def returns (history : List (Event Rsp)) : List (Nat × Rsp) :=
  history.filterMap fun
    | .returned task body => some (task, body)
    | _ => none

/-- Two requests are answered in the other order, and the first one twice. -/
def swapped : List (Action Nat Nat) :=
  [.dispatch 0, .request 1 10, .request 2 20,
    .run 1 false, .run 1 false, .run 1 false, .run 1 false,
    .run 2 false, .run 2 false, .run 2 false, .run 2 false,
    .respond 1 200, .respond 0 100, .respond 0 101,
    .run 0 false, .run 0 false, .run 0 false, .run 0 false, .run 0 false, .run 0 false,
    .run 2 false, .run 1 false]

/-- Both calls return the response to their own request. -/
theorem swapped_answers_match :
    ∃ history : List (Event Nat), ∃ client : Client WaitMap.table Nat Nat,
      Run (Client.step 64 .debug) anyStep (Client.new WaitMap.table Nat Nat) history client ∧
      returns history = [(2, 200), (1, 100)] ∧ (draws history).length = 2 ∧
      AnswersMatch history client := by
  obtain ⟨history, client, run, outcome⟩ := exists_run_of_exec
    (Client.step 64 .debug) anyStep (Client.new WaitMap.table Nat Nat) swapped
    (fun reached => (returns reached.2, (draws reached.2).length))
    (show _ = some ([(2, 200), (1, 100)], 2) by decide +kernel)
  simp only [Prod.mk.injEq] at outcome
  refine ⟨history, client, run, outcome.1, outcome.2, ?_⟩
  exact answers_match WaitMap.table_lawful run (by rw [outcome.2]; decide)

end ReqRsp

end Calliope

end Mgnp
