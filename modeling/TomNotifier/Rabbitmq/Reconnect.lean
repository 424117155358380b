import TomNotifier.Rabbitmq.Consumer.Effects
import TomNotifier.Rabbitmq.Link
import TomNotifier.Rabbitmq.Producer.Effects
import TomNotifier.System.Follower
import TomNotifier.System.Run

/-!
This module contains that a producer and a consumer miss nothing that becomes of their connection: both
follow what the connection's state machine publishes.
-/

namespace TomNotifier.Rabbitmq

namespace Connection.StateMachine

/-- There is a published connection exactly when the callback is registered and all is well. -/
structure Published (s : StateMachine) : Prop where
  connectionTx : s.connectionTx = if s.state = .ok then some s.connection else none
  registered : s.state = .ok ∨ s.state = .restoringCallback true → s.connection ∈ s.registered

variable {s s' : StateMachine} {label : Label} {published : Option (Option ConnectionId)}
variable {c : ConnectionId}

theorem published_init : init.Published := by
  exact ⟨rfl, fun _ => List.mem_cons_self⟩

theorem Published.eq_of_connectionTx (h : s.Published) (hc : s.connectionTx = some c)
    : s.state = .ok ∧ c = s.connection ∧ c ∈ s.registered := by
  have htx := h.connectionTx
  rw [hc] at htx
  split at htx
  . next hok =>
    rw [Option.some.injEq] at htx
    rw [htx]
    exact ⟨hok, rfl, h.registered (.inl hok)⟩
  . contradiction

theorem step_cases (h : s.step label = some (s', published))
    : (published = some none ∧ s' = { s with connectionTx := none, state := .closingConnection })
      ∨ (published = none ∧ s'.connectionTx = s.connectionTx ∧ s.state ≠ .ok ∧ s'.state ≠ .ok
        ∧ (s'.state = .restoringCallback true → s'.connection ∈ s'.registered))
      ∨ (published = some (some s.connection) ∧ s.state = .restoringCallback true
        ∧ s' = { s with connectionTx := some s.connection, state := .ok }) := by
  cases label with
  | ioFailure =>
    simp only [step] at h
    split at h
    . rw [Option.some.injEq, ioFailure, Prod.mk.injEq] at h
      exact .inl ⟨h.2.symm, h.1.symm⟩
    . rw [Option.some.injEq, ioFailure, Prod.mk.injEq] at h
      exact .inl ⟨h.2.symm, h.1.symm⟩
    . contradiction
  | poll succeeded =>
    simp only [step] at h
    split at h
    . contradiction
    . next hstate =>
      rw [Option.some.injEq, Prod.mk.injEq] at h
      rw [← h.1, ← h.2]
      exact .inr (.inl ⟨rfl, rfl, by simp [hstate], by simp, by simp⟩)
    . next hstate =>
      rw [Option.some.injEq, Prod.mk.injEq] at h
      rw [← h.1, ← h.2, pollRestoringConnection]
      refine .inr (.inl ⟨rfl, ?_⟩)
      split
      . simp [hstate]
      . simp [hstate]
    . next registered hstate =>
      rw [Option.some.injEq] at h
      cases registered with
      | true =>
        simp only [pollRestoringCallback, Prod.mk.injEq] at h
        exact .inr (.inr ⟨h.2.symm, hstate, h.1.symm⟩)
      | false =>
        simp only [pollRestoringCallback] at h
        refine .inr (.inl ?_)
        split at h
        . rw [Prod.mk.injEq] at h
          rw [← h.1, ← h.2]
          simp [hstate]
        . rw [Prod.mk.injEq] at h
          rw [← h.1, ← h.2]
          simp [hstate]

theorem Published.step (h : s.Published) (hstep : s.step label = some (s', published))
    : s'.Published := by
  rcases step_cases hstep with ⟨_, rfl⟩ | ⟨_, htx, hok, hok', hregistered⟩ | ⟨_, hstate, rfl⟩
  . constructor <;> simp
  . constructor
    . rw [htx, h.connectionTx, if_neg hok, if_neg hok']
    . rintro (hstate | hstate)
      . exact absurd hstate hok'
      . exact hregistered hstate
  . exact ⟨rfl, fun _ => h.registered (.inr hstate)⟩

theorem connectionTx_of_step (hstep : s.step label = some (s', published))
    : s'.connectionTx = published.getD s.connectionTx := by
  rcases step_cases hstep with ⟨rfl, rfl⟩ | ⟨rfl, htx, _⟩ | ⟨rfl, _, rfl⟩
  . rfl
  . exact htx
  . rfl

theorem Published.publishes (h : s.Published) (hstep : s.step label = some (s', some (some c)))
    : c = s'.connection ∧ c ∈ s'.registered := by
  have htx := connectionTx_of_step hstep
  exact ((h.step hstep).eq_of_connectionTx htx).2

end Connection.StateMachine

section Link

variable {ι σ α : Type}

structure Machine.Follows (machine : Machine ι σ α) (view : σ → Follower ConnectionId) : Prop where
  start : ∀ input connection connectionRx, view (machine.start input connection connectionRx)
    = ⟨connectionRx.value, connectionRx.unseen, some connection, .working⟩
  publish : ∀ connection m, view (machine.publish connection m) = (view m).publish connection
  step : ∀ m label m', machine.step m label = some m' → (view m).Moves (view m')

structure Link.Informed (view : σ → Follower ConnectionId) (s : Link σ) : Prop where
  connection : s.connection.Published
  creating : ∀ connection connectionRx, s.client = .creating connection connectionRx →
    connectionRx.value = s.connection.connectionTx
      ∧ (connectionRx.value ≠ some connection → connectionRx.unseen = true)
  running : ∀ m, s.client = .running m →
    (view m).published = s.connection.connectionTx ∧ (view m).Informed

variable {machine : Machine ι σ α} {view : σ → Follower ConnectionId} {s s' : Link σ}

inductive Link.Effect (machine : Machine ι σ α) (s s' : Link σ) : LinkLabel ι α → Prop where
  | connection (label : Connection.Label) (step : s.connection.step label = some (s'.connection, none))
    (client : s'.client = s.client) : Link.Effect machine s s' (.connection label)
  | publish (label : Connection.Label) (published : Option ConnectionId)
    (step : s.connection.step label = some (s'.connection, some published))
    (client : s'.client = s.client.publish machine published)
    : Link.Effect machine s s' (.connection label)
  | refuse (before : s.client = .absent) (connectionTx : s.connection.connectionTx = none)
    (same : s' = s) : Link.Effect machine s s' .create
  | create (connection : ConnectionId) (before : s.client = .absent)
    (connectionTx : s.connection.connectionTx = some connection)
    (same : s'.connection = s.connection)
    (client : s'.client = .creating connection { value := some connection, unseen := false })
    : Link.Effect machine s s' .create
  | start (input : ι) (connection : ConnectionId) (connectionRx : Watch (Option ConnectionId))
    (before : s.client = .creating connection connectionRx) (same : s'.connection = s.connection)
    (client : s'.client = .running (machine.start input connection connectionRx))
    : Link.Effect machine s s' (.start input)
  | finish (same : s'.connection = s.connection) (client : s'.client = .absent)
    : Link.Effect machine s s' .finish
  | client (label : α) (m m' : σ) (before : s.client = .running m)
    (step : machine.step m label = some m') (same : s'.connection = s.connection)
    (client : s'.client = .running m') : Link.Effect machine s s' (.client label)

theorem Link.effect_of_step {label : LinkLabel ι α} (h : s.step machine label = some s')
    : Link.Effect machine s s' label := by
  cases label with
  | connection label =>
    simp only [Link.step] at h
    split at h
    . contradiction
    . next connection hconnection =>
      rw [← Option.some.inj h]
      exact .connection label hconnection rfl
    . next connection published hconnection =>
      rw [← Option.some.inj h]
      exact .publish label published hconnection rfl
  | create =>
    simp only [Link.step] at h
    split at h
    . next hclient =>
      split at h
      . next htx => exact .refuse hclient htx (Option.some.inj h).symm
      . next connection htx =>
        rw [← Option.some.inj h]
        exact .create connection hclient htx rfl rfl
    . contradiction
  | start input =>
    simp only [Link.step] at h
    split at h
    . next connection connectionRx hclient =>
      rw [← Option.some.inj h]
      exact .start input connection connectionRx hclient rfl rfl
    . contradiction
  | finish =>
    rw [← Option.some.inj h]
    exact .finish rfl rfl
  | client label =>
    simp only [Link.step] at h
    split at h
    . next m hclient =>
      rw [Option.map_eq_some_iff] at h
      rcases h with ⟨m', hm', rfl⟩
      exact .client label m m' hclient hm' rfl rfl
    . contradiction

theorem Link.informed_init : (init : Link σ).Informed view := by
  exact ⟨Connection.StateMachine.published_init, nofun, nofun⟩

theorem Link.Informed.published (h : s.Informed view) (hfollows : machine.Follows view)
    {connection : Connection.StateMachine} (hconnection : connection.Published)
    : Link.Informed view
        { connection, client := s.client.publish machine connection.connectionTx } := by
  refine ⟨hconnection, ?_, ?_⟩
  . intro c connectionRx hclient
    cases hold : s.client with
    | creating stored rx =>
      simp only [hold, Client.publish, Client.creating.injEq] at hclient
      rw [← hclient.2]
      exact ⟨rfl, fun _ => rfl⟩
    | _ => simp [hold, Client.publish] at hclient
  . intro m hclient
    cases hold : s.client with
    | running m' =>
      simp only [hold, Client.publish, Client.running.injEq] at hclient
      rw [← hclient, hfollows.publish]
      exact ⟨rfl, (h.running m' hold).2.publish⟩
    | _ => simp [hold, Client.publish] at hclient

theorem Link.Informed.step (h : s.Informed view) (hfollows : machine.Follows view)
    {label : LinkLabel ι α} (hstep : s.step machine label = some s') : s'.Informed view := by
  rcases s' with ⟨connection', client'⟩
  cases effect_of_step hstep with
  | connection label step client =>
    dsimp only at step client
    have htx := Connection.StateMachine.connectionTx_of_step step
    rw [Option.getD_none] at htx
    rw [client]
    exact ⟨h.connection.step step, htx ▸ h.creating, htx ▸ h.running⟩
  | publish label published step client =>
    dsimp only at step client
    have htx := Connection.StateMachine.connectionTx_of_step step
    rw [Option.getD_some] at htx
    rw [client, ← htx]
    exact h.published hfollows (h.connection.step step)
  | refuse before connectionTx same =>
    rw [same]
    exact h
  | create connection before connectionTx same client =>
    dsimp only at same client
    rw [same, client]
    refine ⟨h.connection, ?_, nofun⟩
    intro stored connectionRx hclient
    rw [Client.creating.injEq] at hclient
    rcases hclient with ⟨rfl, rfl⟩
    exact ⟨connectionTx.symm, fun hne => absurd rfl hne⟩
  | start input connection connectionRx before same client =>
    dsimp only at same client
    rcases h.creating connection connectionRx before with ⟨hvalue, hunseen⟩
    rw [same, client]
    refine ⟨h.connection, nofun, ?_⟩
    intro m hm
    rw [Client.running.injEq] at hm
    rw [← hm, hfollows.start]
    exact ⟨hvalue, fun _ => rfl, fun _ => hunseen, nofun⟩
  | finish same client =>
    dsimp only at same client
    rw [same, client]
    exact ⟨h.connection, nofun, nofun⟩
  | client label m m' before step same client =>
    dsimp only at same client
    rcases h.running m before with ⟨hpublished, hinformed⟩
    have hmoves := hfollows.step m label m' step
    rw [same, client]
    refine ⟨h.connection, nofun, ?_⟩
    intro m'' hm''
    rw [Client.running.injEq] at hm''
    rw [← hm'', hmoves.published_eq]
    exact ⟨hpublished, hinformed.moves hmoves⟩

/-- How a machine that looks at the mark in some of its states answers it there. -/
structure Machine.Attends {β : Type} (machine : Machine ι σ α) (poll : β → α)
    (view : σ → Follower ConnectionId) (selects unwraps : σ → Prop) : Prop where
  waits : ∀ m result, selects m → (view m).unseen = true →
    ∃ m', machine.step m (poll result) = some m' ∧ (view m').phase = .reading
  others : ∀ m result, (view m).phase = .working → ¬selects m →
    ∃ m', machine.step m (poll result) = some m'
  opens : ∀ m result, unwraps m → (view m).phase = .working
    ∧ ((view m).stored.isSome → ∃ m', machine.step m (poll result) = some m')

/-- A machine in a state other than `WaitingForConnection` cannot miss that its connection is lost. -/
structure Link.Connected {β : Type} (machine : Machine ι σ α) (poll : β → α)
    (view : σ → Follower ConnectionId) (selects unwraps : σ → Prop) (s : Link σ) (m : σ) : Prop where
  stored : (view m).phase = .working → (view m).stored.isSome
  opens : unwraps m → ∀ result, ∃ m', machine.step m (poll result) = some m'
  unseen : (view m).phase = .working → s.connection.connectionTx ≠ (view m).stored →
    (view m).unseen = true
  -- the next wait is a `select!`, which leads to `WaitingForConnection`
  keeps : (view m).phase = .working → (view m).unseen = true → ∀ label m',
    machine.step m label = some m' → view m' = view m ∨ (view m').phase = .reading
  others : (view m).phase = .working → ¬selects m →
    ∀ result, ∃ m', machine.step m (poll result) = some m'
  waits : selects m → (view m).unseen = true →
    ∀ result, ∃ m', machine.step m (poll result) = some m' ∧ (view m').phase = .reading
  waiting : (view m).phase = .waiting → s.connection.connectionTx.isSome → (view m).unseen = true

theorem Link.Informed.connected {β : Type} {poll : β → α} {selects unwraps : σ → Prop} {m : σ}
    (h : s.Informed view) (hfollows : machine.Follows view)
    (hattends : machine.Attends poll view selects unwraps) (hclient : s.client = .running m)
    : s.Connected machine poll view selects unwraps m := by
  rcases h.running m hclient with ⟨hpublished, hinformed⟩
  constructor
  . exact hinformed.stored
  . intro hunwraps result
    rcases hattends.opens m result hunwraps with ⟨hworking, hsome⟩
    exact hsome (hinformed.stored hworking)
  . rw [← hpublished]
    exact hinformed.working
  . intro hworking _ label m' hstep
    exact ((hfollows.step m label m' hstep).eq_of_working hworking)
  . intro hworking hselects result
    exact hattends.others m result hworking hselects
  . intro hselects hunseen result
    exact hattends.waits m result hselects hunseen
  . rw [← hpublished]
    exact hinformed.waiting

theorem Link.informed_of_run (hfollows : machine.Follows view) {labels : List (LinkLabel ι α)}
    (hrun : System.run (Link.step machine) init labels = some s) : s.Informed view := by
  apply System.run_invariant _ Link.informed_init hrun
  intro s label s' h hstep
  exact h.step hfollows hstep

end Link

namespace Producer

def State.phase : State → Follower.Phase
  | .waitingForConnection false => .reading
  | .waitingForConnection true => .waiting
  | _ => .working

namespace World

def view (w : World) : Follower ConnectionId where
  published := w.producer.connectionRx.value
  unseen := w.producer.connectionRx.unseen
  stored := w.producer.connection
  phase := w.producer.state.phase

/-- The state machine is in a `select!` that watches the connection. -/
def Selects (w : World) : Prop :=
  match w.producer.state with
  | .ok _ _ _ => True
  | .recreatingChannel .opening => True
  | .recreatingChannel .registering => True
  | .restoringProducer => True
  | _ => False

variable {w w' : World} {result : CallResult}

theorem view_processConfirm (p : StateMachine) (confirm : PublisherConfirm)
    : ({ w with producer := p.processConfirm confirm }).view = ({ w with producer := p }).view := by
  unfold StateMachine.processConfirm
  dsimp only
  split <;> rfl

theorem view_publish {flow blocked : Bool} {messageCount : Nat} {message : BoxedMessage}
    {messages : List BoxedMessage} (hstate : w.producer.state = .ok flow blocked messageCount)
    : (w.publish flow blocked messageCount message messages result).view = w.view := by
  cases result with
  | ok => simp [publish, view, hstate, State.phase]
  | err received => simp [publish, view, hstate, State.phase]

theorem moves_of_effect {c : Option PublisherConfirm} (h : Effect w c w')
    : w.view.Moves w'.view := by
  cases h with
  | move hmoves =>
    cases hmoves with
    | connectionChanged hunseen => exact .notice hunseen
    | flowChanged hstate => exact .of_eq (by simp [view, hstate, State.phase])
    | blockedChanged hstate => exact .of_eq (by simp [view, hstate, State.phase])
    | connection hstate =>
      have hphase : w.view.phase = .reading := by
        simp [view, hstate, State.phase]
      have hread := Follower.Moves.read hphase
      cases hvalue : w.producer.connectionRx.value <;>
        simpa [view, Watch.markSeen, State.phase, hvalue] using hread
    | processed hstate _ => exact .of_eq (by simp [view, hstate, State.phase])
    | scheduled hstate _ => exact .of_eq (by simp [view, hstate, State.phase])
    | retry _ => exact .stay
    | registered hstate => exact .of_eq (by simp [view, hstate, State.phase])
    | restored hstate => exact .of_eq (by simp [view, hstate, State.phase, StateMachine.enterOk])
    | failed hstate => exact .of_eq (by simp [view, hstate, State.phase])
  | confirm _ _ => exact .of_eq (view_processConfirm _ _)
  | publish hstate _ _ => exact .of_eq (view_publish hstate)
  | schedule _ _ => exact .stay
  | close hstate => exact .of_eq (by simp [view, hstate, State.phase])
  | openChannel hstate => exact .of_eq (by simp [view, hstate, State.phase])

theorem moves_of_poll (h : w.poll result = some w') : w.view.Moves w'.view := by
  exact moves_of_effect (poll_effect h)

end World

theorem machine_follows : machine.Follows World.view where
  start _ _ _ := rfl
  publish _ _ := rfl
  step := by
    intro w label w' h
    cases label with
    | connection connection => simp [machine] at h
    | poll result => exact World.moves_of_poll h
    | send message =>
      simp only [machine, World.step, Option.some.injEq] at h
      exact Follower.Moves.of_eq (by rw [← h]; rfl)
    | flow active =>
      simp only [machine, World.step, Option.some.injEq] at h
      exact Follower.Moves.of_eq (by rw [← h]; rfl)
    | blocked blocked =>
      simp only [machine, World.step, Option.some.injEq] at h
      exact Follower.Moves.of_eq (by rw [← h]; rfl)
    | close channel =>
      simp only [machine, World.step, Option.some.injEq] at h
      exact Follower.Moves.of_eq (by rw [← h]; rfl)
    | confirm channel confirm =>
      simp only [machine, World.step, World.confirm] at h
      split at h
      . contradiction
      . split at h
        . rw [Option.some.injEq] at h
          exact Follower.Moves.of_eq (by rw [← h]; rfl)
        . contradiction

theorem World.poll_of_unseen {w : World} (hselects : w.Selects) (hunseen : w.view.unseen = true)
    (result : CallResult)
    : w.poll result = some { w with producer := w.producer.connectionChanged } := by
  have hrx : w.producer.connectionRx.unseen = true := hunseen
  unfold World.Selects at hselects
  split at hselects
  . next hstate => simp [World.poll, hstate, World.pollOk, hrx]
  . next hstate => simp [World.poll, hstate, World.pollRecreatingChannel, hrx]
  . next hstate => simp [World.poll, hstate, World.pollRecreatingChannel, hrx]
  . next hstate => simp [World.poll, hstate, World.pollRestoringProducer, hrx]
  . contradiction

/-- The position of the `unwrap` in `recreating_channel_state`. -/
def World.Unwraps (w : World) : Prop := w.producer.state = .recreatingChannel .opening

theorem machine_attends : machine.Attends .poll World.view World.Selects World.Unwraps where
  waits w result hselects hunseen := ⟨_, World.poll_of_unseen hselects hunseen result, rfl⟩
  others := by
    intro w result hworking hselects
    rcases w with ⟨⟨_, _, _, _, _, _, _, _, state⟩, _, _⟩
    cases state with
    | ok flow blocked messageCount => exact absurd trivial hselects
    | waitingForConnection awaiting => cases awaiting <;> contradiction
    | processingPendingConfirmations scheduling => exact ⟨_, rfl⟩
    | recreatingChannel stage =>
      cases stage with
      | closing => exact ⟨_, rfl⟩
      | opening => exact absurd trivial hselects
      | registering => exact absurd trivial hselects
    | restoringProducer => exact absurd trivial hselects
  opens := by
    intro w result hstate
    have hstate' : w.producer.state = .recreatingChannel .opening := hstate
    refine ⟨by simp [World.view, hstate', State.phase], ?_⟩
    intro hsome
    rcases Option.isSome_iff_exists.mp hsome with ⟨connection, hconnection⟩
    have hconnection' : w.producer.connection = some connection := hconnection
    simp only [machine, World.step, World.poll, hstate', World.pollRecreatingChannel, hconnection']
    split
    . exact ⟨_, rfl⟩
    . cases result <;> exact ⟨_, rfl⟩

end Producer

namespace Consumer

def State.phase : State → Follower.Phase
  | .waitingForConnection .reporting => .reading
  | .waitingForConnection .checking => .reading
  | .waitingForConnection .awaiting => .waiting
  | _ => .working

namespace World

def view (w : World) : Follower ConnectionId where
  published := w.consumer.connectionRx.value
  unseen := w.consumer.connectionRx.unseen
  stored := w.consumer.connection
  phase := w.consumer.state.phase

/-- The state machine is in a `select!` that watches the connection. -/
def Selects (w : World) : Prop :=
  match w.consumer.state with
  | .ok .waiting => True
  | .recreatingChannel .opening => True
  | .recreatingChannel .registering => True
  | .restoringConsumer .restoring => True
  | .restoringConsumer .restored => True
  | _ => False

variable {w w' : World} {succeeded : Bool}

theorem moves_of_effect (h : Effect w w') : w.view.Moves w'.view := by
  cases h with
  | consuming hstate =>
    rcases hstate with hstate | hstate <;>
      exact .of_eq (by simp [view, execute, hstate, State.phase])
  | consumingReported hstate => exact .of_eq (by simp [view, hstate, State.phase])
  | connectionLost _ hunseen => exact .notice hunseen
  | cancelled hstate _ => exact .of_eq (by simp [view, execute, hstate, State.phase])
  | lostReported hstate => exact .of_eq (by simp [view, hstate, State.phase])
  | connection hstate =>
    have hphase : w.view.phase = .reading := by
      simp [view, hstate, State.phase]
    have hread := Follower.Moves.read hphase
    cases hvalue : w.consumer.connectionRx.value <;>
      simpa [view, Watch.markSeen, State.phase, hvalue] using hread
  | connectionChanged hunseen => exact .notice hunseen
  | close hstate => exact .of_eq (by simp [view, hstate, State.phase])
  | openChannel hstate _ => exact .of_eq (by simp [view, hstate, State.phase])
  | registered hstate => exact .of_eq (by simp [view, hstate, State.phase])
  | retry _ => exact .stay
  | cancelledReported hstate => exact .of_eq (by simp [view, hstate, State.phase])
  | restored hstate _ _ _ => exact .of_eq (by simp [view, hstate, State.phase])
  | failed hstate => exact .of_eq (by simp [view, hstate, State.phase])

theorem moves_of_poll (h : w.poll succeeded = some w') : w.view.Moves w'.view := by
  exact moves_of_effect (poll_effect h)

theorem view_cancel {channel : ChannelId} (h : w.cancel channel = some w') : w'.view = w.view := by
  unfold cancel at h
  split at h
  . contradiction
  . split at h
    . rw [Option.some.injEq] at h
      rw [← h]
      rfl
    . contradiction

theorem view_close {channel : ChannelId} (h : w.close channel = some w') : w'.view = w.view := by
  unfold close at h
  split at h
  . contradiction
  . split at h
    . contradiction
    . rw [Option.some.injEq] at h
      rw [← h]
      rfl

end World

theorem machine_follows : machine.Follows World.view where
  start _ _ _ := rfl
  publish _ _ := rfl
  step := by
    intro w label w' h
    cases label with
    | poll succeeded => exact World.moves_of_poll h
    | cancel channel => exact Follower.Moves.of_eq (World.view_cancel h)
    | close channel => exact Follower.Moves.of_eq (World.view_close h)

theorem World.poll_of_unseen {w : World} (hselects : w.Selects) (hunseen : w.view.unseen = true)
    (succeeded : Bool)
    : ∃ w', w.poll succeeded = some w' ∧ w'.view.phase = .reading := by
  have hrx : w.consumer.connectionRx.unseen = true := hunseen
  unfold World.Selects at hselects
  split at hselects
  . next hstate => exact ⟨_, by simp [World.poll, hstate, World.pollOk, hrx]; rfl, rfl⟩
  . next hstate => exact ⟨_, by simp [World.poll, hstate, World.pollRecreatingChannel, hrx]; rfl, rfl⟩
  . next hstate => exact ⟨_, by simp [World.poll, hstate, World.pollRecreatingChannel, hrx]; rfl, rfl⟩
  . next hstate => exact ⟨_, by simp [World.poll, hstate, World.pollRestoringConsumer, hrx]; rfl, rfl⟩
  . next hstate => exact ⟨_, by simp [World.poll, hstate, World.pollRestoringConsumer, hrx]; rfl, rfl⟩
  . contradiction

/-- The position of the `unwrap` in `recreating_channel_state`. -/
def World.Unwraps (w : World) : Prop := w.consumer.state = .recreatingChannel .opening

theorem machine_attends : machine.Attends .poll World.view World.Selects World.Unwraps where
  waits w succeeded hselects hunseen := World.poll_of_unseen hselects hunseen succeeded
  others := by
    intro w succeeded hworking hselects
    rcases w with ⟨⟨_, _, _, _, state⟩, _, _, _⟩
    cases state with
    | ok stage =>
      cases stage with
      | entering => exact ⟨_, rfl⟩
      | reporting => exact ⟨_, rfl⟩
      | waiting => exact absurd trivial hselects
    | waitingForConnection stage => cases stage <;> contradiction
    | recreatingChannel stage =>
      cases stage with
      | closing => exact ⟨_, rfl⟩
      | opening => exact absurd trivial hselects
      | registering => exact absurd trivial hselects
    | restoringConsumer stage =>
      cases stage with
      | reporting => exact ⟨_, rfl⟩
      | restoring => exact absurd trivial hselects
      | restored => exact absurd trivial hselects
  opens := by
    intro w succeeded hstate
    have hstate' : w.consumer.state = .recreatingChannel .opening := hstate
    refine ⟨by simp [World.view, hstate', State.phase], ?_⟩
    intro hsome
    rcases Option.isSome_iff_exists.mp hsome with ⟨connection, hconnection⟩
    have hconnection' : w.consumer.connection = some connection := hconnection
    simp only [machine, World.step, World.poll, hstate', World.pollRecreatingChannel, hconnection']
    split
    . exact ⟨_, rfl⟩
    . split
      . exact ⟨_, rfl⟩
      . exact ⟨_, rfl⟩

end Consumer

namespace Link

/-- No step of the connection's machine publishes a connection it must not publish. -/
def Publishes (s : Connection.StateMachine) : Prop :=
  ∀ label s' c, s.step label = some (s', some (some c)) → c = s'.connection ∧ c ∈ s'.registered

/--
In every state the connection's machine reaches together with a producer's or a consumer's, these
have a connection unless they wait for one, hear of every other one, and are only told of connections
whose callback is registered.
-/
theorem no_reconnect_missed
    : (∀ labels s, System.run (step Producer.machine) init labels = some s →
        Publishes s.connection
          ∧ ∀ w, s.client = .running w →
            s.Connected Producer.machine .poll Producer.World.view Producer.World.Selects
              Producer.World.Unwraps w)
      ∧ ∀ labels s, System.run (step Consumer.machine) init labels = some s →
        Publishes s.connection
          ∧ ∀ w, s.client = .running w →
            s.Connected Consumer.machine .poll Consumer.World.view Consumer.World.Selects
              Consumer.World.Unwraps w := by
  constructor
  . intro labels s hrun
    have h := informed_of_run Producer.machine_follows hrun
    refine ⟨fun label s' c hstep => h.connection.publishes hstep, ?_⟩
    intro w hclient
    exact h.connected Producer.machine_follows Producer.machine_attends hclient
  . intro labels s hrun
    have h := informed_of_run Consumer.machine_follows hrun
    refine ⟨fun label s' c hstep => h.connection.publishes hstep, ?_⟩
    intro w hclient
    exact h.connected Consumer.machine_follows Consumer.machine_attends hclient

-- The consumer waits in `ok_state` while its connection is lost and restored.
def sampleRestored : List (LinkLabel Unit Consumer.Label) := [
  .create,
  .start (),
  .client (.poll true),
  .client (.poll true),
  .connection .ioFailure,
  .connection (.poll true),
  .connection (.poll true),
  .connection (.poll true),
  .connection (.poll true)
]

theorem no_reconnect_missed_restored
    : ∃ s w, System.run (step Consumer.machine) init sampleRestored = some s
        ∧ s.client = .running w
        ∧ s.connection.connectionTx = some 1
        ∧ w.view.stored = some 0
        ∧ ∃ w', w.poll true = some w' ∧ w'.view.phase = .reading := by
  refine ⟨_, _, rfl, rfl, rfl, rfl, ?_⟩
  have hconnected := (no_reconnect_missed.2 sampleRestored _ rfl).2 _ rfl
  have hunseen := hconnected.unseen rfl (by decide)
  exact hconnected.waits trivial hunseen true

end Link

end TomNotifier.Rabbitmq
