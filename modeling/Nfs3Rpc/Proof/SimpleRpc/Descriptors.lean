import Nfs3Rpc.Construction.SimpleRpc.Transport
import Nfs3Rpc.Format.Descriptors

namespace Nfs3Rpc.SimpleRpc.Descriptors
open Resources

/-- A `disconnect` gives back the descriptor that it finds. -/
def closing (fd : Int) (ledger : List (Entry Int)) : List (Entry Int) :=
  if fd ≥ 0 then ledger ++ [.released fd] else ledger

theorem closing_keeps (fd : Int) (ledger : List (Entry Int)) : ledger <+: closing fd ledger := by
  unfold closing
  split
  · exact List.prefix_append ledger _
  · exact List.prefix_rfl

theorem bind_run {α β : Type} {program : Kernel α} {next : α → Kernel β} {value : α}
    {ledger last : List (Entry Int)}
    (runs : program ledger = (value, last)) : (program >>= next) ledger = next value last := by
  change (match program ledger with | (value, last) => next value last) = _
  rw [runs]

theorem TcpTransport.disconnect_run (transport : TcpTransport) (ledger : List (Entry Int)) :
    ∃ left : TcpTransport, transport.disconnect ledger = (left, closing transport.fd ledger) ∧ left.fd < 0 := by
  by_cases connected : transport.fd ≥ 0
  · refine ⟨{ transport with fd := -1 }, ?_, by decide⟩
    rw [TcpTransport.disconnect, closing, if_pos connected, if_pos connected]
    rfl
  · refine ⟨transport, ?_, Int.not_le.mp connected⟩
    rw [TcpTransport.disconnect, closing, if_neg connected, if_neg connected]
    rfl

/-- This is all that a `connect` can do to the descriptors, after it has closed the old one. -/
inductive Connects (fd : Int) (ledger : List (Entry Int)) : Int → List (Entry Int) → Prop where
  | refused (left : Int) (negative : left < 0) : Connects fd ledger left (closing fd ledger)
  | failed (got left : Int) (negative : left < 0) :
      Connects fd ledger left (closing fd ledger ++ [.acquired got] ++ [.released got])
  | opened (got : Int) (valid : 0 ≤ got) : Connects fd ledger got (closing fd ledger ++ [.acquired got])

theorem TcpTransport.isConnected_negative (transport : TcpTransport) (negative : transport.fd < 0) :
    transport.isConnected = false :=
  decide_eq_false (Int.not_le.mpr negative)

theorem TcpTransport.failed_run (transport : TcpTransport) (ledger : List (Entry Int)) :
    ∃ left : TcpTransport, transport.failed ledger = ((false, left), closing transport.fd ledger) ∧
      left.fd < 0 := by
  obtain ⟨left, disconnects, negative⟩ := transport.disconnect_run ledger
  exact ⟨left, by rw [TcpTransport.failed, bind_run disconnects]; rfl, negative⟩

theorem TcpTransport.connect_run (transport : TcpTransport) (outcome : Outcome) (ledger : List (Entry Int)) :
    ∃ left last, transport.connect outcome ledger = ((left.isConnected, left), last) ∧
      Connects transport.fd ledger left.fd last := by
  obtain ⟨old, disconnects, _⟩ := transport.disconnect_run ledger
  rw [TcpTransport.connect, bind_run disconnects]
  by_cases valid : outcome.socket ≥ 0
  · have opened : socket outcome.socket (closing transport.fd ledger) =
        (outcome.socket, closing transport.fd ledger ++ [Entry.acquired outcome.socket]) := by
      rw [socket, if_pos valid]
      rfl
    obtain ⟨left, fails, negative⟩ := TcpTransport.failed_run { old with fd := outcome.socket }
      (closing transport.fd ledger ++ [Entry.acquired outcome.socket])
    have closes : closing outcome.socket (closing transport.fd ledger ++ [Entry.acquired outcome.socket]) =
        closing transport.fd ledger ++ [Entry.acquired outcome.socket] ++ [Entry.released outcome.socket] :=
          if_pos valid
    have failure : ∃ left last, (TcpTransport.failed { old with fd := outcome.socket } >>= pure)
        (closing transport.fd ledger ++ [Entry.acquired outcome.socket]) =
          ((TcpTransport.isConnected left, left), last) ∧ Connects transport.fd ledger left.fd last := by
      rw [bind_run fails, closes]
      refine ⟨left, _, ?_, .failed outcome.socket left.fd negative⟩
      rw [left.isConnected_negative negative]
      rfl
    have connected : TcpTransport.isConnected { old with fd := outcome.socket } = true := decide_eq_true valid
    have success : ∃ left last, (pure (true, { old with fd := outcome.socket }) : Kernel (Bool × TcpTransport))
        (closing transport.fd ledger ++ [Entry.acquired outcome.socket]) =
          ((TcpTransport.isConnected left, left), last) ∧ Connects transport.fd ledger left.fd last := by
      refine ⟨{ old with fd := outcome.socket }, _, ?_, .opened outcome.socket valid⟩
      rw [connected]
      rfl
    rw [bind_run opened, if_neg (Int.not_lt.mpr valid)]
    dsimp only
    split
    · exact failure
    · split
      · exact failure
      · split
        · split
          · exact failure
          · split
            · exact failure
            · exact success
        · exact success
  · have refused : socket outcome.socket (closing transport.fd ledger) =
      (outcome.socket, closing transport.fd ledger) := by
      rw [socket, if_neg valid]
      rfl
    rw [bind_run refused, if_pos (Int.not_le.mp valid)]
    refine ⟨{ old with fd := outcome.socket }, _, ?_, .refused outcome.socket (Int.not_le.mp valid)⟩
    rw [TcpTransport.isConnected_negative _ (Int.not_le.mp valid)]
    rfl

/-- The model without descriptors takes the outcome of all system calls at once, and it connects with this one. -/
theorem TcpTransport.connect_refines (transport : TcpTransport) (outcome : Outcome) (ledger : List (Entry Int))
    (other : SimpleRpc.TcpTransport) (peer : Socket) :
    ∃ opened, (opened = none ∨ opened = some peer) ∧
      (transport.connect outcome ledger).1.1 = (other.connect opened).1 ∧
      (transport.connect outcome ledger).1.2.isConnected = (other.connect opened).2.isConnected := by
  obtain ⟨left, last, runs, _⟩ := transport.connect_run outcome ledger
  rw [runs]
  cases connected : left.isConnected with
  | false => exact ⟨none, .inl rfl, rfl, rfl⟩
  | true => exact ⟨some peer, .inr rfl, rfl, rfl⟩

theorem owned_negative {fd : Int} (negative : fd < 0) : owned fd = none := if_neg (Int.not_le.mpr negative)

theorem Object.disconnect_run (object : Object) (ledger : List (Entry Int)) :
    ∃ left : Object, object.disconnect ledger = (left, closing object.fd ledger) ∧ owned left.fd = none := by
  cases object with
  | tcpTransport transport =>
      obtain ⟨left, runs, negative⟩ := transport.disconnect_run ledger
      refine ⟨.tcpTransport left, ?_, owned_negative negative⟩
      rw [Object.disconnect, map_eq_pure_bind, bind_run runs]
      rfl
  | rpcClient client =>
      obtain ⟨left, runs, negative⟩ := client.transport.disconnect_run ledger
      refine ⟨.rpcClient ⟨left, 1⟩, ?_, owned_negative negative⟩
      rw [Object.disconnect, map_eq_pure_bind, RpcClient.disconnect, bind_assoc, bind_run runs]
      rfl

theorem Object.connect_run (object : Object) (outcome : Outcome) (ledger : List (Entry Int)) :
    ∃ left last, object.connect outcome ledger = (left, last) ∧ Connects object.fd ledger left.fd last := by
  cases object with
  | tcpTransport transport =>
      obtain ⟨left, last, runs, connects⟩ := transport.connect_run outcome ledger
      refine ⟨.tcpTransport left, last, ?_, connects⟩
      rw [Object.connect, bind_run runs]
      rfl
  | rpcClient client =>
      obtain ⟨left, last, runs, connects⟩ := client.transport.connect_run outcome ledger
      refine ⟨.rpcClient { client with transport := left }, last, ?_, connects⟩
      rw [Object.connect, RpcClient.connect, bind_assoc, bind_run runs]
      rfl

theorem Object.moveConstruct_fd (other : Object) :
    other.moveConstruct.1.fd = other.fd ∧ owned other.moveConstruct.2.fd = none := by
  cases other with
  | tcpTransport transport => exact ⟨rfl, rfl⟩
  | rpcClient client => exact ⟨rfl, rfl⟩

/-- An assignment closes the descriptor of the target and passes on that of the source. Objects of two classes
stay as they are. -/
theorem Object.moveAssign_run (object other : Object) (ledger : List (Entry Int)) :
    (∃ next left, object.moveAssign other ledger = ((next, left), closing object.fd ledger) ∧
        next.fd = other.fd ∧ owned left.fd = none) ∨
      object.moveAssign other ledger = ((object, other), ledger) := by
  cases object with
  | tcpTransport transport =>
      cases other with
      | tcpTransport source =>
          obtain ⟨left, runs, _⟩ := transport.disconnect_run ledger
          refine .inl ⟨.tcpTransport ⟨source.fd⟩, .tcpTransport ⟨-1⟩, ?_, rfl, rfl⟩
          rw [Object.moveAssign, TcpTransport.moveAssign, bind_assoc, bind_run runs]
          rfl
      | rpcClient source => exact .inr rfl
  | rpcClient client =>
      cases other with
      | tcpTransport source => exact .inr rfl
      | rpcClient source =>
          obtain ⟨left, runs, _⟩ := client.transport.disconnect_run ledger
          refine .inl ⟨.rpcClient ⟨⟨source.transport.fd⟩, source.xid⟩,
            .rpcClient ⟨⟨-1⟩, 1⟩, ?_, rfl, rfl⟩
          rw [Object.moveAssign, RpcClient.moveAssign, TcpTransport.moveAssign, bind_assoc, bind_assoc, bind_run runs]
          rfl

/-- The second `disconnect` of a client finds nothing to close. -/
theorem Object.destroy_run (object : Object) (ledger : List (Entry Int)) :
    object.destroy ledger = ((), closing object.fd ledger) := by
  cases object with
  | tcpTransport transport =>
      obtain ⟨left, runs, _⟩ := transport.disconnect_run ledger
      rw [Object.destroy, TcpTransport.destroy, bind_run runs]
      rfl
  | rpcClient client =>
      obtain ⟨left, runs, negative⟩ := client.transport.disconnect_run ledger
      obtain ⟨last, again, _⟩ := left.disconnect_run (closing client.transport.fd ledger)
      have nothing : closing left.fd (closing client.transport.fd ledger) = closing client.transport.fd ledger :=
        if_neg (Int.not_le.mpr negative)
      rw [nothing] at again
      rw [Object.destroy, RpcClient.destroy, RpcClient.disconnect, bind_assoc, bind_run runs, pure_bind,
        TcpTransport.destroy, bind_run again]
      rfl

theorem ownedBy_closing {owner : Nat → Option Int} {ledger : List (Entry Int)} {number : Nat} {fd : Int}
    (owns : OwnedBy owner ledger) (holds : owner number = owned fd) :
    OwnedBy (Function.update owner number none) (closing fd ledger) := by
  unfold owned at holds
  unfold closing
  split
  · next valid =>
      rw [if_pos valid] at holds
      exact owns.release holds
  · next negative =>
      rw [if_neg negative] at holds
      rwa [← holds, Function.update_eq_self]

/-- A `connect` that gets a fresh descriptor leaves it with the object or closes it. -/
theorem ownedBy_connecting {owner : Nat → Option Int} {ledger last : List (Entry Int)} {number : Nat} {fd left : Int}
    (owns : OwnedBy owner ledger) (holds : owner number = owned fd) (connects : Connects fd ledger left last)
    (fresh : FreshSockets last) : OwnedBy (Function.update owner number (owned left)) last := by
  have closed := ownedBy_closing owns holds
  have idle : Function.update owner number none number = none := Function.update_self number none owner
  cases connects with
  | refused _ negative => rwa [owned_negative negative]
  | failed got _ negative =>
      have unused : held got (closing fd ledger) = false :=
        fresh _ got [.released got] (by simp)
      have opened := closed.acquire idle unused
      have holder : Function.update (Function.update owner number none) number (some got) number = some got := by simp
      have returned := opened.release holder
      rw [Function.update_idem, Function.update_idem] at returned
      rwa [owned_negative negative]
  | opened _ valid =>
      have unused : held left (closing fd ledger) = false := fresh _ left [] (by simp)
      have opened := closed.acquire idle unused
      rw [Function.update_idem] at opened
      rwa [owned, if_pos valid]

@[simp]
theorem World.put_owner (world : World) (number : Nat) (object : Option Object) :
    (world.put number object).owner =
      Function.update world.owner number (object.bind fun object => owned object.fd) := by
  funext other
  by_cases same : other = number
  · subst same
    simp [World.owner, World.put]
  · simp [World.owner, World.put, same]

theorem World.owner_some {world : World} {number : Nat} {object : Object} (lives : world.objects number = some object) :
    world.owner number = owned object.fd := by
  rw [World.owner, lives, Option.bind_some]

theorem World.owner_none {world : World} {number : Nat} (free : world.objects number = none) :
    world.owner number = none := by
  rw [World.owner, free, Option.bind_none]

theorem Connects.grows {fd left : Int} {ledger last : List (Entry Int)} (connects : Connects fd ledger left last) :
    ledger <+: last := by
  cases connects with
  | refused => exact closing_keeps fd ledger
  | failed got =>
      rw [List.append_assoc]
      exact (closing_keeps fd ledger).trans (List.prefix_append _ _)
  | opened => exact (closing_keeps fd ledger).trans (List.prefix_append _ _)

/-- An action only adds to the ledger, and it keeps the account of the owners. -/
structure Keeps (world next : World) : Prop where
  grows : world.ledger <+: next.ledger
  owned : OwnedBy world.owner world.ledger → FreshSockets next.ledger → OwnedBy next.owner next.ledger

theorem Keeps.refl (world : World) : Keeps world world := ⟨List.prefix_rfl, fun owns _ => owns⟩

theorem World.construct_keeps (world : World) (number : Nat) (isClient : Bool) :
    Keeps world (world.step (.construct number isClient)) := by
  cases free : world.objects number with
  | some object =>
      simp only [World.step, free]
      exact .refl world
  | none =>
      simp only [World.step, free]
      refine ⟨List.prefix_rfl, fun owns _ => ?_⟩
      have idle : ((some (if isClient then .rpcClient {} else .tcpTransport {}) : Option Object).bind fun object =>
          owned object.fd) = world.owner number := by
        rw [World.owner_none free]
        cases isClient <;> rfl
      rwa [World.put_owner, idle, Function.update_eq_self]

theorem World.connect_keeps (world : World) (number : Nat) (outcome : Outcome) :
    Keeps world (world.step (.connect number outcome)) := by
  cases lives : world.objects number with
  | none =>
      simp only [World.step, lives]
      exact .refl world
  | some object =>
      obtain ⟨left, last, runs, connects⟩ := object.connect_run outcome world.ledger
      simp only [World.step, lives, runs]
      refine ⟨connects.grows, fun owns fresh => ?_⟩
      change OwnedBy (world.put number (some left)).owner last
      rw [World.put_owner]
      exact ownedBy_connecting owns (World.owner_some lives) connects fresh

theorem World.disconnect_keeps (world : World) (number : Nat) : Keeps world (world.step (.disconnect number)) := by
  cases lives : world.objects number with
  | none =>
      simp only [World.step, lives]
      exact .refl world
  | some object =>
      obtain ⟨left, runs, idle⟩ := object.disconnect_run world.ledger
      simp only [World.step, lives, runs]
      refine ⟨closing_keeps _ _, fun owns _ => ?_⟩
      change OwnedBy (world.put number (some left)).owner _
      rw [World.put_owner, Option.bind_some, idle]
      exact ownedBy_closing owns (World.owner_some lives)

theorem World.destroy_keeps (world : World) (number : Nat) : Keeps world (world.step (.destroy number)) := by
  cases lives : world.objects number with
  | none =>
      simp only [World.step, lives]
      exact .refl world
  | some object =>
      simp only [World.step, lives, object.destroy_run]
      refine ⟨closing_keeps _ _, fun owns _ => ?_⟩
      change OwnedBy (world.put number none).owner _
      rw [World.put_owner, Option.bind_none]
      exact ownedBy_closing owns (World.owner_some lives)

/-- The storage of a new object is free, so it is not the storage of its source. -/
theorem World.moveConstruct_keeps (world : World) (target source : Nat) :
    Keeps world (world.step (.moveConstruct target source)) := by
  cases free : world.objects target with
  | some object =>
      simp only [World.step, free]
      exact .refl world
  | none =>
      cases lives : world.objects source with
      | none =>
          simp only [World.step, free, lives]
          exact .refl world
      | some other =>
          obtain ⟨taken, left⟩ := other.moveConstruct_fd
          have different : target ≠ source := by
            rintro rfl
            rw [free] at lives
            cases lives
          simp only [World.step, free, lives]
          refine ⟨List.prefix_rfl, fun owns _ => ?_⟩
          rw [World.put_owner, World.put_owner, Option.bind_some, Option.bind_some, taken, left,
            ← World.owner_some lives]
          exact owns.move different (World.owner_none free)

theorem World.moveAssign_keeps (world : World) (target source : Nat) :
    Keeps world (world.step (.moveAssign target source)) := by
  by_cases same : target = source
  · simp only [World.step, if_pos same]
    exact .refl world
  cases old : world.objects target with
  | none =>
      simp only [World.step, if_neg same, old]
      exact .refl world
  | some object =>
      cases lives : world.objects source with
      | none =>
          simp only [World.step, if_neg same, old, lives]
          exact .refl world
      | some other =>
          rcases object.moveAssign_run other world.ledger with ⟨next, left, runs, taken, idle⟩ | runs
          · simp only [World.step, if_neg same, old, lives, runs]
            refine ⟨closing_keeps _ _, fun owns _ => ?_⟩
            change OwnedBy ((world.put source (some left)).put target (some next)).owner _
            have closed := ownedBy_closing owns (World.owner_some old)
            have moved := closed.move same (Function.update_self target none world.owner)
            rw [World.put_owner, World.put_owner, Option.bind_some, Option.bind_some, taken, idle,
              ← World.owner_some lives]
            rwa [Function.update_of_ne (Ne.symm same), Function.update_comm same, Function.update_idem] at moved
          · simp only [World.step, if_neg same, old, lives, runs]
            refine ⟨List.prefix_rfl, fun owns _ => ?_⟩
            change OwnedBy ((world.put source (some other)).put target (some object)).owner _
            rwa [World.put_owner, World.put_owner, Option.bind_some, Option.bind_some, ← World.owner_some lives,
              ← World.owner_some old, Function.update_eq_self, Function.update_eq_self]

theorem World.step_keeps (world : World) (action : Action) : Keeps world (world.step action) := by
  cases action with
  | construct number isClient => exact world.construct_keeps number isClient
  | connect number outcome => exact world.connect_keeps number outcome
  | disconnect number => exact world.disconnect_keeps number
  | moveConstruct target source => exact world.moveConstruct_keeps target source
  | moveAssign target source => exact world.moveAssign_keeps target source
  | destroy number => exact world.destroy_keeps number

theorem FreshSockets.of_prefix {ledger longer : List (Entry Int)} (fresh : FreshSockets longer)
    (shorter : ledger <+: longer) : FreshSockets ledger := by
  intro earlier fd later parts
  obtain ⟨more, rfl⟩ := shorter
  exact fresh earlier fd (later ++ more) (by simp [parts])

/-- Every run of actions keeps the account, by induction on its length. -/
theorem World.run_owned (actions : List Action) (fresh : FreshSockets (World.run actions).ledger) :
    OwnedBy (World.run actions).owner (World.run actions).ledger := by
  induction actions using List.reverseRecOn with
  | nil => exact OwnedBy.empty
  | append_singleton actions action recurse =>
      have next : World.run (actions ++ [action]) = (World.run actions).step action := by
        simp [World.run]
      rw [next] at fresh ⊢
      have keeps := (World.run actions).step_keeps action
      exact keeps.owned (recurse (fresh.of_prefix keeps.grows)) fresh

theorem World.run_prefix {earlier actions : List Action} (before : earlier <+: actions) :
    (World.run earlier).ledger <+: (World.run actions).ledger := by
  obtain ⟨later, rfl⟩ := before
  induction later using List.reverseRecOn with
  | nil => simp
  | append_singleton later action recurse =>
      have next : World.run (earlier ++ (later ++ [action])) = (World.run (earlier ++ later)).step action := by
        simp [World.run]
      rw [next]
      exact recurse.trans ((World.run (earlier ++ later)).step_keeps action).grows

/-- After each action every descriptor that `socket` returned has one owner or was closed once, and when no object
is left each of them was closed once. -/
theorem descriptors_owned_or_closed (actions : List Action) (fresh : FreshSockets (World.run actions).ledger) :
    ∀ done, done <+: actions →
      ∀ earlier fd later, (World.run done).ledger = earlier ++ .acquired fd :: later →
        Fate (World.run done).owner fd later ∧
          ((∀ number, (World.run done).objects number = none) → releases fd later = 1) := by
  intro done before earlier fd later parts
  have owned := World.run_owned done (fresh.of_prefix (World.run_prefix before))
  have fate := owned.fate parts
  refine ⟨fate, fun gone => ?_⟩
  rcases fate with ⟨_, _, number, owns, _⟩ | ⟨once, _⟩
  · rw [World.owner_none (gone number)] at owns
    cases owns
  · exact once

theorem FreshSockets.release {ledger : List (Entry Int)} (fresh : FreshSockets ledger) (fd : Int) :
    FreshSockets (ledger ++ [.released fd]) := by
  intro earlier got later parts
  rcases concat_eq_acquired parts with ⟨_, same, _⟩ | ⟨before, _, whole⟩
  · cases same
  · exact fresh earlier got before whole

theorem FreshSockets.acquire {ledger : List (Entry Int)} (fresh : FreshSockets ledger) {fd : Int}
    (unused : held fd ledger = false) : FreshSockets (ledger ++ [.acquired fd]) := by
  intro earlier got later parts
  rcases concat_eq_acquired parts with ⟨_, same, rfl⟩ | ⟨before, _, whole⟩
  · rwa [← Entry.acquired.inj same]
  · exact fresh earlier got before whole

/-- A client connects and moves; its old object fails to connect; the descriptor 4 is used again after that. -/
def busyActions : List Action :=
  [.construct 0 true, .connect 0 ⟨3, true, 0, false, 0, 0, 0⟩, .moveConstruct 1 0,
    .connect 0 ⟨4, true, -1, true, 0, 0, 0⟩, .connect 0 ⟨4, true, -1, true, 1, 0, 0⟩, .moveAssign 1 1,
      .moveAssign 0 1,
    .destroy 1, .destroy 0]

theorem busyActions_ledger : (World.run busyActions).ledger =
    [.acquired 3, .acquired 4, .released 4, .acquired 4, .released 4, .released 3] := by
  rfl

theorem descriptors_owned_or_closed_busy :
    releases 3 [.acquired 4, .released 4, .acquired 4, .released 4, .released (3 : Int)] = 1 := by
  have fresh : FreshSockets (World.run busyActions).ledger := by
    have empty : FreshSockets [] := by
      intro earlier fd later parts
      simp at parts
    rw [busyActions_ledger]
    exact ((((empty.acquire rfl).acquire (by decide)).release 4).acquire (by decide)).release 4 |>.release 3
  have gone : ∀ number, (World.run busyActions).objects number = none := by
    intro number
    rcases number with _ | _ | number <;> rfl
  exact (descriptors_owned_or_closed busyActions fresh busyActions List.prefix_rfl [] 3 _ busyActions_ledger).2 gone

end Nfs3Rpc.SimpleRpc.Descriptors
