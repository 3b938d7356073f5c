import Qdevice.Native.QnetdClientAlgoTimer

/-! # The dpd timer of a client, in the timer list

`qnetd-client-dpd-timer.c` on the main timer list, with its callers: a connection is accepted
(`qnetd-client-net.c`), a message is received (`qnetd-client-msg-received.c`), a client is
disconnected (`qnetd-instance.c`).  `Native.QnetdInstance` only knows for which interval a client
has a timer; here `client->dpd_timer` is a pointer to an entry of the list, and
`timer_list_expire` calls the callback.

Of the messages only the heartbeat intervals matter that the handlers of INIT and SET_OPTION take
from them.  A function in which an assertion fails, or which is called for a client that has been
freed, returns `none`. -/

namespace Qdevice.Qnetd

/-- The part of `struct qnetd_client` that is about the dpd timer. -/
structure DpdClient where
  heartbeatInterval : UInt32 := qnetdDefaultHeartbeatIntervalMax
  dpdTimer : Option Nat := none
  scheduleDisconnect : Bool := false
  /-- The clock when the last message was dealt with, or when the client was accepted; no function
      of the program reads it. -/
  lastMsg : Nat
deriving DecidableEq

/-- The clients behind their pointers, the main timer list, and the client that is `user_data1` of
    an entry with the callback `qnetd_dpd_timer_cb`. -/
structure DpdInstance where
  client : ClientId → Option DpdClient := fun _ => none
  tlist : TimerList := {}
  dpdClient : Nat → Option ClientId := fun _ => none

namespace DpdInstance

/-- Write to the client behind a pointer, or free it. -/
def setClient (inst : DpdInstance) (id : ClientId) (client : Option DpdClient) : DpdInstance :=
  { inst with client := Function.update inst.client id client }

section

variable (settings : Settings) (toInterval : UInt32 → UInt32) (env : TimerEnv)

/-- `qnetd_client_dpd_timer_init`, and whether it returns 0. -/
def clientDpdTimerInit (inst : DpdInstance) (id : ClientId) (client : DpdClient) :
    Option (DpdInstance × Bool) :=
  if settings.dpdEnabled = false then some (inst, true)
  else do
    let (tlist, added) ← timerListAdd toInterval env.alloc env.now
      (settings.dpdInterval client.heartbeatInterval) true inst.tlist
    match added with
    | none => some ({ inst with tlist }, false)
    | some e =>
      some ({ inst with tlist, dpdClient := Function.update inst.dpdClient e (some id) }.setClient id
        (some { client with dpdTimer := some e }), true)

/-- `qnetd_client_dpd_timer_destroy`. -/
def clientDpdTimerDestroy (inst : DpdInstance) (id : ClientId) (client : DpdClient) :
    Option DpdInstance :=
  match client.dpdTimer with
  | none => some inst
  | some e => do
    let tlist ← timerListEntryDelete inst.tlist e
    some ({ inst with tlist }.setClient id (some { client with dpdTimer := none }))

/-- `qnetd_client_dpd_timer_reschedule`. -/
def clientDpdTimerReschedule (inst : DpdInstance) (client : DpdClient) : Option DpdInstance :=
  match client.dpdTimer with
  | none => some inst
  | some e => do
    let tlist ← timerListEntryReschedule toInterval env.alloc.realloc env.now inst.tlist e
    some { inst with tlist }

/-- `qnetd_client_dpd_timer_update_interval`, whose result only decides about the reply. -/
def clientDpdTimerUpdateInterval (inst : DpdInstance) (id : ClientId) (client : DpdClient) :
    Option DpdInstance :=
  match client.dpdTimer with
  | none => some inst
  | some e => do
    let (tlist, done) ← timerListEntrySetInterval toInterval env.alloc.realloc env.now
      (settings.dpdInterval client.heartbeatInterval) inst.tlist e
    some (if done then
      { inst with tlist }.setClient id (some { client with lastMsg := env.now })
    else { inst with tlist })

/-- `qnetd_client_net_accept`, from where there is memory for the client: `malloc` does not return
    the address of a client that is there. -/
def clientNetAccept (inst : DpdInstance) (id : ClientId) : Option DpdInstance :=
  match inst.client id with
  | some _ => some inst
  | none => do
    let client : DpdClient := { lastMsg := env.now }
    let (inst, ok) ← clientDpdTimerInit settings toInterval env
      (inst.setClient id (some client)) id client
    some (if ok then inst else inst.setClient id none)

/-- The beginning of `qnetd_client_msg_received`.  A client that is about to be disconnected is not
    read from. -/
def clientMsgReceived (inst : DpdInstance) (id : ClientId) : Option DpdInstance :=
  match inst.client id with
  | none => some inst
  | some client =>
    if client.scheduleDisconnect then some inst
    else do
      let inst ← clientDpdTimerReschedule toInterval env inst client
      some (inst.setClient id (some { client with lastMsg := env.now }))

/-- What the handlers of INIT and SET_OPTION do about the heartbeat interval of the message, later in
    the same call. -/
def clientMsgReceivedHeartbeat (inst : DpdInstance) (id : ClientId) (heartbeatInterval : UInt32) :
    Option DpdInstance :=
  match inst.client id with
  | none => some inst
  | some client =>
    if client.scheduleDisconnect then some inst
    else if heartbeatInterval < settings.heartbeatIntervalMin ∨
        settings.heartbeatIntervalMax < heartbeatInterval then some inst
    else
      let client := { client with heartbeatInterval }
      clientDpdTimerUpdateInterval settings toInterval env (inst.setClient id (some client)) id
        client

/-- `qnetd_instance_client_disconnect`. -/
def clientDisconnect (inst : DpdInstance) (id : ClientId) : Option DpdInstance :=
  match inst.client id with
  | none => some inst
  | some client => do
    let inst ← clientDpdTimerDestroy inst id client
    some (inst.setClient id none)

/-- Whatever else sets `schedule_disconnect`. -/
def clientScheduleDisconnect (inst : DpdInstance) (id : ClientId) : DpdInstance :=
  inst.setClient id ((inst.client id).map fun client => { client with scheduleDisconnect := true })

/-- `qnetd_dpd_timer_cb`, which returns 0. -/
def dpdTimerCb (inst : DpdInstance) (id : ClientId) : Option DpdInstance :=
  match inst.client id with
  | none => none
  | some client =>
    match client.dpdTimer with
    | none => none
    | some _ =>
      some (inst.setClient id
        (some { client with scheduleDisconnect := true, dpdTimer := none }))

/-- A round of the loop of `timer_list_expire` for an entry with this callback. -/
def timerListExpireDpd (inst : DpdInstance) (e : Nat) (id : ClientId) : Option DpdInstance := do
  let inst ← dpdTimerCb inst id
  let tlist ← timerListExpireReturned toInterval env.alloc.realloc env.now false inst.tlist e
  some { inst with tlist }

end

end DpdInstance

end Qdevice.Qnetd
