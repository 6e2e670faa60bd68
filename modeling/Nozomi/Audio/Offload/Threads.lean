import Nozomi.Base.Interleaving

/-!
# The threads of an offloaded stream

`offload_thread_loop` and the calls of clients on the same stream, from the time `adev_open_output_stream` has created
the thread. A step is a statement that uses what the threads share, and any number of clients run at the same time.

A mutex is free or held, and unlocking it frees it whoever holds it. A thread that waits on a condition can wake up
at any time, which covers both signals and spurious wake-ups, so signals are left out. The handles of
`compress_open` are numbered as they come. A step on a stream that was freed is none, and the opening succeeds.
-/

namespace Nozomi.Offload

inductive OffloadCmd where
  | exit | drain | partialDrain | waitForBuffer
  deriving DecidableEq, Repr

/-- `OFFLOAD_STATE_*`, without the one that `out_pause` sets. -/
inductive OffloadState where
  | idle | playing
  deriving DecidableEq, Repr

/-- The thread that opens the stream, the one that it creates, the clients, and the rest of the device. -/
inductive Thread (ι : Type) where
  | opener
  | callback
  | client (client : ι)
  | elsewhere
  deriving DecidableEq, Repr

/-- The fields of `stream_out` that the threads share, `adev->lock`, the handles that were opened and closed, and how
far the stream and its thread have come. -/
structure OffloadStream (ι : Type) where
  lock : Option (Thread ι)
  preLock : Option (Thread ι)
  adevLock : Option (Thread ι)
  compr : Option Nat
  opened : Nat
  closed : List Nat
  standby : Bool
  offloadState : OffloadState
  playbackStarted : Bool
  sendNewMetadata : Bool
  offloadCmdList : List OffloadCmd
  offloadThreadBlocked : Bool
  returned : Bool
  exited : Bool
  freed : Bool
  deriving DecidableEq, Repr

inductive StreamCall where
  | write (bytes : Int)
  | drain (early : Bool)
  | flush | standby | close
  deriving DecidableEq, Repr

/-- What a step gets from outside: the call of a client, the outcome of `start_output_stream` up to `compress_open`
(no device, no handle, or a handle that is ready or not), the result of `compress_write`, or nothing. -/
inductive Input where
  | call (call : StreamCall)
  | noDevice
  | noHandle
  | handle (ready : Bool)
  | wrote (ret : Int)
  | go
  deriving DecidableEq, Repr

/-! ### Control points -/

inductive Task where
  | write (bytes : Int)
  | drain (early : Bool)
  | flush
  | standby (closes : Bool)
  | destroy
  deriving DecidableEq, Repr

/-- The callers of `stop_compressed_output_l`. -/
inductive StopCaller where
  | standby (closes : Bool)
  | flush | destroy
  deriving DecidableEq, Repr

/-- What follows where `out->lock` is unlocked. -/
inductive After where
  | returns
  | locks (task : Task)
  | joins
  deriving DecidableEq, Repr

/-- The control points of `out_write` and `start_output_stream`, each named for the statement that comes next. -/
inductive WritePc where
  | testStandby | lockAdev | openCompr | closeUnready | clearUnready
  | unlockAdev (failed : Bool)
  | restoreStandby | setMetadata | write | start
  deriving DecidableEq, Repr

inductive StandbyPc where
  | testStandby | lockAdev | setStandby | closeCompr | clearCompr | unlockAdev
  deriving DecidableEq, Repr

/-- The control points of `stop_compressed_output_l`. -/
inductive StopPc where
  | reset | testBlocked | waitCond
  deriving DecidableEq, Repr

/-- The control points of a client: outside the stream, in `lock_output_stream`, where it unlocks `out->lock`, in a
function that holds it, and in the rest of `destroy_offload_callback_thread` and `adev_close_output_stream`. -/
inductive ClientPc where
  | idle
  | lockPre (task : Task)
  | lock (task : Task)
  | unlockPre (task : Task)
  | unlock (after : After)
  | outWrite (bytes : Int) (pc : WritePc)
  | outStandby (closes : Bool) (pc : StandbyPc)
  | stopCompressedOutput (caller : StopCaller) (pc : StopPc)
  | outDrain (early : Bool)
  | sendExit
  | join
  | free
  deriving DecidableEq, Repr

/-- The control points of `offload_thread_loop`. It takes the lock at its start and behind each command. -/
inductive CallbackPc where
  | reset
  | lockPre (cmd : Option OffloadCmd)
  | lock (cmd : Option OffloadCmd)
  | unlockPre (cmd : Option OffloadCmd)
  | loop
  | waitCond
  | testCompr (cmd : OffloadCmd)
  | block (cmd : OffloadCmd)
  | unlock (cmd : OffloadCmd)
  | call (cmd : OffloadCmd)
  | partialDrain
  | resendMetadata
  | unblock (cmd : OffloadCmd)
  | callback
  | freeCmds
  | unlockExit
  | exit
  | ended
  deriving DecidableEq, Repr

/-- The end of `adev_open_output_stream`, behind `create_offload_callback_thread`. -/
inductive OpenerPc where
  | setStandby | initLock | initPreLock | return | ended
  deriving DecidableEq, Repr

abbrev Control {ι : Type} : Thread ι → Type
  | .opener => OpenerPc
  | .callback => CallbackPc
  | .client _ => ClientPc
  | .elsewhere => Bool

/-! ### Steps -/

section Steps

variable {ι : Type}

abbrev Step (ι Pc : Type) := Option (Pc × OffloadStream ι)

def StreamCall.task : StreamCall → Task
  | .write bytes => .write bytes
  | .drain early => .drain early
  | .flush => .flush
  | .standby => .standby false
  | .close => .standby true

def Task.entry : Task → ClientPc
  | .write bytes => .outWrite bytes .testStandby
  | .drain early => .outDrain early
  | .flush => .stopCompressedOutput .flush .reset
  | .standby closes => .outStandby closes .testStandby
  | .destroy => .stopCompressedOutput .destroy .reset

def afterStandby (closes : Bool) : After := if closes then .locks .destroy else .returns

def StopCaller.next : StopCaller → ClientPc
  | .standby closes => .outStandby closes .closeCompr
  | .flush => .unlock .returns
  | .destroy => .sendExit

def After.next : After → ClientPc
  | .returns => .idle
  | .locks task => .lockPre task
  | .joins => .join

namespace OffloadStream

variable (stream : OffloadStream ι) (thread : Thread ι)

def lockStream : Option (OffloadStream ι) :=
  if stream.lock = none then some { stream with lock := some thread } else none

def lockPreLock : Option (OffloadStream ι) :=
  if stream.preLock = none then some { stream with preLock := some thread } else none

def lockAdev : Option (OffloadStream ι) :=
  if stream.adevLock = none then some { stream with adevLock := some thread } else none

def compressClose : OffloadStream ι := { stream with closed := stream.compr.toList ++ stream.closed }

variable {next : OffloadStream ι}

theorem lockStream_eq_some :
    stream.lockStream thread = some next ↔ stream.lock = none ∧ { stream with lock := some thread } = next := by
  simp [lockStream]

theorem lockPreLock_eq_some :
    stream.lockPreLock thread = some next ↔ stream.preLock = none ∧ { stream with preLock := some thread } = next := by
  simp [lockPreLock]

theorem lockAdev_eq_some :
    stream.lockAdev thread = some next ↔ stream.adevLock = none ∧ { stream with adevLock := some thread } = next := by
  simp [lockAdev]

def sendOffloadCmd (cmd : OffloadCmd) : OffloadStream ι :=
  { stream with offloadCmdList := stream.offloadCmdList ++ [cmd] }

end OffloadStream

def outWrite (client : ι) (stream : OffloadStream ι) (input : Input) (bytes : Int) : WritePc → Step ι ClientPc
  | .testStandby =>
    if stream.standby then some (.outWrite bytes .lockAdev, { stream with standby := false })
    else some (.outWrite bytes .setMetadata, stream)
  | .lockAdev => (stream.lockAdev (.client client)).map (.outWrite bytes .openCompr, ·)
  | .openCompr =>
    match input with
    | .noDevice => some (.outWrite bytes (.unlockAdev true), stream)
    | .noHandle => some (.outWrite bytes (.unlockAdev false), { stream with compr := none })
    | .handle ready =>
      some (.outWrite bytes (if ready then .unlockAdev false else .closeUnready),
        { stream with compr := some stream.opened, opened := stream.opened + 1 })
    | _ => none
  | .closeUnready => some (.outWrite bytes .clearUnready, stream.compressClose)
  | .clearUnready => some (.outWrite bytes (.unlockAdev true), { stream with compr := none })
  | .unlockAdev failed =>
    some (.outWrite bytes (if failed then .restoreStandby else .setMetadata), { stream with adevLock := none })
  | .restoreStandby => some (.unlock (.locks (.standby false)), { stream with standby := true })
  | .setMetadata => some (.outWrite bytes .write, { stream with sendNewMetadata := false })
  | .write =>
    match input with
    | .wrote ret =>
      some (.outWrite bytes .start,
        if 0 ≤ ret ∧ ret < bytes then stream.sendOffloadCmd .waitForBuffer else stream)
    | _ => none
  | .start =>
    some (.unlock .returns,
      if stream.playbackStarted then stream
      else { stream with playbackStarted := true, offloadState := .playing })

def outStandby (client : ι) (stream : OffloadStream ι) (closes : Bool) : StandbyPc → Step ι ClientPc
  | .testStandby =>
    some (if stream.standby then .unlock (afterStandby closes) else .outStandby closes .lockAdev, stream)
  | .lockAdev => (stream.lockAdev (.client client)).map (.outStandby closes .setStandby, ·)
  | .setStandby => some (.stopCompressedOutput (.standby closes) .reset, { stream with standby := true })
  | .closeCompr =>
    if stream.compr = none then some (.outStandby closes .unlockAdev, stream)
    else some (.outStandby closes .clearCompr, stream.compressClose)
  | .clearCompr => some (.outStandby closes .unlockAdev, { stream with compr := none })
  | .unlockAdev => some (.unlock (afterStandby closes), { stream with adevLock := none })

def stopCompressedOutput (client : ι) (stream : OffloadStream ι) (caller : StopCaller) : StopPc → Step ι ClientPc
  | .reset =>
    some (if stream.compr = none then caller.next else .stopCompressedOutput caller .testBlocked,
      { stream with offloadState := .idle, playbackStarted := false, sendNewMetadata := true })
  | .testBlocked =>
    if stream.offloadThreadBlocked then some (.stopCompressedOutput caller .waitCond, { stream with lock := none })
    else some (caller.next, stream)
  | .waitCond => (stream.lockStream (.client client)).map (.stopCompressedOutput caller .testBlocked, ·)

def ClientPc.code (client : ι) (stream : OffloadStream ι) (input : Input) : ClientPc → Step ι ClientPc
  | .idle =>
    match input with
    | .call call => if stream.returned then some (.lockPre call.task, stream) else none
    | _ => none
  | .lockPre task => (stream.lockPreLock (.client client)).map (.lock task, ·)
  | .lock task => (stream.lockStream (.client client)).map (.unlockPre task, ·)
  | .unlockPre task => some (task.entry, { stream with preLock := none })
  | .unlock after => some (after.next, { stream with lock := none })
  | .outWrite bytes pc => Offload.outWrite client stream input bytes pc
  | .outStandby closes pc => Offload.outStandby client stream closes pc
  | .stopCompressedOutput caller pc => Offload.stopCompressedOutput client stream caller pc
  | .outDrain early =>
    some (.unlock .returns, stream.sendOffloadCmd (if early then .partialDrain else .drain))
  | .sendExit => some (.unlock .joins, stream.sendOffloadCmd .exit)
  | .join => if stream.exited then some (.free, stream) else none
  | .free => some (.idle, { stream with freed := true })

def CallbackPc.code (stream : OffloadStream ι) : CallbackPc → Step ι CallbackPc
  | .reset => some (.lockPre none, { stream with offloadState := .idle, playbackStarted := false })
  | .lockPre cmd => (stream.lockPreLock .callback).map (.lock cmd, ·)
  | .lock cmd => (stream.lockStream .callback).map (.unlockPre cmd, ·)
  | .unlockPre none => some (.loop, { stream with preLock := none })
  | .unlockPre (some cmd) => some (.unblock cmd, { stream with preLock := none })
  | .loop =>
    match stream.offloadCmdList with
    | [] => some (.waitCond, { stream with lock := none })
    | cmd :: cmds => some (if cmd = .exit then .freeCmds else .testCompr cmd, { stream with offloadCmdList := cmds })
  | .waitCond => (stream.lockStream .callback).map (.loop, ·)
  | .testCompr cmd => some (if stream.compr = none then .loop else .block cmd, stream)
  | .block cmd => some (.unlock cmd, { stream with offloadThreadBlocked := true })
  | .unlock cmd => some (.call cmd, { stream with lock := none })
  -- `compress_wait`, `compress_drain` and `compress_next_track`
  | .call cmd => some (if cmd = .partialDrain then .partialDrain else .lockPre (some cmd), stream)
  | .partialDrain => some (.resendMetadata, stream)
  | .resendMetadata => some (.lockPre (some .partialDrain), { stream with sendNewMetadata := true })
  | .unblock _ => some (.callback, { stream with offloadThreadBlocked := false })
  | .callback => some (.loop, stream)
  | .freeCmds => some (.unlockExit, { stream with offloadCmdList := [] })
  | .unlockExit => some (.exit, { stream with lock := none })
  | .exit => some (.ended, { stream with exited := true })
  | .ended => none

def OpenerPc.code (stream : OffloadStream ι) : OpenerPc → Step ι OpenerPc
  | .setStandby => some (.initLock, { stream with standby := true })
  | .initLock => some (.initPreLock, { stream with lock := none })
  | .initPreLock => some (.return, { stream with preLock := none })
  | .return => some (.ended, { stream with returned := true })
  | .ended => none

def elsewhereCode (stream : OffloadStream ι) : Bool → Step ι Bool
  | false => (stream.lockAdev .elsewhere).map (true, ·)
  | true => some (false, { stream with adevLock := none })

def code : Interleaved.Code (Control (ι := ι)) (OffloadStream ι) Input
  | .opener, pc, stream, _ => if stream.freed then none else OpenerPc.code stream pc
  | .callback, pc, stream, _ => if stream.freed then none else CallbackPc.code stream pc
  | .client client, pc, stream, input => if stream.freed then none else ClientPc.code client stream input pc
  | .elsewhere, pc, stream, _ => if stream.freed then none else elsewhereCode stream pc

end Steps

abbrev Session (ι : Type) := Interleaved (Control (ι := ι)) (OffloadStream ι)

def created (ι : Type) : Session ι where
  control
    | .opener => .setStandby
    | .callback => .reset
    | .client _ => .idle
    | .elsewhere => false
  shared :=
    { lock := none, preLock := none, adevLock := none, compr := none, opened := 0, closed := [], standby := false,
      offloadState := .idle, playbackStarted := false, sendNewMetadata := true, offloadCmdList := [],
      offloadThreadBlocked := false, returned := false, exited := false, freed := false }

end Nozomi.Offload
