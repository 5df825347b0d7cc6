import RtspServer.BufferStorage

/-!
# `muduo::net::TcpConnection`

What a connection does with the messages it is given to send, and how it is
closed. A message is written to the socket at once if nothing is waiting in the
output buffer; what the socket does not take waits there until the socket can be
written again. All this happens in the thread of the connection's event loop:
calls from other threads are queued for it, and so are some that the loop's own
thread makes. A call in another thread looks at the state first; this and the
queueing are taken as one step.

The socket is a stream of bytes. `write` takes as many of the bytes it is given
as it likes, or fails; once the write half has been shut it fails with `EPIPE`.
-/

namespace Muduo

/-- `TcpConnection::StateE`. -/
inductive StateE where
  | kDisconnected
  | kConnecting
  | kConnected
  | kDisconnecting
deriving DecidableEq, Repr

/-- What a connection has put into the queue of its loop. -/
inductive Functor where
  | sendInLoop (message : Bytes)
  | shutdownInLoop
  | forceCloseInLoop
  | writeCompleteCallback
  | highWaterMarkCallback (len : ℕ)
deriving DecidableEq

namespace Functor

/-- The message of a `send` in another thread. -/
def message? : Functor → Option Bytes
  | .sendInLoop message => some message
  | _ => none

/-- The functors that call a callback of the server and do nothing else. -/
def Notifies : Functor → Prop
  | .writeCompleteCallback => True
  | .highWaterMarkCallback _ => True
  | _ => False

theorem Notifies.message?_eq_none {f : Functor} (h : f.Notifies) : f.message? = none := by
  cases f with
  | sendInLoop message => cases h
  | _ => rfl

theorem Notifies.ne_shutdownInLoop {f : Functor} (h : f.Notifies) : f ≠ .shutdownInLoop := by
  rintro rfl
  exact h

end Functor

/-- The callbacks of a connection: `connectionCallback_` while it is up and when
it is down, and the others. -/
inductive Callback where
  | up
  | message
  | down
  | close
  | writeComplete
  | highWaterMark (len : ℕ)
deriving DecidableEq

/-- The results of `::write`: a number of bytes, `EWOULDBLOCK`, one of `EPIPE`
and `ECONNRESET`, or another error. -/
inductive WriteResult where
  | wrote (n : ℕ)
  | wouldBlock
  | brokenPipe
  | failed
deriving DecidableEq

/-- The results of `readFd`: some bytes, the end of the stream, or an error. -/
inductive ReadResult where
  | data
  | endOfStream
  | failed
deriving DecidableEq

/-- The events that `poll` reports for a channel. -/
structure Revents where
  pollIn : Bool := false
  pollPri : Bool := false
  pollOut : Bool := false
  pollErr : Bool := false
  pollHup : Bool := false
  pollNval : Bool := false
  pollRdhup : Bool := false

/-- The callbacks that a server has set, and the high-water mark. -/
structure ConnectionOptions where
  writeCompleteCallback : Bool := false
  highWaterMarkCallback : Bool := false
  highWaterMark : ℕ := 64 * 1024 * 1024

/-- A connection. `writing` and `reading` are the interest of its channel, which is
added to the loop by its first `update` and taken out by `remove`; `sent` is what
the socket has taken, and `shut` is the state in which `shutdownWrite` was called
first. `offered` are the messages that `send` was called with, in whatever thread,
and the state that each of these calls found; `handled` are those that `sendInLoop`
was called with, and `accepted` those of them that it did not drop. `broken` says
whether one was dropped because its write failed. `delayed` counts the timers that
`forceCloseWithDelay` has set. -/
structure TcpConnection where
  state : StateE := .kConnecting
  writing : Bool := false
  reading : Bool := false
  addedToLoop : Bool := false
  outputBuffer : Buffer := .ofSize kInitialSize
  pending : List Functor := []
  delayed : ℕ := 0
  sent : Bytes := []
  shut : Option StateE := none
  offered : List (Bytes × StateE) := []
  handled : List Bytes := []
  accepted : List Bytes := []
  broken : Bool := false
  shutdownCalled : Bool := false
  callbacks : List Callback := []

namespace WriteResult

/-- What `write` may return for `len` bytes, on a socket whose write half may have been
shut: some of the bytes or all, or an error. After `shutdownWrite` it cannot succeed,
and the error is `EPIPE`. -/
def Possible (shut : Bool) (len : ℕ) : WriteResult → Prop
  | .wrote n => shut = false ∧ n ≤ len
  | .brokenPipe => True
  | .wouldBlock => shut = false
  | .failed => shut = false

instance (shut : Bool) (len : ℕ) : (r : WriteResult) → Decidable (r.Possible shut len)
  | .wrote n => inferInstanceAs (Decidable (shut = false ∧ n ≤ len))
  | .brokenPipe => inferInstanceAs (Decidable True)
  | .wouldBlock => inferInstanceAs (Decidable (shut = false))
  | .failed => inferInstanceAs (Decidable (shut = false))

/-- The bytes that are written. -/
def count : WriteResult → ℕ
  | .wrote n => n
  | _ => 0

/-- A socket whose write half is shut takes nothing. -/
theorem Possible.of_shut {len : ℕ} {r : WriteResult} (h : r.Possible true len) :
    r = .brokenPipe := by
  cases r with
  | wrote n => cases h.1
  | brokenPipe => rfl
  | wouldBlock => cases h
  | failed => cases h

end WriteResult

namespace TcpConnection

def queueInLoop (c : TcpConnection) (f : Functor) : TcpConnection :=
  { c with pending := c.pending ++ [f] }

def isOpen (c : TcpConnection) : Bool := c.state = .kConnected ∨ c.state = .kDisconnecting

/-! ## Sending -/

/-- The end of `sendInLoop`: `remaining` waits in the output buffer. -/
def bufferOutput (o : ConnectionOptions) (c : TcpConnection) (remaining : Bytes) : TcpConnection :=
  let oldLen := c.outputBuffer.readableBytes
  let c := if o.highWaterMark ≤ oldLen + remaining.length ∧ oldLen < o.highWaterMark
      ∧ o.highWaterMarkCallback then
    c.queueInLoop (.highWaterMarkCallback (oldLen + remaining.length)) else c
  { c with outputBuffer := c.outputBuffer.append remaining, writing := true }

/-- The message, and what `write` returns where it is called. -/
def sendInLoop (o : ConnectionOptions) (c : TcpConnection) (data : Bytes) (r : WriteResult) :
    Option TcpConnection :=
  let c := { c with handled := c.handled ++ [data] }
  if c.state = .kDisconnected then some c
  else if c.writing = false ∧ c.outputBuffer.readableBytes = 0 then
    if r.Possible c.shut.isSome data.length then
      if r = .brokenPipe then some { c with broken := true }
      else
        let remaining := data.drop r.count
        let c := { c with sent := c.sent ++ data.take r.count, accepted := c.accepted ++ [data] }
        if remaining = [] then
          some (if r = .wrote data.length ∧ o.writeCompleteCallback then
            c.queueInLoop .writeCompleteCallback else c)
        else some (c.bufferOutput o remaining)
    else none
  else
    let c := { c with accepted := c.accepted ++ [data] }
    if data = [] then some c else some (c.bufferOutput o data)

/-! ## Closing -/

def shutdownInLoop (c : TcpConnection) : TcpConnection :=
  if c.writing then c else { c with shut := c.shut.or (some c.state) }

/-- `connectionCallback_` and `closeCallback_` are called when the channel is
disabled. -/
def handleClose (c : TcpConnection) : TcpConnection :=
  { c with
    state := .kDisconnected
    writing := false
    reading := false
    callbacks := c.callbacks ++ [.down, .close] }

def forceCloseInLoop (c : TcpConnection) : TcpConnection :=
  if c.isOpen then c.handleClose else c

/-! ## Calls -/

/-- A call made in the loop's thread. -/
inductive Call where
  | send (message : Bytes) (r : WriteResult)
  | shutdown
  | forceClose
  | forceCloseWithDelay

def shutdown (c : TcpConnection) : TcpConnection :=
  if c.state = .kConnected then
    { c with state := .kDisconnecting, shutdownCalled := true }.shutdownInLoop
  else c

def forceClose (c : TcpConnection) : TcpConnection :=
  if c.isOpen then { c with state := .kDisconnecting }.queueInLoop .forceCloseInLoop else c

def forceCloseWithDelay (c : TcpConnection) : TcpConnection :=
  if c.isOpen then { c with state := .kDisconnecting, delayed := c.delayed + 1 } else c

/-- `send` is called. -/
def offer (c : TcpConnection) (message : Bytes) : TcpConnection :=
  { c with offered := c.offered ++ [(message, c.state)] }

/-- In the loop's thread, `send`, too, calls its `sendInLoop` at once. In a state
other than `kConnected` it does nothing, and says nothing of it. -/
def send (o : ConnectionOptions) (c : TcpConnection) (message : Bytes) (r : WriteResult) :
    Option TcpConnection :=
  if c.state = .kConnected then (c.offer message).sendInLoop o message r
  else some (c.offer message)

def call (o : ConnectionOptions) (c : TcpConnection) : Call → Option TcpConnection
  | .send message r => c.send o message r
  | .shutdown => some c.shutdown
  | .forceClose => some c.forceClose
  | .forceCloseWithDelay => some c.forceCloseWithDelay

/-- `send` in another thread. -/
def sendElsewhere (c : TcpConnection) (message : Bytes) : TcpConnection :=
  if c.state = .kConnected then (c.offer message).queueInLoop (.sendInLoop message)
  else c.offer message

/-- `shutdown` in another thread. -/
def shutdownElsewhere (c : TcpConnection) : TcpConnection :=
  if c.state = .kConnected then
    { c with state := .kDisconnecting, shutdownCalled := true }.queueInLoop .shutdownInLoop
  else c

/-! ## Events -/

def connectEstablished (c : TcpConnection) : TcpConnection :=
  { c with
    state := .kConnected
    reading := true
    addedToLoop := true
    callbacks := c.callbacks ++ [.up] }

/-- The calls are those of `messageCallback_`. -/
def handleRead (o : ConnectionOptions) (c : TcpConnection) (calls : List Call) :
    ReadResult → Option TcpConnection
  | .data => calls.foldlM (call o) { c with callbacks := c.callbacks ++ [.message] }
  | .endOfStream => some c.handleClose
  | .failed => some c

/-- After the output buffer has become empty. -/
def outputWritten (o : ConnectionOptions) (c : TcpConnection) : TcpConnection :=
  let c := { c with writing := false }
  let c := if o.writeCompleteCallback then c.queueInLoop .writeCompleteCallback else c
  if c.state = .kDisconnecting then c.shutdownInLoop else c

def handleWrite (o : ConnectionOptions) (c : TcpConnection) (r : WriteResult) :
    Option TcpConnection :=
  if c.writing then
    if r.Possible c.shut.isSome c.outputBuffer.readableBytes then
      if 0 < r.count then
        let c := { c with
          sent := c.sent ++ c.outputBuffer.readable.take r.count
          outputBuffer := c.outputBuffer.retrieve r.count }
        some (if c.outputBuffer.readableBytes = 0 then c.outputWritten o else c)
      else some c
    else none
  else some c

/-- `Channel::handleEventWithGuard`. `handleError` only writes to the log. -/
def handleEvent (o : ConnectionOptions) (c : TcpConnection) (revents : Revents)
    (read : ReadResult) (calls : List Call) (r : WriteResult) : Option TcpConnection :=
  let c := if revents.pollHup && !revents.pollIn then c.handleClose else c
  (if revents.pollIn || revents.pollPri || revents.pollRdhup then
    c.handleRead o calls read else some c).bind fun c =>
      if revents.pollOut then c.handleWrite o r else some c

/-- The functor at the head of the queue. -/
def runFunctor (o : ConnectionOptions) (c : TcpConnection) (r : WriteResult) :
    Functor → Option TcpConnection
  | .sendInLoop message => c.sendInLoop o message r
  | .shutdownInLoop => some c.shutdownInLoop
  | .forceCloseInLoop => some c.forceCloseInLoop
  | .writeCompleteCallback => some { c with callbacks := c.callbacks ++ [.writeComplete] }
  | .highWaterMarkCallback len => some { c with callbacks := c.callbacks ++ [.highWaterMark len] }

/-- `Channel::remove` expects that no interest is left, and the poller that the
channel is there. -/
def removeChannel (c : TcpConnection) : Option TcpConnection :=
  if c.writing = false ∧ c.reading = false ∧ c.addedToLoop = true then
    some { c with addedToLoop := false }
  else none

/-- A server calls this for a connection that was closed, and its destructor for
those that it still has; `closeCallback_` is not called here. -/
def connectDestroyed (c : TcpConnection) : Option TcpConnection :=
  (if c.state = .kConnected then
    { c with
      state := .kDisconnected
      writing := false
      reading := false
      callbacks := c.callbacks ++ [.down] }
  else c).removeChannel

/-- What may happen to a connection. The last calls of a callback are part of the
event, and `call` is a call made in another function of the loop's thread. -/
inductive Event where
  | established (calls : List Call)
  | event (revents : Revents) (read : ReadResult) (calls : List Call) (r : WriteResult)
  | call (x : Call)
  | sendElsewhere (message : Bytes)
  | shutdownElsewhere
  | functor (r : WriteResult)
  | timer
  | destroyed

end TcpConnection

/-- What `poll` may report for a TCP socket: when both halves are closed there is
the end of the stream to read, so that `POLLHUP` comes with `POLLIN` or without
any of the other events that are read. -/
def Revents.Possible (revents : Revents) : Prop :=
  revents.pollHup → revents.pollIn = false → revents.pollPri = false ∧ revents.pollRdhup = false

instance (revents : Revents) : Decidable revents.Possible :=
  inferInstanceAs (Decidable (_ → _ → _ ∧ _))

namespace TcpConnection

/-- One step. A connection is established once, and events are reported while its
channel is registered. It may be destroyed in any state, as the destructor of its
server does not ask which state it is in: where an assertion of the source fails
then, there is no step. -/
def step (o : ConnectionOptions) (c : TcpConnection) : Event → Option TcpConnection
  | .established calls =>
    if c.state = .kConnecting then calls.foldlM (call o) c.connectEstablished else none
  | .event revents read calls r =>
    if c.reading ∧ revents.Possible then c.handleEvent o revents read calls r else none
  | .call x => c.call o x
  | .sendElsewhere message => some (c.sendElsewhere message)
  | .shutdownElsewhere => some c.shutdownElsewhere
  | .functor r =>
    match c.pending with
    | [] => none
    | f :: rest => { c with pending := rest }.runFunctor o r f
  | .timer => if 0 < c.delayed then some { c with delayed := c.delayed - 1 }.forceClose else none
  | .destroyed => c.connectDestroyed

/-- A new connection and what happens to it. -/
def system (o : ConnectionOptions) : System TcpConnection Event where
  init c := c = {}
  step c e c' := c.step o e = some c'

/-! ## What sending does -/

/-- `data` is handled, and `n` bytes of it have been written where nothing was
waiting; the rest waits in the output buffer. -/
structure Kept (c : TcpConnection) (data : Bytes) (c' : TcpConnection) : Prop where
  state : c'.state = c.state
  reading : c'.reading = c.reading
  addedToLoop : c'.addedToLoop = c.addedToLoop
  shut : c'.shut = c.shut
  shutdownCalled : c'.shutdownCalled = c.shutdownCalled
  callbacks : c'.callbacks = c.callbacks
  offered : c'.offered = c.offered
  handled : c'.handled = c.handled ++ [data]
  accepted : c'.accepted = c.accepted ++ [data]
  broken : c'.broken = c.broken
  pending : ∃ fs, c'.pending = c.pending ++ fs ∧ ∀ f ∈ fs, f.Notifies
  written : ∃ n, c'.sent = c.sent ++ data.take n ∧
    c'.outputBuffer.readable = c.outputBuffer.readable ++ data.drop n ∧
    (c'.writing = true ↔ c.writing = true ∨ data.drop n ≠ []) ∧
    (c.writing = true ∨ c.outputBuffer.readable ≠ [] → n = 0)
  shutWaits : c.shut ≠ none → c.writing = true ∨ c.outputBuffer.readable ≠ []

theorem readableBytes_eq_zero_iff {b : Buffer} : b.readableBytes = 0 ↔ b.readable = [] := by
  rw [← b.length_readable]
  exact List.length_eq_zero_iff

theorem bufferOutput_spec (o : ConnectionOptions) (c : TcpConnection) (remaining : Bytes) :
    ∃ fs, (∀ f ∈ fs, f.Notifies) ∧ c.bufferOutput o remaining = { c with
      pending := c.pending ++ fs
      outputBuffer := c.outputBuffer.append remaining
      writing := true } := by
  unfold bufferOutput
  dsimp only
  split
  · exact ⟨[.highWaterMarkCallback _], by simp [Functor.Notifies], rfl⟩
  · exact ⟨[], by simp, by rw [List.append_nil]⟩

/-- **A message is kept whole, or dropped whole**: it is dropped where the
connection is down, or where a write fails with which it would have begun. -/
theorem sendInLoop_cases {o : ConnectionOptions} {c c' : TcpConnection} {data : Bytes}
    {r : WriteResult} (h : c.sendInLoop o data r = some c') :
    (c' = { c with handled := c.handled ++ [data] } ∧ c.state = .kDisconnected) ∨
      c' = { c with handled := c.handled ++ [data], broken := true } ∨
      (Kept c data c' ∧ c.state ≠ .kDisconnected) := by
  unfold sendInLoop at h
  dsimp only at h
  by_cases hdown : c.state = .kDisconnected
  · rw [if_pos hdown, Option.some.injEq] at h
    exact .inl ⟨h.symm, hdown⟩
  · rw [if_neg hdown] at h
    by_cases hdirect : c.writing = false ∧ c.outputBuffer.readableBytes = 0
    · have hnone : c.outputBuffer.readable = [] := readableBytes_eq_zero_iff.mp hdirect.2
      rw [if_pos hdirect] at h
      by_cases hpossible : r.Possible c.shut.isSome data.length
      · rw [if_pos hpossible] at h
        by_cases hbroken : r = .brokenPipe
        · rw [if_pos hbroken, Option.some.injEq] at h
          exact .inr (.inl h.symm)
        · rw [if_neg hbroken] at h
          have hshut : c.shut = none := by
            cases hs : c.shut with
            | none => rfl
            | some s =>
              rw [hs] at hpossible
              exact absurd hpossible.of_shut hbroken
          refine .inr (.inr ⟨?_, hdown⟩)
          by_cases hrest : data.drop r.count = []
          · rw [if_pos hrest, Option.some.injEq] at h
            subst h
            split
            · exact ⟨rfl, rfl, rfl, rfl, rfl, rfl, rfl, rfl, rfl, rfl,
                ⟨[.writeCompleteCallback], rfl, by simp [Functor.Notifies]⟩,
                ⟨r.count, rfl, by simp [hrest, queueInLoop], by simp [hrest, queueInLoop],
                  by simp [hdirect.1, hnone]⟩, by simp [hshut]⟩
            · exact ⟨rfl, rfl, rfl, rfl, rfl, rfl, rfl, rfl, rfl, rfl, ⟨[], by simp, by simp⟩,
                ⟨r.count, rfl, by simp [hrest], by simp [hrest], by simp [hdirect.1, hnone]⟩,
                by simp [hshut]⟩
          · rw [if_neg hrest, Option.some.injEq] at h
            subst h
            obtain ⟨fs, hfs, hbuf⟩ := bufferOutput_spec o { c with
              handled := c.handled ++ [data], sent := c.sent ++ data.take r.count,
              accepted := c.accepted ++ [data] } (data.drop r.count)
            rw [hbuf]
            exact ⟨rfl, rfl, rfl, rfl, rfl, rfl, rfl, rfl, rfl, rfl, ⟨fs, rfl, hfs⟩,
              ⟨r.count, rfl, Buffer.readable_append _ _, by simp [hrest],
                by simp [hdirect.1, hnone]⟩, by simp [hshut]⟩
      · rw [if_neg hpossible] at h
        cases h
    · rw [if_neg hdirect] at h
      have hwaits : c.writing = true ∨ c.outputBuffer.readable ≠ [] := by
        by_contra hnot
        obtain ⟨hw, hb⟩ := not_or.mp hnot
        exact hdirect ⟨Bool.eq_false_iff.mpr hw, readableBytes_eq_zero_iff.mpr (not_not.mp hb)⟩
      refine .inr (.inr ⟨?_, hdown⟩)
      by_cases hempty : data = []
      · rw [if_pos hempty, Option.some.injEq] at h
        subst h
        exact ⟨rfl, rfl, rfl, rfl, rfl, rfl, rfl, rfl, rfl, rfl, ⟨[], by simp, by simp⟩,
          ⟨0, by simp, by simp [hempty], by simp [hempty], fun _ => rfl⟩, fun _ => hwaits⟩
      · rw [if_neg hempty, Option.some.injEq] at h
        subst h
        obtain ⟨fs, hfs, hbuf⟩ := bufferOutput_spec o { c with
          handled := c.handled ++ [data], accepted := c.accepted ++ [data] } data
        rw [hbuf]
        exact ⟨rfl, rfl, rfl, rfl, rfl, rfl, rfl, rfl, rfl, rfl, ⟨fs, rfl, hfs⟩,
          ⟨0, by simp, Buffer.readable_append _ _, by simp [hempty], fun _ => rfl⟩,
          fun _ => hwaits⟩

/-! ## The invariant -/

/-- The callbacks that make up the life of a connection. -/
def lifecycle (c : TcpConnection) : List Callback :=
  c.callbacks.filter fun e => e = .up ∨ e = .message ∨ e = .down ∨ e = .close

/-- The callbacks of a connection in a given state: up, then messages, then down
and closed. A connection that was connected when it was destroyed is down and not
closed; its channel has been removed. -/
def Lived (cs : List Callback) (removed : Prop) : StateE → Prop
  | .kConnecting => cs = []
  | .kConnected => ∃ n, cs = .up :: List.replicate n .message
  | .kDisconnecting => ∃ n, cs = .up :: List.replicate n .message
  | .kDisconnected => ∃ n, cs = .up :: (List.replicate n .message ++ [.down, .close]) ∨
      cs = .up :: (List.replicate n .message ++ [.down]) ∧ removed

theorem Lived.mono {cs : List Callback} {p q : Prop} {s : StateE} (hpq : p → q)
    (h : Lived cs p s) : Lived cs q s := by
  cases s with
  | kDisconnected =>
    obtain ⟨n, hn⟩ := h
    exact ⟨n, hn.imp_right (And.imp_right hpq)⟩
  | _ => exact h

/-- The messages that were given to `send` while the connection was connected. -/
def admitted (c : TcpConnection) : List Bytes :=
  (c.offered.filter fun m => m.2 = .kConnected).map Prod.fst

/-- Those of them that wait in the queue of the loop. -/
def waiting (c : TcpConnection) : List Bytes := c.pending.filterMap Functor.message?

theorem waiting_queueInLoop {c : TcpConnection} {f : Functor} (hf : f.message? = none) :
    (c.queueInLoop f).waiting = c.waiting := by
  simp [waiting, queueInLoop, hf]

/-- The write half is to be shut, or has been. -/
def Closing (c : TcpConnection) : Prop := c.state = .kDisconnecting ∨ c.state = .kDisconnected

/-- **What holds between any two steps of a connection**: the bytes written, and
then those that wait, are the messages accepted; the socket is watched for room
exactly while bytes wait; and nothing waits where the write half was shut before
the connection was down. Within a step `due` is the message that was given to `send`,
or taken from the queue of the loop, and that `sendInLoop` is about to handle. -/
structure Core (c : TcpConnection) (due : List Bytes := []) : Prop where
  admitted : c.admitted.Perm (c.handled ++ due ++ c.waiting)
  stream : c.sent ++ c.outputBuffer.readable = c.accepted.flatten
  sublist : c.accepted.Sublist c.handled
  kept : c.broken = false → c.state ≠ .kDisconnected → c.accepted = c.handled
  writing : c.writing = true ↔ c.outputBuffer.readable ≠ [] ∧ c.state ≠ .kDisconnected
  reading : c.reading = true ↔ c.isOpen = true
  addedToLoop : c.isOpen = true → c.addedToLoop = true
  shut : ∀ s, c.shut = some s →
    s = .kDisconnecting ∧ c.outputBuffer.readable = [] ∨ s = .kDisconnected
  closing : c.shut ≠ none ∨ c.shutdownCalled = true ∨ .shutdownInLoop ∈ c.pending → c.Closing
  lived : Lived c.lifecycle (c.addedToLoop = false) c.state

/-- Once `shutdown` was called, the write half is shut when nothing waits any
longer. -/
def Drained (c : TcpConnection) : Prop :=
  c.shutdownCalled = true → c.state = .kDisconnecting → .shutdownInLoop ∉ c.pending →
    c.outputBuffer.readable = [] → c.shut ≠ none

structure Inv (c : TcpConnection) (due : List Bytes := []) : Prop extends Core c due where
  drained : c.Drained

theorem isOpen_iff {c : TcpConnection} :
    c.isOpen = true ↔ c.state = .kConnected ∨ c.state = .kDisconnecting := by
  simp [isOpen]

theorem inv_new : Inv {} where
  admitted := List.Perm.refl []
  stream := by simp
  sublist := List.Sublist.refl []
  kept := by simp
  writing := by simp
  reading := by simp [isOpen]
  addedToLoop := by simp [isOpen]
  shut := by simp
  closing := by simp
  lived := rfl
  drained := by simp [Drained]

section

variable {o : ConnectionOptions} {c c' : TcpConnection} {due : List Bytes}

/-- What is added to the queue, or taken from it, matters only as far as it shuts
the write half, or is a message to be handled. -/
theorem Core.pending (h : c.Core due) {fs : List Functor} {due' : List Bytes}
    (hfs : .shutdownInLoop ∈ fs → .shutdownInLoop ∈ c.pending)
    (hdue : (due ++ c.waiting).Perm (due' ++ fs.filterMap Functor.message?)) :
    Core { c with pending := fs } due' :=
  { h with
    admitted := by
      have hadmitted := h.admitted
      rw [List.append_assoc] at hadmitted ⊢
      exact hadmitted.trans (hdue.append_left _)
    closing := fun hs => h.closing (hs.imp_right (Or.imp_right hfs)) }

/-- A message that is due may be put into the queue of the loop. -/
theorem Inv.queueInLoop {f : Functor} (h : c.Inv f.message?.toList) (hf : f ≠ .shutdownInLoop) :
    (c.queueInLoop f).Inv where
  toCore := h.toCore.pending (fun hs => by simpa [hf.symm] using hs) (by
    rw [List.filterMap_append, List.nil_append]
    exact List.perm_append_comm.trans (by
      cases hf : f.message? <;> simp [waiting, hf]))
  drained hcalled hstate hpending := h.drained hcalled hstate fun hp =>
    hpending (List.mem_append_left _ hp)

/-- What is taken out of it is due, where it is a message. -/
theorem Core.tail (h : c.Core) {f : Functor} {rest : List Functor} (hq : c.pending = f :: rest) :
    Core { c with pending := rest } f.message?.toList := by
  refine h.pending (fun hs => hq ▸ List.mem_cons_of_mem f hs) ?_
  rw [waiting, hq]
  cases hf : f.message? with
  | none => simp [hf]
  | some message => simp [hf]

theorem Inv.tail (h : c.Inv) {f : Functor} {rest : List Functor} (hq : c.pending = f :: rest)
    (hf : f ≠ .shutdownInLoop) : Inv { c with pending := rest } f.message?.toList :=
  ⟨h.toCore.tail hq, fun hcalled hstate hnot =>
    h.drained hcalled hstate (by rw [hq]; simp [Ne.symm hf, hnot])⟩

/-- A message that is given to `send` is due where the connection is connected. -/
theorem Inv.offer (h : c.Inv) (message : Bytes) :
    (c.offer message).Inv (if c.state = .kConnected then [message] else []) := by
  refine ⟨{ h with admitted := ?_ }, h.drained⟩
  have hadmitted : c.admitted.Perm (c.handled ++ c.waiting) := by simpa using h.admitted
  show ((c.offered ++ [(message, c.state)]).filter _ |>.map Prod.fst).Perm _
  rw [List.filter_append, List.map_append]
  by_cases hstate : c.state = .kConnected
  · rw [if_pos hstate, List.append_assoc]
    have hlast : ([(message, c.state)].filter fun m => m.2 = .kConnected).map Prod.fst
        = [message] := by simp [hstate]
    rw [hlast]
    exact (hadmitted.append_right _).trans (by
      rw [List.append_assoc]
      exact List.perm_append_comm.append_left _)
  · rw [if_neg hstate]
    have hnone : ([(message, c.state)].filter fun m => m.2 = .kConnected).map Prod.fst = [] := by
      simp [hstate]
    rw [hnone, List.append_nil]
    exact h.admitted

theorem Inv.sendInLoop {data : Bytes} {r : WriteResult} (hc : c.Inv [data])
    (h : c.sendInLoop o data r = some c') : c'.Inv := by
  have hdrop : c.accepted.Sublist (c.handled ++ [data]) :=
    hc.sublist.trans (List.sublist_append_left _ _)
  have hadmitted : c.admitted.Perm (c.handled ++ [data] ++ [] ++ c.waiting) := by
    rw [List.append_nil]
    exact hc.admitted
  rcases sendInLoop_cases h with ⟨rfl, hdown⟩ | rfl | ⟨hk, hup⟩
  · exact { hc with
      admitted := hadmitted, sublist := hdrop, kept := fun _ hup => absurd hdown hup }
  · exact { hc with admitted := hadmitted, sublist := hdrop, kept := by simp }
  · obtain ⟨fs, hfs, hnone⟩ := hk.pending
    obtain ⟨n, hsent, hreadable, hwriting, hwaits⟩ := hk.written
    have hmem : .shutdownInLoop ∈ c'.pending ↔ .shutdownInLoop ∈ c.pending := by
      rw [hfs, List.mem_append, or_iff_left fun hin => (hnone _ hin).ne_shutdownInLoop rfl]
    have hwaiting : c'.waiting = c.waiting := by
      have hmessages : fs.filterMap Functor.message? = [] :=
        List.filterMap_eq_nil_iff.mpr fun f hf => (hnone f hf).message?_eq_none
      rw [waiting, hfs, List.filterMap_append, hmessages, List.append_nil]
      rfl
    refine ⟨⟨?_, ?_, ?_, ?_, ?_, ?_, ?_, ?_, ?_, ?_⟩, ?_⟩
    · rw [TcpConnection.admitted, hk.offered, hk.handled, hwaiting]
      exact hadmitted
    · by_cases hempty : c.outputBuffer.readable = []
      · have hstream := hc.stream
        rw [hempty, List.append_nil] at hstream
        simp [hsent, hreadable, hk.accepted, ← hstream, hempty]
      · simp [hsent, hreadable, hk.accepted, ← hc.stream, hwaits (.inr hempty)]
    · rw [hk.accepted, hk.handled]
      exact hc.sublist.append_right _
    · rw [hk.broken, hk.accepted, hk.handled]
      exact fun hb _ => congrArg (· ++ [data]) (hc.kept hb hup)
    · rw [hwriting, hc.writing, hreadable, hk.state]
      simp only [hup, not_false_eq_true, and_true, ne_eq, List.append_eq_nil_iff]
      tauto
    · rw [hk.reading, isOpen_iff, hk.state, ← isOpen_iff]
      exact hc.reading
    · rw [hk.addedToLoop, isOpen_iff, hk.state, ← isOpen_iff]
      exact hc.addedToLoop
    · intro s hs
      rw [hk.shut] at hs
      rcases hc.shut s hs with ⟨-, hempty⟩ | hdown
      · -- with the write half shut and nothing waiting, a message is not kept
        rcases hk.shutWaits (by simp [hs]) with hw | hw
        · exact absurd hempty (hc.writing.mp hw).1
        · exact absurd hempty hw
      · exact .inr hdown
    · rw [hk.shut, hk.shutdownCalled, hmem, Closing, hk.state]
      exact hc.closing
    · rw [lifecycle, hk.callbacks, hk.state, hk.addedToLoop]
      exact hc.lived
    · intro hcalled hstate hpending hempty
      rw [hk.shutdownCalled] at hcalled
      rw [hk.state] at hstate
      rw [hreadable, List.append_eq_nil_iff] at hempty
      rw [hk.shut]
      exact hc.drained hcalled hstate (fun hp => hpending (hmem.mpr hp)) hempty.1

/-- Shutting the write half, where it is to be shut. -/
theorem Core.shutdownInLoop (h : c.Core) (hclosing : c.Closing) :
    c.shutdownInLoop.Inv := by
  unfold TcpConnection.shutdownInLoop
  by_cases hw : c.writing = true
  · rw [if_pos hw]
    exact ⟨h, fun _ _ _ hempty => absurd hempty (h.writing.mp hw).1⟩
  · rw [if_neg hw]
    refine ⟨{ h with shut := fun s hs => ?_, closing := fun _ => hclosing }, fun _ _ _ _ => ?_⟩
    · cases hshut : c.shut with
      | some s₀ =>
        refine h.shut s (hshut.trans ?_)
        rw [hshut, Option.some_or] at hs
        exact hs
      | none =>
        rw [hshut, Option.none_or, Option.some.injEq] at hs
        subst hs
        rcases hclosing with hstate | hstate
        · refine .inl ⟨hstate, ?_⟩
          by_contra hne
          exact hw (h.writing.mpr ⟨hne, by rw [hstate]; decide⟩)
        · exact .inr hstate
    · cases c.shut with
      | some s₀ => simp
      | none => simp

/-- An open connection was up, and got messages. -/
theorem Core.exists_lifecycle (h : c.Core) (hopen : c.isOpen = true) :
    ∃ n, c.lifecycle = .up :: List.replicate n .message := by
  have hl := h.lived
  rcases isOpen_iff.mp hopen with hs | hs
  · rwa [hs] at hl
  · rwa [hs] at hl

/-- A connection that goes down, and what is called then. -/
theorem Core.down (h : c.Core) {cs : List Callback} {added : Bool}
    (hlived : Lived (lifecycle { c with callbacks := c.callbacks ++ cs }) (added = false)
      .kDisconnected) :
    Inv { c with
      state := .kDisconnected
      writing := false
      reading := false
      addedToLoop := added
      callbacks := c.callbacks ++ cs } := by
  refine ⟨{ h with
    kept := fun _ hup => absurd rfl hup
    writing := ?_
    reading := ?_
    addedToLoop := ?_
    closing := fun _ => .inr rfl
    lived := hlived }, ?_⟩
  · simp
  · simp [isOpen]
  · simp [isOpen]
  · intro _ hstate
    cases hstate

theorem Core.handleClose (h : c.Core) (hopen : c.isOpen = true) : c.handleClose.Inv := by
  obtain ⟨n, hn⟩ := h.exists_lifecycle hopen
  refine h.down ⟨n, .inl ?_⟩
  show (c.callbacks ++ [Callback.down, Callback.close]).filter _ = _
  rw [List.filter_append]
  exact congrArg (· ++ [Callback.down, Callback.close]) hn

/-- A connection whose channel has no interest left is not open. -/
theorem Inv.removeChannel (h : c.Inv) (hs : c.removeChannel = some c') : c'.Inv := by
  unfold TcpConnection.removeChannel at hs
  split at hs
  · rename_i hnone
    cases hs
    have hclosed : c.isOpen = true → False := fun hopen => by
      simpa [hnone.2.1] using h.reading.mpr hopen
    exact ⟨{ h with
      addedToLoop := fun hopen => (hclosed hopen).elim
      lived := h.lived.mono fun _ => rfl }, h.drained⟩
  · cases hs

theorem Inv.connectDestroyed (h : c.Inv) (hs : c.connectDestroyed = some c') : c'.Inv := by
  unfold TcpConnection.connectDestroyed at hs
  by_cases hstate : c.state = .kConnected
  · have hopen : c.isOpen = true := isOpen_iff.mpr (.inl hstate)
    rw [if_pos hstate, TcpConnection.removeChannel, if_pos ⟨rfl, rfl, h.addedToLoop hopen⟩] at hs
    cases hs
    obtain ⟨n, hn⟩ := h.exists_lifecycle hopen
    refine h.toCore.down ⟨n, .inr ⟨?_, rfl⟩⟩
    show (c.callbacks ++ [Callback.down]).filter _ = _
    rw [List.filter_append]
    exact congrArg (· ++ [Callback.down]) hn
  · rw [if_neg hstate] at hs
    exact h.removeChannel hs

/-- The state of an open connection becomes `kDisconnecting` where it is not yet. -/
theorem Inv.disconnecting (hc : c.Inv) (hopen : c.isOpen = true) :
    Inv { c with state := .kDisconnecting } := by
  have hstate := isOpen_iff.mp hopen
  have hup : c.state ≠ .kDisconnected := by rcases hstate with hs | hs <;> rw [hs] <;> decide
  refine ⟨{ hc with
    kept := fun hb _ => hc.kept hb hup
    writing := ?_
    reading := ?_
    addedToLoop := fun _ => hc.addedToLoop hopen
    closing := ?_
    lived := ?_ }, ?_⟩
  · have hw := hc.writing
    rcases hstate with hs | hs
    · rw [hs] at hw
      simpa using hw
    · rw [hs] at hw
      exact hw
  · exact ⟨fun _ => isOpen_iff.mpr (.inr rfl), fun _ => hc.reading.mpr hopen⟩
  · exact fun _ => .inl rfl
  · exact hc.exists_lifecycle hopen
  · intro hcalled _ hpending hempty
    -- a connection for which `shutdown` was called is not connected
    have hclosing := hc.closing (.inr (.inl hcalled))
    refine hc.drained hcalled (hstate.resolve_left fun hs => ?_) hpending hempty
    rcases hclosing with hs' | hs' <;> rw [hs] at hs' <;> cases hs'

theorem Inv.forceClose (hc : c.Inv) : c.forceClose.Inv := by
  unfold TcpConnection.forceClose
  split
  · exact Inv.queueInLoop (f := .forceCloseInLoop) (hc.disconnecting ‹_›) (by simp)
  · exact hc

theorem Inv.send (hc : c.Inv) {message : Bytes} {r : WriteResult}
    (h : c.send o message r = some c') : c'.Inv := by
  have hoffer := hc.offer message
  unfold TcpConnection.send at h
  by_cases hstate : c.state = .kConnected
  · rw [if_pos hstate] at h hoffer
    exact hoffer.sendInLoop h
  · rw [if_neg hstate] at h hoffer
    cases h
    exact hoffer

theorem Inv.call (hc : c.Inv) {x : Call} (h : c.call o x = some c') : c'.Inv := by
  cases x with
  | send message r => exact hc.send h
  | shutdown =>
    cases h
    unfold TcpConnection.shutdown
    split
    · rename_i hstate
      have hcore := (hc.disconnecting (isOpen_iff.mpr (.inl hstate))).toCore
      exact Core.shutdownInLoop { hcore with closing := fun _ => .inl rfl } (.inl rfl)
    · exact hc
  | forceClose =>
    cases h
    exact hc.forceClose
  | forceCloseWithDelay =>
    cases h
    unfold TcpConnection.forceCloseWithDelay
    split
    · rename_i hopen
      exact { (hc.disconnecting hopen) with }
    · exact hc

theorem Inv.calls {calls : List Call} (hc : c.Inv)
    (h : calls.foldlM (TcpConnection.call o) c = some c') : c'.Inv := by
  induction calls generalizing c with
  | nil =>
    cases h
    exact hc
  | cons x calls ih =>
    rw [List.foldlM_cons] at h
    obtain ⟨c₁, hcall, hcalls⟩ := Option.bind_eq_some_iff.mp h
    exact ih (hc.call hcall) hcalls

/-! ### Events -/

/-- A callback outside the life of the connection, or a message while it is open. -/
theorem Inv.callback (hc : c.Inv) {e : Callback}
    (he : e ≠ .up ∧ e ≠ .down ∧ e ≠ .close) (hmessage : e = .message → c.isOpen = true) :
    Inv { c with callbacks := c.callbacks ++ [e] } := by
  refine { hc with lived := ?_ }
  have hl := hc.lived
  show Lived ((c.callbacks ++ [e]).filter _) _ c.state
  rw [List.filter_append]
  by_cases hm : e = .message
  · subst hm
    have happend : ∀ n, Callback.up :: List.replicate n .message ++ [Callback.message]
        = .up :: List.replicate (n + 1) .message := fun n => by
      rw [List.replicate_succ', List.cons_append]
    rcases isOpen_iff.mp (hmessage rfl) with hs | hs
    · rw [hs] at hl ⊢
      obtain ⟨n, hn⟩ := hl
      exact ⟨n + 1, by rw [← happend, ← hn]; rfl⟩
    · rw [hs] at hl ⊢
      obtain ⟨n, hn⟩ := hl
      exact ⟨n + 1, by rw [← happend, ← hn]; rfl⟩
  · have hnone : [e].filter (fun e => decide (e = .up ∨ e = .message ∨ e = .down ∨ e = .close))
        = [] := by simp [he, hm]
    rw [hnone, List.append_nil]
    exact hl

theorem Inv.handleRead {calls : List Call} {read : ReadResult} (hc : c.Inv) (hopen : c.isOpen = true)
    (h : c.handleRead o calls read = some c') : c'.Inv := by
  cases read with
  | data => exact (hc.callback (by decide) fun _ => hopen).calls h
  | endOfStream =>
    cases h
    exact hc.toCore.handleClose hopen
  | failed =>
    cases h
    exact hc

/-- After the last bytes that waited were written. -/
theorem Core.outputWritten
    (h : Core { c with writing := false }) : (c.outputWritten o).Inv := by
  unfold TcpConnection.outputWritten
  dsimp only
  generalize hq : (if o.writeCompleteCallback = true then
    ({ c with writing := false } : TcpConnection).queueInLoop .writeCompleteCallback
    else { c with writing := false }) = c₁
  have hcore : c₁.Core := by
    rw [← hq]
    split
    · exact h.pending (fun hs => by simpa using hs) (.of_eq (waiting_queueInLoop rfl).symm)
    · exact h
  split
  · exact hcore.shutdownInLoop (.inl ‹_›)
  · exact ⟨hcore, fun _ hstate => absurd hstate ‹_›⟩

theorem Inv.handleWrite {r : WriteResult} (hc : c.Inv) (h : c.handleWrite o r = some c') :
    c'.Inv := by
  unfold TcpConnection.handleWrite at h
  by_cases hw : c.writing = true
  · rw [if_pos hw] at h
    by_cases hpossible : r.Possible c.shut.isSome c.outputBuffer.readableBytes
    · rw [if_pos hpossible] at h
      by_cases hcount : 0 < r.count
      · rw [if_pos hcount, Option.some.injEq] at h
        obtain ⟨hwaits, hup⟩ := hc.writing.mp hw
        have hstream : c.sent ++ c.outputBuffer.readable.take r.count
            ++ (c.outputBuffer.retrieve r.count).readable = c.accepted.flatten := by
          rw [Buffer.readable_retrieve, List.append_assoc, List.take_append_drop, hc.stream]
        have hshut : c.shut = none := by
          cases hs : c.shut with
          | none => rfl
          | some s =>
            rw [hs] at hpossible
            rw [hpossible.of_shut] at hcount
            cases hcount
        by_cases hempty : (c.outputBuffer.retrieve r.count).readableBytes = 0
        · rw [if_pos hempty] at h
          subst h
          refine Core.outputWritten { hc with stream := hstream, writing := ?_, shut := ?_ }
          · simp [readableBytes_eq_zero_iff.mp hempty]
          · simp [hshut]
        · rw [if_neg hempty] at h
          subst h
          have hne : (c.outputBuffer.retrieve r.count).readable ≠ [] := fun he =>
            hempty (readableBytes_eq_zero_iff.mpr he)
          refine ⟨{ hc with stream := hstream, writing := ?_, shut := ?_ }, fun _ _ _ he =>
            absurd he hne⟩
          · simp [hw, hne, hup]
          · simp [hshut]
      · rw [if_neg hcount, Option.some.injEq] at h
        exact h ▸ hc
    · rw [if_neg hpossible] at h
      cases h
  · rw [if_neg hw, Option.some.injEq] at h
    exact h ▸ hc

theorem Inv.handleEvent {revents : Revents} {read : ReadResult} {calls : List Call}
    {r : WriteResult} (hc : c.Inv) (hreg : c.reading = true) (hrev : revents.Possible)
    (h : c.handleEvent o revents read calls r = some c') : c'.Inv := by
  have hopen := hc.reading.mp hreg
  obtain ⟨c₂, hread, hwrite⟩ := Option.bind_eq_some_iff.mp h
  suffices hc₂ : c₂.Inv by
    split at hwrite
    · exact hc₂.handleWrite hwrite
    · cases hwrite
      exact hc₂
  by_cases hhup : (revents.pollHup && !revents.pollIn) = true
  · -- the channel is closed, and then not read
    obtain ⟨hh, hin⟩ : revents.pollHup = true ∧ revents.pollIn = false := by simpa using hhup
    obtain ⟨hpri, hrdhup⟩ := hrev hh hin
    rw [if_pos hhup, hin, hpri, hrdhup] at hread
    cases hread
    exact hc.toCore.handleClose hopen
  · rw [if_neg hhup] at hread
    split at hread
    · exact hc.handleRead hopen hread
    · cases hread
      exact hc

theorem Inv.step {e : Event} (hc : c.Inv) (h : c.step o e = some c') : c'.Inv := by
  cases e with
  | established calls =>
    rw [TcpConnection.step] at h
    split at h
    · rename_i hstate
      refine Inv.calls ?_ h
      have hl := hc.lived
      rw [hstate] at hl
      have hnot : ¬ c.Closing := by rintro (hs | hs) <;> rw [hstate] at hs <;> cases hs
      refine ⟨{ hc with
        kept := fun hb _ => hc.kept hb (by rw [hstate]; decide)
        writing := ?_
        reading := ?_
        addedToLoop := fun _ => rfl
        closing := ?_
        lived := ⟨0, ?_⟩ }, ?_⟩
      · have hw := hc.writing
        rw [hstate] at hw
        simpa [connectEstablished] using hw
      · exact ⟨fun _ => isOpen_iff.mpr (.inl rfl), fun _ => rfl⟩
      · exact fun hs => absurd (hc.closing hs) hnot
      · show (c.callbacks ++ [Callback.up]).filter _ = _
        rw [List.filter_append, show c.callbacks.filter _ = [] from hl]
        rfl
      · exact fun hcalled => absurd (hc.closing (.inr (.inl hcalled))) hnot
    · cases h
  | event revents read calls r =>
    rw [TcpConnection.step] at h
    split at h
    · rename_i hguard
      exact hc.handleEvent hguard.1 hguard.2 h
    · cases h
  | call x => exact hc.call h
  | sendElsewhere message =>
    cases h
    have hoffer := hc.offer message
    unfold TcpConnection.sendElsewhere
    by_cases hstate : c.state = .kConnected
    · rw [if_pos hstate] at hoffer ⊢
      exact Inv.queueInLoop hoffer (by simp)
    · rw [if_neg hstate] at hoffer ⊢
      exact hoffer
  | shutdownElsewhere =>
    cases h
    unfold TcpConnection.shutdownElsewhere
    split
    · rename_i hstate
      have hdis := hc.disconnecting (isOpen_iff.mpr (.inl hstate))
      refine ⟨{ hdis with admitted := ?_, closing := fun _ => .inl rfl }, fun _ _ hpending => ?_⟩
      · show c.admitted.Perm (c.handled ++ [] ++ (c.queueInLoop .shutdownInLoop).waiting)
        rw [waiting_queueInLoop rfl]
        exact hc.admitted
      · exact absurd (List.mem_append_right _ (List.mem_singleton_self _)) hpending
    · exact hc
  | functor r =>
    rw [TcpConnection.step] at h
    split at h
    · cases h
    · rename_i f rest hpending
      cases f with
      | sendInLoop message => exact (hc.tail hpending (by simp)).sendInLoop h
      | shutdownInLoop =>
        cases h
        exact (hc.toCore.tail hpending).shutdownInLoop
          (hc.closing (.inr (.inr (hpending ▸ List.mem_cons_self))))
      | forceCloseInLoop =>
        cases h
        have hrest : Inv { c with pending := rest } := hc.tail hpending (by simp)
        unfold TcpConnection.forceCloseInLoop
        split
        · exact hrest.toCore.handleClose ‹_›
        · exact hrest
      | writeCompleteCallback =>
        cases h
        have hrest : Inv { c with pending := rest } := hc.tail hpending (by simp)
        exact hrest.callback (by simp) (by simp)
      | highWaterMarkCallback len =>
        cases h
        have hrest : Inv { c with pending := rest } := hc.tail hpending (by simp)
        exact hrest.callback (by simp) (by simp)
  | timer =>
    rw [TcpConnection.step] at h
    split at h
    · cases h
      exact Inv.forceClose { hc with }
    · cases h
  | destroyed => exact hc.connectDestroyed h

end

/-! ## Runs -/

theorem inv_of_run {o : ConnectionOptions} {es : List Event} {c : TcpConnection}
    (h : (system o).Run es c) : c.Inv :=
  h.invariant (fun _ hc => hc ▸ inv_new) fun _ _ _ hc hstep => hc.step hstep

/-- A beginning of some strings in a row is the first of them, and a beginning of
the next one. -/
theorem exists_of_isPrefix_flatten {ms : List Bytes} {bs : Bytes} (h : bs <+: ms.flatten) :
    ∃ done rest part, ms = done ++ rest ∧ bs = done.flatten ++ part ∧
      part <+: rest.head?.getD [] := by
  induction ms generalizing bs with
  | nil => exact ⟨[], [], bs, rfl, rfl, h⟩
  | cons m ms ih =>
    rw [List.flatten_cons] at h
    rcases List.prefix_or_prefix_of_prefix h (List.prefix_append m ms.flatten) with hle | ⟨cs, rfl⟩
    · exact ⟨[], m :: ms, bs, rfl, rfl, hle⟩
    · obtain ⟨done, rest, part, rfl, rfl, hpart⟩ := ih ((List.prefix_append_right_inj m).mp h)
      exact ⟨m :: done, rest, part, rfl, by simp, hpart⟩

/-- What a server does that answers a message and shuts the connection down: one
byte of the answer is written at once, two when the socket can be written. A message
that is sent after the shutdown is not. -/
def answered : List Event :=
  [.established [],
    .event { pollIn := true } .data [.send [1, 2, 3] (.wrote 1), .shutdown, .send [4] .wouldBlock,
      .forceCloseWithDelay] .wouldBlock,
    .event { pollOut := true } .failed [] (.wrote 2)]

set_option maxRecDepth 10000 in
theorem run_answered : ∃ c, (system {}).Run answered c ∧ c.sent = [1, 2, 3] ∧
    c.offered = [([1, 2, 3], .kConnected), ([4], .kDisconnecting)] ∧ c.pending = [] ∧
    c.shut = some .kDisconnecting ∧ c.callbacks = [.up, .message] ∧ c.reading = true := by
  have h₀ : (system {}).Run [] {} := .nil rfl
  have h₁ := h₀.snoc (show (system {}).step {} (.established []) _ from rfl)
  have h₂ := h₁.snoc (show (system {}).step _ (.event { pollIn := true } .data
    [.send [1, 2, 3] (.wrote 1), .shutdown, .send [4] .wouldBlock, .forceCloseWithDelay]
      .wouldBlock) _ from rfl)
  have h₃ := h₂.snoc (show (system {}).step _
    (.event { pollOut := true } .failed [] (.wrote 2)) _ from rfl)
  exact ⟨_, h₃, rfl, rfl, rfl, rfl, rfl, rfl⟩

/-- **The stream of a connection.** In every run the socket has taken the messages
accepted, in their order, as far as they do not wait: whole messages, and the
beginning of one. The messages accepted are those handled, but for those handled
when the connection was down or when a write failed; and the messages handled, with
those that wait in the queue of the loop, are those that were given to `send` while
the connection was connected. What is given to `send` in another state, as after a
`shutdown`, is dropped. -/
theorem stream_of_run {o : ConnectionOptions} {es : List Event} {c : TcpConnection}
    (h : (system o).Run es c) :
    c.sent ++ c.outputBuffer.readable = c.accepted.flatten ∧
      (∃ done rest part, c.accepted = done ++ rest ∧ c.sent = done.flatten ++ part ∧
        part <+: rest.head?.getD []) ∧
      c.accepted.Sublist c.handled ∧
      (c.broken = false → c.state ≠ .kDisconnected → c.accepted = c.handled) ∧
      (c.handled ++ c.waiting).Perm c.admitted := by
  have hc := inv_of_run h
  refine ⟨hc.stream, exists_of_isPrefix_flatten ⟨_, hc.stream⟩, hc.sublist, hc.kept, ?_⟩
  have hadmitted := hc.admitted
  rw [List.append_nil] at hadmitted
  exact hadmitted.symm

theorem stream_of_run_answered : ∃ c, (system {}).Run answered c ∧
    c.sent ++ c.outputBuffer.readable = c.accepted.flatten ∧ c.sent = [1, 2, 3] ∧
    c.handled = [[1, 2, 3]] := by
  obtain ⟨c, hrun, hsent, hoffered, hpending, -⟩ := run_answered
  obtain ⟨hstream, -, -, -, hadmitted⟩ := stream_of_run hrun
  refine ⟨c, hrun, hstream, hsent, List.perm_singleton.mp ?_⟩
  simpa [waiting, admitted, hpending, hoffered] using hadmitted

end TcpConnection

end Muduo
