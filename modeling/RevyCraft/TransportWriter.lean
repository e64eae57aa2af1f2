/-
  RevyCraft/TransportWriter.lean
  ==============================
  **The writer of a TCP session** (`TransportSessionIo` of `transport.rs`) — the
  task that owns the writing half of the stream, the two channels it is fed
  through, and what it delivers.

  The calls of the session and the steps of the task interleave freely.  A
  biased `select!` polls one channel after the other, so that a control can be
  sent after the control channel was found empty and before a command is taken;
  the two polls are two steps here.  Writing one frame is one step, without I/O
  errors.

  `Delivery` says what the writer is for, in terms of what can be observed of
  it: calls that were accepted, bytes that were written, acknowledgements.
-/
import Mathlib

namespace RevyCraft.Transport

def TRANSPORT_WRITE_QUEUE_CAPACITY : Nat := 1024

def TRANSPORT_WRITE_BATCH_FRAME_LIMIT : Nat := 4096

def TRANSPORT_WRITE_BATCH_BYTE_LIMIT : Nat := 16 * 1024 * 1024

/-- Capacity of the control channel. -/
def CONTROL_QUEUE_CAPACITY : Nat := 4

abbrev Frame : Type := List UInt8

inductive RuntimeError where
  | budgetExceeded (resource : String) (requested limit : Nat)
  | io (message : String)
  | config (message : String)

/-! ### The stream cipher -/

abbrev Block : Type := Vector UInt8 16

/-- `MinecraftStreamCipher`, less the key schedule, which its secret determines. -/
structure MinecraftStreamCipher where
  sharedSecret : Block
  shiftRegister : Block
  deriving DecidableEq

structure MinecraftStreamCipherSnapshot where
  sharedSecret : Block
  shiftRegister : Block
  deriving DecidableEq

namespace MinecraftStreamCipher

def new (sharedSecret : Block) : MinecraftStreamCipher := ⟨sharedSecret, sharedSecret⟩

def snapshot (cipher : MinecraftStreamCipher) : MinecraftStreamCipherSnapshot :=
  ⟨cipher.sharedSecret, cipher.shiftRegister⟩

def restore (snapshot : MinecraftStreamCipherSnapshot) : MinecraftStreamCipher :=
  ⟨snapshot.sharedSecret, snapshot.shiftRegister⟩

@[simp] theorem restore_snapshot (cipher : MinecraftStreamCipher) :
    restore cipher.snapshot = cipher := rfl

/-- The register moves one byte to the left and takes the ciphertext in. -/
def shift (cipher : MinecraftStreamCipher) (ciphertext : UInt8) : MinecraftStreamCipher :=
  { cipher with shiftRegister := Vector.ofFn fun i =>
      if h : i.val + 1 < 16 then cipher.shiftRegister.get ⟨i.val + 1, h⟩ else ciphertext }

-- `Aes128::encrypt_block`: the key, the block, and the encrypted block
variable (aes : Block → Block → Block)

def keyByte (cipher : MinecraftStreamCipher) : UInt8 :=
  (aes cipher.sharedSecret cipher.shiftRegister).get ⟨0, by decide⟩

def applyEncrypt (cipher : MinecraftStreamCipher) :
    List UInt8 → MinecraftStreamCipher × List UInt8
  | [] => (cipher, [])
  | byte :: bytes =>
    let ciphertext := byte ^^^ cipher.keyByte aes
    let rest := (cipher.shift ciphertext).applyEncrypt bytes
    (rest.1, ciphertext :: rest.2)

def applyDecrypt (cipher : MinecraftStreamCipher) :
    List UInt8 → MinecraftStreamCipher × List UInt8
  | [] => (cipher, [])
  | ciphertext :: bytes =>
    let plaintext := ciphertext ^^^ cipher.keyByte aes
    let rest := (cipher.shift ciphertext).applyDecrypt bytes
    (rest.1, plaintext :: rest.2)

/-- The other end, which starts from the same state, reads what was written and ends in the same
    state. -/
theorem applyDecrypt_applyEncrypt (cipher : MinecraftStreamCipher) (bytes : List UInt8) :
    cipher.applyDecrypt aes (cipher.applyEncrypt aes bytes).2 =
      ((cipher.applyEncrypt aes bytes).1, bytes) := by
  induction bytes generalizing cipher with
  | nil => rfl
  | cons byte bytes ih => simp [applyEncrypt, applyDecrypt, ih]

end MinecraftStreamCipher

/-! ### The session's side and the task's side -/

inductive TransportWriterCommand where
  | write (frames : List Frame)
  | enableEncryption (sharedSecret : Block)
  | restoreEncryption (snapshot : MinecraftStreamCipherSnapshot)
  | takeForProcessTransfer

inductive TransportWriterControl where
  | pause
  | resumeWithFront (frames : List Frame)

/-- Where the task stands in its loop. -/
inductive TaskState where
  /-- At the head of the loop. -/
  | looking
  /-- In the `select!`, after the control channel was found empty. -/
  | controlsEmpty
  /-- In the loop over the frames of a `Write`. -/
  | writing (frames : List Frame)
  /-- Gave the writer away and returned. -/
  | returned
  deriving DecidableEq

/-- The inner loop goes on as long as there are frames. -/
def TaskState.loop : List Frame → TaskState
  | [] => .looking
  | frame :: frames => .writing (frame :: frames)

/-- The writer task: its two locals, its place in the loop and the cipher of its writer. -/
structure WriterTask where
  paused : Bool
  front : List Frame
  state : TaskState
  encrypt : Option MinecraftStreamCipher

inductive TransportReader where
  | tcp (decrypt : Option MinecraftStreamCipher)
  | transitioning

/-- `FrozenProcessTransport::Tcp`, less its stream. -/
structure FrozenProcessTransport where
  decrypt : Option MinecraftStreamCipherSnapshot
  encrypt : Option MinecraftStreamCipherSnapshot
  deriving DecidableEq

/-- What the session waits for, or has in its hands. -/
inductive SessionCall where
  | idle
  /-- In `pause_writer`; the acknowledgement may have come. -/
  | pausing (acknowledged : Bool)
  /-- In `freeze_for_process_transfer`. -/
  | freezing
  /-- `freeze_for_process_transfer` returned. -/
  | frozen (transport : FrozenProcessTransport)
  deriving DecidableEq

def SessionCall.free : SessionCall → Bool
  | .idle => true
  | .frozen _ => true
  | .pausing _ => false
  | .freezing => false

/-- A `TransportSessionIo` with its two channels and its task. -/
structure TransportSessionIo where
  reader : TransportReader
  writerTx : Bool
  writerPaused : Bool
  call : SessionCall
  commands : List TransportWriterCommand
  controls : List TransportWriterControl
  task : WriterTask

/-- What is seen of the writer from outside. -/
inductive Observation where
  /-- `enqueue_write_batch` accepted the frames. -/
  | accepted (frames : List Frame)
  /-- `enable_encryption` or `restore_imported_tcp_state` accepted the cipher. -/
  | ciphered (cipher : MinecraftStreamCipher)
  /-- `resume_writer_with_front` accepted the frames. -/
  | resumed (frames : List Frame)
  /-- The task acknowledged a pause. -/
  | acknowledged
  /-- The bytes went to the stream. -/
  | wrote (bytes : List UInt8)
  /-- `freeze_for_process_transfer` returned the transport. -/
  | frozen
  /-- `FrozenProcessTransport::rollback` returned a session again. -/
  | rolledBack
  deriving DecidableEq

namespace TransportSessionIo

def fromParts (reader : TransportReader) (encrypt : Option MinecraftStreamCipher) :
    TransportSessionIo where
  reader := reader
  writerTx := true
  writerPaused := false
  call := .idle
  commands := []
  controls := []
  task := ⟨false, [], .looking, encrypt⟩

/-- `tcp`, and `prestaged_imported_tcp`. -/
def tcp : TransportSessionIo := fromParts (.tcp none) none

/-! ### The calls -/

def enqueue (io : TransportSessionIo) (command : TransportWriterCommand) :
    Except RuntimeError TransportSessionIo :=
  if io.writerTx = false then .error (.io "transport writer is closed")
  else if io.task.state = .returned then .error (.io "transport writer closed")
  else if TRANSPORT_WRITE_QUEUE_CAPACITY ≤ io.commands.length then
    .error (.budgetExceeded "session transport writer queue" (TRANSPORT_WRITE_QUEUE_CAPACITY + 1)
      TRANSPORT_WRITE_QUEUE_CAPACITY)
  else .ok { io with commands := io.commands ++ [command] }

def enqueueWriteBatch (io : TransportSessionIo) (frames : List Frame) :
    Except RuntimeError TransportSessionIo :=
  if TRANSPORT_WRITE_BATCH_FRAME_LIMIT < frames.length then
    .error (.budgetExceeded "session transport writer batch frames" frames.length
      TRANSPORT_WRITE_BATCH_FRAME_LIMIT)
  else
    let bytes := (frames.map List.length).sum
    -- `checked_add` on `usize`
    if 2 ^ 64 ≤ bytes then
      .error (.budgetExceeded "session transport writer batch bytes" (2 ^ 64 - 1)
        TRANSPORT_WRITE_BATCH_BYTE_LIMIT)
    else if TRANSPORT_WRITE_BATCH_BYTE_LIMIT < bytes then
      .error (.budgetExceeded "session transport writer batch bytes" bytes
        TRANSPORT_WRITE_BATCH_BYTE_LIMIT)
    else io.enqueue (.write frames)

def enableEncryption (io : TransportSessionIo) (sharedSecret : Block) :
    Except RuntimeError TransportSessionIo := do
  let io ← io.enqueue (.enableEncryption sharedSecret)
  match io.reader with
  | .tcp _ => .ok { io with reader := .tcp (some (MinecraftStreamCipher.new sharedSecret)) }
  | .transitioning =>
    .error (.config "tcp encryption cannot be enabled for a bedrock transport")

def restoreImportedTcpState (io : TransportSessionIo)
    (decrypt encrypt : Option MinecraftStreamCipherSnapshot) :
    Except RuntimeError TransportSessionIo := do
  let io ← match encrypt with
    | some encrypt => io.enqueue (.restoreEncryption encrypt)
    | none => .ok io
  match io.reader with
  | .tcp _ => .ok { io with reader := .tcp (decrypt.map MinecraftStreamCipher.restore) }
  | .transitioning =>
    .error (.config "TCP cipher state cannot be restored into a Bedrock transport")

/-- `pause_writer` up to the wait for the acknowledgement; `none` as long as it waits for room in
    the control channel. -/
def pauseWriter (io : TransportSessionIo) : Option (Except RuntimeError TransportSessionIo) :=
  if io.writerPaused then some (.ok io)
  else if io.task.state = .returned then
    some (.error (.io "transport writer closed before cutover freeze"))
  else if CONTROL_QUEUE_CAPACITY ≤ io.controls.length then none
  else some (.ok { io with controls := io.controls ++ [.pause], call := .pausing false })

def resumeWriterWithFront (io : TransportSessionIo) (frames : List Frame) :
    Except RuntimeError TransportSessionIo :=
  if io.writerPaused = false ∧ frames = [] then .ok io
  else if io.task.state = .returned then .error (.io "transport writer closed")
  else if CONTROL_QUEUE_CAPACITY ≤ io.controls.length then
    .error (.budgetExceeded "session transport writer control queue" 5 4)
  else
    .ok { io with controls := io.controls ++ [.resumeWithFront frames], writerPaused := false }

/-- `freeze_for_process_transfer` up to the wait for the writer; `none` as long as it waits for
    room in the command channel. -/
def freezeForProcessTransfer (io : TransportSessionIo) :
    Option (Except RuntimeError TransportSessionIo) :=
  if io.writerPaused then
    some (.error (.config "process transfer requires a running transport writer"))
  else if io.writerTx = false then
    some (.error (.io "transport writer authority was already consumed"))
  else if io.task.state = .returned then
    some (.error (.io "transport writer closed before process transfer"))
  else if TRANSPORT_WRITE_QUEUE_CAPACITY ≤ io.commands.length then none
  else some (.ok { io with commands := io.commands ++ [.takeForProcessTransfer],
                           call := .freezing })

/-! ### The task -/

variable (aes : Block → Block → Block)

/-- `TransportWriter::write_next` with a frame at hand. -/
def writeNext (io : TransportSessionIo) (frame : Frame) : TransportSessionIo × List Observation :=
  match io.task.encrypt with
  | some cipher =>
    let encrypted := cipher.applyEncrypt aes frame
    ({ io with task.encrypt := some encrypted.1 }, [.wrote encrypted.2])
  | none => (io, [.wrote frame])

def takeControl (io : TransportSessionIo) (rest : List TransportWriterControl) :
    TransportWriterControl → TransportSessionIo × List Observation
  | .pause =>
    ({ io with controls := rest, call := .pausing true, task.paused := true }, [.acknowledged])
  | .resumeWithFront frames =>
    ({ io with controls := rest, task.paused := false, task.front := frames ++ io.task.front }, [])

def takeCommand (io : TransportSessionIo) (rest : List TransportWriterCommand) :
    TransportWriterCommand → TransportSessionIo
  | .write frames => { io with commands := rest, task.state := .loop frames }
  | .enableEncryption sharedSecret =>
    { io with commands := rest, task.state := .looking,
              task.encrypt := some (MinecraftStreamCipher.new sharedSecret) }
  | .restoreEncryption snapshot =>
    { io with commands := rest, task.state := .looking,
              task.encrypt := some (MinecraftStreamCipher.restore snapshot) }
  | .takeForProcessTransfer => { io with commands := rest, task.state := .returned }

/-- One step of the writer task; `none` while it waits. -/
def taskStep (io : TransportSessionIo) : Option (TransportSessionIo × List Observation) :=
  match io.task.state with
  | .looking =>
    if io.task.paused then
      match io.controls with
      | [] => none
      | control :: rest => some (io.takeControl rest control)
    else
      match io.task.front with
      | frame :: front => some ({ io with task.front := front }.writeNext aes frame)
      | [] =>
        match io.controls with
        | [] => some ({ io with task.state := .controlsEmpty }, [])
        | control :: rest => some (io.takeControl rest control)
  | .controlsEmpty =>
    match io.commands with
    -- both channels are empty: woken by either, the `select!` polls them in order again
    | [] => some ({ io with task.state := .looking }, [])
    | command :: rest => some (io.takeCommand rest command, [])
  | .writing [] => some ({ io with task.state := .looking }, [])
  | .writing (frame :: frames) =>
    some ({ io with task.state := .loop frames }.writeNext aes frame)
  | .returned => none

/-! ### Runs -/

inductive TransportEvent where
  | enqueueWriteBatch (frames : List Frame)
  | enableEncryption (sharedSecret : Block)
  | restoreImportedTcpState (decrypt encrypt : Option MinecraftStreamCipherSnapshot)
  | pauseWriter
  | resumeWriterWithFront (frames : List Frame)
  | freezeForProcessTransfer
  /-- The acknowledgement reaches `pause_writer`, which returns. -/
  | pauseReturns
  /-- The writer reaches `freeze_for_process_transfer`, which returns. -/
  | freezeReturns
  | rollback
  /-- A step of the writer task. -/
  | task

/-- The session after a call, which is seen if it was accepted. -/
def settle (io : TransportSessionIo) (seen : List Observation) :
    Except RuntimeError TransportSessionIo → TransportSessionIo × List Observation
  | .ok io => (io, seen)
  | .error _ => (io, [])

def step (io : TransportSessionIo) :
    TransportEvent → Option (TransportSessionIo × List Observation)
  | .task => io.taskStep aes
  | .enqueueWriteBatch frames =>
    if io.call.free then some (io.settle [.accepted frames] (io.enqueueWriteBatch frames)) else none
  | .enableEncryption sharedSecret =>
    if io.call.free then
      some (io.settle [.ciphered (.new sharedSecret)] (io.enableEncryption sharedSecret))
    else none
  | .restoreImportedTcpState decrypt encrypt =>
    if io.call.free then
      some (io.settle (encrypt.toList.map fun snapshot => .ciphered (.restore snapshot))
        (io.restoreImportedTcpState decrypt encrypt))
    else none
  | .pauseWriter => if io.call.free then io.pauseWriter.map (io.settle []) else none
  | .resumeWriterWithFront frames =>
    if io.call.free then some (io.settle [.resumed frames] (io.resumeWriterWithFront frames))
    else none
  | .freezeForProcessTransfer =>
    if io.call.free then io.freezeForProcessTransfer.map (io.settle []) else none
  | .pauseReturns =>
    if io.call = .pausing true then some ({ io with call := .idle, writerPaused := true }, [])
    else none
  | .freezeReturns =>
    match io.call, io.task.state, io.reader with
    | .freezing, .returned, .tcp decrypt =>
      some ({ io with
        writerTx := false, writerPaused := true, reader := .transitioning
        call := .frozen ⟨decrypt.map MinecraftStreamCipher.snapshot,
          io.task.encrypt.map MinecraftStreamCipher.snapshot⟩ }, [.frozen])
    | _, _, _ => none
  | .rollback =>
    match io.call with
    | .frozen transport =>
      some (fromParts (.tcp (transport.decrypt.map MinecraftStreamCipher.restore))
        (transport.encrypt.map MinecraftStreamCipher.restore), [.rolledBack])
    | _ => none

/-- The events one after the other, with all that is seen. -/
def run (io : TransportSessionIo) :
    List TransportEvent → Option (TransportSessionIo × List Observation)
  | [] => some (io, [])
  | event :: events =>
    (io.step aes event).bind fun next =>
      (next.1.run events).map fun last => (last.1, next.2 ++ last.2)

end TransportSessionIo

/-! ### What the writer is for -/

/-- A stretch of the stream under one cipher; `start` is the cipher before its first frame. -/
structure Era where
  number : Nat
  start : MinecraftStreamCipher

/-- The number of the era, `0` before there is a cipher. -/
def Era.numberOf : Option Era → Nat
  | none => 0
  | some era => era.number

def Era.next (era : Option Era) (start : MinecraftStreamCipher) : Option Era :=
  some ⟨Era.numberOf era + 1, start⟩

/-- The delivery of frames as the session and its client see it: the accepted frames that are not
    written yet, each with the cipher that was enabled when it was accepted; the cipher enabled
    last; the cipher of the client, as far as it has read; and whether the writer has to keep
    quiet. -/
structure Delivery where
  unwritten : List (Frame × Option Era)
  era : Option Era
  client : Option (Nat × MinecraftStreamCipher)
  quiet : Bool

namespace Delivery

def new : Delivery := ⟨[], none, none, false⟩

/-- The client's cipher for a frame of an era: it goes on with the one it has, or starts anew. -/
def clientCipher (delivery : Delivery) : Option Era → Option MinecraftStreamCipher
  | none => none
  | some era =>
    match delivery.client with
    | some (number, cipher) => if number = era.number then some cipher else some era.start
    | none => some era.start

variable (aes : Block → Block → Block)

/-- The client reads a frame of an era: the plaintext, and its cipher after it. -/
def read (delivery : Delivery) (era : Option Era) (bytes : List UInt8) :
    List UInt8 × Option (Nat × MinecraftStreamCipher) :=
  match delivery.clientCipher era with
  | none => (bytes, delivery.client)
  | some cipher =>
    let decrypted := cipher.applyDecrypt aes bytes
    (decrypted.2, some (Era.numberOf era, decrypted.1))

/-- What may be seen next, and what it means.
    * Accepted frames are last in line, frames for the front first, under the latest cipher.
    * Written bytes are the first frame in line under its cipher, and nothing is written between
      an acknowledged pause and the next resumption.
    * A frozen transport has no frame left. -/
def observe (delivery : Delivery) : Observation → Option Delivery
  | .accepted frames =>
    some { delivery with unwritten := delivery.unwritten ++ frames.map (·, delivery.era) }
  | .ciphered cipher => some { delivery with era := Era.next delivery.era cipher }
  | .resumed frames =>
    some { delivery with
      unwritten := frames.map (·, delivery.era) ++ delivery.unwritten, quiet := false }
  | .acknowledged => some { delivery with quiet := true }
  | .wrote bytes =>
    match delivery.unwritten with
    | [] => none
    | next :: rest =>
      if delivery.quiet = false ∧ (delivery.read aes next.2 bytes).1 = next.1 then
        some { delivery with unwritten := rest, client := (delivery.read aes next.2 bytes).2 }
      else none
  | .frozen => if delivery.unwritten = [] then some delivery else none
  | .rolledBack => some delivery

def follow (delivery : Delivery) : List Observation → Option Delivery
  | [] => some delivery
  | seen :: later => (delivery.observe aes seen).bind fun next => next.follow later

theorem follow_append (delivery : Delivery) (seen later : List Observation) :
    delivery.follow aes (seen ++ later) =
      (delivery.follow aes seen).bind fun next => next.follow aes later := by
  induction seen generalizing delivery with
  | nil => rfl
  | cons first seen ih =>
    rw [List.cons_append, follow, follow, Option.bind_assoc]
    simp only [ih]

end Delivery

/-! ### What the queues hold -/

def TransportWriterCommand.frames : TransportWriterCommand → List Frame
  | .write frames => frames
  | _ => []

def TransportWriterCommand.cipher : TransportWriterCommand → Option MinecraftStreamCipher
  | .enableEncryption sharedSecret => some (.new sharedSecret)
  | .restoreEncryption snapshot => some (.restore snapshot)
  | _ => none

def TransportWriterControl.frames : TransportWriterControl → List Frame
  | .pause => []
  | .resumeWithFront frames => frames

def TaskState.frames : TaskState → List Frame
  | .writing frames => frames
  | _ => []

@[simp] theorem TaskState.frames_loop (frames : List Frame) :
    (TaskState.loop frames).frames = frames := by
  cases frames <;> rfl

theorem TaskState.loop_ne_returned (frames : List Frame) : TaskState.loop frames ≠ .returned := by
  cases frames <;> simp [TaskState.loop]

namespace TransportSessionIo

/-- The frames the task writes before it takes another command. -/
def ready (io : TransportSessionIo) : List Frame :=
  io.task.state.frames ++ io.task.front ++ io.controls.flatMap TransportWriterControl.frames

/-- All frames that are still held. -/
def held (io : TransportSessionIo) : List Frame :=
  io.ready ++ io.commands.flatMap TransportWriterCommand.frames

end TransportSessionIo

def Era.after (era : Option Era) (command : TransportWriterCommand) : Option Era :=
  match command.cipher with
  | some cipher => Era.next era cipher
  | none => era

/-- The frames of the commands, each with the cipher it is written under. -/
def tagged (era : Option Era) : List TransportWriterCommand → List (Frame × Option Era)
  | [] => []
  | command :: rest => command.frames.map (·, era) ++ tagged (Era.after era command) rest

def latest (era : Option Era) (commands : List TransportWriterCommand) : Option Era :=
  commands.foldl Era.after era

section Queues

variable (era : Option Era) (commands : List TransportWriterCommand)
  (command : TransportWriterCommand)

@[simp] theorem tagged_nil : tagged era [] = [] := rfl

@[simp] theorem latest_nil : latest era [] = era := rfl

@[simp] theorem latest_cons :
    latest era (command :: commands) = latest (Era.after era command) commands := rfl

@[simp] theorem latest_append_singleton :
    latest era (commands ++ [command]) = Era.after (latest era commands) command := by
  simp [latest]

theorem tagged_append_singleton :
    tagged era (commands ++ [command]) =
      tagged era commands ++ command.frames.map (·, latest era commands) := by
  induction commands generalizing era with
  | nil => simp [tagged]
  | cons first rest ih => simp [tagged, ih]

theorem tagged_map_fst :
    (tagged era commands).map Prod.fst = commands.flatMap TransportWriterCommand.frames := by
  induction commands generalizing era with
  | nil => rfl
  | cons first rest ih => simp [tagged, ih, Function.comp_def]

theorem latest_eq_of_forall (h : ∀ command ∈ commands, command.cipher = none) :
    latest era commands = era := by
  induction commands with
  | nil => rfl
  | cons first rest ih =>
    have hfirst : Era.after era first = era := by
      simp [Era.after, h first List.mem_cons_self]
    rw [latest_cons, hfirst]
    exact ih fun command hmem => h command (List.mem_cons_of_mem _ hmem)

end Queues

/-! ### The simulation -/

/-- The control a pending call of `pause_writer` has in the channel. -/
def SessionCall.controls : SessionCall → List TransportWriterControl
  | .pausing false => [.pause]
  | _ => []

/-- The command a pending call of `freeze_for_process_transfer` has in the channel. -/
def TransportSessionIo.takes (io : TransportSessionIo) : List TransportWriterCommand :=
  if io.call = .freezing ∧ io.task.state ≠ .returned then [.takeForProcessTransfer] else []

/-- The session and its task carry the delivery out.  `era` is the cipher of the task, and
    `resuming` the resumption that is in the control channel. -/
structure Tracks (io : TransportSessionIo) (delivery : Delivery) (era : Option Era)
    (resuming : Option (List Frame)) : Prop where
  unwritten : delivery.unwritten = io.ready.map (·, era) ++ tagged era io.commands
  era_eq : delivery.era = latest era io.commands
  cipher : io.task.encrypt = delivery.clientCipher era
  client : ∀ number cipher, delivery.client = some (number, cipher) → number ≤ Era.numberOf era
  controls : io.controls = resuming.toList.map .resumeWithFront ++ io.call.controls
  -- nothing is in the way of a resumption
  resumes : resuming.isSome →
    io.task.state = .looking ∧ io.task.front = [] ∧ io.writerPaused = false
  rests : io.task.paused = true → io.task.state = .looking ∧ io.task.front = []
  front : io.task.front ≠ [] → io.task.state = .looking
  quiet : delivery.quiet = true → io.task.paused = true ∧ resuming = none
  acknowledged : io.call = .pausing true → io.task.paused = true ∧ resuming = none
  paused : io.writerPaused = true → io.task.state ≠ .returned → io.task.paused = true
  commands : ∃ before, io.commands = before ++ io.takes ∧ .takeForProcessTransfer ∉ before
  returned : io.task.state = .returned →
    io.commands = [] ∧ (io.call = .freezing ∨ ∃ transport, io.call = .frozen transport)
  frozen : ∀ transport, io.call = .frozen transport → io.task.state = .returned ∧
    transport.encrypt = io.task.encrypt.map MinecraftStreamCipher.snapshot

/-- A resumption with frames finds the task at the head of its loop, with nothing in its front
    queue or in the control channel and no cipher in the command channel. -/
def Orderly (io : TransportSessionIo) : TransportSessionIo.TransportEvent → Prop
  | .resumeWriterWithFront frames =>
    frames = [] ∨ io.task.state = .returned ∨
      (io.task.state = .looking ∧ io.task.front = [] ∧ io.controls = [] ∧
        ∀ command ∈ io.commands, command.cipher = none)
  | _ => True

namespace Tracks

variable {aes : Block → Block → Block} {io io' : TransportSessionIo} {delivery : Delivery}
  {era : Option Era} {resuming : Option (List Frame)} {seen : List Observation}

theorem fromParts {reader : TransportReader} {encrypt : Option MinecraftStreamCipher}
    (hunwritten : delivery.unwritten = []) (hera : delivery.era = era)
    (hquiet : delivery.quiet = false) (hcipher : encrypt = delivery.clientCipher era)
    (hclient : ∀ number cipher, delivery.client = some (number, cipher) →
      number ≤ Era.numberOf era) :
    Tracks (.fromParts reader encrypt) delivery era none := by
  constructor <;> simp_all [TransportSessionIo.fromParts, TransportSessionIo.ready,
    TaskState.frames, SessionCall.controls, TransportSessionIo.takes]

theorem takes_eq_nil (hfree : io.call.free = true) : io.takes = [] := by
  unfold TransportSessionIo.takes
  rw [if_neg]
  rintro ⟨hcall, -⟩
  simp [hcall, SessionCall.free] at hfree

theorem controls_eq_nil (hfree : io.call.free = true) : io.call.controls = [] := by
  unfold SessionCall.controls
  split
  · rename_i hcall
    simp [hcall, SessionCall.free] at hfree
  · rfl

theorem withReader (h : Tracks io delivery era resuming) (reader : TransportReader) :
    Tracks { io with reader := reader } delivery era resuming :=
  ⟨h.unwritten, h.era_eq, h.cipher, h.client, h.controls, h.resumes, h.rests, h.front, h.quiet,
    h.acknowledged, h.paused, h.commands, h.returned, h.frozen⟩

theorem enqueue {command : TransportWriterCommand} (h : Tracks io delivery era resuming)
    (hfree : io.call.free = true) (hcommand : command ≠ .takeForProcessTransfer)
    (hio : io.enqueue command = .ok io') :
    Tracks io' { delivery with
      unwritten := delivery.unwritten ++ command.frames.map (·, delivery.era)
      era := Era.after delivery.era command } era resuming := by
  unfold TransportSessionIo.enqueue at hio
  split_ifs at hio with _ hreturned
  cases hio
  obtain ⟨before, hbefore, hnot⟩ := h.commands
  rw [takes_eq_nil hfree, List.append_nil] at hbefore
  have htakes : { io with commands := io.commands ++ [command] }.takes = [] := takes_eq_nil hfree
  refine ⟨?_, ?_, h.cipher, h.client, h.controls, h.resumes, h.rests, h.front, h.quiet,
    h.acknowledged, h.paused, ?_, fun hstate => absurd hstate hreturned, h.frozen⟩
  · simp [h.unwritten, h.era_eq, tagged_append_singleton, TransportSessionIo.ready]
  · simp [h.era_eq]
  · refine ⟨before ++ [command], ?_, ?_⟩
    · rw [htakes, List.append_nil, hbefore]
    · simpa [hnot] using hcommand.symm

/-- The next frame in line is read by the client, which stays in step with the task. -/
theorem writeNext (aes : Block → Block → Block) (io : TransportSessionIo) {frame : Frame}
    {rest : List (Frame × Option Era)}
    (hunwritten : delivery.unwritten = (frame, era) :: rest) (hquiet : delivery.quiet = false)
    (hcipher : io.task.encrypt = delivery.clientCipher era)
    (hclient : ∀ number cipher, delivery.client = some (number, cipher) →
      number ≤ Era.numberOf era) :
    ∃ client,
      delivery.follow aes (io.writeNext aes frame).2 =
        some { delivery with unwritten := rest, client := client } ∧
      (io.writeNext aes frame).1 = { io with task.encrypt :=
        { delivery with unwritten := rest, client := client }.clientCipher era } ∧
      ∀ number cipher, client = some (number, cipher) → number ≤ Era.numberOf era := by
  rcases era with _ | era
  · -- without a cipher the client's stays as it is
    replace hcipher : io.task.encrypt = none := hcipher
    refine ⟨delivery.client, ?_, ?_, hclient⟩
    · simp [TransportSessionIo.writeNext, hcipher, Delivery.follow, Delivery.observe, hunwritten,
        hquiet, Delivery.read, Delivery.clientCipher]
    · rcases io with ⟨reader, writerTx, writerPaused, call, commands, controls,
        paused, front, state, encrypt⟩
      obtain rfl : encrypt = none := hcipher
      rfl
  · obtain ⟨cipher, hsome⟩ : ∃ cipher, delivery.clientCipher (some era) = some cipher := by
      simp only [Delivery.clientCipher]
      split
      · split_ifs
        · exact ⟨_, rfl⟩
        · exact ⟨_, rfl⟩
      · exact ⟨_, rfl⟩
    rw [hsome] at hcipher
    refine ⟨some (era.number, (cipher.applyEncrypt aes frame).1), ?_, ?_, ?_⟩
    · simp [TransportSessionIo.writeNext, hcipher, Delivery.follow, Delivery.observe, hunwritten,
        hquiet, Delivery.read, hsome, MinecraftStreamCipher.applyDecrypt_applyEncrypt,
        Era.numberOf]
    · simp [TransportSessionIo.writeNext, hcipher, Delivery.clientCipher]
    · intro number cipher h
      cases h
      exact Nat.le_refl _

theorem takeControl (aes : Block → Block → Block) {control : TransportWriterControl}
    {rest : List TransportWriterControl}
    (h : Tracks io delivery era resuming) (hcontrols : io.controls = control :: rest)
    (hlooking : io.task.state = .looking) (hfront : io.task.front = []) :
    ∃ delivery' resuming',
      delivery.follow aes (io.takeControl rest control).2 = some delivery' ∧
      Tracks (io.takeControl rest control).1 delivery' era resuming' := by
  have hall := h.controls
  have hready := h.unwritten
  obtain ⟨before, hbefore, hnot⟩ := h.commands
  simp only [TransportSessionIo.ready, hlooking, hfront, hcontrols, TaskState.frames,
    List.nil_append] at hready
  rcases resuming with _ | frames
  · -- the control is the pause of the pending call
    have hcall : io.call = .pausing false ∧ control = .pause ∧ rest = [] := by
      rw [hcontrols] at hall
      unfold SessionCall.controls at hall
      split at hall
      · simp_all
      · simp at hall
    obtain ⟨hcall, rfl, rfl⟩ := hcall
    have htakes : io.takes = [] := by simp [TransportSessionIo.takes, hcall]
    refine ⟨{ delivery with quiet := true }, none, rfl, ?_⟩
    constructor <;>
      simp_all [TransportSessionIo.takeControl, TransportSessionIo.ready, TaskState.frames,
        SessionCall.controls, TransportSessionIo.takes, TransportWriterControl.frames]
    · rw [← hbefore]
      exact h.era_eq
    · exact h.cipher
    · exact h.client
  · obtain ⟨rfl, rfl⟩ : control = .resumeWithFront frames ∧ rest = io.call.controls := by
      rw [hcontrols] at hall
      simpa using hall
    have hnothing : io.call.controls.flatMap TransportWriterControl.frames = [] := by
      unfold SessionCall.controls
      split <;> rfl
    obtain ⟨-, -, hwriter⟩ := h.resumes rfl
    have hquiet : delivery.quiet = false := by
      by_contra hquiet
      have hnone := (h.quiet (by simpa using hquiet)).2
      cases hnone
    have hacknowledged : io.call ≠ .pausing true := by
      intro hcall
      have hnone := (h.acknowledged hcall).2
      cases hnone
    refine ⟨delivery, none, rfl, ?_⟩
    refine ⟨?_, h.era_eq, h.cipher, h.client, ?_, ?_, ?_, ?_, ?_, ?_, ?_, ⟨before, hbefore, hnot⟩,
      h.returned, h.frozen⟩
    · simp [TransportSessionIo.takeControl, TransportSessionIo.ready, hlooking, hfront, hready,
        TaskState.frames, TransportWriterControl.frames, hnothing]
    · simp [TransportSessionIo.takeControl]
    · simp
    · simp [TransportSessionIo.takeControl]
    · intro _
      exact hlooking
    · simp [hquiet]
    · intro hcall
      exact absurd hcall hacknowledged
    · simp [TransportSessionIo.takeControl, hwriter]

theorem clientCipher_next (h : Tracks io delivery era resuming) (start : MinecraftStreamCipher) :
    delivery.clientCipher (Era.next era start) = some start := by
  simp only [Delivery.clientCipher, Era.next]
  split
  · rename_i number cipher hclient
    have hle := h.client number cipher hclient
    rw [if_neg (by omega)]
  · rfl

theorem call_controls_frames (call : SessionCall) :
    call.controls.flatMap TransportWriterControl.frames = [] := by
  unfold SessionCall.controls
  split <;> rfl

theorem busy (h : Tracks io delivery era resuming) (hbusy : io.task.state ≠ .looking) :
    resuming = none ∧ io.task.front = [] ∧ io.task.paused = false := by
  refine ⟨?_, ?_, ?_⟩
  · rcases resuming with _ | frames
    · rfl
    · exact absurd (h.resumes rfl).1 hbusy
  · by_contra hfront
    exact hbusy (h.front hfront)
  · by_contra hpaused
    exact hbusy (h.rests (by simpa using hpaused)).1

theorem at_select (h : Tracks io delivery era resuming) (hstate : io.task.state = .controlsEmpty) :
    resuming = none ∧ io.task.front = [] ∧ io.task.paused = false ∧ io.ready = [] := by
  obtain ⟨hresuming, hfront, hpaused⟩ := h.busy (by simp [hstate])
  refine ⟨hresuming, hfront, hpaused, ?_⟩
  simp [TransportSessionIo.ready, hstate, hfront, h.controls, hresuming, TaskState.frames,
    call_controls_frames]

/-- From the `select!` the task goes to another place, with the rest of the commands. -/
theorem leaveSelect {rest : List TransportWriterCommand} {state : TaskState}
    {encrypt : Option MinecraftStreamCipher} {era' : Option Era}
    (h : Tracks io delivery era resuming) (hstate : io.task.state = .controlsEmpty)
    (hunwritten : delivery.unwritten = state.frames.map (·, era') ++ tagged era' rest)
    (hlatest : delivery.era = latest era' rest) (hcipher : encrypt = delivery.clientCipher era')
    (hle : Era.numberOf era ≤ Era.numberOf era')
    (hrest : ∃ before, rest = before ++ (if io.call = .freezing ∧ state ≠ .returned then
      [.takeForProcessTransfer] else []) ∧ .takeForProcessTransfer ∉ before)
    (hreturned : state = .returned → rest = [] ∧ io.call = .freezing) :
    Tracks { io with commands := rest, task.state := state, task.encrypt := encrypt }
      delivery era' resuming := by
  obtain ⟨rfl, hfront, hpaused, -⟩ := h.at_select hstate
  have hrunning : io.task.state ≠ .returned := by
    rw [hstate]
    simp
  refine ⟨?_, hlatest, hcipher, fun number cipher hsome => (h.client number cipher hsome).trans hle,
    h.controls, by simp, by simp [hpaused], by simp [hfront], h.quiet, h.acknowledged, ?_, hrest, ?_,
    ?_⟩
  · simpa [TransportSessionIo.ready, hfront, h.controls, call_controls_frames] using hunwritten
  · intro hwriter _
    exact h.paused hwriter hrunning
  · intro hstate
    exact ⟨(hreturned hstate).1, .inl (hreturned hstate).2⟩
  · intro transport hcall
    exact absurd (h.frozen transport hcall).1 hrunning

theorem takeCommand {command : TransportWriterCommand} {rest : List TransportWriterCommand}
    (h : Tracks io delivery era resuming) (hcommands : io.commands = command :: rest)
    (hstate : io.task.state = .controlsEmpty) :
    Tracks (io.takeCommand rest command) delivery (Era.after era command) resuming := by
  have hready := (h.at_select hstate).2.2.2
  obtain ⟨before, hbefore, hnot⟩ := h.commands
  have hunwritten := h.unwritten
  have hlatest := h.era_eq
  rw [hready, hcommands, List.map_nil, List.nil_append, tagged] at hunwritten
  rw [hcommands, latest_cons] at hlatest
  simp only [TransportSessionIo.takes, hstate, ne_eq, reduceCtorEq, not_false_eq_true,
    and_true] at hbefore
  rw [hcommands] at hbefore
  -- another command than the last leaves the pending call where it is
  have hothers : command ≠ .takeForProcessTransfer →
      ∃ before, rest = before ++ (if io.call = .freezing then [.takeForProcessTransfer] else []) ∧
        .takeForProcessTransfer ∉ before := by
    intro hne
    rcases before with _ | ⟨first, before⟩
    · rw [List.nil_append] at hbefore
      split_ifs at hbefore
      exact absurd (List.cons.inj hbefore).1 hne
    · obtain ⟨-, hrest⟩ := List.cons.inj hbefore
      exact ⟨before, hrest, fun hmem => hnot (List.mem_cons_of_mem _ hmem)⟩
  rcases command with frames | secret | snapshot | _
  · refine h.leaveSelect hstate ?_ hlatest h.cipher (Nat.le_refl _) ?_ ?_
    · rw [TaskState.frames_loop]
      exact hunwritten
    · simpa [TaskState.loop_ne_returned] using hothers
    · intro hreturned
      exact absurd hreturned (TaskState.loop_ne_returned frames)
  · refine h.leaveSelect hstate hunwritten hlatest (h.clientCipher_next _).symm (Nat.le_succ _) ?_ ?_
    · simpa using hothers
    · intro hreturned
      cases hreturned
  · refine h.leaveSelect hstate hunwritten hlatest (h.clientCipher_next _).symm (Nat.le_succ _) ?_ ?_
    · simpa using hothers
    · intro hreturned
      cases hreturned
  · -- the command of the pending call is the last one
    obtain ⟨hcall, rfl⟩ : io.call = .freezing ∧ rest = [] := by
      rcases before with _ | ⟨first, before⟩
      · rw [List.nil_append] at hbefore
        split_ifs at hbefore with hcall
        exact ⟨hcall, (List.cons.inj hbefore).2⟩
      · obtain ⟨rfl, -⟩ := List.cons.inj hbefore
        exact absurd List.mem_cons_self hnot
    refine h.leaveSelect hstate hunwritten hlatest h.cipher (Nat.le_refl _) ⟨[], ?_, ?_⟩ ?_
    · simp
    · simp
    · intro _
      exact ⟨rfl, hcall⟩

theorem running (h : Tracks io delivery era resuming) (hpaused : io.task.paused = false) :
    delivery.quiet = false ∧ io.call ≠ .pausing true := by
  constructor
  · by_contra hquiet
    have hrests := (h.quiet (by simpa using hquiet)).1
    rw [hpaused] at hrests
    cases hrests
  · intro hcall
    have hrests := (h.acknowledged hcall).1
    rw [hpaused] at hrests
    cases hrests

theorem write (frame : Frame) (state : TaskState) (front : List Frame)
    (h : Tracks io delivery era none) (hpaused : io.task.paused = false)
    (hrunning : io.task.state ≠ .returned)
    (hframes : io.task.state.frames ++ io.task.front = frame :: (state.frames ++ front))
    (hstate : state ≠ .returned) (hfront : front ≠ [] → state = .looking)
    (hstep : { io with task.state := state, task.front := front }.writeNext aes frame = (io', seen)) :
    ∃ delivery', delivery.follow aes seen = some delivery' ∧ Tracks io' delivery' era none := by
  obtain ⟨hquiet, hcall⟩ := h.running hpaused
  have hunwritten := h.unwritten
  simp only [TransportSessionIo.ready, hframes, List.map_cons, List.cons_append] at hunwritten
  obtain ⟨client, hfollow, hio, hclient⟩ :=
    writeNext aes { io with task.state := state, task.front := front } hunwritten hquiet
      h.cipher h.client
  rw [hstep] at hfollow hio
  dsimp only at hfollow hio
  refine ⟨_, hfollow, ?_⟩
  subst hio
  refine ⟨?_, h.era_eq, rfl, hclient, h.controls, by simp, by simp [hpaused], hfront, by simp [hquiet],
    by simp [hcall], ?_, ?_, fun hreturned => absurd hreturned hstate, ?_⟩
  · simp [TransportSessionIo.ready]
  · intro hwriter _
    exact h.paused hwriter hrunning
  · obtain ⟨before, hbefore, hnot⟩ := h.commands
    refine ⟨before, ?_, hnot⟩
    simpa [TransportSessionIo.takes, hrunning, hstate] using hbefore
  · intro transport hfrozen
    exact absurd (h.frozen transport hfrozen).1 hrunning

theorem taskStep (h : Tracks io delivery era resuming)
    (hstep : io.taskStep aes = some (io', seen)) :
    ∃ delivery' era' resuming', delivery.follow aes seen = some delivery' ∧
      Tracks io' delivery' era' resuming' := by
  unfold TransportSessionIo.taskStep at hstep
  split at hstep
  · rename_i hlooking
    split_ifs at hstep with hpaused
    · split at hstep
      · cases hstep
      · rename_i control rest hcontrols
        obtain ⟨delivery', resuming', hfollow, htracks⟩ :=
          h.takeControl aes hcontrols hlooking (h.rests hpaused).2
        rw [Option.some.inj hstep] at hfollow htracks
        exact ⟨delivery', era, resuming', hfollow, htracks⟩
    · rw [Bool.not_eq_true] at hpaused
      split at hstep
      · rename_i frame front hfront
        obtain rfl : resuming = none := by
          rcases resuming with _ | frames
          · rfl
          · exact absurd (h.resumes rfl).2.1 (by simp [hfront])
        have hwrite : { io with task.state := .looking, task.front := front }.writeNext aes frame =
            (io', seen) := by
          rw [← hlooking]
          exact Option.some.inj hstep
        obtain ⟨delivery', hfollow, htracks⟩ :=
          h.write frame .looking front hpaused (by simp [hlooking])
            (by simp [hlooking, hfront, TaskState.frames]) (by simp) (fun _ => rfl) hwrite
        exact ⟨delivery', era, none, hfollow, htracks⟩
      · rename_i hfront
        split at hstep
        · -- the control channel is empty
          rename_i hcontrols
          cases hstep
          obtain ⟨hquiet, hcall⟩ := h.running hpaused
          obtain rfl : resuming = none := by
            have hall := h.controls
            rw [hcontrols] at hall
            rcases resuming with _ | frames
            · rfl
            · simp at hall
          refine ⟨delivery, era, none, rfl, ?_, h.era_eq, h.cipher, h.client, h.controls, by simp,
            by simp [hpaused], by simp [hfront], h.quiet, h.acknowledged, ?_, ?_, by simp, ?_⟩
          · simpa [TransportSessionIo.ready, hlooking, TaskState.frames] using h.unwritten
          · intro hwriter _
            exact h.paused hwriter (by simp [hlooking])
          · obtain ⟨before, hbefore, hnot⟩ := h.commands
            refine ⟨before, ?_, hnot⟩
            simpa [TransportSessionIo.takes, hlooking] using hbefore
          · intro transport hfrozen
            have hreturned := (h.frozen transport hfrozen).1
            rw [hlooking] at hreturned
            cases hreturned
        · rename_i control rest hcontrols
          obtain ⟨delivery', resuming', hfollow, htracks⟩ :=
            h.takeControl aes hcontrols hlooking hfront
          rw [Option.some.inj hstep] at hfollow htracks
          exact ⟨delivery', era, resuming', hfollow, htracks⟩
  · rename_i hstate
    split at hstep
    · rename_i hcommands
      cases hstep
      obtain ⟨-, -, -, hready⟩ := h.at_select hstate
      refine ⟨delivery, era, resuming, rfl, h.leaveSelect hstate ?_ h.era_eq h.cipher (Nat.le_refl _)
        ?_ ?_⟩
      · simpa [hready, TaskState.frames] using h.unwritten
      · obtain ⟨before, hbefore, hnot⟩ := h.commands
        refine ⟨before, ?_, hnot⟩
        simpa [TransportSessionIo.takes, hstate] using hbefore
      · intro hreturned
        cases hreturned
    · rename_i command rest hcommands
      cases hstep
      exact ⟨delivery, _, resuming, rfl, h.takeCommand hcommands hstate⟩
  · -- a loop over no frames is over
    rename_i hstate
    cases hstep
    have hbusy : io.task.state ≠ .looking := by simp [hstate]
    obtain ⟨rfl, -, hpaused⟩ := h.busy hbusy
    refine ⟨delivery, era, none, rfl, ?_, h.era_eq, h.cipher, h.client, h.controls, by simp,
      by simp [hpaused], by simp, h.quiet, h.acknowledged, ?_, ?_, by simp, ?_⟩
    · simpa [TransportSessionIo.ready, hstate, TaskState.frames] using h.unwritten
    · intro hwriter _
      exact h.paused hwriter (by simp [hstate])
    · obtain ⟨before, hbefore, hnot⟩ := h.commands
      refine ⟨before, ?_, hnot⟩
      simpa [TransportSessionIo.takes, hstate] using hbefore
    · intro transport hfrozen
      have hreturned := (h.frozen transport hfrozen).1
      rw [hstate] at hreturned
      cases hreturned
  · rename_i frame frames hstate
    have hbusy : io.task.state ≠ .looking := by simp [hstate]
    obtain ⟨rfl, hfront, hpaused⟩ := h.busy hbusy
    have hframes : io.task.state.frames ++ io.task.front =
        frame :: ((TaskState.loop frames).frames ++ []) := by
      rw [TaskState.frames_loop, hstate, hfront]
      rfl
    have hwrite : { io with task.state := .loop frames, task.front := [] }.writeNext aes frame =
        (io', seen) := by
      rw [← hfront]
      exact Option.some.inj hstep
    obtain ⟨delivery', hfollow, htracks⟩ :=
      h.write frame (.loop frames) [] hpaused (by simp [hstate]) hframes
        (TaskState.loop_ne_returned _) (by simp) hwrite
    exact ⟨delivery', era, none, hfollow, htracks⟩
  · cases hstep

theorem settle_cases {result : Except RuntimeError TransportSessionIo} {shown : List Observation}
    (h : io.settle shown result = (io', seen)) :
    (result = .ok io' ∧ seen = shown) ∨ (io' = io ∧ seen = []) := by
  cases result with
  | ok _ =>
    cases h
    exact .inl ⟨rfl, rfl⟩
  | error _ =>
    cases h
    exact .inr ⟨rfl, rfl⟩

theorem settle {result : Except RuntimeError TransportSessionIo} {shown : List Observation}
    (h : Tracks io delivery era resuming)
    (hok : ∀ io', result = .ok io' → ∃ delivery' resuming',
      delivery.follow aes shown = some delivery' ∧ Tracks io' delivery' era resuming')
    (hsettle : io.settle shown result = (io', seen)) :
    ∃ delivery' era' resuming', delivery.follow aes seen = some delivery' ∧
      Tracks io' delivery' era' resuming' := by
  rcases settle_cases hsettle with ⟨hresult, rfl⟩ | ⟨rfl, rfl⟩
  · obtain ⟨delivery', resuming', hfollow, htracks⟩ := hok io' hresult
    exact ⟨delivery', era, resuming', hfollow, htracks⟩
  · exact ⟨delivery, era, resuming, rfl, h⟩

theorem enqueueWriteBatch {frames : List Frame} (h : Tracks io delivery era resuming)
    (hfree : io.call.free = true) (hio : io.enqueueWriteBatch frames = .ok io') :
    ∃ delivery' resuming', delivery.follow aes [.accepted frames] = some delivery' ∧
      Tracks io' delivery' era resuming' := by
  unfold TransportSessionIo.enqueueWriteBatch at hio
  dsimp only at hio
  split_ifs at hio
  exact ⟨_, _, rfl, h.enqueue hfree (by simp) hio⟩

theorem enableEncryption {sharedSecret : Block} (h : Tracks io delivery era resuming)
    (hfree : io.call.free = true) (hio : io.enableEncryption sharedSecret = .ok io') :
    ∃ delivery' resuming',
      delivery.follow aes [.ciphered (.new sharedSecret)] = some delivery' ∧
      Tracks io' delivery' era resuming' := by
  unfold TransportSessionIo.enableEncryption at hio
  cases hqueue : io.enqueue (.enableEncryption sharedSecret) with
  | error _ =>
    rw [hqueue] at hio
    cases hio
  | ok queued =>
    have htracks := h.enqueue hfree (by simp) hqueue
    simp only [TransportWriterCommand.frames, List.map_nil, List.append_nil] at htracks
    rw [hqueue] at hio
    change (match queued.reader with | .tcp _ => _ | .transitioning => _) = _ at hio
    split at hio
    · cases hio
      exact ⟨_, _, rfl, htracks.withReader _⟩
    · cases hio

theorem restoreImportedTcpState {decrypt encrypt : Option MinecraftStreamCipherSnapshot}
    (h : Tracks io delivery era resuming) (hfree : io.call.free = true)
    (hio : io.restoreImportedTcpState decrypt encrypt = .ok io') :
    ∃ delivery' resuming', delivery.follow aes
        (encrypt.toList.map fun snapshot => .ciphered (.restore snapshot)) = some delivery' ∧
      Tracks io' delivery' era resuming' := by
  unfold TransportSessionIo.restoreImportedTcpState at hio
  cases encrypt with
  | none =>
    change (match io.reader with | .tcp _ => _ | .transitioning => _) = _ at hio
    split at hio
    · cases hio
      exact ⟨_, _, rfl, h.withReader _⟩
    · cases hio
  | some snapshot =>
    dsimp only at hio
    cases hqueue : io.enqueue (.restoreEncryption snapshot) with
    | error _ =>
      rw [hqueue] at hio
      cases hio
    | ok queued =>
      have htracks := h.enqueue hfree (by simp) hqueue
      simp only [TransportWriterCommand.frames, List.map_nil, List.append_nil] at htracks
      rw [hqueue] at hio
      change (match queued.reader with | .tcp _ => _ | .transitioning => _) = _ at hio
      split at hio
      · cases hio
        exact ⟨_, _, rfl, htracks.withReader _⟩
      · cases hio

theorem not_pausing (hfree : io.call.free = true) : ∀ acked, io.call ≠ .pausing acked := by
  rintro acked hcall
  simp [hcall, SessionCall.free] at hfree

theorem pauseWriter (h : Tracks io delivery era resuming) (hfree : io.call.free = true)
    (hio : io.pauseWriter = some (.ok io')) : Tracks io' delivery era resuming := by
  unfold TransportSessionIo.pauseWriter at hio
  split_ifs at hio with hpaused hreturned
  · cases hio
    exact h
  · cases hio
  · cases hio
    have hcontrols := h.controls
    rw [controls_eq_nil hfree, List.append_nil] at hcontrols
    obtain ⟨before, hbefore, hnot⟩ := h.commands
    rw [takes_eq_nil hfree, List.append_nil] at hbefore
    refine ⟨?_, h.era_eq, h.cipher, h.client, ?_, h.resumes, h.rests, h.front, h.quiet, by simp,
      h.paused, ⟨before, ?_, hnot⟩, fun hstate => absurd hstate hreturned, by simp⟩
    · simpa [TransportSessionIo.ready, TransportWriterControl.frames] using h.unwritten
    · simp [hcontrols, SessionCall.controls]
    · simpa [TransportSessionIo.takes] using hbefore

theorem resumeWriterWithFront {frames : List Frame} (h : Tracks io delivery era resuming)
    (hfree : io.call.free = true) (horderly : Orderly io (.resumeWriterWithFront frames))
    (hio : io.resumeWriterWithFront frames = .ok io') :
    ∃ delivery' resuming', delivery.follow aes [.resumed frames] = some delivery' ∧
      Tracks io' delivery' era resuming' := by
  have hcontrols := h.controls
  rw [controls_eq_nil hfree, List.append_nil] at hcontrols
  obtain ⟨before, hbefore, hnot⟩ := h.commands
  rw [takes_eq_nil hfree, List.append_nil] at hbefore
  unfold TransportSessionIo.resumeWriterWithFront at hio
  split_ifs at hio with hnothing hreturned hfull
  · -- neither paused nor frames
    cases hio
    obtain ⟨hwriter, rfl⟩ := hnothing
    refine ⟨_, resuming, rfl, ?_⟩
    refine ⟨?_, h.era_eq, h.cipher, h.client, h.controls, h.resumes, h.rests, h.front, by simp,
      h.acknowledged, h.paused, h.commands, h.returned, h.frozen⟩
    simpa using h.unwritten
  · cases hio
    -- the task stands at the head of its loop with nothing before the resumption
    have hready : resuming = none ∧ io.task.state = .looking ∧ io.task.front = [] ∧
        (frames = [] ∨ latest era io.commands = era) := by
      rcases horderly with rfl | hstate | ⟨hlooking, hfront, hempty, hciphers⟩
      · have hwriter : io.writerPaused = true := by simpa using hnothing
        obtain ⟨hlooking, hfront⟩ := h.rests (h.paused hwriter hreturned)
        refine ⟨?_, hlooking, hfront, .inl rfl⟩
        rcases resuming with _ | frames
        · rfl
        · have hrunning := (h.resumes rfl).2.2
          rw [hwriter] at hrunning
          cases hrunning
      · exact absurd hstate hreturned
      · refine ⟨?_, hlooking, hfront, .inr (latest_eq_of_forall _ _ hciphers)⟩
        rw [hempty] at hcontrols
        rcases resuming with _ | frames
        · rfl
        · simp at hcontrols
    obtain ⟨rfl, hlooking, hfront, hera⟩ := hready
    have htag : frames.map (·, delivery.era) = frames.map (·, era) := by
      rcases hera with rfl | hera
      · rfl
      · rw [h.era_eq, hera]
    refine ⟨_, some frames, rfl, ?_⟩
    refine ⟨?_, h.era_eq, h.cipher, h.client, ?_, ?_, h.rests, h.front, by simp, ?_, by simp,
      ⟨before, ?_, hnot⟩, h.returned, h.frozen⟩
    · have hunwritten := h.unwritten
      simp only [TransportSessionIo.ready, hcontrols, hlooking, hfront, TaskState.frames] at hunwritten
      simp [TransportSessionIo.ready, hcontrols, hlooking, hfront, TaskState.frames, hunwritten,
        TransportWriterControl.frames, htag]
    · simp [hcontrols, controls_eq_nil hfree]
    · intro _
      exact ⟨hlooking, hfront, rfl⟩
    · intro hcall
      exact absurd hcall (not_pausing hfree true)
    · change io.commands = before ++ io.takes
      rw [takes_eq_nil hfree, List.append_nil, hbefore]

theorem freezeForProcessTransfer (h : Tracks io delivery era resuming)
    (hfree : io.call.free = true) (hio : io.freezeForProcessTransfer = some (.ok io')) :
    Tracks io' delivery era resuming := by
  unfold TransportSessionIo.freezeForProcessTransfer at hio
  split_ifs at hio with hpaused htx hreturned hfull
  · cases hio
  · cases hio
  · cases hio
  · cases hio
    obtain ⟨before, hbefore, hnot⟩ := h.commands
    rw [takes_eq_nil hfree, List.append_nil] at hbefore
    refine ⟨?_, ?_, h.cipher, h.client, ?_, h.resumes, h.rests, h.front, h.quiet, by simp, h.paused,
      ⟨before, ?_, hnot⟩, fun hstate => absurd hstate hreturned, by simp⟩
    · simpa [TransportSessionIo.ready, tagged_append_singleton, TransportWriterCommand.frames] using
        h.unwritten
    · simpa [Era.after, TransportWriterCommand.cipher] using h.era_eq
    · have hcontrols := h.controls
      rw [controls_eq_nil hfree] at hcontrols
      exact hcontrols
    · simp [TransportSessionIo.takes, hreturned, hbefore]

theorem pauseReturns (h : Tracks io delivery era resuming) (hcall : io.call = .pausing true) :
    Tracks { io with call := .idle, writerPaused := true } delivery era resuming := by
  obtain ⟨hpaused, rfl⟩ := h.acknowledged hcall
  obtain ⟨hlooking, hfront⟩ := h.rests hpaused
  obtain ⟨before, hbefore, hnot⟩ := h.commands
  refine ⟨h.unwritten, h.era_eq, h.cipher, h.client, ?_, by simp, h.rests, h.front, h.quiet, by simp,
    fun _ _ => hpaused, ⟨before, ?_, hnot⟩, ?_, by simp⟩
  · simpa [SessionCall.controls, hcall] using h.controls
  · simpa [TransportSessionIo.takes, hcall] using hbefore
  · intro hreturned
    rw [hlooking] at hreturned
    cases hreturned

theorem at_return (h : Tracks io delivery era resuming) (hreturned : io.task.state = .returned) :
    resuming = none ∧ io.task.paused = false ∧ delivery.unwritten = [] := by
  obtain ⟨hresuming, hfront, hpaused⟩ := h.busy (by simp [hreturned])
  refine ⟨hresuming, hpaused, ?_⟩
  obtain ⟨hcommands, -⟩ := h.returned hreturned
  simp [h.unwritten, TransportSessionIo.ready, h.controls, hreturned, hfront, hcommands, hresuming,
    TaskState.frames, call_controls_frames]

theorem freezeReturns {decrypt : Option MinecraftStreamCipherSnapshot}
    (h : Tracks io delivery era resuming) (hcall : io.call = .freezing)
    (hreturned : io.task.state = .returned) :
    Tracks { io with
      writerTx := false, writerPaused := true, reader := .transitioning
      call := .frozen ⟨decrypt, io.task.encrypt.map MinecraftStreamCipher.snapshot⟩ }
      delivery era resuming := by
  obtain ⟨rfl, -, -⟩ := h.at_return hreturned
  obtain ⟨hcommands, -⟩ := h.returned hreturned
  have hcontrols := h.controls
  rw [hcall] at hcontrols
  refine ⟨h.unwritten, h.era_eq, h.cipher, h.client, hcontrols, by simp, h.rests, h.front, h.quiet,
    by simp, fun _ hrunning => absurd hreturned hrunning, ⟨[], ?_, by simp⟩, ?_, ?_⟩
  · simp [hcommands, TransportSessionIo.takes]
  · intro _
    exact ⟨hcommands, .inr ⟨_, rfl⟩⟩
  · intro transport heq
    cases heq
    exact ⟨hreturned, rfl⟩

theorem rollback {transport : FrozenProcessTransport} {reader : TransportReader}
    (h : Tracks io delivery era resuming) (hcall : io.call = .frozen transport) :
    Tracks (.fromParts reader (transport.encrypt.map MinecraftStreamCipher.restore))
      delivery era none := by
  obtain ⟨hreturned, hencrypt⟩ := h.frozen transport hcall
  obtain ⟨hcommands, -⟩ := h.returned hreturned
  obtain ⟨-, hpaused, hunwritten⟩ := h.at_return hreturned
  refine fromParts hunwritten ?_ (h.running hpaused).1 ?_ h.client
  · simp [h.era_eq, hcommands]
  · rw [hencrypt, ← h.cipher]
    cases io.task.encrypt <;> rfl

theorem step {event : TransportSessionIo.TransportEvent} (h : Tracks io delivery era resuming)
    (horderly : Orderly io event) (hstep : io.step aes event = some (io', seen)) :
    ∃ delivery' era' resuming', delivery.follow aes seen = some delivery' ∧
      Tracks io' delivery' era' resuming' := by
  cases event <;> simp only [TransportSessionIo.step] at hstep
  case task => exact h.taskStep hstep
  case enqueueWriteBatch frames =>
    split_ifs at hstep with hfree
    exact h.settle (fun io' hio => h.enqueueWriteBatch hfree hio) (Option.some.inj hstep)
  case enableEncryption sharedSecret =>
    split_ifs at hstep with hfree
    exact h.settle (fun io' hio => h.enableEncryption hfree hio) (Option.some.inj hstep)
  case restoreImportedTcpState decrypt encrypt =>
    split_ifs at hstep with hfree
    exact h.settle (fun io' hio => h.restoreImportedTcpState hfree hio) (Option.some.inj hstep)
  case pauseWriter =>
    split_ifs at hstep with hfree
    obtain ⟨result, hresult, hsettle⟩ := Option.map_eq_some_iff.mp hstep
    refine h.settle (fun io' hio => ⟨delivery, resuming, rfl, ?_⟩) hsettle
    rw [hio] at hresult
    exact h.pauseWriter hfree hresult
  case resumeWriterWithFront frames =>
    split_ifs at hstep with hfree
    exact h.settle (fun io' hio => h.resumeWriterWithFront hfree horderly hio)
      (Option.some.inj hstep)
  case freezeForProcessTransfer =>
    split_ifs at hstep with hfree
    obtain ⟨result, hresult, hsettle⟩ := Option.map_eq_some_iff.mp hstep
    refine h.settle (fun io' hio => ⟨delivery, resuming, rfl, ?_⟩) hsettle
    rw [hio] at hresult
    exact h.freezeForProcessTransfer hfree hresult
  case pauseReturns =>
    split_ifs at hstep with hcall
    cases hstep
    exact ⟨delivery, era, resuming, rfl, h.pauseReturns hcall⟩
  case freezeReturns =>
    split at hstep
    · rename_i hcall hreturned hreader
      cases hstep
      obtain ⟨-, -, hunwritten⟩ := h.at_return hreturned
      refine ⟨delivery, era, resuming, ?_, h.freezeReturns hcall hreturned⟩
      simp [Delivery.follow, Delivery.observe, hunwritten]
    · cases hstep
  case rollback =>
    split at hstep
    · rename_i transport hcall
      cases hstep
      exact ⟨delivery, era, none, rfl, h.rollback hcall⟩
    · cases hstep

theorem unwritten_eq_held (h : Tracks io delivery era resuming) :
    delivery.unwritten.map Prod.fst = io.held := by
  simp [h.unwritten, TransportSessionIo.held, tagged_map_fst, Function.comp_def]

end Tracks

/-! ### Every run -/

def OrderlyRun (aes : Block → Block → Block) (io : TransportSessionIo) :
    List TransportSessionIo.TransportEvent → Prop
  | [] => True
  | event :: events =>
    Orderly io event ∧
      match io.step aes event with
      | some next => OrderlyRun aes next.1 events
      | none => True

instance Orderly.decidable (io : TransportSessionIo) (event : TransportSessionIo.TransportEvent) :
    Decidable (Orderly io event) :=
  match event with
  | .resumeWriterWithFront frames =>
    inferInstanceAs (Decidable (frames = [] ∨ io.task.state = .returned ∨
      (io.task.state = .looking ∧ io.task.front = [] ∧ io.controls = [] ∧
        ∀ command ∈ io.commands, command.cipher = none)))
  | .task | .enqueueWriteBatch _ | .enableEncryption _ => .isTrue trivial
  | .restoreImportedTcpState _ _ => .isTrue trivial
  | .pauseWriter | .freezeForProcessTransfer | .pauseReturns => .isTrue trivial
  | .freezeReturns | .rollback => .isTrue trivial

instance OrderlyRun.decidable (aes : Block → Block → Block) (io : TransportSessionIo)
    (events : List TransportSessionIo.TransportEvent) : Decidable (OrderlyRun aes io events) :=
  match events with
  | [] => .isTrue trivial
  | event :: events =>
    match hstep : io.step aes event with
    | some next =>
      haveI := OrderlyRun.decidable aes next.1 events
      decidable_of_iff (Orderly io event ∧ OrderlyRun aes next.1 events)
        (by simp only [OrderlyRun, hstep])
    | none =>
      decidable_of_iff (Orderly io event) (by simp only [OrderlyRun, hstep, and_true])

section Runs

variable {aes : Block → Block → Block} {io io' : TransportSessionIo} {seen : List Observation}

theorem Tracks.run {events : List TransportSessionIo.TransportEvent} {delivery : Delivery}
    {era : Option Era} {resuming : Option (List Frame)} (h : Tracks io delivery era resuming)
    (horderly : OrderlyRun aes io events) (hrun : io.run aes events = some (io', seen)) :
    ∃ delivery' era' resuming', delivery.follow aes seen = some delivery' ∧
      Tracks io' delivery' era' resuming' := by
  induction events generalizing io delivery era resuming seen with
  | nil =>
    cases hrun
    exact ⟨delivery, era, resuming, rfl, h⟩
  | cons event events ih =>
    obtain ⟨⟨next, shown⟩, hnext, hrest⟩ := Option.bind_eq_some_iff.mp hrun
    obtain ⟨⟨last, later⟩, hlast, heq⟩ := Option.map_eq_some_iff.mp hrest
    cases heq
    obtain ⟨delivery₁, era₁, resuming₁, hfollow₁, h₁⟩ := h.step horderly.1 hnext
    have hlater := horderly.2
    rw [hnext] at hlater
    obtain ⟨delivery₂, era₂, resuming₂, hfollow₂, h₂⟩ := ih h₁ hlater hlast
    refine ⟨delivery₂, era₂, resuming₂, ?_, h₂⟩
    rw [Delivery.follow_append, hfollow₁]
    exact hfollow₂

/-- **The writer delivers.**  All that is seen of a session whose resumptions are orderly is a
    delivery: the frames are written in the order in which they are in line, each under the cipher
    that was enabled when it was accepted, none while the writer is paused, and all of them before
    a freeze returns; what is not written yet is still held. -/
theorem orderly_run_delivers (aes : Block → Block → Block)
    (events : List TransportSessionIo.TransportEvent) (io : TransportSessionIo)
    (seen : List Observation) (hrun : TransportSessionIo.tcp.run aes events = some (io, seen))
    (horderly : OrderlyRun aes .tcp events) :
    ∃ delivery, Delivery.new.follow aes seen = some delivery ∧
      delivery.unwritten.map Prod.fst = io.held := by
  have hstart : Tracks .tcp .new none none :=
    Tracks.fromParts rfl rfl rfl rfl (by simp [Delivery.new])
  obtain ⟨delivery, era, resuming, hfollow, htracks⟩ := hstart.run horderly hrun
  exact ⟨delivery, hfollow, htracks.unwritten_eq_held⟩

end Runs

/-- AES-128 under the zero key, as far as it is asked for the zero block. -/
def aesZero (_ _ : Block) : Block :=
  #v[0x66, 0xe9, 0x4b, 0xd4, 0xef, 0x8a, 0x2c, 0x3b, 0x88, 0x4c, 0xfa, 0x59, 0xca, 0x34, 0x2b, 0x2e]

/-- Frames before and after a pause with frames for the front, then a cipher, a freeze and its
    rollback. -/
def pausedSession : List TransportSessionIo.TransportEvent :=
  [.enqueueWriteBatch [[1], [2]], .task, .task, .task, .pauseWriter, .task, .task, .pauseReturns,
    .enqueueWriteBatch [[3]], .resumeWriterWithFront [[4], [5]], .task, .task, .task, .task, .task,
    .task, .enableEncryption (Vector.replicate 16 0), .enqueueWriteBatch [[6]],
    .freezeForProcessTransfer, .task, .task, .task, .task, .task, .task, .task, .freezeReturns,
    .rollback, .enqueueWriteBatch [[7]]]

theorem orderly_run_delivers_paused :
    ∃ io seen delivery, TransportSessionIo.tcp.run aesZero pausedSession = some (io, seen) ∧
      seen.filter (· matches .wrote _) =
        [.wrote [1], .wrote [2], .wrote [4], .wrote [5], .wrote [3], .wrote [6 ^^^ 0x66]] ∧
      Delivery.new.follow aesZero seen = some delivery ∧
      delivery.unwritten.map Prod.fst = io.held := by
  have hrun : ((TransportSessionIo.tcp.run aesZero pausedSession).map fun last =>
      last.2.filter (· matches .wrote _)) =
      some [.wrote [1], .wrote [2], .wrote [4], .wrote [5], .wrote [3], .wrote [6 ^^^ 0x66]] := by
    decide +kernel
  obtain ⟨⟨io, seen⟩, hrun, hwrote⟩ := Option.map_eq_some_iff.mp hrun
  obtain ⟨delivery, hfollow, hheld⟩ :=
    orderly_run_delivers aesZero pausedSession io seen hrun (by decide +kernel)
  exact ⟨io, seen, delivery, hrun, hwrote, hfollow, hheld⟩

/-- A login whose cipher is still in the channel when the session is paused and resumed with a
    frame: the frame goes out as plaintext. -/
def pausedLogin : List TransportSessionIo.TransportEvent :=
  [.enableEncryption (Vector.replicate 16 0), .enqueueWriteBatch [[2]], .pauseWriter, .task,
    .pauseReturns, .resumeWriterWithFront [[1]], .task, .task]

/-- A frame for the front that comes while a batch is written waits for the rest of the batch. -/
def resumedBatch : List TransportSessionIo.TransportEvent :=
  [.enqueueWriteBatch [[1], [2]], .task, .task, .task, .resumeWriterWithFront [[3]], .task]

/-- A frame for the front that comes after the control channel was found empty is lost in a
    freeze. -/
def resumedFreeze : List TransportSessionIo.TransportEvent :=
  [.task, .resumeWriterWithFront [[1]], .freezeForProcessTransfer, .task, .freezeReturns]

theorem front_frames_go_astray :
    (∃ last, TransportSessionIo.tcp.run aesZero pausedLogin = some last ∧
      .wrote [1] ∈ last.2 ∧ Delivery.new.follow aesZero last.2 = none) ∧
    (∃ last, TransportSessionIo.tcp.run aesZero resumedBatch = some last ∧
      Delivery.new.follow aesZero last.2 = none) ∧
    (∃ last, TransportSessionIo.tcp.run aesZero resumedFreeze = some last ∧
      last.2 = [.resumed [[1]], .frozen] ∧ Delivery.new.follow aesZero last.2 = none) := by
  have hsome : ∀ (P : TransportSessionIo × List Observation → Prop) [DecidablePred P] events,
      (TransportSessionIo.tcp.run aesZero events).any (decide <| P ·) = true →
      ∃ last, TransportSessionIo.tcp.run aesZero events = some last ∧ P last := by
    intro P _ events h
    cases hrun : TransportSessionIo.tcp.run aesZero events with
    | none =>
      rw [hrun] at h
      cases h
    | some last =>
      rw [hrun] at h
      exact ⟨last, rfl, by simpa using h⟩
  refine ⟨?_, ?_, ?_⟩
  · exact hsome (fun last => .wrote [1] ∈ last.2 ∧ Delivery.new.follow aesZero last.2 = none)
      pausedLogin (by decide +kernel)
  · exact hsome (fun last => Delivery.new.follow aesZero last.2 = none) resumedBatch
      (by decide +kernel)
  · exact hsome (fun last => last.2 = [.resumed [[1]], .frozen] ∧
      Delivery.new.follow aesZero last.2 = none) resumedFreeze (by decide +kernel)

end RevyCraft.Transport
