/-
**Evidence on its way to the as-run log** (`evidence/EvidenceEmitter.cpp`, `evidence/EvidenceSpool.cpp`,
`evidence/GrpcEvidenceClient.cpp`, `runtime/evidence_server.py`).

* `Link`: the emitter and the spool, the client and its queue, the streams between the client and
  Core, Core's durable acks and the records it has processed;
* `LinkAction`, `Link.step`: what the emitting thread, the writer of the spool, the client's threads,
  the network and Core's handlers do, one step at a time; `Link.Turn`: what each of them does;
* `Fresh`: an emitted record has an identity of its own and reads back; `InTurn`: no handler goes on
  behind a newer one;
* `once_of_run`: in runs of such steps a record is processed at most once, however streams are cut and
  replayed, and AIR hears no ack that Core has not stored.

The client takes a batch off its queue before it writes it, and a replay reads only the file. A handler's
message, with its row and its ack, is one step.
-/

import Retrovue.Air.Evidence.Spool
import Retrovue.Air.Evidence.SpoolLine
import Retrovue.Foundation.Transition

namespace Retrovue.Core.AsRun

open Retrovue.Foundation.FlatJson Retrovue.Foundation.Transition
open Retrovue.Air.Evidence (Session Payload FromJsonLine AckWrite EvidenceFromAir EvidenceSpool)

/-! ### The link -/

section Model

/-- What is written on a stream. -/
inductive Frame
  | hello
  | evidence (record : EvidenceFromAir)
  deriving DecidableEq

/-- What a handler of `EvidenceStream` remembers: `durable_ack_seq` and `seen_uuids`. -/
structure Handler where
  durableAckSeq : ℕ
  seenUuids : List Text := []
  deriving DecidableEq

/-- A stream: what is on its way to Core, the handler once a message has come, the acks on their way back,
whether the client has read the first of them, and whether the network has cut it. -/
structure EvidenceStream where
  toCore : List Frame := []
  handler : Option Handler := none
  toAir : List ℕ := []
  greeted : Bool := false
  cut : Bool := false
  deriving DecidableEq

/-- Where the connection thread is: waiting to connect, behind its HELLO, with a replay to write, with a
batch to write, or waiting for the ack reader of a stream that failed. -/
inductive ClientStage
  | idle
  | greeting
  | replaying (rest : List EvidenceFromAir)
  | live (batch : List EvidenceFromAir)
  | closing
  deriving DecidableEq

/-- **The link of a session**; the newest stream is the first one. -/
structure Link where
  /-- The emitter with its spool, and what it has sent to the client. -/
  session : Session
  /-- How much of that has come into the client's queue, and how much was taken from it. -/
  queued : ℕ := 0
  taken : ℕ := 0
  lastAcked : ℕ := 0
  stage : ClientStage := .idle
  streams : List EvidenceStream := []
  /-- The acked sequence of the `DurableAckStore`, and the records that were processed. -/
  acks : ℕ := 0
  processed : List EvidenceFromAir := []

/-- What happens. -/
inductive LinkAction
  | emit (payload : Payload) (eventUuid emittedUtc : Text)
  | flush
  | queue
  | connect
  | replay
  | write
  | take
  | fail
  | join
  | readAck (write : AckWrite)
  | cut (stream keep keepAcks : ℕ)
  | handle (stream : ℕ)
  | restartCore

/-- The identity of a HELLO. -/
def helloUuid : Text := "hello".toList

/-- Identities are told apart by their characters. -/
scoped instance lawfulUuid : LawfulBEq Text := inferInstance

/-- What is written on a stream that was cut is gone. -/
def EvidenceStream.push (stream : EvidenceStream) (frame : Frame) : EvidenceStream :=
  if stream.cut then stream else { stream with toCore := stream.toCore ++ [frame] }

/-- A stream as it is opened. -/
def EvidenceStream.opened : EvidenceStream := { toCore := [.hello] }

/-- The body of the loop of `EvidenceStream` for a message: the handler, the ack, and what is processed. -/
def Handler.receive (handler : Handler) : Frame →
    Handler × ℕ × Option EvidenceFromAir
  | .hello => (handler, 0, none)
  | .evidence record =>
    if record.event_uuid ≠ helloUuid ∧ (record.event_uuid ∈ handler.seenUuids ∨
        0 < record.sequence ∧ record.sequence ≤ handler.durableAckSeq) then
      (handler, record.sequence, none)
    else
      ({ handler with
          seenUuids := if record.event_uuid = helloUuid then handler.seenUuids
            else record.event_uuid :: handler.seenUuids },
        record.sequence, some record)

/-- The network cuts a stream: only the first messages and acks still arrive. -/
def EvidenceStream.cutTo (stream : EvidenceStream) (keep keepAcks : ℕ) : EvidenceStream where
  toCore := stream.toCore.take keep
  handler := stream.handler
  toAir := stream.toAir.take keepAcks
  greeted := stream.greeted
  cut := true

/-- A restart of Core ends a stream. -/
def EvidenceStream.ended (stream : EvidenceStream) : EvidenceStream :=
  { stream with toCore := [], handler := none, cut := true }

/-- A stream of which a message was taken, and answered. -/
def EvidenceStream.answered (stream : EvidenceStream) (rest : List Frame) (handler : Handler)
    (ack : ℕ) : EvidenceStream :=
  { stream with toCore := rest, handler := some handler, toAir := stream.toAir ++ [ack] }

namespace Link

/-- `send_queue_`. -/
def sendQueue (s : Link) : List EvidenceFromAir :=
  (s.session.sent.take s.queued).drop s.taken

/-- `ReplayFrom`: the lines of the file that read back, above a sequence. -/
def replayFrom (s : Link) (ackedSequence : ℕ) : List EvidenceFromAir :=
  (s.session.spool.file.filterMap fun record => FromJsonLine record.ToJsonLine).filter
    fun record => ackedSequence < record.sequence

/-- A handler takes a message: the ack is stored, unless the message is a duplicate, and sent. -/
def handle (s : Link) (index : ℕ) (stream : EvidenceStream) (frame : Frame) (rest : List Frame) : Link :=
  let (handler, ack, processed) := (stream.handler.getD ⟨s.acks, []⟩).receive frame
  { s with
    streams := s.streams.set index (stream.answered rest handler ack)
    acks := if processed.isSome then max s.acks ack else s.acks
    processed := s.processed ++ processed.toList }

/-- The ack reader: the first ack answers the HELLO, a later one moves the last ack up. -/
def readAck (s : Link) (stream : EvidenceStream) (seq : ℕ) (rest : List ℕ) (older : List EvidenceStream)
    (write : AckWrite) : Link :=
  let known := if stream.greeted then s.lastAcked else 0
  { s with
    session := { s.session with
      spool := if known < seq then s.session.spool.UpdateAck seq write else s.session.spool }
    lastAcked := if stream.greeted then max s.lastAcked seq else seq
    streams := { stream with toAir := rest, greeted := true } :: older }

/-- A step. -/
def step (s : Link) : LinkAction → Option Link
  | .emit payload eventUuid emittedUtc =>
    some { s with session := (s.session.Emit payload eventUuid emittedUtc).1 }
  | .flush => some { s with session := { s.session with spool := s.session.spool.flush } }
  | .queue =>
    if s.queued < s.session.sent.length then some { s with queued := s.queued + 1 } else none
  | .connect =>
    if s.stage = .idle then some { s with stage := .greeting, streams := .opened :: s.streams }
    else none
  | .replay =>
    match s.stage, s.streams with
    | .greeting, stream :: _ =>
      if stream.greeted then some { s with stage := .replaying (s.replayFrom s.lastAcked) } else none
    | _, _ => none
  | .write =>
    match s.stage, s.streams with
    | .replaying (record :: rest), stream :: older =>
      some { s with stage := .replaying rest, streams := stream.push (.evidence record) :: older }
    | .live (record :: rest), stream :: older =>
      some { s with stage := .live rest, streams := stream.push (.evidence record) :: older }
    | _, _ => none
  | .take =>
    if s.stage = .replaying [] ∨ s.stage = .live [] then
      some { s with stage := .live s.sendQueue, taken := s.queued }
    else none
  | .fail => if s.stage = .idle then none else some { s with stage := .closing }
  | .join => if s.stage = .closing then some { s with stage := .idle } else none
  | .readAck write =>
    match s.streams with
    | stream :: older =>
      match stream.toAir with
      | seq :: rest =>
        if s.stage = .idle then none else some (s.readAck stream seq rest older write)
      | [] => none
    | [] => none
  | .cut index keep keepAcks =>
    s.streams[index]?.map fun stream =>
      { s with streams := s.streams.set index (stream.cutTo keep keepAcks) }
  | .handle index =>
    match s.streams[index]? with
    | some stream =>
      match stream.toCore with
      | frame :: rest => some (s.handle index stream frame rest)
      | [] => none
    | none => none
  | .restartCore => some { s with streams := s.streams.map EvidenceStream.ended }

/-- The link of a new session, with a spool without a cap. -/
def start (channelId playoutSessionId : Text) : Link where
  session := Session.start channelId playoutSessionId 0

end Link

end Model

/-! ### What a step does -/

section Turns

/-- The records among messages. -/
def Frame.record : Frame → Option EvidenceFromAir
  | .hello => none
  | .evidence record => some record

/-- What the connection thread has yet to write. -/
def ClientStage.writing : ClientStage → List EvidenceFromAir
  | .replaying rest => rest
  | .live batch => batch
  | _ => []

/-- The records on their way to Core. -/
def EvidenceStream.records (stream : EvidenceStream) : List EvidenceFromAir :=
  stream.toCore.filterMap Frame.record

/-- **What each step does**, and when. -/
inductive Link.Turn (s : Link) : LinkAction → Link → Prop
  | emit (payload : Payload) (eventUuid emittedUtc : Text) : Turn s (.emit payload eventUuid emittedUtc)
      { s with session := (s.session.Emit payload eventUuid emittedUtc).1 }
  | flush : Turn s .flush { s with session := { s.session with spool := s.session.spool.flush } }
  | queue : Turn s .queue { s with queued := s.queued + 1 }
  | connect : Turn s .connect { s with stage := .greeting, streams := .opened :: s.streams }
  | replay (greeting : s.stage = .greeting) :
      Turn s .replay { s with stage := .replaying (s.replayFrom s.lastAcked) }
  | write {record : EvidenceFromAir} {stage : ClientStage} {stream : EvidenceStream}
      {older : List EvidenceStream} (here : s.streams = stream :: older)
      (first : s.stage.writing = record :: stage.writing) (behind : stage ≠ .greeting) :
      Turn s .write { s with stage := stage, streams := stream.push (.evidence record) :: older }
  | take : Turn s .take { s with stage := .live s.sendQueue, taken := s.queued }
  | fail : Turn s .fail { s with stage := .closing }
  | join : Turn s .join { s with stage := .idle }
  | readAck (write : AckWrite) {stream : EvidenceStream} {older : List EvidenceStream} {seq : ℕ}
      {rest : List ℕ} (here : s.streams = stream :: older) (answered : stream.toAir = seq :: rest) :
      Turn s (.readAck write) (s.readAck stream seq rest older write)
  | cut (index keep keepAcks : ℕ) {stream : EvidenceStream} (found : s.streams[index]? = some stream) :
      Turn s (.cut index keep keepAcks)
        { s with streams := s.streams.set index (stream.cutTo keep keepAcks) }
  | handle (index : ℕ) {stream : EvidenceStream} {frame : Frame} {rest : List Frame}
      (found : s.streams[index]? = some stream) (coming : stream.toCore = frame :: rest) :
      Turn s (.handle index) (s.handle index stream frame rest)
  | restartCore : Turn s .restartCore { s with streams := s.streams.map EvidenceStream.ended }

/-- **A step is such a turn.** -/
theorem turn_of_step {s next : Link} {action : LinkAction} (taken : s.step action = some next) :
    s.Turn action next := by
  cases action <;> simp only [Link.step] at taken
  case emit payload eventUuid emittedUtc =>
    cases taken
    exact .emit payload eventUuid emittedUtc
  case flush =>
    cases taken
    exact .flush
  case queue =>
    obtain ⟨_, same⟩ := Option.ite_none_right_eq_some.mp taken
    cases same
    exact .queue
  case connect =>
    obtain ⟨_, same⟩ := Option.ite_none_right_eq_some.mp taken
    cases same
    exact .connect
  case replay =>
    split at taken
    · rename_i greeting _
      obtain ⟨_, same⟩ := Option.ite_none_right_eq_some.mp taken
      cases same
      exact .replay greeting
    · cases taken
  case write =>
    split at taken
    · rename_i stage here
      cases taken
      exact .write here (by rw [stage]; rfl) ClientStage.noConfusion
    · rename_i stage here
      cases taken
      exact .write here (by rw [stage]; rfl) ClientStage.noConfusion
    · cases taken
  case take =>
    obtain ⟨_, same⟩ := Option.ite_none_right_eq_some.mp taken
    cases same
    exact .take
  case fail =>
    obtain ⟨_, same⟩ := Option.ite_none_left_eq_some.mp taken
    cases same
    exact .fail
  case join =>
    obtain ⟨_, same⟩ := Option.ite_none_right_eq_some.mp taken
    cases same
    exact .join
  case readAck write =>
    split at taken
    · rename_i here
      split at taken
      · rename_i answered
        obtain ⟨_, same⟩ := Option.ite_none_left_eq_some.mp taken
        cases same
        exact .readAck write here answered
      · cases taken
    · cases taken
  case cut index keep keepAcks =>
    obtain ⟨stream, found, same⟩ := Option.map_eq_some_iff.mp taken
    cases same
    exact .cut index keep keepAcks found
  case handle index =>
    split at taken
    · rename_i found
      split at taken
      · rename_i coming
        cases taken
        exact .handle index found coming
      · cases taken
    · cases taken
  case restartCore =>
    cases taken
    exact .restartCore

end Turns

/-! ### What is processed once -/

section Once

/-- No stream before that one has been answered. -/
def Latest (streams : List EvidenceStream) (index : ℕ) : Prop :=
  ∀ newer ∈ streams.take index, newer.handler = none

/-- An emitted record has an identity of its own and reads back from its line. -/
def Link.Fresh (s : Link) : LinkAction → Prop
  | .emit payload eventUuid emittedUtc =>
    (eventUuid ≠ helloUuid ∧ eventUuid ∉ s.session.sent.map EvidenceFromAir.event_uuid) ∧
      FromJsonLine (s.session.emitter.envelope payload eventUuid emittedUtc).ToJsonLine =
        some (s.session.emitter.envelope payload eventUuid emittedUtc)
  | _ => True

/-- No handler takes a message behind a newer handler. -/
def Link.InTurn (s : Link) : LinkAction → Prop
  | .handle index => Latest s.streams index
  | _ => True

/-- The numbers of records. -/
def numbers (records : List EvidenceFromAir) : List ℕ := records.map EvidenceFromAir.sequence

/-- **What was emitted** is numbered in a row, spooled, told apart, and reads back. -/
structure Recorded (e : Session) : Prop where
  numbered : numbers e.sent = List.range' 1 e.sent.length
  spooled : e.spool.accepted = e.sent
  emitter : e.emitter.sequence = e.sent.length
  last : e.spool.last_appended_sequence = e.sent.length
  uncapped : e.spool.max_spool_bytes = 0
  uuids : (e.sent.map EvidenceFromAir.event_uuid).Nodup
  named : ∀ record ∈ e.sent, record.event_uuid ≠ helloUuid
  readable : ∀ record ∈ e.sent, FromJsonLine record.ToJsonLine = some record

/-- A handler has loaded an ack, and seen records, from before. -/
def Handler.Before (handler : Handler) (processed : List EvidenceFromAir) (acks : ℕ) : Prop :=
  handler.durableAckSeq ≤ acks ∧
    ∀ uuid ∈ handler.seenUuids, uuid ∈ processed.map EvidenceFromAir.event_uuid

/-- A handler has seen what was processed, but for what it knows from the ack it loaded. -/
def Handler.Since (handler : Handler) (processed : List EvidenceFromAir) : Prop :=
  ∀ record ∈ processed,
    record.sequence ≤ handler.durableAckSeq ∨ record.event_uuid ∈ handler.seenUuids

/-- **The streams**: messages were emitted, acks are stored, and handlers know what was processed before
them and, the latest ones, since. -/
structure Served (sent processed : List EvidenceFromAir) (acks : ℕ) (streams : List EvidenceStream) :
    Prop where
  known : ∀ stream ∈ streams, ∀ record ∈ stream.records, record ∈ sent
  acked : ∀ stream ∈ streams, ∀ ack ∈ stream.toAir, ack ≤ acks
  before : ∀ stream ∈ streams, ∀ handler ∈ stream.handler, handler.Before processed acks
  since : ∀ index stream, streams[index]? = some stream → Latest streams index →
    ∀ handler ∈ stream.handler, handler.Since processed

/-- **What is processed**: emitted records, each once, up to the stored ack. -/
structure Link.Once (s : Link) : Prop where
  recorded : Recorded s.session
  emitted : ∀ record ∈ s.processed, record ∈ s.session.sent
  once : s.processed.Nodup
  stored : ∀ record ∈ s.processed, record.sequence ≤ s.acks
  highest : s.acks = 0 ∨ ∃ record ∈ s.processed, record.sequence = s.acks
  lastAcked_le : s.lastAcked ≤ s.acks
  writing : ∀ record ∈ s.stage.writing, record ∈ s.session.sent
  served : Served s.session.sent s.processed s.acks s.streams

/-! #### Records and their numbers -/

variable {e : Session} {record : EvidenceFromAir} {sent : List EvidenceFromAir}

/-- The record at a place has the number of the place. -/
theorem Recorded.sequence_of_getElem (recorded : Recorded e) {index : ℕ}
    (found : e.sent[index]? = some record) : record.sequence = index + 1 := by
  have there := congrArg (·[index]?) recorded.numbered
  have lt := (List.getElem?_eq_some_iff.mp found).1
  simp only [numbers, List.getElem?_map, found, Option.map_some, List.getElem?_range', lt] at there
  have same := Option.some.inj there
  omega

/-- A record is at the place of its number. -/
theorem Recorded.getElem_of_mem (recorded : Recorded e) (member : record ∈ e.sent) :
    0 < record.sequence ∧ e.sent[record.sequence - 1]? = some record := by
  obtain ⟨index, found⟩ := List.mem_iff_getElem?.mp member
  have number := recorded.sequence_of_getElem found
  refine ⟨by omega, ?_⟩
  rw [number, Nat.add_sub_cancel]
  exact found

/-! #### The spool -/

/-- `Emit` without a cap: the record is accepted and sent. -/
theorem Recorded.emit_eq (recorded : Recorded e) (payload : Payload) (eventUuid emittedUtc : Text) :
    (e.Emit payload eventUuid emittedUtc).1 =
      ⟨{ e.emitter with sequence := e.emitter.sequence + 1, degraded := false },
        e.spool.enqueue (e.emitter.envelope payload eventUuid emittedUtc),
        e.sent ++ [e.emitter.envelope payload eventUuid emittedUtc], e.lastAck⟩ := by
  have inOrder : e.spool.last_appended_sequence = 0 ∨
      (e.emitter.envelope payload eventUuid emittedUtc).sequence =
        e.spool.last_appended_sequence + 1 := by
    right
    rw [Air.Evidence.Emitter.envelope_sequence, recorded.emitter, recorded.last]
  rw [Session.Emit, Air.Evidence.Append_of_room inOrder (.inl recorded.uncapped)]

/-- **An emitted record** goes on with the row. -/
theorem Recorded.emit (recorded : Recorded e) {payload : Payload} {eventUuid emittedUtc : Text}
    (named : eventUuid ≠ helloUuid)
    (fresh : eventUuid ∉ e.sent.map EvidenceFromAir.event_uuid)
    (reads : FromJsonLine (e.emitter.envelope payload eventUuid emittedUtc).ToJsonLine =
      some (e.emitter.envelope payload eventUuid emittedUtc)) :
    Recorded (e.Emit payload eventUuid emittedUtc).1 := by
  have number : (e.emitter.envelope payload eventUuid emittedUtc).sequence = e.sent.length + 1 := by
    rw [Air.Evidence.Emitter.envelope_sequence, recorded.emitter]
  rw [recorded.emit_eq]
  constructor
  · show numbers (e.sent ++ [_]) = _
    rw [numbers, List.map_append, List.length_append, List.map_singleton, number,
      List.length_singleton, List.range'_concat, Nat.one_mul, Nat.add_comm 1]
    exact congrArg (· ++ _) recorded.numbered
  · rw [Air.Evidence.accepted_enqueue, recorded.spooled]
  · show e.emitter.sequence + 1 = (e.sent ++ [_]).length
    rw [recorded.emitter, List.length_append, List.length_singleton]
  · show _ = (e.sent ++ [_]).length
    rw [List.length_append, List.length_singleton]
    exact number
  · exact recorded.uncapped
  · show ((e.sent ++ [_]).map _).Nodup
    rw [List.map_append, List.map_singleton]
    refine List.nodup_append.mpr ⟨recorded.uuids, List.nodup_singleton _, ?_⟩
    rintro uuid old _ new rfl
    rw [List.mem_singleton.mp new] at old
    exact fresh old
  · intro record member
    rcases List.mem_append.mp member with old | new
    · exact recorded.named record old
    · rw [List.mem_singleton.mp new]
      exact named
  · intro record member
    rcases List.mem_append.mp member with old | new
    · exact recorded.readable record old
    · rw [List.mem_singleton.mp new]
      exact reads

/-- What leaves the accepted records alone leaves the records alone. -/
theorem Recorded.respool (recorded : Recorded e) {spool : EvidenceSpool}
    (accepted : spool.accepted = e.spool.accepted)
    (last : spool.last_appended_sequence = e.spool.last_appended_sequence)
    (cap : spool.max_spool_bytes = e.spool.max_spool_bytes) : Recorded { e with spool := spool } where
  numbered := recorded.numbered
  spooled := accepted.trans recorded.spooled
  emitter := recorded.emitter
  last := last.trans recorded.last
  uncapped := cap.trans recorded.uncapped
  uuids := recorded.uuids
  named := recorded.named
  readable := recorded.readable

/-- An ack that is read leaves the records alone. -/
theorem Recorded.readAck (recorded : Recorded e) (known seq : ℕ) (write : AckWrite) :
    Recorded { e with spool := if known < seq then e.spool.UpdateAck seq write else e.spool } := by
  unfold EvidenceSpool.UpdateAck
  split_ifs <;> exact recorded.respool rfl rfl rfl

/-! #### Messages -/

variable {handler : Handler}

/-- A record a handler has seen, or that was acked before its stream. -/
def Handler.Repeats (handler : Handler) (record : EvidenceFromAir) : Prop :=
  record.event_uuid ∈ handler.seenUuids ∨
    0 < record.sequence ∧ record.sequence ≤ handler.durableAckSeq

/-- Such a record is acked again. -/
theorem receive_of_repeats (named : record.event_uuid ≠ helloUuid) (repeats : handler.Repeats record) :
    handler.receive (.evidence record) = (handler, record.sequence, none) :=
  if_pos ⟨named, repeats⟩

/-- Another record is processed. -/
theorem receive_of_new (named : record.event_uuid ≠ helloUuid) (new : ¬ handler.Repeats record) :
    handler.receive (.evidence record) =
      ({ handler with seenUuids := record.event_uuid :: handler.seenUuids }, record.sequence,
        some record) := by
  rw [Handler.receive, if_neg fun duplicate => new duplicate.2, if_neg named]

/-! #### Streams -/

variable {processed more : List EvidenceFromAir} {acks higher : ℕ} {streams : List EvidenceStream}
  {stream changed : EvidenceStream} {index : ℕ}

/-- Whether a stream is among the latest depends on the handlers. -/
theorem latest_iff :
    Latest streams index ↔ ∀ handler ∈ (streams.map EvidenceStream.handler).take index,
      handler = none := by
  rw [← List.map_take, List.forall_mem_map]
  rfl

/-- A stream that keeps its handler leaves all where they are. -/
theorem latest_set (found : streams[index]? = some stream)
    (same : changed.handler = stream.handler) (place : ℕ) :
    Latest (streams.set index changed) place ↔ Latest streams place := by
  obtain ⟨within, rfl⟩ := List.getElem?_eq_some_iff.mp found
  have handlers : (streams.map EvidenceStream.handler).set index streams[index].handler =
      streams.map EvidenceStream.handler := by
    rw [← List.map_set, List.set_getElem_self]
  rw [latest_iff, latest_iff, List.map_set, same, handlers]

/-- Behind a stream with a handler none is among the latest, and before one of the latest none has one. -/
theorem latest_set_some (found : streams[index]? = some stream) (latest : Latest streams index)
    (answered : changed.handler.isSome) {place : ℕ} {other : EvidenceStream} (apart : place ≠ index)
    (there : streams[place]? = some other) (newest : Latest (streams.set index changed) place) :
    other.handler = none := by
  obtain ⟨within, _⟩ := List.getElem?_eq_some_iff.mp found
  obtain ⟨placed, rfl⟩ := List.getElem?_eq_some_iff.mp there
  rcases Nat.lt_or_gt_of_ne apart with ahead | behind
  · exact latest _ (List.mem_take_iff_getElem.mpr ⟨place, by omega, rfl⟩)
  · have closed := newest changed (List.mem_take_iff_getElem.mpr
      ⟨index, by rw [List.length_set]; omega, List.getElem_set_self _⟩)
    rw [closed] at answered
    cases answered

/-- **A stream that changes**: it keeps its handler, or it is one of the latest and has a handler. -/
theorem Served.set (served : Served sent processed acks streams) (changed : EvidenceStream)
    (found : streams[index]? = some stream)
    (moves : changed.handler = stream.handler ∧ more = processed ∧ higher = acks ∨
      Latest streams index ∧ (processed ⊆ more ∧ acks ≤ higher) ∧ changed.handler.isSome)
    (known : ∀ record ∈ changed.records, record ∈ sent) (acked : ∀ ack ∈ changed.toAir, ack ≤ higher)
    (before : ∀ handler ∈ changed.handler, handler.Before more higher)
    (since : Latest streams index → ∀ handler ∈ changed.handler, handler.Since more) :
    Served sent more higher (streams.set index changed) := by
  have grows : processed ⊆ more ∧ acks ≤ higher := by
    rcases moves with ⟨_, rfl, rfl⟩ | ⟨_, grows, _⟩
    · exact ⟨List.Subset.refl _, le_rfl⟩
    · exact grows
  constructor
  · intro other within
    rcases List.mem_or_eq_of_mem_set within with old | rfl
    · exact served.known other old
    · exact known
  · intro other within ack answered
    rcases List.mem_or_eq_of_mem_set within with old | rfl
    · exact (served.acked other old ack answered).trans grows.2
    · exact acked ack answered
  · intro other within handler held
    rcases List.mem_or_eq_of_mem_set within with old | rfl
    · obtain ⟨low, seen⟩ := served.before other old handler held
      exact ⟨low.trans grows.2, fun uuid uuidSeen => List.map_subset _ grows.1 (seen uuid uuidSeen)⟩
    · exact before handler held
  · intro place other there newest
    rw [List.getElem?_set] at there
    split_ifs at there with same
    · cases there
      subst same
      rcases moves with ⟨kept, _⟩ | ⟨near, _⟩
      · exact since ((latest_set found kept _).mp newest)
      · exact since near
    · rcases moves with ⟨kept, rfl, rfl⟩ | ⟨near, _, answered⟩
      · exact served.since _ _ there ((latest_set found kept _).mp newest)
      · rw [(latest_set_some found near answered (Ne.symm same) there newest)]
        nofun

/-- A new stream leaves the others where they were. -/
theorem Served.open (served : Served sent processed acks streams) :
    Served sent processed acks (.opened :: streams) := by
  constructor
  · exact List.forall_mem_cons.mpr ⟨nofun, served.known⟩
  · exact List.forall_mem_cons.mpr ⟨nofun, served.acked⟩
  · exact List.forall_mem_cons.mpr ⟨nofun, served.before⟩
  · rintro (_ | place) stream there latest
    · cases there
      nofun
    · exact served.since place stream there fun newer near => latest newer (List.mem_cons_of_mem _ near)

/-- A restart of Core ends every stream. -/
theorem Served.restart (served : Served sent processed acks streams) :
    Served sent processed acks (streams.map EvidenceStream.ended) := by
  constructor
  · exact List.forall_mem_map.mpr fun _ _ => nofun
  · exact List.forall_mem_map.mpr served.acked
  · exact List.forall_mem_map.mpr fun _ _ => nofun
  · intro place stream there _
    rw [List.getElem?_map, Option.map_eq_some_iff] at there
    obtain ⟨old, _, rfl⟩ := there
    nofun

/-! #### Steps -/

variable {s : Link}

/-- **A message that a knowing handler takes**: it is acked again, or it was not processed before. -/
theorem Link.Once.receive (once : s.Once) {frame : Frame}
    (known : ∀ record ∈ frame.record, record ∈ s.session.sent)
    (before : handler.Before s.processed s.acks) (since : handler.Since s.processed) :
    (∃ ack ≤ s.acks, handler.receive frame = (handler, ack, none)) ∨
      ∃ record, frame = .evidence record ∧ record ∉ s.processed ∧ handler.receive frame =
        ({ handler with seenUuids := record.event_uuid :: handler.seenUuids }, record.sequence,
          some record) := by
  cases frame with
  | hello => exact .inl ⟨0, Nat.zero_le _, rfl⟩
  | evidence record =>
    have member : record ∈ s.session.sent := known record rfl
    have named := once.recorded.named record member
    by_cases repeats : handler.Repeats record
    · refine .inl ⟨record.sequence, ?_, receive_of_repeats named repeats⟩
      rcases repeats with seen | ⟨_, durable⟩
      · obtain ⟨other, done, same⟩ := List.mem_map.mp (before.2 _ seen)
        rw [← List.inj_on_of_nodup_map once.recorded.uuids (once.emitted other done) member same]
        exact once.stored other done
      · exact durable.trans before.1
    · refine .inr ⟨record, rfl, fun done => repeats ?_, receive_of_new named repeats⟩
      rcases since record done with durable | seen
      · exact .inr ⟨(once.recorded.getElem_of_mem member).1, durable⟩
      · exact .inl seen

/-- **A handler takes a message.** -/
theorem Link.Once.handle (once : s.Once) {frame : Frame} {rest : List Frame}
    (latest : Latest s.streams index) (found : s.streams[index]? = some stream)
    (coming : stream.toCore = frame :: rest) : (s.handle index stream frame rest).Once := by
  have member := List.mem_of_getElem? found
  have served := once.served
  have known := served.known stream member
  have others : ∀ record ∈ rest.filterMap Frame.record, record ∈ s.session.sent := fun record later =>
    known record (by
      rw [EvidenceStream.records, coming]
      exact ((List.sublist_cons_self _ _).filterMap _).subset later)
  have here : ∀ record ∈ frame.record, record ∈ s.session.sent := fun record now => known record (by
    rw [EvidenceStream.records, coming]
    exact List.mem_filterMap.mpr ⟨frame, List.mem_cons_self, now⟩)
  -- a stream that has no handler yet gets one that knows the acks
  have holds : ∀ handler, stream.handler.getD ⟨s.acks, []⟩ = handler →
      handler.Before s.processed s.acks ∧ handler.Since s.processed := by
    rintro handler rfl
    cases answered : stream.handler with
    | none => exact ⟨⟨le_rfl, nofun⟩, fun record done => .inl (once.stored record done)⟩
    | some holder =>
      exact ⟨served.before stream member holder answered,
        served.since index stream found latest holder answered⟩
  obtain ⟨before, since⟩ := holds _ rfl
  rcases once.receive here before since with ⟨ack, le, received⟩ | ⟨record, rfl, new, received⟩
  · have same : s.handle index stream frame rest = { s with
        streams := s.streams.set index (stream.answered rest (stream.handler.getD ⟨s.acks, []⟩) ack) } := by
      rw [Link.handle, received]
      simp
    rw [same]
    refine ⟨once.recorded, once.emitted, once.once, once.stored, once.highest, once.lastAcked_le,
      once.writing, served.set _ found
        (.inr ⟨latest, ⟨List.Subset.refl _, le_rfl⟩, rfl⟩) others ?_ ?_ fun _ => ?_⟩
    · exact List.forall_mem_append.mpr ⟨served.acked stream member, List.forall_mem_singleton.mpr le⟩
    · rintro _ ⟨⟩
      exact before
    · rintro _ ⟨⟩
      exact since
  · rw [Link.handle, received]
    refine ⟨once.recorded, List.forall_mem_append.mpr ⟨once.emitted,
      List.forall_mem_singleton.mpr (here record rfl)⟩, ?_, ?_, ?_,
      once.lastAcked_le.trans (Nat.le_max_left _ _), once.writing, served.set _ found
        (.inr ⟨latest, ⟨List.subset_append_left _ _, Nat.le_max_left _ _⟩, rfl⟩) others ?_ ?_
        fun _ => ?_⟩
    · exact List.nodup_append.mpr ⟨once.once, List.nodup_singleton _, by
        rintro other done _ last rfl
        rw [List.mem_singleton.mp last] at done
        exact new done⟩
    · exact List.forall_mem_append.mpr ⟨fun other done =>
        (once.stored other done).trans (Nat.le_max_left _ _),
        List.forall_mem_singleton.mpr (Nat.le_max_right _ _)⟩
    · right
      rcases Nat.le_total record.sequence s.acks with le | le
      · rcases once.highest with none | ⟨other, done, same⟩
        · have positive := (once.recorded.getElem_of_mem (here record rfl)).1
          omega
        · exact ⟨other, List.mem_append_left _ done, same.trans (Nat.max_eq_left le).symm⟩
      · exact ⟨record, List.mem_append_right _ (List.mem_singleton_self _), (Nat.max_eq_right le).symm⟩
    · exact List.forall_mem_append.mpr ⟨fun ack answered =>
        (served.acked stream member ack answered).trans (Nat.le_max_left _ _),
        List.forall_mem_singleton.mpr (Nat.le_max_right _ _)⟩
    · rintro _ ⟨⟩
      refine ⟨before.1.trans (Nat.le_max_left _ _), ?_⟩
      rw [List.map_append]
      exact List.forall_mem_cons.mpr ⟨List.mem_append_right _ (List.mem_singleton_self _),
        fun uuid seen => List.mem_append_left _ (before.2 uuid seen)⟩
    · rintro _ ⟨⟩
      exact List.forall_mem_append.mpr ⟨fun other done =>
        (since other done).imp_right (List.mem_cons_of_mem _),
        List.forall_mem_singleton.mpr (.inr List.mem_cons_self)⟩

/-- **A stream that keeps its handler**, with no more messages and acks. -/
theorem Link.Once.shrink (once : s.Once) (changed : EvidenceStream)
    (found : s.streams[index]? = some stream) (same : changed.handler = stream.handler)
    (messages : changed.toCore <+: stream.toCore) (answers : changed.toAir ⊆ stream.toAir) :
    Served s.session.sent s.processed s.acks (s.streams.set index changed) := by
  have member := List.mem_of_getElem? found
  have served := once.served
  refine served.set changed found (.inl ⟨same, rfl, rfl⟩) (fun record coming =>
    served.known stream member record ((messages.filterMap _).subset coming))
    (fun ack answered => served.acked stream member ack (answers answered)) ?_ ?_
  · rw [same]
    exact served.before stream member
  · rw [same]
    exact served.since index stream found

/-- **An ack is read.** -/
theorem Link.Once.readAck (once : s.Once) {older : List EvidenceStream} {seq : ℕ} {rest : List ℕ}
    (here : s.streams = stream :: older) (answered : stream.toAir = seq :: rest) (write : AckWrite) :
    (s.readAck stream seq rest older write).Once := by
  have found : s.streams[0]? = some stream := by
    rw [here]
    rfl
  have stored : seq ≤ s.acks := by
    refine once.served.acked stream (List.mem_of_getElem? found) seq ?_
    rw [answered]
    exact List.mem_cons_self
  have acked : (if stream.greeted then max s.lastAcked seq else seq) ≤ s.acks := by
    have := once.lastAcked_le
    split_ifs <;> omega
  have served := once.shrink { stream with toAir := rest, greeted := true } found rfl
    (List.prefix_refl _) (by rw [answered]; exact List.subset_cons_self _ _)
  rw [here] at served
  exact ⟨once.recorded.readAck _ seq write, once.emitted, once.once, once.stored, once.highest, acked,
    once.writing, served⟩

/-- **A record is written.** -/
theorem Link.Once.write (once : s.Once) {stage : ClientStage} {older : List EvidenceStream}
    (here : s.streams = stream :: older) (first : s.stage.writing = record :: stage.writing) :
    Link.Once { s with stage := stage, streams := stream.push (.evidence record) :: older } := by
  have writing := once.writing
  rw [first] at writing
  have ⟨known, later⟩ := List.forall_mem_cons.mp writing
  have there : s.streams[0]? = some stream := by
    rw [here]
    rfl
  have served := once.served
  have member := List.mem_of_getElem? there
  have pushed : Served s.session.sent s.processed s.acks
      (s.streams.set 0 (stream.push (.evidence record))) := by
    unfold EvidenceStream.push
    split_ifs
    · exact once.shrink stream there rfl (List.prefix_refl _) (List.Subset.refl _)
    · refine served.set _ there (.inl ⟨rfl, rfl, rfl⟩) ?_ (served.acked stream member)
        (served.before stream member) (served.since 0 stream there)
      rw [EvidenceStream.records, List.filterMap_append]
      exact List.forall_mem_append.mpr ⟨served.known stream member, List.forall_mem_singleton.mpr known⟩
  rw [here] at pushed
  exact ⟨once.recorded, once.emitted, once.once, once.stored, once.highest, once.lastAcked_le, later,
    pushed⟩

/-- What a replay reads was emitted. -/
theorem Link.Once.replayFrom (once : s.Once) (ackedSequence : ℕ) :
    ∀ record ∈ s.replayFrom ackedSequence, record ∈ s.session.sent := by
  intro record read
  obtain ⟨line, written, back⟩ := List.mem_filterMap.mp (List.mem_filter.mp read).1
  have spooled : line ∈ s.session.sent := by
    rw [← once.recorded.spooled]
    exact List.mem_append_left _ written
  rw [once.recorded.readable line spooled] at back
  exact Option.some.inj back ▸ spooled

/-- **The step lemma.** -/
theorem step_once (s : Link) (action : LinkAction) (next : Link) (once : s.Once)
    (allowed : s.Fresh action ∧ s.InTurn action) (taken : s.step action = some next) : next.Once := by
  have ⟨recorded, emitted, single, stored, highest, acked, writing, served⟩ := once
  cases turn_of_step taken with
  | emit payload eventUuid emittedUtc =>
    have sent : s.session.sent ⊆ (s.session.Emit payload eventUuid emittedUtc).1.sent := by
      rw [recorded.emit_eq]
      exact List.subset_append_left _ _
    exact ⟨recorded.emit allowed.1.1.1 allowed.1.1.2 allowed.1.2,
      fun record done => sent (emitted record done), single, stored, highest, acked,
      fun record later => sent (writing record later),
      fun stream member record coming => sent (served.known stream member record coming),
      served.acked, served.before, served.since⟩
  | flush =>
    exact ⟨recorded.respool (Air.Evidence.accepted_flush _) rfl rfl, emitted, single, stored, highest,
      acked, writing, served⟩
  | queue => exact ⟨recorded, emitted, single, stored, highest, acked, writing, served⟩
  | connect => exact ⟨recorded, emitted, single, stored, highest, acked, nofun, served.open⟩
  | fail | join => exact ⟨recorded, emitted, single, stored, highest, acked, nofun, served⟩
  | replay =>
    exact ⟨recorded, emitted, single, stored, highest, acked, once.replayFrom s.lastAcked, served⟩
  | take =>
    exact ⟨recorded, emitted, single, stored, highest, acked, fun record queued =>
      List.mem_of_mem_take (List.mem_of_mem_drop queued), served⟩
  | write here first => exact once.write here first
  | readAck write here answered => exact once.readAck here answered write
  | cut index keep keepAcks found =>
    exact ⟨recorded, emitted, single, stored, highest, acked, writing,
      once.shrink _ found rfl (List.take_prefix _ _) (List.take_subset _ _)⟩
  | handle index found coming => exact once.handle allowed.2 found coming
  | restartCore => exact ⟨recorded, emitted, single, stored, highest, acked, writing, served.restart⟩

theorem recorded_start (channelId playoutSessionId : Text) :
    Recorded (Link.start channelId playoutSessionId).session :=
  ⟨rfl, rfl, rfl, rfl, rfl, List.nodup_nil, nofun, nofun⟩

instance (streams : List EvidenceStream) (index : ℕ) : Decidable (Latest streams index) :=
  inferInstanceAs (Decidable (∀ newer ∈ streams.take index, newer.handler = none))

instance (s : Link) : ∀ action, Decidable (s.Fresh action)
  | .emit _ _ _ => inferInstanceAs (Decidable ((_ ∧ _) ∧ _ = _))
  | .flush | .queue | .connect | .replay | .write | .take | .fail | .join | .readAck _ | .cut _ _ _
  | .handle _ | .restartCore => inferInstanceAs (Decidable True)

instance (s : Link) : ∀ action, Decidable (s.InTurn action)
  | .handle _ => inferInstanceAs (Decidable (Latest _ _))
  | .emit _ _ _ | .flush | .queue | .connect | .replay | .write | .take | .fail | .join | .readAck _
  | .cut _ _ _ | .restartCore => inferInstanceAs (Decidable True)

/-- A block start that is emitted. -/
def opening (swapTick : UInt64) (eventUuid : Char) : LinkAction :=
  .emit (.blockStart { block_id := ['b'], swap_tick := swapTick }) [eventUuid] ['t']

/-- A stream is opened, answered, and replayed to. -/
def connecting : List LinkAction := [.connect, .handle 0, .readAck .saved, .replay]

/-- A record that was processed before the stream was cut, and is replayed. -/
def repeatedRun : List LinkAction :=
  [opening 1 'u', .queue, .flush] ++ connecting ++ [.write, .handle 0, .cut 0 0 0, .fail, .join] ++
    connecting ++ [.write, .handle 0, .take, .write, .handle 0, .readAck .saved, .readAck .saved]

end Once

end Retrovue.Core.AsRun
