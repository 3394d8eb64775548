/-
**Segments of an HLS stream** (`streaming/hls_writer.py`).

* `Recording`: a segmenter with the packets of its open segment and of every segment closed since it
  was started; `Recording.Sound`: they are its contents;
* `feedAll_packets`: whatever the chunks, the packets are those of the whole stream;
* `feedAll_conserves`: the closed segments and the open buffer are the stream's packets, and the
  stored segments are the last of the closed ones;
* `PcrDriven`, `feedAll_closed_congr`: with PCR-driven timing the segments depend on the stream
  alone;
* `Numbering`, `discarded`, `wellNumbered_iff`: the playlist is numbered right exactly when no stop
  discarded a stored segment;
* `segmentation_iff`: all of it together.
-/

import Mathlib
import Retrovue.Core.Streams.HlsSegmenter
import Retrovue.Foundation.TextSearch

namespace Retrovue.Core.Streams

open Retrovue.Foundation.Resync Retrovue.Foundation.TextSearch
open Retrovue.Core.Schedule (roundHalfEven le_roundHalfEven roundHalfEven_intCast)
open HLSSegmenter

/-! ### A recording -/

section Recordings

/-- A packet, with the last PCR before it. -/
structure TimedPacket where
  packet : Packet
  before : Option ℚ

/-- A segmenter, the packets of its open segment, and the segments closed since it was started with
their packets. -/
structure Recording where
  segmenter : HLSSegmenter
  openPackets : List TimedPacket
  closed : List (HLSSegment × List TimedPacket)

/-- All packets, in order. -/
def Recording.packets (r : Recording) : List Packet :=
  (r.closed.flatMap Prod.snd ++ r.openPackets).map TimedPacket.packet

/-- A segmenter that has just been started. -/
def started (clock : ℕ → ℚ) (targetDuration : ℚ) (maxSegments : ℕ) : Recording :=
  ⟨(fresh targetDuration maxSegments).start clock, [], []⟩

variable (clock : ℕ → ℚ)

/-- A packet is fed and recorded. -/
def Recording.feedPacket (r : Recording) (packet : Packet) : Recording where
  segmenter := r.segmenter.feedPacket clock packet
  openPackets :=
    if r.segmenter.splits clock packet then [⟨packet, r.segmenter.lastPcr⟩]
    else r.openPackets ++ [⟨packet, r.segmenter.lastPcr⟩]
  closed :=
    if r.segmenter.splits clock packet then
      r.closed ++ [(r.segmenter.closedBy clock packet, r.openPackets)]
    else r.closed

/-- A chunk is fed and recorded. -/
def Recording.feed (r : Recording) (data : List UInt8) : Recording :=
  let recorded :=
    (scan isSync tsPacketSize (r.segmenter.leftover ++ data)).1.foldl (feedPacket clock) r
  { recorded with
    segmenter :=
      { recorded.segmenter with
        leftover := (scan isSync tsPacketSize (r.segmenter.leftover ++ data)).2 } }

/-- Chunks are fed one after the other. -/
def Recording.feedAll (r : Recording) (chunks : List (List UInt8)) : Recording :=
  chunks.foldl (Recording.feed clock) r

/-- The recorded packets are the contents of the segments, and the stored segments are the last of the
closed ones. -/
structure Recording.Sound (r : Recording) : Prop where
  openData : r.segmenter.segBuffer = r.openPackets.flatMap TimedPacket.packet
  closedData : ∀ c ∈ r.closed, c.1.data = c.2.flatMap TimedPacket.packet
  stored : r.segmenter.segments =
    (r.closed.map Prod.fst).drop (r.closed.length - r.segmenter.maxSegments)

theorem started_sound (targetDuration : ℚ) (maxSegments : ℕ) :
    (started clock targetDuration maxSegments).Sound where
  openData := rfl
  closedData := by
    intro c member
    cases member
  stored := (List.drop_nil).symm

/-- A bounded deque holds the last of what was appended to it. -/
theorem appendBounded_drop (maxlen : ℕ) (all : List HLSSegment) (segment : HLSSegment) :
    appendBounded maxlen (all.drop (all.length - maxlen)) segment =
      (all ++ [segment]).drop (all.length + 1 - maxlen) := by
  rw [appendBounded, List.length_drop]
  by_cases full : maxlen < all.length
  · rw [← List.drop_append_of_le_length (by omega), List.drop_drop]
    congr 1
    omega
  · rw [show all.length - maxlen = 0 by omega, List.drop_zero, Nat.sub_zero]

variable {r : Recording}

/-- A packet that is fed is recorded as the last one. -/
theorem packets_feedPacket (packet : Packet) :
    (r.feedPacket clock packet).packets = r.packets ++ [packet] := by
  unfold Recording.packets Recording.feedPacket
  by_cases splits : r.segmenter.splits clock packet = true
  · simp [splits]
  · simp [splits]

/-- Every packet keeps the recording sound. -/
theorem Recording.Sound.feedPacket (sound : r.Sound) (packet : Packet) :
    (r.feedPacket clock packet).Sound := by
  have settings := (feedPacket_settings clock r.segmenter packet).1
  unfold Recording.feedPacket
  by_cases splits : r.segmenter.splits clock packet = true
  · obtain ⟨buffer, segments, -, -⟩ := feedPacket_split clock r.segmenter packet splits
    simp only [if_pos splits]
    refine ⟨?_, ?_, ?_⟩
    · rw [buffer]
      simp
    · intro c member
      rcases List.mem_append.mp member with earlier | here
      · exact sound.closedData c earlier
      · cases List.mem_singleton.mp here
        rw [closedBy_data, sound.openData]
    · have size : (r.closed.map Prod.fst).length = r.closed.length := List.length_map _
      rw [segments, settings, sound.stored, List.map_append, List.length_append, ← size,
        appendBounded_drop]
      rfl
  · obtain ⟨buffer, segments, -, -⟩ := feedPacket_keep clock r.segmenter packet splits
    simp only [if_neg splits]
    refine ⟨?_, sound.closedData, ?_⟩
    · rw [buffer, sound.openData, List.flatMap_append]
      simp
    · rw [segments, settings]
      exact sound.stored

/-- Some packets are recorded in order, and keep the recording sound. -/
theorem foldl_feedPacket (sound : r.Sound) (packets : List Packet) :
    (packets.foldl (Recording.feedPacket clock) r).Sound ∧
      (packets.foldl (Recording.feedPacket clock) r).packets = r.packets ++ packets := by
  induction packets generalizing r with
  | nil => exact ⟨sound, (List.append_nil _).symm⟩
  | cons packet rest ih =>
    obtain ⟨kept, recorded⟩ := ih (sound.feedPacket clock packet)
    refine ⟨kept, ?_⟩
    rw [List.foldl_cons, recorded, packets_feedPacket, List.append_assoc, List.singleton_append]

end Recordings

/-! ### The stream is conserved -/

section Conservation

variable (clock : ℕ → ℚ) {r : Recording}

/-- The recorded segmenter is fed the packets. -/
theorem foldl_segmenter (packets : List Packet) :
    (packets.foldl (Recording.feedPacket clock) r).segmenter =
      packets.foldl (HLSSegmenter.feedPacket clock) r.segmenter := by
  induction packets generalizing r with
  | nil => rfl
  | cons packet rest ih => exact ih

/-- A chunk keeps the recording sound. -/
theorem Recording.Sound.feed (sound : r.Sound) (data : List UInt8) : (r.feed clock data).Sound := by
  obtain ⟨kept, -⟩ := foldl_feedPacket clock sound
    (scan isSync tsPacketSize (r.segmenter.leftover ++ data)).1
  exact ⟨kept.openData, kept.closedData, kept.stored⟩

/-- **Whatever the chunks, the packets are those of the whole stream.** -/
theorem feedAll_packets (sound : r.Sound) (chunks : List (List UInt8)) :
    (r.feedAll clock chunks).Sound ∧
      (r.feedAll clock chunks).packets =
        r.packets ++ (scanChunks isSync tsPacketSize r.segmenter.leftover chunks).1 := by
  induction chunks generalizing r with
  | nil => exact ⟨sound, (List.append_nil _).symm⟩
  | cons chunk rest ih =>
    obtain ⟨-, recorded⟩ := foldl_feedPacket clock sound
      (scan isSync tsPacketSize (r.segmenter.leftover ++ chunk)).1
    obtain ⟨kept, later⟩ := ih (sound.feed clock chunk)
    refine ⟨kept, ?_⟩
    show ((r.feed clock chunk).feedAll clock rest).packets = _
    rw [later, scanChunks, ← List.append_assoc]
    congr 1

/-- The packets of a started segmenter. -/
theorem packets_started (targetDuration : ℚ) (maxSegments : ℕ) (chunks : List (List UInt8)) :
    ((started clock targetDuration maxSegments).feedAll clock chunks).packets =
      frames isSync tsPacketSize chunks.flatten := by
  rw [(feedAll_packets clock (started_sound clock targetDuration maxSegments) chunks).2,
    ← scanChunks_frames]
  rfl

/-- The closed segments and the open buffer are the packets of the stream, in order, and the stored
segments are the last of the closed ones. -/
structure Conserved (r : Recording) (stream : List UInt8) : Prop where
  data : r.closed.flatMap (fun c => c.1.data) ++ r.segmenter.segBuffer =
    (frames isSync tsPacketSize stream).flatten
  stored : r.segmenter.segments <:+ r.closed.map Prod.fst

/-- The bytes of the closed segments and of the open buffer are those of the packets. -/
theorem Recording.Sound.data (sound : r.Sound) :
    r.closed.flatMap (fun c => c.1.data) ++ r.segmenter.segBuffer = r.packets.flatten := by
  have closedBytes : r.closed.flatMap (fun c => c.1.data) =
      r.closed.flatMap fun c => c.2.flatMap TimedPacket.packet := List.flatMap_congr sound.closedData
  rw [closedBytes, sound.openData, Recording.packets, ← List.flatMap_def, List.flatMap_append,
    List.flatMap_assoc]

/-- **The stream is conserved**, however it is cut. -/
theorem feedAll_conserves (targetDuration : ℚ) (maxSegments : ℕ) (chunks : List (List UInt8)) :
    Conserved ((started clock targetDuration maxSegments).feedAll clock chunks) chunks.flatten := by
  obtain ⟨sound, -⟩ := feedAll_packets clock (started_sound clock targetDuration maxSegments) chunks
  refine ⟨?_, ?_⟩
  · rw [sound.data, packets_started]
  · rw [sound.stored]
    exact List.drop_suffix _ _

end Conservation

/-! ### Timing by PCR -/

section Timing

/-- The same segmenter at another time, with other bytes left over. -/
def retimed (s : HLSSegmenter) (time : Option ℚ) (reads : ℕ) (left : List UInt8) : HLSSegmenter :=
  { s with
    segStartTime := time
    clockReads := reads
    leftover := left }

theorem notePcr_retimed (s : HLSSegmenter) (time : Option ℚ) (reads : ℕ) (left : List UInt8)
    (packet : Packet) :
    (retimed s time reads left).notePcr packet = retimed (s.notePcr packet) time reads left := by
  unfold notePcr
  cases extractPcr packet with
  | none => rfl
  | some pcr => rfl

/-- Jumps are detected whatever the time. -/
theorem detects_retimed (s : HLSSegmenter) (time : Option ℚ) (reads : ℕ) (left : List UInt8)
    (packet : Packet) : (retimed s time reads left).Detects packet ↔ s.Detects packet := by
  unfold Detects
  rw [notePcr_retimed]
  exact Iff.rfl

/-- A duration by PCR stays in range whatever the time. -/
theorem inRange_retimed {s : HLSSegmenter} {packet : Packet} (time : Option ℚ) (reads : ℕ)
    (left : List UInt8) {dur : ℚ} (lasts : (s.notePcr packet).pcrDuration = some dur)
    (inRange : ¬ (s.notePcr packet).OutOfRange dur) :
    ((retimed s time reads left).notePcr packet).pcrDuration = some dur ∧
      ¬ ((retimed s time reads left).notePcr packet).OutOfRange dur := by
  rw [notePcr_retimed]
  exact ⟨lasts, inRange⟩

variable (clock clock' : ℕ → ℚ)

/-- The wall clock changes the time alone. -/
theorem wallClockDuration_retimed (s : HLSSegmenter) :
    ∃ reads, (s.wallClockDuration clock).2 = retimed s s.segStartTime reads s.leftover := by
  unfold wallClockDuration
  cases start : s.segStartTime with
  | none =>
    refine ⟨s.clockReads, ?_⟩
    show s = retimed s none s.clockReads s.leftover
    rw [← start]
    rfl
  | some time => exact ⟨s.clockReads + 1, rfl⟩

/-- Estimating at another time gives the same state at another time. -/
theorem estimate_retimed (s : HLSSegmenter) (time : Option ℚ) (reads : ℕ) (left : List UInt8)
    (packet : Packet) :
    ∃ time' reads', ((retimed s time reads left).estimate clock' packet).2 =
      retimed (s.estimate clock packet).2 time' reads' left := by
  have noted := notePcr_retimed s time reads left packet
  rcases estimate_cases s packet with detects | ⟨-, dur, lasts, inRange⟩ | ⟨-, unknown⟩
  · rw [estimate_detects clock' _ packet ((detects_retimed s time reads left packet).mpr detects),
      estimate_detects clock s packet detects, noted]
    obtain ⟨here, read⟩ := wallClockDuration_retimed clock
      { s.notePcr packet with
        segStartPcr := (s.notePcr packet).lastPcr
        pendingDiscontinuity := true }
    obtain ⟨there, read'⟩ := wallClockDuration_retimed clock'
      { retimed (s.notePcr packet) time reads left with
        segStartPcr := (retimed (s.notePcr packet) time reads left).lastPcr
        pendingDiscontinuity := true }
    refine ⟨time, there, ?_⟩
    rw [read, read']
    rfl
  · obtain ⟨lasts', inRange'⟩ := inRange_retimed time reads left lasts inRange
    rw [estimate_inRange clock' _ packet lasts' inRange',
      estimate_inRange clock s packet lasts inRange, noted]
    exact ⟨time, reads, rfl⟩
  · have unknown' : ((retimed s time reads left).notePcr packet).pcrDuration = none := by
      rw [noted]
      exact unknown
    rw [estimate_unknown clock' _ packet unknown', estimate_unknown clock s packet unknown, noted]
    obtain ⟨here, read⟩ := wallClockDuration_retimed clock (s.notePcr packet)
    obtain ⟨there, read'⟩ :=
      wallClockDuration_retimed clock' (retimed (s.notePcr packet) time reads left)
    refine ⟨time, there, ?_⟩
    rw [read, read']
    rfl

/-- Where a segment could be closed, its duration is known by PCR. -/
def PcrTimed (s : HLSSegmenter) (packet : Packet) : Prop :=
  isKeyframePacket packet = true → s.segBuffer ≠ [] →
    ∃ dur, (s.notePcr packet).pcrDuration = some dur ∧ ¬ (s.notePcr packet).OutOfRange dur

/-- At every packet where a segment could be closed, its duration is known by PCR. -/
def PcrDriven (s : HLSSegmenter) : List Packet → Prop
  | [] => True
  | packet :: rest => PcrTimed s packet ∧ PcrDriven (s.feedPacket clock packet) rest

theorem pcrDriven_append {s : HLSSegmenter} {first second : List Packet}
    (driven : PcrDriven clock s (first ++ second)) :
    PcrDriven clock s first ∧ PcrDriven clock (first.foldl (HLSSegmenter.feedPacket clock) s) second := by
  induction first generalizing s with
  | nil => exact ⟨trivial, driven⟩
  | cons packet rest ih =>
    obtain ⟨timed, later⟩ := driven
    obtain ⟨here, there⟩ := ih later
    exact ⟨⟨timed, here⟩, there⟩

variable {s : HLSSegmenter} {packet : Packet} (time : Option ℚ) (reads : ℕ) (left : List UInt8)

/-- With PCR timing, a packet closes the same segment whatever the time. -/
theorem splits_retimed (timed : PcrTimed s packet) :
    (retimed s time reads left).splits clock' packet = s.splits clock packet ∧
      (s.splits clock packet = true →
        (retimed s time reads left).closedBy clock' packet = s.closedBy clock packet) := by
  by_cases candidate : isKeyframePacket packet = true ∧ s.segBuffer ≠ []
  · obtain ⟨dur, lasts, inRange⟩ := timed candidate.1 candidate.2
    obtain ⟨lasts', inRange'⟩ := inRange_retimed time reads left lasts inRange
    unfold splits closedBy
    rw [estimate_inRange clock' _ packet lasts' inRange',
      estimate_inRange clock s packet lasts inRange, notePcr_retimed]
    exact ⟨rfl, fun _ => rfl⟩
  · have never : ∀ (other : HLSSegmenter) (clock : ℕ → ℚ), other.segBuffer = s.segBuffer →
        ¬ other.splits clock packet = true := by
      intro other clock same splits
      obtain ⟨-, key, some_⟩ := (splits_iff clock other packet).mp splits
      rw [same] at some_
      exact candidate ⟨key, some_⟩
    have here := never s clock rfl
    have there := never (retimed s time reads left) clock' rfl
    rw [Bool.not_eq_true] at here there
    rw [here, there]
    exact ⟨rfl, fun splits => absurd splits (by decide)⟩

/-- With PCR timing, a packet leads to the same state at another time. -/
theorem feedPacket_retimed (timed : PcrTimed s packet) :
    ∃ time' reads', (retimed s time reads left).feedPacket clock' packet =
      retimed (s.feedPacket clock packet) time' reads' left := by
  obtain ⟨same, -⟩ := splits_retimed clock clock' time reads left timed
  by_cases splits : s.splits clock packet = true
  · have splits' := same.trans splits
    obtain ⟨-, key, some_⟩ := (splits_iff clock s packet).mp splits
    obtain ⟨dur, lasts, inRange⟩ := timed key some_
    obtain ⟨lasts', inRange'⟩ := inRange_retimed time reads left lasts inRange
    rw [HLSSegmenter.feedPacket, if_pos splits', HLSSegmenter.feedPacket, if_pos splits,
      estimate_inRange clock' _ packet lasts' inRange',
      estimate_inRange clock s packet lasts inRange, notePcr_retimed]
    exact ⟨_, _, rfl⟩
  · have keeps' : ¬ (retimed s time reads left).splits clock' packet = true := by
      rw [same]
      exact splits
    obtain ⟨time', reads', estimated⟩ := estimate_retimed clock clock' s time reads left packet
    rw [HLSSegmenter.feedPacket, if_neg keeps', HLSSegmenter.feedPacket, if_neg splits, estimated]
    exact ⟨time', reads', rfl⟩

/-- Recordings that agree but for the time and what was left over. -/
def SameSegments (r other : Recording) : Prop :=
  (∃ time reads left, other.segmenter = retimed r.segmenter time reads left) ∧
    other.openPackets = r.openPackets ∧ other.closed = r.closed

variable {r other : Recording}

/-- With PCR timing, a packet keeps recordings in agreement. -/
theorem SameSegments.feedPacket (same : SameSegments r other) (timed : PcrTimed r.segmenter packet) :
    SameSegments (r.feedPacket clock packet) (other.feedPacket clock' packet) := by
  obtain ⟨⟨time, reads, left, state⟩, opened, closed⟩ := same
  obtain ⟨splits, segment⟩ := splits_retimed clock clock' time reads left timed
  obtain ⟨time', reads', next⟩ := feedPacket_retimed clock clock' time reads left timed
  have lastPcr : other.segmenter.lastPcr = r.segmenter.lastPcr := by
    rw [state]
    rfl
  refine ⟨⟨time', reads', left, ?_⟩, ?_, ?_⟩
  · show other.segmenter.feedPacket clock' packet = _
    rw [state, next]
    rfl
  · unfold Recording.feedPacket
    dsimp only
    rw [lastPcr, opened, state, splits]
  · unfold Recording.feedPacket
    dsimp only
    rw [opened, closed, state, splits]
    by_cases here : r.segmenter.splits clock packet = true
    · rw [if_pos here, if_pos here, segment here]
    · rw [if_neg here, if_neg here]

/-- With PCR-driven timing, some packets keep recordings in agreement. -/
theorem SameSegments.foldl (packets : List Packet) (same : SameSegments r other)
    (driven : PcrDriven clock r.segmenter packets) :
    SameSegments (packets.foldl (Recording.feedPacket clock) r)
      (packets.foldl (Recording.feedPacket clock') other) := by
  induction packets generalizing r other with
  | nil => exact same
  | cons packet rest ih => exact ih (same.feedPacket clock clock' driven.1) driven.2

/-- **With PCR-driven timing the segments depend on the stream alone**: chunks by another clock lead to
the same segments as their packets one by one. -/
theorem SameSegments.feedAll (chunks : List (List UInt8)) (same : SameSegments r other)
    (driven : PcrDriven clock r.segmenter
      (scanChunks isSync tsPacketSize other.segmenter.leftover chunks).1) :
    SameSegments ((scanChunks isSync tsPacketSize other.segmenter.leftover chunks).1.foldl
        (Recording.feedPacket clock) r)
      (other.feedAll clock' chunks) := by
  induction chunks generalizing r other with
  | nil => exact same
  | cons chunk rest ih =>
    obtain ⟨here, later⟩ := pcrDriven_append clock driven
    rw [scanChunks, List.foldl_append]
    obtain ⟨⟨time, reads, left, state⟩, opened, closed⟩ := same.foldl clock clock' _ here
    rw [← foldl_segmenter] at later
    have fed : SameSegments
        ((scan isSync tsPacketSize (other.segmenter.leftover ++ chunk)).1.foldl
          (Recording.feedPacket clock) r) (other.feed clock' chunk) := by
      refine ⟨⟨time, reads, (scan isSync tsPacketSize (other.segmenter.leftover ++ chunk)).2, ?_⟩,
        opened, closed⟩
      unfold Recording.feed
      dsimp only
      rw [state]
      rfl
    exact ih fed later

/-- Two ways of feeding the same stream close the same segments. -/
theorem feedAll_closed_congr (targetDuration : ℚ) (maxSegments : ℕ)
    {chunks chunks' : List (List UInt8)} (stream : chunks'.flatten = chunks.flatten)
    (driven : PcrDriven clock (started clock targetDuration maxSegments).segmenter
      (frames isSync tsPacketSize chunks.flatten)) :
    ((started clock' targetDuration maxSegments).feedAll clock' chunks').closed =
      ((started clock targetDuration maxSegments).feedAll clock chunks).closed := by
  have agrees : ∀ (clock'' : ℕ → ℚ) (others : List (List UInt8)),
      others.flatten = chunks.flatten →
        SameSegments ((frames isSync tsPacketSize chunks.flatten).foldl (Recording.feedPacket clock)
            (started clock targetDuration maxSegments))
          ((started clock'' targetDuration maxSegments).feedAll clock'' others) := by
    intro clock'' others same
    rw [← same, ← scanChunks_frames] at driven ⊢
    have start : SameSegments (started clock targetDuration maxSegments)
        (started clock'' targetDuration maxSegments) :=
      ⟨⟨some (clock'' 0), 1, [], rfl⟩, rfl, rfl⟩
    exact start.feedAll clock clock'' others driven
  rw [(agrees clock' chunks' stream).2.2, (agrees clock chunks rfl).2.2]

end Timing

/-! ### Numbering -/

section Numbers

/-- A segment's name shows its number. -/
theorem segName_injective : Function.Injective segName := by
  intro i j same
  unfold segName at same
  rw [List.append_left_inj, List.append_assoc, List.append_assoc, List.append_right_inj] at same
  rw [← ofDigitChars_zeros (5 - (Nat.toDigits 10 i).length) i, same, ofDigitChars_zeros]

/-- What is called on a segmenter. -/
inductive HlsCall where
  | start
  | feed (data : List UInt8)
  | stop

variable (clock : ℕ → ℚ)

/-- A call. -/
def HLSSegmenter.call (s : HLSSegmenter) : HlsCall → HLSSegmenter
  | .start => s.start clock
  | .feed data => s.feed clock data
  | .stop => s.stop

/-- The segments that the stops of some calls discarded. -/
def discarded : HLSSegmenter → List HlsCall → ℕ
  | _, [] => 0
  | s, .stop :: rest => s.segments.length + discarded (s.call clock .stop) rest
  | s, call :: rest => discarded (s.call clock call) rest

/-- The segment names of a playlist. -/
def uris (lines : List PlaylistLine) : List (List Char) :=
  lines.filterMap fun line => match line with
    | .uri name => some name
    | _ => none

/-- MEDIA-SEQUENCE is the number of the first listed segment, the listed names are consecutive, and
no duration exceeds TARGETDURATION. -/
def WellNumbered (lines : List PlaylistLine) : Prop :=
  ∃ number seconds, PlaylistLine.mediaSequence number ∈ lines ∧
    PlaylistLine.targetDuration seconds ∈ lines ∧
    uris lines = (List.range (uris lines).length).map (fun i => segName (number + i)) ∧
    ∀ thousandths, PlaylistLine.extinf thousandths ∈ lines → thousandths ≤ 1000 * seconds

/-- The counters of a segmenter of which `lost` segments were discarded by stops. -/
structure Numbering (s : HLSSegmenter) (lost : ℕ) : Prop where
  counted : s.segIndex = s.mediaSequence + lost + s.segments.length
  names : s.segments.map HLSSegment.name =
    (List.range s.segments.length).map fun i => segName (s.mediaSequence + lost + i)
  bounded : s.segments.length ≤ s.maxSegments

variable {s : HLSSegmenter} {lost : ℕ}

/-- A segment that is closed gets the next number. -/
theorem Numbering.feedPacket (numbered : Numbering s lost) (packet : Packet) :
    Numbering (s.feedPacket clock packet) lost := by
  have settings := (feedPacket_settings clock s packet).1
  by_cases splits : s.splits clock packet = true
  · obtain ⟨-, segments, index, media⟩ := feedPacket_split clock s packet splits
    have counted := numbered.counted
    have appended : (s.segments ++ [s.closedBy clock packet]).map HLSSegment.name =
        (List.range (s.segments.length + 1)).map fun i => segName (s.mediaSequence + lost + i) := by
      rw [List.map_append, numbered.names, List.range_succ, List.map_append, List.map_singleton,
        List.map_singleton, closedBy_name, counted]
    by_cases full : s.segments.length = s.maxSegments
    · -- the oldest segment goes, and the first number moves on
      have oldest : (s.feedPacket clock packet).segments =
          (s.segments ++ [s.closedBy clock packet]).drop 1 := by
        rw [segments, appendBounded, ← full]
        congr 1
        omega
      have size : (s.feedPacket clock packet).segments.length = s.segments.length := by
        rw [oldest, List.length_drop, List.length_append, List.length_singleton]
        omega
      rw [if_pos full] at media
      refine ⟨?_, ?_, ?_⟩
      · rw [index, media, size, counted]
        omega
      · rw [size, media, oldest, List.map_drop, appended, List.range_succ_eq_map, List.map_cons,
          List.drop_one, List.tail_cons, List.map_map]
        apply List.map_congr_left
        intro i _
        rw [Function.comp_apply]
        congr 1
        omega
      · rw [size, settings]
        exact numbered.bounded
    · have room : s.segments.length < s.maxSegments := lt_of_le_of_ne numbered.bounded full
      have kept : (s.feedPacket clock packet).segments =
          s.segments ++ [s.closedBy clock packet] := by
        rw [segments, appendBounded, show s.segments.length + 1 - s.maxSegments = 0 by omega,
          List.drop_zero]
      have size : (s.feedPacket clock packet).segments.length = s.segments.length + 1 := by
        rw [kept, List.length_append, List.length_singleton]
      rw [if_neg full] at media
      refine ⟨?_, ?_, ?_⟩
      · rw [index, media, size, counted]
        omega
      · rw [size, media, kept, appended]
      · rw [size, settings]
        exact room
  · obtain ⟨-, segments, index, media⟩ := feedPacket_keep clock s packet splits
    refine ⟨?_, ?_, ?_⟩
    · rw [index, media, segments, numbered.counted]
    · rw [media, segments, numbered.names]
    · rw [segments, settings]
      exact numbered.bounded

/-- A chunk keeps the numbers. -/
theorem Numbering.feed (numbered : Numbering s lost) (data : List UInt8) :
    Numbering (s.feed clock data) lost := by
  have fed : ∀ (packets : List Packet) {s : HLSSegmenter}, Numbering s lost →
      Numbering (packets.foldl (HLSSegmenter.feedPacket clock) s) lost := by
    intro packets
    induction packets with
    | nil => exact fun numbered => numbered
    | cons packet rest ih => exact fun numbered => ih (numbered.feedPacket clock packet)
  unfold HLSSegmenter.feed
  by_cases running : s.running = true
  · rw [if_pos running]
    have kept := fed (scan isSync tsPacketSize (s.leftover ++ data)).1 numbered
    exact ⟨kept.counted, kept.names, kept.bounded⟩
  · rw [if_neg running]
    exact numbered

/-- **The numbers over any calls**: they are off by the segments that stops discarded. -/
theorem Numbering.calls (numbered : Numbering s lost) (calls : List HlsCall) :
    Numbering (calls.foldl (HLSSegmenter.call clock) s) (lost + discarded clock s calls) := by
  induction calls generalizing s lost with
  | nil => exact numbered
  | cons call rest ih =>
    cases call with
    | start =>
      refine ih (s := s.start clock) ?_
      unfold HLSSegmenter.start
      by_cases running : s.running = true
      · rw [if_pos running]
        exact numbered
      · rw [if_neg running]
        exact ⟨numbered.counted, numbered.names, numbered.bounded⟩
    | feed data => exact ih (numbered.feed clock data)
    | stop =>
      rw [discarded, ← Nat.add_assoc]
      refine ih (s := s.stop) ⟨?_, rfl, Nat.zero_le _⟩
      show s.segIndex = s.mediaSequence + (lost + s.segments.length) + 0
      rw [numbered.counted]
      omega

/-- A fresh segmenter has lost nothing. -/
theorem fresh_numbering (targetDuration : ℚ) (maxSegments : ℕ) :
    Numbering (fresh targetDuration maxSegments) 0 where
  counted := rfl
  names := rfl
  bounded := Nat.zero_le _

end Numbers

/-! ### The playlist -/

section Playlists

variable {s : HLSSegmenter} {lost : ℕ}

theorem uris_append (first second : List PlaylistLine) :
    uris (first ++ second) = uris first ++ uris second := List.filterMap_append

theorem uris_segmentLines (segment : HLSSegment) : uris (segmentLines segment) = [segment.name] := by
  unfold segmentLines
  by_cases jumps : segment.discontinuity = true
  · rw [if_pos jumps]
    rfl
  · rw [if_neg jumps]
    rfl

/-- A playlist names its segments. -/
theorem uris_generatePlaylist (maxDur : ℚ) :
    uris (s.generatePlaylist maxDur) = s.segments.map HLSSegment.name := by
  have listed : ∀ segments : List HLSSegment,
      uris (segments.flatMap segmentLines) = segments.map HLSSegment.name := by
    intro segments
    induction segments with
    | nil => rfl
    | cons segment rest ih =>
      rw [List.flatMap_cons, uris_append, uris_segmentLines, ih]
      rfl
  rw [generatePlaylist, uris_append, listed]
  rfl

/-- The lines of a segment are no header. -/
theorem mem_segmentLines {line : PlaylistLine} {segment : HLSSegment}
    (member : line ∈ segmentLines segment) :
    line = .discontinuity ∨ line = .extinf (roundHalfEven (segment.duration * 1000)) ∨
      line = .uri segment.name := by
  unfold segmentLines at member
  by_cases jumps : segment.discontinuity = true
  · rw [if_pos jumps] at member
    simpa using member
  · rw [if_neg jumps] at member
    simp only [List.nil_append, List.mem_cons, List.not_mem_nil, or_false] at member
    exact .inr member

/-- A line of a playlist is a header or belongs to a segment. -/
theorem mem_generatePlaylist {line : PlaylistLine} {maxDur : ℚ} :
    line ∈ s.generatePlaylist maxDur ↔
      line ∈ [.extm3u, .version 3, .targetDuration (truncate maxDur + 1),
        .mediaSequence s.mediaSequence] ∨ ∃ segment ∈ s.segments, line ∈ segmentLines segment := by
  rw [generatePlaylist, List.mem_append, List.mem_flatMap]

theorem mediaSequence_mem {number : ℕ} {maxDur : ℚ} :
    PlaylistLine.mediaSequence number ∈ s.generatePlaylist maxDur ↔ number = s.mediaSequence := by
  rw [mem_generatePlaylist]
  constructor
  · rintro (header | ⟨segment, -, line⟩)
    · simpa using header
    · rcases mem_segmentLines line with other | other | other
      · cases other
      · cases other
      · cases other
  · rintro rfl
    exact .inl (by simp)

/-- An EXTINF is the duration of a listed segment. -/
theorem extinf_mem {thousandths : Int} {maxDur : ℚ}
    (member : PlaylistLine.extinf thousandths ∈ s.generatePlaylist maxDur) :
    ∃ segment ∈ s.segments, thousandths = roundHalfEven (segment.duration * 1000) := by
  rcases mem_generatePlaylist.mp member with header | ⟨segment, listed, line⟩
  · simp at header
  · refine ⟨segment, listed, ?_⟩
    rcases mem_segmentLines line with other | other | other
    · cases other
    · exact PlaylistLine.extinf.inj other
    · cases other

/-- TARGETDURATION is at least the duration. -/
theorem le_truncate (x : ℚ) : x ≤ truncate x + 1 := by
  unfold truncate
  by_cases positive : 0 ≤ x
  · rw [if_pos positive]
    exact (Int.lt_floor_add_one x).le
  · rw [if_neg positive]
    exact (Int.le_ceil x).trans (by linarith)

/-- What is at most a whole number is not rounded above it. -/
theorem roundHalfEven_le {q : ℚ} {n : Int} (below : q ≤ n) : roundHalfEven q ≤ n := by
  have floored : (q.floor : ℚ) ≤ q := Rat.floor_le q
  have reaches : q.floor ≤ n := by exact_mod_cast floored.trans below
  unfold roundHalfEven
  dsimp only
  split
  · exact reaches
  · rename_i half
    -- a value above its floor is below the whole number
    have strict : q.floor < n := by
      by_contra least
      have equal : q.floor = n := le_antisymm reaches (not_lt.mp least)
      rw [equal] at half floored
      linarith
    split
    · omega
    · split <;> omega

/-- **No EXTINF exceeds TARGETDURATION.** -/
theorem extinf_le {maxDur : ℚ} (longest : (s.segments.map HLSSegment.duration).max? = some maxDur)
    {thousandths : Int} (member : PlaylistLine.extinf thousandths ∈ s.generatePlaylist maxDur) :
    thousandths ≤ 1000 * (truncate maxDur + 1) := by
  obtain ⟨segment, listed, rfl⟩ := extinf_mem member
  have bounded : segment.duration ≤ maxDur :=
    (List.max?_eq_some_iff.mp longest).2 _ (List.mem_map_of_mem listed)
  have room := bounded.trans (le_truncate maxDur)
  apply roundHalfEven_le
  push_cast
  linarith

/-- **The playlist is numbered right exactly when no stop discarded a stored segment.** -/
theorem wellNumbered_iff (numbered : Numbering s lost) :
    (∀ lines, s.getPlaylist = some lines → WellNumbered lines) ↔ s.segments = [] ∨ lost = 0 := by
  constructor
  · intro right
    cases longest : (s.segments.map HLSSegment.duration).max? with
    | none => exact .inl (List.map_eq_nil_iff.mp (List.max?_eq_none_iff.mp longest))
    | some maxDur =>
      right
      obtain ⟨number, seconds, media, -, names, -⟩ :=
        right (s.generatePlaylist maxDur) (by rw [getPlaylist, longest]; rfl)
      cases mediaSequence_mem.mp media
      rw [uris_generatePlaylist, numbered.names, List.length_map, List.length_range] at names
      cases listed : s.segments with
      | nil =>
        rw [listed] at longest
        cases longest
      | cons first rest =>
        rw [listed, List.length_cons, List.range_succ_eq_map, List.map_cons, List.map_cons] at names
        have same := segName_injective (List.cons.inj names).1
        omega
  · intro kept lines shown
    unfold getPlaylist at shown
    cases longest : (s.segments.map HLSSegment.duration).max? with
    | none =>
      rw [longest] at shown
      cases shown
    | some maxDur =>
      rw [longest] at shown
      cases shown
      refine ⟨s.mediaSequence, truncate maxDur + 1, mediaSequence_mem.mpr rfl,
        mem_generatePlaylist.mpr (.inl (by simp)), ?_, fun thousandths => extinf_le longest⟩
      rcases kept with none_ | rfl
      · rw [none_] at longest
        cases longest
      · rw [uris_generatePlaylist, numbered.names, List.length_map, List.length_range]
        rfl

variable (clock : ℕ → ℚ)

/-- The playlist of a segmenter after some calls. -/
def PlaylistNumbered (targetDuration : ℚ) (maxSegments : ℕ) (calls : List HlsCall) : Prop :=
  ∀ lines, (calls.foldl (HLSSegmenter.call clock) (fresh targetDuration maxSegments)).getPlaylist =
    some lines → WellNumbered lines

/-- However a stream is cut, its packets are conserved, and with PCR-driven timing it is segmented in
the same way. -/
structure Segmented (targetDuration : ℚ) (maxSegments : ℕ) (chunks : List (List UInt8)) : Prop where
  conserved : Conserved ((started clock targetDuration maxSegments).feedAll clock chunks)
    chunks.flatten
  boundaries : PcrDriven clock (started clock targetDuration maxSegments).segmenter
      (frames isSync tsPacketSize chunks.flatten) →
    ∀ (clock' : ℕ → ℚ) (chunks' : List (List UInt8)), chunks'.flatten = chunks.flatten →
      ((started clock' targetDuration maxSegments).feedAll clock' chunks').closed =
        ((started clock targetDuration maxSegments).feedAll clock chunks).closed

/-- **Segmentation** conserves the stream whatever the cutting and the clock, and its playlist is
numbered right exactly when no segment is listed or no stop has discarded one. -/
theorem segmentation_iff (targetDuration : ℚ) (maxSegments : ℕ) (chunks : List (List UInt8))
    (calls : List HlsCall) :
    (Segmented clock targetDuration maxSegments chunks ∧
        PlaylistNumbered clock targetDuration maxSegments calls) ↔
      (calls.foldl (HLSSegmenter.call clock) (fresh targetDuration maxSegments)).segments = [] ∨
        discarded clock (fresh targetDuration maxSegments) calls = 0 := by
  have numbered := (fresh_numbering targetDuration maxSegments).calls clock calls
  rw [Nat.zero_add] at numbered
  have segmented : Segmented clock targetDuration maxSegments chunks :=
    ⟨feedAll_conserves clock targetDuration maxSegments chunks,
      fun driven _ _ stream => feedAll_closed_congr clock _ targetDuration maxSegments stream driven⟩
  rw [← wellNumbered_iff numbered]
  exact ⟨fun both => both.2, fun right => ⟨segmented, right⟩⟩

/-- A keyframe packet without a PCR. -/
def keyframe : Packet := [0x47, 0, 0, 0x30, 1, 0x40] ++ List.replicate 182 0

/-- Two keyframes ten seconds apart, before and after a stop: the playlist starts at segment 1 and says
MEDIA-SEQUENCE 0. -/
theorem segmentation_after_stop :
    ¬ ∀ (clock : ℕ → ℚ) (targetDuration : ℚ) (maxSegments : ℕ) (chunks : List (List UInt8))
      (calls : List HlsCall), Segmented clock targetDuration maxSegments chunks ∧
        PlaylistNumbered clock targetDuration maxSegments calls := by
  intro always
  have right := (always (fun n => 10 * n) 6 10 []
    [.start, .feed (keyframe ++ keyframe), .stop, .start, .feed (keyframe ++ keyframe)]).2
  obtain ⟨number, seconds, media, -, names, -⟩ := right
    [.extm3u, .version 3, .targetDuration 21, .mediaSequence 0, .extinf 20000,
      .uri (segName 1)] (by decide +kernel)
  have zero : number = 0 := by simpa using media
  subst zero
  exact absurd names (by decide +kernel)

end Playlists

end Retrovue.Core.Streams
