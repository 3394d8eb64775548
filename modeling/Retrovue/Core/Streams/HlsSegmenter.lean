/-
**The HLS segmenter** (`streaming/hls_writer.py`).

* `extractPcr`, `isKeyframePacket`: what is read from a transport stream packet;
* `HLSSegmenter`: the state of a segmenter, with `start`, `feed` and `stop`; the wall clock is a
  function of the number of its readings;
* `feedPacket`: the body of the feed loop, `feedPacket_split` and `feedPacket_keep` its two outcomes;
* `getPlaylist`: the playlist by its lines;
* `estimate_store`, `estimate_of_detects`, `estimate_of_not_detects`: what estimating a duration
  leaves, and what it does to the baseline.

Times are exact rationals, not floats.
-/

import Mathlib
import Retrovue.Foundation.Resync
import Retrovue.Core.Schedule.Types

namespace Retrovue.Core.Streams

open Retrovue.Foundation.Resync
open Retrovue.Core.Schedule (roundHalfEven)

/-! ### Packets -/

section Packets

/-- A transport stream packet. -/
abbrev Packet := List UInt8

/-- `TS_PACKET_SIZE`. -/
def tsPacketSize : ℕ := 188

/-- `TS_SYNC_BYTE`, as a test. -/
def isSync (byte : UInt8) : Bool := byte == 0x47

/-- `packet[i]`. -/
def byteAt (packet : Packet) (i : ℕ) : ℕ := (packet.getD i 0).toNat

/-- `adaptation_field_control`. -/
def afc (packet : Packet) : ℕ := (byteAt packet 3 >>> 4) &&& 0x03

/-- The 33 bits that count at 90 kHz. -/
def pcrBase (packet : Packet) : ℕ :=
  (byteAt packet 6 <<< 25) ||| (byteAt packet 7 <<< 17) ||| (byteAt packet 8 <<< 9) |||
    (byteAt packet 9 <<< 1) ||| (byteAt packet 10 >>> 7)

/-- The 9 bits that count at 27 MHz. -/
def pcrExt (packet : Packet) : ℕ := ((byteAt packet 10 &&& 0x01) <<< 8) ||| byteAt packet 11

/-- `_extract_pcr`, in seconds. -/
def extractPcr (packet : Packet) : Option ℚ :=
  if packet.length < tsPacketSize then none
  else if afc packet ≠ 2 ∧ afc packet ≠ 3 then none
  else if byteAt packet 4 < 7 then none
  else if byteAt packet 5 &&& 0x10 = 0 then none
  else some (pcrBase packet / 90000 + pcrExt packet / 27000000)

/-- A start code and the unit behind it: an IDR slice or an SPS at position `i`. -/
def keyframeAt (es : List UInt8) (i : ℕ) : Bool :=
  let short := (es.drop i).take 3 == [0, 0, 1]
  let long := (es.drop i).take 4 == [0, 0, 0, 1]
  let nalOffset := if short then i + 3 else i + 4
  (short || long) && nalOffset < es.length &&
    (byteAt es nalOffset &&& 0x1F == 5 || byteAt es nalOffset &&& 0x1F == 7)

/-- The payload of a packet that starts a PES packet holds a keyframe unit in its first 32 bytes of
elementary stream. -/
def keyframePayload (payload : List UInt8) : Bool :=
  let es := payload.drop (9 + if 8 < payload.length then byteAt payload 8 else 0)
  payload.take 3 == [0, 0, 1] && (List.range (min (es.length - 4) 32)).any (keyframeAt es)

/-- `_is_keyframe_packet`. -/
def isKeyframePacket (packet : Packet) : Bool :=
  if packet.length < tsPacketSize ∨ byteAt packet 0 ≠ 0x47 then false
  else
    let hasAdaptation : Bool := afc packet == 2 || afc packet == 3
    let rai := hasAdaptation && decide (0 < byteAt packet 4) && decide (5 < packet.length) &&
      byteAt packet 5 &&& 0x40 != 0
    let offset := if hasAdaptation then 5 + byteAt packet 4 else 4
    rai ||
      (byteAt packet 1 &&& 0x40 != 0 && (afc packet == 1 || afc packet == 3) &&
        decide (offset + 10 < packet.length) && keyframePayload (packet.drop offset))

end Packets

/-! ### The segmenter -/

section Segmenter

/-- `HLSSegment`. -/
structure HLSSegment where
  name : List Char
  duration : ℚ
  data : List UInt8
  discontinuity : Bool
  deriving DecidableEq

/-- `HLSSegmenter`; `clockReads` counts its calls of `time.monotonic`. -/
structure HLSSegmenter where
  targetDuration : ℚ
  maxSegments : ℕ
  running : Bool := false
  segIndex : ℕ := 0
  segBuffer : List UInt8 := []
  segStartTime : Option ℚ := none
  segPktCount : ℕ := 0
  segments : List HLSSegment := []
  mediaSequence : ℕ := 0
  playlistReady : Bool := false
  leftover : List UInt8 := []
  lastPcr : Option ℚ := none
  segStartPcr : Option ℚ := none
  pendingDiscontinuity : Bool := false
  clockReads : ℕ := 0
  deriving DecidableEq

namespace HLSSegmenter

/-- The PCR of a packet is noted. -/
def notePcr (s : HLSSegmenter) (packet : Packet) : HLSSegmenter :=
  match extractPcr packet with
  | none => s
  | some pcr => { s with lastPcr := some pcr, segStartPcr := s.segStartPcr.or (some pcr) }

/-- The time from the start of the segment by PCR. -/
def pcrDuration (s : HLSSegmenter) : Option ℚ :=
  match s.segStartPcr, s.lastPcr with
  | some start, some last => some (last - start)
  | _, _ => none

/-- `max_plausible`. -/
def maxPlausible (s : HLSSegmenter) : ℚ := max (s.targetDuration * 10) 120

/-- A duration that is taken for a discontinuity. -/
def OutOfRange (s : HLSSegmenter) (dur : ℚ) : Prop := dur < 0 ∨ s.maxPlausible < dur

instance (s : HLSSegmenter) (dur : ℚ) : Decidable (s.OutOfRange dur) :=
  inferInstanceAs (Decidable (_ ∨ _))

variable (clock : ℕ → ℚ)

/-- The time from the start of the segment by the wall clock. -/
def wallClockDuration (s : HLSSegmenter) : ℚ × HLSSegmenter :=
  match s.segStartTime with
  | some start => (clock s.clockReads - start, { s with clockReads := s.clockReads + 1 })
  | none => (0, s)

/-- `_current_seg_duration`. -/
def currentSegDuration (s : HLSSegmenter) : ℚ × HLSSegmenter :=
  match s.pcrDuration with
  | some dur =>
    if s.OutOfRange dur then
      -- the baseline is reset and the segment is marked, whichever segment that will be
      { s with segStartPcr := s.lastPcr, pendingDiscontinuity := true }.wallClockDuration clock
    else (dur, s)
  | none => s.wallClockDuration clock

/-- `f"seg_{i:05d}.ts"`. -/
def segName (i : ℕ) : List Char :=
  "seg_".toList ++ List.replicate (5 - (Nat.toDigits 10 i).length) '0' ++ Nat.toDigits 10 i ++
    ".ts".toList

/-- The segment that is stored for the open buffer. -/
def closing (s : HLSSegmenter) (duration : ℚ) : HLSSegment :=
  ⟨segName s.segIndex, duration, s.segBuffer, s.pendingDiscontinuity⟩

/-- `append` on a deque of `maxlen`. -/
def appendBounded (maxlen : ℕ) (segments : List HLSSegment) (segment : HLSSegment) :
    List HLSSegment :=
  (segments ++ [segment]).drop (segments.length + 1 - maxlen)

/-- `_finalize_segment`. -/
def finalizeSegment (s : HLSSegmenter) (duration : ℚ) : HLSSegmenter :=
  { s with
    mediaSequence := if s.segments.length = s.maxSegments then s.mediaSequence + 1 else s.mediaSequence
    segments := appendBounded s.maxSegments s.segments (s.closing duration)
    pendingDiscontinuity := false
    segIndex := s.segIndex + 1
    playlistReady := true
    segBuffer := []
    segPktCount := 0
    segStartTime := some (clock s.clockReads)
    clockReads := s.clockReads + 1
    segStartPcr := s.lastPcr }

/-- The duration estimated at a packet, and the state after estimating it. -/
def estimate (s : HLSSegmenter) (packet : Packet) : ℚ × HLSSegmenter :=
  (s.notePcr packet).currentSegDuration clock

/-- The packet closes the open segment. -/
def splits (s : HLSSegmenter) (packet : Packet) : Bool :=
  decide (s.targetDuration ≤ (s.estimate clock packet).1) && isKeyframePacket packet &&
    !s.segBuffer.isEmpty

/-- The packet is added to the open buffer. -/
def extend (s : HLSSegmenter) (packet : Packet) : HLSSegmenter :=
  { s with segBuffer := s.segBuffer ++ packet, segPktCount := s.segPktCount + 1 }

/-- The loop body of `feed`. -/
def feedPacket (s : HLSSegmenter) (packet : Packet) : HLSSegmenter :=
  if s.splits clock packet then
    ((s.estimate clock packet).2.finalizeSegment clock (s.estimate clock packet).1).extend packet
  else (s.estimate clock packet).2.extend packet

/-- `start`. -/
def start (s : HLSSegmenter) : HLSSegmenter :=
  if s.running then s
  else
    { s with
      running := true
      segStartTime := some (clock s.clockReads)
      clockReads := s.clockReads + 1 }

/-- `feed`. -/
def feed (s : HLSSegmenter) (data : List UInt8) : HLSSegmenter :=
  if s.running then
    { (scan isSync tsPacketSize (s.leftover ++ data)).1.foldl (feedPacket clock) s with
      leftover := (scan isSync tsPacketSize (s.leftover ++ data)).2 }
  else s

/-- `stop`. -/
def stop (s : HLSSegmenter) : HLSSegmenter :=
  { s with
    running := false
    segBuffer := []
    segPktCount := 0
    segments := []
    playlistReady := false }

end HLSSegmenter

/-- A segmenter as it is constructed. -/
def HLSSegmenter.fresh (targetDuration : ℚ) (maxSegments : ℕ) : HLSSegmenter where
  targetDuration := targetDuration
  maxSegments := maxSegments

end Segmenter

/-! ### The playlist -/

section Playlist

/-- A line of a playlist. -/
inductive PlaylistLine
  | extm3u
  | version (number : ℕ)
  | targetDuration (seconds : Int)
  | mediaSequence (number : ℕ)
  | discontinuity
  /-- A duration in seconds with three decimals, in thousandths. -/
  | extinf (thousandths : Int)
  | uri (name : List Char)
  deriving DecidableEq

/-- `int(x)`. -/
def truncate (x : ℚ) : Int := if 0 ≤ x then ⌊x⌋ else ⌈x⌉

/-- The lines of a segment. -/
def segmentLines (segment : HLSSegment) : List PlaylistLine :=
  (if segment.discontinuity then [.discontinuity] else []) ++
    [.extinf (roundHalfEven (segment.duration * 1000)), .uri segment.name]

/-- `_generate_playlist`, for the longest duration given. -/
def HLSSegmenter.generatePlaylist (s : HLSSegmenter) (maxDur : ℚ) : List PlaylistLine :=
  [.extm3u, .version 3, .targetDuration (truncate maxDur + 1), .mediaSequence s.mediaSequence] ++
    s.segments.flatMap segmentLines

/-- `get_playlist`. -/
def HLSSegmenter.getPlaylist (s : HLSSegmenter) : Option (List PlaylistLine) :=
  (s.segments.map HLSSegment.duration).max?.map s.generatePlaylist

end Playlist

/-! ### What a packet changes -/

section Frame

namespace HLSSegmenter

/-- The store and the open buffer are untouched. -/
structure SameStore (s other : HLSSegmenter) : Prop where
  targetDuration : other.targetDuration = s.targetDuration
  maxSegments : other.maxSegments = s.maxSegments
  running : other.running = s.running
  segIndex : other.segIndex = s.segIndex
  segBuffer : other.segBuffer = s.segBuffer
  segments : other.segments = s.segments
  mediaSequence : other.mediaSequence = s.mediaSequence
  leftover : other.leftover = s.leftover

theorem SameStore.trans {s other third : HLSSegmenter} (first : s.SameStore other)
    (second : other.SameStore third) : s.SameStore third where
  targetDuration := second.targetDuration.trans first.targetDuration
  maxSegments := second.maxSegments.trans first.maxSegments
  running := second.running.trans first.running
  segIndex := second.segIndex.trans first.segIndex
  segBuffer := second.segBuffer.trans first.segBuffer
  segments := second.segments.trans first.segments
  mediaSequence := second.mediaSequence.trans first.mediaSequence
  leftover := second.leftover.trans first.leftover

variable (clock : ℕ → ℚ) (s : HLSSegmenter) (packet : Packet)

/-- The PCR jumps at this packet, measured from the start of the segment. -/
def Detects : Prop :=
  ∃ dur, (s.notePcr packet).pcrDuration = some dur ∧ (s.notePcr packet).OutOfRange dur

theorem notePcr_store : s.SameStore (s.notePcr packet) := by
  unfold notePcr
  cases extractPcr packet with
  | none => exact ⟨rfl, rfl, rfl, rfl, rfl, rfl, rfl, rfl⟩
  | some pcr => exact ⟨rfl, rfl, rfl, rfl, rfl, rfl, rfl, rfl⟩

theorem notePcr_pending : (s.notePcr packet).pendingDiscontinuity = s.pendingDiscontinuity := by
  unfold notePcr
  cases extractPcr packet with
  | none => rfl
  | some pcr => rfl

theorem notePcr_lastPcr : (s.notePcr packet).lastPcr = (extractPcr packet).or s.lastPcr := by
  unfold notePcr
  cases extractPcr packet with
  | none => rfl
  | some pcr => rfl

theorem notePcr_segStartPcr :
    (s.notePcr packet).segStartPcr = s.segStartPcr.or (extractPcr packet) := by
  unfold notePcr
  cases extractPcr packet with
  | none => simp
  | some pcr => rfl

theorem wallClockDuration_store : s.SameStore (s.wallClockDuration clock).2 := by
  unfold wallClockDuration
  cases s.segStartTime with
  | none => exact ⟨rfl, rfl, rfl, rfl, rfl, rfl, rfl, rfl⟩
  | some start => exact ⟨rfl, rfl, rfl, rfl, rfl, rfl, rfl, rfl⟩

/-- The wall clock leaves the PCR alone. -/
theorem wallClockDuration_pcr :
    (s.wallClockDuration clock).2.pendingDiscontinuity = s.pendingDiscontinuity ∧
      (s.wallClockDuration clock).2.lastPcr = s.lastPcr ∧
      (s.wallClockDuration clock).2.segStartPcr = s.segStartPcr := by
  unfold wallClockDuration
  cases s.segStartTime with
  | none => exact ⟨rfl, rfl, rfl⟩
  | some start => exact ⟨rfl, rfl, rfl⟩

theorem estimate_detects (detects : s.Detects packet) :
    s.estimate clock packet =
      { s.notePcr packet with
        segStartPcr := (s.notePcr packet).lastPcr
        pendingDiscontinuity := true }.wallClockDuration clock := by
  obtain ⟨dur, lasts, outOfRange⟩ := detects
  rw [estimate, currentSegDuration, lasts]
  exact if_pos outOfRange

theorem estimate_inRange {dur : ℚ} (lasts : (s.notePcr packet).pcrDuration = some dur)
    (inRange : ¬ (s.notePcr packet).OutOfRange dur) :
    s.estimate clock packet = (dur, s.notePcr packet) := by
  rw [estimate, currentSegDuration, lasts]
  exact if_neg inRange

theorem estimate_unknown (unknown : (s.notePcr packet).pcrDuration = none) :
    s.estimate clock packet = (s.notePcr packet).wallClockDuration clock := by
  rw [estimate, currentSegDuration, unknown]

/-- An estimate is by a jump, by PCR or, before the first PCR, by the wall clock. -/
theorem estimate_cases :
    s.Detects packet ∨
      (¬ s.Detects packet ∧ ∃ dur, (s.notePcr packet).pcrDuration = some dur ∧
        ¬ (s.notePcr packet).OutOfRange dur) ∨
      (¬ s.Detects packet ∧ (s.notePcr packet).pcrDuration = none) := by
  cases lasts : (s.notePcr packet).pcrDuration with
  | none =>
    refine .inr (.inr ⟨?_, rfl⟩)
    rintro ⟨dur, lasts', -⟩
    rw [lasts] at lasts'
    cases lasts'
  | some dur =>
    by_cases outOfRange : (s.notePcr packet).OutOfRange dur
    · exact .inl ⟨dur, lasts, outOfRange⟩
    · refine .inr (.inl ⟨?_, dur, rfl, outOfRange⟩)
      rintro ⟨dur', lasts', outOfRange'⟩
      rw [lasts] at lasts'
      cases lasts'
      exact outOfRange outOfRange'

/-- Estimating changes neither the store nor the open buffer. -/
theorem estimate_store : s.SameStore (s.estimate clock packet).2 := by
  have noted := notePcr_store s packet
  rcases estimate_cases s packet with detects | ⟨-, dur, lasts, inRange⟩ | ⟨-, unknown⟩
  · rw [estimate_detects clock s packet detects]
    have timed := wallClockDuration_store clock
      { s.notePcr packet with
        segStartPcr := (s.notePcr packet).lastPcr
        pendingDiscontinuity := true }
    exact noted.trans ⟨timed.targetDuration, timed.maxSegments, timed.running, timed.segIndex,
      timed.segBuffer, timed.segments, timed.mediaSequence, timed.leftover⟩
  · rw [estimate_inRange clock s packet lasts inRange]
    exact noted
  · rw [estimate_unknown clock s packet unknown]
    exact noted.trans (wallClockDuration_store clock _)

/-- A jump that is detected is pending, and the baseline is where it leads. -/
theorem estimate_of_detects (detects : s.Detects packet) :
    (s.estimate clock packet).2.pendingDiscontinuity = true ∧
      (s.estimate clock packet).2.lastPcr = (extractPcr packet).or s.lastPcr ∧
      (s.estimate clock packet).2.segStartPcr = (extractPcr packet).or s.lastPcr := by
  rw [estimate_detects clock s packet detects]
  obtain ⟨pending, last, start⟩ := wallClockDuration_pcr clock
    { s.notePcr packet with
      segStartPcr := (s.notePcr packet).lastPcr
      pendingDiscontinuity := true }
  rw [pending, last, start, ← notePcr_lastPcr]
  exact ⟨rfl, rfl, rfl⟩

/-- Without a jump, what is pending and the baseline stay. -/
theorem estimate_of_not_detects (quiet : ¬ s.Detects packet) :
    (s.estimate clock packet).2.pendingDiscontinuity = s.pendingDiscontinuity ∧
      (s.estimate clock packet).2.lastPcr = (extractPcr packet).or s.lastPcr ∧
      (s.estimate clock packet).2.segStartPcr = s.segStartPcr.or (extractPcr packet) := by
  rcases estimate_cases s packet with detects | ⟨-, dur, lasts, inRange⟩ | ⟨-, unknown⟩
  · exact absurd detects quiet
  · rw [estimate_inRange clock s packet lasts inRange]
    exact ⟨notePcr_pending s packet, notePcr_lastPcr s packet, notePcr_segStartPcr s packet⟩
  · rw [estimate_unknown clock s packet unknown]
    obtain ⟨pending, last, start⟩ := wallClockDuration_pcr clock (s.notePcr packet)
    rw [pending, last, start]
    exact ⟨notePcr_pending s packet, notePcr_lastPcr s packet, notePcr_segStartPcr s packet⟩

/-- The segment that a packet closes. -/
def closedBy : HLSSegment := (s.estimate clock packet).2.closing (s.estimate clock packet).1

theorem closedBy_data : (s.closedBy clock packet).data = s.segBuffer :=
  (estimate_store clock s packet).segBuffer

theorem closedBy_name : (s.closedBy clock packet).name = segName s.segIndex :=
  congrArg segName (estimate_store clock s packet).segIndex

theorem splits_iff :
    s.splits clock packet = true ↔ s.targetDuration ≤ (s.estimate clock packet).1 ∧
      isKeyframePacket packet = true ∧ s.segBuffer ≠ [] := by
  simp only [splits, Bool.and_eq_true, decide_eq_true_eq, Bool.not_eq_true',
    List.isEmpty_eq_false_iff, and_assoc]

/-- A packet that closes the segment opens the next one. -/
theorem feedPacket_split (splits : s.splits clock packet = true) :
    (s.feedPacket clock packet).segBuffer = packet ∧
      (s.feedPacket clock packet).segments =
        appendBounded s.maxSegments s.segments (s.closedBy clock packet) ∧
      (s.feedPacket clock packet).segIndex = s.segIndex + 1 ∧
      (s.feedPacket clock packet).mediaSequence =
        (if s.segments.length = s.maxSegments then s.mediaSequence + 1 else s.mediaSequence) := by
  have store := estimate_store clock s packet
  rw [feedPacket, if_pos splits]
  refine ⟨rfl, ?_, ?_, ?_⟩
  · show appendBounded _ (s.estimate clock packet).2.segments _ = _
    rw [store.segments, store.maxSegments]
    rfl
  · show (s.estimate clock packet).2.segIndex + 1 = s.segIndex + 1
    rw [store.segIndex]
  · show (if (s.estimate clock packet).2.segments.length = (s.estimate clock packet).2.maxSegments
      then _ else (s.estimate clock packet).2.mediaSequence) = _
    rw [store.segments, store.maxSegments, store.mediaSequence]

/-- Any other packet is added to the open segment. -/
theorem feedPacket_keep (keeps : ¬ s.splits clock packet = true) :
    (s.feedPacket clock packet).segBuffer = s.segBuffer ++ packet ∧
      (s.feedPacket clock packet).segments = s.segments ∧
      (s.feedPacket clock packet).segIndex = s.segIndex ∧
      (s.feedPacket clock packet).mediaSequence = s.mediaSequence := by
  have store := estimate_store clock s packet
  rw [feedPacket, if_neg keeps]
  refine ⟨?_, store.segments, store.segIndex, store.mediaSequence⟩
  show (s.estimate clock packet).2.segBuffer ++ packet = s.segBuffer ++ packet
  rw [store.segBuffer]

/-- No packet changes the settings, or what was left of the chunk. -/
theorem feedPacket_settings :
    (s.feedPacket clock packet).maxSegments = s.maxSegments ∧
      (s.feedPacket clock packet).running = s.running ∧
      (s.feedPacket clock packet).leftover = s.leftover := by
  have store := estimate_store clock s packet
  rw [feedPacket]
  by_cases splits : s.splits clock packet = true
  · rw [if_pos splits]
    exact ⟨store.maxSegments, store.running, store.leftover⟩
  · rw [if_neg splits]
    exact ⟨store.maxSegments, store.running, store.leftover⟩

end HLSSegmenter

end Frame

end Retrovue.Core.Streams
