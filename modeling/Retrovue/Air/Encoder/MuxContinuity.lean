/-
**Timestamps of the packets written to the muxer** (`EncoderPipeline::EnforceMonotonicDts` and the
sites that write packets).

* `enforceMonotonicDts`, `firstAudioClamp`: the correction of a packet's timestamps;
* `step`: a packet that an encoder returned, at the site that writes it, and `close`;
* `Continuity`: what the packets of a stream should look like;
* `enforceMonotonicDts_follows`: the correction does what it should, against what was recorded;
* `written_continuous`: every run keeps continuity whose first audio packet is not in order already
  and whose packets flushed by `close` come after those written before it.
-/

import Mathlib
import Retrovue.Foundation.Transition

namespace Retrovue.Air.Encoder

open Retrovue.Foundation.Transition

/-! ### The sites -/

section Sites

/-- `packet_->dts` and `packet_->pts`, absent for `AV_NOPTS_VALUE`. -/
structure Stamps where
  dts : Option Int
  pts : Option Int
  deriving DecidableEq, Repr

/-- `stream_index`. -/
inductive MuxStream
  | video
  | audio
  deriving DecidableEq, Repr

/-- A packet given to `av_write_frame`: the timestamps it came with from the encoder, and those it
was written with. -/
structure WrittenPacket where
  stream : MuxStream
  own : Stamps
  stamps : Stamps
  deriving DecidableEq, Repr

/-- A timestamp moved one past the last one, if it does not exceed it. -/
def raisePast : Option Int → Option Int → Option Int
  | some last, some own => if own ≤ last then some (last + 1) else some own
  | _, own => own

/-- A PTS is not before the DTS. -/
def liftToDts : Option Int → Option Int → Option Int
  | some dts, some pts => if pts < dts then some dts else some pts
  | _, pts => pts

/-- `EnforceMonotonicDts`: the timestamps of a packet after the last ones of its stream. -/
def enforceMonotonicDts (last own : Stamps) : Stamps :=
  let dts := raisePast last.dts own.dts
  ⟨dts, liftToDts dts (raisePast last.pts own.pts)⟩

/-- The last timestamps of a stream after a packet's. -/
def Stamps.recorded (last written : Stamps) : Stamps :=
  ⟨written.dts.or last.dts, written.pts.or last.pts⟩

/-- The packet as the clamp of the first audio packet leaves it. An absent PTS compares as the least
number, so that a clamped packet always has one. -/
def clampPriming (own : Stamps) : Stamps :=
  match own.dts with
  | some dts => if dts < 0 then ⟨some 0, some (max (own.pts.getD 0) 0)⟩ else own
  | none => own

/-- The clamp before the enforcement in `encodeAudioFrame`: the packet, and the last timestamps, with
the DTS of the packet itself. -/
def firstAudioClamp (last own : Stamps) : Stamps × Stamps :=
  if last.dts = none then
    (clampPriming own, { last with dts := some ((clampPriming own).dts.getD 0) })
  else (own, last)

/-- What the writing sites share. -/
structure Mux where
  initialized : Bool
  lastVideo : Stamps
  lastAudio : Stamps
  firstKeyframeEmitted : Bool
  /-- The packets written so far. -/
  written : List WrittenPacket
  deriving DecidableEq, Repr

/-- The muxer after `open`. -/
def Mux.initial : Mux := ⟨true, ⟨none, none⟩, ⟨none, none⟩, false, []⟩

/-- `last_video_mux_*` or `last_audio_mux_*`. -/
def Mux.last (mux : Mux) : MuxStream → Stamps
  | .video => mux.lastVideo
  | .audio => mux.lastAudio

/-- A video packet is corrected and written. -/
def Mux.writeVideo (mux : Mux) (own : Stamps) : Mux :=
  let stamps := enforceMonotonicDts mux.lastVideo own
  { mux with
    lastVideo := mux.lastVideo.recorded stamps
    written := mux.written ++ [⟨.video, own, stamps⟩] }

/-- An audio packet is corrected and written, as `packet` after `last`. -/
def Mux.writeAudio (mux : Mux) (own packet last : Stamps) : Mux :=
  let stamps := enforceMonotonicDts last packet
  { mux with
    lastAudio := last.recorded stamps
    written := mux.written ++ [⟨.audio, own, stamps⟩] }

/-- A packet that an encoder returned, rescaled, at the site that writes it. -/
inductive Action
  /-- The drain or the receive loop of `encodeFrame` on its fixed-size path. -/
  | fixedVideo (own : Stamps)
  /-- The same loops on its resize path, with `AV_PKT_FLAG_KEY`. -/
  | resizedVideo (own : Stamps) (key : Bool)
  /-- The drain loop of `encodeAudioFrame` and the two loops of `flushAudio`. -/
  | drainedAudio (own : Stamps)
  /-- The receive loop of `encodeAudioFrame`. -/
  | receivedAudio (own : Stamps)
  /-- `ResetOutputTiming`. -/
  | resetOutputTiming
  /-- `close`, up to its flush of the video encoder. -/
  | close
  /-- A packet of that flush. -/
  | flushedVideo (own : Stamps)
  deriving DecidableEq, Repr

/-- A step of the encoder's writing side. -/
def step (mux : Mux) : Action → Option Mux
  | .fixedVideo own => if mux.initialized then some (mux.writeVideo own) else none
  | .resizedVideo own key =>
    if mux.initialized then
      -- packets before the first keyframe are not written
      if mux.firstKeyframeEmitted || key then
        some ({ mux with firstKeyframeEmitted := true }.writeVideo own)
      else some mux
    else none
  | .drainedAudio own =>
    if mux.initialized then some (mux.writeAudio own own mux.lastAudio) else none
  | .receivedAudio own =>
    if mux.initialized then
      some (mux.writeAudio own (firstAudioClamp mux.lastAudio own).1
        (firstAudioClamp mux.lastAudio own).2)
    else none
  | .resetOutputTiming => some { mux with firstKeyframeEmitted := false }
  | .close =>
    if mux.initialized then
      some { mux with
        initialized := false
        lastVideo := ⟨none, none⟩
        lastAudio := ⟨none, none⟩
        firstKeyframeEmitted := false }
    else some mux
  | .flushedVideo own => if mux.initialized then none else some (mux.writeVideo own)

end Sites

/-! ### What the packets should be -/

section Purpose

/-- The packets written to a stream. -/
def Mux.writtenTo (mux : Mux) (stream : MuxStream) : List WrittenPacket :=
  mux.written.filter fun packet => packet.stream = stream

/-- The DTS that packets were written with. -/
def writtenDts (packets : List WrittenPacket) : List Int :=
  packets.filterMap fun packet => packet.stamps.dts

/-- The PTS that packets were written with. -/
def writtenPts (packets : List WrittenPacket) : List Int :=
  packets.filterMap fun packet => packet.stamps.pts

/-- The last timestamps that packets were written with. -/
def lastWritten (packets : List WrittenPacket) : Stamps :=
  ⟨(writtenDts packets).getLast?, (writtenPts packets).getLast?⟩

/-- A timestamp exceeds the last one, if there are both. -/
def Exceeds (last own : Option Int) : Prop := ∀ before ∈ last, ∀ value ∈ own, before < value

instance exceedsDecidable (last own : Option Int) : Decidable (Exceeds last own) := by
  unfold Exceeds
  infer_instance

/-- A packet that needs no correction: `0 ≤ DTS ≤ PTS`, both past the last ones. -/
def InOrder (last own : Stamps) : Prop :=
  ∃ dts ∈ own.dts, ∃ pts ∈ own.pts, 0 ≤ dts ∧ dts ≤ pts ∧
    Exceeds last.dts own.dts ∧ Exceeds last.pts own.pts

instance inOrderDecidable (last own : Stamps) : Decidable (InOrder last own) :=
  match own with
  | ⟨some dts, some pts⟩ =>
    decidable_of_iff (0 ≤ dts ∧ dts ≤ pts ∧ Exceeds last.dts (some dts) ∧
      Exceeds last.pts (some pts)) (by simp [InOrder])
  | ⟨none, _⟩ => .isFalse (by simp [InOrder])
  | ⟨some _, none⟩ => .isFalse (by simp [InOrder])

/-- **Output continuity** of the packets of a stream. -/
structure Continuity (packets : List WrittenPacket) : Prop where
  dts_increasing : (writtenDts packets).Pairwise (· < ·)
  pts_increasing : (writtenPts packets).Pairwise (· < ·)
  dts_le_pts : ∀ packet ∈ packets, ∀ dts ∈ packet.stamps.dts, ∀ pts ∈ packet.stamps.pts, dts ≤ pts
  /-- No timestamp of the encoder is dropped. -/
  kept : ∀ packet ∈ packets, (packet.own.dts.isSome → packet.stamps.dts.isSome) ∧
    (packet.own.pts.isSome → packet.stamps.pts.isSome)
  /-- Only a packet that needs a correction gets one. -/
  minimal : ∀ before packet after, packets = before ++ packet :: after →
    InOrder (lastWritten before) packet.own → packet.stamps = packet.own

end Purpose

/-! ### The correction -/

section Correction

theorem exceeds_raisePast (last own : Option Int) : Exceeds last (raisePast last own) := by
  intro before isLast value isOwn
  cases own with
  | none => cases last <;> cases isOwn
  | some own =>
    cases isLast
    simp only [raisePast] at isOwn
    split at isOwn <;> cases isOwn <;> omega

theorem raisePast_isSome (last own : Option Int) : (raisePast last own).isSome = own.isSome := by
  cases last <;> cases own <;> simp only [raisePast]
  split <;> rfl

/-- A timestamp past the last one stays. -/
theorem raisePast_of_exceeds {last own : Option Int} (exceeds : Exceeds last own) :
    raisePast last own = own := by
  cases last with
  | none => cases own <;> rfl
  | some last =>
    cases own with
    | none => rfl
    | some own =>
      have after := exceeds last rfl own rfl
      rw [raisePast, if_neg (by omega)]

/-- A value that is raised is not lowered. -/
theorem le_raisePast {last : Option Int} {own value : Int}
    (raised : value ∈ raisePast last (some own)) : own ≤ value := by
  cases last with
  | none =>
    cases raised
    exact le_rfl
  | some last =>
    simp only [raisePast] at raised
    split at raised <;> cases raised <;> omega

theorem liftToDts_isSome (dts pts : Option Int) : (liftToDts dts pts).isSome = pts.isSome := by
  cases dts <;> cases pts <;> simp only [liftToDts]
  split <;> rfl

theorem liftToDts_exceeds {last : Option Int} (dts : Option Int) {pts : Option Int}
    (exceeds : Exceeds last pts) : Exceeds last (liftToDts dts pts) := by
  intro before isLast value isOwn
  cases dts <;> cases pts <;> simp only [liftToDts] at isOwn <;> try exact exceeds _ isLast _ isOwn
  have after := exceeds before isLast _ rfl
  split at isOwn <;> cases isOwn <;> omega

theorem le_liftToDts {dts pts : Option Int} {value lifted : Int} (present : value ∈ dts)
    (isLifted : lifted ∈ liftToDts dts pts) : value ≤ lifted := by
  cases present
  cases pts with
  | none => cases isLifted
  | some pts =>
    simp only [liftToDts] at isLifted
    split at isLifted <;> cases isLifted <;> omega

/-- **The correction** moves both timestamps past the last ones, keeps the PTS from preceding the DTS
and drops neither. -/
theorem enforceMonotonicDts_follows (last own : Stamps) :
    Exceeds last.dts (enforceMonotonicDts last own).dts ∧
      Exceeds last.pts (enforceMonotonicDts last own).pts ∧
      (∀ dts ∈ (enforceMonotonicDts last own).dts, ∀ pts ∈ (enforceMonotonicDts last own).pts,
        dts ≤ pts) ∧
      (enforceMonotonicDts last own).dts.isSome = own.dts.isSome ∧
      (enforceMonotonicDts last own).pts.isSome = own.pts.isSome := by
  refine ⟨exceeds_raisePast _ _, liftToDts_exceeds _ (exceeds_raisePast _ _), ?_,
    raisePast_isSome _ _, ?_⟩
  · intro dts isDts pts isPts
    exact le_liftToDts isDts isPts
  · rw [enforceMonotonicDts, liftToDts_isSome, raisePast_isSome]

/-- **The correction is minimal**: a packet in order is left as it is. -/
theorem enforceMonotonicDts_of_inOrder {last own : Stamps} (inOrder : InOrder last own) :
    enforceMonotonicDts last own = own := by
  obtain ⟨dts, hasDts, pts, hasPts, _, ordered, dtsAfter, ptsAfter⟩ := inOrder
  rw [enforceMonotonicDts, raisePast_of_exceeds dtsAfter, raisePast_of_exceeds ptsAfter]
  obtain ⟨ownDts, ownPts⟩ := own
  cases hasDts
  cases hasPts
  simp only [liftToDts, if_neg (not_lt.mpr ordered)]

/-- A clamped packet keeps the timestamps that it has. -/
theorem clampPriming_isSome (own : Stamps) :
    (clampPriming own).dts.isSome = own.dts.isSome ∧
      (own.pts.isSome → (clampPriming own).pts.isSome) := by
  obtain ⟨_ | dts, pts⟩ := own
  · exact ⟨rfl, id⟩
  · simp only [clampPriming]
    split <;> simp

end Correction

/-! ### One packet more -/

section Append

/-- What is past the last of increasing values is past all of them. -/
theorem lt_of_past_last {values : List Int} (increasing : values.Pairwise (· < ·)) {next : Int}
    (past : ∀ last ∈ values.getLast?, last < next) : ∀ value ∈ values, value < next := by
  intro value member
  induction values using List.reverseRecOn with
  | nil => cases member
  | append_singleton earlier last _ =>
    have final : last < next := past last (by simp)
    rcases List.mem_append.mp member with before | here
    · have below := (List.pairwise_append.mp increasing).2.2 value before last (by simp)
      omega
    · rw [List.mem_singleton.mp here]
      exact final

theorem pairwise_append_toList {values : List Int} (increasing : values.Pairwise (· < ·))
    {next : Option Int} (exceeds : Exceeds values.getLast? next) :
    (values ++ next.toList).Pairwise (· < ·) := by
  cases next with
  | none => simpa using increasing
  | some next =>
    refine List.pairwise_append.mpr ⟨increasing, List.pairwise_singleton _ _, ?_⟩
    intro value member other single
    rw [List.mem_singleton.mp single]
    exact lt_of_past_last increasing (fun last isLast => exceeds last isLast next rfl) value member

theorem writtenDts_append (packets : List WrittenPacket) (packet : WrittenPacket) :
    writtenDts (packets ++ [packet]) = writtenDts packets ++ packet.stamps.dts.toList := by
  rw [writtenDts, List.filterMap_append]
  cases dts : packet.stamps.dts <;> simp [writtenDts, dts]

theorem writtenPts_append (packets : List WrittenPacket) (packet : WrittenPacket) :
    writtenPts (packets ++ [packet]) = writtenPts packets ++ packet.stamps.pts.toList := by
  rw [writtenPts, List.filterMap_append]
  cases pts : packet.stamps.pts <;> simp [writtenPts, pts]

/-- What the last timestamps are after a packet. -/
theorem lastWritten_append (packets : List WrittenPacket) (packet : WrittenPacket) :
    lastWritten (packets ++ [packet]) = (lastWritten packets).recorded packet.stamps := by
  rw [lastWritten, writtenDts_append, writtenPts_append]
  cases dts : packet.stamps.dts <;> cases pts : packet.stamps.pts <;>
    simp [lastWritten, Stamps.recorded, dts, pts]

/-- **Continuity goes on** with a packet past the last ones that is corrected only when needed. -/
theorem Continuity.append {packets : List WrittenPacket} (continuity : Continuity packets)
    {packet : WrittenPacket} (dts : Exceeds (lastWritten packets).dts packet.stamps.dts)
    (pts : Exceeds (lastWritten packets).pts packet.stamps.pts)
    (ordered : ∀ dts ∈ packet.stamps.dts, ∀ pts ∈ packet.stamps.pts, dts ≤ pts)
    (kept : (packet.own.dts.isSome → packet.stamps.dts.isSome) ∧
      (packet.own.pts.isSome → packet.stamps.pts.isSome))
    (minimal : InOrder (lastWritten packets) packet.own → packet.stamps = packet.own) :
    Continuity (packets ++ [packet]) where
  dts_increasing := by
    rw [writtenDts_append]
    exact pairwise_append_toList continuity.dts_increasing dts
  pts_increasing := by
    rw [writtenPts_append]
    exact pairwise_append_toList continuity.pts_increasing pts
  dts_le_pts := by
    intro written member
    rcases List.mem_append.mp member with old | new
    · exact continuity.dts_le_pts written old
    · rw [List.mem_singleton.mp new]
      exact ordered
  kept := by
    intro written member
    rcases List.mem_append.mp member with old | new
    · exact continuity.kept written old
    · rw [List.mem_singleton.mp new]
      exact kept
  minimal := by
    intro before written after split
    rcases List.eq_nil_or_concat after with rfl | ⟨initial, last, rfl⟩
    · obtain ⟨rfl, same⟩ := List.append_inj' split rfl
      cases same
      exact minimal
    · have shorter : packets = before ++ written :: initial := by
        have joined : packets ++ [packet] = (before ++ written :: initial) ++ [last] := by
          rw [split]
          simp
        exact (List.append_inj' joined rfl).1
      exact continuity.minimal before written initial shorter

theorem continuity_nil : Continuity [] where
  dts_increasing := .nil
  pts_increasing := .nil
  dts_le_pts := by simp
  kept := by simp
  minimal := by simp

end Append

/-! ### Runs -/

section Runs

/-- The packet needs no correction that its site makes all the same:

* the first packet of the audio receive loop is clamped and recorded before it is corrected, so it
  must not be in order already; an audio packet in order must be past the recorded DTS, which is 0
  after a first packet without one;
* `close` forgets the last timestamps before it flushes, so a flushed packet must come after what was
  written before. -/
def Unforced (mux : Mux) : Action → Prop
  | .receivedAudio own =>
    InOrder (lastWritten (mux.writtenTo .audio)) own →
      mux.lastAudio.dts ≠ none ∧ Exceeds mux.lastAudio.dts own.dts
  | .drainedAudio own =>
    InOrder (lastWritten (mux.writtenTo .audio)) own → Exceeds mux.lastAudio.dts own.dts
  | .flushedVideo own =>
    (mux.lastVideo.dts = none → Exceeds (lastWritten (mux.writtenTo .video)).dts own.dts) ∧
      (mux.lastVideo.pts = none →
        ∀ last ∈ (lastWritten (mux.writtenTo .video)).pts, ∀ pts ∈ own.pts,
          last < pts ∨ ∃ dts ∈ own.dts, last < dts ∨ ∃ recorded ∈ mux.lastVideo.dts, last ≤ recorded)
  | _ => True

instance unforcedDecidable (mux : Mux) (action : Action) : Decidable (Unforced mux action) :=
  Action.casesOn (motive := fun action => Decidable (Unforced mux action)) action
    (fun _ => inferInstanceAs (Decidable True)) (fun _ _ => inferInstanceAs (Decidable True))
    (fun _ => inferInstanceAs (Decidable (_ → _))) (fun _ => inferInstanceAs (Decidable (_ → _)))
    (inferInstanceAs (Decidable True)) (inferInstanceAs (Decidable True))
    (fun _ => inferInstanceAs (Decidable (_ ∧ _)))

/-- What is recorded is what was written last; for video after `close` it may have been forgotten, and
for audio a DTS of 0 may stand for none. -/
structure Records (mux : Mux) : Prop where
  video : mux.initialized = true → mux.lastVideo = lastWritten (mux.writtenTo .video)
  flushed_dts : mux.lastVideo.dts = none ∨
    mux.lastVideo.dts = (lastWritten (mux.writtenTo .video)).dts
  flushed_pts : mux.lastVideo.pts = none ∨
    mux.lastVideo.pts = (lastWritten (mux.writtenTo .video)).pts
  audio_pts : mux.initialized = true →
    mux.lastAudio.pts = (lastWritten (mux.writtenTo .audio)).pts
  audio_dts : mux.initialized = true →
    mux.lastAudio.dts = (lastWritten (mux.writtenTo .audio)).dts ∨
      (lastWritten (mux.writtenTo .audio)).dts = none
  continuity : ∀ stream, Continuity (mux.writtenTo stream)

theorem records_initial : Records Mux.initial where
  video := fun _ => rfl
  flushed_dts := .inl rfl
  flushed_pts := .inl rfl
  audio_pts := fun _ => rfl
  audio_dts := fun _ => .inl rfl
  continuity := by
    intro stream
    exact continuity_nil

@[simp] theorem writtenTo_writeVideo_video (mux : Mux) (own : Stamps) :
    (mux.writeVideo own).writtenTo .video =
      mux.writtenTo .video ++ [⟨.video, own, enforceMonotonicDts mux.lastVideo own⟩] := by
  simp [Mux.writeVideo, Mux.writtenTo]

@[simp] theorem writtenTo_writeVideo_audio (mux : Mux) (own : Stamps) :
    (mux.writeVideo own).writtenTo .audio = mux.writtenTo .audio := by
  simp [Mux.writeVideo, Mux.writtenTo]

@[simp] theorem writtenTo_writeAudio_audio (mux : Mux) (own packet last : Stamps) :
    (mux.writeAudio own packet last).writtenTo .audio =
      mux.writtenTo .audio ++ [⟨.audio, own, enforceMonotonicDts last packet⟩] := by
  simp [Mux.writeAudio, Mux.writtenTo]

@[simp] theorem writtenTo_writeAudio_video (mux : Mux) (own packet last : Stamps) :
    (mux.writeAudio own packet last).writtenTo .video = mux.writtenTo .video := by
  simp [Mux.writeAudio, Mux.writtenTo]

/-- Recording agrees with what is written, where it agreed before. -/
theorem recorded_dts {last written : Stamps} (same : last.dts = written.dts) (stamps : Stamps) :
    (last.recorded stamps).dts = (written.recorded stamps).dts := by
  simp only [Stamps.recorded, same]

theorem recorded_pts {last written : Stamps} (same : last.pts = written.pts) (stamps : Stamps) :
    (last.recorded stamps).pts = (written.recorded stamps).pts := by
  simp only [Stamps.recorded, same]

/-- **A video packet** keeps the records, when it is corrected against what was written or comes
after it. -/
theorem Records.writeVideo {mux : Mux} (records : Records mux) {own : Stamps}
    (dts : Exceeds (lastWritten (mux.writtenTo .video)).dts
      (enforceMonotonicDts mux.lastVideo own).dts)
    (pts : Exceeds (lastWritten (mux.writtenTo .video)).pts
      (enforceMonotonicDts mux.lastVideo own).pts) : Records (mux.writeVideo own) := by
  obtain ⟨_, _, ordered, hasDts, hasPts⟩ := enforceMonotonicDts_follows mux.lastVideo own
  have written : lastWritten ((mux.writeVideo own).writtenTo .video) =
      (lastWritten (mux.writtenTo .video)).recorded (enforceMonotonicDts mux.lastVideo own) := by
    rw [writtenTo_writeVideo_video, lastWritten_append]
  have minimal : InOrder (lastWritten (mux.writtenTo .video)) own →
      enforceMonotonicDts mux.lastVideo own = own := by
    rintro ⟨dts, isDts, pts, isPts, nonneg, le, dtsAfter, ptsAfter⟩
    apply enforceMonotonicDts_of_inOrder
    refine ⟨dts, isDts, pts, isPts, nonneg, le, ?_, ?_⟩
    · rcases records.flushed_dts with forgotten | same
      · simp [Exceeds, forgotten]
      · rwa [same]
    · rcases records.flushed_pts with forgotten | same
      · simp [Exceeds, forgotten]
      · rwa [same]
  refine ⟨?_, ?_, ?_, ?_, ?_, ?_⟩
  · intro initialized
    rw [written, ← records.video initialized]
    rfl
  · rw [written]
    rcases records.flushed_dts with forgotten | same
    · cases new : (enforceMonotonicDts mux.lastVideo own).dts <;>
        simp [Mux.writeVideo, Stamps.recorded, forgotten, new]
    · exact .inr (recorded_dts same _)
  · rw [written]
    rcases records.flushed_pts with forgotten | same
    · cases new : (enforceMonotonicDts mux.lastVideo own).pts <;>
        simp [Mux.writeVideo, Stamps.recorded, forgotten, new]
    · exact .inr (recorded_pts same _)
  · rw [writtenTo_writeVideo_audio]
    exact records.audio_pts
  · rw [writtenTo_writeVideo_audio]
    exact records.audio_dts
  · intro stream
    cases stream with
    | video =>
      rw [writtenTo_writeVideo_video]
      exact (records.continuity .video).append dts pts ordered
        ⟨fun has => hasDts ▸ has, fun has => hasPts ▸ has⟩ minimal
    | audio =>
      rw [writtenTo_writeVideo_audio]
      exact records.continuity .audio

/-- **An audio packet** keeps the records: what it is corrected against covers what was written, and
a packet in order is neither clamped nor corrected. -/
theorem Records.writeAudio {mux : Mux} (records : Records mux)
    {own packet last : Stamps} (samePts : last.pts = (lastWritten (mux.writtenTo .audio)).pts)
    (sameDts : last.dts = (lastWritten (mux.writtenTo .audio)).dts ∨
      (lastWritten (mux.writtenTo .audio)).dts = none)
    (kept : packet.dts.isSome = own.dts.isSome ∧ (own.pts.isSome → packet.pts.isSome))
    (minimal : InOrder (lastWritten (mux.writtenTo .audio)) own →
      packet = own ∧ Exceeds last.dts own.dts) : Records (mux.writeAudio own packet last) := by
  obtain ⟨dts, pts, ordered, hasDts, hasPts⟩ := enforceMonotonicDts_follows last packet
  have written : lastWritten ((mux.writeAudio own packet last).writtenTo .audio) =
      (lastWritten (mux.writtenTo .audio)).recorded (enforceMonotonicDts last packet) := by
    rw [writtenTo_writeAudio_audio, lastWritten_append]
  refine ⟨?_, ?_, ?_, ?_, ?_, ?_⟩
  · rw [writtenTo_writeAudio_video]
    exact records.video
  · rw [writtenTo_writeAudio_video]
    exact records.flushed_dts
  · rw [writtenTo_writeAudio_video]
    exact records.flushed_pts
  · intro _
    rw [written]
    exact recorded_pts samePts _
  · intro _
    rw [written]
    rcases sameDts with same | nothing
    · exact .inl (recorded_dts same _)
    · cases new : (enforceMonotonicDts last packet).dts with
      | none => exact .inr (by simp [Stamps.recorded, new, nothing])
      | some dts => exact .inl (by simp [Mux.writeAudio, Stamps.recorded, new])
  · intro stream
    cases stream with
    | video =>
      rw [writtenTo_writeAudio_video]
      exact records.continuity .video
    | audio =>
      rw [writtenTo_writeAudio_audio]
      apply (records.continuity .audio).append
      · rcases sameDts with same | nothing
        · rwa [← same]
        · simp [Exceeds, nothing]
      · rwa [← samePts]
      · exact ordered
      · constructor
        · intro has
          rw [hasDts, kept.1]
          exact has
        · intro has
          rw [hasPts]
          exact kept.2 has
      · intro inOrder
        obtain ⟨same, past⟩ := minimal inOrder
        obtain ⟨dts, isDts, pts, isPts, nonneg, le, _, ptsAfter⟩ := inOrder
        rw [same]
        apply enforceMonotonicDts_of_inOrder
        rw [← samePts] at ptsAfter
        exact ⟨dts, isDts, pts, isPts, nonneg, le, past, ptsAfter⟩

/-- Before `close` a video packet is corrected against what was written. -/
theorem Records.writeVideo_open {mux : Mux} (records : Records mux)
    (initialized : mux.initialized = true) (own : Stamps) : Records (mux.writeVideo own) := by
  obtain ⟨dts, pts, _⟩ := enforceMonotonicDts_follows mux.lastVideo own
  have same := records.video initialized
  apply records.writeVideo
  · rwa [same] at dts ⊢
  · rwa [same] at pts ⊢

/-- A flushed packet that comes after what was written is written after it. -/
theorem Records.writeVideo_flushed {mux : Mux} (records : Records mux) {own : Stamps}
    (unforced : Unforced mux (.flushedVideo own)) : Records (mux.writeVideo own) := by
  obtain ⟨dts, pts, _⟩ := enforceMonotonicDts_follows mux.lastVideo own
  obtain ⟨newDts, newPts⟩ := unforced
  apply records.writeVideo
  · rcases records.flushed_dts with forgotten | same
    · have unchanged : (enforceMonotonicDts mux.lastVideo own).dts = own.dts := by
        rw [enforceMonotonicDts, forgotten]
        cases own.dts <;> rfl
      rw [unchanged]
      exact newDts forgotten
    · rwa [← same]
  · rcases records.flushed_pts with forgotten | same
    · intro last isLast value isValue
      have present : own.pts.isSome := by
        rw [← (enforceMonotonicDts_follows mux.lastVideo own).2.2.2.2, isValue]
        rfl
      obtain ⟨ownPts, isPts⟩ := Option.isSome_iff_exists.mp present
      have unraised : raisePast mux.lastVideo.pts own.pts = some ownPts := by
        rw [forgotten, isPts]
        rfl
      have lifted : value ∈ liftToDts (raisePast mux.lastVideo.dts own.dts) (some ownPts) := by
        rw [← unraised]
        exact isValue
      rcases newPts forgotten last isLast ownPts isPts with past | ⟨ownDts, isDts, behind⟩
      · have exceeds : Exceeds (some last) (some ownPts) := by
          rintro _ ⟨⟩ _ ⟨⟩
          exact past
        exact liftToDts_exceeds _ exceeds last rfl value lifted
      · obtain ⟨stamp, isStamp⟩ : ∃ stamp, raisePast mux.lastVideo.dts own.dts = some stamp := by
          apply Option.isSome_iff_exists.mp
          rw [raisePast_isSome, isDts]
          rfl
        have notAfter := le_liftToDts isStamp lifted
        rcases behind with past | ⟨recorded, isRecorded, covered⟩
        · rw [isDts] at isStamp
          have raised := le_raisePast isStamp
          omega
        · have raised := exceeds_raisePast _ _ recorded isRecorded stamp isStamp
          omega
    · rwa [← same]

/-- **The step lemma.** -/
theorem step_keeps_records {mux next : Mux} (action : Action) (records : Records mux)
    (unforced : Unforced mux action) (taken : step mux action = some next) : Records next := by
  cases action with
  | fixedVideo own =>
    obtain ⟨initialized, written⟩ := Option.ite_none_right_eq_some.mp taken
    cases written
    exact records.writeVideo_open initialized own
  | resizedVideo own key =>
    obtain ⟨initialized, written⟩ := Option.ite_none_right_eq_some.mp taken
    split at written
    · cases written
      have gated : Records { mux with firstKeyframeEmitted := true } :=
        ⟨records.video, records.flushed_dts, records.flushed_pts, records.audio_pts,
          records.audio_dts, records.continuity⟩
      exact gated.writeVideo_open initialized own
    · cases written
      exact records
  | drainedAudio own =>
    obtain ⟨initialized, written⟩ := Option.ite_none_right_eq_some.mp taken
    cases written
    apply records.writeAudio (records.audio_pts initialized) (records.audio_dts initialized)
    · exact ⟨rfl, id⟩
    · intro inOrder
      exact ⟨rfl, unforced inOrder⟩
  | receivedAudio own =>
    obtain ⟨initialized, written⟩ := Option.ite_none_right_eq_some.mp taken
    cases written
    by_cases first : mux.lastAudio.dts = none
    · have noDts : (lastWritten (mux.writtenTo .audio)).dts = none := by
        rcases records.audio_dts initialized with same | nothing
        · rw [← same, first]
        · exact nothing
      have samePts : (firstAudioClamp mux.lastAudio own).2.pts =
          (lastWritten (mux.writtenTo .audio)).pts := by
        rw [firstAudioClamp, if_pos first]
        exact records.audio_pts initialized
      apply records.writeAudio samePts (.inr noDts)
      · rw [firstAudioClamp, if_pos first]
        exact clampPriming_isSome own
      · intro inOrder
        exact absurd first (unforced inOrder).1
    · simp only [firstAudioClamp, if_neg first]
      apply records.writeAudio (records.audio_pts initialized) (records.audio_dts initialized)
      · exact ⟨rfl, id⟩
      · intro inOrder
        exact ⟨rfl, (unforced inOrder).2⟩
  | resetOutputTiming =>
    cases taken
    exact ⟨records.video, records.flushed_dts, records.flushed_pts, records.audio_pts,
      records.audio_dts, records.continuity⟩
  | close =>
    simp only [step] at taken
    split at taken
    · cases taken
      refine ⟨?_, .inl rfl, .inl rfl, ?_, ?_, records.continuity⟩ <;>
        · intro closed
          cases closed
    · cases taken
      exact records
  | flushedVideo own =>
    obtain ⟨_, written⟩ := Option.ite_none_left_eq_some.mp taken
    cases written
    exact records.writeVideo_flushed unforced

/-- **Output continuity**: over every run whose packets need no correction that their site forces, the
packets of each stream are in order, and corrected only when needed. -/
theorem written_continuous (actions : List Action) (final : Mux)
    (ran : runActions step Mux.initial actions = some final)
    (unforced : Along step Unforced Mux.initial actions) (stream : MuxStream) :
    Continuity (final.writtenTo stream) :=
  (invariant_along step Records Unforced
    (fun _ action _ records allowed taken => step_keeps_records action records allowed taken)
    actions records_initial unforced ran).continuity stream

/-- The first packet of the audio receive loop is in order already, and corrected. -/
theorem first_audio_forced : ∃ final,
    runActions step Mux.initial [.receivedAudio ⟨some 0, some 0⟩] = some final ∧
      ¬ Continuity (final.writtenTo .audio) := by
  refine ⟨_, rfl, ?_⟩
  intro continuity
  have same := continuity.minimal [] _ [] rfl (by decide)
  revert same
  decide

/-- A session: audio with priming, video with a repeated timestamp, and a packet that `close`
flushes. -/
theorem written_continuous_session : ∃ final,
    runActions step Mux.initial
        [.receivedAudio ⟨some (-1920), some (-1920)⟩, .fixedVideo ⟨some 0, some 0⟩,
          .fixedVideo ⟨some 0, some 3003⟩, .drainedAudio ⟨some 1920, some 1920⟩, .close,
          .flushedVideo ⟨some 3003, some 6006⟩] = some final ∧
      ∀ stream, Continuity (final.writtenTo stream) := by
  obtain ⟨final, ran, _⟩ := exists_run step Mux.initial
    [.receivedAudio ⟨some (-1920), some (-1920)⟩, .fixedVideo ⟨some 0, some 0⟩,
      .fixedVideo ⟨some 0, some 3003⟩, .drainedAudio ⟨some 1920, some 1920⟩, .close,
      .flushedVideo ⟨some 3003, some 6006⟩] (fun _ => True) (by decide)
  exact ⟨final, ran, written_continuous _ final ran (by decide)⟩

end Runs

end Retrovue.Air.Encoder
