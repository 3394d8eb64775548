/-
**Discontinuity marks of HLS segments** (`streaming/hls_writer.py`).

* `TimedPacket.jumps`: the PCR of a packet does not continue the PCR before it, a wrap of the 33-bit
  counter being no jump;
* `Recording.Timed`, `Recording.Marked`: the PCR before each packet is that of the stream, and the
  segments that are marked are those with a jump;
* `Fair`: at a packet, what is measured from the start of the segment is what jumps, and a jump does
  not close the segment;
* `Tracking.feedPacket`: a fair packet keeps the pending mark on the packets of the open segment;
* `marked_of_fair`: over a fair run the segments are marked right.
-/

import Mathlib
import Retrovue.Core.Streams.Segmentation

namespace Retrovue.Core.Streams

open Retrovue.Foundation.Resync
open HLSSegmenter

/-! ### Jumps -/

section Jumps

/-- The time after which the PCR starts again. -/
def pcrPeriod : ℚ := 2 ^ 33 / 90000

/-- A PCR continues the one before it, perhaps over a wrap. -/
def Continues (limit earlier later : ℚ) : Prop :=
  (earlier ≤ later ∧ later - earlier ≤ limit) ∨
    (later < earlier ∧ later + pcrPeriod - earlier ≤ limit)

instance (limit earlier later : ℚ) : Decidable (Continues limit earlier later) :=
  inferInstanceAs (Decidable (_ ∨ _))

/-- The packet is the first with a PCR after a jump. -/
def TimedPacket.jumps (limit : ℚ) (seen : TimedPacket) : Bool :=
  match seen.before, extractPcr seen.packet with
  | some earlier, some later => !decide (Continues limit earlier later)
  | _, _ => false

/-- The last PCR of some packets. -/
def lastPcrOf (packets : List Packet) : Option ℚ :=
  packets.foldl (fun last packet => (extractPcr packet).or last) none

theorem lastPcrOf_append (packets : List Packet) (packet : Packet) :
    lastPcrOf (packets ++ [packet]) = (extractPcr packet).or (lastPcrOf packets) := by
  rw [lastPcrOf, List.foldl_append]
  rfl

/-- All recorded packets, in order. -/
def Recording.seen (r : Recording) : List TimedPacket :=
  r.closed.flatMap Prod.snd ++ r.openPackets

/-- The PCR noted before each packet is the last one of the stream before it. -/
def Recording.Timed (r : Recording) : Prop :=
  r.segmenter.lastPcr = lastPcrOf r.packets ∧
    ∀ earlier seen later, r.seen = earlier ++ seen :: later →
      seen.before = lastPcrOf (earlier.map TimedPacket.packet)

/-- A closed segment is marked, and its tag is in the playlist, exactly when one of its packets
jumps. -/
structure Recording.Marked (r : Recording) : Prop where
  flagged : ∀ c ∈ r.closed, (c.1.discontinuity = true ↔
    ∃ seen ∈ c.2, seen.jumps r.segmenter.maxPlausible = true)
  tagged : ∀ c ∈ r.closed, (PlaylistLine.discontinuity ∈ segmentLines c.1 ↔
    ∃ seen ∈ c.2, seen.jumps r.segmenter.maxPlausible = true)

/-- The tag of a segment. -/
theorem discontinuity_mem (segment : HLSSegment) :
    PlaylistLine.discontinuity ∈ segmentLines segment ↔ segment.discontinuity = true := by
  unfold segmentLines
  by_cases marked : segment.discontinuity = true
  · simp [marked]
  · simp [marked]

end Jumps

/-! ### What is detected -/

section Detection

/-- The PCR of the packet is out of range when measured from the start of the segment. -/
def HLSSegmenter.offBaseline (s : HLSSegmenter) (packet : Packet) : Bool :=
  match s.segStartPcr, extractPcr packet with
  | some start, some pcr => decide (s.OutOfRange (pcr - start))
  | _, _ => false

/-- The duration of the open segment is in range. -/
def Settled (s : HLSSegmenter) : Prop := ∀ dur, s.pcrDuration = some dur → ¬ s.OutOfRange dur

variable {s : HLSSegmenter} {packet : Packet}

/-- An empty duration is in range. -/
theorem zero_inRange (s : HLSSegmenter) : ¬ s.OutOfRange 0 := by
  rintro (negative | long)
  · exact lt_irrefl _ negative
  · have least : (120 : ℚ) ≤ s.maxPlausible := le_max_right _ _
    linarith

/-- A segment that starts at the last PCR is in range. -/
theorem settled_of_start (same : s.segStartPcr = s.lastPcr) : Settled s := by
  intro dur lasts
  unfold pcrDuration at lasts
  rw [same] at lasts
  cases last : s.lastPcr with
  | none =>
    rw [last] at lasts
    cases lasts
  | some pcr =>
    rw [last] at lasts
    cases lasts
    rw [sub_self]
    exact zero_inRange s

/-- The range depends on the target duration alone. -/
theorem outOfRange_congr {other : HLSSegmenter} (same : other.targetDuration = s.targetDuration)
    (dur : ℚ) : other.OutOfRange dur ↔ s.OutOfRange dur := by
  unfold OutOfRange maxPlausible
  rw [same]

/-- **A jump is detected** when the packet's own PCR is out of range. -/
theorem detects_iff (settled : Settled s) : s.Detects packet ↔ s.offBaseline packet = true := by
  have range := outOfRange_congr (notePcr_store s packet).targetDuration
  unfold Detects offBaseline pcrDuration
  rw [notePcr_segStartPcr, notePcr_lastPcr]
  cases pcr : extractPcr packet with
  | none =>
    rw [Option.or_none, Option.none_or]
    constructor
    · rintro ⟨dur, lasts, outside⟩
      exact absurd ((range dur).mp outside) (settled dur lasts)
    · cases s.segStartPcr with
      | none => exact fun impossible => absurd impossible Bool.false_ne_true
      | some start => exact fun impossible => absurd impossible Bool.false_ne_true
  | some pcr =>
    cases s.segStartPcr with
    | none =>
      constructor
      · rintro ⟨dur, lasts, outside⟩
        cases lasts
        rw [range, sub_self] at outside
        exact absurd outside (zero_inRange s)
      · exact fun impossible => absurd impossible Bool.false_ne_true
    | some start =>
      rw [decide_eq_true_eq]
      constructor
      · rintro ⟨dur, lasts, outside⟩
        cases lasts
        exact (range _).mp outside
      · exact fun outside => ⟨_, rfl, (range _).mpr outside⟩

variable (clock : ℕ → ℚ)

/-- What is measured from the start of the segment is what jumps, and a jump does not close the
segment. -/
structure Fair (s : HLSSegmenter) (packet : Packet) : Prop where
  measured : s.offBaseline packet = (⟨packet, s.lastPcr⟩ : TimedPacket).jumps s.maxPlausible
  kept : s.offBaseline packet = true → isKeyframePacket packet = true → s.segBuffer ≠ [] →
    (s.wallClockDuration clock).1 < s.targetDuration

/-- At a jump the duration is by the wall clock. -/
theorem estimate_wallClock (detects : s.Detects packet) :
    (s.estimate clock packet).1 = (s.wallClockDuration clock).1 := by
  have noted : (s.notePcr packet).segStartTime = s.segStartTime ∧
      (s.notePcr packet).clockReads = s.clockReads := by
    unfold notePcr
    cases extractPcr packet with
    | none => exact ⟨rfl, rfl⟩
    | some pcr => exact ⟨rfl, rfl⟩
  rw [estimate_detects clock s packet detects]
  unfold wallClockDuration
  dsimp only
  rw [noted.1, noted.2]
  cases s.segStartTime with
  | none => rfl
  | some start => rfl

/-- A fair packet does not close the segment at a jump. -/
theorem Fair.quiet (fair : Fair clock s packet) (settled : Settled s)
    (splits : s.splits clock packet = true) : ¬ s.Detects packet := by
  intro detects
  obtain ⟨long, key, some_⟩ := (splits_iff clock s packet).mp splits
  have short := fair.kept ((detects_iff settled).mp detects) key some_
  rw [estimate_wallClock clock detects] at long
  linarith

/-- What a packet leaves of the PCR, when it is added and when it closes the segment. -/
theorem feedPacket_pcr :
    (s.feedPacket clock packet).targetDuration = s.targetDuration ∧
      (s.feedPacket clock packet).lastPcr = (extractPcr packet).or s.lastPcr := by
  have last : (s.estimate clock packet).2.lastPcr = (extractPcr packet).or s.lastPcr := by
    by_cases detects : s.Detects packet
    · exact (estimate_of_detects clock s packet detects).2.1
    · exact (estimate_of_not_detects clock s packet detects).2.1
  have store := estimate_store clock s packet
  rw [feedPacket]
  by_cases splits : s.splits clock packet = true
  · rw [if_pos splits]
    exact ⟨store.targetDuration, last⟩
  · rw [if_neg splits]
    exact ⟨store.targetDuration, last⟩

/-- The duration of the open segment stays in range. -/
theorem Settled.feedPacket : Settled (s.feedPacket clock packet) := by
  rw [HLSSegmenter.feedPacket]
  by_cases splits : s.splits clock packet = true
  · rw [if_pos splits]
    exact settled_of_start rfl
  · rw [if_neg splits]
    by_cases detects : s.Detects packet
    · obtain ⟨-, last, start⟩ := estimate_of_detects clock s packet detects
      exact settled_of_start (start.trans last.symm)
    · obtain ⟨-, last, start⟩ := estimate_of_not_detects clock s packet detects
      intro dur lasts outside
      have store := estimate_store clock s packet
      have noted := notePcr_store s packet
      refine detects ⟨dur, ?_, ?_⟩
      · have same : (s.notePcr packet).pcrDuration = (s.estimate clock packet).2.pcrDuration := by
          unfold pcrDuration
          rw [notePcr_segStartPcr, notePcr_lastPcr, start, last]
        exact same.trans lasts
      · exact (outOfRange_congr (noted.targetDuration.trans store.targetDuration.symm) dur).mpr
          outside

end Detection

/-! ### Marked recordings -/

section Marks

variable (clock : ℕ → ℚ) {r : Recording}

/-- The mark that is pending is on the packets of the open segment, and the closed segments are marked
right. -/
structure Tracking (limit : ℚ) (r : Recording) : Prop where
  limit_eq : r.segmenter.maxPlausible = limit
  settled : Settled r.segmenter
  pending : r.segmenter.pendingDiscontinuity = true ↔
    ∃ seen ∈ r.openPackets, seen.jumps limit = true
  flagged : ∀ c ∈ r.closed, (c.1.discontinuity = true ↔ ∃ seen ∈ c.2, seen.jumps limit = true)

theorem started_tracking (targetDuration : ℚ) (maxSegments : ℕ) :
    Tracking (max (targetDuration * 10) 120) (started clock targetDuration maxSegments) where
  limit_eq := rfl
  settled := settled_of_start rfl
  pending := by
    constructor
    · intro impossible
      exact absurd impossible Bool.false_ne_true
    · rintro ⟨seen, member, -⟩
      cases member
  flagged := by
    intro c member
    cases member

/-- What the open segment's packets show, with one more. -/
theorem exists_jumps_append (limit : ℚ) (opened : List TimedPacket) (seen : TimedPacket) :
    (∃ other ∈ opened ++ [seen], other.jumps limit = true) ↔
      (∃ other ∈ opened, other.jumps limit = true) ∨ seen.jumps limit = true := by
  constructor
  · rintro ⟨other, member, jumps⟩
    rcases List.mem_append.mp member with earlier | here
    · exact .inl ⟨other, earlier, jumps⟩
    · cases List.mem_singleton.mp here
      exact .inr jumps
  · rintro (⟨other, member, jumps⟩ | jumps)
    · exact ⟨other, List.mem_append_left _ member, jumps⟩
    · exact ⟨seen, List.mem_append_right _ (List.mem_singleton_self seen), jumps⟩

/-- **A fair packet keeps the marks right.** -/
theorem Tracking.feedPacket {limit : ℚ} (tracking : Tracking limit r) {packet : Packet}
    (fair : Fair clock r.segmenter packet) : Tracking limit (r.feedPacket clock packet) := by
  obtain ⟨limit_eq, settled, pending, flagged⟩ := tracking
  have detects_jumps : r.segmenter.Detects packet ↔
      (⟨packet, r.segmenter.lastPcr⟩ : TimedPacket).jumps limit = true := by
    rw [detects_iff settled, fair.measured, limit_eq]
  have limit_kept : (r.segmenter.feedPacket clock packet).maxPlausible = limit := by
    rw [maxPlausible, (feedPacket_pcr clock).1]
    exact limit_eq
  unfold Recording.feedPacket
  by_cases splits : r.segmenter.splits clock packet = true
  · have quiet := fair.quiet clock settled splits
    have carried := (estimate_of_not_detects clock r.segmenter packet quiet).1
    simp only [if_pos splits]
    refine ⟨limit_kept, Settled.feedPacket clock, ?_, ?_⟩
    · -- nothing is pending, and the packet that opens the segment does not jump
      rw [HLSSegmenter.feedPacket, if_pos splits]
      constructor
      · intro impossible
        exact absurd impossible Bool.false_ne_true
      · rintro ⟨seen, member, jumps⟩
        cases List.mem_singleton.mp member
        exact absurd (detects_jumps.mpr jumps) quiet
    · intro c member
      rcases List.mem_append.mp member with earlier | here
      · exact flagged c earlier
      · cases List.mem_singleton.mp here
        exact (congrArg (· = true) carried).to_iff.trans pending
  · simp only [if_neg splits]
    refine ⟨limit_kept, Settled.feedPacket clock, ?_, flagged⟩
    rw [HLSSegmenter.feedPacket, if_neg splits, exists_jumps_append, ← pending, ← detects_jumps]
    show (r.segmenter.estimate clock packet).2.pendingDiscontinuity = true ↔ _
    by_cases detects : r.segmenter.Detects packet
    · rw [(estimate_of_detects clock r.segmenter packet detects).1]
      exact ⟨fun _ => .inr detects, fun _ => rfl⟩
    · rw [(estimate_of_not_detects clock r.segmenter packet detects).1]
      exact ⟨.inl, fun either => either.resolve_right detects⟩

/-- The packet is seen last. -/
theorem seen_feedPacket (packet : Packet) :
    (r.feedPacket clock packet).seen = r.seen ++ [⟨packet, r.segmenter.lastPcr⟩] := by
  unfold Recording.seen Recording.feedPacket
  by_cases splits : r.segmenter.splits clock packet = true
  · simp [splits]
  · simp [splits]

/-- Every packet is seen with the PCR before it. -/
theorem Recording.Timed.feedPacket (timed : r.Timed) (packet : Packet) :
    (r.feedPacket clock packet).Timed := by
  obtain ⟨last, before⟩ := timed
  refine ⟨?_, ?_⟩
  · rw [packets_feedPacket, lastPcrOf_append, ← last]
    exact (feedPacket_pcr clock).2
  · intro earlier seen later whole
    rw [seen_feedPacket] at whole
    rcases List.eq_nil_or_concat later with rfl | ⟨rest, final, rfl⟩
    · obtain ⟨rfl, same⟩ := List.append_inj' whole rfl
      obtain ⟨rfl, -⟩ := List.cons.inj same
      exact last
    · rw [List.concat_eq_append, ← List.cons_append, ← List.append_assoc] at whole
      exact before earlier seen rest (List.append_inj' whole rfl).1

/-- Every packet is fair. -/
def FairRun (s : HLSSegmenter) : List Packet → Prop
  | [] => True
  | packet :: rest => Fair clock s packet ∧ FairRun (s.feedPacket clock packet) rest

/-- Every packet of every chunk is fair. -/
def FairFeeds (r : Recording) : List (List UInt8) → Prop
  | [] => True
  | chunk :: rest =>
    FairRun clock r.segmenter (scan isSync tsPacketSize (r.segmenter.leftover ++ chunk)).1 ∧
      FairFeeds (r.feed clock chunk) rest

/-- Fair packets keep the marks right, and any packets are seen with the PCR before them. -/
theorem Tracking.foldl {limit : ℚ} (packets : List Packet) (tracking : Tracking limit r)
    (timed : r.Timed) (fair : FairRun clock r.segmenter packets) :
    Tracking limit (packets.foldl (Recording.feedPacket clock) r) ∧
      (packets.foldl (Recording.feedPacket clock) r).Timed := by
  induction packets generalizing r with
  | nil => exact ⟨tracking, timed⟩
  | cons packet rest ih =>
    exact ih (tracking.feedPacket clock fair.1) (timed.feedPacket clock packet) fair.2

/-- Fair chunks keep the marks right. -/
theorem Tracking.feedAll {limit : ℚ} (chunks : List (List UInt8)) (tracking : Tracking limit r)
    (timed : r.Timed) (fair : FairFeeds clock r chunks) :
    Tracking limit (r.feedAll clock chunks) ∧ (r.feedAll clock chunks).Timed := by
  induction chunks generalizing r with
  | nil => exact ⟨tracking, timed⟩
  | cons chunk rest ih =>
    obtain ⟨here, later⟩ := fair
    obtain ⟨tracks, times⟩ := tracking.foldl clock _ timed here
    exact ih (r := r.feed clock chunk)
      ⟨tracks.limit_eq, tracks.settled, tracks.pending, tracks.flagged⟩ times later

/-- The segments of a recording are those of the segmenter, each with its packets, and are marked
right. -/
structure Recording.Right (r : Recording) : Prop where
  sound : r.Sound
  timed : r.Timed
  marked : r.Marked

/-- **Over a fair run the discontinuities are marked right.** -/
theorem marked_of_fair (targetDuration : ℚ) (maxSegments : ℕ) (chunks : List (List UInt8))
    (fair : FairFeeds clock (started clock targetDuration maxSegments) chunks) :
    ((started clock targetDuration maxSegments).feedAll clock chunks).Right := by
  have sound := (feedAll_packets clock (started_sound clock targetDuration maxSegments) chunks).1
  have fresh_timed : (started clock targetDuration maxSegments).Timed := by
    refine ⟨rfl, ?_⟩
    intro earlier seen later whole
    exact absurd whole (by simp [Recording.seen, started])
  obtain ⟨tracks, timed⟩ :=
    (started_tracking clock targetDuration maxSegments).feedAll clock chunks fresh_timed fair
  refine ⟨sound, timed, ?_, ?_⟩
  · intro c member
    rw [tracks.limit_eq]
    exact tracks.flagged c member
  · intro c member
    rw [discontinuity_mem, tracks.limit_eq]
    exact tracks.flagged c member

instance (s : HLSSegmenter) (packet : Packet) : Decidable (Fair clock s packet) :=
  decidable_of_iff
    (s.offBaseline packet = (⟨packet, s.lastPcr⟩ : TimedPacket).jumps s.maxPlausible ∧
      (s.offBaseline packet = true → isKeyframePacket packet = true → s.segBuffer ≠ [] →
        (s.wallClockDuration clock).1 < s.targetDuration))
    ⟨fun both => ⟨both.1, both.2⟩, fun fair => ⟨fair.measured, fair.kept⟩⟩

instance decidableFairRun : ∀ (s : HLSSegmenter) (packets : List Packet),
    Decidable (FairRun clock s packets)
  | _, [] => inferInstanceAs (Decidable True)
  | s, packet :: rest =>
    haveI := decidableFairRun (s.feedPacket clock packet) rest
    inferInstanceAs (Decidable (_ ∧ _))

instance decidableFairFeeds : ∀ (r : Recording) (chunks : List (List UInt8)),
    Decidable (FairFeeds clock r chunks)
  | _, [] => inferInstanceAs (Decidable True)
  | r, chunk :: rest =>
    haveI := decidableFairFeeds (r.feed clock chunk) rest
    inferInstanceAs (Decidable (_ ∧ _))

/-- A packet with a PCR; the flag 0x40 makes it a keyframe. -/
def pcrPacket (flags high second third low : UInt8) : Packet :=
  [0x47, 1, 0, 0x30, 7, flags, high, second, third, low, 0, 0] ++ List.replicate 176 0

/-- Keyframes at 0, 1003 and 1006 seconds, with a jump to 1000 seconds at a packet between the first
two. -/
def jumpBetween : List Packet :=
  [pcrPacket 0x50 0 0 0 0, pcrPacket 0x10 2 174 165 64, pcrPacket 0x50 2 176 180 152,
    pcrPacket 0x50 2 178 195 240]

/-- The segment with the jump is marked and the next one is not. -/
theorem marked_jumpBetween :
    ((started (fun n => n) 2 10).feedAll (fun n => n) jumpBetween).Right ∧
      ((started (fun n => n) 2 10).feedAll (fun n => n) jumpBetween).closed.map
        (fun c => c.1.discontinuity) = [true, false] :=
  ⟨marked_of_fair (fun n => n) 2 10 jumpBetween (by decide +kernel), by decide +kernel⟩

/-- Keyframes at 0 and 1000 seconds: the first segment is marked, and all of it is before the jump. -/
theorem keyframe_jumps_marks_before :
    ¬ ∀ (clock : ℕ → ℚ) (targetDuration : ℚ) (maxSegments : ℕ) (chunks : List (List UInt8)),
      ((started clock targetDuration maxSegments).feedAll clock chunks).Right := by
  intro always
  have right := always (fun n => 10 * n) 6 10 [pcrPacket 0x50 0 0 0 0, pcrPacket 0x50 2 174 165 64]
  have shown : ∃ c ∈ ((started (fun n => 10 * n) 6 10).feedAll (fun n => 10 * n)
      [pcrPacket 0x50 0 0 0 0, pcrPacket 0x50 2 174 165 64]).closed,
      c.1.discontinuity = true ∧ ∀ seen ∈ c.2, seen.jumps 120 = false := by decide +kernel
  obtain ⟨c, member, marked, quiet⟩ := shown
  obtain ⟨seen, inside, jumps⟩ := (right.marked.flagged c member).mp marked
  have limit : ((started (fun n => 10 * n) 6 10).feedAll (fun n => 10 * n)
      [pcrPacket 0x50 0 0 0 0, pcrPacket 0x50 2 174 165 64]).segmenter.maxPlausible = 120 := by
    decide +kernel
  rw [limit, quiet seen inside] at jumps
  exact Bool.false_ne_true jumps

end Marks

end Retrovue.Core.Streams
