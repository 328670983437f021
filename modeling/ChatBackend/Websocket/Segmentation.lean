import ChatBackend.Websocket.Frame

/-!
# Frames out of a stream that arrives in pieces

A byte stream fed to `FrameParse` chunk by chunk: append the chunk to the buffer, parse, collect the
frames, drop what was consumed, stop at an error.

## Main results

* `frameParse_segmentation` — the frames and what is left over do not depend on the cutting
-/

namespace ChatBackend

open Streaming

/-- The state of a stream that is fed chunk by chunk. -/
structure Feed where
  buffer : Bytes
  frames : List Frame
  consumed : ℕ
  failed : Bool
  deriving DecidableEq, Repr

namespace Feed

/-- Before the first chunk. -/
def start : Feed := ⟨[], [], 0, false⟩

/-- One more chunk; after an error nothing is parsed any more. -/
def push (feed : Feed) (chunk : Bytes) : Feed :=
  if feed.failed then feed
  else
    let bytes := feed.buffer ++ chunk
    let parsed := frameParse bytes
    { buffer := bytes.drop parsed.consumed
      frames := feed.frames ++ parsed.frames
      consumed := feed.consumed + parsed.consumed
      failed := parsed.status = .error }

/-- `run`: all the chunks. -/
def run (chunks : List Bytes) : Feed := chunks.foldl push start

/-- What has been made of the bytes so far: without an error, the frames of the stream and the bytes
that are left; with one, the place of the error and some of the frames before it. -/
structure Follows (feed : Feed) (stream : Bytes) : Prop where
  valid : feed.failed = false → framing.parse stream = ⟨feed.frames, feed.consumed, false⟩ ∧
    feed.buffer = stream.drop feed.consumed
  broken : feed.failed = true → (framing.parse stream).malformed = true ∧
    (framing.parse stream).taken = feed.consumed ∧
    feed.frames <+: (framing.parse stream).items

theorem follows_start : Follows start [] where
  valid := fun _ => ⟨parse_nil, rfl⟩
  broken := fun h => by cases h

theorem Follows.push {feed : Feed} {stream : Bytes} (h : Follows feed stream) (chunk : Bytes) :
    Follows (feed.push chunk) (stream ++ chunk) := by
  rcases hfailed : feed.failed with _ | _
  · obtain ⟨hparse, hbuffer⟩ := h.valid hfailed
    have hmalformed : (framing.parse stream).malformed = false := by rw [hparse]
    have hwhole := Framing.parse_append hmalformed chunk
    rw [hparse, ← hbuffer] at hwhole
    simp only at hwhole
    have hdrop : (feed.buffer ++ chunk).drop (framing.parse (feed.buffer ++ chunk)).taken =
        (stream ++ chunk).drop
          (feed.consumed + (framing.parse (feed.buffer ++ chunk)).taken) := by
      have hle := Framing.taken_le (F := framing) stream
      rw [hparse] at hle
      rw [← List.drop_drop, List.drop_append_of_le_length hle, hbuffer]
    rcases hnext : (framing.parse (feed.buffer ++ chunk)).malformed with _ | _
    · have hstatus : (frameParse (feed.buffer ++ chunk)).status ≠ .error := by
        rw [ne_eq, status_frameParse, hnext]
        simp
      constructor
      · intro _
        simp only [Feed.push, hfailed, Bool.false_eq_true, if_false, consumed_frameParse,
          frames_frameParse hnext]
        rw [hwhole, hnext]
        exact ⟨rfl, hdrop⟩
      · intro habsurd
        simp [Feed.push, hfailed, hstatus] at habsurd
    · have hstatus : (frameParse (feed.buffer ++ chunk)).status = .error :=
        (status_frameParse _).2 hnext
      constructor
      · intro habsurd
        simp [Feed.push, hfailed, hstatus] at habsurd
      · intro _
        simp only [Feed.push, hfailed, Bool.false_eq_true, if_false, consumed_frameParse,
          frames_frameParse_of_malformed hnext, List.append_nil]
        rw [hwhole]
        exact ⟨hnext, rfl, List.prefix_append _ _⟩
  · obtain ⟨hmalformed, htaken, hprefix⟩ := h.broken hfailed
    have hsame : feed.push chunk = feed := by rw [Feed.push, if_pos hfailed]
    have hwhole := Framing.parse_append_of_malformed hmalformed chunk
    rw [hsame]
    refine ⟨fun habsurd => ?_, fun _ => ?_⟩
    · rw [hfailed] at habsurd
      cases habsurd
    · rw [hwhole]
      exact ⟨hmalformed, htaken, hprefix⟩

theorem Follows.foldl {feed : Feed} {stream : Bytes} (h : Follows feed stream)
    (chunks : List Bytes) : Follows (chunks.foldl Feed.push feed) (stream ++ chunks.flatten) := by
  induction chunks generalizing feed stream with
  | nil =>
    rw [List.flatten_nil, List.append_nil]
    exact h
  | cons chunk chunks ih =>
    rw [List.flatten_cons, ← List.append_assoc]
    exact ih (h.push chunk)

theorem follows_run (chunks : List Bytes) : Follows (run chunks) chunks.flatten := by
  have h := follows_start.foldl chunks
  rwa [List.nil_append] at h

end Feed

/-- **Frame parsing is independent of segmentation.** However a byte string is cut into chunks: if
it parses without an error, the chunks yield the same frames and leave the same bytes over; if not,
the chunks run into the error too, at the same offset, and the frames they yield are a prefix of the
valid frames before it. -/
theorem frameParse_segmentation (chunks : List Bytes) :
    ((frameParse chunks.flatten).status ≠ .error →
      (Feed.run chunks).failed = false ∧
        (Feed.run chunks).frames = (frameParse chunks.flatten).frames ∧
        (Feed.run chunks).buffer = chunks.flatten.drop (frameParse chunks.flatten).consumed) ∧
    ((frameParse chunks.flatten).status = .error →
      (Feed.run chunks).failed = true ∧
        (Feed.run chunks).consumed = (frameParse chunks.flatten).consumed ∧
        ∃ valid : FrameParseResult,
          valid = frameParse (chunks.flatten.take (frameParse chunks.flatten).consumed) ∧
          valid.status ≠ .error ∧ valid.consumed = (frameParse chunks.flatten).consumed ∧
          (Feed.run chunks).frames <+: valid.frames) := by
  have hfollows := Feed.follows_run chunks
  rw [ne_eq, status_frameParse, consumed_frameParse]
  constructor
  · intro hvalid
    rw [Bool.not_eq_true] at hvalid
    rcases hfailed : (Feed.run chunks).failed with _ | _
    · obtain ⟨hparse, hbuffer⟩ := hfollows.valid hfailed
      rw [frames_frameParse hvalid, hparse]
      exact ⟨rfl, rfl, hbuffer⟩
    · rw [(hfollows.broken hfailed).1] at hvalid
      cases hvalid
  · intro hmalformed
    have hfailed : (Feed.run chunks).failed = true := by
      rcases hopen : (Feed.run chunks).failed with _ | _
      · rw [(hfollows.valid hopen).1] at hmalformed
        cases hmalformed
      · rfl
    obtain ⟨-, htaken, hprefix⟩ := hfollows.broken hfailed
    have hvalid := Framing.parse_take (F := framing) scan_nil chunks.flatten
    have hnot : (framing.parse
        (chunks.flatten.take (framing.parse chunks.flatten).taken)).malformed = false := by
      rw [hvalid]
    refine ⟨hfailed, htaken.symm, _, rfl, ?_, ?_, ?_⟩
    · rw [ne_eq, status_frameParse, hnot]
      simp
    · rw [consumed_frameParse, hvalid]
    · rw [frames_frameParse hnot, hvalid]
      exact hprefix

end ChatBackend
