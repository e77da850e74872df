import Craxii.Workstation.ExecutionCore

/-!
What draining a stream leaves, as a function of the bytes alone.
-/

namespace Craxii

open Utf8Text

def tailBytes (bytes : List UInt8) : List UInt8 :=
  bytes.drop (bytes.length - executionStreamProjectionTailBytes)

def drainedState (artifactId : ArtifactId) (hardLimit : Nat) (bytes : List UInt8) : DrainState where
  observed := bytes.length
  saturated := false
  first := bytes.take executionStreamProjectionBytes
  tail := tailBytes bytes
  capture := ⟨artifactId, hardLimit, bytes.length, bytes.take hardLimit⟩

def projectedBytes (bytes : List UInt8) : List UInt8 :=
  if bytes.length ≤ executionStreamProjectionBytes then bytes
  else bytes.take executionStreamProjectionHeadBytes ++ tailBytes bytes

def drainedStream (digest : List UInt8 → Sha256Digest) (artifactId : ArtifactId) (hardLimit : Nat)
    (bytes : List UInt8) : ExecutionStreamResult :=
  let captured := (bytes.take hardLimit).length
  { artifact := ⟨artifactId, digest (bytes.take hardLimit), captured, bytes.length,
      decide (captured < bytes.length)⟩
    projection := fromUtf8Lossy (projectedBytes bytes)
    projectionHadUtf8Replacement :=
      toUtf8 (fromUtf8Lossy (projectedBytes bytes)) != projectedBytes bytes
    observedBytes := bytes.length
    capturedBytes := captured
    omittedBytes := bytes.length - captured
    projectionOmittedBytes := bytes.length - (projectedBytes bytes).length
    observedCountSaturated := false
    truncated := decide (captured < bytes.length) }

theorem take_append_take (bytes chunk : List UInt8) (limit : Nat) :
    bytes.take limit ++ chunk.take (limit - (bytes.take limit).length) = (bytes ++ chunk).take limit := by
  rw [List.take_append, List.length_take]
  by_cases short : bytes.length ≤ limit
  · rw [Nat.min_eq_right short]
  · rw [Nat.min_eq_left (by omega), Nat.sub_self, Nat.sub_eq_zero_of_le (by omega)]

theorem retainTail_tailBytes (bytes chunk : List UInt8) :
    retainTail (tailBytes bytes) chunk = tailBytes (bytes ++ chunk) := by
  unfold retainTail tailBytes
  generalize executionStreamProjectionTailBytes = room
  rw [List.drop_append, List.length_append]
  split
  · have oldDropped : bytes.drop (bytes.length + chunk.length - room) = [] :=
      List.drop_eq_nil_of_le (by omega)
    have offset : bytes.length + chunk.length - room - bytes.length = chunk.length - room := by omega
    rw [oldDropped, List.nil_append, offset]
  · have chunkKept : bytes.length + chunk.length - room - bytes.length = 0 := by omega
    have offset : bytes.length - room + (bytes.length - (bytes.length - room) + chunk.length - room) =
        bytes.length + chunk.length - room := by omega
    rw [chunkKept, List.drop_zero, List.drop_drop, List.length_drop, offset]

section

variable (artifactId : ArtifactId) (hardLimit : Nat)

theorem drainChunk_drainedState (bytes chunk : List UInt8) :
    drainChunk (drainedState artifactId hardLimit bytes) chunk =
      if (bytes ++ chunk).length ≤ i64Max then some (drainedState artifactId hardLimit (bytes ++ chunk))
      else none := by
  unfold drainChunk ArtifactCapture.writeChunk
  simp only [drainedState, List.length_append]
  by_cases counted : bytes.length + chunk.length ≤ i64Max
  · have noOverflow : ¬u64Max < bytes.length + chunk.length := by
      simp only [i64Max, u64Max] at counted ⊢
      omega
    simp only [counted, noOverflow, ↓reduceIte, Option.bind_eq_bind, Option.bind_some, Bool.false_eq_true,
      take_append_take, retainTail_tailBytes, Bool.or_self, decide_false]
    rfl
  · simp only [counted, ↓reduceIte]
    rfl

theorem drainChunks_drainedState (chunks : List (List UInt8)) {bytes : List UInt8}
    (counted : bytes.length ≤ i64Max) :
    drainChunks (drainedState artifactId hardLimit bytes) chunks =
      if (bytes ++ chunks.flatten).length ≤ i64Max then
        some (drainedState artifactId hardLimit (bytes ++ chunks.flatten))
      else none := by
  induction chunks generalizing bytes with
  | nil => simp [drainChunks, counted]
  | cons chunk rest ih =>
    rw [drainChunks, drainChunk_drainedState, List.flatten_cons, ← List.append_assoc]
    by_cases next : (bytes ++ chunk).length ≤ i64Max
    · rw [if_pos next, Option.bind_some, ih next]
    · have total : ((bytes ++ chunk) ++ rest.flatten).length =
          (bytes ++ chunk).length + rest.flatten.length := List.length_append
      rw [if_neg next, Option.bind_none, if_neg (by omega)]

theorem drainStream_bytes (digest : List UInt8 → Sha256Digest) (chunks : List (List UInt8)) :
    drainStream digest (beginCapture artifactId hardLimit) chunks =
      if chunks.flatten.length ≤ i64Max then
        some (drainedStream digest artifactId hardLimit chunks.flatten)
      else none := by
  have start : (⟨0, false, [], [], beginCapture artifactId hardLimit⟩ : DrainState) =
      drainedState artifactId hardLimit [] := by
    simp [drainedState, tailBytes, beginCapture]
  unfold drainStream
  rw [start, drainChunks_drainedState _ _ _ (Nat.zero_le _), List.nil_append]
  by_cases counted : chunks.flatten.length ≤ i64Max
  · rw [if_pos counted, if_pos counted, Option.bind_eq_bind, Option.bind_some]
    simp only [drainedState, drainedStream, DrainState.projectionBytes, projectedBytes,
      ArtifactCapture.finalize, and_true, Bool.or_false, List.take_take]
    by_cases short : chunks.flatten.length ≤ executionStreamProjectionBytes
    · simp only [short, ↓reduceIte, List.take_of_length_le short]
      rfl
    · have head : min executionStreamProjectionHeadBytes executionStreamProjectionBytes =
          executionStreamProjectionHeadBytes := by decide
      simp only [short, ↓reduceIte, head]
      rfl
  · rw [if_neg counted, if_neg counted]
    rfl

end

theorem length_projectedBytes (bytes : List UInt8) :
    (projectedBytes bytes).length ≤ executionStreamProjectionBytes := by
  unfold projectedBytes tailBytes
  split
  · assumption
  · simp only [List.length_append, List.length_take, List.length_drop]
    simp only [executionStreamProjectionBytes, executionStreamProjectionHeadBytes,
      executionStreamProjectionTailBytes]
    omega

theorem drain_stream_exact (digest : List UInt8 → Sha256Digest) (artifactId : ArtifactId)
    (hardLimit : Nat) (chunks : List (List UInt8)) :
    (∀ others, others.flatten = chunks.flatten →
      drainStream digest (beginCapture artifactId hardLimit) others =
        drainStream digest (beginCapture artifactId hardLimit) chunks) ∧
    (chunks.flatten.length ≤ i64Max → ∃ stream shown,
      drainStream digest (beginCapture artifactId hardLimit) chunks = some stream ∧
      stream.observedBytes = chunks.flatten.length ∧ stream.projection = fromUtf8Lossy shown ∧
      (chunks.flatten.length ≤ executionStreamProjectionBytes →
        shown = chunks.flatten ∧ stream.projectionOmittedBytes = 0) ∧
      (executionStreamProjectionBytes < chunks.flatten.length → ∃ head middle tail,
        chunks.flatten = head ++ middle ++ tail ∧ head.length = executionStreamProjectionHeadBytes ∧
        tail.length = executionStreamProjectionTailBytes ∧ shown = head ++ tail ∧
        stream.projectionOmittedBytes = middle.length)) ∧
    (i64Max < chunks.flatten.length →
      drainStream digest (beginCapture artifactId hardLimit) chunks = none) := by
  refine ⟨?_, ?_, ?_⟩
  · intro others same
    rw [drainStream_bytes, drainStream_bytes, same]
  · intro counted
    refine ⟨_, projectedBytes chunks.flatten, (drainStream_bytes ..).trans (if_pos counted), rfl, rfl, ?_⟩
    simp only [drainedStream]
    generalize chunks.flatten = bytes
    constructor
    · intro short
      rw [projectedBytes, if_pos short, Nat.sub_self]
      exact ⟨rfl, rfl⟩
    · intro long
      have room : executionStreamProjectionHeadBytes + executionStreamProjectionTailBytes =
          executionStreamProjectionBytes := rfl
      have headLength : (bytes.take executionStreamProjectionHeadBytes).length =
          executionStreamProjectionHeadBytes := List.length_take_of_le (by omega)
      have tailLength : (tailBytes bytes).length = executionStreamProjectionTailBytes := by
        rw [tailBytes, List.length_drop]
        omega
      refine ⟨_, (bytes.take (bytes.length - executionStreamProjectionTailBytes)).drop
        executionStreamProjectionHeadBytes, tailBytes bytes, ?_, headLength, tailLength, ?_, ?_⟩
      · have whole := List.take_append_drop executionStreamProjectionHeadBytes
          (bytes.take (bytes.length - executionStreamProjectionTailBytes))
        rw [List.take_take, Nat.min_eq_left (by omega)] at whole
        rw [whole, tailBytes, List.take_append_drop]
      · rw [projectedBytes, if_neg (Nat.not_le_of_lt long)]
      · rw [projectedBytes, if_neg (Nat.not_le_of_lt long), List.length_append, headLength, tailLength,
          List.length_drop, List.length_take, Nat.min_eq_left (Nat.sub_le ..), Nat.sub_right_comm,
          Nat.sub_sub]
  · intro uncounted
    rw [drainStream_bytes, if_neg (Nat.not_le_of_lt uncounted)]

theorem drainStream_uncounted :
    ∃ bytes : List UInt8, bytes.length < 2 ^ 64 ∧ ∀ digest artifactId hardLimit,
      drainStream digest (beginCapture artifactId hardLimit) [bytes] = none := by
  refine ⟨List.replicate (i64Max + 1) 0, ?_, ?_⟩
  · rw [List.length_replicate]
    decide
  · intro digest artifactId hardLimit
    rw [drainStream_bytes, List.flatten_singleton, List.length_replicate, if_neg (by omega)]

end Craxii
