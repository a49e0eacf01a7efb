import Mathlib.Data.List.GetD
import Nyx.Foundations.ByteStreams

/-! # What short reads leave in place

A read that finds too few bytes leaves the rest of its destination as it was. A program that uses
the destination all the same goes on with what was left over there, which may be anything. Readers
then see one endless row of bytes: those of the stream, and behind them what was left over.

* **`LeftoverStream`** — a stream with something left over in the memory that its reads go to, and
  **`LeftoverStream.stream`** — the stream that readers run on.
* **`LeftoverStream.fill`** — memory after a read to it.
* **`LeftoverStream.seen`** — the bytes that reads see one after another, and
  **`LeftoverStream.wordAt`**, **`LeftoverStream.longAt`** — the numbers among them.
* **`Reader.run_block`**, **`Reader.run_u32`**, **`Reader.run_u64`** — what readers return there.
* **`Returns r`** — `r` does not fail on such a stream. -/

namespace Foundations

/-- A stream, and what is left over in memory, in the order in which reads fail to overwrite it. -/
@[ext]
structure LeftoverStream where
  bytes : List UInt8
  good : Bool := true
  leftover : Nat → UInt8
  /-- A read only fails at the end of the stream. -/
  ended : good = false → bytes = []

namespace LeftoverStream

/-- A stream of bytes that was not read from yet, with what its buffers hold where no byte
arrives. -/
def start (bytes : List UInt8) (leftover : Nat → UInt8) : LeftoverStream :=
  ⟨bytes, true, leftover, fun h => by cases h⟩

/-- The stream that readers run on, with its leftovers known. -/
def stream (input : LeftoverStream) : ByteStream :=
  ⟨input.bytes, input.good, some input.leftover⟩

/-- `n` bytes of memory after a read of `n` bytes to it, and the stream after the read. -/
def fill (n : Nat) (input : LeftoverStream) : List UInt8 × LeftoverStream :=
  let arrived := input.bytes.take n
  let missing := n - arrived.length
  (arrived ++ (List.range missing).map input.leftover,
    { bytes := input.bytes.drop n
      good := input.good && decide (n ≤ input.bytes.length)
      leftover := fun i => input.leftover (missing + i)
      ended := fun h => by
        rcases Bool.and_eq_false_iff.mp h with hbad | hshort
        · rw [input.ended hbad, List.drop_nil]
        · exact List.drop_of_length_le (Nat.le_of_not_le (of_decide_eq_false hshort)) })

/-- The bytes that reads see one after another: those of the stream, and behind its end the
leftovers. -/
def seen (input : LeftoverStream) (i : Nat) : UInt8 :=
  input.bytes.getD i (input.leftover (i - input.bytes.length))

theorem seen_of_lt {input : LeftoverStream} {i : Nat} (h : i < input.bytes.length) :
    input.seen i = input.bytes[i] :=
  List.getD_eq_getElem _ _ h

theorem seen_of_le {input : LeftoverStream} {i : Nat} (h : input.bytes.length ≤ i) :
    input.seen i = input.leftover (i - input.bytes.length) :=
  List.getD_eq_default _ _ h

/-- What a read brings and leaves, whether or not the stream has ended. -/
theorem read_stream (n : Nat) (input : LeftoverStream) :
    input.stream.read n = (input.bytes.take n, ⟨input.bytes.drop n,
      input.good && decide (n ≤ input.bytes.length), some input.leftover⟩) := by
  cases hgood : input.good with
  | true => simp [stream, ByteStream.read, hgood]
  | false => simp [stream, ByteStream.read, hgood, input.ended hgood]

@[simp] theorem bytes_fill (n : Nat) (input : LeftoverStream) :
    (input.fill n).2.bytes = input.bytes.drop n := rfl

@[simp] theorem good_fill (n : Nat) (input : LeftoverStream) :
    (input.fill n).2.good = (input.good && decide (n ≤ input.bytes.length)) := rfl

@[simp] theorem leftover_fill (n : Nat) (input : LeftoverStream) (i : Nat) :
    (input.fill n).2.leftover i = input.leftover (n - input.bytes.length + i) := by
  simp only [fill, List.length_take]
  congr 1
  omega

@[simp] theorem length_fill (n : Nat) (input : LeftoverStream) :
    (input.fill n).1.length = n := by
  simp [fill]

/-- After a read of `n` bytes the memory holds the next `n` bytes that are seen, whether they
arrived or were left over. -/
theorem fill_eq (n : Nat) (input : LeftoverStream) :
    (input.fill n).1 = (List.range n).map input.seen := by
  apply List.ext_getElem (by simp)
  intro i hleft hright
  have hi : i < n := by simpa using hright
  simp only [fill, List.getElem_map, List.getElem_range]
  by_cases h : i < input.bytes.length
  · rw [List.getElem_append_left (by simp; omega), seen_of_lt h]
    simp
  · have hmin : min n input.bytes.length = input.bytes.length := by omega
    rw [List.getElem_append_right (by simp; omega), seen_of_le (by omega)]
    simp [hmin]

/-- After a read the bytes that are seen next are those behind the ones that were read. -/
theorem seen_fill (n : Nat) (input : LeftoverStream) (i : Nat) :
    (input.fill n).2.seen i = input.seen (n + i) := by
  have hlength : (input.fill n).2.bytes.length = input.bytes.length - n := by simp
  by_cases h : n + i < input.bytes.length
  · have hi : i < (input.fill n).2.bytes.length := by omega
    rw [seen_of_lt h, seen_of_lt hi]
    simp
  · have hi : (input.fill n).2.bytes.length ≤ i := by omega
    rw [seen_of_le hi, seen_of_le (by omega), hlength, leftover_fill]
    congr 1
    omega

/-- Two reads one after the other leave what one read of both their bytes leaves. -/
theorem fill_add (m n : Nat) (input : LeftoverStream) :
    (input.fill (m + n)).2 = ((input.fill m).2.fill n).2 := by
  apply LeftoverStream.ext
  · rw [bytes_fill, bytes_fill, bytes_fill, List.drop_drop]
  · rw [good_fill, good_fill, good_fill, bytes_fill, List.length_drop, Bool.and_assoc,
      ← Bool.decide_and]
    congr 2
    apply propext
    omega
  · funext i
    rw [leftover_fill, leftover_fill, leftover_fill, bytes_fill, List.length_drop]
    congr 1
    omega

/-- A read of no bytes leaves the stream as it is, also at its end. -/
@[simp] theorem fill_zero (input : LeftoverStream) : (input.fill 0).2 = input := by
  apply LeftoverStream.ext
  · simp
  · simp
  · funext i
    simp

/-- The 32-bit word of the four bytes that are seen from an offset on. -/
def wordAt (input : LeftoverStream) (offset : Nat) : UInt32 :=
  .ofNat (leValue ((List.range 4).map fun i => input.seen (offset + i)))

/-- The 64-bit word of the eight bytes that are seen from an offset on. -/
def longAt (input : LeftoverStream) (offset : Nat) : UInt64 :=
  .ofNat (leValue ((List.range 8).map fun i => input.seen (offset + i)))

@[simp] theorem wordAt_fill (n : Nat) (input : LeftoverStream) (offset : Nat) :
    (input.fill n).2.wordAt offset = input.wordAt (n + offset) := by
  simp only [wordAt, seen_fill, Nat.add_assoc]

end LeftoverStream

/-- A computation of two parts that returned ran the first part to a result, and the second on what
that left. -/
theorem exists_of_run_bind {ε σ α β : Type} {f : StateT σ (Except ε) α}
    {g : α → StateT σ (Except ε) β} {s s' : σ} {b : β}
    (h : (f >>= g).run s = .ok (b, s')) :
    ∃ a mid, f.run s = .ok (a, mid) ∧ (g a).run mid = .ok (b, s') := by
  rw [StateT.run_bind] at h
  cases hf : f.run s with
  | error failure =>
      rw [hf] at h
      cases h
  | ok first =>
      rw [hf] at h
      exact ⟨first.1, first.2, rfl, h⟩

/-! ## Readers -/

namespace Reader

/-- A block is filled with the memory of one read, and the stream goes on behind it. -/
@[simp] theorem run_block (n : Nat) (input : LeftoverStream) :
    (block n).run input.stream = .ok ((input.fill n).1, (input.fill n).2.stream) := by
  simp only [block, StateT.run, input.read_stream n]
  by_cases hall : n - (input.bytes.take n).length = 0
  · -- nothing is missing, and what is left over stays as it is
    simp only [LeftoverStream.fill, LeftoverStream.stream, hall, if_true, List.range_zero,
      List.map_nil, List.append_nil, Nat.zero_add]
  · simp only [LeftoverStream.fill, LeftoverStream.stream, if_neg hall]

/-- A word that is read is the one seen at the front, and the stream goes on four bytes further. -/
@[simp] theorem run_u32 (input : LeftoverStream) :
    u32.run input.stream = .ok (input.wordAt 0, (input.fill 4).2.stream) := by
  rw [u32, run_bind_of_ok (run_block 4 input), LeftoverStream.fill_eq, LeftoverStream.wordAt]
  simp only [Nat.zero_add]
  rfl

/-- A long word that is read is the one seen at the front, and the stream goes on eight bytes
further. -/
@[simp] theorem run_u64 (input : LeftoverStream) :
    u64.run input.stream = .ok (input.longAt 0, (input.fill 8).2.stream) := by
  rw [u64, run_bind_of_ok (run_block 8 input), LeftoverStream.fill_eq, LeftoverStream.longAt]
  simp only [Nat.zero_add]
  rfl

end Reader

/-! ## Readers that return -/

/-- The reader returns, whatever the stream and whatever was left over. -/
def Returns {α : Type} (r : Reader α) : Prop :=
  ∀ input : LeftoverStream, ∃ a, ∃ after : LeftoverStream,
    r.run input.stream = .ok (a, after.stream)

namespace Returns

variable {α β σ : Type}

/-- A value that is returned without reading is returned on every stream with known leftovers. -/
theorem pure (a : α) : Returns (Pure.pure a) := fun input => ⟨a, input, rfl⟩

/-- Two readers that return on all streams with known leftovers do so in sequence, for whatever the
first one returns. -/
theorem bind {r : Reader α} {f : α → Reader β} (hr : Returns r) (hf : ∀ a, Returns (f a)) :
    Returns (r >>= f) := by
  intro input
  obtain ⟨a, after, hrun⟩ := hr input
  rw [Reader.run_bind_of_ok hrun]
  exact hf a after

/-- A word is returned on every stream with known leftovers, also past its end. -/
theorem u32 : Returns Reader.u32 := fun input => ⟨_, _, Reader.run_u32 input⟩

/-- A string is always returned: no use is made of what was left over behind its length. -/
theorem string : Returns Reader.string := by
  refine u32.bind fun length input => ?_
  have hread : (Reader.take length.toNat).run input.stream = .ok (input.bytes.take length.toNat,
      ({ (input.fill length.toNat).2 with leftover := input.leftover } : LeftoverStream).stream) :=
    congrArg Except.ok (input.read_stream length.toNat)
  rw [Reader.run_bind_of_ok hread]
  exact ⟨_, _, rfl⟩

/-- A loop returns on every stream with known leftovers when its body does in each state. -/
theorem fold {body : σ → Reader σ} (h : ∀ s, Returns (body s)) (n : Nat) (s : σ) :
    Returns (Reader.fold body n s) := by
  induction n generalizing s with
  | zero => exact pure s
  | succ n ih => exact (h s).bind ih

end Returns

end Foundations
