import Nyx.Foundations.ByteStreams

/-! # Streams that end too early

What a reader does on a stream that holds only the beginning of what it is meant to read, when
nothing is known of what was left over in memory. A reader that uses everything it reads fails
there. A reader that ends with a string does not need to: the string keeps zeroes where no bytes
arrived, so a stream can miss as many bytes as a string can have.

* **`Fails`** — a computation fails.
* **`Takes limit r bytes`** — `r` takes `bytes` from a good stream or fails; on a stream that ends
  before, it fails unless fewer than `limit` bytes are missing; on a stream that has failed before,
  it fails unless there is nothing to read.
* **`Takes.bind`**, **`Takes.bind_of_reads`**, **`Takes.fold`** — such facts along the structure of
  a reader.
* **`Throws r bytes`** — `r` fails on a good stream that starts with `bytes`, whatever was left over
  in memory. -/

namespace Foundations

/-- A computation fails when it returns no result; which failure it is does not matter. -/
def Fails {ε α : Type} (result : Except ε α) : Prop := ∃ failure, result = .error failure

/-- A computation that fails does not return any result. -/
theorem Fails.ne_ok {ε α : Type} {result : Except ε α} {a : α} (h : Fails result) :
    result ≠ .ok a := by
  obtain ⟨failure, rfl⟩ := h
  simp

/-- When the first of two computations fails, so do both in sequence, and the second is not
reached. -/
theorem Fails.bind {ε α β : Type} {result : Except ε α} {f : α → Except ε β} (h : Fails result) :
    Fails (result >>= f) := by
  obtain ⟨failure, rfl⟩ := h
  exact ⟨failure, rfl⟩

/-- A computation that fails still fails when its failure is given another name. -/
theorem Fails.mapError {ε ε' α : Type} {result : Except ε α} {f : ε → ε'} (h : Fails result) :
    Fails (result.mapError f) := by
  obtain ⟨failure, rfl⟩ := h
  exact ⟨f failure, rfl⟩

/-- A computation that fails still fails when its result would be put into another form. -/
theorem Fails.map {ε α β : Type} {result : Except ε α} {f : α → β} (h : Fails result) :
    Fails (f <$> result) := by
  obtain ⟨failure, rfl⟩ := h
  exact ⟨failure, rfl⟩

namespace Reader

variable {α β : Type} {r : Reader α} {f : α → Reader β} {stream : ByteStream}

/-- When the first of two readers fails on a stream, so do both in sequence on that stream. -/
theorem fails_run_bind (h : Fails (r.run stream)) : Fails ((r >>= f).run stream) := by
  rw [StateT.run_bind]
  exact h.bind

/-- A read from a stream that ends too early gets all the bytes that are left, and the stream has
failed from then on. -/
theorem run_take_of_lt {n : Nat} {start : List UInt8} (h : start.length < n)
    (leftover : Option (Nat → UInt8)) :
    (Reader.take n).run ⟨start, true, leftover⟩ = .ok (start, ⟨[], false, leftover⟩) := by
  simp [Reader.take, StateT.run, ByteStream.read, List.take_of_length_le h.le,
    List.drop_of_length_le h.le, h]

end Reader

section Takes

variable {α β σ ι : Type} {limit : Nat}

/-- How a reader takes the bytes it is meant for from a good stream, whether or not they are all
there. -/
structure TakesGood (limit : Nat) (r : Reader α) (bytes : List UInt8) : Prop where
  whole : ∀ rest, Fails (r.run ⟨bytes ++ rest, true, none⟩) ∨
    ∃ a, r.run ⟨bytes ++ rest, true, none⟩ = .ok (a, ⟨rest, true, none⟩)
  cut : ∀ start missing, start ++ missing = bytes → missing ≠ [] →
    Fails (r.run ⟨start, true, none⟩) ∨
      missing.length < limit ∧ ∃ a rest, r.run ⟨start, true, none⟩ = .ok (a, ⟨rest, false, none⟩)

/-- The same from any stream: after a failed read it can only go on when there is nothing to
read. -/
structure Takes (limit : Nat) (r : Reader α) (bytes : List UInt8) : Prop
    extends TakesGood limit r bytes where
  stuck : ∀ rest, Fails (r.run ⟨rest, false, none⟩) ∨
    bytes = [] ∧ ∃ a, r.run ⟨rest, false, none⟩ = .ok (a, ⟨rest, false, none⟩)

namespace Takes

/-- What a reader takes within a limit, it takes within any larger limit as well. -/
theorem mono {limit' : Nat} {r : Reader α} {bytes : List UInt8} (h : Takes limit r bytes)
    (hle : limit ≤ limit') : Takes limit' r bytes where
  whole := h.whole
  cut start missing heq hne :=
    (h.cut start missing heq hne).imp_right fun hshort => ⟨by omega, hshort.2⟩
  stuck := h.stuck

/-- A stream that misses as many bytes as the limit makes the reader fail. -/
theorem fails_of_le {r : Reader α} {start missing : List UInt8}
    (h : Takes limit r (start ++ missing)) (hlimit : limit ≤ missing.length)
    (hne : missing ≠ []) : Fails (r.run ⟨start, true, none⟩) := by
  rcases h.cut start missing rfl hne with hfails | ⟨hlt, -⟩
  · exact hfails
  · omega

/-- A value that is returned without reading takes no bytes, within any limit. -/
theorem pure (limit : Nat) (a : α) : Takes limit (Pure.pure a : Reader α) [] where
  whole _ := Or.inr ⟨a, rfl⟩
  cut _ _ heq hne := absurd (List.append_eq_nil_iff.mp heq).2 hne
  stuck _ := Or.inr ⟨rfl, a, rfl⟩

/-- A reader that fails at once takes no bytes, within any limit. -/
theorem throw (limit : Nat) (failure : StreamFailure) :
    Takes limit (MonadExcept.throw failure : Reader α) [] where
  whole _ := Or.inl ⟨failure, rfl⟩
  cut _ _ heq hne := absurd (List.append_eq_nil_iff.mp heq).2 hne
  stuck _ := Or.inl ⟨failure, rfl⟩

/-- The beginning of two encodings ends in the first or in the second. -/
theorem append_cases {start missing xs ys : List UInt8} (h : start ++ missing = xs ++ ys) :
    (∃ start', start = xs ++ start' ∧ start' ++ missing = ys) ∨
      ∃ missing', missing' ≠ [] ∧ start ++ missing' = xs ∧ missing = missing' ++ ys := by
  rcases List.append_eq_append_iff.mp h with ⟨gap, hxs, hmissing⟩ | ⟨gap, hstart, hys⟩
  · by_cases hgap : gap = []
    · subst hgap
      refine Or.inl ⟨[], ?_, ?_⟩
      · simpa using hxs.symm
      · simpa using hmissing
    · exact Or.inr ⟨gap, hgap, hxs.symm, hmissing⟩
  · exact Or.inl ⟨gap, hstart, hys.symm⟩

/-- **Sequencing.** A reader, and one whose bytes do not depend on what the first returned. -/
theorem bind {r : Reader α} {f : α → Reader β} {xs ys : List UInt8} (hr : Takes limit r xs)
    (hf : ∀ a, Takes limit (f a) ys) : Takes limit (r >>= f) (xs ++ ys) where
  whole rest := by
    rw [List.append_assoc]
    rcases hr.whole (ys ++ rest) with hfails | ⟨a, hok⟩
    · exact Or.inl (Reader.fails_run_bind hfails)
    · rw [Reader.run_bind_of_ok hok]
      exact (hf a).whole rest
  cut start missing heq hne := by
    rcases append_cases heq with ⟨start', rfl, hys⟩ | ⟨missing', hne', hxs, rfl⟩
    · -- all of the first encoding is there
      rcases hr.whole start' with hfails | ⟨a, hok⟩
      · exact Or.inl (Reader.fails_run_bind hfails)
      · rw [Reader.run_bind_of_ok hok]
        exact (hf a).cut start' missing hys hne
    · rcases hr.cut start missing' hxs hne' with hfails | ⟨hlt, a, rest, hok⟩
      · exact Or.inl (Reader.fails_run_bind hfails)
      · -- the first reader did without the missing bytes, and the second gets none
        rw [Reader.run_bind_of_ok hok]
        rcases (hf a).stuck rest with hfails | ⟨rfl, b, hok'⟩
        · exact Or.inl hfails
        · exact Or.inr ⟨by simpa using hlt, b, rest, hok'⟩
  stuck rest := by
    rcases hr.stuck rest with hfails | ⟨rfl, a, hok⟩
    · exact Or.inl (Reader.fails_run_bind hfails)
    · rw [Reader.run_bind_of_ok hok]
      exact (hf a).stuck rest

/-- When the first of two readers takes no bytes, the two together take what the second one
takes. -/
theorem bind_nil {r : Reader α} {f : α → Reader β} {ys : List UInt8} (hr : Takes limit r [])
    (hf : ∀ a, Takes limit (f a) ys) : Takes limit (r >>= f) ys :=
  hr.bind hf

/-- A value that is computed from what was read takes no bytes beyond those. -/
theorem bind_pure {r : Reader α} {f : α → β} {xs : List UInt8} (hr : Takes limit r xs) :
    Takes limit (r >>= fun a => Pure.pure (f a)) xs := by
  have h : Takes limit (r >>= fun a => Pure.pure (f a)) (xs ++ []) := hr.bind fun a => pure _ (f a)
  rwa [List.append_nil] at h

/-- **Sequencing by a value.** A reader that fails without all of its bytes, and one that reads what
the value of the first says. -/
theorem bind_of_reads {r : Reader α} {f : α → Reader β} {xs ys : List UInt8} {a : α}
    (hr : Takes 0 r xs) (hreads : Reads r xs a) (hne : xs ≠ []) (hf : TakesGood limit (f a) ys) :
    Takes limit (r >>= f) (xs ++ ys) where
  whole rest := by
    rw [List.append_assoc, Reader.run_bind_of_ok (hreads (ys ++ rest) none)]
    exact hf.whole rest
  cut start missing heq hmissing := by
    rcases append_cases heq with ⟨start', rfl, hys⟩ | ⟨missing', hne', hxs, rfl⟩
    · rw [Reader.run_bind_of_ok (hreads start' none)]
      exact hf.cut start' missing hys hmissing
    · rcases hr.cut start missing' hxs hne' with hfails | ⟨hlt, -⟩
      · exact Or.inl (Reader.fails_run_bind hfails)
      · omega
  stuck rest := by
    rcases hr.stuck rest with hfails | ⟨hnil, -⟩
    · exact Or.inl (Reader.fails_run_bind hfails)
    · exact absurd hnil hne

/-- **Loops.** A loop over items whose body takes the encoding of each of them. -/
theorem fold {body : σ → Reader σ} {encode : ι → List UInt8} {items : List ι}
    (hbody : ∀ item ∈ items, ∀ s, Takes limit (body s) (encode item)) (s : σ) :
    Takes limit (Reader.fold body items.length s) (items.flatMap encode) := by
  induction items generalizing s with
  | nil => exact pure limit s
  | cons item items ih =>
      rw [List.flatMap_cons]
      exact (hbody item List.mem_cons_self s).bind
        (ih fun other hmem => hbody other (List.mem_cons_of_mem item hmem))

/-- A list that something has to be added to is shorter than the whole. -/
theorem length_lt_of_append {start missing bytes : List UInt8} (h : start ++ missing = bytes)
    (hne : missing ≠ []) : start.length < bytes.length := by
  have hpos : 0 < missing.length := List.length_pos_iff.mpr hne
  rw [← h, List.length_append]
  omega

/-- A block of as many bytes as a list has takes the list. When it is cut short, the rest of the
block is uninitialised, and the reader fails. -/
theorem block (bytes : List UInt8) : Takes 0 (Reader.block bytes.length) bytes where
  whole rest := Or.inr ⟨bytes, Reads.block bytes rest none⟩
  cut start missing heq hne := by
    have hlt := length_lt_of_append heq hne
    have hmissing : ¬ bytes.length - start.length = 0 := Nat.sub_ne_zero_of_lt hlt
    have hread : (⟨start, true, none⟩ : ByteStream).read bytes.length
        = (start, ⟨[], false, none⟩) := Except.ok.inj (Reader.run_take_of_lt hlt none)
    refine Or.inl ⟨.uninitialised, ?_⟩
    simp only [Reader.block, StateT.run, hread, if_neg hmissing]
  stuck rest := by
    have hread : (⟨rest, false, none⟩ : ByteStream).read bytes.length
        = ([], ⟨rest, false, none⟩) := rfl
    by_cases hnil : bytes = []
    · subst hnil
      exact Or.inr ⟨rfl, [], rfl⟩
    · have hmissing : ¬ bytes.length - ([] : List UInt8).length = 0 := by
        simpa using hnil
      refine Or.inl ⟨.uninitialised, ?_⟩
      simp only [Reader.block, StateT.run, hread, if_neg hmissing]

/-- A word takes its four bytes, and fails when some of them are missing. -/
theorem u32 (word : UInt32) : Takes 0 Reader.u32 (encodeU32 word) := by
  have h := (block (encodeU32 word)).bind_pure (f := fun bytes => UInt32.ofNat (leValue bytes))
  rwa [length_encodeU32] at h

/-- A long word takes its eight bytes, and fails when some of them are missing. -/
theorem u64 (word : UInt64) : Takes 0 Reader.u64 (encodeU64 word) := by
  have h := (block (encodeU64 word)).bind_pure (f := fun bytes => UInt64.ofNat (leValue bytes))
  rwa [length_encodeU64] at h

/-- A word and then a reader that depends on its value, on a stream that has not failed: the reader
may use that the word was complete. -/
theorem bind_u32_good {f : UInt32 → Reader β} {word : UInt32} {ys : List UInt8}
    (hf : TakesGood limit (f word) ys) : Takes limit (Reader.u32 >>= f) (encodeU32 word ++ ys) :=
  (u32 word).bind_of_reads (Reads.u32 word)
    (List.ne_nil_of_length_pos (by rw [length_encodeU32]; exact Nat.succ_pos 3)) hf

/-- A word takes its four bytes, and then a reader that depends on its value takes the rest. -/
theorem bind_u32 {f : UInt32 → Reader β} {word : UInt32} {ys : List UInt8}
    (hf : Takes limit (f word) ys) : Takes limit (Reader.u32 >>= f) (encodeU32 word ++ ys) :=
  bind_u32_good hf.toTakesGood

/-- A long word takes its eight bytes, and then a reader that depends on its value takes the
rest. -/
theorem bind_u64 {f : UInt64 → Reader β} {word : UInt64} {ys : List UInt8}
    (hf : Takes limit (f word) ys) : Takes limit (Reader.u64 >>= f) (encodeU64 word ++ ys) :=
  (u64 word).bind_of_reads (Reads.u64 word)
    (List.ne_nil_of_length_pos (by rw [length_encodeU64]; exact Nat.succ_pos 7)) hf.toTakesGood

/-- A string takes its encoding. Its buffer is made of zeroes, so it has those where no bytes
arrive, and does not fail. -/
theorem string {string : List UInt8} (h : string.length < 2 ^ 32) :
    Takes (2 ^ 32) Reader.string (encodeString string) := by
  refine bind_u32_good ⟨fun rest => ?_, fun start missing heq hne => ?_⟩ <;>
    rw [toNat_ofNat_count h]
  · exact Or.inr ⟨_, (Reads.take string).bind_pure (f := fun bytes =>
      bytes ++ List.replicate (string.length - bytes.length) 0) rest none⟩
  · have hlt := length_lt_of_append heq hne
    have hall : start.length + missing.length = string.length := by
      rw [← heq, List.length_append]
    rw [Reader.run_bind_of_ok (Reader.run_take_of_lt hlt none)]
    exact Or.inr ⟨by omega, _, [], rfl⟩

end Takes

end Takes

/-! ## Failing readers -/

section Throws

variable {α β σ ι : Type}

/-- On a good stream that starts with `bytes` the reader fails, whatever was left over in memory. -/
def Throws (r : Reader α) (bytes : List UInt8) : Prop :=
  ∀ rest leftover, Fails (r.run ⟨bytes ++ rest, true, leftover⟩)

namespace Throws

/-- When the first of two readers fails on some bytes, the two in sequence fail on any bytes that
start with them. -/
theorem bind_left {r : Reader α} {f : α → Reader β} {xs : List UInt8} (h : Throws r xs)
    (ys : List UInt8) : Throws (r >>= f) (xs ++ ys) := by
  intro rest leftover
  rw [List.append_assoc]
  exact Reader.fails_run_bind (h (ys ++ rest) leftover)

/-- A reader that fails on some bytes still fails there when a value would be computed from what it
read. -/
theorem bind_pure {r : Reader α} {f : α → β} {xs : List UInt8} (h : Throws r xs) :
    Throws (r >>= fun a => Pure.pure (f a)) xs := by
  have hthrows : Throws (r >>= fun a => Pure.pure (f a)) (xs ++ []) := h.bind_left []
  rwa [List.append_nil] at hthrows

/-- When the first of two readers reads some bytes and the second fails on those behind, the two in
sequence fail on all of them. -/
theorem bind_right {r : Reader α} {f : α → Reader β} {xs ys : List UInt8} {a : α}
    (hr : Reads r xs a) (hf : Throws (f a) ys) : Throws (r >>= f) (xs ++ ys) := by
  intro rest leftover
  rw [List.append_assoc, Reader.run_bind_of_ok (hr (ys ++ rest) leftover)]
  exact hf rest leftover

/-- **Loops.** A loop fails when its body fails at one of the items and reads the others. -/
theorem fold {body : σ → Reader σ} {encode : ι → List UInt8} {Bad : ι → Prop} {items : List ι}
    (hgood : ∀ item ∈ items, ¬ Bad item → ∀ s, ∃ s', Reads (body s) (encode item) s')
    (hbad : ∀ item ∈ items, Bad item → ∀ s, Throws (body s) (encode item))
    (h : ∃ item ∈ items, Bad item) (s : σ) :
    Throws (Reader.fold body items.length s) (items.flatMap encode) := by
  induction items generalizing s with
  | nil => simp at h
  | cons item items ih =>
      rw [List.flatMap_cons]
      by_cases hitem : Bad item
      · exact (hbad item List.mem_cons_self hitem s).bind_left _
      · -- the first item is read, so a later one is bad
        obtain ⟨s', hreads⟩ := hgood item List.mem_cons_self hitem s
        refine bind_right hreads (ih
          (fun other hmem => hgood other (List.mem_cons_of_mem item hmem))
          (fun other hmem => hbad other (List.mem_cons_of_mem item hmem)) ?_ s')
        obtain ⟨other, hmem, hother⟩ := h
        rcases List.mem_cons.mp hmem with rfl | htail
        · exact absurd hother hitem
        · exact ⟨other, htail, hother⟩

end Throws

end Throws

end Foundations
