import Mathlib.Algebra.Order.Group.Nat
import Mathlib.Data.List.Basic

/-! # Reading binary data from a stream

A binary input stream with a failure flag, readers over it, and the encodings they read back:

* **`ByteStream.read`** — an unformatted read: a read that finds too few bytes takes what is left
  and sets the failure flag, and every later read gets nothing.
* **`Reader α`** — a computation on a stream. It fails where a program has no defined behaviour.
* **`Reader.block`** — a block of memory after a read to it. What a short read does not bring is
  what was left over there, and using it is a failure when nothing is known of that.
* **`Reads r bytes a`** — from a good stream that starts with `bytes`, `r` takes exactly these and
  returns `a`, whatever was left over in memory. `Reads.bind`, `Reads.fold`, … build such facts
  along the structure of a reader, so that a decoder is proved field by field.
* **`leBytes`**, **`leValue`** — numbers in little-endian order. -/

namespace Foundations

/-! ## Little-endian numbers -/

/-- The lowest `width` bytes of a number, the lowest first. -/
def leBytes : Nat → Nat → List UInt8
  | 0, _ => []
  | width + 1, n => UInt8.ofNat n :: leBytes width (n / 256)

/-- The number that bytes stand for, the lowest first. -/
def leValue : List UInt8 → Nat
  | [] => 0
  | byte :: bytes => byte.toNat + 256 * leValue bytes

@[simp] theorem length_leBytes (width n : Nat) : (leBytes width n).length = width := by
  induction width generalizing n with
  | zero => rfl
  | succ width ih => rw [leBytes, List.length_cons, ih]

/-- Reading back what was written gives the number, as far as it fits. -/
theorem leValue_leBytes (width n : Nat) : leValue (leBytes width n) = n % 256 ^ width := by
  induction width generalizing n with
  | zero => rw [leBytes, leValue, Nat.pow_zero, Nat.mod_one]
  | succ width ih =>
      have hbyte : (UInt8.ofNat n).toNat = n % 256 := rfl
      rw [leBytes, leValue, ih, hbyte, Nat.pow_succ, Nat.mul_comm (256 ^ width), Nat.mod_mul]

/-- The four bytes of a 32-bit word as a file has them, lowest first. -/
def encodeU32 (word : UInt32) : List UInt8 := leBytes 4 word.toNat

/-- The eight bytes of a 64-bit word as a file has them, lowest first. -/
def encodeU64 (word : UInt64) : List UInt8 := leBytes 8 word.toNat

/-- A string as a file has it: its length in a word, and then its bytes, without a zero at the
end. -/
def encodeString (string : List UInt8) : List UInt8 :=
  encodeU32 (UInt32.ofNat string.length) ++ string

@[simp] theorem length_encodeU32 (word : UInt32) : (encodeU32 word).length = 4 :=
  length_leBytes 4 _

@[simp] theorem length_encodeU64 (word : UInt64) : (encodeU64 word).length = 8 :=
  length_leBytes 8 _

@[simp] theorem length_encodeString (string : List UInt8) :
    (encodeString string).length = 4 + string.length := by
  rw [encodeString, List.length_append, length_encodeU32]

/-- A count below `2 ^ 32` that goes through an `unsigned` is the same count afterwards. -/
theorem toNat_ofNat_count {n : Nat} (h : n < 2 ^ 32) : (UInt32.ofNat n).toNat = n :=
  UInt32.toNat_ofNat_of_lt' h

/-- Words that are written one after another take four bytes each. -/
theorem length_flatMap_encodeU32 (words : List UInt32) :
    (words.flatMap encodeU32).length = words.length * 4 := by
  simp only [List.length_flatMap, length_encodeU32, List.map_const', List.sum_replicate_nat]

/-- The words that a list of bytes stands for, four bytes each; bytes left over at the end are
dropped. -/
def leWords : List UInt8 → List UInt32
  | a :: b :: c :: d :: bytes => UInt32.ofNat (leValue [a, b, c, d]) :: leWords bytes
  | _ => []

/-- As many words are read from bytes as there are complete groups of four of them. -/
theorem length_leWords (bytes : List UInt8) : (leWords bytes).length = bytes.length / 4 := by
  induction bytes using leWords.induct with
  | case1 a b c d bytes ih =>
      rw [leWords, List.length_cons, ih]
      simp only [List.length_cons]
      omega
  | case2 bytes h =>
      match bytes, h with
      | [], _ | [_], _ | [_, _], _ | [_, _, _], _ => simp [leWords]
      | a :: b :: c :: d :: rest, h => exact absurd rfl (h a b c d rest)

/-- A word that is written as four bytes and read back as a value is the same word. -/
theorem ofNat_leValue_encodeU32 (word : UInt32) :
    UInt32.ofNat (leValue (encodeU32 word)) = word := by
  have hlt : word.toNat < 256 ^ 4 := word.toNat_lt
  rw [encodeU32, leValue_leBytes, Nat.mod_eq_of_lt hlt, UInt32.ofNat_toNat]

/-- A long word that is written as eight bytes and read back as a value is the same word. -/
theorem ofNat_leValue_encodeU64 (word : UInt64) :
    UInt64.ofNat (leValue (encodeU64 word)) = word := by
  have hlt : word.toNat < 256 ^ 8 := word.toNat_lt
  rw [encodeU64, leValue_leBytes, Nat.mod_eq_of_lt hlt, UInt64.ofNat_toNat]

/-- Words that are written one after another and read back together are the same words. -/
theorem leWords_flatMap_encodeU32 (words : List UInt32) :
    leWords (words.flatMap encodeU32) = words := by
  induction words with
  | nil => rfl
  | cons word words ih =>
      have hword : encodeU32 word ++ words.flatMap encodeU32 = UInt8.ofNat word.toNat ::
          UInt8.ofNat (word.toNat / 256) :: UInt8.ofNat (word.toNat / 256 / 256) ::
          UInt8.ofNat (word.toNat / 256 / 256 / 256) :: words.flatMap encodeU32 := rfl
      rw [List.flatMap_cons, hword, leWords, ih]
      exact congrArg (· :: words) (ofNat_leValue_encodeU32 word)

/-! ## Streams -/

/-- An input stream: the bytes that were not read yet, and whether every read so far succeeded. -/
structure ByteStream where
  bytes : List UInt8
  good : Bool := true
  /-- What is left over in the memory that reads go to, in the order in which short reads fail to
  overwrite it; `none` when nothing is known of it, so that no use of it is defined. -/
  leftover : Option (Nat → UInt8) := none

/-- Read `n` bytes into a block: the bytes that arrive there, and the stream after it. -/
def ByteStream.read (n : Nat) (stream : ByteStream) : List UInt8 × ByteStream :=
  if stream.good then
    (stream.bytes.take n,
      { stream with bytes := stream.bytes.drop n, good := decide (n ≤ stream.bytes.length) })
  else ([], stream)

/-- What goes wrong in a reader, where the source goes on with memory that it should not use. -/
inductive StreamFailure
  /-- Memory is used that a short read left uninitialised, and of which nothing is known. -/
  | uninitialised
  /-- What was read is copied past the end of its destination. -/
  | overrun
  deriving DecidableEq, Repr

/-- A computation that reads a stream from where the last one stopped, and may go wrong. -/
abbrev Reader (α : Type) := StateT ByteStream (Except StreamFailure) α

namespace Reader

variable {σ : Type}

/-- The bytes that a read of `n` bytes puts into its block, maybe fewer. -/
def take (n : Nat) : Reader (List UInt8) := fun stream => .ok (stream.read n)

/-- A block of `n` bytes after a read to it, all of which are used. Behind the bytes that arrive
stands what was left over there; the next short read leaves what is left over behind that. -/
def block (n : Nat) : Reader (List UInt8) := fun stream =>
  let (arrived, after) := stream.read n
  let missing := n - arrived.length
  if missing = 0 then .ok (arrived, after)
  else
    match stream.leftover with
    | none => .error .uninitialised
    | some leftover =>
        .ok (arrived ++ (List.range missing).map leftover,
          { after with leftover := some fun i => leftover (missing + i) })

/-- Read a 32-bit word, as `read` does with the address of an `unsigned`. -/
def u32 : Reader UInt32 := do
  let bytes ← block 4
  pure (UInt32.ofNat (leValue bytes))

/-- Read a 64-bit word, as `read` does with the address of an `unsigned long long`. -/
def u64 : Reader UInt64 := do
  let bytes ← block 8
  pure (UInt64.ofNat (leValue bytes))

/-- Read a string after its length. The string is made of that many zeroes first, so that a short
read leaves the zeroes at its end. -/
def string : Reader (List UInt8) := do
  let length ← u32
  let bytes ← take length.toNat
  pure (bytes ++ List.replicate (length.toNat - bytes.length) 0)

/-- A loop of `n` rounds over a stream: do `body` in each of them, passing a state along. -/
def fold (body : σ → Reader σ) : Nat → σ → Reader σ
  | 0, s => pure s
  | n + 1, s => do fold body n (← body s)

/-- After a result the second of two readers goes on, with the stream that the first one left. -/
theorem run_bind_of_ok {α β : Type} {r : Reader α} {f : α → Reader β} {stream after : ByteStream}
    {a : α} (h : r.run stream = .ok (a, after)) : (r >>= f).run stream = (f a).run after := by
  rw [StateT.run_bind, h]
  rfl

end Reader

/-! ## What a reader reads -/

/-- From a good stream that starts with `bytes` the reader takes exactly these, and returns `a`. No
read is short, so that nothing depends on what was left over in memory. -/
def Reads {α : Type} (r : Reader α) (bytes : List UInt8) (a : α) : Prop :=
  ∀ rest leftover, r.run ⟨bytes ++ rest, true, leftover⟩ = .ok (a, ⟨rest, true, leftover⟩)

namespace Reads

variable {α β σ ι : Type}

/-- A value that is returned without reading takes no bytes of the stream. -/
theorem pure (a : α) : Reads (Pure.pure a : Reader α) [] a := fun _ _ => rfl

/-- A reader that reads certain bytes returns its value on any stream that starts with them,
whatever follows and whatever is left in the buffers. -/
theorem run' {r : Reader α} {bytes : List UInt8} {a : α} (h : Reads r bytes a)
    (rest : List UInt8) (leftover : Option (Nat → UInt8)) :
    StateT.run' r ⟨bytes ++ rest, true, leftover⟩ = .ok a := by
  rw [StateT.run'_eq, h rest leftover]
  rfl

/-- **Sequencing.** One reader after another reads one encoding after the other. -/
theorem bind {r : Reader α} {f : α → Reader β} {xs ys : List UInt8} {a : α} {b : β}
    (hr : Reads r xs a) (hf : Reads (f a) ys b) : Reads (r >>= f) (xs ++ ys) b := by
  intro rest leftover
  have hfirst := hr (ys ++ rest) leftover
  rw [List.append_assoc, StateT.run_bind, hfirst]
  exact hf rest leftover

/-- When the first of two readers takes no bytes, the two together read what the second one
reads. -/
theorem bind_nil {r : Reader α} {f : α → Reader β} {ys : List UInt8} {a : α} {b : β}
    (hr : Reads r [] a) (hf : Reads (f a) ys b) : Reads (r >>= f) ys b :=
  hr.bind hf

/-- A value that is computed from what was read takes no further bytes. -/
theorem bind_pure {r : Reader α} {f : α → β} {xs : List UInt8} {a : α} (hr : Reads r xs a) :
    Reads (r >>= fun a => Pure.pure (f a)) xs (f a) := by
  have h : Reads (r >>= fun a => Pure.pure (f a)) (xs ++ []) (f a) := hr.bind (pure (f a))
  rwa [List.append_nil] at h

/-- A read of as many bytes as a list has reads the list. -/
theorem take (bytes : List UInt8) : Reads (Reader.take bytes.length) bytes bytes := by
  intro rest leftover
  have hle : bytes.length ≤ (bytes ++ rest).length := by
    rw [List.length_append]
    exact Nat.le_add_right _ _
  simp only [Reader.take, StateT.run, ByteStream.read, if_true, List.take_left, List.drop_left,
    decide_eq_true hle]

/-- A block of as many bytes as a list has is filled with the list, so nothing stays in it from
before. -/
theorem block (bytes : List UInt8) : Reads (Reader.block bytes.length) bytes bytes := by
  intro rest leftover
  have hread : (⟨bytes ++ rest, true, leftover⟩ : ByteStream).read bytes.length
      = (bytes, ⟨rest, true, leftover⟩) := Except.ok.inj (take bytes rest leftover)
  -- all of the bytes arrive, so that none is missing
  simp only [Reader.block, StateT.run, hread, Nat.sub_self, if_true]

/-- A word is read back from its four bytes. -/
theorem u32 (word : UInt32) : Reads Reader.u32 (encodeU32 word) word := by
  have h := (block (encodeU32 word)).bind_pure (f := fun bytes => UInt32.ofNat (leValue bytes))
  rwa [ofNat_leValue_encodeU32, length_encodeU32] at h

/-- A long word is read back from its eight bytes. -/
theorem u64 (word : UInt64) : Reads Reader.u64 (encodeU64 word) word := by
  have h := (block (encodeU64 word)).bind_pure (f := fun bytes => UInt64.ofNat (leValue bytes))
  rwa [ofNat_leValue_encodeU64, length_encodeU64] at h

/-- A string is read back from its encoding, if the length in front of it says how long it is. -/
theorem string {string : List UInt8} (h : string.length < 2 ^ 32) :
    Reads Reader.string (encodeString string) string := by
  refine (u32 _).bind ?_
  rw [toNat_ofNat_count h]
  have hall := (take string).bind_pure
    (f := fun bytes => bytes ++ List.replicate (string.length - bytes.length) 0)
  rwa [Nat.sub_self, List.replicate_zero, List.append_nil] at hall

/-- **Loops.** A loop reads the encodings of a list of items when its body reads the encoding of
each item, whatever the state it starts from. -/
theorem fold {body : σ → Reader σ} {encode : ι → List UInt8} {step : σ → ι → σ}
    {items : List ι} (hbody : ∀ item ∈ items, ∀ s, Reads (body s) (encode item) (step s item))
    (s : σ) : Reads (Reader.fold body items.length s) (items.flatMap encode)
      (items.foldl step s) := by
  induction items generalizing s with
  | nil => exact pure s
  | cons item items ih =>
      have hhead := hbody item List.mem_cons_self s
      have htail := ih (fun other hmem => hbody other (List.mem_cons_of_mem item hmem))
        (step s item)
      rw [List.flatMap_cons, List.foldl_cons]
      exact hhead.bind htail

/-- **Collecting loops.** A loop whose body appends what it makes of the item it reads. -/
theorem collect_map {κ : Type} {g : ι → κ} {body : List κ → Reader (List κ)}
    {encode : ι → List UInt8} {items : List ι}
    (hbody : ∀ item ∈ items, ∀ acc, Reads (body acc) (encode item) (acc ++ [g item]))
    (acc : List κ) :
    Reads (Reader.fold body items.length acc) (items.flatMap encode) (acc ++ items.map g) := by
  have h : Reads (Reader.fold body items.length acc) (items.flatMap encode)
      (items.foldl (fun acc item => acc ++ [g item]) acc) := fold hbody acc
  have hall : items.foldl (fun acc item => acc ++ [g item]) acc = acc ++ items.map g := by
    rw [List.foldl_append_eq_append, ← List.flatMap_def, List.map_eq_flatMap]
  rwa [hall] at h

/-- A loop whose body appends the item it reads collects the items. -/
theorem collect {body : List ι → Reader (List ι)} {encode : ι → List UInt8} {items : List ι}
    (hbody : ∀ item ∈ items, ∀ acc, Reads (body acc) (encode item) (acc ++ [item]))
    (acc : List ι) :
    Reads (Reader.fold body items.length acc) (items.flatMap encode) (acc ++ items) := by
  have h := collect_map (g := id) hbody acc
  rwa [List.map_id] at h

end Reads

/-! ## Lengths of encodings -/

section Lengths

variable {ι : Type} {encode : ι → List UInt8} {items : List ι}

/-- The encoding of an item is no longer than that of the list it is in. -/
theorem length_le_length_flatMap {item : ι} (h : item ∈ items) :
    (encode item).length ≤ (items.flatMap encode).length := by
  obtain ⟨before, after, rfl⟩ := List.append_of_mem h
  rw [List.flatMap_append, List.flatMap_cons, List.length_append, List.length_append]
  omega

/-- When no item is encoded by nothing, there are at most as many items as there are bytes. -/
theorem length_le_length_flatMap_of_pos (h : ∀ item ∈ items, 0 < (encode item).length) :
    items.length ≤ (items.flatMap encode).length := by
  induction items with
  | nil => exact Nat.le_refl 0
  | cons item items ih =>
      have hhead := h item List.mem_cons_self
      have htail := ih fun other hmem => h other (List.mem_cons_of_mem item hmem)
      rw [List.flatMap_cons, List.length_append, List.length_cons]
      omega

end Lengths

end Foundations
