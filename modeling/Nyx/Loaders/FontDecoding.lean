import Nyx.Foundations.MagicNumbers
import Nyx.Loaders.NttFiles

/-! # Decoding font files

`NttFile::load` reads back what a `.ntt` file encodes, whatever was loaded before:

* **`reads_glyph`**, **`reads_charactersV1`** — what the parts of the loader read.
* **`loadedNtt`** — the object after the file was loaded: in both maps the last record of a
  character wins.
* **`NttFileData.load_shows_glyphs`** — the accessors show the last record of each character. -/

namespace Nyx

open Foundations NttFile

namespace NttFileData

/-! ## Parts of a file -/

/-- A signed number is read back from its four bytes. -/
theorem reads_integer (value : Int32) : Reads readInteger (encodeI32 value) value := by
  have h := (Reads.u32 value.toUInt32).bind_pure (f := UInt32.toInt32)
  rwa [Int32.toInt32_toUInt32] at h

/-- A single byte is read back as a character. -/
theorem reads_character (ch : UInt8) : Reads readCharacter [ch] ch :=
  (Reads.block [ch]).bind_pure

/-- The object with one more record, which takes the place of an earlier one of the same
character. -/
def withGlyph (data : NttFileData) (glyph : GlyphRecord) : NttFileData :=
  { data with
    characters := data.characters.insert glyph.character glyph.metrics
    characterBuffers := data.characterBuffers.insert glyph.character
      (some glyph.buffer, .ofNat glyph.buffer.length) }

/-- A record of a glyph is read back, and goes into both maps of the object. -/
theorem reads_glyph {glyph : GlyphRecord} (h : glyph.encode.length < 2 ^ 32)
    (data : NttFileData) : Reads (readGlyph data) glyph.encode (data.withGlyph glyph) := by
  simp only [GlyphRecord.encode, List.length_append] at h
  simp only [GlyphRecord.encode, List.append_assoc]
  have hbuffer : Reads (readBytes (.ofNat glyph.buffer.length)) glyph.buffer glyph.buffer := by
    rw [readBytes, toNat_ofNat_count (by omega)]
    exact Reads.block _
  refine (reads_character _).bind ?_
  refine (Reads.u32 _).bind ?_
  refine (reads_integer _).bind ((reads_integer _).bind ?_)
  refine (reads_integer _).bind ((reads_integer _).bind ?_)
  exact (Reads.u32 _).bind hbuffer.bind_pure

/-- A record takes at least one byte, so the number of records is bounded by the size of the
file. -/
theorem length_glyph_pos (glyph : GlyphRecord) : 0 < glyph.encode.length := by
  simp only [GlyphRecord.encode, List.length_append, List.length_singleton]
  omega

/-- There are at most as many records as their encoding has bytes. -/
theorem length_le_flatMap_glyph (glyphs : List GlyphRecord) :
    glyphs.length ≤ (glyphs.flatMap GlyphRecord.encode).length :=
  length_le_length_flatMap_of_pos fun glyph _ => length_glyph_pos glyph

/-- The records are read back by the loop over them, each going into the maps of the object. -/
theorem reads_charactersV1 {glyphs : List GlyphRecord}
    (h : (glyphs.flatMap GlyphRecord.encode).length < 2 ^ 32) (data : NttFileData) :
    Reads (readCharactersV1 data)
      (encodeU32 (.ofNat glyphs.length) ++ glyphs.flatMap GlyphRecord.encode)
      (glyphs.foldl withGlyph data) := by
  have hcount := length_le_flatMap_glyph glyphs
  refine (Reads.u32 _).bind ?_
  rw [toNat_ofNat_count (by omega)]
  refine Reads.fold (fun glyph hmem data => reads_glyph ?_ data) data
  exact Nat.lt_of_le_of_lt (length_le_length_flatMap hmem) h

end NttFileData

open NttFileData

/-! ## The file -/

/-- The object after a file with these records was loaded. -/
def loadedNtt (glyphs : List GlyphRecord) : NttFileData :=
  glyphs.foldl withGlyph { version := 1 }

namespace NttFileData

/-- **A whole file is read back** by an object that was reset, and the load reports success. -/
theorem reads_file (data : NttFileData) {glyphs : List GlyphRecord}
    (h : (encodeNtt glyphs).length < 2 ^ 32) :
    Reads (readFile data.reset) (encodeNtt glyphs) (true, loadedNtt glyphs) := by
  simp only [encodeNtt, List.length_append] at h
  simp only [encodeNtt, List.append_assoc]
  refine Reads.guarded ?_
  refine (Reads.u32 _).bind ?_
  rw [if_pos rfl]
  exact reads_charactersV1 (by omega) _

/-- The maps of characters and of images after a sequence of records. -/
theorem maps_foldl_withGlyph (data : NttFileData) (glyphs : List GlyphRecord) :
    (glyphs.foldl withGlyph data).characters
        = (glyphs.map fun glyph => (glyph.character, glyph.metrics)).foldl
            (fun m pair => m.insert pair.1 pair.2) data.characters ∧
      (glyphs.foldl withGlyph data).characterBuffers
        = (glyphs.map fun glyph => (glyph.character, some glyph.buffer,
            UInt32.ofNat glyph.buffer.length)).foldl
            (fun m pair => m.insert pair.1 pair.2) data.characterBuffers := by
  induction glyphs generalizing data with
  | nil => exact ⟨rfl, rfl⟩
  | cons glyph glyphs ih => exact ih (data.withGlyph glyph)

end NttFileData

/-- The last record that a list has for a character, which is the one that the maps keep. -/
def lastGlyph (ch : UInt8) (glyphs : List GlyphRecord) : Option GlyphRecord :=
  glyphs.reverse.find? (·.character = ch)

/-- What the last record of a character says is the last value listed for it. -/
theorem lastOf_glyphs {α : Type} (f : GlyphRecord → α) (ch : UInt8) (glyphs : List GlyphRecord) :
    lastOf ch (glyphs.map fun glyph => (glyph.character, f glyph))
      = (lastGlyph ch glyphs).map f := by
  rw [lastOf, firstOf, lastGlyph, ← List.map_reverse, List.find?_map, Option.map_map]
  rfl

/-- **Both maps come from the last record** of each character: its metrics, and its pixels with
their number. -/
theorem getElem?_loadedNtt (glyphs : List GlyphRecord) (ch : UInt8) :
    (loadedNtt glyphs).characters[ch]? = (lastGlyph ch glyphs).map GlyphRecord.metrics ∧
      (loadedNtt glyphs).characterBuffers[ch]?
        = (lastGlyph ch glyphs).map fun glyph =>
            (some glyph.buffer, UInt32.ofNat glyph.buffer.length) := by
  obtain ⟨hcharacters, hbuffers⟩ := maps_foldl_withGlyph { version := 1 } glyphs
  constructor
  · rw [loadedNtt, hcharacters, getElem?_foldl_insert, Std.TreeMap.getElem?_emptyc, Option.or_none,
      lastOf_glyphs]
  · rw [loadedNtt, hbuffers, getElem?_foldl_insert, Std.TreeMap.getElem?_emptyc, Option.or_none,
      lastOf_glyphs fun glyph => (some glyph.buffer, UInt32.ofNat glyph.buffer.length)]

/-! ## What the accessors show -/

namespace NttFileData

/-- **Showing records.** There are as many characters as different bytes among the records; the
metrics, the image and its size are those of the last record of the byte, and a byte without a
record has no image. -/
structure Shows (data : NttFileData) (glyphs : List GlyphRecord) : Prop where
  count : data.characterCount.toNat = (glyphs.map GlyphRecord.character).dedup.length
  present : ∀ ch glyph, lastGlyph ch glyphs = some glyph →
    data.character ch = glyph.metrics ∧ data.characterImage ch = some glyph.buffer ∧
      (data.characterImageSize ch).toNat = glyph.buffer.length
  absent : ∀ ch, lastGlyph ch glyphs = none →
    data.characterImage ch = none ∧ data.characterImageSize ch = 0

/-- **What was loaded shows the records**: for each character the metrics and the pixels of its last
record. -/
theorem shows_loadedNtt {glyphs : List GlyphRecord}
    (h : (glyphs.flatMap GlyphRecord.encode).length < 2 ^ 32) :
    (loadedNtt glyphs).Shows glyphs := by
  refine ⟨?_, fun ch glyph hlast => ?_, fun ch hlast => ?_⟩
  · have hsize : (loadedNtt glyphs).characters.size
        = (glyphs.map GlyphRecord.character).dedup.length := by
      rw [loadedNtt, (maps_foldl_withGlyph { version := 1 } glyphs).1, size_foldl_insert,
        List.map_map]
      rfl
    have hle : (glyphs.map GlyphRecord.character).dedup.length ≤ glyphs.length := by
      have hdedup := (List.dedup_sublist (glyphs.map GlyphRecord.character)).length_le
      rwa [List.length_map] at hdedup
    have hcount := length_le_flatMap_glyph glyphs
    rw [characterCount, hsize, toNat_ofNat_count (by omega)]
  · obtain ⟨hcharacter, hbuffer⟩ := getElem?_loadedNtt glyphs ch
    rw [hlast, Option.map_some] at hcharacter hbuffer
    have hmem : glyph ∈ glyphs := List.mem_reverse.mp (List.mem_of_find?_eq_some hlast)
    have hlength : glyph.encode.length ≤ (glyphs.flatMap GlyphRecord.encode).length :=
      length_le_length_flatMap hmem
    simp only [GlyphRecord.encode, List.length_append] at hlength
    simp only [character, characterImage, characterImageSize, hcharacter, hbuffer,
      Option.getD_some, Option.bind_some, Option.map_some, true_and]
    exact toNat_ofNat_count (by omega)
  · obtain ⟨-, hbuffer⟩ := getElem?_loadedNtt glyphs ch
    rw [hlast, Option.map_none] at hbuffer
    simp only [characterImage, characterImageSize, hbuffer, Option.bind_none, Option.map_none,
      Option.getD_none, and_self]

/-- **Deallocating** drops all images, and leaves the metrics and the count alone. -/
theorem deallocate_shows (data : NttFileData) :
    (∀ ch, data.deallocate.characterImage ch = none ∧ data.deallocate.characterImageSize ch = 0 ∧
      data.deallocate.character ch = data.character ch) ∧
      data.deallocate.characterCount = data.characterCount := by
  refine ⟨fun ch => ⟨?_, ?_, rfl⟩, rfl⟩
  · simp [characterImage, deallocate]
  · simp [characterImageSize, deallocate]

/-- **The loader decodes the whole format.** From any bytes that start with the encoding of a list
of records, whatever was loaded before and whatever is left over in memory, `load` returns true and
the accessors show the records; a `deallocate` after it drops all images, and leaves the metrics and
the count alone. -/
theorem load_shows_glyphs (data : NttFileData) (glyphs : List GlyphRecord) (trailing : List UInt8)
    (size : UInt32) (leftover : Option (Nat → UInt8))
    (hsize : (encodeNtt glyphs).length ≤ size.toNat) :
    ∃ data', data.load (encodeNtt glyphs ++ trailing) size leftover = .ok (true, data') ∧
      data'.Shows glyphs ∧
      (∀ ch, data'.deallocate.characterImage ch = none ∧
        data'.deallocate.characterImageSize ch = 0 ∧
        data'.deallocate.character ch = data'.character ch) ∧
      data'.deallocate.characterCount = data'.characterCount := by
  have hlength : (encodeNtt glyphs).length < 2 ^ 32 := Nat.lt_of_le_of_lt hsize size.toNat_lt
  have hrecords := hlength
  simp only [encodeNtt, List.length_append] at hrecords
  refine ⟨loadedNtt glyphs, ?_, shows_loadedNtt (by omega), deallocate_shows _⟩
  rw [load, List.take_append, List.take_of_length_le hsize]
  exact (reads_file data hlength).run' _ _

/-- A file with two records of one character, loaded by a new object: the second of them is
shown. -/
theorem load_shows_repeated :
    let glyphs : List GlyphRecord :=
      [⟨65, ⟨⟨1, 1⟩, ⟨0, 1⟩, 64⟩, [9]⟩, ⟨66, ⟨⟨0, 0⟩, ⟨0, 0⟩, 32⟩, []⟩,
        ⟨65, ⟨⟨2, 1⟩, ⟨-1, 1⟩, 80⟩, [5, 6]⟩]
    ∃ data', ({} : NttFileData).load (encodeNtt glyphs ++ [7]) 200 none = .ok (true, data') ∧
      data'.Shows glyphs ∧
      (∀ ch, data'.deallocate.characterImage ch = none ∧
        data'.deallocate.characterImageSize ch = 0 ∧
        data'.deallocate.character ch = data'.character ch) ∧
      data'.deallocate.characterCount = data'.characterCount :=
  load_shows_glyphs {} _ [7] 200 none (by simp [encodeNtt, GlyphRecord.encode, encodeI32])

end NttFileData

end Nyx
