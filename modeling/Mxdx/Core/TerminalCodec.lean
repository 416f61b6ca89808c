import Mxdx.Basic
import Mxdx.Foundations.Base64

/-! How terminal data is encoded for an event and decoded again. The stream format of
zlib is a parameter: what compressing gives, and what the reads of a decompressor
return one after the other. -/
namespace Mxdx.Core

/-- What `compress` resolves to. -/
structure Encoded where
  encoded : String
  encoding : String
deriving DecidableEq, Repr

/-- A `compress` option together with the reading that undoes it. -/
structure Codec where
  compress : Bytes → Encoded
  decode : Encoded → Bytes
  decode_compress : ∀ data, decode (compress data) = data

/-- The compressor, which takes any bytes, and the decompressor, which gives its chunks
one by one. -/
structure Zlib where
  deflate : Bytes → Bytes
  /-- The chunks up to the end of the stream, or nothing if it is not valid. -/
  reads : Bytes → Option (List Bytes)

/-- Decompressing inverts compressing. -/
def Zlib.Inverts (zlib : Zlib) : Prop :=
  ∀ data, ∃ chunks, zlib.reads (zlib.deflate data) = some chunks ∧ chunks.flatten = data

/-- Appends chunk after chunk, and gives up where the limit is passed. -/
def collectBounded (maxBytes : Nat) : Bytes → List Bytes → Option Bytes
  | output, [] => some output
  | output, chunk :: rest =>
      if maxBytes < (output ++ chunk).length then none
      else collectBounded maxBytes (output ++ chunk) rest

/-- Giving up early comes to the same as looking at the whole length. -/
theorem collectBounded_eq (maxBytes : Nat) {output : Bytes} (hOutput : output.length ≤ maxBytes)
    (chunks : List Bytes) :
    collectBounded maxBytes output chunks =
      if (output ++ chunks.flatten).length ≤ maxBytes then some (output ++ chunks.flatten)
      else none := by
  induction chunks generalizing output with
  | nil => simp [collectBounded, hOutput]
  | cons chunk rest ih =>
      rw [collectBounded, List.flatten_cons, ← List.append_assoc]
      split
      next hOver =>
        rw [if_neg]
        rw [List.length_append]
        omega
      next hFits => exact ih (Nat.le_of_not_lt hFits)

theorem Zlib.Inverts.collect {zlib : Zlib} (h : zlib.Inverts) (maxBytes : Nat) (data : Bytes) :
    (zlib.reads (zlib.deflate data)).bind (collectBounded maxBytes []) =
      if data.length ≤ maxBytes then some data else none := by
  obtain ⟨chunks, hReads, hData⟩ := h data
  rw [hReads, Option.bind_some, collectBounded_eq maxBytes (Nat.zero_le _), List.nil_append, hData]

/-- Shorter data is sent as it is. -/
def compressionThreshold : Nat := 32

/-- What a message may unpack to at most. -/
def maxDecompressedSize : Nat := 1024 * 1024

variable (zlib : Zlib)

/-- The label tells whether the data was compressed. -/
def defaultCompress (data : Bytes) : Encoded :=
  if data.length < compressionThreshold then ⟨Base64.encode data, "base64"⟩
  else ⟨Base64.encode (zlib.deflate data), "zlib+base64"⟩

/-- The bytes that an event carries, however many they are. -/
def carried (encoded : Encoded) : Bytes :=
  let raw := Base64.decodeLenient encoded.encoded.toList
  if encoded.encoding = "zlib+base64" then ((zlib.reads raw).getD []).flatten else raw

/-- `inflateSync` with `maxOutputLength`. -/
def inflateSync (data : Bytes) : Option Bytes :=
  (zlib.reads data).bind (collectBounded maxDecompressedSize [])

/-- The bytes that `#decodeAndEmit` enqueues; an event that cannot be decompressed is
skipped. Every other encoding is taken for plain base64, as `Buffer.from` reads it. -/
def decodeData (encoded : Encoded) : Option Bytes :=
  let raw := Base64.decodeLenient encoded.encoded.toList
  if encoded.encoding = "zlib+base64" then inflateSync zlib raw else some raw

section Decoding

variable {zlib}

theorem decodeLenient_encode (data : Bytes) :
    Base64.decodeLenient (Base64.encode data).toList = data := by
  rw [Base64.encode, String.toList_ofList, Base64.decodeLenient_encodeChars]

/-- The default compression can be undone, whatever is compressed. -/
theorem carried_defaultCompress (h : zlib.Inverts) (data : Bytes) :
    carried zlib (defaultCompress zlib data) = data := by
  unfold defaultCompress
  split
  · have hPlain : ¬ ("base64" : String) = "zlib+base64" := by decide
    rw [carried, if_neg hPlain, decodeLenient_encode]
  · obtain ⟨chunks, hReads, hData⟩ := h data
    rw [carried, if_pos rfl, decodeLenient_encode, hReads, Option.getD_some, hData]

/-- The option that a sender has if its owner gives none. -/
def Codec.default (zlib : Zlib) (h : zlib.Inverts) : Codec :=
  ⟨defaultCompress zlib, carried zlib, carried_defaultCompress h⟩

theorem decodeData_plain (data : Bytes) {encoding : String} (hPlain : encoding ≠ "zlib+base64") :
    decodeData zlib ⟨Base64.encode data, encoding⟩ = some data := by
  rw [decodeData, if_neg hPlain, decodeLenient_encode]

theorem decodeData_deflate (h : zlib.Inverts) (data : Bytes) :
    decodeData zlib ⟨Base64.encode (zlib.deflate data), "zlib+base64"⟩ =
      if data.length ≤ maxDecompressedSize then some data else none := by
  rw [decodeData, if_pos rfl, decodeLenient_encode, inflateSync, h.collect]

/-- What the sender compresses is received up to the limit of the receiver. -/
theorem decodeData_defaultCompress (h : zlib.Inverts) (data : Bytes) :
    decodeData zlib (defaultCompress zlib data) =
      if data.length ≤ maxDecompressedSize then some data else none := by
  unfold defaultCompress
  split
  next hShort =>
    have hSmall : data.length ≤ maxDecompressedSize :=
      Nat.le_of_lt (Nat.lt_of_lt_of_le hShort (by decide))
    rw [decodeData_plain data (by decide), if_pos hSmall]
  · exact decodeData_deflate h data

theorem decodeData_defaultCompress_iff (h : zlib.Inverts) (data : Bytes) :
    decodeData zlib (defaultCompress zlib data) = some data ↔
      data.length ≤ maxDecompressedSize := by
  rw [decodeData_defaultCompress h]
  split
  next hSmall => exact iff_of_true rfl hSmall
  next hLarge => exact iff_of_false (fun hNone => by cases hNone) hLarge

end Decoding

section Examples

/-- A compressor that gives the zlib stream of 32 zero bytes for these. -/
def zeroZlib : Zlib where
  deflate data :=
    if data = List.replicate 32 0 then [0x78, 0x9c, 0x63, 0x60, 0xc0, 0x0f, 0, 0, 0x20, 0, 0x01]
    else 0 :: data
  reads compressed :=
    if compressed.head? = some 0x78 then some [List.replicate 32 0] else some [compressed.tail]

theorem inverts_zeroZlib : zeroZlib.Inverts := by
  intro data
  by_cases hZeros : data = List.replicate 32 0
  · subst hZeros
    exact ⟨[List.replicate 32 0], rfl, by simp⟩
  · refine ⟨[data], ?_, by simp⟩
    simp only [zeroZlib]
    rw [if_neg hZeros]
    rfl

end Examples

end Mxdx.Core
