import Mxdx.Core.TerminalCodec

/-! The terminal codec of the Rust launcher, and what it and the one of the JavaScript
packages make of each other's events. -/
namespace Mxdx.Launcher

open Mxdx.Core (Encoded Zlib collectBounded decodeData defaultCompress inverts_zeroZlib
  maxDecompressedSize zeroZlib)

/-- Shorter data is encoded as it is. -/
def compressionThreshold : Nat := 32

/-- Why an event is not decoded. -/
inductive DecodeError where
  | invalidBase64
  | decodedSize (size maxBytes : Nat)
  | decompressing (maxBytes : Nat)
  | unknownEncoding (encoding : String)
deriving DecidableEq

variable (zlib : Zlib)

/-- The label tells whether the data was compressed. -/
def compressEncode (data : Bytes) : Encoded :=
  if data.length < compressionThreshold then ⟨Base64.encode data, "raw+base64"⟩
  else ⟨Base64.encode (zlib.deflate data), "zlib+base64"⟩

/-- A stream that is not valid and one that is too long end in the same place. -/
def decodeDecompressBounded (encoded : Encoded) (maxBytes : Nat) : Except DecodeError Bytes :=
  match encoded.encoding with
  | "raw+base64" =>
      match Base64.decode encoded.encoded with
      | none => .error .invalidBase64
      | some decoded =>
          if maxBytes < decoded.length then .error (.decodedSize decoded.length maxBytes)
          else .ok decoded
  | "zlib+base64" =>
      match Base64.decode encoded.encoded with
      | none => .error .invalidBase64
      | some compressed =>
          match (zlib.reads compressed).bind (collectBounded maxBytes []) with
          | some output => .ok output
          | none => .error (.decompressing maxBytes)
  | encoding => .error (.unknownEncoding encoding)

section Interoperability

variable {zlib}

theorem decode_deflate (h : zlib.Inverts) (data : Bytes) (maxBytes : Nat) :
    decodeDecompressBounded zlib ⟨Base64.encode (zlib.deflate data), "zlib+base64"⟩ maxBytes =
      if data.length ≤ maxBytes then .ok data else .error (.decompressing maxBytes) := by
  simp only [decodeDecompressBounded, Base64.decode_encode, h.collect]
  by_cases hSize : data.length ≤ maxBytes
  · simp [hSize]
  · simp [hSize]

/-- What the JavaScript sender makes of short data has a label of its own. -/
theorem decode_defaultCompress_short (data : Bytes) (maxBytes : Nat)
    (hShort : data.length < compressionThreshold) :
    decodeDecompressBounded zlib (defaultCompress zlib data) maxBytes =
      .error (.unknownEncoding "base64") := by
  rw [defaultCompress, if_pos (by exact hShort)]
  rfl

/-- Data that is not short passes from the JavaScript sender to the Rust launcher under
every limit it fits in. -/
theorem decode_defaultCompress (h : zlib.Inverts) {data : Bytes} {maxBytes : Nat}
    (hLong : compressionThreshold ≤ data.length) (hMax : data.length ≤ maxBytes) :
    decodeDecompressBounded zlib (defaultCompress zlib data) maxBytes = .ok data := by
  have hNotShort : ¬ data.length < Core.compressionThreshold := Nat.not_lt.mpr hLong
  rw [defaultCompress, if_neg hNotShort, decode_deflate h, if_pos hMax]

/-- The other way the socket discards what is larger than its limit. -/
theorem decodeData_compressEncode (h : zlib.Inverts) (data : Bytes) :
    decodeData zlib (compressEncode zlib data) =
      if data.length ≤ maxDecompressedSize then some data else none := by
  unfold compressEncode
  split
  next hShort =>
    have hSmall : data.length ≤ maxDecompressedSize :=
      Nat.le_of_lt (Nat.lt_of_lt_of_le hShort (by decide))
    rw [Core.decodeData_plain data (by decide), if_pos hSmall]
  · exact Core.decodeData_deflate h data

/-- What the JavaScript sender encodes, unless it is short, and what the Rust launcher
encodes, up to the limit of the socket, is decoded on the other side to the same bytes. -/
theorem codecs_interoperate (h : zlib.Inverts) (data : Bytes) :
    (compressionThreshold ≤ data.length → ∀ maxBytes, data.length ≤ maxBytes →
      decodeDecompressBounded zlib (defaultCompress zlib data) maxBytes = .ok data) ∧
    decodeData zlib (compressEncode zlib data) =
      if data.length ≤ maxDecompressedSize then some data else none :=
  ⟨fun hLong _ hMax => decode_defaultCompress h hLong hMax, decodeData_compressEncode h data⟩

end Interoperability

section Examples

theorem codecs_interoperate_zeros :
    zeroZlib.Inverts ∧
      decodeDecompressBounded zeroZlib (defaultCompress zeroZlib (List.replicate 32 0)) 32 =
        .ok (List.replicate 32 0) ∧
      decodeData zeroZlib (compressEncode zeroZlib (List.replicate 32 0)) =
        some (List.replicate 32 0) := by
  obtain ⟨hRust, hSocket⟩ := codecs_interoperate inverts_zeroZlib (List.replicate 32 0)
  exact ⟨inverts_zeroZlib, hRust (by decide) 32 (by decide), hSocket.trans (if_pos (by decide))⟩

/-- One byte more than the limit: whatever the Rust launcher compresses it to, the socket
takes it for a zlib bomb. -/
theorem not_codecs_interoperate :
    let data : Bytes := List.replicate (maxDecompressedSize + 1) 0
    (∀ zlib : Zlib, zlib.Inverts → decodeData zlib (compressEncode zlib data) = none) ∧
      ¬ ∀ zlib : Zlib, zlib.Inverts → ∀ data : Bytes,
        (∀ maxBytes, data.length ≤ maxBytes →
          decodeDecompressBounded zlib (defaultCompress zlib data) maxBytes = .ok data) ∧
        decodeData zlib (compressEncode zlib data) = some data := by
  intro data
  have hNone : ∀ zlib : Zlib, zlib.Inverts → decodeData zlib (compressEncode zlib data) = none := by
    intro zlib h
    rw [decodeData_compressEncode h, if_neg (by simp [data])]
  refine ⟨hNone, fun hAll => ?_⟩
  have hSome := (hAll zeroZlib inverts_zeroZlib data).2
  rw [hNone zeroZlib inverts_zeroZlib] at hSome
  cases hSome

end Examples

end Mxdx.Launcher
