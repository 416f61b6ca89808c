import Mxdx.Foundations.Automaton
import Mxdx.Launcher.Compression

/-! The launcher's decompression, read by read. What the zlib decoder returns from one
read after the other is given, also for a stream that is not valid or has no end in
sight; the loop over the reads gives up where the limit is passed. -/
namespace Mxdx.Launcher.Chunks

open Automaton
open Mxdx.Core (Encoded Zlib collectBounded)

/-- What is read at one go. -/
def chunkSize : Nat := 8192

/-- What the decoder returns for given bytes, read by read; behind the last of these
reads it returns nothing more. -/
structure ZlibCodec where
  deflate : Bytes → Bytes
  reads : Bytes → List (Except String Bytes)

/-- Decompressing inverts compressing, in chunks that are not empty and fit the buffer,
up to an empty read. -/
def ZlibCodec.Inverts (codec : ZlibCodec) : Prop :=
  ∀ data, ∃ chunks : List Bytes,
    codec.reads (codec.deflate data) = chunks.map .ok ++ [.ok []] ∧
      (∀ chunk ∈ chunks, 1 ≤ chunk.length ∧ chunk.length ≤ chunkSize) ∧ chunks.flatten = data

/-- Why an event is not decoded. -/
inductive DecodeFailure where
  | invalidBase64
  | decodedSize (size maxBytes : Nat)
  | read (text : String)
  | decompressedSize (maxBytes : Nat)
  | unknownEncoding (encoding : String)
deriving DecidableEq

/-- The variables of the loop, and what it has ended with. -/
structure ChunkLoop where
  output : Bytes
  total : Nat
  ended : Option (Except DecodeFailure Bytes)

namespace ChunkLoop

/-- Nothing has been read. -/
def new : ChunkLoop := ⟨[], 0, none⟩

/-- The body of the loop, for what the read in it returns. -/
def step (maxBytes : Nat) (loop : ChunkLoop) (read : Except String Bytes) : ChunkLoop :=
  match loop.ended with
  | some _ => loop
  | none =>
      match read with
      | .error text => { loop with ended := some (.error (.read text)) }
      | .ok chunk =>
          if chunk.length = 0 then { loop with ended := some (.ok loop.output) }
          else
            let total := loop.total + chunk.length
            if maxBytes < total then
              { loop with total, ended := some (.error (.decompressedSize maxBytes)) }
            else { loop with output := loop.output ++ chunk, total }

/-- The output, unless the loop has ended early. -/
def result (loop : ChunkLoop) : Except DecodeFailure Bytes := loop.ended.getD (.ok loop.output)

end ChunkLoop

variable (codec : ZlibCodec)

/-- Short data is encoded as it is. -/
def compressEncode (data : Bytes) : Encoded :=
  if data.length < compressionThreshold then ⟨Base64.encode data, "raw+base64"⟩
  else ⟨Base64.encode (codec.deflate data), "zlib+base64"⟩

/-- The label decides how the data is read. -/
def decodeDecompressBounded (encoded : Encoded) (maxBytes : Nat) : Except DecodeFailure Bytes :=
  match encoded.encoding with
  | "raw+base64" =>
      match Base64.decode encoded.encoded with
      | none => .error .invalidBase64
      | some decoded =>
          if maxBytes < decoded.length then .error (.decodedSize decoded.length maxBytes)
          else .ok decoded
  | "zlib+base64" =>
      match Base64.decode encoded.encoded with
      | none => .error .invalidBase64
      | some compressed => (run (ChunkLoop.step maxBytes) .new (codec.reads compressed)).result
  | encoding => .error (.unknownEncoding encoding)

namespace ChunkLoop

variable {maxBytes : Nat} {loop : ChunkLoop}

/-- The loop holds no more than the limit, and what it returns is what it holds. -/
structure Bounded (maxBytes : Nat) (loop : ChunkLoop) : Prop where
  counted : loop.ended = none → loop.total = loop.output.length
  held : loop.output.length ≤ maxBytes
  returned : ∀ output, loop.ended = some (.ok output) → output = loop.output

theorem bounded_new : Bounded maxBytes .new := ⟨fun _ => rfl, Nat.zero_le _, nofun⟩

theorem bounded_step (h : Bounded maxBytes loop) (read : Except String Bytes) :
    Bounded maxBytes (loop.step maxBytes read) := by
  unfold step
  split
  · exact h
  next hGoing =>
    have hTotal := h.counted hGoing
    split
    · exact ⟨nofun, h.held, nofun⟩
    next chunk =>
      by_cases hEmpty : chunk.length = 0
      · rw [if_pos hEmpty]
        refine ⟨nofun, h.held, fun output hOutput => ?_⟩
        cases hOutput
        rfl
      · rw [if_neg hEmpty]
        dsimp only
        by_cases hOver : maxBytes < loop.total + chunk.length
        · rw [if_pos hOver]
          exact ⟨nofun, h.held, nofun⟩
        · rw [if_neg hOver]
          refine ⟨fun _ => ?_, ?_, fun output hOutput => ?_⟩
          · rw [List.length_append, hTotal]
          · rw [List.length_append, ← hTotal]
            exact Nat.le_of_not_lt hOver
          · rw [hGoing] at hOutput
            cases hOutput

/-- However the output is split, in no state of the loop is there more of it than the
limit allows. -/
theorem always_bounded (maxBytes : Nat) (reads : List (Except String Bytes)) :
    Always (step maxBytes) (Bounded maxBytes) .new reads := by
  have hStep : ∀ loop read, Bounded maxBytes loop → Bounded maxBytes (loop.step maxBytes read) :=
    fun _ read h => bounded_step h read
  exact always_of_step hStep bounded_new reads

theorem Bounded.result_length (h : Bounded maxBytes loop) {output : Bytes}
    (hResult : loop.result = .ok output) : output.length ≤ maxBytes := by
  unfold result at hResult
  cases hEnded : loop.ended with
  | none =>
      rw [hEnded] at hResult
      cases hResult
      exact h.held
  | some ended =>
      rw [hEnded] at hResult
      rw [Option.getD_some] at hResult
      rw [hResult] at hEnded
      rw [h.returned output hEnded]
      exact h.held

theorem run_ended {ended : Except DecodeFailure Bytes} (hEnded : loop.ended = some ended)
    (reads : List (Except String Bytes)) : run (step maxBytes) loop reads = loop := by
  induction reads with
  | nil => rfl
  | cons read rest ih =>
      have hStep : loop.step maxBytes read = loop := by
        simp only [step, hEnded]
      rw [run_cons, hStep]
      exact ih

end ChunkLoop

section Coarse

/-- An error without the difference between a stream that is not valid and one that is too
long. -/
def DecodeFailure.coarse (maxBytes : Nat) : DecodeFailure → DecodeError
  | invalidBase64 => .invalidBase64
  | decodedSize size maxBytes => .decodedSize size maxBytes
  | read _ => .decompressing maxBytes
  | decompressedSize _ => .decompressing maxBytes
  | unknownEncoding encoding => .unknownEncoding encoding

/-- The chunks up to the end of the stream, or nothing where a read fails first. -/
def takeChunks : List (Except String Bytes) → Option (List Bytes)
  | [] => some []
  | .error _ :: _ => none
  | .ok chunk :: rest =>
      if chunk.length = 0 then some [] else (takeChunks rest).map (chunk :: ·)

/-- The codec with its reads strung together. -/
def ZlibCodec.zlib : Zlib := ⟨codec.deflate, fun compressed => takeChunks (codec.reads compressed)⟩

variable {codec} {maxBytes : Nat}

/-- The loop comes to what collecting all chunks at once comes to. -/
theorem result_run (output : Bytes) (reads : List (Except String Bytes)) :
    (run (ChunkLoop.step maxBytes) ⟨output, output.length, none⟩ reads).result.mapError
        (DecodeFailure.coarse maxBytes) =
      match (takeChunks reads).bind (collectBounded maxBytes output) with
      | some output => .ok output
      | none => .error (.decompressing maxBytes) := by
  induction reads generalizing output with
  | nil => rfl
  | cons read rest ih =>
      rw [run_cons]
      cases read with
      | error text =>
          rw [ChunkLoop.run_ended (by rfl)]
          rfl
      | ok chunk =>
          simp only [ChunkLoop.step, takeChunks]
          by_cases hEmpty : chunk.length = 0
          · rw [if_pos hEmpty, if_pos hEmpty, ChunkLoop.run_ended rfl]
            rfl
          · rw [if_neg hEmpty, if_neg hEmpty]
            by_cases hOver : maxBytes < output.length + chunk.length
            · have hNone : ((takeChunks rest).map (chunk :: ·)).bind
                  (collectBounded maxBytes output) = none := by
                cases takeChunks rest with
                | none => rfl
                | some chunks =>
                    rw [Option.map_some, Option.bind_some, collectBounded, List.length_append,
                      if_pos hOver]
              rw [if_pos hOver, ChunkLoop.run_ended rfl, hNone]
              rfl
            · have hRest : ((takeChunks rest).map (chunk :: ·)).bind
                  (collectBounded maxBytes output) =
                    (takeChunks rest).bind (collectBounded maxBytes (output ++ chunk)) := by
                cases takeChunks rest with
                | none => rfl
                | some chunks =>
                    rw [Option.map_some, Option.bind_some, Option.bind_some, collectBounded,
                      List.length_append, if_neg hOver]
              have hNext := ih (output ++ chunk)
              rw [List.length_append] at hNext
              rw [if_neg hOver, hRest]
              exact hNext

/-- Read by read or all at once, decoding an event comes to the same. -/
theorem decodeDecompressBounded_coarse (encoded : Encoded) (maxBytes : Nat) :
    (decodeDecompressBounded codec encoded maxBytes).mapError (DecodeFailure.coarse maxBytes) =
      Launcher.decodeDecompressBounded codec.zlib encoded maxBytes := by
  obtain ⟨text, encoding⟩ := encoded
  by_cases hRaw : encoding = "raw+base64"
  · subst hRaw
    simp only [decodeDecompressBounded, Launcher.decodeDecompressBounded]
    cases Base64.decode text with
    | none => rfl
    | some decoded =>
        dsimp only
        split <;> rfl
  · by_cases hZlib : encoding = "zlib+base64"
    · subst hZlib
      simp only [decodeDecompressBounded, Launcher.decodeDecompressBounded]
      cases Base64.decode text with
      | none => rfl
      | some compressed => exact result_run [] (codec.reads compressed)
    · simp only [decodeDecompressBounded, Launcher.decodeDecompressBounded]
      rfl

theorem takeChunks_inverts (chunks : List Bytes) (hChunks : ∀ chunk ∈ chunks, 1 ≤ chunk.length) :
    takeChunks (chunks.map .ok ++ [.ok []]) = some chunks := by
  induction chunks with
  | nil => rfl
  | cons chunk rest ih =>
      obtain ⟨hChunk, hRest⟩ := List.forall_mem_cons.mp hChunks
      rw [List.map_cons, List.cons_append, takeChunks, if_neg (by omega), ih hRest]
      rfl

theorem ZlibCodec.Inverts.zlib (h : codec.Inverts) : codec.zlib.Inverts := by
  intro data
  obtain ⟨chunks, hReads, hSizes, hData⟩ := h data
  refine ⟨chunks, ?_, hData⟩
  simp only [ZlibCodec.zlib, hReads]
  exact takeChunks_inverts chunks fun chunk hChunk => (hSizes chunk hChunk).1

end Coarse

section Bounds

variable {codec} {maxBytes : Nat}

theorem decode_length {encoded : Encoded} {output : Bytes}
    (h : decodeDecompressBounded codec encoded maxBytes = .ok output) :
    output.length ≤ maxBytes := by
  unfold decodeDecompressBounded at h
  split at h
  · cases hDecoded : Base64.decode encoded.encoded with
    | none =>
        rw [hDecoded] at h
        cases h
    | some decoded =>
        rw [hDecoded] at h
        dsimp only at h
        split at h
        · cases h
        next hFits =>
          cases h
          exact Nat.le_of_not_lt hFits
  · cases hDecoded : Base64.decode encoded.encoded with
    | none =>
        rw [hDecoded] at h
        cases h
    | some compressed =>
        rw [hDecoded] at h
        exact (ChunkLoop.always_bounded maxBytes (codec.reads compressed)).last.result_length h
  · cases h

/-- What is compressed is decompressed again, up to the limit and no further. -/
theorem decode_compressEncode (h : codec.Inverts) (data : Bytes) (maxBytes : Nat) :
    (decodeDecompressBounded codec (compressEncode codec data) maxBytes).toOption =
      if data.length ≤ maxBytes then some data else none := by
  have hOption : ∀ decoded : Except DecodeFailure Bytes,
      (decoded.mapError (DecodeFailure.coarse maxBytes)).toOption = decoded.toOption := by
    intro decoded
    cases decoded <;> rfl
  rw [← hOption, decodeDecompressBounded_coarse]
  unfold compressEncode
  split
  · simp only [Launcher.decodeDecompressBounded, Base64.decode_encode]
    by_cases hFits : data.length ≤ maxBytes
    · rw [if_neg (Nat.not_lt.mpr hFits), if_pos hFits]
      rfl
    · rw [if_pos (Nat.lt_of_not_le hFits), if_neg hFits]
      rfl
  · have hDecoded := decode_deflate h.zlib data maxBytes
    simp only [ZlibCodec.zlib] at hDecoded ⊢
    rw [hDecoded]
    by_cases hFits : data.length ≤ maxBytes
    · rw [if_pos hFits, if_pos hFits]
      rfl
    · rw [if_neg hFits, if_neg hFits]
      rfl

theorem eq_ok_of_toOption {ε α : Type} {result : Except ε α} {value : α}
    (h : result.toOption = some value) : result = .ok value := by
  cases result with
  | error error => cases h
  | ok other =>
      cases h
      rfl

theorem eq_error_of_toOption {ε α : Type} {result : Except ε α} (h : result.toOption = none) :
    ∃ error, result = .error error := by
  cases result with
  | error error => exact ⟨error, rfl⟩
  | ok value => cases h

/-- Data that fits the limit comes back, other data is refused; and whatever is decoded
under whatever label, no more than the limit is returned or held on the way. -/
theorem bounded_decompression (h : codec.Inverts) (maxBytes : Nat) :
    (∀ data : Bytes, data.length ≤ maxBytes →
      decodeDecompressBounded codec (compressEncode codec data) maxBytes = .ok data) ∧
    (∀ data : Bytes, maxBytes < data.length →
      ∃ error, decodeDecompressBounded codec (compressEncode codec data) maxBytes = .error error) ∧
    (∀ encoded output, decodeDecompressBounded codec encoded maxBytes = .ok output →
      output.length ≤ maxBytes) ∧
    ∀ reads, Always (ChunkLoop.step maxBytes) (fun loop => loop.output.length ≤ maxBytes) .new
      reads := by
  refine ⟨?_, ?_, ?_, ?_⟩
  · intro data hFits
    apply eq_ok_of_toOption
    rw [decode_compressEncode h, if_pos hFits]
  · intro data hOver
    apply eq_error_of_toOption
    rw [decode_compressEncode h, if_neg (Nat.not_le.mpr hOver)]
  · intro encoded output hDecoded
    exact decode_length hDecoded
  · intro reads
    exact (ChunkLoop.always_bounded maxBytes reads).mono fun _ hBounded => hBounded.held

/-- A codec with the zlib stream of 32 zero bytes for these. -/
def zeroCodec : ZlibCodec where
  deflate := Core.zeroZlib.deflate
  reads compressed :=
    if compressed.head? = some 0x78 then [.ok (List.replicate 32 0), .ok []]
    else compressed.tail.map (fun byte => .ok [byte]) ++ [.ok []]

theorem inverts_zeroCodec : zeroCodec.Inverts := by
  intro data
  by_cases hZeros : data = List.replicate 32 0
  · subst hZeros
    exact ⟨[List.replicate 32 0], rfl, by decide, rfl⟩
  · refine ⟨data.map fun byte => [byte], ?_, ?_, ?_⟩
    · simp only [zeroCodec, Core.zeroZlib]
      rw [if_neg hZeros, List.map_map]
      rfl
    · intro chunk hChunk
      obtain ⟨byte, -, rfl⟩ := List.mem_map.mp hChunk
      exact ⟨Nat.le_refl 1, (by decide : 1 ≤ chunkSize)⟩
    · induction data with
      | nil => rfl
      | cons byte rest ih => simp [← List.flatMap_def]

theorem bounded_decompression_zeros :
    zeroCodec.Inverts ∧
      decodeDecompressBounded zeroCodec (compressEncode zeroCodec (List.replicate 32 0)) 32 =
        .ok (List.replicate 32 0) :=
  ⟨inverts_zeroCodec, (bounded_decompression inverts_zeroCodec 32).1 (List.replicate 32 0)
    (by decide)⟩

end Bounds

end Mxdx.Launcher.Chunks
