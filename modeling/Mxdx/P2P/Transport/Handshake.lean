import Mxdx.P2P.Transport.MatrixSigner

/-! What a completed handshake means. Two mirrored sides compute one
transcript; whether a response is accepted depends on the key source, the
device the frame names and the bytes the signer signed. -/
namespace Mxdx.P2P

theorem verifyPeerSignature_eq_ok {ed : Ed25519} {key : PublicKey} {signature : Signature}
    {transcript : Bytes} :
    verifyPeerSignature ed key signature transcript = .ok () ↔
      ∃ verifyingKey, ed.fromBytes key = .ok verifyingKey ∧
        ed.verify verifyingKey transcript signature = true := by
  unfold verifyPeerSignature
  cases ed.fromBytes key with
  | error text => simp
  | ok verifyingKey => simp

namespace Ed25519

/-- A signature verifies under the signer's own public key. -/
def Correct (ed : Ed25519) : Prop :=
  ∀ key message, ∃ verifyingKey, ed.fromBytes (ed.publicKey key) = .ok verifyingKey ∧
    ed.verify verifyingKey message (ed.sign key message) = true

/-- The signature of `message` verifies for `message` and for nothing else. -/
def SignsExactly (ed : Ed25519) (key : ed.SigningKey) (message : Bytes) : Prop :=
  ∀ verifyingKey, ed.fromBytes (ed.publicKey key) = .ok verifyingKey →
    ∀ other, ed.verify verifyingKey other (ed.sign key message) = true ↔ other = message

theorem Correct.verifyPeerSignature {ed : Ed25519} (h : ed.Correct) (key : ed.SigningKey)
    (message : Bytes) :
    verifyPeerSignature ed (ed.publicKey key) (ed.sign key message) message = .ok () := by
  rw [verifyPeerSignature_eq_ok]
  exact h key message

/-- A scheme for concrete handshakes: it tells one message from all others. -/
def marking (marked : Bytes) : Ed25519 where
  SigningKey := UInt8
  VerifyingKey := UInt8
  publicKey := fun seed => Vector.replicate 32 seed
  sign := fun seed message => Vector.replicate 64 (if message = marked then seed + 1 else 0)
  fromBytes := fun key => .ok key[0]
  verify := fun seed message signature =>
    signature = Vector.replicate 64 (if message = marked then seed + 1 else 0)

theorem marking_fromBytes (marked : Bytes) (seed : UInt8) :
    (marking marked).fromBytes (Vector.replicate 32 seed) = .ok seed :=
  congrArg Except.ok (Vector.getElem_replicate _)

theorem marking_correct (marked : Bytes) : (marking marked).Correct := by
  intro seed message
  exact ⟨seed, marking_fromBytes marked seed, by simp [marking]⟩

theorem marking_signsExactly (marked : Bytes) (seed : UInt8) (hSeed : seed + 1 ≠ 0) :
    (marking marked).SignsExactly seed marked := by
  intro verifyingKey hKey other
  obtain rfl := Except.ok.inj ((marking_fromBytes marked seed).symm.trans hKey)
  by_cases hOther : other = marked
  · simp [marking, hOther]
  · refine iff_of_false ?_ hOther
    simp [marking, hOther, hSeed, Vector.replicate_inj]

end Ed25519

/-- The offering side of a call between two accounts. -/
def clientSide : HandshakeParams where
  roomId := "!room:x"
  sessionUuid := "s1"
  callId := "c1"
  ourNonce := Transition.zeroNonce
  ourPartyId := "client"
  ourUserId := "@alice:x"
  ourDeviceId := "CLIENT"
  peerUserId := "@bob:x"
  peerDeviceId := "WORKER"
  ourSdpFingerprint := "AA:BB"
  weAreOfferer := true

/-- The answering side of the same call. -/
def workerSide : HandshakeParams where
  roomId := "!room:x"
  sessionUuid := "s1"
  callId := "c1"
  ourNonce := Vector.replicate nonceLen 1
  ourPartyId := "worker"
  ourUserId := "@bob:x"
  ourDeviceId := "WORKER"
  peerUserId := "@alice:x"
  peerDeviceId := "CLIENT"
  ourSdpFingerprint := "CC:DD"
  weAreOfferer := false

/-- The public keys of the two devices. -/
def callKeys : HandshakePeerKeySource :=
  InMemoryPeerKeySource.insert
    (InMemoryPeerKeySource.insert InMemoryPeerKeySource.new "@bob:x" "WORKER" (Vector.replicate 32 4))
    "@alice:x" "CLIENT" (Vector.replicate 32 3)

section Responses

variable (ed : Ed25519) (params : HandshakeParams) (peerNonce : Nonce)
  (peerPartyId peerSdpFingerprint : String) (keys : HandshakePeerKeySource)

/-- The frame carries the key that the source knows for `(user, device)`, and a
signature of `transcript` under it. -/
def SignedAs (transcript : Bytes) (user device signatureB64 signerPkB64 : String) : Prop :=
  ∃ key signature, decodePublicKeyB64 signerPkB64 = .ok key ∧
    decodeSignatureB64 signatureB64 = .ok signature ∧ keys user device = some key ∧
    verifyPeerSignature ed key signature transcript = .ok ()

theorem signedAs_encode {transcript : Bytes} {user device : String} {signature : Signature}
    {key : PublicKey} :
    SignedAs ed keys transcript user device (encodeSignature signature) (encodePublicKey key) ↔
      keys user device = some key ∧ verifyPeerSignature ed key signature transcript = .ok () := by
  have hKey : decodePublicKeyB64 (encodePublicKey key) = .ok key := decodeFixed_encode _ key
  have hSignature : decodeSignatureB64 (encodeSignature signature) = .ok signature :=
    decodeFixed_encode _ signature
  simp only [SignedAs, hKey, hSignature, Except.ok.injEq]
  constructor
  · rintro ⟨_, _, rfl, rfl, h⟩
    exact h
  · intro h
    exact ⟨key, signature, rfl, rfl, h⟩

/-- The device id of the frame selects the key; the other checks follow. -/
theorem verifyHandshakeResponse_eq_verified {signatureB64 signerPkB64 device : String} :
    verifyHandshakeResponse ed params peerNonce peerPartyId peerSdpFingerprint
        (.response signatureB64 signerPkB64 device) keys = .verified ↔
      SignedAs ed keys (handshakeTranscript params peerNonce peerPartyId peerSdpFingerprint)
        params.peerUserId device signatureB64 signerPkB64 := by
  simp only [verifyHandshakeResponse, SignedAs]
  cases decodePublicKeyB64 signerPkB64 with
  | error failure => simp
  | ok wirePk =>
      cases decodeSignatureB64 signatureB64 with
      | error failure => simp
      | ok signature =>
          cases keys params.peerUserId device with
          | none => simp
          | some matrixPk =>
              by_cases hSame : wirePk = matrixPk
              · subst hSame
                simp only [Except.ok.injEq, Option.some.injEq, ne_eq, not_true_eq_false, if_false,
                  exists_and_left, exists_eq_left']
                cases verifyPeerSignature ed wirePk signature (handshakeTranscript params
                    peerNonce peerPartyId peerSdpFingerprint) with
                | ok done => simp
                | error failure => simp
              · simp [hSame, Ne.symm hSame]

/-- The challenge of a handshake is never taken for a response. -/
theorem verified_isResponse {response : HandshakeMsg}
    (h : verifyHandshakeResponse ed params peerNonce peerPartyId peerSdpFingerprint response
      keys = .verified) :
    ∃ signatureB64 signerPkB64 device, response = .response signatureB64 signerPkB64 device := by
  cases response with
  | challenge nonceB64 device => cases h
  | response signatureB64 signerPkB64 device => exact ⟨_, _, _, rfl⟩

/-- An accepted response speaks for the peer device of the parameters: exactly
when the frame names that device, or is not validly signed by the device of
the peer's account that it names instead. -/
theorem verified_binds_peer_device_iff (response : HandshakeMsg) :
    (verifyHandshakeResponse ed params peerNonce peerPartyId peerSdpFingerprint response keys =
        .verified →
      ∃ signatureB64 signerPkB64,
        response = .response signatureB64 signerPkB64 params.peerDeviceId ∧
        SignedAs ed keys (handshakeTranscript params peerNonce peerPartyId peerSdpFingerprint)
          params.peerUserId params.peerDeviceId signatureB64 signerPkB64) ↔
    ∀ signatureB64 signerPkB64 device,
      response = .response signatureB64 signerPkB64 device → device ≠ params.peerDeviceId →
      ¬ SignedAs ed keys (handshakeTranscript params peerNonce peerPartyId peerSdpFingerprint)
        params.peerUserId device signatureB64 signerPkB64 := by
  constructor
  · intro hSound signatureB64 signerPkB64 device hResponse hOther hSigned
    subst hResponse
    obtain ⟨_, _, hSame, -⟩ := hSound
      ((verifyHandshakeResponse_eq_verified ed params peerNonce peerPartyId peerSdpFingerprint
        keys).mpr hSigned)
    cases hSame
    exact hOther rfl
  · intro hForeign hVerified
    obtain ⟨signatureB64, signerPkB64, device, rfl⟩ := verified_isResponse ed params peerNonce
      peerPartyId peerSdpFingerprint keys hVerified
    have hSigned := (verifyHandshakeResponse_eq_verified ed params peerNonce peerPartyId
      peerSdpFingerprint keys).mp hVerified
    have hDevice : device = params.peerDeviceId := by
      by_contra hOther
      exact hForeign _ _ _ rfl hOther hSigned
    subst hDevice
    exact ⟨signatureB64, signerPkB64, rfl, hSigned⟩

/-- The frame that the device `device` with key `seed` makes for the client. -/
def frameFrom (device : String) (seed : UInt8) : HandshakeMsg :=
  .response
    (encodeSignature ((Ed25519.marking []).sign seed
      (handshakeTranscript clientSide workerSide.ourNonce "worker" "CC:DD")))
    (encodePublicKey ((Ed25519.marking []).publicKey seed)) device

theorem frameFrom_verified {keys : HandshakePeerKeySource} {device : String} {seed : UInt8}
    (hKnown : keys "@bob:x" device = some (Vector.replicate 32 seed)) :
    verifyHandshakeResponse (Ed25519.marking []) clientSide workerSide.ourNonce "worker" "CC:DD"
      (frameFrom device seed) keys = .verified := by
  rw [frameFrom, verifyHandshakeResponse_eq_verified, signedAs_encode]
  exact ⟨hKnown, (Ed25519.marking_correct []).verifyPeerSignature seed _⟩

/-- The worker's own frame is accepted, and bound to the worker. -/
theorem worker_frame_bound :
    ∃ signatureB64 signerPkB64, frameFrom "WORKER" 4 = .response signatureB64 signerPkB64 "WORKER" ∧
      SignedAs (Ed25519.marking []) callKeys
        (handshakeTranscript clientSide workerSide.ourNonce "worker" "CC:DD") "@bob:x" "WORKER"
        signatureB64 signerPkB64 := by
  refine (verified_binds_peer_device_iff (Ed25519.marking []) clientSide workerSide.ourNonce
    "worker" "CC:DD" callKeys (frameFrom "WORKER" 4)).mpr ?_ (frameFrom_verified rfl)
  intro signatureB64 signerPkB64 device hFrame hOther
  cases hFrame
  exact absurd rfl hOther

/-- A spare device of the same account passes for the invited worker. -/
theorem spare_device_verified :
    let keys := InMemoryPeerKeySource.insert callKeys "@bob:x" "SPARE" (Vector.replicate 32 5)
    keys "@bob:x" "WORKER" ≠ keys "@bob:x" "SPARE" ∧
    verifyHandshakeResponse (Ed25519.marking []) clientSide workerSide.ourNonce "worker" "CC:DD"
      (frameFrom "SPARE" 5) keys = .verified ∧
    ¬ ∃ signatureB64 signerPkB64,
      frameFrom "SPARE" 5 = .response signatureB64 signerPkB64 clientSide.peerDeviceId := by
  refine ⟨by decide, frameFrom_verified rfl, ?_⟩
  rintro ⟨signatureB64, signerPkB64, hFrame⟩
  exact absurd (HandshakeMsg.response.inj hFrame).2.2 (by decide)

/-- A response of our own, reflected to us, is refused exactly when the peer
has another account, or our own device is not one that the key source vouches
for with the key and the signature we produce. -/
theorem reflected_response_rejected_iff (signer : HandshakeSigner)
    (hDistinct : ∀ signature key,
      signer (handshakeTranscript params peerNonce peerPartyId peerSdpFingerprint) =
        .ok (signature, key) →
      ∀ user device, keys user device = some key →
        user = params.ourUserId ∧ device = params.ourDeviceId) :
    (∀ response,
      buildHandshakeResponse params peerNonce peerPartyId peerSdpFingerprint signer =
        .ok response →
      verifyHandshakeResponse ed params peerNonce peerPartyId peerSdpFingerprint response keys ≠
        .verified) ↔
    (params.peerUserId = params.ourUserId → ∀ signature key,
      signer (handshakeTranscript params peerNonce peerPartyId peerSdpFingerprint) =
        .ok (signature, key) →
      keys params.ourUserId params.ourDeviceId = some key →
      verifyPeerSignature ed key signature
        (handshakeTranscript params peerNonce peerPartyId peerSdpFingerprint) ≠ .ok ()) := by
  simp only [buildHandshakeResponse]
  generalize hTranscript :
    handshakeTranscript params peerNonce peerPartyId peerSdpFingerprint = transcript at hDistinct ⊢
  cases hSigned : signer transcript with
  | error failure => simp
  | ok signed =>
      obtain ⟨signature, key⟩ := signed
      have hOwn := hDistinct signature key hSigned
      simp only [Except.ok.injEq, forall_eq', Prod.mk.injEq, and_imp, ne_eq,
        verifyHandshakeResponse_eq_verified, signedAs_encode, hTranscript, not_and]
      constructor
      · rintro hRejected hAccount _ _ rfl rfl
        rw [← hAccount]
        exact hRejected
      · intro hRejected hKnown
        have hAccount := (hOwn _ _ hKnown).1
        rw [hAccount] at hKnown
        exact hRejected hAccount signature key rfl rfl hKnown

/-- The client's key is known for the client alone. -/
theorem callKeys_client {user device : String}
    (h : callKeys user device = some (Vector.replicate 32 3)) :
    user = "@alice:x" ∧ device = "CLIENT" := by
  simp only [callKeys, InMemoryPeerKeySource.insert, InMemoryPeerKeySource.new] at h
  split at h
  next hClient => exact hClient
  · split at h
    · exact absurd h (by decide)
    · cases h

/-- Between two accounts the client's own frame is refused. -/
theorem own_frame_rejected :
    verifyHandshakeResponse (Ed25519.marking []) clientSide workerSide.ourNonce "worker" "CC:DD"
      (frameFrom "CLIENT" 3) callKeys ≠ .verified := by
  refine (reflected_response_rejected_iff (Ed25519.marking []) clientSide workerSide.ourNonce
    "worker" "CC:DD" callKeys (ephemeralKeySigner (Ed25519.marking []) (3 : UInt8)) ?_).mpr ?_ _ rfl
  · intro signature key hSigned user device hKnown
    obtain ⟨-, rfl⟩ := Prod.mk.inj (Except.ok.inj hSigned)
    exact callKeys_client hKnown
  · intro hAccount
    exact absurd hAccount (by decide)

/-- Client and worker under one account: the client's own frame is accepted. -/
theorem own_frame_verified :
    let params := { clientSide with peerUserId := "@alice:x" }
    let keys := InMemoryPeerKeySource.insert callKeys "@alice:x" "WORKER" (Vector.replicate 32 4)
    (params.ourUserId, params.ourDeviceId) ≠ (params.peerUserId, params.peerDeviceId) ∧
    (∀ user device, keys user device = some ((Ed25519.marking []).publicKey (3 : UInt8)) →
      user = params.ourUserId ∧ device = params.ourDeviceId) ∧
    buildHandshakeResponse params workerSide.ourNonce "worker" "CC:DD"
      (ephemeralKeySigner (Ed25519.marking []) (3 : UInt8)) = .ok (frameFrom "CLIENT" 3) ∧
    verifyHandshakeResponse (Ed25519.marking []) params workerSide.ourNonce "worker" "CC:DD"
      (frameFrom "CLIENT" 3) keys = .verified := by
  refine ⟨by decide, ?_, rfl, ?_⟩
  · intro user device hKnown
    simp only [InMemoryPeerKeySource.insert] at hKnown
    split at hKnown
    · exact absurd hKnown (by decide)
    · exact callKeys_client hKnown
  · rw [frameFrom, verifyHandshakeResponse_eq_verified, signedAs_encode]
    exact ⟨rfl, (Ed25519.marking_correct []).verifyPeerSignature (3 : UInt8) _⟩

end Responses

/-- Two sides of one call, each naming the other as its peer. -/
structure Facing (ours theirs : HandshakeParams) : Prop where
  roomId : theirs.roomId = ours.roomId
  sessionUuid : theirs.sessionUuid = ours.sessionUuid
  callId : theirs.callId = ours.callId
  ourUser : theirs.peerUserId = ours.ourUserId
  ourDevice : theirs.peerDeviceId = ours.ourDeviceId
  theirUser : ours.peerUserId = theirs.ourUserId
  theirDevice : ours.peerDeviceId = theirs.ourDeviceId

/-- The parameters of the two sides: one of them is the offerer. -/
structure Mirrored (ours theirs : HandshakeParams) : Prop extends Facing ours theirs where
  role : theirs.weAreOfferer = !ours.weAreOfferer

theorem Mirrored.symm {ours theirs : HandshakeParams} (h : Mirrored ours theirs) :
    Mirrored theirs ours where
  roomId := h.roomId.symm
  sessionUuid := h.sessionUuid.symm
  callId := h.callId.symm
  ourUser := h.theirUser
  ourDevice := h.theirDevice
  theirUser := h.ourUser
  theirDevice := h.ourDevice
  role := by rw [h.role, Bool.not_not]

/-- The transcript of one side, when `theirs` are the parameters of the other. -/
def transcriptWith (ours theirs : HandshakeParams) : Bytes :=
  handshakeTranscript ours theirs.ourNonce theirs.ourPartyId theirs.ourSdpFingerprint

/-- The response of one side to the other. -/
def responseTo (ours theirs : HandshakeParams) (signer : HandshakeSigner) :
    Except VerifyError HandshakeMsg :=
  buildHandshakeResponse ours theirs.ourNonce theirs.ourPartyId theirs.ourSdpFingerprint signer

/-- The verdict of one side on a response of the other. -/
def verdictOn (ed : Ed25519) (ours theirs : HandshakeParams) (response : HandshakeMsg)
    (keys : HandshakePeerKeySource) : HandshakeOutcome :=
  verifyHandshakeResponse ed ours theirs.ourNonce theirs.ourPartyId theirs.ourSdpFingerprint
    response keys

/-- Offerer first on both sides: the two orderings undo each other. -/
theorem canonicalOrdering_not {α : Type} (our theirs : α) (role : Bool) :
    canonicalOrdering theirs our (!role) = canonicalOrdering our theirs role := by
  cases role <;> rfl

theorem transcriptWith_symm {ours theirs : HandshakeParams} (h : Mirrored ours theirs) :
    transcriptWith theirs ours = transcriptWith ours theirs := by
  simp only [transcriptWith, handshakeTranscript, h.role, canonicalOrdering_not, h.roomId,
    h.sessionUuid, h.callId]

/-- A side that signs the transcript itself is accepted by the other. -/
theorem verdictOn_ephemeral {ed : Ed25519} (hEd : ed.Correct) {ours theirs : HandshakeParams}
    (h : Mirrored ours theirs) (key : ed.SigningKey) (keys : HandshakePeerKeySource)
    (hKnown : keys ours.ourUserId ours.ourDeviceId = some (ed.publicKey key)) :
    ∃ response, responseTo ours theirs (ephemeralKeySigner ed key) = .ok response ∧
      verdictOn ed theirs ours response keys = .verified := by
  refine ⟨_, rfl, ?_⟩
  rw [verdictOn, verifyHandshakeResponse_eq_verified, signedAs_encode, h.ourUser]
  refine ⟨hKnown, ?_⟩
  have hSame : handshakeTranscript theirs ours.ourNonce ours.ourPartyId ours.ourSdpFingerprint =
      handshakeTranscript ours theirs.ourNonce theirs.ourPartyId theirs.ourSdpFingerprint :=
    transcriptWith_symm h
  rw [hSame]
  exact hEd.verifyPeerSignature key _

/-- How the two sides come to their roles: one of them sent the only invite, or
both did and each resolves the glare for itself. -/
inductive Negotiated (userA userB callA callB : String) : Bool → Bool → Prop where
  | oneInvite (sent : Bool) :
      Negotiated userA userB callA callB (weAreOfferer none sent) (weAreOfferer none !sent)
  | glare (hDistinct : ¬ (userA = userB ∧ callA = callB)) :
      Negotiated userA userB callA callB
        (weAreOfferer (some (resolve userA userB callA callB)) true)
        (weAreOfferer (some (resolve userB userA callB callA)) true)

theorem Negotiated.opposite {userA userB callA callB : String} {roleA roleB : Bool}
    (h : Negotiated userA userB callA callB roleA roleB) : roleB = !roleA := by
  cases h with
  | oneInvite sent => rfl
  | glare hDistinct =>
      rw [resolve_swap hDistinct]
      cases resolve userA userB callA callB <;> rfl

/-- Both sides compute the same transcript, whatever way the roles were found,
and with signers of the raw transcript each accepts the other. -/
theorem handshake_agreement (ed : Ed25519) (hEd : ed.Correct) (a b : HandshakeParams)
    (hFacing : Facing a b) (callA callB : String)
    (hRoles : Negotiated a.ourUserId b.ourUserId callA callB a.weAreOfferer b.weAreOfferer) :
    transcriptWith a b = transcriptWith b a ∧
    ∀ (keyA keyB : ed.SigningKey) (keysOfA keysOfB : HandshakePeerKeySource),
      keysOfB a.ourUserId a.ourDeviceId = some (ed.publicKey keyA) →
      keysOfA b.ourUserId b.ourDeviceId = some (ed.publicKey keyB) →
      (∃ response, responseTo a b (ephemeralKeySigner ed keyA) = .ok response ∧
        verdictOn ed b a response keysOfB = .verified) ∧
      ∃ response, responseTo b a (ephemeralKeySigner ed keyB) = .ok response ∧
        verdictOn ed a b response keysOfA = .verified := by
  have hMirrored : Mirrored a b := ⟨hFacing, hRoles.opposite⟩
  refine ⟨(transcriptWith_symm hMirrored).symm, ?_⟩
  intro keyA keyB keysOfA keysOfB hKnowsA hKnowsB
  exact ⟨verdictOn_ephemeral hEd hMirrored keyA keysOfB hKnowsA,
    verdictOn_ephemeral hEd hMirrored.symm keyB keysOfA hKnowsB⟩

theorem clientSide_mirrored : Mirrored clientSide workerSide :=
  ⟨⟨rfl, rfl, rfl, rfl, rfl, rfl, rfl⟩, rfl⟩

/-- Both sides sent an invite; each finds its role by itself. -/
theorem glare_agreement :
    transcriptWith clientSide workerSide = transcriptWith workerSide clientSide ∧
    (∃ response, responseTo clientSide workerSide
        (ephemeralKeySigner (Ed25519.marking []) (3 : UInt8)) = .ok response ∧
      verdictOn (Ed25519.marking []) workerSide clientSide response callKeys = .verified) := by
  have hRoles : Negotiated "@alice:x" "@bob:x" "c1" "c2" true false := by
    have hLower : resolve "@alice:x" "@bob:x" "c1" "c2" = .weWin := by decide
    have hUpper : resolve "@bob:x" "@alice:x" "c2" "c1" = .theyWin := by decide
    have hGlare : Negotiated "@alice:x" "@bob:x" "c1" "c2" _ _ := .glare (by decide)
    rw [hLower, hUpper] at hGlare
    exact hGlare
  obtain ⟨hSame, hAccept⟩ := handshake_agreement (Ed25519.marking []) (Ed25519.marking_correct [])
    clientSide workerSide clientSide_mirrored.toFacing "c1" "c2" hRoles
  exact ⟨hSame, (hAccept (3 : UInt8) (4 : UInt8) callKeys callKeys rfl rfl).1⟩

theorem transcriptWith_ne_nil (ours theirs : HandshakeParams) :
    transcriptWith ours theirs ≠ [] := by
  simp [transcriptWith, handshakeTranscript, buildTranscript]

/-- A signature of the base64 text does not verify for the transcript. -/
theorem text_signature_ne_ok {ed : Ed25519} {key : ed.SigningKey} {transcript : Bytes}
    (hTranscript : transcript ≠ [])
    (hExact : ed.SignsExactly key (asBytes (Base64.encode transcript))) :
    verifyPeerSignature ed (ed.publicKey key)
      (ed.sign key (asBytes (Base64.encode transcript))) transcript ≠ .ok () := by
  intro hVerified
  rw [verifyPeerSignature_eq_ok] at hVerified
  obtain ⟨verifyingKey, hKey, hVerify⟩ := hVerified
  have hText := (hExact verifyingKey hKey _).mp hVerify
  exact Base64.bytes_encode_ne transcript hTranscript hText.symm

/-- The response of the production signer is refused by every peer: its
signature is for the base64 text, and the peer checks the transcript. -/
theorem matrix_response_rejected (ed : Ed25519) (ours theirs : HandshakeParams)
    (hMirrored : Mirrored ours theirs) (olm : MatrixClient.OlmMachine) (key : ed.SigningKey)
    (hOlm : SignsWith ed olm key) (keys : HandshakePeerKeySource)
    (hExact : ed.SignsExactly key (asBytes (Base64.encode (transcriptWith ours theirs)))) :
    ¬ ∃ response, responseTo ours theirs (matrixHandshakeSigner (some olm)) = .ok response ∧
      verdictOn ed theirs ours response keys = .verified := by
  rintro ⟨response, hBuilt, hVerified⟩
  have hSame : handshakeTranscript theirs ours.ourNonce ours.ourPartyId ours.ourSdpFingerprint =
      transcriptWith ours theirs := transcriptWith_symm hMirrored
  rw [responseTo, buildHandshakeResponse, ← transcriptWith] at hBuilt
  cases hSigned : matrixHandshakeSigner (some olm) (transcriptWith ours theirs) with
  | error failure => simp [hSigned] at hBuilt
  | ok signed =>
      obtain ⟨signature, publicKey⟩ := signed
      obtain ⟨rfl, rfl⟩ := matrixHandshakeSigner_eq hOlm hSigned
      rw [hSigned] at hBuilt
      obtain rfl := Except.ok.inj hBuilt
      rw [verdictOn, verifyHandshakeResponse_eq_verified, signedAs_encode, hSame] at hVerified
      exact text_signature_ne_ok (transcriptWith_ne_nil ours theirs) hExact hVerified.2

/-- What the client's device signs in the handshake of `clientSide`. -/
def clientText : Bytes := asBytes (Base64.encode (transcriptWith clientSide workerSide))

/-- The client's Olm machine. -/
def clientOlm : MatrixClient.OlmMachine where
  userId := "@alice:x"
  deviceId := "CLIENT"
  identityKey := Vector.replicate 32 3
  sign := fun message => .ok fun user keyId =>
    if user = "@alice:x" ∧ keyId = "ed25519:CLIENT" then
      some ((Ed25519.marking clientText).sign (3 : UInt8) (asBytes message))
    else none
  parseKeyId := .ok

theorem clientOlm_signsWith : SignsWith (Ed25519.marking clientText) clientOlm (3 : UInt8) := by
  refine ⟨rfl, ?_⟩
  intro message signatures keyId signature hSign hKeyId hFound
  obtain rfl := Except.ok.inj hSign
  obtain rfl := Except.ok.inj hKeyId
  exact (Option.some.inj hFound).symm

theorem clientSide_response_rejected :
    ¬ ∃ response, responseTo clientSide workerSide (matrixHandshakeSigner (some clientOlm)) =
        .ok response ∧
      verdictOn (Ed25519.marking clientText) workerSide clientSide response callKeys =
        .verified :=
  matrix_response_rejected (Ed25519.marking clientText) clientSide workerSide clientSide_mirrored
    clientOlm (3 : UInt8) clientOlm_signsWith callKeys
    (Ed25519.marking_signsExactly clientText 3 (by decide))

/-- A well-behaved client: the response is built, the worker knows the client's
key, and still refuses. -/
theorem clientSide_response_mismatch :
    callKeys "@alice:x" "CLIENT" = some ((Ed25519.marking clientText).publicKey (3 : UInt8)) ∧
    ∃ response, responseTo clientSide workerSide (matrixHandshakeSigner (some clientOlm)) =
        .ok response ∧
      verdictOn (Ed25519.marking clientText) workerSide clientSide response callKeys ≠
        .verified := by
  refine ⟨rfl, .response
    (encodeSignature ((Ed25519.marking clientText).sign (3 : UInt8) clientText))
    (encodePublicKey ((Ed25519.marking clientText).publicKey (3 : UInt8))) "CLIENT", rfl, ?_⟩
  intro hVerified
  rw [verdictOn, verifyHandshakeResponse_eq_verified, signedAs_encode] at hVerified
  exact text_signature_ne_ok (transcriptWith_ne_nil clientSide workerSide)
    (Ed25519.marking_signsExactly clientText 3 (by decide)) hVerified.2

end Mxdx.P2P
