import Mxdx.Core.P2PTransport
import Mxdx.P2P.Transport.Fingerprint

/-! The transcript of the JavaScript runtime, built field by field, over SDP
fingerprints that its own scanner extracts. On ASCII both runtimes extract the
same fingerprints and sign the same bytes. -/
namespace Mxdx.Core.P2PVerify

open P2P (Nonce nonceLen fieldSep domainSeparationTag VerifyError fingerprintTag strLe)
open Unicode (Ascii)

/-- `toLowerCase` and `toUpperCase`; what they do is fixed on ASCII only. -/
structure CaseMapping where
  toLowerCase : String → String
  toUpperCase : String → String
  toLowerCase_ascii : ∀ text : String, Ascii text.toList →
    toLowerCase text = String.ofList (text.toList.map Char.toLower)
  toUpperCase_ascii : ∀ text : String, Ascii text.toList →
    toUpperCase text = String.ofList (text.toList.map Char.toUpper)

section Extract

variable (mapping : CaseMapping)

/-- What the loop over the lines pushes for one of them. -/
def candidate (line : List Char) : Option String :=
  let trimmed := jsTrim line
  if ¬ fingerprintTag <+: trimmed then none
  else
    let rest := trimmed.drop fingerprintTag.length
    match rest.findIdx? isJsSpace with
    | none => none
    | some ws =>
        let algo := String.ofList (rest.take ws)
        let fp := String.ofList (jsTrim (rest.drop (ws + 1)))
        if mapping.toLowerCase algo = "sha-256" ∧ fp ≠ "" then some (mapping.toUpperCase fp)
        else none

/-- The order of `Array.prototype.sort`, which compares code units. -/
def jsLe (s t : String) : Bool := !lessThan t s

theorem jsLe_eq_isLE (s t : String) :
    jsLe s t = (compare (Utf16.units s) (Utf16.units t)).isLE := by
  rw [jsLe, lessThan, Std.OrientedOrd.eq_swap]
  cases compare (Utf16.units s) (Utf16.units t) <;> rfl

/-- Of several fingerprints the first in JavaScript's order counts. -/
def extractSdpFingerprint (sdp : String) : Except String String :=
  match (((Lines.splitCrLf sdp.toList).filterMap (candidate mapping)).mergeSort jsLe).head? with
  | none => .error "missing_sdp_fingerprint"
  | some fingerprint => .ok fingerprint

/-- Both descriptions need a fingerprint. -/
def canonicalSdpFingerprints (offerSdp answerSdp : String) : Except String (String × String) := do
  let offererFp ← extractSdpFingerprint mapping offerSdp
  let answererFp ← extractSdpFingerprint mapping answerSdp
  return (offererFp, answererFp)

end Extract

/-- What both ends sign. -/
structure TranscriptParams where
  roomId : String
  sessionUuid : Option String
  callId : String
  offererNonce : Bytes
  answererNonce : Bytes
  offererPartyId : String
  answererPartyId : String
  offererSdpFingerprint : String
  answererSdpFingerprint : String

/-- The parts, one after the other. -/
def buildTranscript (params : TranscriptParams) : Except String Bytes :=
  if params.offererNonce.length ≠ nonceLen then .error s!"offerer_nonce must be {nonceLen} bytes"
  else if params.answererNonce.length ≠ nonceLen then
    .error s!"answerer_nonce must be {nonceLen} bytes"
  else
    .ok [domainSeparationTag, [fieldSep], asBytes params.roomId, [fieldSep],
      asBytes (params.sessionUuid.getD ""), [fieldSep], asBytes params.callId,
      params.offererNonce, params.answererNonce, [fieldSep], asBytes params.offererPartyId,
      [fieldSep], asBytes params.answererPartyId, [fieldSep],
      asBytes params.offererSdpFingerprint, [fieldSep],
      asBytes params.answererSdpFingerprint].flatten

/-- Over 32-byte nonces it is the transcript of the Rust runtime, whatever the texts. -/
theorem buildTranscript_eq
    (roomId callId offererPartyId answererPartyId offererFp answererFp : String)
    (sessionUuid : Option String) (offererNonce answererNonce : Nonce) :
    buildTranscript ⟨roomId, sessionUuid, callId, offererNonce.toList, answererNonce.toList,
      offererPartyId, answererPartyId, offererFp, answererFp⟩ =
    .ok (P2P.buildTranscript roomId (sessionUuid.getD "") callId offererNonce answererNonce
      offererPartyId answererPartyId offererFp answererFp) := by
  simp [buildTranscript, P2P.buildTranscript]

section Ascii

variable {text line : List Char}

theorem ascii_of_subset (h : Ascii text) (hPart : line ⊆ text) : Ascii line :=
  fun c hMem => h c (hPart hMem)

theorem isWhitespace_eq_isJsSpace {c : Char} (h : c.toNat < 128) :
    Worker.isWhitespace c = isJsSpace c :=
  Unicode.ascii_forall (fun c => Worker.isWhitespace c = isJsSpace c) (by decide) h

theorem ascii_map_toUpper (h : Ascii text) : Ascii (text.map Char.toUpper) := by
  intro c hMem
  obtain ⟨d, hText, rfl⟩ := List.mem_map.mp hMem
  exact Unicode.ascii_forall (fun d => d.toUpper.toNat < 128) (by decide) (h d hText)

theorem dropWhile_congr {p q : Char → Bool} (h : ∀ c ∈ text, p c = q c) :
    text.dropWhile p = text.dropWhile q := by
  induction text with
  | nil => rfl
  | cons c text ih =>
      rw [List.forall_mem_cons] at h
      rw [List.dropWhile_cons, List.dropWhile_cons, h.1, ih h.2]

theorem takeWhile_congr {p q : Char → Bool} (h : ∀ c ∈ text, p c = q c) :
    text.takeWhile p = text.takeWhile q := by
  induction text with
  | nil => rfl
  | cons c text ih =>
      rw [List.forall_mem_cons] at h
      rw [List.takeWhile_cons, List.takeWhile_cons, h.1, ih h.2]

theorem trim_eq_jsTrim (h : Ascii text) : Worker.trim text = jsTrim text := by
  have hFront : Ascii (text.dropWhile isJsSpace).reverse :=
    ascii_of_subset h (List.reverse_subset.mpr (List.dropWhile_subset _))
  rw [Worker.trim, jsTrim, dropWhile_congr fun c hMem => isWhitespace_eq_isJsSpace (h c hMem),
    dropWhile_congr fun c hMem => isWhitespace_eq_isJsSpace (hFront c hMem)]

theorem jsTrim_subset (text : List Char) : jsTrim text ⊆ text := by
  intro c hMem
  rw [jsTrim, List.mem_reverse] at hMem
  exact List.dropWhile_subset _ (List.mem_reverse.mp (List.dropWhile_subset _ hMem))

/-- White space cuts a text at the same place, whether searched for or passed by. -/
theorem cut_eq (h : Ascii text) {ws : Nat} (hFound : text.findIdx? isJsSpace = some ws) :
    text.takeWhile (!Worker.isWhitespace ·) = text.take ws ∧
      (text.dropWhile (!Worker.isWhitespace ·)).drop 1 = text.drop (ws + 1) := by
  have hSpace : ∀ c ∈ text, (!Worker.isWhitespace c) = !isJsSpace c := fun c hMem =>
    congrArg _ (isWhitespace_eq_isJsSpace (h c hMem))
  have hIndex : text.findIdx isJsSpace = ws := (List.findIdx?_eq_some_iff_findIdx_eq.mp hFound).2
  rw [takeWhile_congr hSpace, dropWhile_congr hSpace, List.takeWhile_eq_take_findIdx_not,
    List.dropWhile_eq_drop_findIdx_not, List.drop_drop]
  simp only [Bool.not_not, hIndex, and_self]

/-- Where there is no white space there is no fingerprint behind it. -/
theorem uncut_eq (h : Ascii text) (hNone : text.findIdx? isJsSpace = none) :
    text.dropWhile (!Worker.isWhitespace ·) = [] := by
  rw [List.dropWhile_eq_nil_iff]
  intro c hMem
  rw [isWhitespace_eq_isJsSpace (h c hMem), List.findIdx?_eq_none_iff.mp hNone c hMem]
  rfl

theorem sha256_iff (mapping : CaseMapping) (h : Ascii text) :
    mapping.toLowerCase (String.ofList text) = "sha-256" ↔
      P2P.eqIgnoreAsciiCase text "sha-256".toList = true := by
  have hLower : "sha-256".toList.map Char.toLower = "sha-256".toList := by decide
  rw [mapping.toLowerCase_ascii _ (by rwa [String.toList_ofList]), String.toList_ofList,
    ← String.toList_inj, String.toList_ofList, P2P.eqIgnoreAsciiCase, hLower, beq_iff_eq]

theorem candidate_eq (mapping : CaseMapping) (h : Ascii line) :
    candidate mapping line = P2P.sdpCandidate line := by
  have hTrimmed : Ascii (jsTrim line) := ascii_of_subset h (jsTrim_subset line)
  simp only [candidate, P2P.sdpCandidate, P2P.stripPrefix, trim_eq_jsTrim h,
    List.isPrefixOf_iff_prefix]
  by_cases hTag : fingerprintTag <+: jsTrim line
  · rw [if_neg (not_not_intro hTag), if_pos hTag]
    have hRest : Ascii ((jsTrim line).drop fingerprintTag.length) :=
      ascii_of_subset hTrimmed (List.drop_subset _ _)
    generalize (jsTrim line).drop fingerprintTag.length = rest at hRest ⊢
    dsimp only
    cases hFound : rest.findIdx? isJsSpace with
    | none => simp [uncut_eq hRest hFound, Worker.trim]
    | some ws =>
        obtain ⟨hAlgo, hAfter⟩ := cut_eq hRest hFound
        have hFp : Ascii (rest.drop (ws + 1)) := ascii_of_subset hRest (List.drop_subset _ _)
        have hUpper : Ascii (jsTrim (rest.drop (ws + 1))) :=
          ascii_of_subset hFp (jsTrim_subset _)
        dsimp only
        rw [hAlgo, hAfter, trim_eq_jsTrim hFp]
        simp only [sha256_iff mapping (ascii_of_subset hRest (List.take_subset _ _)), ne_eq,
          String.ofList_eq_empty_iff]
        rw [mapping.toUpperCase_ascii _ (by rwa [String.toList_ofList]), P2P.toAsciiUppercase]
        simp only [String.toList_ofList]
  · rw [if_pos hTag, if_neg hTag]

/-- A fingerprint is part of its line, in capitals. -/
theorem ascii_of_sdpCandidate (h : Ascii line) {fingerprint : String}
    (hFound : P2P.sdpCandidate line = some fingerprint) : Ascii fingerprint.toList := by
  unfold P2P.sdpCandidate P2P.stripPrefix at hFound
  split_ifs at hFound with hTag
  dsimp only at hFound
  split_ifs at hFound
  cases hFound
  have hTrimmed : Ascii (Worker.trim line) := by
    rw [trim_eq_jsTrim h]
    exact ascii_of_subset h (jsTrim_subset line)
  have hAfter : Ascii ((((Worker.trim line).drop fingerprintTag.length).dropWhile
      (!Worker.isWhitespace ·)).drop 1) := by
    apply ascii_of_subset hTrimmed
    intro c hMem
    exact List.drop_subset _ _ (List.dropWhile_subset _ (List.drop_subset _ _ hMem))
  rw [P2P.toAsciiUppercase, String.toList_ofList, trim_eq_jsTrim hAfter]
  exact ascii_map_toUpper (ascii_of_subset hAfter (jsTrim_subset _))

theorem jsLe_eq_strLe {s t : String} (hFirst : Ascii s.toList) (hSecond : Ascii t.toList) :
    jsLe s t = strLe s t := by
  rw [jsLe_eq_isLE, strLe, strCmp, asBytes, asBytes, Utf16.compare_units_of_ascii hFirst hSecond]

/-- ASCII texts are sorted alike. -/
theorem mergeSort_eq {texts : List String} (h : ∀ text ∈ texts, Ascii text.toList) :
    texts.mergeSort jsLe = texts.mergeSort strLe := by
  have hSame : ∀ s ∈ texts, ∀ t ∈ texts, jsLe s t = strLe (id s) (id t) :=
    fun s hs t ht => jsLe_eq_strLe (h s hs) (h t ht)
  simpa only [List.map_id] using List.map_mergeSort hSame

theorem extractSdpFingerprint_eq (mapping : CaseMapping) {sdp : String} (h : Ascii sdp.toList) :
    extractSdpFingerprint mapping sdp =
      (P2P.extractSdpFingerprint sdp).mapError fun _ => "missing_sdp_fingerprint" := by
  have hLines : ∀ line ∈ Lines.lines sdp.toList, candidate mapping line = P2P.sdpCandidate line :=
    fun line hLine => candidate_eq mapping
      (ascii_of_subset h fun _ hMem => Lines.mem_of_mem_lines hLine hMem)
  have hCandidates : (Lines.splitCrLf sdp.toList).filterMap (candidate mapping) =
      (Lines.lines sdp.toList).filterMap P2P.sdpCandidate := by
    rw [Lines.filterMap_splitCrLf (by rfl)]
    exact List.filterMap_congr hLines
  have hAscii : ∀ text ∈ (Lines.lines sdp.toList).filterMap P2P.sdpCandidate,
      Ascii text.toList := by
    intro text hMem
    obtain ⟨line, hLine, hFound⟩ := List.mem_filterMap.mp hMem
    exact ascii_of_sdpCandidate
      (ascii_of_subset h fun _ hMem => Lines.mem_of_mem_lines hLine hMem) hFound
  rw [extractSdpFingerprint, hCandidates, mergeSort_eq hAscii, P2P.extractSdpFingerprint]
  cases (((Lines.lines sdp.toList).filterMap P2P.sdpCandidate).mergeSort strLe).head? <;> rfl

end Ascii

section Transcript

/-- The transcript over the fingerprints of two SDPs, as the Rust runtime builds it. -/
def rustTranscript (roomId callId offererPartyId answererPartyId : String)
    (sessionUuid : Option String) (offererNonce answererNonce : Nonce)
    (offerSdp answerSdp : String) : Except VerifyError Bytes := do
  let (offererFp, answererFp) ← P2P.canonicalSdpFingerprints offerSdp answerSdp
  return P2P.buildTranscript roomId (sessionUuid.getD "") callId offererNonce answererNonce
    offererPartyId answererPartyId offererFp answererFp

/-- As the JavaScript runtime builds it. -/
def jsTranscript (mapping : CaseMapping) (roomId callId offererPartyId answererPartyId : String)
    (sessionUuid : Option String) (offererNonce answererNonce : Nonce)
    (offerSdp answerSdp : String) : Except String Bytes := do
  let (offererFp, answererFp) ← canonicalSdpFingerprints mapping offerSdp answerSdp
  buildTranscript ⟨roomId, sessionUuid, callId, offererNonce.toList, answererNonce.toList,
    offererPartyId, answererPartyId, offererFp, answererFp⟩

/-- The same value from both runtimes, or from neither. -/
def Agree {α : Type} (js : Except String α) (rust : Except VerifyError α) : Prop :=
  js = rust.mapError fun _ => "missing_sdp_fingerprint"

theorem canonicalSdpFingerprints_agree (mapping : CaseMapping) {offerSdp answerSdp : String}
    (hOffer : Ascii offerSdp.toList) (hAnswer : Ascii answerSdp.toList) :
    Agree (canonicalSdpFingerprints mapping offerSdp answerSdp)
      (P2P.canonicalSdpFingerprints offerSdp answerSdp) := by
  rw [Agree, canonicalSdpFingerprints, P2P.canonicalSdpFingerprints,
    extractSdpFingerprint_eq mapping hOffer, extractSdpFingerprint_eq mapping hAnswer]
  cases P2P.extractSdpFingerprint offerSdp with
  | error error => rfl
  | ok offererFp => cases P2P.extractSdpFingerprint answerSdp <;> rfl

theorem transcript_identity (mapping : CaseMapping) (offerSdp answerSdp : String)
    (hOffer : Ascii offerSdp.toList) (hAnswer : Ascii answerSdp.toList)
    (roomId callId offererPartyId answererPartyId : String) (sessionUuid : Option String)
    (offererNonce answererNonce : Nonce) :
    Agree (extractSdpFingerprint mapping offerSdp) (P2P.extractSdpFingerprint offerSdp) ∧
      Agree (extractSdpFingerprint mapping answerSdp) (P2P.extractSdpFingerprint answerSdp) ∧
      Agree
        (jsTranscript mapping roomId callId offererPartyId answererPartyId sessionUuid
          offererNonce answererNonce offerSdp answerSdp)
        (rustTranscript roomId callId offererPartyId answererPartyId sessionUuid
          offererNonce answererNonce offerSdp answerSdp) := by
  refine ⟨extractSdpFingerprint_eq mapping hOffer, extractSdpFingerprint_eq mapping hAnswer, ?_⟩
  have hCanonical := canonicalSdpFingerprints_agree mapping hOffer hAnswer
  rw [Agree] at hCanonical
  rw [Agree, jsTranscript, rustTranscript, hCanonical]
  cases P2P.canonicalSdpFingerprints offerSdp answerSdp with
  | error error => rfl
  | ok fingerprints => exact buildTranscript_eq _ _ _ _ _ _ _ _ _

/-- Letters change case on ASCII and nowhere else. -/
def asciiCase : CaseMapping where
  toLowerCase text := String.ofList (text.toList.map Char.toLower)
  toUpperCase text := String.ofList (text.toList.map Char.toUpper)
  toLowerCase_ascii _ _ := rfl
  toUpperCase_ascii _ _ := rfl

theorem transcript_identity_mixed :
    let offerSdp := "v=0\r\na=fingerprint:SHA-256\tbb:01 \r\na=fingerprint:sha-256 aa:02\n"
    let answerSdp := "a=fingerprint:sha-1 00\n a=fingerprint:sha-256 cc:03"
    Agree (extractSdpFingerprint asciiCase offerSdp) (P2P.extractSdpFingerprint offerSdp) ∧
      Agree (extractSdpFingerprint asciiCase answerSdp) (P2P.extractSdpFingerprint answerSdp) ∧
      Agree
        (jsTranscript asciiCase "!room:hs" "call" "A" "B" none (Vector.replicate _ 1)
          (Vector.replicate _ 2) offerSdp answerSdp)
        (rustTranscript "!room:hs" "call" "A" "B" none (Vector.replicate _ 1)
          (Vector.replicate _ 2) offerSdp answerSdp) :=
  transcript_identity asciiCase _ _ (by decide) (by decide) "!room:hs" "call" "A" "B" none _ _

end Transcript

section Transport

variable {runtime : Runtime} {mapping : CaseMapping}

theorem jsTrim_dropCr (line : List Char) : jsTrim (Lines.dropCr line) = jsTrim line := by
  unfold Lines.dropCr
  split_ifs with hCr
  · obtain ⟨front, rfl⟩ := List.getLast?_eq_some_iff.mp hCr
    rw [List.dropLast_concat, jsTrim, jsTrim, List.dropWhile_append]
    split_ifs with hBlank
    · rw [List.isEmpty_iff.mp hBlank]
      rfl
    · rw [List.reverse_concat, List.dropWhile_cons_of_pos (by rfl)]
  · rfl

theorem jsLe_total (s t : String) : (jsLe s t || jsLe t s) = true := by
  rw [jsLe_eq_isLE, jsLe_eq_isLE, Std.OrientedOrd.eq_swap]
  cases compare (Utf16.units t) (Utf16.units s) <;> rfl

theorem jsLe_trans (s t u : String) (hFirst : jsLe s t = true) (hSecond : jsLe t u = true) :
    jsLe s u = true := by
  rw [jsLe_eq_isLE] at hFirst hSecond ⊢
  exact Std.TransOrd.isLE_trans hFirst hSecond

theorem jsLe_antisymm {s t : String} (hFirst : jsLe s t = true) (hSecond : jsLe t s = true) :
    s = t := by
  rw [jsLe_eq_isLE] at hFirst hSecond
  exact Utf16.compare_units_eq_eq.mp (Std.OrientedCmp.isLE_antisymm hFirst hSecond)

/-- The fold ends at a text that is not above any of the others. -/
theorem foldl_least (first : String) (rest : List String) :
    let least := rest.foldl (fun least next => if lessThan next least then next else least) first
    least ∈ first :: rest ∧ ∀ text ∈ first :: rest, jsLe least text = true := by
  induction rest generalizing first with
  | nil =>
      refine ⟨List.mem_cons_self, fun text hMem => ?_⟩
      obtain rfl := List.mem_singleton.mp hMem
      simpa using jsLe_total text text
  | cons next rest ih =>
      rw [List.foldl_cons]
      split_ifs with hLess
      · obtain ⟨hMem, hLeast⟩ := ih next
        refine ⟨List.mem_cons_of_mem _ hMem, fun text hText => ?_⟩
        rcases List.mem_cons.mp hText with rfl | hText
        · have hBelow : jsLe next text = true := by
            have hTotal := jsLe_total next text
            simpa [jsLe, hLess] using hTotal
          exact jsLe_trans _ _ _ (hLeast next List.mem_cons_self) hBelow
        · exact hLeast text hText
      · obtain ⟨hMem, hLeast⟩ := ih first
        have hBelow : jsLe first next = true := by simp [jsLe, hLess]
        refine ⟨?_, fun text hText => ?_⟩
        · rcases List.mem_cons.mp hMem with hFirst | hRest
          · rw [hFirst]
            exact List.mem_cons_self
          · exact List.mem_cons_of_mem _ (List.mem_cons_of_mem _ hRest)
        · rcases List.mem_cons.mp hText with rfl | hText
          · exact hLeast text List.mem_cons_self
          · rcases List.mem_cons.mp hText with rfl | hText
            · exact jsLe_trans _ _ _ (hLeast first List.mem_cons_self) hBelow
            · exact hLeast text (List.mem_cons_of_mem _ hText)

/-- The first of the sorted texts is the least of them. -/
theorem head?_mergeSort_jsLe (first : String) (rest : List String) :
    ((first :: rest).mergeSort jsLe).head? =
      some (rest.foldl (fun least next => if lessThan next least then next else least) first) := by
  have hSorted := List.pairwise_mergeSort jsLe_trans jsLe_total (first :: rest)
  have hPerm := List.mergeSort_perm (first :: rest) jsLe
  obtain ⟨hMem, hLeast⟩ := foldl_least first rest
  cases hSort : (first :: rest).mergeSort jsLe with
  | nil => simp [hSort] at hPerm
  | cons head tail =>
      rw [hSort] at hSorted hPerm
      have hHead : head ∈ first :: rest := hPerm.mem_iff.mp List.mem_cons_self
      have hBelow := hLeast head hHead
      have hAbove := hPerm.mem_iff.mpr hMem
      rcases List.mem_cons.mp hAbove with hEq | hTail
      · rw [List.head?_cons, hEq]
      · rw [List.head?_cons]
        exact congrArg some (jsLe_antisymm (List.rel_of_pairwise_cons hSorted hTail) hBelow)

theorem lower_iff {text : List Char} (h : Ascii text) :
    mapping.toLowerCase (String.ofList text) = "sha-256" ↔
      text.map Char.toLower = "sha-256".toList := by
  rw [mapping.toLowerCase_ascii _ (by rwa [String.toList_ofList]), ← String.toList_inj]
  simp only [String.toList_ofList]

theorem fingerprintOf_eq (hUpper : runtime.toUpperCase = mapping.toUpperCase) {line : List Char}
    (h : Ascii line) : fingerprintOf runtime line = candidate mapping line := by
  have hTrimmed : Ascii (jsTrim line) := ascii_of_subset h (jsTrim_subset line)
  have hTagText : "a=fingerprint:".toList = fingerprintTag := rfl
  unfold fingerprintOf candidate
  simp only [hUpper, hTagText, List.isPrefixOf_iff_prefix]
  by_cases hTag : fingerprintTag <+: jsTrim line
  · rw [if_pos hTag, if_neg (not_not_intro hTag)]
    have hRest : Ascii ((jsTrim line).drop fingerprintTag.length) :=
      ascii_of_subset hTrimmed (List.drop_subset _ _)
    generalize (jsTrim line).drop fingerprintTag.length = rest at hRest ⊢
    rw [List.takeWhile_eq_take_findIdx_not]
    simp only [Bool.not_not]
    cases hFound : rest.findIdx? isJsSpace with
    | none =>
        have hIndex := List.findIdx?_eq_none_iff_findIdx_eq.mp hFound
        rw [hIndex, List.take_length, List.drop_eq_nil_of_le (Nat.le_succ _)]
        simp [jsTrim]
    | some ws =>
        obtain ⟨hShort, hIndex⟩ := List.findIdx?_eq_some_iff_findIdx_eq.mp hFound
        rw [hIndex, List.length_take_of_le (Nat.le_of_lt hShort)]
        simp only [lower_iff (ascii_of_subset hRest (List.take_subset ws rest)), ne_eq,
          String.ofList_eq_empty_iff]
  · rw [if_neg hTag, if_pos hTag]

/-- What the transport extracts. -/
theorem core_extractSdpFingerprint_eq (hUpper : runtime.toUpperCase = mapping.toUpperCase)
    {sdp : String} (h : Ascii sdp.toList) :
    Core.extractSdpFingerprint runtime sdp = (extractSdpFingerprint mapping sdp).toOption := by
  have hCr : ∀ line, fingerprintOf runtime (Lines.dropCr line) = fingerprintOf runtime line := by
    intro line
    rw [fingerprintOf, jsTrim_dropCr, fingerprintOf]
  have hLines : ∀ line ∈ Lines.lines sdp.toList,
      fingerprintOf runtime line = candidate mapping line := fun line hLine =>
    fingerprintOf_eq hUpper (ascii_of_subset h fun _ hMem => Lines.mem_of_mem_lines hLine hMem)
  have hCandidates : (sdp.toList.splitOn '\n').filterMap (fingerprintOf runtime) =
      (Lines.splitCrLf sdp.toList).filterMap (candidate mapping) := by
    rw [Lines.filterMap_splitOn hCr, Lines.filterMap_splitCrLf (by rfl),
      Lines.filterMap_splitCrLf (by rfl)]
    exact List.filterMap_congr hLines
  rw [Core.extractSdpFingerprint, extractSdpFingerprint, hCandidates]
  cases (Lines.splitCrLf sdp.toList).filterMap (candidate mapping) with
  | nil =>
      rw [List.mergeSort_nil]
      rfl
  | cons first rest =>
      dsimp only
      rw [head?_mergeSort_jsLe]
      rfl

end Transport

end Mxdx.Core.P2PVerify
