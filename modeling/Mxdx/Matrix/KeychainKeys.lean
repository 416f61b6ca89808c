import Mxdx.Core.Credentials
import Mxdx.Matrix.Session

/-! The keys of the keychain in the two ecosystems. A session that one of them has saved
is found by the other when both derive the same key from the user and the server, however
the server is written. Rust trims every scheme and every slash, JavaScript the first
scheme and the last slash. -/
namespace Mxdx.MatrixClient

open Mxdx.Core (stripProtocol stripSlash keychainKey)

def https : List Char := ['h', 't', 't', 'p', 's', ':', '/', '/']

def http : List Char := ['h', 't', 't', 'p', ':', '/', '/']

/-- What `normalize_server` leaves before it trims the slashes. -/
def trimSchemes (server : List Char) : List Char :=
  trimStartMatches http server.length (trimStartMatches https server.length server)

/-- A server without its first scheme and without the slashes at its end. -/
def bareServer (server : List Char) : List Char := (stripProtocol server).rdropWhile (· = '/')

/-- At most one slash at the end, and behind the scheme no other, except that `https://`
may stand behind `http://`. -/
structure Plain (server : List Char) : Prop where
  oneSlash : ¬ ['/', '/'] <:+ stripProtocol server
  oneScheme : ¬ http <+: stripProtocol server
  notTwice : https <+: server → ¬ https <+: stripProtocol server

/-- Two spellings of one server: the scheme may differ, and how many slashes follow. -/
def SameServer (first second : String) : Prop :=
  ∃ host : List Char, ∃ scheme ∈ [[], https, http], ∃ other ∈ [[], https, http],
    ∃ slashes more : Nat, first.toList = scheme ++ host ++ List.replicate slashes '/' ∧
      second.toList = other ++ host ++ List.replicate more '/'

/-- Both ecosystems have the same keys for the first server, and another spelling of it
makes no difference to either. -/
structure KeysShared (username first second : String) : Prop where
  session : sessionKey username first = keychainKey username first "session"
  password : passwordKey username first = keychainKey username first "password"
  alike : SameServer first second →
    sessionKey username first = sessionKey username second ∧
      passwordKey username first = passwordKey username second ∧
        keychainKey username first "session" = keychainKey username second "session" ∧
          keychainKey username first "password" = keychainKey username second "password"

section Trimming

variable {pattern text : List Char} {fuel : Nat}

theorem trimStartMatches_of_not (h : ¬ pattern <+: text) :
    trimStartMatches pattern fuel text = text := by
  cases fuel with
  | zero => rfl
  | succ fuel => rw [trimStartMatches, if_neg (by rwa [List.isPrefixOf_iff_prefix])]

theorem trimStartMatches_append (pattern rest : List Char) (fuel : Nat) :
    trimStartMatches pattern (fuel + 1) (pattern ++ rest) =
      trimStartMatches pattern fuel rest := by
  rw [trimStartMatches, if_pos (List.isPrefixOf_iff_prefix.mpr (List.prefix_append ..)),
    List.drop_left]

theorem trimStartMatches_suffix (pattern : List Char) (fuel : Nat) (text : List Char) :
    trimStartMatches pattern fuel text <:+ text := by
  induction fuel generalizing text with
  | zero => exact List.suffix_refl _
  | succ fuel ih =>
      rw [trimStartMatches]
      split
      · exact (ih _).trans (List.drop_suffix _ _)
      · exact List.suffix_refl _

theorem rdropWhile_length_le (text : List Char) :
    (text.rdropWhile (· = '/')).length ≤ text.length :=
  (List.rdropWhile_prefix _ _).length_le

theorem length_stripSlash (text : List Char) : text.length ≤ (stripSlash text).length + 1 := by
  unfold stripSlash
  split
  · rw [List.length_dropLast]
    omega
  · exact Nat.le_succ _

/-- One slash is all slashes where there are no two. -/
theorem rdropWhile_eq_stripSlash_iff (text : List Char) :
    text.rdropWhile (· = '/') = stripSlash text ↔ ¬ ['/', '/'] <:+ text := by
  induction text using List.reverseRecOn with
  | nil => exact iff_of_true rfl (by decide)
  | append_singleton text last _ =>
      by_cases hLast : last = '/'
      · subst hLast
        have hStrip : stripSlash (text ++ ['/']) = text := by
          simp [stripSlash]
        have hTwo : ['/'] ++ ['/'] <:+ text ++ ['/'] ↔ ['/'] <:+ text :=
          List.suffix_append_self_iff
        rw [hStrip, List.rdropWhile_concat_pos _ _ _ (by rfl), List.rdropWhile_eq_self_iff]
        refine Iff.trans ?_ (not_congr hTwo.symm)
        constructor
        · rintro hNone ⟨before, rfl⟩
          exact hNone (by simp) (by simp)
        · intro hNone hText hSlash
          have hEnd : text.getLast hText = '/' := by simpa using hSlash
          refine hNone ⟨text.dropLast, ?_⟩
          rw [← hEnd]
          exact List.dropLast_concat_getLast hText
      · rw [List.rdropWhile_concat_neg _ _ _ (by simpa using hLast)]
        refine iff_of_true ?_ ?_
        · simp [stripSlash, hLast]
        · rintro ⟨before, hBefore⟩
          have hEnd := congrArg List.getLast? hBefore
          simp at hEnd
          exact hLast hEnd.symm

end Trimming

section Schemes

variable {server : List Char}

/-- Trimming takes the pattern off at least once. -/
theorem trimStartMatches_length {pattern text : List Char} {fuel : Nat} (hFuel : 0 < fuel)
    (h : pattern <+: text) :
    (trimStartMatches pattern fuel text).length + pattern.length ≤ text.length := by
  obtain ⟨fuel, rfl⟩ := Nat.exists_eq_succ_of_ne_zero (Nat.pos_iff_ne_zero.mp hFuel)
  obtain ⟨rest, rfl⟩ := h
  have hRest := (trimStartMatches_suffix pattern fuel rest).length_le
  rw [trimStartMatches_append, List.length_append]
  omega

theorem not_https_of_http (rest : List Char) : ¬ https <+: http ++ rest := by
  simp [https, http]

/-- What `stripProtocol` takes off. -/
theorem stripProtocol_cases (server : List Char) :
    (∃ rest, server = https ++ rest ∧ stripProtocol server = rest) ∨
    (∃ rest, server = http ++ rest ∧ stripProtocol server = rest) ∨
    (¬ https <+: server ∧ ¬ http <+: server ∧ stripProtocol server = server) := by
  by_cases hSecure : https <+: server
  · obtain ⟨rest, rfl⟩ := hSecure
    exact .inl ⟨rest, rfl, rfl⟩
  · by_cases hPlain : http <+: server
    · obtain ⟨rest, rfl⟩ := hPlain
      exact .inr (.inl ⟨rest, rfl, rfl⟩)
    · exact .inr (.inr ⟨hSecure, hPlain, (if_neg hSecure).trans (if_neg hPlain)⟩)

/-- With one scheme at most, both ecosystems take off the same. -/
theorem trimSchemes_eq (hOne : ¬ http <+: stripProtocol server)
    (hTwice : https <+: server → ¬ https <+: stripProtocol server) :
    trimSchemes server = stripProtocol server := by
  unfold trimSchemes
  rcases stripProtocol_cases server with ⟨rest, rfl, hRest⟩ | ⟨rest, rfl, hRest⟩ |
    ⟨hSecure, -, hRest⟩
  · rw [hRest] at hOne hTwice ⊢
    have hNotTwice := hTwice (List.prefix_append ..)
    have hFirst : trimStartMatches https (https ++ rest).length (https ++ rest) = rest :=
      (trimStartMatches_append https rest _).trans (trimStartMatches_of_not hNotTwice)
    rw [hFirst, trimStartMatches_of_not hOne]
  · rw [hRest] at hOne ⊢
    rw [trimStartMatches_of_not (not_https_of_http rest)]
    exact (trimStartMatches_append http rest _).trans (trimStartMatches_of_not hOne)
  · rw [hRest] at hOne ⊢
    rw [trimStartMatches_of_not hSecure, trimStartMatches_of_not hOne]

/-- With a second scheme, Rust takes off more. -/
theorem trimSchemes_length
    (h : http <+: stripProtocol server ∨ https <+: server ∧ https <+: stripProtocol server) :
    (trimSchemes server).length + 7 ≤ (stripProtocol server).length := by
  unfold trimSchemes
  rcases stripProtocol_cases server with ⟨rest, rfl, hRest⟩ | ⟨rest, rfl, hRest⟩ |
    ⟨hSecure, hPlain, hRest⟩
  · rw [hRest] at h ⊢
    have hFirst : trimStartMatches https (https ++ rest).length (https ++ rest) =
        trimStartMatches https (rest.length + 7) rest := by
      rw [List.length_append, Nat.add_comm]
      exact trimStartMatches_append https rest _
    rw [hFirst]
    have hSecond := trimStartMatches_suffix http (https ++ rest).length
      (trimStartMatches https (rest.length + 7) rest)
    rcases h with hHttp | ⟨-, hHttps⟩
    · obtain ⟨more, rfl⟩ := hHttp
      rw [trimStartMatches_of_not (not_https_of_http more)]
      exact trimStartMatches_length (Nat.succ_pos _) (List.prefix_append ..)
    · have hFuel : 0 < rest.length + 7 := Nat.succ_pos _
      have hTwice := trimStartMatches_length hFuel hHttps
      have hLength := hSecond.length_le
      have hEight : https.length = 8 := rfl
      omega
  · rw [hRest] at h ⊢
    have hHttp : http <+: rest := h.elim id fun hHttps => absurd hHttps.1 (not_https_of_http rest)
    have hFirst : trimStartMatches http (http ++ rest).length (http ++ rest) =
        trimStartMatches http (rest.length + 6) rest := by
      rw [List.length_append, Nat.add_comm]
      exact trimStartMatches_append http rest _
    rw [trimStartMatches_of_not (not_https_of_http rest), hFirst]
    exact trimStartMatches_length (Nat.succ_pos _) hHttp
  · rw [hRest] at h
    exact absurd h (fun h => h.elim hPlain fun hHttps => hSecure hHttps.1)

end Schemes

section Agreement

variable {server : List Char} {username first second : String}

/-- The server in a key of Rust, and in one of JavaScript. -/
def rustServer (server : List Char) : List Char := (trimSchemes server).rdropWhile (· = '/')

/-- The server as the JavaScript side writes it into a key. -/
def jsServer (server : List Char) : List Char := stripSlash (stripProtocol server)

theorem rustServer_eq_jsServer_iff : rustServer server = jsServer server ↔ Plain server := by
  by_cases hSchemes : http <+: stripProtocol server ∨
      https <+: server ∧ https <+: stripProtocol server
  · apply iff_of_false
    · intro hSame
      have hRust : (rustServer server).length ≤ (trimSchemes server).length :=
        rdropWhile_length_le _
      have hJs := length_stripSlash (stripProtocol server)
      have hTrimmed := trimSchemes_length hSchemes
      have hLengths := congrArg List.length hSame
      rw [jsServer] at hLengths
      omega
    · intro hPlain
      exact hSchemes.elim hPlain.oneScheme fun h => hPlain.notTwice h.1 h.2
  · have hOne : ¬ http <+: stripProtocol server := fun h => hSchemes (.inl h)
    have hTwice : https <+: server → ¬ https <+: stripProtocol server :=
      fun hFirst hSecond => hSchemes (.inr ⟨hFirst, hSecond⟩)
    rw [rustServer, jsServer, trimSchemes_eq hOne hTwice, rdropWhile_eq_stripSlash_iff]
    exact ⟨fun hSlash => ⟨hSlash, hOne, hTwice⟩, Plain.oneSlash⟩

theorem Plain.rustServer (h : Plain server) : rustServer server = bareServer server := by
  rw [MatrixClient.rustServer, trimSchemes_eq h.oneScheme h.notTwice, bareServer]

theorem normalizeServer_eq (server : String) :
    normalizeServer server = String.ofList (rustServer server.toList) := by
  rw [normalizeServer, rustServer, trimSchemes, String.length_toList]
  rfl

/-- A key with the server in it, as both ecosystems write it. -/
def keyFor (username : String) (server : List Char) (field : String) : String :=
  "mxdx:" ++ username ++ "@" ++ String.ofList server ++ ":" ++ field

theorem keyFor_inj {server other : List Char} {field : String} :
    keyFor username server field = keyFor username other field ↔ server = other := by
  simp [keyFor, ← String.toList_inj]

theorem sessionKey_eq (username server : String) :
    sessionKey username server = keyFor username (rustServer server.toList) "session" := by
  rw [sessionKey, keychainEntry, normalizeServer_eq, keyFor]
  simp [← String.toList_inj]

theorem passwordKey_eq (username server : String) :
    passwordKey username server = keyFor username (rustServer server.toList) "password" := by
  rw [passwordKey, keychainEntry, normalizeServer_eq, keyFor]
  simp [← String.toList_inj]

theorem keychainKey_eq (username server field : String) :
    keychainKey username server field = keyFor username (jsServer server.toList) field := rfl

/-- The two ecosystems share the keys of a server exactly when it is plainly written; and
of two spellings exactly when both are, and come to the same text between the scheme and
the slashes at the end. -/
theorem keysShared_iff (username first second : String) :
    KeysShared username first second ↔
      Plain first.toList ∧ (SameServer first second →
        Plain second.toList ∧ bareServer second.toList = bareServer first.toList) := by
  constructor
  · intro h
    have hFirst : rustServer first.toList = jsServer first.toList := by
      have hSession := h.session
      rwa [sessionKey_eq, keychainKey_eq, keyFor_inj] at hSession
    have hPlain := rustServer_eq_jsServer_iff.mp hFirst
    refine ⟨hPlain, fun hSame => ?_⟩
    obtain ⟨hRust, -, hJs, -⟩ := h.alike hSame
    rw [sessionKey_eq, sessionKey_eq, keyFor_inj] at hRust
    rw [keychainKey_eq, keychainKey_eq, keyFor_inj] at hJs
    have hSecond : Plain second.toList := by
      rw [← rustServer_eq_jsServer_iff, ← hRust, ← hJs]
      exact hFirst
    exact ⟨hSecond, by rw [← hSecond.rustServer, ← hPlain.rustServer, hRust]⟩
  · rintro ⟨hPlain, hAlike⟩
    have hFirst := rustServer_eq_jsServer_iff.mpr hPlain
    refine ⟨?_, ?_, fun hSame => ?_⟩
    · rw [sessionKey_eq, keychainKey_eq, hFirst]
    · rw [passwordKey_eq, keychainKey_eq, hFirst]
    · obtain ⟨hSecond, hBare⟩ := hAlike hSame
      have hRust : rustServer first.toList = rustServer second.toList := by
        rw [hPlain.rustServer, hSecond.rustServer, hBare]
      have hJs : jsServer first.toList = jsServer second.toList := by
        rw [← hFirst, hRust, rustServer_eq_jsServer_iff.mpr hSecond]
      refine ⟨?_, ?_, ?_, ?_⟩
      · rw [sessionKey_eq, sessionKey_eq, hRust]
      · rw [passwordKey_eq, passwordKey_eq, hRust]
      · rw [keychainKey_eq, keychainKey_eq, hJs]
      · rw [keychainKey_eq, keychainKey_eq, hJs]

/-- Two slashes at the end, of which JavaScript keeps one. -/
theorem not_keysShared :
    ¬ ∀ username first second : String, KeysShared username first second := by
  intro h
  have hSession := (h "alice" "https://matrix.org//" "https://matrix.org//").session
  rw [sessionKey_eq, keychainKey_eq, keyFor_inj] at hSession
  exact absurd hSession (by decide)

end Agreement

end Mxdx.MatrixClient
