import Mxdx.P2P.Transport.Verify
import Mxdx.Foundations.Lines
import Mxdx.Worker.Tmux

/-! The SDP fingerprints that the transcript binds: the least of the `sha-256`
fingerprints of an SDP, in capitals. -/
namespace Mxdx.P2P

open Worker (Text isWhitespace trim)

/-- How a line with a fingerprint begins. -/
def fingerprintTag : Text := "a=fingerprint:".toList

/-- `strip_prefix`. -/
def stripPrefix (start text : Text) : Option Text :=
  if start.isPrefixOf text then some (text.drop start.length) else none

def toAsciiUppercase (text : Text) : String := String.ofList (text.map Char.toUpper)

def eqIgnoreAsciiCase (first second : Text) : Bool :=
  first.map Char.toLower == second.map Char.toLower

/-- The candidate on one line: the hash function ends at the first white space. -/
def sdpCandidate (line : Text) : Option String :=
  match stripPrefix fingerprintTag (trim line) with
  | none => none
  | some rest =>
      let algo := rest.takeWhile (!isWhitespace ·)
      let fp := trim ((rest.dropWhile (!isWhitespace ·)).drop 1)
      if eqIgnoreAsciiCase algo "sha-256".toList ∧ fp ≠ [] then some (toAsciiUppercase fp)
      else none

/-- The order of `Vec<String>::sort`. -/
def strLe (s t : String) : Bool := (strCmp s t).isLE

/-- Of several fingerprints the first in Rust's order counts. -/
def extractSdpFingerprint (sdp : String) : Except VerifyError String :=
  match (((Lines.lines sdp.toList).filterMap sdpCandidate).mergeSort strLe).head? with
  | none => .error .missingSdpFingerprint
  | some fingerprint => .ok fingerprint

/-- Both descriptions need a fingerprint. -/
def canonicalSdpFingerprints (offerSdp answerSdp : String) :
    Except VerifyError (String × String) := do
  let offererFp ← extractSdpFingerprint offerSdp
  let answererFp ← extractSdpFingerprint answerSdp
  return (offererFp, answererFp)

end Mxdx.P2P
