import CommitLint.Envelope.Fault

/-!
# SSH envelopes

An SSH signature is a blob in Base64, either between two markers or after the name of an algorithm
and a colon.
-/

namespace CommitLint.Envelope

open Text

/-- The marker before an SSH signature. -/
def sshBegin : List Char := "-----BEGIN SSH SIGNATURE-----".toList

/-- The marker after an SSH signature. -/
def sshEnd : List Char := "-----END SSH SIGNATURE-----".toList

/-- The bytes that every blob between markers starts with. -/
def sshMagic : List UInt8 := encode "SSHSIG".toList

/-- The length of the smallest blob that can hold all fields of a signature. -/
def minBlobLength : Nat := 50

/-- What the name of an algorithm may start with. -/
def algorithmStarts : List (List Char) := ["ssh-".toList, "ecdsa-".toList, "sk-".toList]

/-- Whether a text names an algorithm. -/
def isAlgorithm (name : List Char) : Bool :=
  algorithmStarts.any (startsWith · name) && 4 < byteLength name && !name.any isBlank

/-- Whether a text is an algorithm and a blob, with a colon between them. -/
def isShorthand (text : List Char) : Bool :=
  match cutAt ':' (trim text) with
  | none => false
  | some (algorithm, blob) => isAlgorithm algorithm && !blob.isEmpty

/-- The bytes of a Base64 text, or the fault of an envelope around it. -/
def decodeBlob (symbols : List Char) : Except Fault (List UInt8) :=
  (Base64.decode (encode symbols)).mapError fun fault => .badBlob (.notBase64 fault)

/-- Check the blob that stands between markers; blanks within it do not count. -/
def checkBetween (between : List Char) : Except Fault Unit := do
  let symbols := between.filter (!isBlank ·)
  if symbols.isEmpty then .error (.badBlob .nothingBetweenMarkers)
  else
    let blob ← decodeBlob symbols
    if (sshMagic.isPrefixOf blob) = false then .error .missingMagic
    else if blob.length < minBlobLength then .error (.tooShort blob.length)
    else .ok ()

/-- Check the first blob between markers. -/
def checkArmoredSsh (text : List Char) : Except Fault Unit :=
  match cutAtText sshBegin text with
  | none => .error .unknownFormat
  | some (_, after) =>
    match cutAtText sshEnd after with
    | none => .error .missingEnd
    | some (between, _) => checkBetween between

/-- Check the blob after an algorithm. -/
def checkShorthand (text : List Char) : Except Fault Unit :=
  match cutAt ':' (trim text) with
  | none => .error .unknownFormat
  | some (_, symbols) => do
    let blob ← decodeBlob (trim symbols)
    if blob.isEmpty then .error (.badBlob .emptyBlob)
    else if blob.length < minBlobLength then .error (.tooShort blob.length)
    else .ok ()

end CommitLint.Envelope
