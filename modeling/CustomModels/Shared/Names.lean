import CustomModels.Shared.Assets

/-!
# Names and URLs

The logical names and the download URLs that an asset may have, as grammars: what the validators of
`assets.cpp` are for, apart from the searches that they make.
-/

namespace CustomModels.Shared

/-! ## Logical names -/

/-- `A-Z a-z 0-9 _ - .` -/
def SegmentByte (byte : UInt8) : Prop :=
  65 ≤ byte ∧ byte ≤ 90 ∨ 97 ≤ byte ∧ byte ≤ 122 ∨ 48 ≤ byte ∧ byte ≤ 57 ∨ byte = 95 ∨ byte = 45 ∨ byte = dot

/-- What stands between two separators: not empty, and neither the directory itself nor the one above it. -/
structure PathSegment (segment : ByteString) : Prop where
  nonempty : segment ≠ []
  bytes : ∀ byte ∈ segment, SegmentByte byte
  notCurrent : segment ≠ [dot]
  notParent : segment ≠ [dot, dot]

/-- One or more segments, joined by `/`. -/
def LogicalName (name : ByteString) : Prop :=
  1 ≤ name.length ∧ name.length ≤ 96 ∧ ∃ segments : List ByteString, segments ≠ [] ∧
    (∀ segment ∈ segments, PathSegment segment) ∧ name = List.intercalate [slash] segments

/-- The segments that `HasInvalidPathSegment` looks for. -/
def isInvalidSegment (segment : ByteString) : Bool :=
  segment.isEmpty || segment == [dot] || segment == [dot, dot]

/-! ## Download URLs -/

/-- `http` -/
def httpScheme : ByteString := [104, 116, 116, 112]
/-- `https` -/
def httpsScheme : ByteString := [104, 116, 116, 112, 115]

/-- One of the two, in any case. -/
def IsScheme (scheme : ByteString) : Prop := scheme.map toLower = httpScheme ∨ scheme.map toLower = httpsScheme

/-- The end of an authority: `/` or `?`. -/
def EndsAuthority (byte : UInt8) : Prop := byte = 47 ∨ byte = 63

/-- Printable ASCII without the backslash and `#`. -/
def UrlByte (byte : UInt8) : Prop := 0x21 ≤ byte ∧ byte ≤ 0x7E ∧ byte ≠ 92 ∧ byte ≠ 35

/-- `scheme "://" authority rest`. -/
structure UrlParts (url scheme authority rest : ByteString) : Prop where
  parts : url = scheme ++ schemeSeparator ++ authority ++ rest
  scheme : IsScheme scheme
  nonempty : authority ≠ []
  /-- 64 is `@`. -/
  credentials : 64 ∉ authority
  maximal : ∀ byte ∈ authority, ¬ EndsAuthority byte
  rest : ∀ byte ∈ rest.head?, EndsAuthority byte

def DownloadUrl (url : ByteString) : Prop :=
  url.length ≤ 2048 ∧ (∀ byte ∈ url, UrlByte byte) ∧
    ∃ scheme authority rest, UrlParts url scheme authority rest

end CustomModels.Shared
