/-!
# UTF-8

Texts as bytes and bytes as texts. `encode` writes each character as its one to four bytes.
`decode` reads bytes back: a well-formed sequence gives its character, and every maximal ill-formed
part gives one gap.

Readers of a whole text take it `strict` (no gap allowed) or `lossy` (each gap becomes U+FFFD).
-/

namespace LinkedQueries.Utf8

/-- The bytes of a text. -/
def encode (cs : List Char) : List UInt8 :=
  cs.flatMap String.utf8EncodeChar

/-- A continuation byte carries six bits behind the mark `10`. -/
def isContinuation (b : UInt8) : Bool :=
  0x80 ≤ b && b ≤ 0xBF

/-- The bits that a continuation byte carries. -/
def payload (b : UInt8) : Nat :=
  b.toNat - 0x80

/-- The second bytes that may follow a leading byte: overlong forms, surrogates and values beyond
U+10FFFF are cut off here. -/
def isSecond (lead b : UInt8) : Bool :=
  if lead == 0xE0 then 0xA0 ≤ b && b ≤ 0xBF
  else if lead == 0xED then 0x80 ≤ b && b ≤ 0x9F
  else if lead == 0xF0 then 0x90 ≤ b && b ≤ 0xBF
  else if lead == 0xF4 then 0x80 ≤ b && b ≤ 0x8F
  else isContinuation b

/-- One step: the character that the bytes begin with, or a gap for the maximal part that begins no
character, and how many bytes it takes beyond the first. -/
def step (lead : UInt8) (rest : List UInt8) : Option Char × Nat :=
  if lead < 0x80 then (some (Char.ofNat lead.toNat), 0)
  else if 0xC2 ≤ lead && lead ≤ 0xDF then
    match rest with
    | b :: _ =>
      if isContinuation b then
        (some (Char.ofNat ((lead.toNat - 0xC0) * 0x40 + payload b)), 1)
      else (none, 0)
    | [] => (none, 0)
  else if 0xE0 ≤ lead && lead ≤ 0xEF then
    match rest with
    | b :: more =>
      if isSecond lead b then
        match more with
        | c :: _ =>
          if isContinuation c then
            (some (Char.ofNat ((lead.toNat - 0xE0) * 0x1000 + payload b * 0x40 + payload c)), 2)
          else (none, 1)
        | [] => (none, 1)
      else (none, 0)
    | [] => (none, 0)
  else if 0xF0 ≤ lead && lead ≤ 0xF4 then
    match rest with
    | b :: more =>
      if isSecond lead b then
        match more with
        | c :: more =>
          if isContinuation c then
            match more with
            | d :: _ =>
              if isContinuation d then
                (some (Char.ofNat ((lead.toNat - 0xF0) * 0x40000 + payload b * 0x1000 +
                  payload c * 0x40 + payload d)), 3)
              else (none, 2)
            | [] => (none, 2)
          else (none, 1)
        | [] => (none, 1)
      else (none, 0)
    | [] => (none, 0)
  else (none, 0)

/-- The characters of some bytes, with a gap for every maximal ill-formed part. -/
def decode : List UInt8 → List (Option Char)
  | [] => []
  | b :: rest => (step b rest).1 :: decode (rest.drop (step b rest).2)
termination_by bytes => bytes.length
decreasing_by simp only [List.length_drop, List.length_cons]; omega

/-- The text, if the bytes are well-formed throughout. -/
def strict? (bytes : List UInt8) : Option (List Char) :=
  (decode bytes).mapM id

/-- The text with U+FFFD in each gap. -/
def lossy (bytes : List UInt8) : List Char :=
  (decode bytes).map fun c => c.getD '\uFFFD'

end LinkedQueries.Utf8
